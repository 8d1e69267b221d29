import Mathlib.Data.List.Lex
import Mathlib.Data.Nat.Find
import Mathlib.Algebra.Group.Nat.Defs

namespace AnneDeBreuil

/-- The digit of weight `b ^ i`. -/
def digit (b x i : Nat) : Nat := x / b ^ i % b

theorem div_pow_of_le {b x y i j : Nat} (h : x / b ^ i = y / b ^ i) (hij : i ≤ j) :
    x / b ^ j = y / b ^ j := by
  have hj : b ^ j = b ^ i * b ^ (j - i) := by rw [← Nat.pow_add, Nat.add_sub_cancel' hij]
  rw [hj, ← Nat.div_div_eq_div_mul, ← Nat.div_div_eq_div_mul, h]

/-- Two numbers in order differ at some digit, the higher ones being equal. -/
theorem exists_digit_lt {b x y : Nat} (hb : 1 < b) (h : x < y) :
    ∃ i, (∀ j, i < j → digit b x j = digit b y j) ∧ digit b x i < digit b y i := by
  have far : ∃ i, x / b ^ (i + 1) = y / b ^ (i + 1) := by
    have hy : y < b ^ (y + 1) := (Nat.lt_pow_self hb).trans (Nat.pow_lt_pow_right hb (by omega))
    exact ⟨y, by rw [Nat.div_eq_of_lt (h.trans hy), Nat.div_eq_of_lt hy]⟩
  have agree := Nat.find_spec far
  have least : ∀ k, k < Nat.find far → x / b ^ (k + 1) ≠ y / b ^ (k + 1) := fun k hk => Nat.find_min far hk
  generalize Nat.find far = i at agree least
  refine ⟨i, fun j hj => ?_, ?_⟩
  · rw [digit, digit, div_pow_of_le agree hj]
  · have differ : x / b ^ i ≠ y / b ^ i := by
      cases i with
      | zero =>
        have hne : x ≠ y := by omega
        simpa using hne
      | succ k => exact least k (by omega)
    have hle : x / b ^ i ≤ y / b ^ i := Nat.div_le_div_right (by omega)
    have hquot : x / b ^ i / b = y / b ^ i / b := by
      rw [Nat.div_div_eq_div_mul, Nat.div_div_eq_div_mul, ← Nat.pow_succ, agree]
    have hx := Nat.div_add_mod (x / b ^ i) b
    have hy := Nat.div_add_mod (y / b ^ i) b
    rw [hquot] at hx
    unfold digit
    omega

theorem digit_eq_zero {b n x i : Nat} (hb : 0 < b) (hx : x < b ^ n) (hi : n ≤ i) : digit b x i = 0 := by
  have hle : b ^ n ≤ b ^ i := Nat.pow_le_pow_right hb hi
  rw [digit, Nat.div_eq_of_lt (by omega), Nat.zero_mod]

/-- Lists written from one layout compare at the first place they differ. -/
theorem map_lt_map_of_prefix {ι κ : Type} [LT κ] {f g : ι → κ} {before : List ι} {a : ι} (after : List ι)
    (hbefore : ∀ c ∈ before, f c = g c) (ha : f a < g a) :
    (before ++ a :: after).map f < (before ++ a :: after).map g := by
  induction before with
  | nil => exact List.Lex.rel ha
  | cons c before ih =>
    have hc := hbefore c (by simp)
    have rest := ih (fun d hd => hbefore d (by simp [hd]))
    simp only [List.cons_append, List.map_cons, hc]
    exact List.Lex.cons rest

end AnneDeBreuil
