import AnneDeBreuil.IpDisplay

namespace AnneDeBreuil

/-- Digits of a radix, and the number they are, the highest first. -/
structure Numeral (radix : Nat) (cs : List Char) (n : Nat) : Prop where
  nonempty : cs ≠ []
  value : ∃ ds, cs.mapM (toDigit radix) = some ds ∧ n = ds.foldl (fun acc d => acc * radix + d) 0

/-- The same, with at most one plus sign in front. -/
def PlusNumeral (radix : Nat) (cs : List Char) (n : Nat) : Prop :=
  Numeral radix cs n ∨ ∃ digits, cs = '+' :: digits ∧ Numeral radix digits n

/-- `from_str_radix` of an unsigned type, whose values are below the limit. -/
def fromStrRadix (radix limit : Nat) (cs : List Char) : Option Nat :=
  let digits := match cs with
    | '+' :: rest => rest
    | _ => cs
  if digits.isEmpty then none
  else
    (digits.mapM (toDigit radix)).bind fun ds =>
      let value := ds.foldl (fun acc d => acc * radix + d) 0
      if value < limit then some value else none

def upperHexDigit (d : Nat) : Char := (Nat.digitChar d).toUpper

/-- A number with so many hexadecimal digits, as `%0*X` prints it. -/
def hexDigits (width n : Nat) : List Char := (beDigits 16 width n).map upperHexDigit

section

variable {radix limit n : Nat} {cs : List Char}

theorem toDigit_plus (radix : Nat) : toDigit radix '+' = none := by simp [toDigit]

theorem toDigit_lt {c : Char} {d : Nat} (h : toDigit radix c = some d) : d < radix := by
  simp only [toDigit, Option.ite_none_right_eq_some, Option.some.injEq] at h
  obtain ⟨hlt, rfl⟩ := h
  exact hlt

theorem digits_radix_iff :
    (if cs.isEmpty then none
      else
        (cs.mapM (toDigit radix)).bind fun ds =>
          let value := ds.foldl (fun acc d => acc * radix + d) 0
          if value < limit then some value else none) = some n ↔ Numeral radix cs n ∧ n < limit := by
  constructor
  · intro h
    split at h
    next => cases h
    next hne =>
      obtain ⟨ds, hds, h⟩ := Option.bind_eq_some_iff.mp h
      dsimp only at h
      split at h
      next hlt =>
        cases h
        exact ⟨⟨by simpa using hne, ds, hds, rfl⟩, hlt⟩
      next => cases h
  · rintro ⟨⟨hne, ds, hds, rfl⟩, hlt⟩
    rw [if_neg (by simpa using hne), hds, Option.bind_some, if_pos hlt]

theorem fromStrRadix_iff : fromStrRadix radix limit cs = some n ↔ PlusNumeral radix cs n ∧ n < limit := by
  unfold fromStrRadix PlusNumeral
  split
  next rest =>
    rw [digits_radix_iff]
    have noPlus : ¬Numeral radix ('+' :: rest) n := by
      rintro ⟨-, ds, hds, -⟩
      simp [List.mapM_cons, toDigit_plus] at hds
    simp [noPlus]
  next hplus =>
    rw [digits_radix_iff]
    have noSign : ¬∃ digits, cs = '+' :: digits ∧ Numeral radix digits n := by
      rintro ⟨digits, rfl, -⟩
      exact hplus digits rfl
    simp [noSign]

theorem toDigit_upperHexDigit : ∀ d < 16, toDigit 16 (upperHexDigit d) = some d := by decide

theorem numeral_hexDigits {width : Nat} (hwidth : 0 < width) (h : n < 16 ^ width) : Numeral 16 (hexDigits width n) n := by
  refine ⟨?_, beDigits 16 width n, ?_, by rw [foldl_beDigits, Nat.mod_eq_of_lt h]⟩
  · rw [← List.length_pos_iff, hexDigits, List.length_map, beDigits_length]
    exact hwidth
  · have small := beDigits_lt (show 0 < 16 by decide) width n
    unfold hexDigits
    generalize beDigits 16 width n = ds at small
    induction ds with
    | nil => rfl
    | cons d ds ih =>
      rw [List.forall_mem_cons] at small
      simp [toDigit_upperHexDigit d small.1, ih small.2]

theorem Numeral.lt (h : Numeral radix cs n) : n < radix ^ cs.length := by
  obtain ⟨-, ds, hds, rfl⟩ := h
  have bound : ∀ acc, ds.foldl (fun acc d => acc * radix + d) acc < (acc + 1) * radix ^ cs.length := by
    induction cs generalizing ds with
    | nil =>
      cases hds
      exact fun acc => by simp
    | cons c cs ih =>
      simp only [List.mapM_cons, Option.bind_eq_bind, Option.bind_eq_some_iff, Option.pure_def, Option.some.injEq] at hds
      obtain ⟨d, hd, rest, hrest, rfl⟩ := hds
      intro acc
      have small := toDigit_lt hd
      calc rest.foldl (fun acc d => acc * radix + d) (acc * radix + d)
          < (acc * radix + d + 1) * radix ^ cs.length := ih rest hrest _
        _ ≤ ((acc + 1) * radix) * radix ^ cs.length := by
          apply Nat.mul_le_mul_right
          rw [Nat.add_mul, Nat.one_mul]
          omega
        _ = (acc + 1) * radix ^ (c :: cs).length := by
          rw [List.length_cons, Nat.pow_succ, Nat.mul_assoc, Nat.mul_comm radix]
  simpa using bound 0

theorem PlusNumeral.lt (hradix : 0 < radix) (h : PlusNumeral radix cs n) : n < radix ^ cs.length := by
  rcases h with h | ⟨digits, rfl, h⟩
  · exact h.lt
  · exact h.lt.trans_le (Nat.pow_le_pow_right hradix (by simp))

theorem PlusNumeral.mem (h : PlusNumeral radix cs n) : ∀ c ∈ cs, c = '+' ∨ toDigit radix c ≠ none := by
  have digits : ∀ {cs : List Char}, Numeral radix cs n → ∀ c ∈ cs, toDigit radix c ≠ none := by
    rintro cs ⟨-, ds, hds, -⟩ c hc
    induction cs generalizing ds with
    | nil => cases hc
    | cons d cs ih =>
      simp only [List.mapM_cons, Option.bind_eq_bind, Option.bind_eq_some_iff] at hds
      obtain ⟨value, hd, rest, hrest, -⟩ := hds
      rcases List.mem_cons.mp hc with rfl | hc
      · simp [hd]
      · exact ih rest hrest hc
  rcases h with h | ⟨own, rfl, h⟩
  · exact fun c hc => .inr (digits h c hc)
  · intro c hc
    rcases List.mem_cons.mp hc with rfl | hc
    · exact .inl rfl
    · exact .inr (digits h c hc)

end

end AnneDeBreuil
