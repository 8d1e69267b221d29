import AnneDeBreuil.DigitOrder
import AnneDeBreuil.FirewallMapping
import Mathlib.Data.String.Basic

namespace AnneDeBreuil

def hexDigit (n : Nat) : Char := "0123456789abcdef".toList.getD n '0'

def hexGroup (low width : Nat) : List (Option Nat) := (List.range' low width).reverse.map some

/-- The hyphenated form, place by place: the weight of a digit, or a hyphen. -/
def hyphenatedLayout : List (Option Nat) :=
  hexGroup 24 8 ++ none :: hexGroup 20 4 ++ none :: hexGroup 16 4 ++ none :: hexGroup 12 4 ++ none :: hexGroup 0 12

def hyphenatedChar (uuid : Uuid) : Option Nat → Char
  | none => '-'
  | some i => hexDigit (digit 16 uuid.toNat i)

/-- `Display` of a UUID: lower case, hyphenated. -/
def uuidText (uuid : Uuid) : String := String.ofList (hyphenatedLayout.map (hyphenatedChar uuid))

/-- `ScanId::from_str`. -/
def ScanId.fromStr (crates : IdCrates) (s : String) : Option ScanId :=
  (crates.uuidParseStr (trim s)).map .mk

example : uuidText 0x123e4567e89b12d3a456426614174000 = "123e4567-e89b-12d3-a456-426614174000" := by decide

theorem hexDigit_strictMono {m n : Nat} (hn : n < 16) (h : m < n) : hexDigit m < hexDigit n := by
  have table : ∀ n : Fin 16, ∀ m : Fin n, hexDigit m < hexDigit n := by decide
  exact table ⟨n, hn⟩ ⟨m, h⟩

theorem hexDigit_visible {n : Nat} (hn : n < 16) : isWhitespace (hexDigit n).toLower = false := by
  have table : ∀ n : Fin 16, isWhitespace (hexDigit n).toLower = false := by decide
  exact table ⟨n, hn⟩

theorem hyphenatedLayout_descending :
    hyphenatedLayout.Pairwise (fun a b => ∀ i ∈ a, ∀ j ∈ b, j < i) := by decide

theorem mem_hyphenatedLayout {i : Nat} (hi : i < 32) : some i ∈ hyphenatedLayout := by
  have table : ∀ i : Fin 32, some i.val ∈ hyphenatedLayout := by decide
  exact table ⟨i, hi⟩

/-- A greater UUID has a greater text: the layout puts the high digits first. -/
theorem uuidText_lt {a b : Uuid} (hab : a.toNat < b.toNat) : uuidText a < uuidText b := by
  have hb : b.toNat < 16 ^ 32 := b.isLt
  obtain ⟨i, higher, less⟩ := exists_digit_lt (b := 16) (by decide) hab
  have hi : i < 32 := by
    by_contra far
    rw [digit_eq_zero (by decide) hb (by omega)] at less
    omega
  obtain ⟨before, after, hlayout⟩ := List.append_of_mem (mem_hyphenatedLayout hi)
  have descending := hyphenatedLayout_descending
  rw [hlayout, List.pairwise_append] at descending
  have shared : ∀ place ∈ before, hyphenatedChar a place = hyphenatedChar b place := by
    intro place hplace
    cases place with
    | none => rfl
    | some j =>
      have hj : i < j := descending.2.2 (some j) hplace (some i) (by simp) j rfl i rfl
      rw [hyphenatedChar, hyphenatedChar, higher j hj]
  have first : hyphenatedChar a (some i) < hyphenatedChar b (some i) :=
    hexDigit_strictMono (Nat.mod_lt _ (by decide)) less
  have lists := map_lt_map_of_prefix after shared first
  rw [← hlayout] at lists
  rw [String.lt_iff_toList_lt, uuidText, uuidText, String.toList_ofList, String.toList_ofList]
  exact lists

theorem uuidText_injective {a b : Uuid} (h : uuidText a = uuidText b) : a = b := by
  rcases Nat.lt_trichotomy a.toNat b.toNat with hab | hab | hab
  · exact absurd h (uuidText_lt hab).ne
  · exact BitVec.eq_of_toNat_eq hab
  · exact absurd h (uuidText_lt hab).ne'

theorem scanIdText_inj {a b : ScanId} : uuidText a.uuid = uuidText b.uuid ↔ a = b :=
  ⟨fun h => congrArg ScanId.mk (uuidText_injective h), fun h => by rw [h]⟩

theorem hostIdText_inj {a b : HostId} : uuidText a.uuid = uuidText b.uuid ↔ a = b :=
  ⟨fun h => congrArg HostId.mk (uuidText_injective h), fun h => by rw [h]⟩

theorem keyText_inj {a b : IdempotencyKey} : uuidText a.uuid = uuidText b.uuid ↔ a = b :=
  ⟨fun h => congrArg IdempotencyKey.mk (uuidText_injective h), fun h => by rw [h]⟩

theorem uuidText_le_iff {a b : Uuid} : uuidText a ≤ uuidText b ↔ a.toNat ≤ b.toNat := by
  rw [← not_lt, ← not_lt]
  refine not_congr ⟨fun h => ?_, uuidText_lt⟩
  by_contra hle
  rcases Nat.lt_or_eq_of_le (not_lt.mp hle) with hab | hab
  · exact absurd h (uuidText_lt hab).not_gt
  · rw [BitVec.eq_of_toNat_eq hab] at h
    exact absurd h (lt_irrefl _)

theorem trim_uuidText (uuid : Uuid) : trim (uuidText uuid) = uuidText uuid := by
  refine trim_of_lower_visible fun c hc => ?_
  obtain ⟨d, hd, rfl⟩ := List.mem_map.mp hc
  rw [uuidText, String.toList_ofList] at hd
  obtain ⟨place, -, rfl⟩ := List.mem_map.mp hd
  cases place with
  | none => rfl
  | some i => exact hexDigit_visible (Nat.mod_lt _ (by decide))

end AnneDeBreuil
