import Mathlib.Data.Nat.Digits.Defs

namespace AnneDeBreuil

/-- The number that bytes stand for, the lowest byte first. -/
def ofLeBytes (bytes : List UInt8) : Nat := Nat.ofDigits 256 (bytes.map UInt8.toNat)

def ofBeBytes (bytes : List UInt8) : Nat := ofLeBytes bytes.reverse

/-- The low bytes of a number, the lowest first. -/
def toLeBytes : Nat → Nat → List UInt8
  | 0, _ => []
  | width + 1, n => UInt8.ofNat n :: toLeBytes width (n / 256)

def toBeBytes (width n : Nat) : List UInt8 := (toLeBytes width n).reverse

@[simp] theorem toLeBytes_length (width n : Nat) : (toLeBytes width n).length = width := by
  induction width generalizing n with
  | zero => rfl
  | succ width ih => simp [toLeBytes, ih]

@[simp] theorem toBeBytes_length (width n : Nat) : (toBeBytes width n).length = width := by
  rw [toBeBytes, List.length_reverse, toLeBytes_length]

theorem ofLeBytes_lt (bytes : List UInt8) : ofLeBytes bytes < 256 ^ bytes.length := by
  have digits : ∀ d ∈ bytes.map UInt8.toNat, d < 256 := by
    intro d hd
    obtain ⟨byte, -, rfl⟩ := List.mem_map.mp hd
    exact byte.toNat_lt
  simpa [ofLeBytes] using Nat.ofDigits_lt_base_pow_length (by decide) digits

theorem ofLeBytes_toLeBytes {width n : Nat} (h : n < 256 ^ width) : ofLeBytes (toLeBytes width n) = n := by
  induction width generalizing n with
  | zero =>
    have hn : n = 0 := by simpa using h
    rw [hn]
    rfl
  | succ width ih =>
    have rest := ih (Nat.div_lt_of_lt_mul (by rwa [pow_succ, Nat.mul_comm] at h))
    unfold ofLeBytes at rest ⊢
    rw [toLeBytes, List.map_cons, Nat.ofDigits_cons, rest, UInt8.toNat_ofNat']
    omega

theorem toLeBytes_ofLeBytes (bytes : List UInt8) : toLeBytes bytes.length (ofLeBytes bytes) = bytes := by
  induction bytes with
  | nil => rfl
  | cons byte bytes ih =>
    have low := byte.toNat_lt
    have whole : ofLeBytes (byte :: bytes) = byte.toNat + 256 * ofLeBytes bytes := by
      rw [ofLeBytes, List.map_cons, Nat.ofDigits_cons]
      rfl
    have high : ofLeBytes (byte :: bytes) / 256 = ofLeBytes bytes := by omega
    have own : UInt8.ofNat (ofLeBytes (byte :: bytes)) = byte := by
      rw [← UInt8.toNat_inj, UInt8.toNat_ofNat']
      omega
    rw [List.length_cons, toLeBytes, high, ih, own]

theorem ofBeBytes_toBeBytes {width n : Nat} (h : n < 256 ^ width) : ofBeBytes (toBeBytes width n) = n := by
  rw [ofBeBytes, toBeBytes, List.reverse_reverse, ofLeBytes_toLeBytes h]

end AnneDeBreuil
