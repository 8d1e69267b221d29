import AnneDeBreuil.Utf8Boundary
import Mathlib.Algebra.Group.Nat.Defs
import Mathlib.Data.List.Forall2

namespace AnneDeBreuil

/-- The ranges of the bytes behind a lead byte, unless it is none. -/
def continuations (lead : UInt8) : Option (List (UInt8 × UInt8)) :=
  if lead < 0x80 then some []
  else if lead < 0xC2 then none
  else if lead < 0xE0 then some [(0x80, 0xBF)]
  else if lead = 0xE0 then some [(0xA0, 0xBF), (0x80, 0xBF)]
  else if lead = 0xED then some [(0x80, 0x9F), (0x80, 0xBF)]
  else if lead < 0xF0 then some [(0x80, 0xBF), (0x80, 0xBF)]
  else if lead = 0xF0 then some [(0x90, 0xBF), (0x80, 0xBF), (0x80, 0xBF)]
  else if lead < 0xF4 then some [(0x80, 0xBF), (0x80, 0xBF), (0x80, 0xBF)]
  else if lead = 0xF4 then some [(0x80, 0x8F), (0x80, 0xBF), (0x80, 0xBF)]
  else none

/-- The bits of a character read so far, and the ranges of the bytes still missing. -/
abbrev LossyPending := Nat × List (UInt8 × UInt8)

def replacement : Char := Char.ofNat 0xFFFD

def lossyStart (b : UInt8) : List Char × Option LossyPending :=
  match continuations b with
  | none => ([replacement], none)
  | some [] => ([Char.ofNat b.toNat], none)
  | some wanted => ([], some (b.toNat % 2 ^ (6 - wanted.length), wanted))

/-- `String::from_utf8_lossy`, a byte at a time: the longest part of a character
that breaks off is replaced as a whole. -/
def fromUtf8Lossy (pending : Option LossyPending) : Utf8 → List Char
  | [] => if pending.isSome then [replacement] else []
  | b :: bs =>
    match pending with
    | some (value, (low, high) :: wanted) =>
      if low ≤ b ∧ b ≤ high then
        let value := value * 64 + b.toNat % 64
        if wanted = [] then Char.ofNat value :: fromUtf8Lossy none bs else fromUtf8Lossy (some (value, wanted)) bs
      else replacement :: (lossyStart b).1 ++ fromUtf8Lossy (lossyStart b).2 bs
    | _ => (lossyStart b).1 ++ fromUtf8Lossy (lossyStart b).2 bs

example : fromUtf8Lossy none [0x68, 0xFF, 0xE2, 0x82, 0xC3, 0xA9, 0xE2] =
    ['h', replacement, replacement, Char.ofNat 0xE9, replacement] := by
  decide

theorem continuations_ofNat {n : Nat} (h : n < 256) : continuations (.ofNat n) =
    if n < 0x80 then some []
    else if n < 0xC2 then none
    else if n < 0xE0 then some [(0x80, 0xBF)]
    else if n = 0xE0 then some [(0xA0, 0xBF), (0x80, 0xBF)]
    else if n = 0xED then some [(0x80, 0x9F), (0x80, 0xBF)]
    else if n < 0xF0 then some [(0x80, 0xBF), (0x80, 0xBF)]
    else if n = 0xF0 then some [(0x90, 0xBF), (0x80, 0xBF), (0x80, 0xBF)]
    else if n < 0xF4 then some [(0x80, 0xBF), (0x80, 0xBF), (0x80, 0xBF)]
    else if n = 0xF4 then some [(0x80, 0x8F), (0x80, 0xBF), (0x80, 0xBF)]
    else none := by
  have value : (UInt8.ofNat n).toNat = n := by rw [UInt8.toNat_ofNat', Nat.mod_eq_of_lt h]
  simp only [continuations, UInt8.lt_iff_toNat_lt, ← UInt8.toNat_inj, value]
  rfl

/-- The byte is in the range. -/
def InRange (b : UInt8) (range : UInt8 × UInt8) : Prop := range.1 ≤ b ∧ b ≤ range.2

theorem inRange_ofNat {n : Nat} {range : UInt8 × UInt8} (h : n < 256) :
    InRange (.ofNat n) range ↔ range.1.toNat ≤ n ∧ n ≤ range.2.toNat := by
  have value : (UInt8.ofNat n).toNat = n := by rw [UInt8.toNat_ofNat', Nat.mod_eq_of_lt h]
  rw [InRange, UInt8.le_iff_toNat_le, UInt8.le_iff_toNat_le, value]

/-- The bits that a byte within a character adds. -/
def addBits (value : Nat) (b : UInt8) : Nat := value * 64 + b.toNat % 64

theorem addBits_ofNat {value n : Nat} (h : n < 64) : addBits value (.ofNat (n + 0x80)) = value * 64 + n := by
  have small : n + 0x80 < 2 ^ 8 := by omega
  rw [addBits, UInt8.toNat_ofNat', Nat.mod_eq_of_lt small]
  omega

/-- How a character of more than one byte is read: by ranges for its later bytes, all of
which they are in, and by its bits. -/
structure LossySpelling (c : Char) (lead : UInt8) (rest : Utf8) (value : Nat) (wanted : List (UInt8 × UInt8)) : Prop where
  encoded : String.utf8EncodeChar c = lead :: rest
  more : rest ≠ []
  start : lossyStart lead = ([], some (value, wanted))
  within : List.Forall₂ InRange rest wanted
  bits : Char.ofNat (rest.foldl addBits value) = c

theorem lossyStart_ofNat {n : Nat} {range : UInt8 × UInt8} {wanted : List (UInt8 × UInt8)} (h : n < 256)
    (ranges : continuations (.ofNat n) = some (range :: wanted)) :
    lossyStart (.ofNat n) = ([], some (n % 2 ^ (5 - wanted.length), range :: wanted)) := by
  have width : 6 - (range :: wanted).length = 5 - wanted.length := by
    rw [List.length_cons]
    omega
  rw [lossyStart, ranges]
  simp only [width, UInt8.toNat_ofNat', Nat.mod_eq_of_lt h]

theorem lossySpelling (c : Char) : (∃ b, String.utf8EncodeChar c = [b] ∧ lossyStart b = ([c], none)) ∨
    ∃ lead rest value wanted, LossySpelling c lead rest value wanted := by
  have number : Char.ofNat c.toNat = c := Char.ofNat_toNat c
  have inside : ∀ {n : Nat}, n < 64 → InRange (.ofNat (n + 0x80)) (0x80, 0xBF) := by
    intro n hn
    rw [inRange_ofNat (by omega)]
    exact ⟨Nat.le_add_left _ _, by show n + 0x80 ≤ 0xBF; omega⟩
  have bytes := utf8Bytes_encodeChar c
  generalize hencoded : String.utf8EncodeChar c = encoded at bytes
  cases bytes with
  | one bound =>
    refine .inl ⟨_, rfl, ?_⟩
    rw [lossyStart, continuations_ofNat (by omega), if_pos bound]
    simp only [UInt8.toNat_ofNat', Nat.mod_eq_of_lt (show c.toNat < 256 by omega), number]
  | two low high =>
    have ranges : continuations (.ofNat (c.toNat / 64 + 0xC0)) = some [(0x80, 0xBF)] := by
      rw [continuations_ofNat (by omega), if_neg (by omega), if_neg (by omega), if_pos (by omega)]
    refine .inr ⟨_, _, _, _, hencoded, List.cons_ne_nil _ _, lossyStart_ofNat (by omega) ranges,
      .cons (inside (by omega)) .nil, ?_⟩
    rw [List.foldl_cons, List.foldl_nil, addBits_ofNat (by omega)]
    refine Eq.trans (congrArg Char.ofNat ?_) number
    simp only [List.length_nil]
    omega
  | three low high apart =>
    obtain ⟨range, ranges, first⟩ : ∃ range, continuations (.ofNat (c.toNat / 4096 + 0xE0)) = some [range, (0x80, 0xBF)] ∧
        InRange (.ofNat (c.toNat / 64 % 64 + 0x80)) range := by
      simp only [inRange_ofNat (show c.toNat / 64 % 64 + 0x80 < 256 by omega)]
      rw [continuations_ofNat (by omega), if_neg (by omega), if_neg (by omega), if_neg (by omega)]
      by_cases shortest : c.toNat / 4096 + 0xE0 = 0xE0
      · rw [if_pos shortest]
        exact ⟨_, rfl, by show 0xA0 ≤ _; omega, by show _ ≤ 0xBF; omega⟩
      rw [if_neg shortest]
      by_cases surrogates : c.toNat / 4096 + 0xE0 = 0xED
      · rw [if_pos surrogates]
        exact ⟨_, rfl, by show 0x80 ≤ _; omega, by show _ ≤ 0x9F; omega⟩
      rw [if_neg surrogates, if_pos (by omega)]
      exact ⟨_, rfl, by show 0x80 ≤ _; omega, by show _ ≤ 0xBF; omega⟩
    refine .inr ⟨_, _, _, _, hencoded, List.cons_ne_nil _ _, lossyStart_ofNat (by omega) ranges,
      .cons first (.cons (inside (by omega)) .nil), ?_⟩
    rw [List.foldl_cons, List.foldl_cons, List.foldl_nil, addBits_ofNat (by omega), addBits_ofNat (by omega)]
    refine Eq.trans (congrArg Char.ofNat ?_) number
    simp only [List.length_cons, List.length_nil]
    omega
  | four low high =>
    obtain ⟨range, ranges, first⟩ : ∃ range, continuations (.ofNat (c.toNat / 262144 + 0xF0)) =
        some [range, (0x80, 0xBF), (0x80, 0xBF)] ∧ InRange (.ofNat (c.toNat / 4096 % 64 + 0x80)) range := by
      simp only [inRange_ofNat (show c.toNat / 4096 % 64 + 0x80 < 256 by omega)]
      rw [continuations_ofNat (by omega), if_neg (by omega), if_neg (by omega), if_neg (by omega), if_neg (by omega),
        if_neg (by omega), if_neg (by omega)]
      by_cases shortest : c.toNat / 262144 + 0xF0 = 0xF0
      · rw [if_pos shortest]
        exact ⟨_, rfl, by show 0x90 ≤ _; omega, by show _ ≤ 0xBF; omega⟩
      rw [if_neg shortest]
      by_cases longest : c.toNat / 262144 + 0xF0 < 0xF4
      · rw [if_pos longest]
        exact ⟨_, rfl, by show 0x80 ≤ _; omega, by show _ ≤ 0xBF; omega⟩
      rw [if_neg longest, if_pos (by omega)]
      exact ⟨_, rfl, by show 0x80 ≤ _; omega, by show _ ≤ 0x8F; omega⟩
    refine .inr ⟨_, _, _, _, hencoded, List.cons_ne_nil _ _, lossyStart_ofNat (by omega) ranges,
      .cons first (.cons (inside (by omega)) (.cons (inside (by omega)) .nil)), ?_⟩
    rw [List.foldl_cons, List.foldl_cons, List.foldl_cons, List.foldl_nil, addBits_ofNat (by omega),
      addBits_ofNat (by omega), addBits_ofNat (by omega)]
    refine Eq.trans (congrArg Char.ofNat ?_) number
    simp only [List.length_cons, List.length_nil]
    omega

section

variable {rest : Utf8} {wanted : List (UInt8 × UInt8)} {value : Nat}

theorem fromUtf8Lossy_within {b : UInt8} {range : UInt8 × UInt8} (h : InRange b range) (bs : Utf8) :
    fromUtf8Lossy (some (value, range :: wanted)) (b :: bs) =
      if wanted = [] then Char.ofNat (addBits value b) :: fromUtf8Lossy none bs
      else fromUtf8Lossy (some (addBits value b, wanted)) bs := by
  rw [fromUtf8Lossy]
  exact if_pos h

/-- The later bytes of a character, all of them. -/
theorem fromUtf8Lossy_rest (more : rest ≠ []) (within : List.Forall₂ InRange rest wanted) (bs : Utf8) :
    fromUtf8Lossy (some (value, wanted)) (rest ++ bs) =
      Char.ofNat (rest.foldl addBits value) :: fromUtf8Lossy none bs := by
  induction within generalizing value with
  | nil => exact absurd rfl more
  | @cons b range rest wanted here later ih =>
    rw [List.cons_append, fromUtf8Lossy_within here, List.foldl_cons]
    cases later with
    | nil =>
      rw [if_pos rfl]
      rfl
    | cons first later =>
      rw [if_neg (List.cons_ne_nil _ _)]
      exact ih (List.cons_ne_nil _ _)

/-- A character that breaks off is replaced as a whole. -/
theorem fromUtf8Lossy_rest_cut (within : List.Forall₂ InRange rest wanted) {k : Nat} (hk : k < rest.length) :
    fromUtf8Lossy (some (value, wanted)) (rest.take k) = [replacement] := by
  induction within generalizing value k with
  | nil => cases hk
  | @cons b range rest wanted here later ih =>
    cases k with
    | zero => rfl
    | succ k =>
      have missing : k < rest.length := by simpa using hk
      have wants : wanted ≠ [] := by
        rintro rfl
        cases later
        cases missing
      rw [List.take_succ_cons, fromUtf8Lossy_within here, if_neg wants]
      exact ih missing

end

theorem fromUtf8Lossy_start (b : UInt8) (bs : Utf8) :
    fromUtf8Lossy none (b :: bs) = (lossyStart b).1 ++ fromUtf8Lossy (lossyStart b).2 bs := by
  rw [fromUtf8Lossy]
  nofun

theorem fromUtf8Lossy_char (c : Char) (bs : Utf8) :
    fromUtf8Lossy none (String.utf8EncodeChar c ++ bs) = c :: fromUtf8Lossy none bs := by
  rcases lossySpelling c with ⟨b, encoded, start⟩ | ⟨lead, rest, value, wanted, spelling⟩
  · rw [encoded, List.singleton_append, fromUtf8Lossy_start, start]
    rfl
  · rw [spelling.encoded, List.cons_append, fromUtf8Lossy_start, spelling.start, List.nil_append,
      fromUtf8Lossy_rest spelling.more spelling.within, spelling.bits]

/-- Whole characters are read as they are. -/
theorem fromUtf8Lossy_encodeChars (cs : List Char) (bs : Utf8) :
    fromUtf8Lossy none (encodeChars cs ++ bs) = cs ++ fromUtf8Lossy none bs := by
  induction cs with
  | nil => rfl
  | cons c cs ih => rw [encodeChars_cons, List.append_assoc, fromUtf8Lossy_char, ih, List.cons_append]

theorem fromUtf8Lossy_cut {c : Char} {k : Nat} (start : 0 < k) (missing : k < c.utf8Size) :
    fromUtf8Lossy none ((String.utf8EncodeChar c).take k) = [replacement] := by
  rw [← String.length_utf8EncodeChar] at missing
  obtain ⟨k, rfl⟩ := Nat.exists_eq_succ_of_ne_zero start.ne'
  rcases lossySpelling c with ⟨b, encoded, -⟩ | ⟨lead, rest, value, wanted, spelling⟩
  · rw [encoded] at missing
    exact absurd missing (by simp)
  · rw [spelling.encoded, List.length_cons] at missing
    rw [spelling.encoded, List.take_succ_cons, fromUtf8Lossy_start, spelling.start, List.nil_append]
    exact fromUtf8Lossy_rest_cut spelling.within (by omega)

end AnneDeBreuil
