import AnneDeBreuil.Text

namespace AnneDeBreuil

/-- A byte within a character, `10xxxxxx`. -/
def isContinuation (b : UInt8) : Bool := 0x80 ≤ b && b < 0xC0

/-- `str::is_char_boundary`: a continuation byte has the form `10xxxxxx`. -/
def isCharBoundary (input : Utf8) (index : Nat) : Bool :=
  index == 0 || index == input.length ||
    match input[index]? with
    | some byte => byte < 128 || byte ≥ 192
    | none => false

/-- `&text[start..stop]`, which panics off the boundaries and out of bounds. -/
def strSlice (text : Utf8) (start stop : Nat) : Option Utf8 :=
  if start ≤ stop && isCharBoundary text start && isCharBoundary text stop then
    some ((text.drop start).take (stop - start))
  else none

/-- The last boundary that is not behind the index. -/
def boundaryBelow (text : Utf8) : Nat → Nat
  | 0 => 0
  | index + 1 => if isCharBoundary text (index + 1) then index + 1 else boundaryBelow text index

/-- `str::floor_char_boundary`. -/
def floorCharBoundary (text : Utf8) (index : Nat) : Nat :=
  if text.length ≤ index then text.length else boundaryBelow text index

def encodeChars (cs : List Char) : Utf8 := cs.flatMap String.utf8EncodeChar

@[simp] theorem encodeChars_nil : encodeChars [] = [] := rfl

@[simp] theorem encodeChars_cons (c : Char) (cs : List Char) :
    encodeChars (c :: cs) = String.utf8EncodeChar c ++ encodeChars cs := List.flatMap_cons

@[simp] theorem encodeChars_append (cs ds : List Char) : encodeChars (cs ++ ds) = encodeChars cs ++ encodeChars ds :=
  List.flatMap_append

theorem utf8_eq_encodeChars (s : String) : utf8 s = encodeChars s.toList := rfl

theorem isContinuation_eq (b : UInt8) : isContinuation b = !(b < 128 || b ≥ 192) := by
  rw [Bool.eq_iff_iff]
  simp only [isContinuation, Bool.and_eq_true, decide_eq_true_eq, Bool.not_eq_true', Bool.or_eq_false_iff,
    decide_eq_false_iff_not, UInt8.le_iff_toNat_le, UInt8.lt_iff_toNat_lt, ge_iff_le]
  have low : (0x80 : UInt8).toNat = 128 := rfl
  have high : (0xC0 : UInt8).toNat = 192 := rfl
  have low' : (128 : UInt8).toNat = 128 := rfl
  have high' : (192 : UInt8).toNat = 192 := rfl
  omega

/-- The bytes of a character, by the size of its number. -/
inductive Utf8Bytes (n : Nat) : Utf8 → Prop
  | one (bound : n < 0x80) : Utf8Bytes n [.ofNat n]
  | two (low : 0x80 ≤ n) (high : n < 0x800) : Utf8Bytes n [.ofNat (n / 64 + 0xC0), .ofNat (n % 64 + 0x80)]
  | three (low : 0x800 ≤ n) (high : n < 0x10000) (apart : n < 0xD800 ∨ 0xDFFF < n) :
      Utf8Bytes n [.ofNat (n / 4096 + 0xE0), .ofNat (n / 64 % 64 + 0x80), .ofNat (n % 64 + 0x80)]
  | four (low : 0x10000 ≤ n) (high : n < 0x110000) :
      Utf8Bytes n [.ofNat (n / 262144 + 0xF0), .ofNat (n / 4096 % 64 + 0x80), .ofNat (n / 64 % 64 + 0x80),
        .ofNat (n % 64 + 0x80)]

theorem utf8Bytes_encodeChar (c : Char) : Utf8Bytes c.toNat (String.utf8EncodeChar c) := by
  have valid : c.toNat < 0xD800 ∨ 0xDFFF < c.toNat ∧ c.toNat < 0x110000 := c.valid
  have number : c.val.toNat = c.toNat := rfl
  simp only [String.utf8EncodeChar, number]
  split
  next bound => exact .one (by omega)
  next above =>
    split
    next bound =>
      have lead : c.toNat / 64 % 0x20 = c.toNat / 64 := by omega
      rw [lead]
      exact .two (by omega) (by omega)
    next above =>
      split
      next bound =>
        have lead : c.toNat / 4096 % 0x10 = c.toNat / 4096 := by omega
        rw [lead]
        exact .three (by omega) (by omega) (by omega)
      next above =>
        have lead : c.toNat / 262144 % 0x08 = c.toNat / 262144 := by omega
        rw [lead]
        exact .four (by omega) (by omega)

theorem isContinuation_ofNat {n : Nat} (h : n < 256) : isContinuation (.ofNat n) = true ↔ 0x80 ≤ n ∧ n < 0xC0 := by
  have value : (UInt8.ofNat n).toNat = n := by rw [UInt8.toNat_ofNat', Nat.mod_eq_of_lt h]
  have low : (0x80 : UInt8).toNat = 0x80 := rfl
  have high : (0xC0 : UInt8).toNat = 0xC0 := rfl
  simp only [isContinuation, Bool.and_eq_true, decide_eq_true_eq, UInt8.le_iff_toNat_le, UInt8.lt_iff_toNat_lt, value, low,
    high]

/-- A character is a lead byte and at most three continuation bytes. -/
theorem utf8EncodeChar_shape (c : Char) : ∃ lead rest, String.utf8EncodeChar c = lead :: rest ∧
    isContinuation lead = false ∧ (∀ b ∈ rest, isContinuation b = true) ∧ rest.length ≤ 3 := by
  have apart : ∀ {n : Nat}, n < 256 → (n < 0x80 ∨ 0xC0 ≤ n) → isContinuation (.ofNat n) = false := by
    intro n hn hlead
    rw [Bool.eq_false_iff, Ne, isContinuation_ofNat hn]
    omega
  have within : ∀ {n : Nat}, n < 64 → isContinuation (.ofNat (n + 0x80)) = true := by
    intro n hn
    rw [isContinuation_ofNat (by omega)]
    omega
  have bytes := utf8Bytes_encodeChar c
  generalize String.utf8EncodeChar c = encoded at bytes
  cases bytes with
  | one bound => exact ⟨_, _, rfl, apart (by omega) (by omega), nofun, by simp⟩
  | two low high =>
    refine ⟨_, _, rfl, apart (by omega) (by omega), ?_, by simp⟩
    simp only [List.forall_mem_cons]
    exact ⟨within (by omega), nofun⟩
  | three low high _ =>
    refine ⟨_, _, rfl, apart (by omega) (by omega), ?_, by simp⟩
    simp only [List.forall_mem_cons]
    exact ⟨within (by omega), within (by omega), nofun⟩
  | four low high =>
    refine ⟨_, _, rfl, apart (by omega) (by omega), ?_, by simp⟩
    simp only [List.forall_mem_cons]
    exact ⟨within (by omega), within (by omega), within (by omega), nofun⟩

section

variable {text : Utf8} {cs : List Char} {p index : Nat}

theorem isCharBoundary_zero (text : Utf8) : isCharBoundary text 0 = true := rfl

theorem isCharBoundary_length (text : Utf8) : isCharBoundary text text.length = true := by
  simp [isCharBoundary]

theorem isCharBoundary_le (h : isCharBoundary text p = true) : p ≤ text.length := by
  by_contra behind
  have missing : text[p]? = none := List.getElem?_eq_none (by omega)
  have start : p ≠ 0 := by omega
  have stop : p ≠ text.length := by omega
  simp [isCharBoundary, missing, start, stop] at h

/-- Inside the text the boundaries are told by the byte that stands there. -/
theorem isCharBoundary_inside {b : UInt8} (start : p ≠ 0) (hb : text[p]? = some b) :
    isCharBoundary text p = !isContinuation b := by
  have stop : p ≠ text.length := (List.getElem?_eq_some_iff.mp hb).1.ne
  simp [isCharBoundary, hb, start, stop, isContinuation_eq]

/-- The boundaries behind a character are those of what follows it. -/
theorem isCharBoundary_behind (c : Char) (cs : List Char) (p : Nat) :
    isCharBoundary (String.utf8EncodeChar c ++ encodeChars cs) ((String.utf8EncodeChar c).length + p) =
      isCharBoundary (encodeChars cs) p := by
  have start : (String.utf8EncodeChar c).length + p ≠ 0 := by
    rw [String.length_utf8EncodeChar]
    have := c.utf8Size_pos
    omega
  cases p with
  | zero =>
    cases cs with
    | nil =>
      rw [encodeChars_nil, List.append_nil]
      exact isCharBoundary_length _
    | cons d ds =>
      obtain ⟨lead, rest, encoded, apart, -, -⟩ := utf8EncodeChar_shape d
      have here : (String.utf8EncodeChar c ++ encodeChars (d :: ds))[(String.utf8EncodeChar c).length + 0]? = some lead := by
        rw [List.getElem?_append_right (by omega), encodeChars_cons, encoded]
        simp
      rw [isCharBoundary_inside start here, apart]
      rfl
  | succ p =>
    cases hb : (encodeChars cs)[p + 1]? with
    | some b =>
      have here : (String.utf8EncodeChar c ++ encodeChars cs)[(String.utf8EncodeChar c).length + (p + 1)]? = some b := by
        rw [List.getElem?_append_right (by omega), Nat.add_sub_cancel_left, hb]
      rw [isCharBoundary_inside start here, isCharBoundary_inside (Nat.succ_ne_zero p) hb]
    | none =>
      have here : (String.utf8EncodeChar c ++ encodeChars cs)[(String.utf8EncodeChar c).length + (p + 1)]? = none := by
        rw [List.getElem?_append_right (by omega), Nat.add_sub_cancel_left, hb]
      simp only [isCharBoundary, here, hb, List.length_append, Bool.or_false]
      rw [Bool.eq_iff_iff]
      simp only [Bool.or_eq_true, beq_iff_eq]
      omega

/-- The boundaries are the places between the characters. -/
theorem isCharBoundary_iff : isCharBoundary (encodeChars cs) p = true ↔
    ∃ before after, cs = before ++ after ∧ (encodeChars before).length = p := by
  induction cs generalizing p with
  | nil =>
    constructor
    · intro h
      exact ⟨[], [], rfl, (Nat.le_zero.mp (isCharBoundary_le h)).symm⟩
    · rintro ⟨before, after, hsplit, rfl⟩
      rw [(List.append_eq_nil_iff.mp hsplit.symm).1]
      rfl
  | cons c cs ih =>
    constructor
    · intro h
      by_cases start : p = 0
      · exact ⟨[], c :: cs, rfl, start.symm⟩
      by_cases behind : (String.utf8EncodeChar c).length ≤ p
      · obtain ⟨q, rfl⟩ := Nat.exists_eq_add_of_le behind
        rw [encodeChars_cons, isCharBoundary_behind] at h
        obtain ⟨before, after, rfl, hlength⟩ := ih.mp h
        exact ⟨c :: before, after, rfl, by simp [← hlength]⟩
      · -- within the character stands a continuation byte
        exfalso
        obtain ⟨lead, rest, encoded, -, within, -⟩ := utf8EncodeChar_shape c
        rw [encoded, List.length_cons] at behind
        obtain ⟨q, rfl⟩ := Nat.exists_eq_succ_of_ne_zero start
        have inside : q < rest.length := by omega
        have here : (encodeChars (c :: cs))[q + 1]? = some rest[q] := by
          rw [encodeChars_cons, encoded, List.cons_append, List.getElem?_cons_succ, List.getElem?_append_left inside]
          exact List.getElem?_eq_getElem inside
        rw [isCharBoundary_inside start here, within _ (List.getElem_mem inside)] at h
        cases h
    · rintro ⟨before, after, hsplit, rfl⟩
      cases before with
      | nil => rfl
      | cons _ before =>
        cases hsplit
        rw [encodeChars_cons, encodeChars_cons, List.length_append, isCharBoundary_behind]
        exact ih.mpr ⟨before, after, rfl, rfl⟩

/-- A shorter stretch of the characters from the start is a part of a longer one. -/
theorem prefix_of_encodeChars_length {before after before' after' : List Char} (same : before ++ after = before' ++ after')
    (h : (encodeChars before).length ≤ (encodeChars before').length) : before <+: before' := by
  rcases List.prefix_or_prefix_of_prefix (List.prefix_append before after)
    (same ▸ List.prefix_append before' after') with shorter | longer
  · exact shorter
  · obtain ⟨more, rfl⟩ := longer
    cases more with
    | nil => simp
    | cons c more =>
      have size := c.utf8Size_pos
      simp only [encodeChars_append, encodeChars_cons, List.length_append, String.length_utf8EncodeChar] at h
      omega

theorem boundaryBelow_boundary (text : Utf8) (index : Nat) : isCharBoundary text (boundaryBelow text index) = true := by
  induction index with
  | zero => rfl
  | succ index ih =>
    rw [boundaryBelow]
    split
    next h => exact h
    next => exact ih

theorem boundaryBelow_le (text : Utf8) (index : Nat) : boundaryBelow text index ≤ index := by
  induction index with
  | zero => exact Nat.le_refl 0
  | succ index ih =>
    rw [boundaryBelow]
    split
    next => exact Nat.le_refl _
    next => omega

/-- No boundary stands behind the last one. -/
theorem le_boundaryBelow (h : isCharBoundary text p = true) (hp : p ≤ index) : p ≤ boundaryBelow text index := by
  induction index with
  | zero => omega
  | succ index ih =>
    rw [boundaryBelow]
    split
    next => exact hp
    next inside =>
      have other : p ≠ index + 1 := fun same => inside (same ▸ h)
      exact ih (by omega)

theorem floorCharBoundary_boundary (text : Utf8) (index : Nat) :
    isCharBoundary text (floorCharBoundary text index) = true := by
  rw [floorCharBoundary]
  split
  next => exact isCharBoundary_length text
  next => exact boundaryBelow_boundary text index

theorem floorCharBoundary_le (text : Utf8) (index : Nat) : floorCharBoundary text index ≤ index := by
  rw [floorCharBoundary]
  split
  next h => exact h
  next => exact boundaryBelow_le text index

theorem le_floorCharBoundary (h : isCharBoundary text p = true) (hp : p ≤ index) : p ≤ floorCharBoundary text index := by
  rw [floorCharBoundary]
  split
  next => exact isCharBoundary_le h
  next => exact le_boundaryBelow h hp

/-- A slice between boundaries does not panic, and is a stretch of the characters. -/
theorem strSlice_encodeChars {start stop : Nat} (hle : start ≤ stop) (hstart : isCharBoundary (encodeChars cs) start = true)
    (hstop : isCharBoundary (encodeChars cs) stop = true) :
    ∃ before within after, cs = before ++ within ++ after ∧ (encodeChars before).length = start ∧
      (encodeChars (before ++ within)).length = stop ∧
      strSlice (encodeChars cs) start stop = some (encodeChars within) := by
  obtain ⟨before, rest, rfl, rfl⟩ := isCharBoundary_iff.mp hstart
  obtain ⟨front, after, hsplit, rfl⟩ := isCharBoundary_iff.mp hstop
  obtain ⟨within, rfl⟩ := prefix_of_encodeChars_length hsplit hle
  refine ⟨before, within, after, hsplit, rfl, rfl, ?_⟩
  rw [strSlice, hstart, hstop, if_pos (by simp), hsplit]
  simp

end

end AnneDeBreuil
