import Mathlib.Data.List.TakeWhile

namespace AnneDeBreuil

/-- Text whose byte offsets matter, kept as its UTF-8 bytes. -/
abbrev Utf8 := List UInt8

/-- The bytes of a literal. -/
def utf8 (s : String) : Utf8 := s.toList.flatMap String.utf8EncodeChar

/-- `core::str::from_utf8`. -/
def fromUtf8 (bytes : Utf8) : Option String := String.fromUTF8? bytes.toByteArray

/-- `char::is_whitespace`, the Unicode White_Space property. -/
def isWhitespace (c : Char) : Bool :=
  let n := c.toNat
  (9 ≤ n && n ≤ 13) || n = 32 || n = 0x85 || n = 0xA0 || n = 0x1680 ||
    (0x2000 ≤ n && n ≤ 0x200A) || n = 0x2028 || n = 0x2029 || n = 0x202F || n = 0x205F || n = 0x3000

def trimChars (cs : List Char) : List Char :=
  ((cs.dropWhile isWhitespace).reverse.dropWhile isWhitespace).reverse

/-- `str::trim`. -/
def trim (s : String) : String := String.ofList (trimChars s.toList)

/-- `str::to_ascii_lowercase`; `Char.toLower` moves only the ASCII capitals. -/
def toAsciiLowercase (s : String) : String := String.ofList (s.toList.map Char.toLower)

/-- `str::eq_ignore_ascii_case`. -/
def eqIgnoreAsciiCase (s t : String) : Bool := s.toList.map Char.toLower == t.toList.map Char.toLower

/-- `str::split_once` at a character. -/
def splitOnce (c : Char) (cs : List Char) : Option (List Char × List Char) :=
  if c ∈ cs then some (cs.takeWhile (· != c), (cs.dropWhile (· != c)).tail) else none

/-- `str::split_whitespace`. -/
def splitWhitespace (cs : List Char) : List (List Char) := (cs.splitOnP isWhitespace).filter (· ≠ [])

def stripCarriageReturn (line : List Char) : List Char :=
  match line.getLast? with
  | some '\r' => line.dropLast
  | _ => line

/-- `str::lines`: what stands behind the last line feed counts only if there is
any, and keeps its carriage return. -/
def lines (cs : List Char) : List (List Char) :=
  let pieces := cs.splitOn '\n'
  pieces.dropLast.map stripCarriageReturn ++ pieces.getLast?.toList.filter (· ≠ [])

/-- `str::parse` of an unsigned type with so many values: one leading `+` is
accepted, then at least one ASCII digit. -/
def parseUnsigned (bound : Nat) (cs : List Char) : Option Nat :=
  let digits := match cs with
    | '+' :: rest => rest
    | _ => cs
  if digits.isEmpty || !digits.all Char.isDigit then none
  else
    let value := digits.foldl (fun n c => 10 * n + (c.toNat - 48)) 0
    if value < bound then some value else none

/-- `str::parse::<u16>`. -/
def parseU16 (cs : List Char) : Option UInt16 := (parseUnsigned UInt16.size cs).map UInt16.ofNat

theorem utf8_append (s t : String) : utf8 (s ++ t) = utf8 s ++ utf8 t := by
  simp [utf8]

theorem toByteArray_utf8 (s : String) : (utf8 s).toByteArray = s.toByteArray :=
  String.utf8Encode_toList

theorem fromUtf8_utf8 (s : String) : fromUtf8 (utf8 s) = some s := by
  unfold fromUtf8 String.fromUTF8?
  rw [toByteArray_utf8, dif_pos s.isValidUTF8]
  rfl

theorem utf8_injective : Function.Injective utf8 := by
  intro a b h
  have read := fromUtf8_utf8 a
  rw [h, fromUtf8_utf8] at read
  exact (Option.some.inj read).symm

theorem utf8_of_fromUtf8 {bytes : Utf8} {s : String} (h : fromUtf8 bytes = some s) : utf8 s = bytes := by
  unfold fromUtf8 String.fromUTF8? at h
  split at h
  next valid =>
    cases Option.some.inj h
    have same := toByteArray_utf8 (String.fromUTF8 bytes.toByteArray valid)
    have data := congrArg (fun array => array.data.toList) same
    simpa [String.fromUTF8] using data
  next => cases h

theorem fromUtf8_ne_empty {bytes : Utf8} {s : String} (h : fromUtf8 bytes = some s) (hne : bytes ≠ []) : s ≠ "" := by
  rintro rfl
  exact hne (utf8_of_fromUtf8 h).symm

theorem eqIgnoreAsciiCase_iff {s t : String} :
    eqIgnoreAsciiCase s t = true ↔ s.toList.map Char.toLower = t.toList.map Char.toLower := by
  simp [eqIgnoreAsciiCase]

/-- No blank is an ASCII capital. -/
theorem toLower_of_isWhitespace {c : Char} (h : isWhitespace c = true) : c.toLower = c := by
  unfold Char.toLower
  rw [dif_neg]
  rintro ⟨hlow, hhigh⟩
  have hl : 65 ≤ c.toNat := UInt32.le_iff_toNat_le.mp hlow
  have hh : c.toNat ≤ 90 := UInt32.le_iff_toNat_le.mp hhigh
  simp only [isWhitespace, Bool.or_eq_true, Bool.and_eq_true, decide_eq_true_eq] at h
  omega

/-- A text without blanks is left alone by `trim`. -/
theorem trim_of_visible {s : String} (h : ∀ c ∈ s.toList, isWhitespace c = false) : trim s = s := by
  have keep : ∀ cs : List Char, (∀ c ∈ cs, isWhitespace c = false) → cs.dropWhile isWhitespace = cs := by
    intro cs hcs
    cases cs with
    | nil => rfl
    | cons c cs => simp [hcs c (by simp)]
  unfold trim trimChars
  rw [keep _ h, keep _ (fun c hc => h c (List.mem_reverse.mp hc)), List.reverse_reverse, String.ofList_toList]

/-- It is enough that the lowered characters hold none. -/
theorem trim_of_lower_visible {s : String}
    (h : ∀ c ∈ s.toList.map Char.toLower, isWhitespace c = false) : trim s = s := by
  apply trim_of_visible
  intro c hc
  by_contra hb
  have hw : isWhitespace c = true := by simpa using hb
  have hl := h c.toLower (List.mem_map_of_mem hc)
  rw [toLower_of_isWhitespace hw] at hl
  simp [hw] at hl

/-- The word "any", in any letter case, has no blanks to trim. -/
theorem trim_of_any {s : String} (h : eqIgnoreAsciiCase s "any" = true) : trim s = s := by
  have letters : "any".toList.map Char.toLower = ['a', 'n', 'y'] := rfl
  apply trim_of_lower_visible
  rw [eqIgnoreAsciiCase_iff.mp h, letters]
  simp only [List.forall_mem_cons]
  exact ⟨rfl, rfl, rfl, nofun⟩

theorem splitOnce_eq_some {c : Char} {cs before after : List Char} :
    splitOnce c cs = some (before, after) ↔ cs = before ++ c :: after ∧ c ∉ before := by
  unfold splitOnce
  constructor
  · intro h
    split at h
    next hmem =>
      cases h
      obtain ⟨first, rest, rfl, hfirst⟩ := List.eq_append_cons_of_mem hmem
      have keep : ∀ x ∈ first, (x != c) = true := by
        intro x hx
        rw [bne_iff_ne]
        rintro rfl
        exact hfirst hx
      rw [List.takeWhile_append_of_pos keep, List.dropWhile_append_of_pos keep]
      simpa using hfirst
    next => cases h
  · rintro ⟨rfl, hbefore⟩
    have keep : ∀ x ∈ before, (x != c) = true := by
      intro x hx
      rw [bne_iff_ne]
      rintro rfl
      exact hbefore hx
    rw [if_pos (by simp), List.takeWhile_append_of_pos keep, List.dropWhile_append_of_pos keep]
    simp

theorem trimChars_blank_append {ws : List Char} (h : ∀ c ∈ ws, isWhitespace c = true) (cs : List Char) :
    trimChars (ws ++ cs) = trimChars cs := by
  have dropped : (ws ++ cs).dropWhile isWhitespace = cs.dropWhile isWhitespace := by
    rw [List.dropWhile_append, List.dropWhile_eq_nil_iff.mpr h]
    rfl
  simp only [trimChars, dropped]

theorem trimChars_append_blank {ws : List Char} (h : ∀ c ∈ ws, isWhitespace c = true) (cs : List Char) :
    trimChars (cs ++ ws) = trimChars cs := by
  simp only [trimChars, List.dropWhile_append]
  split
  next hblank =>
    rw [List.dropWhile_eq_nil_iff.mpr h, List.isEmpty_iff.mp hblank]
  next =>
    rw [List.reverse_append, List.dropWhile_append,
      List.dropWhile_eq_nil_iff.mpr fun c hc => h c (List.mem_reverse.mp hc)]
    rfl

/-- The blanks that `trim` takes off, before and after what it keeps. -/
theorem trimChars_split (cs : List Char) :
    ∃ before after, cs = before ++ trimChars cs ++ after ∧ (∀ c ∈ before, isWhitespace c = true) ∧
      ∀ c ∈ after, isWhitespace c = true := by
  refine ⟨cs.takeWhile isWhitespace, ((cs.dropWhile isWhitespace).reverse.takeWhile isWhitespace).reverse, ?_,
    fun c hc => (List.mem_takeWhile_imp hc), fun c hc => List.mem_takeWhile_imp (List.mem_reverse.mp hc)⟩
  rw [List.append_assoc, trimChars, ← List.reverse_append, List.takeWhile_append_dropWhile, List.reverse_reverse,
    List.takeWhile_append_dropWhile]

@[simp] theorem trimChars_trimChars (cs : List Char) : trimChars (trimChars cs) = trimChars cs := by
  obtain ⟨before, after, hsplit, hbefore, hafter⟩ := trimChars_split cs
  have h := congrArg trimChars hsplit
  rw [trimChars_append_blank hafter, trimChars_blank_append hbefore] at h
  exact h.symm

@[simp] theorem trim_trim (s : String) : trim (trim s) = trim s := by
  simp [trim]

/-- Blanks around a text end up around its parts. -/
theorem splitOn_blank_append {sep : Char} {ws : List Char} (hsep : isWhitespace sep = false)
    (h : ∀ c ∈ ws, isWhitespace c = true) (cs : List Char) :
    ((ws ++ cs).splitOn sep).map trimChars = (cs.splitOn sep).map trimChars := by
  have outside : sep ∉ ws := by
    intro hmem
    simp [h sep hmem] at hsep
  by_cases hmem : sep ∈ cs
  · obtain ⟨first, rest, rfl, hfirst⟩ := List.eq_append_cons_of_mem hmem
    have hws : sep ∉ ws ++ first := by simp [outside, hfirst]
    rw [← List.append_assoc, List.splitOn_append_cons_self_of_not_mem hws,
      List.splitOn_append_cons_self_of_not_mem hfirst, List.map_cons, List.map_cons, trimChars_blank_append h]
  · rw [List.splitOn_eq_singleton hmem, List.splitOn_eq_singleton (by simp [outside, hmem]), List.map_singleton,
      List.map_singleton, trimChars_blank_append h]

theorem splitOn_append_blank {sep : Char} {ws : List Char} (hsep : isWhitespace sep = false)
    (h : ∀ c ∈ ws, isWhitespace c = true) (cs : List Char) :
    ((cs ++ ws).splitOn sep).map trimChars = (cs.splitOn sep).map trimChars := by
  have outside : sep ∉ ws := by
    intro hmem
    simp [h sep hmem] at hsep
  by_cases hmem : sep ∈ cs
  · obtain ⟨before, last, hlast, hsplit⟩ : ∃ before last, sep ∉ last ∧ cs = before ++ sep :: last := by
      obtain ⟨last, before, hrev, hlast⟩ := List.eq_append_cons_of_mem (List.mem_reverse.mpr hmem)
      refine ⟨before.reverse, last.reverse, by simpa using hlast, ?_⟩
      rw [← List.reverse_reverse cs, hrev]
      simp
    subst hsplit
    have tail : (last ++ ws).splitOn sep = [last ++ ws] := List.splitOn_eq_singleton (by simp [outside, hlast])
    rw [List.append_assoc, List.cons_append, List.splitOn_append_cons_self, List.splitOn_append_cons_self, tail,
      List.splitOn_eq_singleton hlast, List.map_append, List.map_append, List.map_singleton, List.map_singleton,
      trimChars_append_blank h]
  · rw [List.splitOn_eq_singleton hmem, List.splitOn_eq_singleton (by simp [outside, hmem]), List.map_singleton,
      List.map_singleton, trimChars_append_blank h]

theorem splitOn_trimChars {sep : Char} (hsep : isWhitespace sep = false) (cs : List Char) :
    ((trimChars cs).splitOn sep).map trimChars = (cs.splitOn sep).map trimChars := by
  obtain ⟨before, after, hsplit, hbefore, hafter⟩ := trimChars_split cs
  calc ((trimChars cs).splitOn sep).map trimChars
      = ((before ++ trimChars cs ++ after).splitOn sep).map trimChars := by
        rw [splitOn_append_blank hsep hafter, splitOn_blank_append hsep hbefore]
    _ = (cs.splitOn sep).map trimChars := by rw [← hsplit]

theorem mem_intercalate {sep c : Char} (parts : List (List Char)) (h : c ∈ [sep].intercalate parts) :
    c = sep ∨ ∃ part ∈ parts, c ∈ part := by
  induction parts with
  | nil => simp at h
  | cons part parts ih =>
    cases parts with
    | nil => exact .inr ⟨part, by simp, by simpa using h⟩
    | cons next rest =>
      rw [List.intercalate_cons_cons, List.append_assoc, List.mem_append] at h
      rcases h with h | h
      · exact .inr ⟨part, by simp, h⟩
      · rcases List.mem_cons.mp h with rfl | h
        · exact .inl rfl
        · rcases ih h with rfl | ⟨other, hother, hc⟩
          · exact .inl rfl
          · exact .inr ⟨other, List.mem_cons_of_mem _ hother, hc⟩

/-- Joined parts split again into the parts of each. -/
theorem splitOn_intercalate_flatMap {sep : Char} (parts : List (List Char)) (h : parts ≠ []) :
    ([sep].intercalate parts).splitOn sep = parts.flatMap (·.splitOn sep) := by
  induction parts with
  | nil => exact absurd rfl h
  | cons part parts ih =>
    cases parts with
    | nil => simp
    | cons next rest =>
      rw [List.intercalate_cons_cons, List.append_assoc, List.singleton_append, List.splitOn_append_cons_self,
        ih (by simp)]
      exact List.flatMap_cons.symm

end AnneDeBreuil
