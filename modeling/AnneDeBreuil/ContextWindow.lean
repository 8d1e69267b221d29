import AnneDeBreuil.PsPayload

namespace AnneDeBreuil

/-- `context_window`, with its slice. -/
def contextWindow? (text : Utf8) (index : Nat) : Option Utf8 :=
  let start := charBoundaryAtOrAfter text (index - errorContextRadius)
  let stop := charBoundaryAtOrAfter text (min (index + errorContextRadius) text.length)
  strSlice text start stop

section

variable (crates : PayloadCrates)

def rejectIfDepthTruncated? (text : String) : Option (Except String Unit) :=
  match depthTruncationMarkers.find? fun marker => strContains text.toList marker.toList with
  | none => some (.ok ())
  | some marker =>
    let markerIndex := (strFind marker.toList text.toList).getD 0
    (contextWindow? (utf8 text) markerIndex).map fun context =>
      .error ("payload looks truncated by insufficient -Depth (found " ++ crates.debug (utf8 marker) ++
        " where structured data was expected); context: " ++ crates.debug context)

def describeJsonError? (text : String) (source : JsonError) : Option String :=
  (contextWindow? (utf8 text) (source.column - 1)).map fun context =>
    source.display ++ " near: " ++ crates.debug context

/-- `serde_json`'s columns are one-based and stay within the text. -/
structure PayloadCrates.Located : Prop where
  read : ∀ text e, crates.read text = .error e → e.column ≤ (utf8 text).length + 1
  mismatch : ∀ text, (crates.mismatch text).column ≤ (utf8 text).length + 1

end

section

variable {text : Utf8} {cs : List Char} {p index : Nat}

theorem le_charBoundaryAtOrAfter (text : Utf8) (index : Nat) : index ≤ charBoundaryAtOrAfter text index :=
  Nat.le_add_right _ _

theorem charBoundaryAtOrAfter_boundary (h : index ≤ text.length) :
    isCharBoundary text (charBoundaryAtOrAfter text index) = true := by
  rw [charBoundaryAtOrAfter]
  generalize hpassed : (text.drop index).takeWhile isContinuation = passed
  have whole : text.drop index = passed ++ (text.drop index).dropWhile isContinuation := by
    rw [← hpassed, List.takeWhile_append_dropWhile]
  cases hrest : (text.drop index).dropWhile isContinuation with
  | nil =>
    have stop : index + passed.length = text.length := by
      have lengths := congrArg List.length whole
      rw [hrest, List.append_nil, List.length_drop] at lengths
      omega
    rw [stop]
    exact isCharBoundary_length text
  | cons b rest =>
    by_cases start : index + passed.length = 0
    · rw [start]
      exact isCharBoundary_zero text
    have here : text[index + passed.length]? = some b := by
      rw [← List.getElem?_drop, whole, hrest, List.getElem?_append_right (Nat.le_refl _), Nat.sub_self]
      rfl
    have apart := List.head?_dropWhile_not isContinuation (text.drop index)
    rw [hrest] at apart
    have other : isContinuation b = false := apart
    rw [isCharBoundary_inside start here, other]
    rfl

/-- A text does not begin within a character. -/
theorem isContinuation_first {b : UInt8} (h : (encodeChars cs)[0]? = some b) : isContinuation b = false := by
  cases cs with
  | nil => cases h
  | cons c cs =>
    obtain ⟨lead, rest, encoded, apart, -, -⟩ := utf8EncodeChar_shape c
    rw [encodeChars_cons, encoded] at h
    cases h
    exact apart

theorem charBoundaryAtOrAfter_le (h : isCharBoundary (encodeChars cs) p = true) (hp : index ≤ p) :
    charBoundaryAtOrAfter (encodeChars cs) index ≤ p := by
  rw [charBoundaryAtOrAfter]
  by_contra behind
  have passed : p - index < (((encodeChars cs).drop index).takeWhile isContinuation).length := by omega
  obtain ⟨b, here, within⟩ : ∃ b, (encodeChars cs)[p]? = some b ∧ isContinuation b = true := by
    refine ⟨_, ?_, List.mem_takeWhile_imp (List.getElem_mem passed)⟩
    rw [(List.takeWhile_prefix isContinuation).getElem passed, List.getElem_drop, ← List.getElem?_eq_getElem]
    congr 1
    omega
  by_cases start : p = 0
  · rw [start] at here
    rw [isContinuation_first here] at within
    cases within
  · rw [isCharBoundary_inside start here, within] at h
    cases h

/-- The window is a stretch of the characters, and all those near the index are in it. -/
theorem contextWindow_stretch (h : index ≤ (encodeChars cs).length) : ∃ before within after,
    cs = before ++ within ++ after ∧ contextWindow? (encodeChars cs) index = some (encodeChars within) ∧
      ∀ front near back, cs = front ++ near ++ back → index ≤ (encodeChars front).length + errorContextRadius →
        (encodeChars (front ++ near)).length ≤ index + errorContextRadius →
        before <+: front ∧ front ++ near <+: before ++ within := by
  have hstart := @charBoundaryAtOrAfter_boundary (encodeChars cs) (index - errorContextRadius) (by omega)
  have hstop := @charBoundaryAtOrAfter_boundary (encodeChars cs)
    (min (index + errorContextRadius) (encodeChars cs).length) (by omega)
  have reaches := le_charBoundaryAtOrAfter (encodeChars cs) (min (index + errorContextRadius) (encodeChars cs).length)
  have ordered := charBoundaryAtOrAfter_le hstop (show index - errorContextRadius ≤ _ by omega)
  obtain ⟨before, within, after, rfl, starts, stops, slice⟩ := strSlice_encodeChars ordered hstart hstop
  refine ⟨before, within, after, rfl, slice, fun front near back hsplit left right => ⟨?_, ?_⟩⟩
  · have boundary : isCharBoundary (encodeChars (before ++ within ++ after)) (encodeChars front).length = true :=
      isCharBoundary_iff.mpr ⟨front, near ++ back, by rw [hsplit, List.append_assoc], rfl⟩
    have first := charBoundaryAtOrAfter_le boundary (show index - errorContextRadius ≤ _ by omega)
    rw [← starts] at first
    rw [List.append_assoc, List.append_assoc] at hsplit
    exact prefix_of_encodeChars_length hsplit first
  · have whole : (encodeChars (front ++ near)).length ≤ (encodeChars (before ++ within ++ after)).length := by
      rw [hsplit, encodeChars_append (front ++ near), List.length_append]
      exact Nat.le_add_right _ _
    refine prefix_of_encodeChars_length hsplit.symm ?_
    omega

/-- Every byte of a text belongs to one of its characters. -/
theorem exists_char_at (h : index < (encodeChars cs).length) : ∃ front c back, cs = front ++ c :: back ∧
    (encodeChars front).length ≤ index ∧ index < (encodeChars (front ++ [c])).length := by
  induction cs generalizing index with
  | nil => cases h
  | cons c cs ih =>
    rw [encodeChars_cons, List.length_append] at h
    by_cases first : index < (String.utf8EncodeChar c).length
    · exact ⟨[], c, cs, rfl, Nat.zero_le _, by simpa using first⟩
    · obtain ⟨front, d, back, rfl, starts, stops⟩ := ih (show index - (String.utf8EncodeChar c).length < _ by omega)
      refine ⟨c :: front, d, back, rfl, ?_, ?_⟩
      · rw [encodeChars_cons, List.length_append]
        omega
      · rw [List.cons_append, encodeChars_cons, List.length_append]
        omega

theorem strFind_le {needle : List Char} {i : Nat} (h : strFind needle cs = some i) : i ≤ (encodeChars cs).length := by
  induction cs generalizing i with
  | nil =>
    rw [strFind] at h
    split at h
    next => cases h; exact Nat.zero_le _
    next => cases h
  | cons c cs ih =>
    rw [strFind] at h
    split at h
    next => cases h; exact Nat.zero_le _
    next =>
      obtain ⟨j, hj, rfl⟩ := Option.map_eq_some_iff.mp h
      have := ih hj
      rw [encodeChars_cons, List.length_append, String.length_utf8EncodeChar]
      omega

end

section

variable {crates : PayloadCrates} {text : String} {index : Nat}

/-- The slice does not panic, and is what the window is taken to be elsewhere. -/
theorem contextWindow?_eq (h : index ≤ (utf8 text).length) :
    contextWindow? (utf8 text) index = some (contextWindow (utf8 text) index) := by
  rw [utf8_eq_encodeChars] at h ⊢
  obtain ⟨before, within, after, -, slice, -⟩ := contextWindow_stretch h
  rw [contextWindow?, strSlice] at slice ⊢
  split at slice
  next here => rw [if_pos here, contextWindow, List.drop_take]
  next => cases slice

theorem rejectIfDepthTruncated?_eq : rejectIfDepthTruncated? crates text = some (rejectIfDepthTruncated crates text) := by
  unfold rejectIfDepthTruncated? rejectIfDepthTruncated
  cases depthTruncationMarkers.find? fun marker => strContains text.toList marker.toList with
  | none => rfl
  | some marker =>
    have inside : (strFind marker.toList text.toList).getD 0 ≤ (utf8 text).length := by
      cases hfind : strFind marker.toList text.toList with
      | none => exact Nat.zero_le _
      | some i => exact strFind_le hfind
    simp only [contextWindow?_eq inside, Option.map_some]

theorem describeJsonError?_eq {source : JsonError} (h : source.column ≤ (utf8 text).length + 1) :
    describeJsonError? crates text source = some (describeJsonError crates text source) := by
  have inside : source.column - 1 ≤ (utf8 text).length := by omega
  rw [describeJsonError?, contextWindow?_eq inside]
  rfl

/-- `from_str` fails with an error of `serde_json`'s. -/
theorem PsPayload.fromStr_column {source : JsonError} (located : crates.Located)
    (h : PsPayload.fromStr crates text = .error source) : source.column ≤ (utf8 text).length + 1 := by
  rw [PsPayload.fromStr] at h
  cases hread : crates.read text with
  | error e =>
    rw [hread] at h
    cases h
    exact located.read text source hread
  | ok v =>
    rw [hread, Except.bind] at h
    cases hv : PsPayload.deserialize v with
    | none =>
      rw [hv] at h
      cases h
      exact located.mismatch text
    | some envelope =>
      rw [hv] at h
      cases h

end

/-- The window of every index is a stretch of the text's characters with the character at the index
in it and the one behind that, and no error report panics. -/
theorem contextWindow_safe (crates : PayloadCrates) (located : crates.Located) :
    (∀ (text : String) (index : Nat), index ≤ (utf8 text).length → ∃ before within after,
      text.toList = before ++ within ++ after ∧ contextWindow? (utf8 text) index = some (encodeChars within) ∧
      (index < (utf8 text).length → ∃ front c back, text.toList = front ++ c :: back ∧
        (encodeChars front).length ≤ index ∧ index < (encodeChars (front ++ [c])).length ∧
        before <+: front ∧ front ++ c :: back.take 1 <+: before ++ within)) ∧
    (∀ text, ∃ answer, rejectIfDepthTruncated? crates text = some answer) ∧
    ∀ text source, PsPayload.fromStr crates text = .error source →
      ∃ message, describeJsonError? crates text source = some message := by
  have radius : errorContextRadius = 200 := rfl
  refine ⟨fun text index h => ?_, fun text => ⟨_, rejectIfDepthTruncated?_eq⟩,
    fun text source h => ⟨_, describeJsonError?_eq (PsPayload.fromStr_column located h)⟩⟩
  rw [utf8_eq_encodeChars] at h ⊢
  obtain ⟨before, within, after, hsplit, slice, near⟩ := contextWindow_stretch h
  refine ⟨before, within, after, hsplit, slice, fun inside => ?_⟩
  obtain ⟨front, c, back, hchar, starts, stops⟩ := exists_char_at inside
  have size := c.utf8Size_le_four
  have here : (encodeChars (front ++ [c])).length = (encodeChars front).length + c.utf8Size := by simp
  have ahead : (encodeChars (front ++ c :: back.take 1)).length ≤ (encodeChars (front ++ [c])).length + 4 := by
    cases back with
    | nil => exact Nat.le_add_right _ _
    | cons d back =>
      have following := d.utf8Size_le_four
      simp only [encodeChars_append, encodeChars_cons, encodeChars_nil, List.take_succ_cons, List.take_zero,
        List.length_append, List.length_nil, String.length_utf8EncodeChar]
      omega
  obtain ⟨left, right⟩ := near front (c :: back.take 1) (back.drop 1)
    (by rw [hchar, List.append_assoc, List.cons_append, List.take_append_drop])
    (by omega) (by omega)
  exact ⟨front, c, back, hchar, starts, stops, left, right⟩

theorem readerOf_located (envelope : PsPayload) : (readerOf envelope).Located where
  read text e h := by
    have first : e = ⟨"expected value at line 1 column 1", 1⟩ := by
      simp only [readerOf] at h
      split at h
      next => cases h
      next => exact (Except.error.inj h).symm
    rw [first]
    exact Nat.le_add_left 1 _
  mismatch text := Nat.le_add_left 1 _

/-- A text that does not begin as an envelope does is not read. -/
theorem readerOf_other {envelope : PsPayload} {text : String} (h : text.toList.head? ≠ some '{') :
    PsPayload.fromStr (readerOf envelope) text = .error ⟨"expected value at line 1 column 1", 1⟩ := by
  have other : text ≠ envelope.toJson.print := by
    rintro rfl
    exact h (by rw [Json.print, String.toList_ofList]; rfl)
  have refused : (readerOf envelope).read text = .error ⟨"expected value at line 1 column 1", 1⟩ := if_neg other
  rw [PsPayload.fromStr, refused]
  rfl

/-- An index within a character of two bytes, and a text that is no JSON. -/
theorem contextWindow_safe_accent :
    (∃ before within after, "née".toList = before ++ within ++ after ∧
      contextWindow? (utf8 "née") 2 = some (encodeChars within) ∧
      ((2 < (utf8 "née").length) → ∃ front c back, "née".toList = front ++ c :: back ∧ (encodeChars front).length ≤ 2 ∧
        2 < (encodeChars (front ++ [c])).length ∧ before <+: front ∧ front ++ c :: back.take 1 <+: before ++ within)) ∧
    ∃ message, describeJsonError? (readerOf (oneProcess "nginx")) "née" ⟨"expected value at line 1 column 1", 1⟩ =
      some message :=
  ⟨(contextWindow_safe (readerOf (oneProcess "nginx")) (readerOf_located _)).1 "née" 2 (by decide),
    (contextWindow_safe (readerOf (oneProcess "nginx")) (readerOf_located _)).2.2 "née" _ (readerOf_other (by decide))⟩

end AnneDeBreuil
