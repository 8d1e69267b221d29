import AnneDeBreuil.Utf8Lossy
import Mathlib.Data.List.Induction

namespace AnneDeBreuil

/-- `read_capped`, over what `Response::chunk` answers until the end of the body. -/
def readCapped {ε : Type} (cap : Nat) (buf : List UInt8) : List (Except ε (List UInt8)) → Except ε (List UInt8)
  | [] => .ok buf
  | answer :: answers =>
    if buf.length < cap then
      match answer with
      | .error e => .error e
      | .ok chunk =>
        let remaining := cap - buf.length
        if chunk.length ≤ remaining then readCapped cap (buf ++ chunk) answers else .ok (buf ++ chunk.take remaining)
    else .ok buf

def decodeCappedBody (bytes : List UInt8) : Utf8 :=
  let lossy := encodeChars (fromUtf8Lossy none bytes)
  let boundary := floorCharBoundary lossy (min bytes.length lossy.length)
  if isCharBoundary lossy boundary then lossy.take boundary else lossy

/-- The longest stretch of whole characters, from the start, that fits. -/
structure LongestFit (cs : List Char) (cap : Nat) (kept : List Char) : Prop where
  whole : kept <+: cs
  fits : (encodeChars kept).length ≤ cap
  longest : ∀ other, other <+: cs → (encodeChars other).length ≤ cap → other <+: kept

/-- The cap falls behind the third of a character's four bytes. -/
def CutInFourth (cs : List Char) (cap : Nat) (kept : List Char) : Prop :=
  ∃ c rest, cs = kept ++ c :: rest ∧ c.utf8Size = 4 ∧ cap = (encodeChars kept).length + 3

section

variable {ε : Type} {cap : Nat}

/-- However the body is cut into chunks, its first bytes are read up to the cap. -/
theorem readCapped_chunks (chunks : List (List UInt8)) (buf : List UInt8) (h : buf.length ≤ cap) :
    readCapped (ε := ε) cap buf (chunks.map .ok) = .ok ((buf ++ chunks.flatten).take cap) := by
  induction chunks generalizing buf with
  | nil => rw [List.map_nil, readCapped, List.flatten_nil, List.append_nil, List.take_of_length_le h]
  | cons chunk chunks ih =>
    rw [List.map_cons, readCapped, List.flatten_cons]
    split
    next room =>
      simp only
      split
      next fits =>
        have grown : (buf ++ chunk).length ≤ cap := by
          rw [List.length_append]
          omega
        rw [ih _ grown, List.append_assoc]
      next exceeds =>
        have fills : cap - buf.length ≤ chunk.length := by omega
        rw [List.take_append, List.take_of_length_le h, List.take_append_of_le_length fills]
    next full =>
      have filled : buf.length = cap := by omega
      rw [← filled, List.take_left]

theorem decodeCappedBody_eq (bytes : List UInt8) : decodeCappedBody bytes =
    (encodeChars (fromUtf8Lossy none bytes)).take (floorCharBoundary (encodeChars (fromUtf8Lossy none bytes))
      (min bytes.length (encodeChars (fromUtf8Lossy none bytes)).length)) := by
  rw [decodeCappedBody]
  simp only [floorCharBoundary_boundary, if_true]

theorem decodeCappedBody_length (bytes : List UInt8) : (decodeCappedBody bytes).length ≤ bytes.length := by
  have bound := floorCharBoundary_le (encodeChars (fromUtf8Lossy none bytes))
    (min bytes.length (encodeChars (fromUtf8Lossy none bytes)).length)
  rw [decodeCappedBody_eq, List.length_take]
  omega

/-- Whole characters are all kept. -/
theorem decodeCappedBody_encodeChars (cs : List Char) : decodeCappedBody (encodeChars cs) = encodeChars cs := by
  have read : fromUtf8Lossy none (encodeChars cs) = cs := by
    have all := fromUtf8Lossy_encodeChars cs []
    have nothing : fromUtf8Lossy none [] = [] := rfl
    rwa [List.append_nil, nothing, List.append_nil] at all
  rw [decodeCappedBody_eq, read, min_self, floorCharBoundary, if_pos (Nat.le_refl _), List.take_length]

/-- Of a character that is cut, the replacement is left where there is room for it. -/
theorem decodeCappedBody_cut (kept : List Char) {c : Char} {k : Nat} (start : 0 < k) (missing : k < c.utf8Size) :
    decodeCappedBody (encodeChars kept ++ (String.utf8EncodeChar c).take k) =
      encodeChars kept ++ if k = 3 then encodeChars [replacement] else [] := by
  have size : (encodeChars [replacement]).length = 3 := by decide
  have small : k ≤ 3 := by
    have := c.utf8Size_le_four
    omega
  have cutLength : ((String.utf8EncodeChar c).take k).length = k := by
    rw [List.length_take, String.length_utf8EncodeChar]
    omega
  have read : fromUtf8Lossy none (encodeChars kept ++ (String.utf8EncodeChar c).take k) = kept ++ [replacement] := by
    rw [fromUtf8Lossy_encodeChars, fromUtf8Lossy_cut start missing]
  have index : min (encodeChars kept ++ (String.utf8EncodeChar c).take k).length (encodeChars (kept ++ [replacement])).length =
      (encodeChars kept).length + k := by
    rw [encodeChars_append, List.length_append, List.length_append, size, cutLength]
    omega
  have all : (encodeChars (kept ++ [replacement])).length = (encodeChars kept).length + 3 := by
    rw [encodeChars_append, List.length_append, size]
  rw [decodeCappedBody_eq, read, index]
  split
  next room =>
    rw [room, ← all, floorCharBoundary, if_pos (Nat.le_refl _), List.take_length, encodeChars_append]
  next narrow =>
    have boundary := floorCharBoundary_boundary (encodeChars (kept ++ [replacement])) ((encodeChars kept).length + k)
    have above : (encodeChars kept).length ≤
        floorCharBoundary (encodeChars (kept ++ [replacement])) ((encodeChars kept).length + k) :=
      le_floorCharBoundary (isCharBoundary_iff.mpr ⟨kept, [replacement], rfl, rfl⟩) (Nat.le_add_right _ _)
    have below := floorCharBoundary_le (encodeChars (kept ++ [replacement])) ((encodeChars kept).length + k)
    obtain ⟨before, after, hsplit, hlength⟩ := isCharBoundary_iff.mp boundary
    have within : (encodeChars before).length ≤ (encodeChars kept).length := by
      cases after with
      | nil =>
        have whole : (encodeChars before).length = (encodeChars kept).length + 3 := by
          rw [← all, hsplit, List.append_nil]
        omega
      | cons d after =>
        have ends := congrArg List.dropLast hsplit
        rw [List.dropLast_concat, List.dropLast_append_of_ne_nil (List.cons_ne_nil _ _)] at ends
        rw [ends, encodeChars_append, List.length_append]
        exact Nat.le_add_right _ _
    have stop : floorCharBoundary (encodeChars (kept ++ [replacement])) ((encodeChars kept).length + k) =
        (encodeChars kept).length := by omega
    rw [stop, encodeChars_append, List.take_left, List.append_nil]

end

/-- The characters up to the first that does not fit. -/
theorem longestFit_exists (cs : List Char) (cap : Nat) : ∃ kept rest, cs = kept ++ rest ∧ LongestFit cs cap kept ∧
    ∀ c after, rest = c :: after → cap < (encodeChars kept).length + c.utf8Size := by
  obtain ⟨kept, rest, rfl, fits, full⟩ : ∃ kept rest, cs = kept ++ rest ∧ (encodeChars kept).length ≤ cap ∧
      ∀ c after, rest = c :: after → cap < (encodeChars kept).length + c.utf8Size := by
    induction cs using List.reverseRecOn with
    | nil => exact ⟨[], [], rfl, Nat.zero_le _, nofun⟩
    | append_singleton cs d ih =>
      by_cases all : (encodeChars (cs ++ [d])).length ≤ cap
      · exact ⟨cs ++ [d], [], (List.append_nil _).symm, all, nofun⟩
      obtain ⟨kept, rest, rfl, fits, full⟩ := ih
      refine ⟨kept, rest ++ [d], by simp, fits, fun c after hrest => ?_⟩
      cases rest with
      | nil =>
        obtain ⟨rfl, -⟩ := List.cons.inj hrest
        simp only [List.append_nil, encodeChars_append, encodeChars_cons, encodeChars_nil, List.length_append,
          String.length_utf8EncodeChar] at all
        omega
      | cons first rest =>
        obtain ⟨rfl, -⟩ := List.cons.inj hrest
        exact full _ _ rfl
  refine ⟨kept, rest, rfl, ⟨List.prefix_append _ _, fits, fun other whole small => ?_⟩, full⟩
  rcases List.prefix_or_prefix_of_prefix whole (List.prefix_append kept rest) with shorter | longer
  · exact shorter
  · obtain ⟨more, rfl⟩ := longer
    obtain ⟨after, hafter⟩ := (List.prefix_append_right_inj kept).mp whole
    cases more with
    | nil => simp
    | cons c more =>
      have exceeds := full c (more ++ after) hafter.symm
      simp only [encodeChars_append, encodeChars_cons, List.length_append, String.length_utf8EncodeChar] at small
      omega

/-- What the cap leaves of a text: whole characters, and of the next one its first bytes. -/
theorem decodeCappedBody_take {kept rest : List Char} {cap : Nat} (fits : (encodeChars kept).length ≤ cap)
    (full : ∀ c after, rest = c :: after → cap < (encodeChars kept).length + c.utf8Size) :
    (CutInFourth (kept ++ rest) cap kept →
      decodeCappedBody ((encodeChars (kept ++ rest)).take cap) = encodeChars kept ++ encodeChars [replacement]) ∧
    (¬CutInFourth (kept ++ rest) cap kept →
      decodeCappedBody ((encodeChars (kept ++ rest)).take cap) = encodeChars kept) := by
  obtain ⟨k, rfl⟩ := Nat.exists_eq_add_of_le fits
  rw [encodeChars_append, List.take_length_add_append]
  cases rest with
  | nil =>
    rw [encodeChars_nil, List.take_nil, List.append_nil, List.append_nil, decodeCappedBody_encodeChars]
    refine ⟨?_, fun _ => rfl⟩
    rintro ⟨c, rest, hsplit, -⟩
    simp at hsplit
  | cons c after =>
    have missing : k < c.utf8Size := by
      have := full c after rfl
      omega
    have cut : k ≤ (String.utf8EncodeChar c).length := by
      rw [String.length_utf8EncodeChar]
      omega
    have fourth : CutInFourth (kept ++ c :: after) ((encodeChars kept).length + k) kept ↔ k = 3 := by
      constructor
      · rintro ⟨_, _, -, -, hcap⟩
        omega
      · rintro rfl
        have most := c.utf8Size_le_four
        exact ⟨c, after, rfl, by omega, rfl⟩
    rw [encodeChars_cons, List.take_append_of_le_length cut, fourth]
    by_cases start : 0 < k
    · rw [decodeCappedBody_cut kept start missing]
      refine ⟨fun third => ?_, fun other => ?_⟩
      · rw [if_pos third]
      · rw [if_neg other, List.append_nil]
    · obtain rfl : k = 0 := by omega
      rw [List.take_zero, List.append_nil, decodeCappedBody_encodeChars]
      exact ⟨nofun, fun _ => rfl⟩

/-- The text of a body depends on the bytes within the cap alone and is no longer; of a body that is
text it is the longest stretch of whole characters, and a replacement behind it where the cap leaves three
bytes of a character. -/
theorem cappedBody_text {ε : Type} (chunks : List (List UInt8)) (cap : Nat) :
    ∃ text : Utf8, (readCapped (ε := ε) cap [] (chunks.map .ok)).map decodeCappedBody = .ok text ∧
      (∀ chunks' : List (List UInt8), chunks'.flatten.take cap = chunks.flatten.take cap →
        (readCapped (ε := ε) cap [] (chunks'.map .ok)).map decodeCappedBody = .ok text) ∧
      text.length ≤ cap ∧
      ∀ body : String, chunks.flatten = utf8 body → ∃ kept, LongestFit body.toList cap kept ∧
        (CutInFourth body.toList cap kept → text = encodeChars kept ++ encodeChars [replacement]) ∧
        (¬CutInFourth body.toList cap kept → text = encodeChars kept) := by
  have text : ∀ chunks : List (List UInt8), (readCapped (ε := ε) cap [] (chunks.map .ok)).map decodeCappedBody =
      .ok (decodeCappedBody (chunks.flatten.take cap)) := by
    intro chunks
    rw [readCapped_chunks chunks [] (Nat.zero_le cap), List.nil_append]
    rfl
  refine ⟨decodeCappedBody (chunks.flatten.take cap), text chunks, fun chunks' same => ?_, ?_, fun body hbody => ?_⟩
  · rw [text chunks', same]
  · exact (decodeCappedBody_length _).trans (List.length_take_le cap chunks.flatten)
  · obtain ⟨kept, rest, hsplit, longest, full⟩ := longestFit_exists body.toList cap
    refine ⟨kept, longest, ?_⟩
    rw [hbody, utf8_eq_encodeChars, hsplit]
    exact decodeCappedBody_take longest.fits full

/-- Three bytes of four are left as a replacement, which the body does not have. -/
theorem cappedBody_clef : ¬∀ (chunks : List (List UInt8)) (cap : Nat) (body : String), chunks.flatten = utf8 body →
    ∃ kept, LongestFit body.toList cap kept ∧
      (readCapped (ε := Empty) cap [] (chunks.map .ok)).map decodeCappedBody = .ok (encodeChars kept) := by
  intro whole
  obtain ⟨kept, longest, text⟩ := whole [[0xF0, 0x9D, 0x84, 0x9E]] 3 (String.ofList [Char.ofNat 0x1D11E]) (by decide)
  have read : (readCapped (ε := Empty) 3 [] [.ok [0xF0, 0x9D, 0x84, 0x9E]]).map decodeCappedBody =
      .ok [0xEF, 0xBF, 0xBD] := rfl
  have same := Except.ok.inj (read.symm.trans text)
  have part : kept <+: [Char.ofNat 0x1D11E] := longest.whole
  rcases List.prefix_cons_iff.mp part with rfl | ⟨more, rfl, hmore⟩
  · cases same
  · rw [List.prefix_nil.mp hmore] at same
    revert same
    decide

end AnneDeBreuil
