import AnneDeBreuil.KnownHosts

namespace AnneDeBreuil

/-- A text cut into one piece for each token, which the token may stand for. -/
def Piecewise {α β : Type} (stands : α → List β → Prop) (tokens : List α) (text : List β) : Prop :=
  ∃ pieces, List.Forall₂ stands tokens pieces ∧ pieces.flatten = text

section

variable {α β : Type} {stands : α → List β → Prop} {token : α} {tokens : List α} {text : List β}

theorem piecewise_nil : Piecewise stands [] text ↔ text = [] := by
  simp only [Piecewise, List.forall₂_nil_left_iff, exists_eq_left, List.flatten_nil, eq_comm]

theorem piecewise_cons : Piecewise stands (token :: tokens) text ↔
    ∃ piece rest, stands token piece ∧ Piecewise stands tokens rest ∧ piece ++ rest = text := by
  constructor
  · rintro ⟨pieces, hpieces, rfl⟩
    obtain ⟨piece, rest, hpiece, hrest, rfl⟩ := List.forall₂_cons_left_iff.mp hpieces
    exact ⟨piece, rest.flatten, hpiece, ⟨rest, hrest, rfl⟩, rfl⟩
  · rintro ⟨piece, _, hpiece, ⟨rest, hrest, rfl⟩, rfl⟩
    exact ⟨piece :: rest, .cons hpiece hrest, rfl⟩

end

/-- `*` stands for any bytes, `?` for one, and another byte for itself. -/
def GlobStands (p : UInt8) (piece : Utf8) : Prop := p = 42 ∨ p = 63 ∧ piece.length = 1 ∨ piece = [p]

def GlobMatches (pattern text : Utf8) : Prop := Piecewise GlobStands pattern text

/-- The recursion as the source has it, with its two branches at a `*`. -/
def globMatchRec : Utf8 → Utf8 → Bool
  | [], text => text.isEmpty
  | p :: pattern, [] => p = 42 && globMatchRec pattern []
  | p :: pattern, c :: text =>
    if p = 42 then globMatchRec pattern (c :: text) || globMatchRec (p :: pattern) text
    else (p = 63 || p = c) && globMatchRec pattern text
termination_by pattern text => pattern.length + text.length

section

variable {p c : UInt8} {pattern text : Utf8}

theorem globMatchBytes_many : globMatchBytes (42 :: pattern) text = globStar (globMatchBytes pattern) text := by
  simp [globMatchBytes]

theorem globMatchBytes_one (h : p ≠ 42) :
    globMatchBytes (p :: pattern) (c :: text) = ((p = 63 || p = c) && globMatchBytes pattern text) := by
  simp [globMatchBytes, h]

theorem globMatchBytes_exhausted (h : p ≠ 42) : globMatchBytes (p :: pattern) [] = false := by
  simp [globMatchBytes, h]

end

theorem globMatchRec_eq (pattern text : Utf8) : globMatchRec pattern text = globMatchBytes pattern text := by
  fun_induction globMatchRec pattern text with
  | case1 text => rfl
  | case2 p pattern ih =>
    by_cases star : p = 42
    · subst star
      rw [globMatchBytes_star, ih]
      simp
    · rw [globMatchBytes_exhausted star]
      simp [star]
  | case3 pattern c text here later =>
    rw [here, later, globMatchBytes_star pattern (c :: text)]
    rfl
  | case4 p pattern c text notStar ih => rw [globMatchBytes_one notStar, ih]

theorem globStar_iff {matchesRest : Utf8 → Bool} {text : Utf8} :
    globStar matchesRest text = true ↔ ∃ piece rest, piece ++ rest = text ∧ matchesRest rest = true := by
  induction text with
  | nil => simp [globStar]
  | cons c text ih =>
    rw [globStar, Bool.or_eq_true, ih]
    constructor
    · rintro (here | ⟨piece, rest, rfl, later⟩)
      · exact ⟨[], c :: text, rfl, here⟩
      · exact ⟨c :: piece, rest, rfl, later⟩
    · rintro ⟨piece, rest, hsplit, hrest⟩
      cases piece with
      | nil => exact .inl (hsplit ▸ hrest)
      | cons _ piece =>
        cases hsplit
        exact .inr ⟨piece, rest, rfl, hrest⟩

theorem globMatchBytes_iff {pattern text : Utf8} : globMatchBytes pattern text = true ↔ GlobMatches pattern text := by
  induction pattern generalizing text with
  | nil => rw [GlobMatches, piecewise_nil, globMatchBytes, List.isEmpty_iff]
  | cons p pattern ih =>
    rw [GlobMatches, piecewise_cons]
    by_cases star : p = 42
    · subst star
      simp only [globMatchBytes_many, globStar_iff, ih, GlobStands, true_or, true_and]
      exact exists₂_congr fun _ _ => and_comm
    simp only [GlobStands, star, false_or]
    cases text with
    | nil =>
      refine iff_of_false (by simp [globMatchBytes_exhausted star]) ?_
      rintro ⟨piece, rest, ⟨-, one⟩ | rfl, -, hsplit⟩
      · rw [(List.append_eq_nil_iff.mp hsplit).1] at one
        cases one
      · cases hsplit
    | cons c text =>
      rw [globMatchBytes_one star, Bool.and_eq_true, Bool.or_eq_true, decide_eq_true_eq, decide_eq_true_eq, ih]
      constructor
      · rintro ⟨hp | rfl, hrest⟩
        · exact ⟨[c], text, .inl ⟨hp, rfl⟩, hrest, rfl⟩
        · exact ⟨[p], text, .inr rfl, hrest, rfl⟩
      · rintro ⟨piece, rest, ⟨hp, one⟩ | rfl, hrest, hsplit⟩
        · obtain ⟨b, rfl⟩ := List.length_eq_one_iff.mp one
          cases hsplit
          exact ⟨.inl hp, hrest⟩
        · cases hsplit
          exact ⟨.inr rfl, hrest⟩

section

variable (host : String)

/-- A pattern without the mark matches the host. -/
def PlainMatch (raw : String) : Prop := raw.toList.head? ≠ some '!' ∧ GlobMatches (utf8 raw) (utf8 host)

/-- What stands behind the mark of a negated pattern matches the host. -/
def NegatedMatch (raw : String) : Prop :=
  ∃ chars, raw.toList = '!' :: chars ∧ GlobMatches (utf8 (String.ofList chars)) (utf8 host)

end

section

variable {host raw : String} {rest : List String} {matched : Bool} {chars : List Char}

theorem patternListMatches_negated (h : raw.toList = '!' :: chars) : patternListMatches host (raw :: rest) matched =
    (!globMatch (String.ofList chars) host && patternListMatches host rest matched) := by
  simp only [patternListMatches, h]
  cases globMatch (String.ofList chars) host <;> rfl

theorem patternListMatches_plain (h : raw.toList.head? ≠ some '!') : patternListMatches host (raw :: rest) matched =
    patternListMatches host rest (matched || globMatch raw host) := by
  rw [patternListMatches]
  split
  next negate pattern hread =>
    split at hread
    next chars hmark => exact absurd (by rw [hmark]; rfl) h
    next =>
      cases hread
      cases globMatch raw host <;> simp

theorem globMatch_iff {pattern text : String} : globMatch pattern text = true ↔ GlobMatches (utf8 pattern) (utf8 text) :=
  globMatchBytes_iff

/-- What the loop answers, by the patterns that are left. -/
theorem patternListMatches_iff {list : List String} : patternListMatches host list matched = true ↔
    (matched = true ∨ ∃ raw ∈ list, PlainMatch host raw) ∧ ∀ raw ∈ list, ¬NegatedMatch host raw := by
  induction list generalizing matched with
  | nil => simp [patternListMatches]
  | cons raw rest ih =>
    simp only [List.exists_mem_cons_iff, List.forall_mem_cons]
    by_cases mark : raw.toList.head? = some '!'
    · obtain ⟨chars, hraw⟩ := List.head?_eq_some_iff.mp mark
      have plain : ¬PlainMatch host raw := fun h => h.1 mark
      have negated : NegatedMatch host raw ↔ globMatch (String.ofList chars) host = true := by
        simp only [NegatedMatch, hraw, globMatch_iff, List.cons.injEq, true_and, exists_eq_left']
      rw [patternListMatches_negated hraw, Bool.and_eq_true, Bool.not_eq_true', ih, negated, Bool.not_eq_true]
      simp only [plain, false_or]
      exact and_left_comm
    · have negated : ¬NegatedMatch host raw := by
        rintro ⟨chars, hraw, -⟩
        exact mark (by rw [hraw]; rfl)
      have plain : PlainMatch host raw ↔ globMatch raw host = true := by
        rw [globMatch_iff]
        exact and_iff_right mark
      rw [patternListMatches_plain mark, ih, Bool.or_eq_true, plain, or_assoc]
      simp only [negated, not_false_eq_true, true_and]

end

/-- A glob means what its bytes stand for, and a list of patterns lets a host in
by a plain pattern unless a negated one speaks of it, in any order. -/
theorem hostPatternMatches_declarative :
    (∀ pattern text : Utf8, globMatchRec pattern text = globMatchBytes pattern text ∧
      (globMatchBytes pattern text = true ↔ GlobMatches pattern text)) ∧
    (∀ pattern text : String, globMatch pattern text = true ↔ GlobMatches (utf8 pattern) (utf8 text)) ∧
    ∀ (crates : SshCrates) (list : List String) (host : String),
      (hostPatternMatches crates (.patterns list) host = true ↔
        (∃ raw ∈ list, PlainMatch host raw) ∧ ∀ raw ∈ list, ¬NegatedMatch host raw) ∧
      ∀ list', list'.Perm list →
        hostPatternMatches crates (.patterns list') host = hostPatternMatches crates (.patterns list) host := by
  have meaning : ∀ (crates : SshCrates) (list : List String) (host : String),
      hostPatternMatches crates (.patterns list) host = true ↔
        (∃ raw ∈ list, PlainMatch host raw) ∧ ∀ raw ∈ list, ¬NegatedMatch host raw := by
    intro crates list host
    rw [hostPatternMatches, patternListMatches_iff]
    simp
  refine ⟨fun pattern text => ⟨globMatchRec_eq pattern text, globMatchBytes_iff⟩, fun _ _ => globMatch_iff,
    fun crates list host => ⟨meaning crates list host, ?_⟩⟩
  intro list' same
  rw [Bool.eq_iff_iff, meaning, meaning]
  simp only [same.mem_iff]

end AnneDeBreuil
