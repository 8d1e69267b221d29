import AnneDeBreuil.Brackets

namespace AnneDeBreuil

/-- A pattern longer than this many bytes is rejected at load. -/
def maxPatternLen : Nat := 256

/-- Why an entry is left out of the catalogue; `ε` is what the regex crate reports. -/
inductive CatalogueError (ε : Type)
  | patternTooLong (pattern : String) (len : Nat)
  | nestedUnboundedQuantifier (pattern : String)
  | invalidRegex (pattern : String) (source : ε)
  | noMatchers (name : String)
deriving DecidableEq, Repr

def isQuantifierChar (c : Char) : Bool := c = '*' || c = '+' || c = '?' || c = '{'

def markQuantifier : List Bool → List Bool
  | [] => []
  | _ :: below => true :: below

/-- The loop over the characters, with a flag for each group that is open. -/
def scanPattern : List Char → List Bool → Bool → Bool
  | [], _, _ => false
  | ['\\'], _, _ => false
  | '\\' :: _ :: chars, groupHasQuantifier, _ => scanPattern chars groupHasQuantifier false
  | ch :: chars, groupHasQuantifier, wasJustOpened =>
    if ch = '(' then scanPattern chars (false :: groupHasQuantifier) true
    else if ch = ')' then
      if groupHasQuantifier.head?.getD false && chars.head?.any isQuantifierChar then true
      else scanPattern chars groupHasQuantifier.tail false
    else if ch = '*' || ch = '+' || ch = '{' then scanPattern chars (markQuantifier groupHasQuantifier) false
    else if ch = '?' && !wasJustOpened then scanPattern chars (markQuantifier groupHasQuantifier) false
    else scanPattern chars groupHasQuantifier false

def hasNestedUnboundedQuantifier (pattern : String) : Bool := scanPattern pattern.toList [] false

def checkComplexity {ε : Type} (pattern : String) : Except (CatalogueError ε) Unit :=
  if maxPatternLen < pattern.utf8ByteSize then .error (.patternTooLong pattern pattern.utf8ByteSize)
  else if hasNestedUnboundedQuantifier pattern then .error (.nestedUnboundedQuantifier pattern)
  else .ok ()

inductive PatternAtom
  | quantifier
  | plain
deriving DecidableEq, Repr

/-- A pattern's characters by what they are for: an escape takes the character
behind it along, and a group's `(?` is one mark. -/
def patternTokens : List Char → List (BracketToken PatternAtom)
  | [] => []
  | ['\\'] => [.atom .plain]
  | '\\' :: _ :: chars => .atom .plain :: patternTokens chars
  | '(' :: '?' :: chars => .opens :: .atom .plain :: patternTokens chars
  | '(' :: chars => .opens :: patternTokens chars
  | ')' :: chars => .closes :: patternTokens chars
  | ch :: chars => .atom (if isQuantifierChar ch then .quantifier else .plain) :: patternTokens chars

/-- A group of the pattern, by its content, with a quantifier right behind it. -/
def QuantifiedGroup (pattern : String) (content : Nest PatternAtom) : Prop :=
  ∃ before after, patternTokens pattern.toList =
    before ++ .opens :: (content.tokens ++ .closes :: .atom .quantifier :: after)

/-- A quantified group holds a quantifier, at any depth. -/
def NestedQuantifier (pattern : String) : Prop :=
  ∃ content, QuantifiedGroup pattern content ∧ .quantifier ∈ content.atoms

/-- A quantified group holds a quantifier outside of its own groups. -/
def DirectQuantifier (pattern : String) : Prop :=
  ∃ content, QuantifiedGroup pattern content ∧ .quantifier ∈ content.level

/-- A quantified group holds a quantifier in one of its own groups. -/
def HiddenQuantifier (pattern : String) : Prop :=
  ∃ content, QuantifiedGroup pattern content ∧ ∃ inner ∈ content.groups, .quantifier ∈ inner.atoms

/-- An atom of a group's content, taken into the flag of the group. -/
def flagAtom (flag : Bool) (atom : PatternAtom) : Bool := flag || atom = .quantifier

theorem foldl_flagAtom (atoms : List PatternAtom) (flag : Bool) :
    atoms.foldl flagAtom flag = true ↔ flag = true ∨ .quantifier ∈ atoms := by
  induction atoms generalizing flag with
  | nil => simp
  | cons atom atoms ih =>
    rw [List.foldl_cons, ih, flagAtom, Bool.or_eq_true, decide_eq_true_eq, List.mem_cons, or_assoc, eq_comm (a := atom)]

/-- The loop over the tokens. -/
def scanTokens : List (BracketToken PatternAtom) → List Bool → Bool
  | [], _ => false
  | token :: tokens, flags =>
    (token = .closes && flags.head?.getD false && tokens.head? = some (.atom .quantifier)) ||
      scanTokens tokens (bracketStep flagAtom false flags token)

theorem bracketStep_plain (flags : List Bool) : bracketStep flagAtom false flags (.atom .plain) = flags := by
  cases flags with
  | nil => rfl
  | cons top below => simp [bracketStep, flagAtom]

theorem bracketStep_quantifier (flags : List Bool) :
    bracketStep flagAtom false flags (.atom .quantifier) = markQuantifier flags := by
  cases flags with
  | nil => rfl
  | cons top below => simp [bracketStep, flagAtom, markQuantifier]

theorem patternTokens_head? (chars : List Char) :
    (patternTokens chars).head? = some (.atom .quantifier) ↔ chars.head?.any isQuantifierChar = true := by
  fun_cases patternTokens chars
  case case7 ch chars _ _ _ _ _ =>
    cases quantifier : isQuantifierChar ch <;> simp [quantifier]
  all_goals simp [isQuantifierChar]

/-- Right behind a bracket only `?` is read in another way. -/
theorem scanPattern_justOpened {chars : List Char} (h : chars.head? ≠ some '?') (flags : List Bool) :
    scanPattern chars flags true = scanPattern chars flags false := by
  fun_cases scanPattern chars flags true
  all_goals grind [scanPattern]

theorem scanPattern_close (chars : List Char) (flags : List Bool) : scanPattern (')' :: chars) flags false =
    (flags.head?.getD false && chars.head?.any isQuantifierChar || scanPattern chars flags.tail false) := by
  rw [scanPattern, if_neg (by decide), if_pos rfl]
  · cases flags.head?.getD false && chars.head?.any isQuantifierChar <;> rfl
  · nofun
  · nofun

theorem scanPattern_atom {ch : Char} (hescape : ch ≠ '\\') (hopen : ch ≠ '(') (hclose : ch ≠ ')') (chars : List Char)
    (flags : List Bool) : scanPattern (ch :: chars) flags false =
      scanPattern chars (if isQuantifierChar ch then markQuantifier flags else flags) false := by
  rw [scanPattern, if_neg hopen, if_neg hclose]
  · by_cases mark : ch = '?'
    · subst mark
      rfl
    · by_cases quantifier : (ch = '*' || ch = '+' || ch = '{') = true
      · rw [if_pos quantifier, if_pos]
        simpa [isQuantifierChar, mark] using quantifier
      · rw [if_neg quantifier, if_neg (by simp [mark]), if_neg]
        simpa [isQuantifierChar, mark] using quantifier
  · exact fun h _ => hescape h
  · exact fun _ _ h _ => hescape h

/-- The loop reads the characters by their tokens. -/
theorem scanPattern_eq (chars : List Char) (flags : List Bool) :
    scanPattern chars flags false = scanTokens (patternTokens chars) flags := by
  fun_induction patternTokens chars generalizing flags with
  | case1 => rfl
  | case2 => simp [scanPattern, scanTokens]
  | case3 escaped chars ih => simp [scanPattern, scanTokens, bracketStep_plain, ih]
  | case4 chars ih => simp [scanPattern, scanTokens, bracketStep, flagAtom, ih]
  | case5 chars notPrefix ih =>
    have behind : chars.head? ≠ some '?' := by
      intro h
      obtain ⟨rest, hrest⟩ := List.head?_eq_some_iff.mp h
      exact notPrefix rest hrest
    simp [scanPattern, scanTokens, bracketStep, scanPattern_justOpened behind, ih]
  | case6 chars ih =>
    have next : decide ((patternTokens chars).head? = some (.atom .quantifier)) = chars.head?.any isQuantifierChar := by
      rw [Bool.eq_iff_iff, decide_eq_true_eq, patternTokens_head?]
    rw [scanPattern_close, ih, scanTokens, next]
    rfl
  | case7 ch chars ne_last ne_escaped ne_prefix ne_open ne_close ih =>
    have hescape : ch ≠ '\\' := by
      rintro rfl
      cases chars with
      | nil => exact ne_last rfl rfl
      | cons escaped chars => exact ne_escaped escaped chars rfl rfl
    rw [scanPattern_atom hescape ne_open ne_close, ih, scanTokens]
    cases isQuantifierChar ch
    · simp [bracketStep_plain]
    · simp [bracketStep_quantifier]

/-- The loop stops at a closing bracket with a quantifier behind it, where the
group that it closes is flagged. -/
theorem scanTokens_iff {tokens : List (BracketToken PatternAtom)} {flags : List Bool} :
    scanTokens tokens flags = true ↔ ∃ read after, tokens = read ++ .closes :: .atom .quantifier :: after ∧
      (bracketWalk flagAtom false flags read).head? = some true := by
  induction tokens generalizing flags with
  | nil => simp [scanTokens]
  | cons token tokens ih =>
    rw [scanTokens, Bool.or_eq_true, ih]
    constructor
    · rintro (here | ⟨read, after, rfl, hflag⟩)
      · simp only [Bool.and_eq_true, decide_eq_true_eq] at here
        obtain ⟨⟨rfl, hflag⟩, hnext⟩ := here
        obtain ⟨after, rfl⟩ := List.head?_eq_some_iff.mp hnext
        refine ⟨[], after, rfl, ?_⟩
        cases flags with
        | nil => cases hflag
        | cons top below => exact congrArg some hflag
      · exact ⟨token :: read, after, rfl, hflag⟩
    · rintro ⟨read, after, hread, hflag⟩
      cases read with
      | nil =>
        obtain ⟨rfl, rfl⟩ := List.cons.inj hread
        have top : flags.head? = some true := hflag
        exact .inl (by simp [top])
      | cons first read =>
        obtain ⟨rfl, rfl⟩ := List.cons.inj hread
        exact .inr ⟨read, after, rfl, hflag⟩

/-- The check finds the quantifiers that stand directly in a quantified group. -/
theorem hasNestedUnboundedQuantifier_eq_true {pattern : String} :
    hasNestedUnboundedQuantifier pattern = true ↔ DirectQuantifier pattern := by
  rw [hasNestedUnboundedQuantifier, scanPattern_eq, scanTokens_iff]
  constructor
  · rintro ⟨read, after, htokens, hflag⟩
    obtain ⟨before, content, rfl, hlevel⟩ := bracketWalk_head?_iff.mp hflag
    refine ⟨content, ⟨before, after, by simpa using htokens⟩, ?_⟩
    simpa using (foldl_flagAtom content.level false).mp hlevel
  · rintro ⟨content, ⟨before, after, htokens⟩, hmem⟩
    refine ⟨before ++ .opens :: content.tokens, after, by simpa using htokens, ?_⟩
    exact bracketWalk_head?_iff.mpr ⟨before, content, rfl, (foldl_flagAtom content.level false).mpr (.inr hmem)⟩

theorem nestedQuantifier_iff {pattern : String} :
    NestedQuantifier pattern ↔ DirectQuantifier pattern ∨ HiddenQuantifier pattern := by
  rw [NestedQuantifier, DirectQuantifier, HiddenQuantifier, ← exists_or]
  exact exists_congr fun content => by rw [Nest.mem_atoms_iff, and_or_left]

theorem hasNestedUnboundedQuantifier_iff_nested (pattern : String) :
    (hasNestedUnboundedQuantifier pattern = true ↔ NestedQuantifier pattern) ↔
      (HiddenQuantifier pattern → DirectQuantifier pattern) := by
  rw [hasNestedUnboundedQuantifier_eq_true, nestedQuantifier_iff]
  constructor
  · exact fun agree hidden => agree.mpr (.inr hidden)
  · exact fun shown => ⟨.inl, fun found => found.elim id shown⟩

/-- A quantifier behind two brackets is not found, and the pattern is let through. -/
theorem hasNestedUnboundedQuantifier_counterexample :
    hasNestedUnboundedQuantifier "((a*))+" = false ∧ NestedQuantifier "((a*))+" ∧
      checkComplexity (ε := Empty) "((a*))+" = .ok () := by
  refine ⟨by decide, ⟨.group (.atom .plain (.atom .quantifier .nil)) .nil, ⟨[], [], by decide⟩, by decide⟩, by decide⟩

end AnneDeBreuil
