import AnneDeBreuil.Endpoint
import AnneDeBreuil.PriorityClaim
import AnneDeBreuil.Splice
import AnneDeBreuil.Utf8Boundary

namespace AnneDeBreuil

inductive SecretCategory
  | passwordAssignment
  | connectionStringPassword
  | bearerToken
  | pemBlock
  | awsKeyId
  | highEntropyToken
deriving DecidableEq, Repr

/-- The derived `Debug` text. -/
def SecretCategory.debug : SecretCategory → String
  | .passwordAssignment => "PasswordAssignment"
  | .connectionStringPassword => "ConnectionStringPassword"
  | .bearerToken => "BearerToken"
  | .pemBlock => "PemBlock"
  | .awsKeyId => "AwsKeyId"
  | .highEntropyToken => "HighEntropyToken"

structure Redacted (α : Type) where
  inner : Option α
  category : SecretCategory
  offset : Nat
deriving DecidableEq, Repr

/-- `Regex::find_iter`: the byte ranges of a pattern's matches in a text. -/
abbrev FindIter := Utf8 → List (Nat × Nat)

def rawPatterns : List (String × SecretCategory) :=
  [("-----BEGIN [A-Z ]+-----", .pemBlock),
    ("AKIA[0-9A-Z]\x7b16\x7d", .awsKeyId),
    ("(?i)bearer\\s+[A-Za-z0-9\\-._~+/]+=*", .bearerToken),
    ("(?i)password\\s*=\\s*[^;\\s]+;", .connectionStringPassword),
    ("(?i)\\bpassword\\s*=\\s*\\S+", .passwordAssignment),
    ("(?i)\\bpwd\\s*[:=]\\s*\\S+", .passwordAssignment),
    ("[A-Za-z0-9+/]\x7b40,\x7d=\x7b0,2\x7d", .highEntropyToken)]

/-- The patterns that compile, in order. `regexNew` is the regex crate. -/
def secretPatterns (regexNew : String → Option FindIter) : List (FindIter × SecretCategory) :=
  rawPatterns.filterMap fun (pattern, category) => (regexNew pattern).map (fun regex => (regex, category))

/-- A range of the input under the category of the pattern that matched it. -/
structure Span where
  start : Nat
  stop : Nat
  category : SecretCategory
deriving DecidableEq, Repr

def rangesOverlap (aStart aEnd bStart bEnd : Nat) : Bool := aStart < bEnd && bStart < aEnd

def Span.overlaps (a b : Span) : Bool := rangesOverlap a.start a.stop b.start b.stop

/-- The matches in the order the two loops try them. -/
def candidates (patterns : List (FindIter × SecretCategory)) (input : Utf8) : List Span :=
  patterns.flatMap fun (pattern, category) =>
    (pattern input).map fun (start, stop) => ⟨start, stop, category⟩

def claimedSpans (patterns : List (FindIter × SecretCategory)) (input : Utf8) : List Span :=
  sortByKey Span.start (claimInOrder Span.overlaps (candidates patterns input))

/-- `input.get(start..end)`, empty where that is `None`. -/
def slice (input : Utf8) (start stop : Nat) : Utf8 :=
  if start ≤ stop && isCharBoundary input start && isCharBoundary input stop then
    (input.drop start).take (stop - start)
  else []

def Span.marker (span : Span) : Utf8 := utf8 "[REDACTED:" ++ utf8 span.category.debug ++ utf8 "]"

def Span.redacted (span : Span) : Redacted Utf8 := ⟨none, span.category, span.start⟩

/-- What the second loop carries. -/
structure RedactState where
  output : Utf8
  markers : List (Redacted Utf8)
  cursor : Nat

def redactStep (input : Utf8) (state : RedactState) (span : Span) : RedactState where
  output := state.output ++ slice input state.cursor span.start ++ span.marker
  markers := state.markers ++ [span.redacted]
  cursor := span.stop

def redactWith (patterns : List (FindIter × SecretCategory)) (input : Utf8) :
    Utf8 × List (Redacted Utf8) :=
  let final := (claimedSpans patterns input).foldl (redactStep input) ⟨[], [], 0⟩
  (final.output ++ slice input final.cursor input.length, final.markers)

def redact (regexNew : String → Option FindIter) (input : Utf8) : Utf8 × List (Redacted Utf8) :=
  redactWith (secretPatterns regexNew) input

/-- What the regex crate promises of one pattern's matches in one text. -/
structure FindIter.Lawful (pattern : FindIter) (input : Utf8) : Prop where
  nonEmpty : ∀ range ∈ pattern input, range.1 < range.2
  inBounds : ∀ range ∈ pattern input, range.2 ≤ input.length
  boundary : ∀ range ∈ pattern input, isCharBoundary input range.1 = true ∧ isCharBoundary input range.2 = true
  disjoint : (pattern input).Pairwise (fun a b => rangesOverlap a.1 a.2 b.1 b.2 = false)

theorem candidates_mem {patterns : List (FindIter × SecretCategory)} {input : Utf8} {span : Span} :
    span ∈ candidates patterns input ↔
      ∃ pattern, (pattern, span.category) ∈ patterns ∧ (span.start, span.stop) ∈ pattern input := by
  simp only [candidates, List.mem_flatMap, List.mem_map]
  constructor
  · rintro ⟨⟨pattern, category⟩, hp, ⟨start, stop⟩, hm, rfl⟩
    exact ⟨pattern, hp, hm⟩
  · rintro ⟨pattern, hp, hm⟩
    exact ⟨(pattern, span.category), hp, (span.start, span.stop), hm, rfl⟩

theorem candidates_eq_nil {patterns : List (FindIter × SecretCategory)} {input : Utf8} :
    candidates patterns input = [] ↔ ∀ entry ∈ patterns, entry.1 input = [] := by
  simp [candidates]

theorem claimedSpans_candidate {patterns : List (FindIter × SecretCategory)} {input : Utf8} {span : Span}
    (h : span ∈ claimedSpans patterns input) : span ∈ candidates patterns input :=
  (claimInOrder_sublist _ _).subset (mem_sortByKey.mp h)

theorem claimedSpans_eq_nil {patterns : List (FindIter × SecretCategory)} {input : Utf8} :
    claimedSpans patterns input = [] ↔ ∀ entry ∈ patterns, entry.1 input = [] := by
  have hp := sortByKey_perm Span.start (claimInOrder Span.overlaps (candidates patterns input))
  have hn : claimInOrder Span.overlaps (candidates patterns input) = [] ↔ candidates patterns input = [] :=
    claimInOrder_eq_nil
  rw [← candidates_eq_nil, ← hn, claimedSpans, ← List.length_eq_zero_iff, hp.length_eq,
    List.length_eq_zero_iff]

theorem Span.overlaps_comm (a b : Span) : a.overlaps b = b.overlaps a := by
  simp only [Span.overlaps, rangesOverlap, Bool.and_comm]

theorem Span.overlaps_eq_false {a b : Span} :
    a.overlaps b = false ↔ a.stop ≤ b.start ∨ b.stop ≤ a.start := by
  simp only [Span.overlaps, rangesOverlap, Bool.and_eq_false_iff, decide_eq_false_iff_not]
  omega

end AnneDeBreuil
