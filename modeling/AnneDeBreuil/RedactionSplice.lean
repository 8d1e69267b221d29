import AnneDeBreuil.Redaction

namespace AnneDeBreuil

instance (pattern : FindIter) (input : Utf8) : Decidable (FindIter.Lawful pattern input) :=
  decidable_of_iff
    ((∀ range ∈ pattern input, range.1 < range.2) ∧ (∀ range ∈ pattern input, range.2 ≤ input.length) ∧
      (∀ range ∈ pattern input,
        isCharBoundary input range.1 = true ∧ isCharBoundary input range.2 = true) ∧
      (pattern input).Pairwise (fun a b => rangesOverlap a.1 a.2 b.1 b.2 = false))
    ⟨fun h => ⟨h.1, h.2.1, h.2.2.1, h.2.2.2⟩, fun h => ⟨h.1, h.2, h.3, h.4⟩⟩

/-- The matches of every pattern in the input are as the regex crate promises. -/
def LawfulPatterns (patterns : List (FindIter × SecretCategory)) (input : Utf8) : Prop :=
  ∀ entry ∈ patterns, FindIter.Lawful entry.1 input

instance (patterns : List (FindIter × SecretCategory)) (input : Utf8) :
    Decidable (LawfulPatterns patterns input) :=
  inferInstanceAs (Decidable (∀ entry ∈ patterns, FindIter.Lawful entry.1 input))

theorem candidates_lawful {patterns : List (FindIter × SecretCategory)} {input : Utf8} {span : Span}
    (lawful : LawfulPatterns patterns input) (h : span ∈ candidates patterns input) :
    span.start < span.stop ∧ span.stop ≤ input.length ∧
      isCharBoundary input span.start = true ∧ isCharBoundary input span.stop = true := by
  obtain ⟨pattern, hp, hm⟩ := candidates_mem.mp h
  have hl := lawful _ hp
  exact ⟨hl.nonEmpty _ hm, hl.inBounds _ hm, hl.boundary _ hm⟩

theorem claimedSpans_disjoint (patterns : List (FindIter × SecretCategory)) (input : Utf8) :
    (claimedSpans patterns input).Pairwise (fun a b => a.overlaps b = false) := by
  have claimed := claimInOrder_pairwise Span.overlaps (candidates patterns input)
  refine (sortByKey_perm _ _).symm.pairwise (claimed.imp ?_) ?_
  · intro a b h
    rwa [Span.overlaps_comm]
  · intro a b h
    rwa [Span.overlaps_comm]

/-- Once sorted the claimed spans follow one another. -/
theorem claimedSpans_ordered {patterns : List (FindIter × SecretCategory)} {input : Utf8}
    (lawful : LawfulPatterns patterns input) :
    (claimedSpans patterns input).Pairwise (fun a b => a.stop ≤ b.start) := by
  have sorted := sortByKey_sorted Span.start (claimInOrder Span.overlaps (candidates patterns input))
  refine ((claimedSpans_disjoint patterns input).and sorted).imp_of_mem ?_
  intro a b ha hb ⟨apart, le⟩
  have hb := candidates_lawful lawful (claimedSpans_candidate hb)
  rcases Span.overlaps_eq_false.mp apart with h | h
  · exact h
  · omega

def Span.patch (span : Span) : Patch UInt8 := ⟨span.start, span.stop, span.marker⟩

theorem patched_of_ordered {limit cursor : Nat} {spans : List Span} (hc : cursor ≤ limit)
    (first : ∀ span ∈ spans, cursor ≤ span.start)
    (proper : ∀ span ∈ spans, span.start < span.stop ∧ span.stop ≤ limit)
    (ordered : spans.Pairwise (fun a b => a.stop ≤ b.start)) :
    Patched limit cursor (spans.map Span.patch) := by
  induction spans generalizing cursor with
  | nil => exact .nil hc
  | cons span spans ih =>
    obtain ⟨next, ordered⟩ := List.pairwise_cons.mp ordered
    have own := proper span List.mem_cons_self
    refine .cons (first span List.mem_cons_self) (Nat.le_of_lt own.1) ?_
    exact ih own.2 next (fun s hs => proper s (List.mem_cons_of_mem _ hs)) ordered

theorem slice_between {input : Utf8} {start stop : Nat} (h : start ≤ stop)
    (hs : isCharBoundary input start = true) (he : isCharBoundary input stop = true) :
    slice input start stop = (input.drop start).take (stop - start) := by
  simp [slice, h, hs, he]

/-- The second loop splices the markers into the rest of the input. -/
theorem redactStep_run {input : Utf8} {state : RedactState} {spans : List Span}
    (patched : Patched input.length state.cursor (spans.map Span.patch))
    (cursor : isCharBoundary input state.cursor = true)
    (boundary : ∀ span ∈ spans, isCharBoundary input span.start = true ∧ isCharBoundary input span.stop = true) :
    let final := spans.foldl (redactStep input) state
    final.output ++ slice input final.cursor input.length =
        state.output ++ spliceFrom input state.cursor (spans.map Span.patch) ∧
      final.markers = state.markers ++ spans.map Span.redacted := by
  induction spans generalizing state with
  | nil =>
    have tail := slice_between patched.cursor_le cursor (isCharBoundary_length input)
    rw [List.take_of_length_le (by simp)] at tail
    simp [spliceFrom, tail]
  | cons span spans ih =>
    have own := boundary span List.mem_cons_self
    cases patched with
    | cons after proper later =>
      have gap : slice input state.cursor span.start = _ := slice_between after cursor own.1
      have rest := fun s hs => boundary s (List.mem_cons_of_mem _ hs)
      have run := @ih (redactStep input state span) later own.2 rest
      simp only [List.foldl_cons]
      refine ⟨run.1.trans ?_, run.2.trans ?_⟩
      · simp only [redactStep, gap, List.map_cons, spliceFrom, Span.patch, List.append_assoc]
      · simp [redactStep]

theorem claimedSpans_patched {patterns : List (FindIter × SecretCategory)} {input : Utf8}
    (lawful : LawfulPatterns patterns input) :
    Patched input.length 0 ((claimedSpans patterns input).map Span.patch) := by
  refine patched_of_ordered (Nat.zero_le _) (fun span _ => Nat.zero_le _) (fun span hs => ?_)
    (claimedSpans_ordered lawful)
  have inside := candidates_lawful lawful (claimedSpans_candidate hs)
  exact ⟨inside.1, inside.2.1⟩

theorem redactWith_eq {patterns : List (FindIter × SecretCategory)} {input : Utf8}
    (lawful : LawfulPatterns patterns input) :
    redactWith patterns input =
      (spliceFrom input 0 ((claimedSpans patterns input).map Span.patch),
        (claimedSpans patterns input).map Span.redacted) := by
  have boundary : ∀ span ∈ claimedSpans patterns input,
      isCharBoundary input span.start = true ∧ isCharBoundary input span.stop = true :=
    fun span hs => (candidates_lawful lawful (claimedSpans_candidate hs)).2.2
  have start : isCharBoundary input 0 = true := by simp [isCharBoundary]
  have run := @redactStep_run input ⟨[], [], 0⟩ _ (claimedSpans_patched lawful) start boundary
  exact Prod.ext run.1 run.2

/-- The output is the input with the claimed spans, and nothing else, replaced
by their markers. -/
theorem redactWith_replaces (patterns : List (FindIter × SecretCategory)) (input : Utf8)
    (lawful : LawfulPatterns patterns input) :
    (claimedSpans patterns input).Pairwise (fun a b => a.stop ≤ b.start) ∧
    (∀ span ∈ claimedSpans patterns input,
      ∃ pattern, (pattern, span.category) ∈ patterns ∧ (span.start, span.stop) ∈ pattern input) ∧
    (∀ output, Replaces 0 input ((claimedSpans patterns input).map Span.patch) output ↔
      output = (redactWith patterns input).1) ∧
    (redactWith patterns input).2 =
      (claimedSpans patterns input).map (fun span => ⟨none, span.category, span.start⟩) ∧
    (redactWith patterns input).2.Pairwise (fun a b => a.offset < b.offset) ∧
    ((redactWith patterns input).2 = [] ↔ ∀ entry ∈ patterns, entry.1 input = []) ∧
    ((∀ entry ∈ patterns, entry.1 input = []) → (redactWith patterns input).1 = input) := by
  have ordered := claimedSpans_ordered lawful
  have replaces := spliceFrom_replaces (claimedSpans_patched lawful)
  rw [List.drop_zero] at replaces
  rw [redactWith_eq lawful]
  refine ⟨ordered, fun span hs => candidates_mem.mp (claimedSpans_candidate hs), ?_, rfl, ?_, ?_, ?_⟩
  · exact fun output => ⟨fun h => h.unique replaces, fun h => h ▸ replaces⟩
  · refine List.pairwise_map.mpr (ordered.imp_of_mem ?_)
    intro a b ha _ h
    exact Nat.lt_of_lt_of_le (candidates_lawful lawful (claimedSpans_candidate ha)).1 h
  · rw [List.map_eq_nil_iff, claimedSpans_eq_nil]
  · intro h
    rw [claimedSpans_eq_nil.mpr h]
    rfl

/-- A regex crate that answers from a table of patterns, texts and matches. -/
def tableRegex (table : List (String × Utf8 × List (Nat × Nat))) (pattern : String) : Option FindIter :=
  some fun input =>
    match table.find? (fun row => row.1 = pattern && row.2.1 = input) with
    | some row => row.2.2
    | none => []

theorem redactWith_replaces_passwords :
    let input := utf8 "pwd=first; pwd=second"
    let patterns := secretPatterns (tableRegex [("(?i)\\bpwd\\s*[:=]\\s*\\S+", input, [(0, 10), (11, 21)])])
    (redactWith patterns input).1 = utf8 "[REDACTED:PasswordAssignment] [REDACTED:PasswordAssignment]" ∧
    (claimedSpans patterns input).Pairwise (fun a b => a.stop ≤ b.start) ∧
    (redactWith patterns input).2.Pairwise (fun a b => a.offset < b.offset) := by
  intro input patterns
  have replaces := redactWith_replaces patterns input (by decide +kernel)
  exact ⟨by decide +kernel, replaces.1, replaces.2.2.2.2.1⟩

end AnneDeBreuil
