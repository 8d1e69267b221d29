import Mathlib.Data.List.Basic
import Mathlib.Data.List.Induction
import Mathlib.Data.Prod.Lex
import Mathlib.Order.Basic

namespace AnneDeBreuil

variable {α : Type} [DecidableEq α]

theorem eraseDups_concat (xs : List α) (x : α) :
    (xs ++ [x]).eraseDups = if x ∈ xs then xs.eraseDups else xs.eraseDups ++ [x] := by
  rw [List.eraseDups_append]
  by_cases known : x ∈ xs
  · simp [List.removeAll, known]
  · simp [List.removeAll, known, List.eraseDups_cons]

/-- Taking over what is not there yet keeps the first of each. -/
theorem foldl_insertNew (xs : List α) :
    xs.foldl (fun taken x => if x ∈ taken then taken else taken ++ [x]) [] = xs.eraseDups := by
  induction xs using List.reverseRecOn with
  | nil => rfl
  | append_singleton xs x ih =>
    rw [List.foldl_append, ih, eraseDups_concat, List.foldl_cons, List.foldl_nil]
    simp only [List.mem_eraseDups]

theorem eraseDups_filter (test : α → Bool) (xs : List α) : (xs.filter test).eraseDups = xs.eraseDups.filter test := by
  induction xs using List.reverseRecOn with
  | nil => rfl
  | append_singleton xs x ih =>
    rw [List.filter_append, eraseDups_concat]
    by_cases hit : test x = true
    · rw [List.filter_cons_of_pos hit, List.filter_nil, eraseDups_concat, ih]
      by_cases known : x ∈ xs
      · rw [if_pos (List.mem_filter.mpr ⟨known, hit⟩), if_pos known]
      · rw [if_neg (fun h => known (List.mem_filter.mp h).1), if_neg known, List.filter_append,
          List.filter_cons_of_pos hit, List.filter_nil]
    · rw [List.filter_cons_of_neg hit, List.filter_nil, List.append_nil, ih]
      by_cases known : x ∈ xs
      · rw [if_pos known]
      · rw [if_neg known, List.filter_append, List.filter_cons_of_neg hit, List.filter_nil, List.append_nil]

/-- The first of each stand in the order in which they were met. -/
theorem eraseDups_pairwise (xs : List α) : xs.eraseDups.Pairwise fun a b => xs.idxOf a < xs.idxOf b := by
  induction xs using List.reverseRecOn with
  | nil => exact .nil
  | append_singleton xs x ih =>
    have earlier : xs.eraseDups.Pairwise fun a b => (xs ++ [x]).idxOf a < (xs ++ [x]).idxOf b := by
      refine ih.imp_of_mem fun {a b} ha hb before => ?_
      rw [List.mem_eraseDups] at ha hb
      rwa [List.idxOf_append_of_mem ha, List.idxOf_append_of_mem hb]
    rw [eraseDups_concat]
    split
    next => exact earlier
    next fresh =>
      refine List.pairwise_append.mpr ⟨earlier, List.pairwise_singleton _ _, fun a ha b hb => ?_⟩
      obtain rfl := List.mem_singleton.mp hb
      rw [List.mem_eraseDups] at ha
      rw [List.idxOf_append_of_mem ha, List.idxOf_append_of_notMem fresh]
      exact (List.idxOf_lt_length_of_mem ha).trans_le (Nat.le_add_right _ _)

/-- The items that some test hits, each once, in the order in which the tests find them. -/
def firstHits (tests : List (α → Bool)) (items : List α) : List α := (tests.flatMap items.filter).eraseDups

/-- Where an item is found first: the test, then the position. -/
def hitRank (tests : List (α → Bool)) (items : List α) (a : α) : ℕ ×ₗ ℕ :=
  toLex (tests.findIdx (fun test => test a), items.idxOf a)

variable {tests : List (α → Bool)} {items : List α} {a : α}

theorem mem_firstHits : a ∈ firstHits tests items ↔ a ∈ items ∧ tests.any (fun test => test a) = true := by
  simp only [firstHits, List.mem_eraseDups, List.mem_flatMap, List.mem_filter, List.any_eq_true]
  constructor
  · rintro ⟨test, htest, ha, hit⟩
    exact ⟨ha, test, htest, hit⟩
  · rintro ⟨ha, test, htest, hit⟩
    exact ⟨test, htest, ha, hit⟩

theorem firstHits_eq_nil : firstHits tests items = [] ↔ ∀ a ∈ items, tests.any (fun test => test a) = false := by
  simp only [List.eq_nil_iff_forall_not_mem, mem_firstHits, not_and, Bool.not_eq_true]

/-- The hits of the first test, and then those of the others among what it missed. -/
theorem firstHits_cons (test : α → Bool) (tests : List (α → Bool)) (items : List α) :
    firstHits (test :: tests) items = items.eraseDups.filter test ++ (firstHits tests items).filter (fun a => !test a) := by
  have missed : (tests.flatMap items.filter).removeAll (items.filter test) =
      (tests.flatMap items.filter).filter (fun a => !test a) := by
    refine List.filter_congr fun a ha => ?_
    obtain ⟨other, -, hmem⟩ := List.mem_flatMap.mp ha
    simp [(List.mem_filter.mp hmem).1]
  rw [firstHits, List.flatMap_cons, List.eraseDups_append, missed, eraseDups_filter, eraseDups_filter, firstHits]

theorem firstHits_pairwise (tests : List (α → Bool)) (items : List α) :
    (firstHits tests items).Pairwise fun a b => hitRank tests items a < hitRank tests items b := by
  induction tests with
  | nil => exact .nil
  | cons test tests ih =>
    rw [firstHits_cons]
    refine List.pairwise_append.mpr ⟨?_, ?_, ?_⟩
    · refine ((eraseDups_pairwise items).filter test).imp_of_mem fun {a b} ha hb before => ?_
      rw [List.mem_filter] at ha hb
      rw [hitRank, hitRank, Prod.Lex.toLex_lt_toLex, List.findIdx_cons, List.findIdx_cons, ha.2, hb.2]
      exact .inr ⟨rfl, before⟩
    · refine (ih.filter _).imp_of_mem fun {a b} ha hb before => ?_
      rw [List.mem_filter, Bool.not_eq_true'] at ha hb
      rw [hitRank, hitRank, Prod.Lex.toLex_lt_toLex] at before ⊢
      rw [List.findIdx_cons, List.findIdx_cons, ha.2, hb.2]
      simpa using before
    · intro a ha b hb
      rw [List.mem_filter] at ha
      rw [List.mem_filter, Bool.not_eq_true'] at hb
      rw [hitRank, hitRank, Prod.Lex.toLex_lt_toLex, List.findIdx_cons, List.findIdx_cons, ha.2, hb.2]
      exact .inl (Nat.succ_pos _)

/-- What no test hits has no part in it. -/
theorem firstHits_congr {items' : List α}
    (same : items'.filter (fun a => tests.any fun test => test a) = items.filter (fun a => tests.any fun test => test a)) :
    firstHits tests items' = firstHits tests items := by
  have hits : ∀ items : List α, tests.flatMap items.filter =
      tests.flatMap (items.filter fun a => tests.any fun test => test a).filter := by
    intro items
    refine List.flatMap_congr fun test htest => ?_
    rw [List.filter_filter]
    refine List.filter_congr fun a _ => ?_
    cases hit : test a with
    | false => rfl
    | true => exact (List.any_eq_true.mpr ⟨test, htest, hit⟩).symm
  rw [firstHits, firstHits, hits items', same, ← hits items]

end AnneDeBreuil
