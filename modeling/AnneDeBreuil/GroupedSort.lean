import AnneDeBreuil.SortByKey
import Mathlib.Data.Prod.Lex

namespace AnneDeBreuil

variable {α κ κ' : Type} [LinearOrder κ] [LinearOrder κ']

theorem mem_iff_of_ties {key : α → κ} {xs ys : List α}
    (ties : ∀ k, xs.filter (fun x => key x = k) = ys.filter (fun x => key x = k)) (x : α) : x ∈ xs ↔ x ∈ ys := by
  have tied : x ∈ xs.filter (fun y => key y = key x) ↔ x ∈ ys.filter (fun y => key y = key x) := by
    rw [ties (key x)]
  simpa using tied

theorem head_le {key : α → κ} {x : α} {xs : List α} (h : (x :: xs).Pairwise (fun a b => key a ≤ key b)) :
    ∀ y ∈ x :: xs, key x ≤ key y := by
  intro y hy
  obtain rfl | hy := List.mem_cons.mp hy
  · exact le_refl _
  · exact (List.pairwise_cons.mp h).1 y hy

/-- Sorted lists whose ties come in the same order are the same. -/
theorem eq_of_sorted_ties {key : α → κ} {xs ys : List α} (hx : xs.Pairwise (fun a b => key a ≤ key b))
    (hy : ys.Pairwise (fun a b => key a ≤ key b))
    (ties : ∀ k, xs.filter (fun x => key x = k) = ys.filter (fun x => key x = k)) : xs = ys := by
  induction xs generalizing ys with
  | nil =>
    have none : ∀ y, y ∉ ys := fun y hy => absurd ((mem_iff_of_ties ties y).mpr hy) List.not_mem_nil
    exact (List.eq_nil_iff_forall_not_mem.mpr none).symm
  | cons x xs ih =>
    cases ys with
    | nil => exact absurd ((mem_iff_of_ties ties x).mp List.mem_cons_self) List.not_mem_nil
    | cons y ys =>
      have tie : key x = key y := le_antisymm
        (head_le hx y ((mem_iff_of_ties ties y).mpr List.mem_cons_self))
        (head_le hy x ((mem_iff_of_ties ties x).mp List.mem_cons_self))
      have heads := ties (key x)
      simp only [List.filter_cons, tie, decide_true, ↓reduceIte, List.cons.injEq] at heads
      have later : ∀ k, xs.filter (fun z => key z = k) = ys.filter (fun z => key z = k) := by
        intro k
        have both := ties k
        simp only [List.filter_cons, tie] at both
        split at both
        · exact (List.cons.inj both).2
        · exact both
      rw [heads.1, ih (List.pairwise_cons.mp hx).2 (List.pairwise_cons.mp hy).2 later]

/-- A stable sort is the only sorted list that keeps the order of the ties. -/
theorem eq_sortByKey {key : α → κ} {xs ys : List α} (sorted : ys.Pairwise (fun a b => key a ≤ key b))
    (ties : ∀ k, ys.filter (fun x => key x = k) = xs.filter (fun x => key x = k)) : ys = sortByKey key xs :=
  eq_of_sorted_ties sorted (sortByKey_sorted key xs) fun k => (ties k).trans (sortByKey_stable key xs k).symm

theorem flatMap_ite_of_nodup {keys : List κ} (distinct : keys.Nodup) {k : κ} (h : k ∈ keys) (xs : List α) :
    keys.flatMap (fun j => if j = k then xs else []) = xs := by
  induction keys with
  | nil => cases h
  | cons j keys ih =>
    obtain ⟨fresh, distinct⟩ := List.nodup_cons.mp distinct
    rw [List.flatMap_cons]
    by_cases same : j = k
    · have nothing : keys.flatMap (fun j => if j = k then xs else []) = [] := by
        apply List.flatMap_eq_nil_iff.mpr
        intro other hother
        have apart : other ≠ k := by
          rintro rfl
          exact fresh (same ▸ hother)
        exact if_neg apart
      rw [if_pos same, nothing, List.append_nil]
    · have behind : k ∈ keys := (List.mem_cons.mp h).resolve_left fun again => same again.symm
      rw [if_neg same, List.nil_append, ih distinct behind]

/-- To sort each group of a map, in the order of its keys, is to sort by both
keys, the group's first. -/
theorem flatMap_groups_eq_sortByKey {group : α → κ} {key : α → κ'} {keys : List κ} {xs : List α}
    (sorted : keys.Pairwise (· < ·)) (complete : ∀ x ∈ xs, group x ∈ keys) :
    keys.flatMap (fun k => sortByKey key (xs.filter (fun x => group x = k))) =
      sortByKey (fun x => toLex (group x, key x)) xs := by
  have within : ∀ {k x}, x ∈ sortByKey key (xs.filter (fun x => group x = k)) → group x = k := by
    intro k x hx
    rw [mem_sortByKey, List.mem_filter] at hx
    exact of_decide_eq_true hx.2
  apply eq_sortByKey
  · refine List.pairwise_flatMap.mpr ⟨fun k _ => ?_, ?_⟩
    · refine (sortByKey_sorted key _).imp_of_mem ?_
      intro a b ha hb le
      exact Prod.Lex.toLex_le_toLex.mpr (.inr ⟨(within ha).trans (within hb).symm, le⟩)
    · refine sorted.imp ?_
      intro k k' lt a ha b hb
      refine Prod.Lex.toLex_le_toLex.mpr (.inl ?_)
      rw [within ha, within hb]
      exact lt
  · intro k
    obtain ⟨⟨first, second⟩, rfl⟩ := toLex.surjective k
    have pair : ∀ x, decide (toLex (group x, key x) = toLex (first, second)) =
        (decide (key x = second) && decide (group x = first)) := by
      intro x
      simp [Bool.and_comm]
    simp only [List.filter_flatMap, pair]
    -- Of the groups only the one under the first key is kept.
    have others : ∀ k ∈ keys, (sortByKey key (xs.filter (fun x => group x = k))).filter
        (fun x => decide (key x = second) && decide (group x = first)) =
        if k = first then xs.filter (fun x => decide (key x = second) && decide (group x = first)) else [] := by
      intro k hk
      split
      next same =>
        subst same
        have kept : (sortByKey key (xs.filter (fun x => group x = k))).filter
            (fun x => decide (key x = second) && decide (group x = k)) =
            (sortByKey key (xs.filter (fun x => group x = k))).filter (fun x => key x = second) := by
          apply List.filter_congr
          intro x hx
          simp [within hx]
        rw [kept, sortByKey_stable, List.filter_filter]
      next other =>
        apply List.filter_eq_nil_iff.mpr
        intro x hx both
        rw [Bool.and_eq_true, decide_eq_true_eq, decide_eq_true_eq] at both
        exact other ((within hx).symm.trans both.2)
    rw [List.flatMap_congr others]
    by_cases present : first ∈ keys
    · exact flatMap_ite_of_nodup (sorted.imp ne_of_lt) present _
    · have none : xs.filter (fun x => decide (key x = second) && decide (group x = first)) = [] := by
        apply List.filter_eq_nil_iff.mpr
        intro x hx both
        rw [Bool.and_eq_true, decide_eq_true_eq, decide_eq_true_eq] at both
        exact present (both.2 ▸ complete x hx)
      simp [none]

end AnneDeBreuil
