import Mathlib.Data.List.MinMax

namespace AnneDeBreuil

/-- The first of the elements with the least key. -/
def IsFirstLeast {α κ : Type} [LT κ] [LE κ] (key : α → κ) (xs : List α) (x : α) : Prop :=
  ∃ before after, xs = before ++ x :: after ∧ (∀ y ∈ before, key x < key y) ∧ ∀ y ∈ after, key x ≤ key y

section

variable {α κ : Type} [LinearOrder κ] {key : α → κ} {xs : List α} {x y : α}

theorem isFirstLeast_of_argmin (h : xs.argmin key = some x) :
    IsFirstLeast key xs x := by
  induction xs using List.reverseRecOn generalizing x with
  | nil => cases h
  | append_singleton xs last ih =>
    rw [List.argmin_concat] at h
    cases hbest : xs.argmin key with
    | none =>
      rw [hbest] at h
      cases h
      rw [List.argmin_eq_none] at hbest
      exact ⟨[], [], by rw [hbest], nofun, nofun⟩
    | some best =>
      obtain ⟨before, after, rfl, hbefore, hafter⟩ := ih hbest
      rw [hbest] at h
      dsimp only at h
      split at h
      next lower =>
        cases h
        refine ⟨before ++ best :: after, [], rfl, ?_, nofun⟩
        intro y hy
        rcases List.mem_append.mp hy with hy | hy
        · exact lower.trans (hbefore y hy)
        · rcases List.mem_cons.mp hy with rfl | hy
          · exact lower
          · exact lower.trans_le (hafter y hy)
      next higher =>
        cases h
        refine ⟨before, after ++ [last], by simp, hbefore, ?_⟩
        intro y hy
        rcases List.mem_append.mp hy with hy | hy
        · exact hafter y hy
        · rw [List.mem_singleton.mp hy]
          exact not_lt.mp higher

theorem IsFirstLeast.unique (hx : IsFirstLeast key xs x)
    (hy : IsFirstLeast key xs y) : x = y := by
  obtain ⟨before, after, rfl, hbefore, hafter⟩ := hx
  obtain ⟨before', after', hsplit, hbefore', hafter'⟩ := hy
  rcases List.append_eq_append_iff.mp hsplit with ⟨more, rfl, hrest⟩ | ⟨more, rfl, hrest⟩
  · cases more with
    | nil => exact (List.cons.inj hrest).1
    | cons first more =>
      obtain ⟨rfl, rfl⟩ := List.cons.inj hrest
      exact absurd (hbefore' x (by simp)) (hafter y (by simp)).not_gt
  · cases more with
    | nil => exact (List.cons.inj hrest).1.symm
    | cons first more =>
      obtain ⟨rfl, rfl⟩ := List.cons.inj hrest
      exact absurd (hbefore y (by simp)) (hafter' x (by simp)).not_gt

theorem argmin_iff_isFirstLeast :
    xs.argmin key = some x ↔ IsFirstLeast key xs x := by
  refine ⟨isFirstLeast_of_argmin, fun h => ?_⟩
  cases hbest : xs.argmin key with
  | none =>
    obtain ⟨before, after, rfl, -, -⟩ := h
    simp at hbest
  | some best => rw [(isFirstLeast_of_argmin hbest).unique h]

theorem argmax_iff_isFirstLeast : xs.argmax key = some x ↔ IsFirstLeast (fun y => OrderDual.toDual (key y)) xs x :=
  (argmin_iff_isFirstLeast : xs.argmin (fun y => OrderDual.toDual (key y)) = some x ↔ _)

end

end AnneDeBreuil
