import Mathlib.Data.List.Nodup

namespace AnneDeBreuil

variable {K V : Type} [DecidableEq K]

/-- The map collected from `(key x, x)` over a list: a later value replaces an
earlier one under the same key. -/
def indexBy (key : V → K) (xs : List V) (k : K) : Option V :=
  xs.reverse.find? (fun x => key x = k)

theorem indexBy_some {key : V → K} {xs : List V} {k : K} {x : V} (h : indexBy key xs k = some x) :
    x ∈ xs ∧ key x = k := by
  refine ⟨List.mem_reverse.mp (List.mem_of_find?_eq_some h), ?_⟩
  simpa using List.find?_some h

theorem indexBy_none {key : V → K} {xs : List V} {k : K} :
    indexBy key xs k = none ↔ ∀ x ∈ xs, key x ≠ k := by
  simp [indexBy]

theorem indexBy_exists (key : V → K) {xs : List V} {x : V} (h : x ∈ xs) :
    ∃ y, indexBy key xs (key x) = some y := by
  cases hi : indexBy key xs (key x) with
  | none => exact absurd rfl (indexBy_none.mp hi x h)
  | some y => exact ⟨y, rfl⟩

/-- With distinct keys every element is found under its own key. -/
theorem indexBy_of_nodup {key : V → K} {xs : List V} (hn : (xs.map key).Nodup) {x : V} (h : x ∈ xs) :
    indexBy key xs (key x) = some x := by
  obtain ⟨y, hy⟩ := indexBy_exists key h
  obtain ⟨hm, hk⟩ := indexBy_some hy
  rw [hy, List.inj_on_of_nodup_map hn hm h hk]

end AnneDeBreuil
