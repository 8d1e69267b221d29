import Mathlib.Data.List.Induction

namespace AnneDeBreuil

variable {α β : Type}

/-- Claiming in order: a candidate is kept unless it conflicts with one that
was kept before it. -/
def claimInOrder (conflict : α → α → Bool) (xs : List α) : List α :=
  xs.foldl (fun kept x => if kept.any (conflict x) then kept else kept ++ [x]) []

theorem claimInOrder_snoc (conflict : α → α → Bool) (xs : List α) (x : α) :
    claimInOrder conflict (xs ++ [x]) =
      if (claimInOrder conflict xs).any (conflict x) then claimInOrder conflict xs
      else claimInOrder conflict xs ++ [x] := by
  simp [claimInOrder]

theorem claimInOrder_sublist (conflict : α → α → Bool) (xs : List α) :
    (claimInOrder conflict xs).Sublist xs := by
  induction xs using List.reverseRecOn with
  | nil => exact List.Sublist.refl _
  | append_singleton xs x ih =>
    rw [claimInOrder_snoc]
    split
    · exact ih.trans (List.sublist_append_left xs [x])
    · exact ih.append_right [x]

theorem claimInOrder_pairwise (conflict : α → α → Bool) (xs : List α) :
    (claimInOrder conflict xs).Pairwise (fun a b => conflict b a = false) := by
  induction xs using List.reverseRecOn with
  | nil => exact List.Pairwise.nil
  | append_singleton xs x ih =>
    rw [claimInOrder_snoc]
    split
    next => exact ih
    next hn =>
      refine List.pairwise_append.mpr ⟨ih, List.pairwise_singleton _ _, fun a ha b hb => ?_⟩
      rw [List.mem_singleton.mp hb]
      simpa using List.any_eq_false.mp (Bool.not_eq_true _ ▸ hn) a ha

/-- A part that has no conflict with the rest keeps what it keeps alone. -/
theorem claimInOrder_filter {conflict : α → α → Bool} (own : α → Bool) {xs : List α}
    (apart : ∀ a ∈ xs, ∀ b ∈ xs, own a = true → own b = false → conflict a b = false) :
    (claimInOrder conflict xs).filter own = claimInOrder conflict (xs.filter own) := by
  induction xs using List.reverseRecOn with
  | nil => rfl
  | append_singleton xs x ih =>
    have before := ih fun a ha b hb => apart a (List.mem_append_left _ ha) b (List.mem_append_left _ hb)
    rw [claimInOrder_snoc, List.filter_append]
    cases hown : own x with
    | false =>
      rw [List.filter_cons_of_neg (by simp [hown]), List.filter_nil, List.append_nil, ← before]
      split
      next => rfl
      next => rw [List.filter_append, List.filter_cons_of_neg (by simp [hown]), List.filter_nil, List.append_nil]
    | true =>
      have conflicts : (claimInOrder conflict xs).any (conflict x) =
          (claimInOrder conflict (xs.filter own)).any (conflict x) := by
        rw [← before, List.any_filter, Bool.eq_iff_iff, List.any_eq_true, List.any_eq_true]
        refine exists_congr fun y => and_congr_right fun hy => ?_
        have hyxs : y ∈ xs := (claimInOrder_sublist conflict xs).subset hy
        cases hy : own y with
        | true => simp
        | false => simp [apart x (by simp) y (List.mem_append_left _ hyxs) hown hy]
      rw [List.filter_cons_of_pos hown, List.filter_nil, claimInOrder_snoc, conflicts]
      split
      next => exact before
      next => rw [List.filter_append, before, List.filter_cons_of_pos hown, List.filter_nil]

/-- What is claimed stays claimed, and before what comes later. -/
theorem claimInOrder_append (conflict : α → α → Bool) (xs ys : List α) :
    claimInOrder conflict xs <+: claimInOrder conflict (xs ++ ys) := by
  induction ys using List.reverseRecOn with
  | nil => simp
  | append_singleton ys y ih =>
    rw [← List.append_assoc, claimInOrder_snoc]
    split
    · exact ih
    · exact ih.trans (List.prefix_append _ _)

/-- Each claimed element stands somewhere after elements it has no conflict
with among those claimed. -/
theorem claimInOrder_split {conflict : α → α → Bool} {xs : List α} {x : α}
    (h : x ∈ claimInOrder conflict xs) :
    ∃ before after, xs = before ++ x :: after ∧ ∀ y ∈ claimInOrder conflict before, conflict x y = false := by
  induction xs using List.reverseRecOn with
  | nil => simp [claimInOrder] at h
  | append_singleton xs z ih =>
    have old : x ∈ claimInOrder conflict xs → ∃ before after, xs ++ [z] = before ++ x :: after ∧
        ∀ y ∈ claimInOrder conflict before, conflict x y = false := by
      intro hx
      obtain ⟨before, after, he, hf⟩ := ih hx
      exact ⟨before, after ++ [z], by rw [he]; simp, hf⟩
    rw [claimInOrder_snoc] at h
    split at h
    next => exact old h
    next hn =>
      rcases List.mem_append.mp h with hx | hx
      · exact old hx
      · have hz : x = z := List.mem_singleton.mp hx
        refine ⟨xs, [], by rw [hz], fun y hy => ?_⟩
        rw [hz]
        simpa using List.any_eq_false.mp (Bool.not_eq_true _ ▸ hn) y hy

/-- Where everything conflicts with itself, every candidate conflicts with a
claimed one. -/
theorem claimInOrder_maximal {conflict : α → α → Bool} (refl : ∀ x, conflict x x = true) {xs : List α} {x : α}
    (h : x ∈ xs) : ∃ y ∈ claimInOrder conflict xs, conflict x y = true := by
  induction xs using List.reverseRecOn with
  | nil => simp at h
  | append_singleton xs z ih =>
    have kept := claimInOrder_append conflict xs [z]
    rcases List.mem_append.mp h with hx | hx
    · obtain ⟨y, hy, hc⟩ := ih hx
      exact ⟨y, kept.subset hy, hc⟩
    · rw [List.mem_singleton.mp hx, claimInOrder_snoc]
      split
      next ha => exact List.any_eq_true.mp ha
      next => exact ⟨z, by simp, refl z⟩

theorem claimInOrder_eq_nil {conflict : α → α → Bool} {xs : List α} :
    claimInOrder conflict xs = [] ↔ xs = [] := by
  induction xs using List.reverseRecOn with
  | nil => exact Iff.rfl
  | append_singleton xs x ih =>
    rw [claimInOrder_snoc]
    split
    next hc =>
      constructor
      · intro he
        simp [he] at hc
      · simp
    next => simp

/-- After the first candidate come, in their order, those without conflict with it. -/
theorem claimInOrder_cons {conflict : α → α → Bool} (x : α) (xs : List α) :
    claimInOrder conflict (x :: xs) = x :: claimInOrder conflict (xs.filter fun y => !conflict y x) := by
  induction xs using List.reverseRecOn with
  | nil => rfl
  | append_singleton xs y ih =>
    rw [← List.cons_append, claimInOrder_snoc, ih, List.filter_append]
    cases hconf : conflict y x with
    | true => simp [hconf]
    | false =>
      rw [List.filter_cons_of_pos (by simp [hconf]), List.filter_nil, claimInOrder_snoc, List.any_cons, hconf, Bool.false_or]
      split
      next => rfl
      next => rfl

/-- The candidates strand nothing: what a later one covers, the first one covers or a later one without
conflict with it; and so on among the later ones without conflict with it. -/
inductive StrandsNone (conflict : α → α → Bool) (covers : α → β → Prop) : List α → Prop
  | nil : StrandsNone conflict covers []
  | cons {x : α} {xs : List α}
      (left : ∀ y ∈ xs, ∀ b, covers y b → covers x b ∨ ∃ z ∈ xs, conflict z x = false ∧ covers z b)
      (rest : StrandsNone conflict covers (xs.filter fun y => !conflict y x)) : StrandsNone conflict covers (x :: xs)

section

variable {conflict : α → α → Bool} {covers : α → β → Prop}

theorem mem_unconflicted {x y : α} {xs : List α} :
    y ∈ xs.filter (fun y => !conflict y x) ↔ y ∈ xs ∧ conflict y x = false := by
  simp

/-- An induction in which the rest of a list may lose elements. -/
theorem filter_induction {motive : List α → Prop} (nil : motive [])
    (cons : ∀ x xs, (∀ keep, motive (xs.filter keep)) → motive (x :: xs)) (xs : List α) : motive xs :=
  match xs with
  | [] => nil
  | x :: xs => cons x xs fun keep => filter_induction nil cons (xs.filter keep)
termination_by xs.length
decreasing_by exact Nat.lt_succ_of_le (List.length_filter_le keep xs)

/-- What is claimed covers what the candidates cover exactly if these strand nothing. -/
theorem claimInOrder_covers_iff (apart : ∀ x y b, conflict y x = false → covers x b → ¬covers y b) (xs : List α) :
    (∀ x ∈ xs, ∀ b, covers x b → ∃ y ∈ claimInOrder conflict xs, covers y b) ↔ StrandsNone conflict covers xs := by
  constructor
  · intro covered
    induction xs using filter_induction with
    | nil => exact .nil
    | cons x xs ih =>
      rw [claimInOrder_cons] at covered
      refine .cons (fun y hy b hb => ?_) (ih _ fun y hy b hb => ?_)
      · obtain ⟨z, hz, hzb⟩ := covered y (List.mem_cons_of_mem x hy) b hb
        rcases List.mem_cons.mp hz with rfl | hz
        · exact .inl hzb
        · obtain ⟨hxs, hconf⟩ := mem_unconflicted.mp ((claimInOrder_sublist _ _).subset hz)
          exact .inr ⟨z, hxs, hconf, hzb⟩
      · obtain ⟨hxs, hconf⟩ := mem_unconflicted.mp hy
        obtain ⟨z, hz, hzb⟩ := covered y (List.mem_cons_of_mem x hxs) b hb
        rcases List.mem_cons.mp hz with rfl | hz
        · exact absurd hb (apart z y b hconf hzb)
        · exact ⟨z, hz, hzb⟩
  · intro strands
    induction strands with
    | nil => nofun
    | @cons x xs left rest ih =>
      rw [claimInOrder_cons]
      intro y hy b hb
      rcases List.mem_cons.mp hy with rfl | hy
      · exact ⟨y, List.mem_cons_self, hb⟩
      · rcases left y hy b hb with own | ⟨z, hz, hconf, hzb⟩
        · exact ⟨x, List.mem_cons_self, own⟩
        · obtain ⟨w, hw, hwb⟩ := ih z (mem_unconflicted.mpr ⟨hz, hconf⟩) b hzb
          exact ⟨w, List.mem_cons_of_mem x hw, hwb⟩

/-- In particular where a candidate covers no more than the earlier ones it has a conflict with. -/
theorem strandsNone_of_nested {xs : List α}
    (nested : xs.Pairwise fun x y => conflict y x = true → ∀ b, covers y b → covers x b) : StrandsNone conflict covers xs := by
  induction xs using filter_induction with
  | nil => exact .nil
  | cons x xs ih =>
    obtain ⟨first, later⟩ := List.pairwise_cons.mp nested
    refine .cons (fun y hy b hb => ?_) (ih _ (later.filter _))
    cases hconf : conflict y x with
    | true => exact .inl (first y hy hconf b hb)
    | false => exact .inr ⟨y, hy, hconf, hb⟩

/-- Of two candidates in conflict the second must cover no more than the first. -/
theorem strandsNone_pair {x y : α} (h : conflict y x = true) :
    StrandsNone conflict covers [x, y] ↔ ∀ b, covers y b → covers x b := by
  constructor
  · intro strands b hb
    cases strands with
    | cons left rest =>
      rcases left y List.mem_cons_self b hb with own | ⟨z, hz, hconf, -⟩
      · exact own
      · rw [List.mem_singleton.mp hz, h] at hconf
        cases hconf
  · intro nested
    exact strandsNone_of_nested (List.pairwise_pair.mpr fun _ => nested)

end

end AnneDeBreuil
