import Mathlib.Data.List.Basic

namespace AnneDeBreuil

/-- A stretch between the marks, and the stretch within the next two. -/
def pairText {α : Type} (mark : α) (pair : List α × List α) : List α := pair.1 ++ mark :: pair.2 ++ [mark]

/-- The marks of a text are paired from the left, each with the next one. -/
structure Paired {α : Type} [DecidableEq α] (mark : α) (text : List α) (pairs : List (List α × List α)) (rest : List α) :
    Prop where
  joined : text = pairs.flatMap (pairText mark) ++ rest
  apart : ∀ pair ∈ pairs, mark ∉ pair.1 ∧ mark ∉ pair.2
  last : rest.count mark ≤ 1

section

variable {α : Type} {mark : α}

/-- The first mark of a text is one place. -/
theorem first_mark_unique {gap gap' behind behind' : List α} (hgap : mark ∉ gap) (hgap' : mark ∉ gap')
    (h : gap ++ mark :: behind = gap' ++ mark :: behind') : gap = gap' ∧ behind = behind' := by
  induction gap generalizing gap' with
  | nil =>
    cases gap' with
    | nil => exact ⟨rfl, (List.cons.inj h).2⟩
    | cons a gap' => exact absurd ((List.cons.inj h).1 ▸ List.mem_cons_self) hgap'
  | cons a gap ih =>
    cases gap' with
    | nil => exact absurd ((List.cons.inj h).1 ▸ List.mem_cons_self) hgap
    | cons a' gap' =>
      obtain ⟨rfl, same⟩ := List.cons.inj h
      obtain ⟨rfl, rfl⟩ := ih (List.not_mem_of_not_mem_cons hgap) (List.not_mem_of_not_mem_cons hgap') same
      exact ⟨rfl, rfl⟩

theorem pairText_append (pair : List α × List α) (behind : List α) :
    pairText mark pair ++ behind = pair.1 ++ mark :: (pair.2 ++ mark :: behind) := by
  simp [pairText]

end

section

variable {α : Type} [DecidableEq α] {mark : α} {text rest : List α} {pairs : List (List α × List α)}

theorem Paired.cons {pair : List α × List α} (h : Paired mark text pairs rest) (gap : mark ∉ pair.1) (name : mark ∉ pair.2) :
    Paired mark (pairText mark pair ++ text) (pair :: pairs) rest where
  joined := by rw [List.flatMap_cons, List.append_assoc, ← h.joined]
  apart := List.forall_mem_cons.mpr ⟨⟨gap, name⟩, h.apart⟩
  last := h.last

theorem exists_paired (mark : α) (text : List α) : ∃ pairs rest, Paired mark text pairs rest := by
  induction hlength : text.length using Nat.strongRecOn generalizing text with
  | ind n ih =>
    by_cases first : mark ∈ text
    · obtain ⟨gap, behind, rfl, hgap⟩ := List.eq_append_cons_of_mem first
      by_cases second : mark ∈ behind
      · obtain ⟨name, text, rfl, hname⟩ := List.eq_append_cons_of_mem second
        have shorter : text.length < n := by
          rw [← hlength]
          simp only [List.length_append, List.length_cons]
          omega
        obtain ⟨pairs, rest, paired⟩ := ih _ shorter text rfl
        have whole : gap ++ mark :: (name ++ mark :: text) = pairText mark (gap, name) ++ text :=
          (pairText_append (gap, name) text).symm
        rw [whole]
        exact ⟨_, _, paired.cons hgap hname⟩
      · have once : (gap ++ mark :: behind).count mark = 1 := by
          rw [List.count_append, List.count_cons_self, List.count_eq_zero.mpr hgap, List.count_eq_zero.mpr second]
        exact ⟨[], gap ++ mark :: behind, rfl, nofun, Nat.le_of_eq once⟩
    · have none : text.count mark = 0 := List.count_eq_zero.mpr first
      exact ⟨[], text, rfl, nofun, by rw [none]; exact Nat.zero_le 1⟩

/-- What is left over has no pair in it. -/
theorem ne_pairText_of_count {pair : List α × List α} {behind : List α} (h : rest.count mark ≤ 1) :
    rest ≠ pairText mark pair ++ behind := by
  rintro rfl
  simp only [pairText, List.count_append, List.count_cons_self, List.append_assoc, List.cons_append] at h
  omega

/-- There is one pairing only. -/
theorem Paired.unique {pairs' : List (List α × List α)} {rest' : List α} (h : Paired mark text pairs rest)
    (h' : Paired mark text pairs' rest') : pairs = pairs' ∧ rest = rest' := by
  induction pairs generalizing text pairs' with
  | nil =>
    cases pairs' with
    | nil => exact ⟨rfl, h.joined.symm.trans h'.joined⟩
    | cons pair' pairs' =>
      have joined := h.joined.symm.trans h'.joined
      rw [List.flatMap_cons, List.append_assoc] at joined
      exact absurd joined (ne_pairText_of_count h.last)
  | cons pair pairs ih =>
    cases pairs' with
    | nil =>
      have joined := h'.joined.symm.trans h.joined
      rw [List.flatMap_cons, List.append_assoc] at joined
      exact absurd joined (ne_pairText_of_count h'.last)
    | cons pair' pairs' =>
      obtain ⟨⟨gap, name⟩, apart⟩ := List.forall_mem_cons.mp h.apart
      obtain ⟨⟨gap', name'⟩, apart'⟩ := List.forall_mem_cons.mp h'.apart
      have joined := h.joined.symm.trans h'.joined
      rw [List.flatMap_cons, List.flatMap_cons, List.append_assoc, List.append_assoc, pairText_append, pairText_append] at joined
      obtain ⟨sameGap, joined⟩ := first_mark_unique gap gap' joined
      obtain ⟨sameName, joined⟩ := first_mark_unique name name' joined
      obtain ⟨rfl, rfl⟩ := ih ⟨rfl, apart, h.last⟩ ⟨joined, apart', h'.last⟩
      exact ⟨congrArg (· :: pairs) (Prod.ext sameGap sameName), rfl⟩

end

end AnneDeBreuil
