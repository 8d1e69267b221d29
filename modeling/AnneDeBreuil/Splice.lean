import Mathlib.Data.List.Basic

namespace AnneDeBreuil

variable {α : Type}

/-- A stretch of a sequence, from `start` up to `stop`, and what replaces it. -/
structure Patch (α : Type) where
  start : Nat
  stop : Nat
  text : List α

/-- `Replaces offset rest patches out`: where `rest` begins at `offset`, `out`
is `rest` with exactly the patches' stretches replaced. -/
inductive Replaces : Nat → List α → List (Patch α) → List α → Prop
  | done {offset : Nat} {rest : List α} : Replaces offset rest [] rest
  | patch {offset : Nat} {gap cut rest text out : List α} {patches : List (Patch α)}
      (later : Replaces (offset + gap.length + cut.length) rest patches out) :
      Replaces offset (gap ++ (cut ++ rest))
        (⟨offset + gap.length, offset + gap.length + cut.length, text⟩ :: patches) (gap ++ (text ++ out))

/-- The patches in order, apart from each other and inside the sequence. -/
inductive Patched (limit : Nat) : Nat → List (Patch α) → Prop
  | nil {cursor : Nat} (inside : cursor ≤ limit) : Patched limit cursor []
  | cons {cursor : Nat} {patch : Patch α} {patches : List (Patch α)} (after : cursor ≤ patch.start)
      (proper : patch.start ≤ patch.stop) (later : Patched limit patch.stop patches) :
      Patched limit cursor (patch :: patches)

def spliceFrom (input : List α) : Nat → List (Patch α) → List α
  | cursor, [] => input.drop cursor
  | cursor, patch :: patches =>
    (input.drop cursor).take (patch.start - cursor) ++ (patch.text ++ spliceFrom input patch.stop patches)

theorem Patched.cursor_le {limit cursor : Nat} {patches : List (Patch α)}
    (h : Patched limit cursor patches) : cursor ≤ limit := by
  induction h with
  | nil inside => exact inside
  | cons after proper later ih => omega

theorem spliceFrom_replaces {input : List α} {cursor : Nat} {patches : List (Patch α)}
    (h : Patched input.length cursor patches) :
    Replaces cursor (input.drop cursor) patches (spliceFrom input cursor patches) := by
  induction h with
  | nil inside => exact .done
  | @cons cursor patch patches after proper later ih =>
    have bound := later.cursor_le
    let gap := (input.drop cursor).take (patch.start - cursor)
    let cut := (input.drop patch.start).take (patch.stop - patch.start)
    have gapLength : cursor + gap.length = patch.start := by
      simp only [gap, List.length_take, List.length_drop]
      omega
    have cutLength : cursor + gap.length + cut.length = patch.stop := by
      simp only [gapLength, cut, List.length_take, List.length_drop]
      omega
    have parts : input.drop cursor = gap ++ (cut ++ input.drop patch.stop) := by
      have first : gap ++ input.drop patch.start = input.drop cursor := by
        have := List.take_append_drop (patch.start - cursor) (input.drop cursor)
        rwa [List.drop_drop, show cursor + (patch.start - cursor) = patch.start by omega] at this
      have second : cut ++ input.drop patch.stop = input.drop patch.start := by
        have := List.take_append_drop (patch.stop - patch.start) (input.drop patch.start)
        rwa [List.drop_drop, show patch.start + (patch.stop - patch.start) = patch.stop by omega] at this
      rw [second, first]
    have rest : Replaces (cursor + gap.length + cut.length) (input.drop patch.stop) patches
        (spliceFrom input patch.stop patches) := by
      rw [cutLength]
      exact ih
    have step : Replaces cursor (gap ++ (cut ++ input.drop patch.stop)) _
        (gap ++ (patch.text ++ spliceFrom input patch.stop patches)) := .patch rest
    rw [gapLength, show patch.start + cut.length = patch.stop by omega] at step
    rw [parts]
    exact step

theorem Replaces.of_patch {offset : Nat} {whole out : List α} {patch : Patch α} {patches : List (Patch α)}
    (h : Replaces offset whole (patch :: patches) out) :
    ∃ gap cut rest out', whole = gap ++ (cut ++ rest) ∧ out = gap ++ (patch.text ++ out') ∧
      patch.start = offset + gap.length ∧ patch.stop = patch.start + cut.length ∧
      Replaces patch.stop rest patches out' := by
  cases h with
  | patch later => exact ⟨_, _, _, _, rfl, rfl, rfl, rfl, later⟩

/-- The patches determine the result. -/
theorem Replaces.unique {offset : Nat} {whole out out' : List α} {patches : List (Patch α)}
    (h : Replaces offset whole patches out) (h' : Replaces offset whole patches out') : out = out' := by
  induction patches generalizing offset whole out out' with
  | nil =>
    cases h
    cases h'
    rfl
  | cons patch patches ih =>
    obtain ⟨gap, cut, rest, later, rfl, rfl, hs, he, hl⟩ := h.of_patch
    obtain ⟨gap', cut', rest', later', hw, rfl, hs', he', hl'⟩ := h'.of_patch
    have hgap := List.append_inj hw (by omega)
    have hcut := List.append_inj hgap.2 (by omega)
    rw [hgap.1, ih hl (hcut.2 ▸ hl')]

end AnneDeBreuil
