import AnneDeBreuil.FixedWindow

namespace AnneDeBreuil

section

variable {σ α β : Type}

/-- The inputs of a run that an observer sees, each with its reply. -/
def seen (step : σ → α → σ × β) (visible : α → Bool) (s : σ) (inputs : List α) : List (α × β) :=
  (inputs.zip (replies step s inputs)).filter fun answered => visible answered.1

/-- Each input is replied to from a state of the machine. -/
theorem reply_from {step : σ → α → σ × β} {s : σ} {inputs : List α} {answered : α × β}
    (h : answered ∈ inputs.zip (replies step s inputs)) : ∃ t, answered.2 = (step t answered.1).2 := by
  induction inputs generalizing s with
  | nil => cases h
  | cons a inputs ih =>
    rw [replies, List.zip_cons_cons] at h
    rcases List.mem_cons.mp h with rfl | later
    · exact ⟨s, rfl⟩
    · exact ih later

/-- A relation between a run and the same run less what an observer does not
see, after the inputs so far: a hidden input keeps it on one side alone, and a
visible one on both, with one reply. -/
structure Unwinding (step : σ → α → σ × β) (visible : α → Bool) (inputs : List α) (related : List α → σ → σ → Prop) :
    Prop where
  hidden : ∀ past a s t, past ++ [a] <+: inputs → visible a = false → related past s t →
    related (past ++ [a]) (step s a).1 t
  shown : ∀ past a s t, past ++ [a] <+: inputs → visible a = true → related past s t →
    related (past ++ [a]) (step s a).1 (step t a).1 ∧ (step s a).2 = (step t a).2

variable {step : σ → α → σ × β} {visible : α → Bool} {inputs : List α} {related : List α → σ → σ → Prop}

theorem Unwinding.seen_from (unwinding : Unwinding step visible inputs related) {past rest : List α} {s t : σ}
    (parts : inputs = past ++ rest) (start : related past s t) :
    seen step visible s rest = (rest.filter visible).zip (replies step t (rest.filter visible)) := by
  induction rest generalizing past s t with
  | nil => rfl
  | cons a rest ih =>
    have parts' : inputs = (past ++ [a]) ++ rest := by rw [parts, List.append_assoc, List.singleton_append]
    have upTo : past ++ [a] <+: inputs := ⟨rest, parts'.symm⟩
    unfold seen at ih ⊢
    rw [replies, List.zip_cons_cons]
    cases hvisible : visible a with
    | false =>
      have later := ih parts' (unwinding.hidden past a s t upTo hvisible start)
      rw [List.filter_cons_of_neg (by simp [hvisible]), List.filter_cons_of_neg (by simp [hvisible]), later]
    | true =>
      obtain ⟨kept, reply⟩ := unwinding.shown past a s t upTo hvisible start
      rw [List.filter_cons_of_pos (by simp [hvisible]), List.filter_cons_of_pos (by simp [hvisible]), replies,
        List.zip_cons_cons, ih parts' kept, reply]

/-- An observer sees the same in a run and in the run less what it does not see. -/
theorem Unwinding.seen_purged (unwinding : Unwinding step visible inputs related) {s t : σ} (start : related [] s t) :
    seen step visible s inputs = (inputs.filter visible).zip (replies step t (inputs.filter visible)) :=
  unwinding.seen_from rfl start

end

end AnneDeBreuil
