import Mathlib.Data.List.Basic

namespace AnneDeBreuil

variable {σ α : Type}

/-- The runs of a labelled transition system, with the state each step was
taken in and its label, oldest first. -/
inductive Run (step : σ → α → Option σ) (start : σ) : List (σ × α) → σ → Prop
  | refl : Run step start [] start
  | snoc {trace : List (σ × α)} {s t : σ} {action : α} (before : Run step start trace s)
      (next : step s action = some t) : Run step start (trace ++ [(s, action)]) t

/-- What holds at the start and is kept by each step holds along a run, the
steps taken so far included. -/
theorem Run.trace_invariant {step : σ → α → Option σ} {start : σ} (inv : List (σ × α) → σ → Prop)
    (ok : σ → α → Prop) (init : inv [] start)
    (preserved : ∀ trace s action t, inv trace s → ok s action → step s action = some t →
      inv (trace ++ [(s, action)]) t)
    {trace : List (σ × α)} {t : σ} (run : Run step start trace t) (meets : ∀ p ∈ trace, ok p.1 p.2) :
    inv trace t := by
  induction run with
  | refl => exact init
  | @snoc trace s t action before next ih =>
    have earlier := ih (fun p hp => meets p (List.mem_append_left _ hp))
    have last := meets (s, action) (by simp)
    exact preserved trace s action t earlier last next

/-- The same where nothing is asked of the steps. -/
theorem Run.always_traced {step : σ → α → Option σ} {start : σ} (inv : List (σ × α) → σ → Prop) (init : inv [] start)
    (preserved : ∀ trace s action t, inv trace s → step s action = some t → inv (trace ++ [(s, action)]) t)
    {trace : List (σ × α)} {t : σ} (run : Run step start trace t) : inv trace t :=
  run.trace_invariant inv (fun _ _ => True) init (fun trace s action t holds _ => preserved trace s action t holds)
    fun _ _ => trivial

theorem Run.invariant {step : σ → α → Option σ} {start : σ} (inv : σ → Prop) (ok : σ → α → Prop)
    (init : inv start) (preserved : ∀ s action t, inv s → ok s action → step s action = some t → inv t)
    {trace : List (σ × α)} {t : σ} (run : Run step start trace t) (meets : ∀ p ∈ trace, ok p.1 p.2) : inv t :=
  run.trace_invariant (fun _ s => inv s) ok init (fun _ s action t => preserved s action t) meets

/-- What each step keeps holds at the end if it held at the start. -/
theorem Run.always {step : σ → α → Option σ} {start : σ} (inv : σ → Prop) (init : inv start)
    (preserved : ∀ s action t, inv s → step s action = some t → inv t)
    {trace : List (σ × α)} {t : σ} (run : Run step start trace t) : inv t :=
  run.always_traced (fun _ s => inv s) init fun _ s action t => preserved s action t

/-- The run up to a step that it takes. -/
theorem Run.upTo {step : σ → α → Option σ} {start t : σ} {trace : List (σ × α)} {p : σ × α}
    (run : Run step start trace t) (h : p ∈ trace) : ∃ before, Run step start before p.1 := by
  induction run with
  | refl => cases h
  | @snoc trace s t action before next ih =>
    rcases List.mem_append.mp h with hp | hp
    · exact ih hp
    · obtain rfl := List.mem_singleton.mp hp
      exact ⟨trace, before⟩

/-- The run behind a step that it takes. -/
theorem Run.behind {step : σ → α → Option σ} {start t : σ} {trace : List (σ × α)} {p : σ × α}
    (run : Run step start trace t) (h : p ∈ trace) :
    ∃ u, step p.1 p.2 = some u ∧ ∃ later, Run step u later t := by
  induction run with
  | refl => cases h
  | @snoc trace s t action before next ih =>
    rcases List.mem_append.mp h with hp | hp
    · obtain ⟨u, hu, later, run⟩ := ih hp
      exact ⟨u, hu, _, run.snoc next⟩
    · obtain rfl := List.mem_singleton.mp hp
      exact ⟨t, next, [], .refl⟩

/-- Of two steps of a run one comes behind the other. -/
theorem Run.order {step : σ → α → Option σ} {start t : σ} {trace : List (σ × α)} {p q : σ × α}
    (run : Run step start trace t) (hp : p ∈ trace) (hq : q ∈ trace) : p = q ∨
    (∃ u, step p.1 p.2 = some u ∧ ∃ between, Run step u between q.1) ∨
      ∃ u, step q.1 q.2 = some u ∧ ∃ between, Run step u between p.1 := by
  induction run with
  | refl => cases hp
  | @snoc trace s t action before next ih =>
    rcases List.mem_append.mp hp with hp' | hp' <;> rcases List.mem_append.mp hq with hq' | hq'
    · exact ih hp' hq'
    · obtain rfl := List.mem_singleton.mp hq'
      exact .inr (.inl (before.behind hp'))
    · obtain rfl := List.mem_singleton.mp hp'
      exact .inr (.inr (before.behind hq'))
    · exact .inl ((List.mem_singleton.mp hp').trans (List.mem_singleton.mp hq').symm)

/-- The state some labels lead to. -/
def runList (step : σ → α → Option σ) : σ → List α → Option σ
  | s, [] => some s
  | s, action :: actions => (step s action).bind (fun t => runList step t actions)

/-- The steps some labels take, with the state each is taken in. -/
def stepsOf (step : σ → α → Option σ) : σ → List α → List (σ × α)
  | _, [] => []
  | s, action :: actions => (s, action) :: (step s action).elim [] (fun t => stepsOf step t actions)

theorem mem_stepsOf {step : σ → α → Option σ} {s : σ} {actions : List α} {p : σ × α}
    (h : p ∈ stepsOf step s actions) : p.2 ∈ actions := by
  induction actions generalizing s with
  | nil => cases h
  | cons action actions ih =>
    rcases List.mem_cons.mp h with rfl | hlater
    · exact List.mem_cons_self
    · cases hnext : step s action with
      | none =>
        rw [hnext] at hlater
        cases hlater
      | some t =>
        rw [hnext] at hlater
        exact List.mem_cons_of_mem _ (ih hlater)

theorem Run.append_stepsOf {step : σ → α → Option σ} {start s t : σ} {trace : List (σ × α)} {actions : List α}
    (before : Run step start trace s) (h : runList step s actions = some t) :
    Run step start (trace ++ stepsOf step s actions) t := by
  induction actions generalizing trace s with
  | nil =>
    cases h
    simpa [stepsOf] using before
  | cons action actions ih =>
    obtain ⟨u, hu, hrest⟩ := Option.bind_eq_some_iff.mp h
    have run := ih (before.snoc hu) hrest
    simpa [stepsOf, hu] using run

theorem Run.of_stepsOf {step : σ → α → Option σ} {start t : σ} {actions : List α}
    (h : runList step start actions = some t) : Run step start (stepsOf step start actions) t :=
  Run.refl.append_stepsOf h

theorem stepsOf_labels {step : σ → α → Option σ} {s t : σ} {actions : List α}
    (h : runList step s actions = some t) : (stepsOf step s actions).map Prod.snd = actions := by
  induction actions generalizing s with
  | nil => rfl
  | cons action actions ih =>
    obtain ⟨u, hu, hrest⟩ := Option.bind_eq_some_iff.mp h
    simp [stepsOf, hu, ih hrest]

theorem Run.of_runList {step : σ → α → Option σ} {start t : σ} {actions : List α}
    (h : runList step start actions = some t) :
    ∃ trace, Run step start trace t ∧ trace.map Prod.snd = actions :=
  ⟨_, Run.of_stepsOf h, stepsOf_labels h⟩

end AnneDeBreuil
