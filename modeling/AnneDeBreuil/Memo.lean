import AnneDeBreuil.Runs
import Mathlib.Logic.Function.Basic

namespace AnneDeBreuil

/-- Computations whose results are kept, one for each key. Calls look their key up, compute where they
found nothing, and keep the result unless another was faster. A call that computed answers with what
is kept where the memo is `shared`, else with its own result. -/
structure Memo (ι κ ω ε : Type) (ν : κ → Type) where
  key : ι → κ
  compute : (k : κ) → ω → Except ε (ν k)
  shared : Bool

inductive MemoPhase (ν ε : Type)
  | idle
  | missed
  | computed (value : ν)
  | returned (result : Except ε ν)
  | dropped

inductive MemoEvent (ω : Type)
  | check
  | compute (met : ω)
  | store
  | drop

structure MemoState {ι κ ω ε : Type} {ν : κ → Type} (memo : Memo ι κ ω ε ν) where
  stored : (k : κ) → Option (ν k)
  phase : (i : ι) → MemoPhase (ν (memo.key i)) ε

section

variable {ω ε ν : Type}

/-- One step of one call, at its own key. -/
def cellStep (compute : ω → Except ε ν) (shared : Bool) (stored : Option ν) :
    MemoPhase ν ε → MemoEvent ω → Option (MemoPhase ν ε × Option ν)
  | .idle, .check =>
    match stored with
    | some value => some (.returned (.ok value), stored)
    | none => some (.missed, stored)
  | .missed, .compute met =>
    match compute met with
    | .error e => some (.returned (.error e), stored)
    | .ok value => some (.computed value, stored)
  | .computed value, .store =>
    let winner := stored.getD value
    some (.returned (.ok (if shared then winner else value)), some winner)
  | .missed, .drop | .computed _, .drop => some (.dropped, stored)
  | _, _ => none

/-- What one step of a call can do. -/
inductive CellMove (compute : ω → Except ε ν) (shared : Bool) (stored : Option ν) :
    MemoPhase ν ε → MemoEvent ω → MemoPhase ν ε → Option ν → Prop
  | hit {value : ν} (held : stored = some value) :
      CellMove compute shared stored .idle .check (.returned (.ok value)) stored
  | miss (empty : stored = none) : CellMove compute shared stored .idle .check .missed stored
  | failed {met : ω} {e : ε} (error : compute met = .error e) :
      CellMove compute shared stored .missed (.compute met) (.returned (.error e)) stored
  | computed {met : ω} {value : ν} (ok : compute met = .ok value) :
      CellMove compute shared stored .missed (.compute met) (.computed value) stored
  | kept {value : ν} (empty : stored = none) :
      CellMove compute shared stored (.computed value) .store (.returned (.ok value)) (some value)
  | beaten {value winner : ν} (held : stored = some winner) :
      CellMove compute shared stored (.computed value) .store (.returned (.ok (if shared then winner else value))) stored
  | dropped {phase : MemoPhase ν ε} (begun : phase ≠ .idle) (waits : ∀ result, phase ≠ .returned result) :
      CellMove compute shared stored phase .drop .dropped stored

variable {compute : ω → Except ε ν} {shared : Bool} {stored stored' : Option ν} {phase phase' : MemoPhase ν ε}
  {event : MemoEvent ω}

theorem cellStep_moves (h : cellStep compute shared stored phase event = some (phase', stored')) :
    CellMove compute shared stored phase event phase' stored' := by
  unfold cellStep at h
  split at h
  next =>
    split at h
    next held => cases h; exact .hit rfl
    next => cases h; exact .miss rfl
  next =>
    split at h
    next error => cases h; exact .failed error
    next ok => cases h; exact .computed ok
  next value =>
    cases h
    cases stored with
    | none =>
      have own : (if shared then (none : Option ν).getD value else value) = value := ite_self _
      rw [own]
      exact .kept rfl
    | some winner => exact .beaten rfl
  next => cases h; exact .dropped nofun nofun
  next => cases h; exact .dropped nofun nofun
  next => cases h

namespace CellMove

/-- Only a store that finds nothing changes what is kept. -/
theorem store (move : CellMove compute shared stored phase event phase' stored') : stored' = stored ∨
    stored = none ∧ event = .store ∧ ∃ value, phase = .computed value ∧ stored' = some value := by
  cases move with
  | kept empty => exact .inr ⟨empty, rfl, _, rfl, rfl⟩
  | hit | miss | failed | computed | beaten | dropped => exact .inl rfl

theorem keeps {value : ν} (move : CellMove compute shared stored phase event phase' stored')
    (held : stored = some value) : stored' = some value := by
  rcases move.store with same | ⟨empty, -⟩
  · rw [same, held]
  · rw [held] at empty
    cases empty

theorem computing {value : ν} (move : CellMove compute shared stored phase event (.computed value) stored') :
    ∃ met, event = .compute met ∧ compute met = .ok value := by
  cases move with
  | computed ok => exact ⟨_, rfl, ok⟩

theorem erred {e : ε} (move : CellMove compute shared stored phase event (.returned (.error e)) stored') :
    ∃ met, event = .compute met ∧ compute met = .error e := by
  cases move with
  | failed error => exact ⟨_, rfl, error⟩

/-- A call that answers has found a value, or has just computed one. -/
theorem answered {value : ν} (move : CellMove compute shared stored phase event (.returned (.ok value)) stored') :
    ∃ held, stored' = some held ∧ (value = held ∨ shared = false ∧ phase = .computed value) := by
  cases move with
  | hit held => exact ⟨value, held, .inl rfl⟩
  | kept empty => exact ⟨value, rfl, .inl rfl⟩
  | beaten held =>
    refine ⟨_, held, ?_⟩
    cases shared with
    | true => exact .inl rfl
    | false => exact .inr ⟨rfl, rfl⟩

theorem not_returned {result : Except ε ν} : ¬CellMove compute shared stored (.returned result) event phase' stored' := by
  intro move
  cases move with
  | dropped begun waits => exact waits result rfl

theorem not_idle (move : CellMove compute shared stored phase event phase' stored') : phase' ≠ .idle := by
  cases move <;> nofun

theorem checks {value : ν} (move : CellMove compute shared stored phase event phase' stored') (check : event = .check)
    (held : stored = some value) : phase = .idle ∧ phase' = .returned (.ok value) := by
  cases move with
  | hit found =>
    rw [held] at found
    cases found
    exact ⟨rfl, rfl⟩
  | miss empty =>
    rw [held] at empty
    cases empty
  | failed | computed | kept | beaten | dropped => cases check

end CellMove

end

section

variable {ι κ ω ε : Type} {ν : κ → Type} [DecidableEq ι] [DecidableEq κ] {memo : Memo ι κ ω ε ν}

variable (memo) in
def Memo.start : MemoState memo := ⟨fun _ => none, fun _ => .idle⟩

variable (memo) in
/-- One step of one call; the label is the call and what happens to it. -/
def Memo.step (s : MemoState memo) (label : ι × MemoEvent ω) : Option (MemoState memo) :=
  (cellStep (memo.compute (memo.key label.1)) memo.shared (s.stored (memo.key label.1)) (s.phase label.1) label.2).map
    fun next => ⟨Function.update s.stored (memo.key label.1) next.2, Function.update s.phase label.1 next.1⟩

variable {s t : MemoState memo} {label : ι × MemoEvent ω} {trace : List (MemoState memo × (ι × MemoEvent ω))}

theorem Memo.step_moves (h : memo.step s label = some t) :
    CellMove (memo.compute (memo.key label.1)) memo.shared (s.stored (memo.key label.1)) (s.phase label.1) label.2
        (t.phase label.1) (t.stored (memo.key label.1)) ∧
      (∀ j, j ≠ label.1 → t.phase j = s.phase j) ∧ ∀ k, k ≠ memo.key label.1 → t.stored k = s.stored k := by
  obtain ⟨⟨phase, stored⟩, moved, rfl⟩ := Option.map_eq_some_iff.mp h
  refine ⟨?_, fun j other => Function.update_of_ne other _ _, fun k other => Function.update_of_ne other _ _⟩
  dsimp only
  rw [Function.update_self, Function.update_self]
  exact cellStep_moves moved

/-- What is kept stays. -/
theorem Memo.step_keeps (h : memo.step s label = some t) {k : κ} {value : ν k} (held : s.stored k = some value) :
    t.stored k = some value := by
  obtain ⟨move, -, others⟩ := memo.step_moves h
  by_cases same : k = memo.key label.1
  · subst same
    exact move.keeps held
  · rw [others k same, held]

theorem Memo.run_keeps (run : Run memo.step s trace t) {k : κ} {value : ν k} (held : s.stored k = some value) :
    t.stored k = some value :=
  run.always (fun s => s.stored k = some value) held fun _ _ _ held next => step_keeps next held

variable (memo) in
/-- A call has computed this result at a key, in a run with this trace. -/
def Memo.Computed (trace : List (MemoState memo × (ι × MemoEvent ω))) (i : ι) (k : κ) (result : Except ε (ν k)) : Prop :=
  ∃ met, memo.compute k met = result ∧ ∃ p ∈ trace, p.2 = (i, .compute met)

omit [DecidableEq ι] [DecidableEq κ] in
theorem Memo.Computed.later {i : ι} {k : κ} {result : Except ε (ν k)} (h : memo.Computed trace i k result)
    (p : MemoState memo × (ι × MemoEvent ω)) : memo.Computed (trace ++ [p]) i k result := by
  obtain ⟨met, ok, q, hq, computing⟩ := h
  exact ⟨met, ok, q, List.mem_append_left _ hq, computing⟩

omit [DecidableEq ι] [DecidableEq κ] in
theorem Memo.Computed.last {event : MemoEvent ω} {i : ι} {k : κ} {result : Except ε (ν k)}
    (h : ∃ met, event = .compute met ∧ memo.compute k met = result) (s : MemoState memo) :
    memo.Computed (trace ++ [(s, (i, event))]) i k result := by
  obtain ⟨met, rfl, ok⟩ := h
  exact ⟨met, ok, _, List.mem_append_right _ List.mem_cons_self, rfl⟩

variable (memo) in
/-- What the calls on one memo have come to: each value kept is the result of the call that kept it,
and each answer is what is kept at the call's key, unless it is the call's own result. -/
structure Memo.Sound (trace : List (MemoState memo × (ι × MemoEvent ω))) (s : MemoState memo) : Prop where
  stored : ∀ k value, s.stored k = some value → ∃ i, memo.key i = k ∧ memo.Computed trace i k (.ok value) ∧
    ∃ p ∈ trace, p.2 = (i, .store) ∧ p.1.stored k = none
  computed : ∀ i value, s.phase i = .computed value → memo.Computed trace i (memo.key i) (.ok value)
  answered : ∀ i value, s.phase i = .returned (.ok value) → ∃ held, s.stored (memo.key i) = some held ∧
    (value = held ∨ memo.shared = false ∧ memo.Computed trace i (memo.key i) (.ok value))
  failed : ∀ i e, s.phase i = .returned (.error e) → memo.Computed trace i (memo.key i) (.error e)

omit [DecidableEq ι] [DecidableEq κ] in
theorem Memo.Sound.start : memo.Sound [] memo.start := ⟨nofun, nofun, nofun, nofun⟩

theorem Memo.Sound.step (h : memo.Sound trace s) (next : memo.step s label = some t) :
    memo.Sound (trace ++ [(s, label)]) t := by
  obtain ⟨caller, event⟩ := label
  obtain ⟨move, phases, cells⟩ := memo.step_moves next
  dsimp only at move phases cells
  refine ⟨fun k value hk => ?_, fun j value hj => ?_, fun j value hj => ?_, fun j e hj => ?_⟩
  · have earlier : s.stored k = some value → ∃ i, memo.key i = k ∧
        memo.Computed (trace ++ [(s, (caller, event))]) i k (.ok value) ∧
        ∃ p ∈ trace ++ [(s, (caller, event))], p.2 = (i, .store) ∧ p.1.stored k = none := by
      intro held
      obtain ⟨i, hkey, computed, p, hp, kept⟩ := h.stored k value held
      exact ⟨i, hkey, computed.later _, p, List.mem_append_left _ hp, kept⟩
    by_cases same : k = memo.key caller
    · subst same
      rcases move.store with unchanged | ⟨empty, rfl, own, waits, kept⟩
      · exact earlier (unchanged ▸ hk)
      · obtain rfl : own = value := Option.some.inj (kept.symm.trans hk)
        exact ⟨caller, rfl, (h.computed caller own waits).later _, _, List.mem_append_right _ List.mem_cons_self, rfl, empty⟩
    · exact earlier (cells k same ▸ hk)
  · by_cases same : j = caller
    · subst same
      rw [hj] at move
      exact .last move.computing s
    · exact (h.computed j value (phases j same ▸ hj)).later _
  · by_cases same : j = caller
    · subst same
      rw [hj] at move
      obtain ⟨held, kept, agrees | ⟨own, waits⟩⟩ := move.answered
      · exact ⟨held, kept, .inl agrees⟩
      · exact ⟨held, kept, .inr ⟨own, (h.computed j value waits).later _⟩⟩
    · obtain ⟨held, kept, answer⟩ := h.answered j value (phases j same ▸ hj)
      exact ⟨held, memo.step_keeps next kept, answer.imp_right fun own => ⟨own.1, own.2.later _⟩⟩
  · by_cases same : j = caller
    · subst same
      rw [hj] at move
      exact .last move.erred s
    · exact (h.failed j e (phases j same ▸ hj)).later _

theorem Memo.step_returned {i : ι} {result : Except ε (ν (memo.key i))} (h : s.phase i = .returned result)
    (next : memo.step s label = some t) : t.phase i = .returned result ∧ i ≠ label.1 := by
  obtain ⟨move, others, -⟩ := memo.step_moves next
  have elsewhere : i ≠ label.1 := by
    rintro rfl
    rw [h] at move
    exact move.not_returned
  exact ⟨(others i elsewhere).trans h, elsewhere⟩

theorem Memo.step_begun {i : ι} (h : s.phase i ≠ .idle) (next : memo.step s label = some t) : t.phase i ≠ .idle := by
  obtain ⟨move, others, -⟩ := memo.step_moves next
  by_cases same : i = label.1
  · subst same
    exact move.not_idle
  · rwa [others i same]

/-- A call that finds a value answers with it at once: the check is its only step. -/
theorem Memo.hit_run (run : Run memo.step memo.start trace s) {p q : MemoState memo × (ι × MemoEvent ω)} (hp : p ∈ trace)
    (check : p.2.2 = .check) {value : ν (memo.key p.2.1)} (held : p.1.stored (memo.key p.2.1) = some value) (hq : q ∈ trace)
    (same : q.2.1 = p.2.1) : q = p ∧ s.phase p.2.1 = .returned (.ok value) := by
  obtain ⟨after, hafter, later, rest⟩ := run.behind hp
  obtain ⟨idle, returned⟩ := (memo.step_moves hafter).1.checks check held
  have stays : ∀ {trace t}, Run memo.step after trace t → t.phase p.2.1 = .returned (.ok value) := fun run =>
    run.always (fun s => s.phase p.2.1 = .returned (.ok value)) returned fun _ _ _ h next => (step_returned h next).1
  refine ⟨?_, stays rest⟩
  rcases run.order hp hq with rfl | ⟨u, hu, between, rest⟩ | ⟨u, hu, between, rest⟩
  · rfl
  · obtain rfl := Option.some.inj (hafter.symm.trans hu)
    obtain ⟨v, hv, -⟩ := run.behind hq
    exact absurd same.symm (step_returned (stays rest) hv).2
  · -- the call had not begun when it looked
    have begun : u.phase p.2.1 ≠ .idle := by
      rw [← same]
      exact (memo.step_moves hu).1.not_idle
    exact absurd idle (rest.always (fun s => s.phase p.2.1 ≠ .idle) begun fun _ _ _ h next => step_begun h next)

theorem Memo.sound_run (run : Run memo.step memo.start trace s) : memo.Sound trace s :=
  run.always_traced memo.Sound .start fun _ _ _ _ => .step

end

end AnneDeBreuil
