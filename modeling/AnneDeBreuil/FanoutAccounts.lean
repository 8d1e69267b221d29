import AnneDeBreuil.FanoutMoves
import Mathlib.Algebra.BigOperators.Group.Finset.Basic
import Mathlib.Algebra.BigOperators.Group.Finset.Piecewise
import Mathlib.Algebra.Order.BigOperators.Group.Finset

namespace AnneDeBreuil

/-- What has been reported and returned for an entry, by where its task stands. -/
def TaskPhase.Accounts (hostId : HostId) (events : List ProgressEvent) (results : List HostResult) :
    TaskPhase → Prop
  | .unspawned | .waiting | .starting => events = [] ∧ results = []
  | .resolving | .scanning _ | .persisting _ _ | .backoff _ | .finishing _ | .panicked =>
    events = [.hostStarted hostId] ∧ results = []
  | .releasing result | .returned result =>
    result.hostId = hostId ∧ events = [.hostStarted hostId, .hostFinished hostId result.outcome] ∧ results = []
  | .collected => ∃ result : HostResult, result.hostId = hostId ∧
      events = [.hostStarted hostId, .hostFinished hostId result.outcome] ∧ results = [result]

/-- How many steps of its own a task has left, at most. -/
def TaskPhase.rank : TaskPhase → Nat
  | .unspawned => 18
  | .waiting => 17
  | .starting => 16
  | .resolving => 15
  | .scanning attempt => 5 + 3 * (maxAttempts - attempt)
  | .persisting attempt _ => 4 + 3 * (maxAttempts - attempt)
  | .backoff attempt => 6 + 3 * (maxAttempts - (attempt + 1))
  | .finishing _ => 3
  | .releasing _ => 2
  | .returned _ => 1
  | .panicked => 1
  | .collected => 0

/-- The tasks that hold a permit. -/
def FanoutState.holders (s : FanoutState) (tasks : Nat) : Finset Nat :=
  (Finset.range tasks).filter (fun task => (s.phase task).holdsPermit = true)

/-- The accounting of `run_fanout` at a state: of the permits, of the steps
left, of what was reported, and of the results once it returned. -/
structure FanoutState.Accounted {ε : Type} (sys : FanoutSystem ε) (s : FanoutState) : Prop where
  permits : s.permits + (s.holders sys.inventory.length).card = sys.limit
  live : s.done = false → ∃ action t, action.own = true ∧ sys.step s action = some t
  order : ∀ task host, sys.inventory[task]? = some host → ∃ outcome,
    tagged task s.events <+: [.hostStarted host.hostId, .hostFinished host.hostId outcome]
  reports : s.done = true → ∀ task host, sys.inventory[task]? = some host → ∃ result : HostResult,
    tagged task s.results = [result] ∧ result.hostId = host.hostId ∧
      tagged task s.events = [.hostStarted host.hostId, .hostFinished host.hostId result.outcome]
  entries : s.done = true → (s.results.map Prod.fst).Perm (List.range sys.inventory.length)
  results : s.done = true →
    (s.results.map (fun entry => entry.2.hostId)).Perm (sys.inventory.map InventoryHost.hostId)

section

variable {ε : Type} {sys : FanoutSystem ε} {s t : FanoutState}

theorem sum_update (phase : Nat → TaskPhase) {tasks task : Nat} (f : TaskPhase → Nat) (h : task < tasks)
    (new : TaskPhase) :
    ∑ i ∈ Finset.range tasks, f (Function.update phase task new i) + f (phase task) =
      ∑ i ∈ Finset.range tasks, f (phase i) + f new := by
  have hmem : task ∈ Finset.range tasks := Finset.mem_range.mpr h
  have others : ∑ i ∈ (Finset.range tasks).erase task, f (Function.update phase task new i) =
      ∑ i ∈ (Finset.range tasks).erase task, f (phase i) :=
    Finset.sum_congr rfl (fun i hi => by rw [Function.update_of_ne (Finset.ne_of_mem_erase hi)])
  rw [← Finset.add_sum_erase _ _ hmem, ← Finset.add_sum_erase _ (fun i => f (phase i)) hmem, others,
    Function.update_self]
  omega

theorem holders_card (s : FanoutState) (tasks : Nat) :
    (s.holders tasks).card = ∑ task ∈ Finset.range tasks, (s.phase task).permit := by
  rw [FanoutState.holders, Finset.card_filter]
  rfl

theorem TaskMove.rank_lt {task : Nat} {host : InventoryHost} {action : FanoutAction ε}
    {phase : TaskPhase} {effect : TaskEffect}
    (move : TaskMove sys s task host action phase effect) : phase.rank < (s.phase task).rank := by
  cases move with
  | scanFailed attempt met error phase =>
    rw [phase]
    obtain ⟨reason, -, hleft, h⟩ | ⟨outcome, h, -⟩ := afterAttempt_cases attempt (.error error)
    · rw [h]
      simp only [TaskPhase.rank]
      omega
    · rw [h]
      simp only [TaskPhase.rank]
      omega
  | elapse phase =>
    revert phase
    cases s.phase task <;> simp [TaskPhase.timed, TaskPhase.rank] <;> omega
  | panic phase =>
    revert phase
    cases s.phase task <;> simp [TaskPhase.calling, TaskPhase.rank] <;> omega
  | wake attempt phase =>
    rw [phase]
    simp only [TaskPhase.rank]
    omega
  | _ =>
    simp only [TaskPhase.rank, maxAttempts, *]
    omega

/-- A task that takes a permit found one. -/
theorem TaskMove.affordable {task : Nat} {host : InventoryHost} {action : FanoutAction ε}
    {phase : TaskPhase} {effect : TaskEffect}
    (move : TaskMove sys s task host action phase effect) : phase.permit ≤ s.permits + (s.phase task).permit := by
  cases move with
  | acquire before free => exact Nat.le_add_right_of_le free
  | scanFailed attempt met error before =>
    have held : (TaskPhase.scanning attempt).permit = 1 := rfl
    rw [afterAttempt_permit, before, held]
    omega
  | elapse before =>
    rw [TaskPhase.permit_of_timed before]
    exact Nat.le_add_left 1 _
  | _ => simp [TaskPhase.permit, TaskPhase.holdsPermit, *]

theorem TaskPhase.Accounts.kept {hostId : HostId} {events : List ProgressEvent} {results : List HostResult}
    {phase : TaskPhase} (h : phase.Accounts hostId events results) :
    phase.Accounts hostId (events ++ []) (results ++ []) := by
  simpa only [List.append_nil] using h

/-- While the timeout runs, the start has been reported and nothing returned. -/
theorem TaskPhase.Accounts.timed {hostId : HostId} {events : List ProgressEvent} {results : List HostResult}
    {phase : TaskPhase} (h : phase.Accounts hostId events results) (timed : phase.timed = true) :
    events = [.hostStarted hostId] ∧ results = [] := by
  cases phase with
  | resolving | scanning _ | backoff _ => exact h
  | persisting _ _ => exact h
  | _ => cases timed

/-- A move keeps its entry's account. -/
theorem TaskMove.accounts {task : Nat} {host : InventoryHost} {action : FanoutAction ε} {phase : TaskPhase}
    {effect : TaskEffect} {events : List ProgressEvent} {results : List HostResult}
    (move : TaskMove sys s task host action phase effect)
    (h : (s.phase task).Accounts host.hostId events results) :
    phase.Accounts host.hostId (events ++ effect.event.toList) (results ++ effect.result.toList) := by
  cases move with
  | acquire before free =>
    rw [before] at h
    exact h.kept
  | start key before =>
    rw [before] at h
    obtain ⟨rfl, rfl⟩ := h
    exact ⟨rfl, rfl⟩
  | resolve strategy before | wake attempt before | release result before =>
    rw [before] at h
    exact h.kept
  | persist attempt met snapshot before hscan =>
    rw [before] at h
    exact h.kept
  | scanFailed attempt met error before =>
    rw [before] at h
    obtain ⟨reason, -, -, hafter⟩ | ⟨outcome, hafter, -⟩ := afterAttempt_cases attempt (.error error)
    · rw [hafter]
      exact h.kept
    · rw [hafter]
      exact h.kept
  | stored attempt write owner put id before answer =>
    rw [before] at h
    exact h.kept
  | storeFailed attempt write error before =>
    rw [before] at h
    exact h.kept
  | elapse before => exact TaskPhase.Accounts.kept (h.timed before)
  | panic before => exact TaskPhase.Accounts.kept (h.timed (TaskPhase.timed_of_calling before))
  | finish outcome before =>
    rw [before] at h
    obtain ⟨rfl, rfl⟩ := h
    exact ⟨rfl, rfl, rfl⟩
  | join result message before =>
    rw [before] at h
    obtain ⟨hid, rfl, rfl⟩ := h
    exact ⟨result, hid, rfl, rfl⟩
  | joinPanicked message before =>
    rw [before] at h
    obtain ⟨rfl, rfl⟩ := h
    exact ⟨⟨host.hostId, .probe, .failed (.panicked message)⟩, rfl, rfl, rfl⟩

/-- How many steps `run_fanout` has left, at most. -/
def FanoutState.stepsLeft (s : FanoutState) (tasks : Nat) : Nat :=
  ∑ task ∈ Finset.range tasks, (s.phase task).rank + bif s.done then 0 else 1

structure Accounting (sys : FanoutSystem ε) (s : FanoutState) : Prop where
  registered : Registered sys s
  permits : s.permits + ∑ task ∈ Finset.range sys.inventory.length, (s.phase task).permit = sys.limit
  accounts : ∀ task host, sys.inventory[task]? = some host →
    (s.phase task).Accounts host.hostId (tagged task s.events) (tagged task s.results)
  known : ∀ entry ∈ s.results, entry.1 < sys.inventory.length
  done : s.done = true → s.spawned = sys.inventory.length ∧ ∀ task < s.spawned, s.phase task = .collected

theorem Accounting.initial (sys : FanoutSystem ε) (log : List Put) : Accounting sys (sys.start log) where
  registered := Registered.initial sys log
  permits := by
    have free : ∑ task ∈ Finset.range sys.inventory.length, TaskPhase.unspawned.permit = 0 :=
      Finset.sum_eq_zero (fun _ _ => rfl)
    exact congrArg (sys.limit + ·) free
  accounts task host _ := ⟨rfl, rfl⟩
  known := by simp [FanoutSystem.start]
  done := by simp [FanoutSystem.start]

theorem Accounting.spawn (h : Accounting sys s) {host : InventoryHost}
    (hhost : sys.inventory[s.spawned]? = some host)
    (registered : Registered sys { s.setPhase s.spawned .waiting with
      spawned := s.spawned + 1, hostIds := s.hostIds ++ [(s.spawned, host.hostId)] }) :
    Accounting sys { s.setPhase s.spawned .waiting with
      spawned := s.spawned + 1, hostIds := s.hostIds ++ [(s.spawned, host.hostId)] } := by
  have hlt : s.spawned < sys.inventory.length := (List.getElem?_eq_some_iff.mp hhost).1
  have before : s.phase s.spawned = .unspawned := (h.registered.phase s.spawned).mpr le_rfl
  refine ⟨registered, ?_, fun task other hother => ?_, h.known, fun hdone => ?_⟩
  · have sum := sum_update s.phase TaskPhase.permit hlt .waiting
    have hunspawned : (s.phase s.spawned).permit = 0 := by rw [before]; rfl
    have hwaiting : TaskPhase.waiting.permit = 0 := rfl
    have hpermits := h.permits
    simp only [FanoutState.setPhase]
    omega
  · have accounts := h.accounts task other hother
    by_cases htask : task = s.spawned
    · rw [htask] at accounts ⊢
      rw [before] at accounts
      simpa [FanoutState.setPhase, TaskPhase.Accounts] using accounts
    · simpa [FanoutState.setPhase, Function.update_of_ne htask] using accounts
  · have hall := (h.done hdone).1
    omega

theorem Accounting.move (h : Accounting sys s) {task : Nat} {host : InventoryHost} {action : FanoutAction ε}
    {phase : TaskPhase} {effect : TaskEffect} (hhost : sys.inventory[task]? = some host)
    (move : TaskMove sys s task host action phase effect)
    (registered : Registered sys (s.move task phase effect)) : Accounting sys (s.move task phase effect) := by
  have hlt : task < sys.inventory.length := (List.getElem?_eq_some_iff.mp hhost).1
  refine ⟨registered, ?_, fun other otherHost hother => ?_, fun entry hentry => ?_, fun hdone => ?_⟩
  · have sum := sum_update s.phase TaskPhase.permit hlt phase
    have affordable := move.affordable
    have hpermits := h.permits
    simp only [FanoutState.move]
    omega
  · have accounts := h.accounts other otherHost hother
    by_cases htask : other = task
    · rw [htask] at hother accounts ⊢
      cases hhost.symm.trans hother
      have moved := move.accounts accounts
      simpa [FanoutState.move, tagged_append, tagged_self] using moved
    · simpa [FanoutState.move, tagged_append, tagged_other htask, Function.update_of_ne htask] using accounts
  · rcases List.mem_append.mp hentry with hold | hnew
    · exact h.known entry hold
    · obtain ⟨result, -, hentry⟩ := Option.map_eq_some_iff.mp (Option.mem_toList.mp hnew)
      rw [← hentry]
      exact hlt
  · -- a run that returned has no task left to move
    obtain ⟨hall, collected⟩ := h.done hdone
    have less := move.rank_lt
    rw [collected task (by omega)] at less
    simp [TaskPhase.rank] at less

theorem Accounting.step (h : Accounting sys s) {action : FanoutAction ε} (step : sys.step s action = some t) :
    Accounting sys t := by
  have registered := h.registered.step step
  rcases sys.step_cases h.registered step with
    ⟨-, ⟨host, hhost, rfl⟩ | ⟨task, host, phase, effect, hhost, move, rfl⟩ | ⟨hall, collected, -, rfl⟩⟩ |
    ⟨write, task, put, -, hwrite, rfl⟩ | ⟨put, -, rfl⟩
  · exact h.spawn hhost registered
  · exact h.move hhost move registered
  · exact ⟨registered, h.permits, h.accounts, h.known, fun _ => ⟨hall, collected⟩⟩
  · exact ⟨registered, h.permits, h.accounts, h.known, h.done⟩
  · exact ⟨registered, h.permits, h.accounts, h.known, h.done⟩

/-- A step of `run_fanout` leaves it fewer, and a step of the store no more. -/
theorem Accounting.stepsLeft (h : Accounting sys s) {action : FanoutAction ε} (step : sys.step s action = some t) :
    t.stepsLeft sys.inventory.length + (if action.own then 1 else 0) ≤ s.stepsLeft sys.inventory.length := by
  rcases sys.step_cases h.registered step with
    ⟨hown, ⟨host, hhost, rfl⟩ | ⟨task, host, phase, effect, hhost, move, rfl⟩ | ⟨hall, collected, hdone, rfl⟩⟩ |
    ⟨write, task, put, rfl, hwrite, rfl⟩ | ⟨put, rfl, rfl⟩
  · have hlt : s.spawned < sys.inventory.length := (List.getElem?_eq_some_iff.mp hhost).1
    have sum := sum_update s.phase TaskPhase.rank hlt .waiting
    have before : (s.phase s.spawned).rank = 18 := by
      rw [(h.registered.phase s.spawned).mpr le_rfl]
      rfl
    have after : TaskPhase.waiting.rank = 17 := rfl
    simp only [FanoutState.stepsLeft, FanoutState.setPhase, hown, if_true]
    omega
  · have hlt : task < sys.inventory.length := (List.getElem?_eq_some_iff.mp hhost).1
    have sum := sum_update s.phase TaskPhase.rank hlt phase
    have less := move.rank_lt
    simp only [FanoutState.stepsLeft, FanoutState.move, hown, if_true]
    omega
  · simp [FanoutState.stepsLeft, hdone, hown]
  · exact le_rfl
  · exact le_rfl

theorem one_le_limit (sys : FanoutSystem ε) : 1 ≤ sys.limit := Nat.le_max_right _ _

/-- A task that is not collected can move, unless it waits and no permit is free. -/
theorem Registered.enabled (h : Registered sys s) (hall : s.spawned = sys.inventory.length) {task : Nat}
    (hlt : task < sys.inventory.length) (uncollected : s.phase task ≠ .collected)
    (free : s.phase task = .waiting → 0 < s.permits) :
    ∃ action t, action.own = true ∧ sys.step s action = some t := by
  have spawned : s.phase task ≠ .unspawned := fun hphase => by
    have hle := (h.phase task).mp hphase
    omega
  obtain ⟨-, host, hhost⟩ := h.host spawned
  have hid := h.hostIds task host (by omega) hhost
  have can : ∀ action : FanoutAction ε, action.own = true → (sys.step s action).isSome = true →
      ∃ action t, action.own = true ∧ sys.step s action = some t :=
    fun action own taken => ⟨action, _, own, (Option.some_get taken).symm⟩
  cases hphase : s.phase task with
  | unspawned => exact absurd hphase spawned
  | collected => exact absurd hphase uncollected
  | waiting => exact can (.acquire task) rfl (by simp [FanoutSystem.step, hphase, free hphase])
  | starting => exact can (.start task ⟨0⟩) rfl (by simp [FanoutSystem.step, hphase, hhost])
  | resolving => exact can (.elapse task) rfl (by simp [FanoutSystem.step, hphase])
  | scanning attempt => exact can (.elapse task) rfl (by simp [FanoutSystem.step, hphase])
  | persisting attempt write => exact can (.elapse task) rfl (by simp [FanoutSystem.step, hphase])
  | backoff attempt => exact can (.elapse task) rfl (by simp [FanoutSystem.step, hphase])
  | finishing outcome => exact can (.finish task) rfl (by simp [FanoutSystem.step, hphase, hhost])
  | releasing result => exact can (.release task) rfl (by simp [FanoutSystem.step, hphase])
  | returned result => exact can (.join task "") rfl (by simp [FanoutSystem.step, hphase, hall])
  | panicked => exact can (.join task "") rfl (by simp [FanoutSystem.step, hphase, hall, hid])

theorem Accounting.live (h : Accounting sys s) (hdone : s.done = false) :
    ∃ action t, action.own = true ∧ sys.step s action = some t := by
  have hbound := h.registered.bound
  by_cases hall : s.spawned = sys.inventory.length
  · by_cases collected : ∀ task < s.spawned, s.phase task = .collected
    · exact ⟨.finishRun, _, rfl, if_pos ⟨hall, collected, hdone⟩⟩
    · push Not at collected
      obtain ⟨task, hlt, uncollected⟩ := collected
      by_cases free : 0 < s.permits
      · exact h.registered.enabled hall (by omega) uncollected (fun _ => free)
      · -- all permits are out, so some task holds one, and it can move
        have hpermits := h.permits
        have hlimit := one_le_limit sys
        obtain ⟨holder, hmem, held⟩ := Finset.exists_ne_zero_of_sum_ne_zero
          (show ∑ task ∈ Finset.range sys.inventory.length, (s.phase task).permit ≠ 0 by omega)
        have holds : ∀ phase : TaskPhase, phase.permit = 0 → s.phase holder ≠ phase := by
          intro phase hzero hphase
          exact held (by rw [hphase, hzero])
        exact h.registered.enabled hall (Finset.mem_range.mp hmem) (holds _ rfl)
          (fun waiting => absurd waiting (holds _ rfl))
  · have hlt : s.spawned < sys.inventory.length := by omega
    have taken : (sys.step s .spawn).isSome = true := by
      simp [FanoutSystem.step, List.getElem?_eq_getElem hlt]
    exact ⟨.spawn, _, rfl, (Option.some_get taken).symm⟩

/-- Reports come in order: an entry's are always a start of its two. -/
theorem TaskPhase.Accounts.order {hostId : HostId} {events : List ProgressEvent} {results : List HostResult}
    {phase : TaskPhase} (h : phase.Accounts hostId events results) :
    ∃ outcome, events <+: [.hostStarted hostId, .hostFinished hostId outcome] := by
  have started : ∀ outcome, [ProgressEvent.hostStarted hostId] <+:
      [.hostStarted hostId, .hostFinished hostId outcome] := fun outcome => ⟨[_], rfl⟩
  cases phase with
  | unspawned | waiting | starting => exact ⟨.timedOut, by simp [h.1]⟩
  | resolving | panicked => exact ⟨.timedOut, by simp [h.1, started]⟩
  | scanning _ | backoff _ | finishing _ => exact ⟨.timedOut, by simp [h.1, started]⟩
  | persisting _ _ => exact ⟨.timedOut, by simp [h.1, started]⟩
  | releasing result | returned result => exact ⟨result.outcome, by simp [h.2.1]⟩
  | collected =>
    obtain ⟨result, -, hevents, -⟩ := h
    exact ⟨result.outcome, by simp [hevents]⟩

theorem count_tags {β : Type} (entries : List (Nat × β)) (task : Nat) :
    (entries.map Prod.fst).count task = (tagged task entries).length := by
  rw [tagged, List.length_map, List.count, List.countP_map, List.countP_eq_length_filter]
  congr 2

/-- One result for each entry, in the order they came in. -/
theorem Accounting.collected (h : Accounting sys s) (hdone : s.done = true) :
    (s.results.map Prod.fst).Perm (List.range sys.inventory.length) ∧
      (s.results.map (fun entry => entry.2.hostId)).Perm (sys.inventory.map InventoryHost.hostId) := by
  obtain ⟨hall, collected⟩ := h.done hdone
  have one : ∀ task host, sys.inventory[task]? = some host → ∃ result : HostResult,
      result.hostId = host.hostId ∧ tagged task s.results = [result] := by
    intro task host hhost
    have accounts := h.accounts task host hhost
    have hlt : task < sys.inventory.length := (List.getElem?_eq_some_iff.mp hhost).1
    rw [collected task (by omega)] at accounts
    obtain ⟨result, hid, -, hresults⟩ := accounts
    exact ⟨result, hid, hresults⟩
  have tags : (s.results.map Prod.fst).Perm (List.range sys.inventory.length) := by
    rw [List.perm_iff_count]
    intro task
    rw [count_tags]
    by_cases hlt : task < sys.inventory.length
    · obtain ⟨result, -, hresult⟩ := one task _ (List.getElem?_eq_getElem hlt)
      simp [hresult, List.count_range, hlt]
    · have none : tagged task s.results = [] := by
        simp only [tagged, List.map_eq_nil_iff, List.filter_eq_nil_iff]
        intro entry hentry
        have hknown := h.known entry hentry
        simp only [decide_eq_true_eq]
        omega
      simp [none, List.count_range, hlt]
  refine ⟨tags, ?_⟩
  have attributed : s.results.map (fun entry => entry.2.hostId) =
      (s.results.map Prod.fst).map (fun task => ((sys.inventory[task]?).map InventoryHost.hostId).getD ⟨0⟩) := by
    rw [List.map_map]
    refine List.map_congr_left (fun entry hentry => ?_)
    have hlt := h.known entry hentry
    obtain ⟨result, hid, hresult⟩ := one entry.1 _ (List.getElem?_eq_getElem hlt)
    have hmem : entry.2 ∈ tagged entry.1 s.results :=
      List.mem_map.mpr ⟨entry, List.mem_filter.mpr ⟨hentry, by simp⟩, rfl⟩
    rw [hresult, List.mem_singleton] at hmem
    simp [hmem, hid, List.getElem?_eq_getElem hlt]
  have inventory : sys.inventory.map InventoryHost.hostId =
      (List.range sys.inventory.length).map
        (fun task => ((sys.inventory[task]?).map InventoryHost.hostId).getD ⟨0⟩) := by
    refine List.ext_getElem (by simp) (fun task hlt _ => ?_)
    simp only [List.length_map] at hlt
    simp [List.getElem?_eq_getElem hlt]
  rw [attributed, inventory]
  exact tags.map _

theorem Accounting.accounted (h : Accounting sys s) : s.Accounted sys where
  permits := by rw [holders_card]; exact h.permits
  live := h.live
  order task host hhost := (h.accounts task host hhost).order
  reports hdone task host hhost := by
    obtain ⟨hall, collected⟩ := h.done hdone
    have hlt : task < sys.inventory.length := (List.getElem?_eq_some_iff.mp hhost).1
    have accounts := h.accounts task host hhost
    rw [collected task (by omega)] at accounts
    obtain ⟨result, hid, hevents, hresults⟩ := accounts
    exact ⟨result, hresults, hid, hevents⟩
  entries hdone := (h.collected hdone).1
  results hdone := (h.collected hdone).2

end

/-- `run_fanout` starts over the store `log`, and whatever its tasks and the
store do, its accounts stay exact and it takes no more steps than its tasks
have. -/
def FanoutSystem.Accounts {ε : Type} (sys : FanoutSystem ε) (log : List Put) : Prop :=
  ∃ start, sys.initial log = some start ∧ ∀ trace s, Run sys.step start trace s →
    s.Accounted sys ∧ trace.countP (fun p => p.2.own) ≤ 18 * sys.inventory.length + 1

theorem accounting_run {ε : Type} {sys : FanoutSystem ε} {log : List Put}
    {trace : List (FanoutState × FanoutAction ε)} {s : FanoutState} (run : Run sys.step (sys.start log) trace s) :
    Accounting sys s ∧ trace.countP (fun p => p.2.own) + s.stepsLeft sys.inventory.length ≤
      18 * sys.inventory.length + 1 := by
  refine run.always_traced
    (fun trace s => Accounting sys s ∧ trace.countP (fun p => p.2.own) + s.stepsLeft sys.inventory.length ≤
      18 * sys.inventory.length + 1)
    ⟨Accounting.initial sys log, ?_⟩ (fun trace s action t h step => ?_)
  · have rank : TaskPhase.unspawned.rank = 18 := rfl
    simp [FanoutState.stepsLeft, FanoutSystem.start, rank, Nat.mul_comm]
  · obtain ⟨accounting, bound⟩ := h
    have less := accounting.stepsLeft step
    refine ⟨accounting.step step, ?_⟩
    simp only [List.countP_append, List.countP_singleton]
    omega

/-- The accounts hold whenever the semaphore can be made. -/
theorem fanoutAccounts_iff {ε : Type} (sys : FanoutSystem ε) (log : List Put) :
    sys.Accounts log ↔ max sys.concurrency 1 ≤ maxPermits := by
  constructor
  · rintro ⟨start, init, -⟩
    exact (FanoutSystem.initial_eq init).1
  · intro hlimit
    refine ⟨sys.start log, if_pos hlimit, fun trace s run => ?_⟩
    obtain ⟨accounting, bound⟩ := accounting_run run
    exact ⟨accounting.accounted, by omega⟩

/-- A scan of one host that always meets the same end. -/
def soleHost (concurrency : Nat) (result : Except HostError ScanSnapshot) : FanoutSystem Unit :=
  ⟨[⟨⟨1⟩⟩], concurrency, fun _ _ _ _ => .ready result⟩

/-- Half of `usize::MAX` is a concurrency the semaphore cannot be made with. -/
theorem fanoutAccounts_counterexample :
    (soleHost 9223372036854775807 (.error .timeout)).initial [] = none ∧
      ¬∀ (sys : FanoutSystem Unit) (log : List Put), sys.Accounts log := by
  refine ⟨by simp [FanoutSystem.initial, FanoutSystem.limit, soleHost, maxPermits], fun always => ?_⟩
  have hlimit := (fanoutAccounts_iff _ _).mp (always (soleHost 9223372036854775807 (.error .timeout)) [])
  simp [soleHost, maxPermits] at hlimit

end AnneDeBreuil
