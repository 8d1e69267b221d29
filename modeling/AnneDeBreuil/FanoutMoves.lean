import AnneDeBreuil.Fanout

namespace AnneDeBreuil

/-- What a move of one task adds to the run besides its phase. -/
structure TaskEffect where
  key : Option IdempotencyKey := none
  strategy : Option TargetStrategy := none
  event : Option ProgressEvent := none
  scan : Bool := false
  write : Option ScanSnapshot := none
  ended : Option (Except HostError ScanId) := none
  result : Option HostResult := none

def TaskPhase.permit (phase : TaskPhase) : Nat := if phase.holdsPermit then 1 else 0

def FanoutState.move (s : FanoutState) (task : Nat) (phase : TaskPhase) (effect : TaskEffect) : FanoutState where
  spawned := s.spawned
  hostIds := s.hostIds
  permits := s.permits + (s.phase task).permit - phase.permit
  phase := Function.update s.phase task phase
  key := effect.key.elim s.key (Function.update s.key task)
  resolvedStrategy := effect.strategy.elim s.resolvedStrategy (Function.update s.resolvedStrategy task)
  writes := s.writes ++ (effect.write.map fun snapshot => ⟨task, ⟨s.key task, snapshot⟩, none⟩).toList
  log := s.log
  events := s.events ++ (effect.event.map fun event => (task, event)).toList
  scans := s.scans ++ if effect.scan then [(task, s.key task)] else []
  ends := s.ends ++ (effect.ended.map fun result => (task, result)).toList
  results := s.results ++ (effect.result.map fun result => (task, result)).toList
  done := s.done

/-- A step that `run_fanout` and its tasks take, not one of the store. -/
def FanoutAction.own {ε : Type} : FanoutAction ε → Bool
  | .commit _ => false
  | .otherPut _ => false
  | _ => true

/-- The timeout is running. -/
def TaskPhase.timed : TaskPhase → Bool
  | .resolving => true
  | .scanning _ => true
  | .persisting _ _ => true
  | .backoff _ => true
  | _ => false

/-- The task is inside the scanner or the store. -/
def TaskPhase.calling : TaskPhase → Bool
  | .resolving => true
  | .scanning _ => true
  | .persisting _ _ => true
  | _ => false

/-- The moves of one task, by the phase it is in. -/
inductive TaskMove {ε : Type} (sys : FanoutSystem ε) (s : FanoutState) (task : Nat) (host : InventoryHost) :
    FanoutAction ε → TaskPhase → TaskEffect → Prop
  | acquire (phase : s.phase task = .waiting) (free : 0 < s.permits) :
      TaskMove sys s task host (.acquire task) .starting {}
  | start (key : IdempotencyKey) (phase : s.phase task = .starting) :
      TaskMove sys s task host (.start task key) .resolving
        { key := some key, event := some (.hostStarted host.hostId) }
  | resolve (strategy : TargetStrategy) (phase : s.phase task = .resolving) :
      TaskMove sys s task host (.resolve task strategy) (.scanning 0) { strategy := some strategy, scan := true }
  | persist (attempt : Nat) (met : ε) (snapshot : ScanSnapshot) (phase : s.phase task = .scanning attempt)
      (scan : sys.scan host (s.resolvedStrategy task) (s.key task) met = .ready (.ok snapshot)) :
      TaskMove sys s task host (.scanned task met) (.persisting attempt s.writes.length) { write := some snapshot }
  | scanFailed (attempt : Nat) (met : ε) (error : HostError) (phase : s.phase task = .scanning attempt) :
      TaskMove sys s task host (.scanned task met) (afterAttempt attempt (.error error))
        { ended := some (.error error) }
  | stored (attempt write owner : Nat) (put : Put) (id : ScanId) (phase : s.phase task = .persisting attempt write)
      (answer : s.writes[write]? = some ⟨owner, put, some id⟩) :
      TaskMove sys s task host (.stored task) (.finishing (.succeeded id)) { ended := some (.ok id) }
  | storeFailed (attempt write : Nat) (error : StoreError) (phase : s.phase task = .persisting attempt write) :
      TaskMove sys s task host (.storeFailed task error) (.finishing (.failed (.store error)))
        { ended := some (.error (.store error)) }
  | wake (attempt : Nat) (phase : s.phase task = .backoff attempt) :
      TaskMove sys s task host (.wake task) (.scanning (attempt + 1)) { scan := true }
  | elapse (phase : (s.phase task).timed = true) :
      TaskMove sys s task host (.elapse task) (.finishing .timedOut) {}
  | panic (phase : (s.phase task).calling = true) : TaskMove sys s task host (.panic task) .panicked {}
  | finish (outcome : HostOutcome) (phase : s.phase task = .finishing outcome) :
      TaskMove sys s task host (.finish task) (.releasing ⟨host.hostId, s.resolvedStrategy task, outcome⟩)
        { event := some (.hostFinished host.hostId outcome) }
  | release (result : HostResult) (phase : s.phase task = .releasing result) :
      TaskMove sys s task host (.release task) (.returned result) {}
  | join (result : HostResult) (message : String) (phase : s.phase task = .returned result) :
      TaskMove sys s task host (.join task message) .collected { result := some result }
  | joinPanicked (message : String) (phase : s.phase task = .panicked) :
      TaskMove sys s task host (.join task message) .collected
        { event := some (.hostFinished host.hostId (.failed (.panicked message))),
          result := some ⟨host.hostId, .probe, .failed (.panicked message)⟩ }

section

variable {ε : Type} {sys : FanoutSystem ε} {s t : FanoutState}

/-- The spawn loop has run over the first `spawned` entries. -/
structure Registered (sys : FanoutSystem ε) (s : FanoutState) : Prop where
  bound : s.spawned ≤ sys.inventory.length
  phase : ∀ task, s.phase task = .unspawned ↔ s.spawned ≤ task
  seen : ∀ entry ∈ s.hostIds, entry.1 < s.spawned
  hostIds : ∀ task host, task < s.spawned → sys.inventory[task]? = some host →
    s.hostIds.find? (fun entry => entry.1 = task) = some (task, host.hostId)

theorem Registered.host (h : Registered sys s) {task : Nat} (spawned : s.phase task ≠ .unspawned) :
    task < s.spawned ∧ ∃ host, sys.inventory[task]? = some host := by
  have hlt : task < s.spawned := by
    by_contra hle
    exact spawned ((h.phase task).mpr (by omega))
  have hbound := h.bound
  exact ⟨hlt, _, List.getElem?_eq_getElem (by omega : task < sys.inventory.length)⟩

/-- A retryable error backs off while attempts are left; all else ends the loop. -/
theorem afterAttempt_cases (attempt : Nat) (result : Except HostError ScanId) :
    (∃ reason, result = .error (.retryable reason) ∧ attempt + 1 < maxAttempts ∧
      afterAttempt attempt result = .backoff attempt) ∨
    ∃ outcome, afterAttempt attempt result = .finishing outcome ∧
      ∀ id, outcome = .succeeded id → result = .ok id := by
  unfold afterAttempt
  split
  next id => exact .inr ⟨_, rfl, fun other h => by cases h; rfl⟩
  next reason =>
    split
    next hleft => exact .inl ⟨reason, rfl, hleft, rfl⟩
    next => exact .inr ⟨_, rfl, by simp⟩
  next => exact .inr ⟨_, rfl, by simp⟩
  next => exact .inr ⟨_, rfl, by simp⟩

theorem afterAttempt_permit (attempt : Nat) (result : Except HostError ScanId) :
    (afterAttempt attempt result).permit = 1 := by
  obtain ⟨reason, -, -, h⟩ | ⟨outcome, h, -⟩ := afterAttempt_cases attempt result <;> rw [h] <;> rfl

theorem TaskPhase.permit_of_timed {phase : TaskPhase} (h : phase.timed = true) : phase.permit = 1 := by
  cases phase with
  | resolving | scanning _ | backoff _ => rfl
  | persisting _ _ => rfl
  | _ => cases h

theorem TaskPhase.timed_of_calling {phase : TaskPhase} (h : phase.calling = true) : phase.timed = true := by
  cases phase with
  | resolving | scanning _ => rfl
  | persisting _ _ => rfl
  | _ => cases h

theorem spawned_of_timed {task : Nat} (h : (s.phase task).timed = true) : s.phase task ≠ .unspawned := by
  intro hphase
  rw [hphase] at h
  cases h

theorem FanoutSystem.spawn_eq (step : sys.step s .spawn = some t) : ∃ host, sys.inventory[s.spawned]? = some host ∧
    t = { s.setPhase s.spawned .waiting with
      spawned := s.spawned + 1
      hostIds := s.hostIds ++ [(s.spawned, host.hostId)] } := by
  simp only [FanoutSystem.step] at step
  split at step
  next => cases step
  next host hhost =>
    cases step
    exact ⟨host, hhost, rfl⟩

theorem FanoutSystem.acquire_eq {task : Nat} (step : sys.step s (.acquire task) = some t) :
    s.phase task = .waiting ∧ 0 < s.permits ∧ t = s.move task .starting {} := by
  simp only [FanoutSystem.step] at step
  split at step
  next hguard =>
    cases step
    refine ⟨hguard.1, hguard.2, ?_⟩
    simp [FanoutState.move, FanoutState.setPhase, hguard.1, TaskPhase.permit, TaskPhase.holdsPermit]
  next => cases step

theorem FanoutSystem.start_eq {task : Nat} {key : IdempotencyKey} (step : sys.step s (.start task key) = some t) :
    s.phase task = .starting ∧ ∃ host, sys.inventory[task]? = some host ∧
      t = s.move task .resolving { key := some key, event := some (.hostStarted host.hostId) } := by
  simp only [FanoutSystem.step] at step
  split at step
  next host hphase hhost =>
    cases step
    refine ⟨hphase, host, hhost, ?_⟩
    simp [FanoutState.move, FanoutState.setPhase, FanoutState.report, hphase, TaskPhase.permit, TaskPhase.holdsPermit]
  next => cases step

theorem FanoutSystem.resolve_eq {task : Nat} {strategy : TargetStrategy}
    (step : sys.step s (.resolve task strategy) = some t) :
    s.phase task = .resolving ∧ t = s.move task (.scanning 0) { strategy := some strategy, scan := true } := by
  simp only [FanoutSystem.step] at step
  split at step
  next hphase =>
    cases step
    refine ⟨hphase, ?_⟩
    simp [FanoutState.move, FanoutState.setPhase, FanoutState.attempt, hphase, TaskPhase.permit, TaskPhase.holdsPermit]
  next => cases step

/-- A scan that is over failed, or its snapshot goes on to the store. -/
theorem FanoutSystem.scanned_eq {task : Nat} {met : ε} (step : sys.step s (.scanned task met) = some t) :
    ∃ attempt host, s.phase task = .scanning attempt ∧ sys.inventory[task]? = some host ∧
      ((∃ error, t = s.move task (afterAttempt attempt (.error error)) { ended := some (.error error) }) ∨
      ∃ snapshot, sys.scan host (s.resolvedStrategy task) (s.key task) met = .ready (.ok snapshot) ∧
        t = s.move task (.persisting attempt s.writes.length) { write := some snapshot }) := by
  simp only [FanoutSystem.step] at step
  split at step
  next attempt host hphase hhost =>
    refine ⟨attempt, host, hphase, hhost, ?_⟩
    split at step
    next => cases step
    next error hscan =>
      cases step
      have held : (s.phase task).permit = 1 := by rw [hphase]; rfl
      exact .inl ⟨error,
        by simp [FanoutState.move, FanoutState.setPhase, FanoutState.endAttempt, afterAttempt_permit, held]⟩
    next snapshot hscan =>
      cases step
      refine .inr ⟨snapshot, hscan, ?_⟩
      simp [FanoutState.move, FanoutState.setPhase, hphase, TaskPhase.permit, TaskPhase.holdsPermit]
  next => cases step

theorem FanoutSystem.commit_eq {write : Nat} (step : sys.step s (.commit write) = some t) :
    ∃ task put, s.writes[write]? = some ⟨task, put, none⟩ ∧
      t = { s with
        writes := s.writes.set write ⟨task, put, some (logPut s.log put).1⟩
        log := (logPut s.log put).2 } := by
  simp only [FanoutSystem.step] at step
  split at step
  next task put hwrite =>
    cases step
    exact ⟨task, put, hwrite, rfl⟩
  next => cases step

theorem FanoutSystem.stored_eq {task : Nat} (step : sys.step s (.stored task) = some t) :
    ∃ attempt write owner put id, s.phase task = .persisting attempt write ∧
      s.writes[write]? = some ⟨owner, put, some id⟩ ∧
      t = s.move task (.finishing (.succeeded id)) { ended := some (.ok id) } := by
  simp only [FanoutSystem.step] at step
  split at step
  next attempt write hphase =>
    split at step
    next owner put id hwrite =>
      cases step
      refine ⟨attempt, write, owner, put, id, hphase, hwrite, ?_⟩
      simp [FanoutState.move, FanoutState.setPhase, FanoutState.endAttempt, afterAttempt, hphase, TaskPhase.permit,
        TaskPhase.holdsPermit]
    next => cases step
  next => cases step

theorem FanoutSystem.storeFailed_eq {task : Nat} {error : StoreError}
    (step : sys.step s (.storeFailed task error) = some t) :
    ∃ attempt write, s.phase task = .persisting attempt write ∧
      t = s.move task (.finishing (.failed (.store error))) { ended := some (.error (.store error)) } := by
  simp only [FanoutSystem.step] at step
  split at step
  next attempt write hphase =>
    cases step
    refine ⟨attempt, write, hphase, ?_⟩
    simp [FanoutState.move, FanoutState.setPhase, FanoutState.endAttempt, afterAttempt, hphase, TaskPhase.permit,
      TaskPhase.holdsPermit]
  next => cases step

theorem FanoutSystem.wake_eq {task : Nat} (step : sys.step s (.wake task) = some t) :
    ∃ attempt, s.phase task = .backoff attempt ∧ t = s.move task (.scanning (attempt + 1)) { scan := true } := by
  simp only [FanoutSystem.step] at step
  split at step
  next attempt hphase =>
    cases step
    refine ⟨attempt, hphase, ?_⟩
    simp [FanoutState.move, FanoutState.setPhase, FanoutState.attempt, hphase, TaskPhase.permit, TaskPhase.holdsPermit]
  next => cases step

theorem FanoutSystem.elapse_eq {task : Nat} (step : sys.step s (.elapse task) = some t) :
    (s.phase task).timed = true ∧ t = s.move task (.finishing .timedOut) {} := by
  have timed : (s.phase task).timed = true ∧ t = s.setPhase task (.finishing .timedOut) := by
    simp only [FanoutSystem.step] at step
    split at step <;> cases step <;> exact ⟨by simp [TaskPhase.timed, *], rfl⟩
  obtain ⟨htimed, rfl⟩ := timed
  have held := TaskPhase.permit_of_timed htimed
  have kept : (TaskPhase.finishing .timedOut).permit = 1 := rfl
  exact ⟨htimed, by simp [FanoutState.move, FanoutState.setPhase, held, kept]⟩

theorem FanoutSystem.panic_eq {task : Nat} (step : sys.step s (.panic task) = some t) :
    (s.phase task).calling = true ∧ t = s.move task .panicked {} := by
  have calling : (s.phase task).calling = true ∧
      t = { s.setPhase task .panicked with permits := s.permits + 1 } := by
    simp only [FanoutSystem.step] at step
    split at step <;> cases step <;> exact ⟨by simp [TaskPhase.calling, *], rfl⟩
  obtain ⟨hcalling, rfl⟩ := calling
  have held := TaskPhase.permit_of_timed (TaskPhase.timed_of_calling hcalling)
  have back : TaskPhase.panicked.permit = 0 := rfl
  exact ⟨hcalling, by simp [FanoutState.move, FanoutState.setPhase, held, back]⟩

theorem FanoutSystem.finish_eq {task : Nat} (step : sys.step s (.finish task) = some t) :
    ∃ outcome host, s.phase task = .finishing outcome ∧ sys.inventory[task]? = some host ∧
      t = s.move task (.releasing ⟨host.hostId, s.resolvedStrategy task, outcome⟩)
        { event := some (.hostFinished host.hostId outcome) } := by
  simp only [FanoutSystem.step] at step
  split at step
  next outcome host hphase hhost =>
    cases step
    refine ⟨outcome, host, hphase, hhost, ?_⟩
    simp [FanoutState.move, FanoutState.setPhase, FanoutState.report, hphase, TaskPhase.permit, TaskPhase.holdsPermit]
  next => cases step

theorem FanoutSystem.release_eq {task : Nat} (step : sys.step s (.release task) = some t) :
    ∃ result, s.phase task = .releasing result ∧ t = s.move task (.returned result) {} := by
  simp only [FanoutSystem.step] at step
  split at step
  next result hphase =>
    cases step
    refine ⟨result, hphase, ?_⟩
    simp [FanoutState.move, FanoutState.setPhase, hphase, TaskPhase.permit, TaskPhase.holdsPermit]
  next => cases step

/-- The collector finds the host of a task that panicked. -/
theorem FanoutSystem.join_eq (h : Registered sys s) {task : Nat} {message : String}
    (step : sys.step s (.join task message) = some t) :
    (∃ result, s.phase task = .returned result ∧ t = s.move task .collected { result := some result }) ∨
    s.phase task = .panicked ∧ ∃ host, sys.inventory[task]? = some host ∧
      t = s.move task .collected
        { event := some (.hostFinished host.hostId (.failed (.panicked message))),
          result := some ⟨host.hostId, .probe, .failed (.panicked message)⟩ } := by
  simp only [FanoutSystem.step] at step
  split at step
  next =>
    split at step
    next result hphase =>
      cases step
      refine .inl ⟨result, hphase, ?_⟩
      simp [FanoutState.move, FanoutState.setPhase, FanoutState.pushResult, hphase, TaskPhase.permit,
        TaskPhase.holdsPermit]
    next hphase =>
      obtain ⟨hlt, host, hhost⟩ := h.host (by simp [hphase] : s.phase task ≠ .unspawned)
      rw [h.hostIds task host hlt hhost] at step
      cases step
      refine .inr ⟨hphase, host, hhost, ?_⟩
      simp [FanoutState.move, FanoutState.setPhase, FanoutState.report, FanoutState.pushResult, hphase,
        TaskPhase.permit, TaskPhase.holdsPermit]
    next => cases step
  next => cases step

theorem FanoutSystem.finishRun_eq (step : sys.step s .finishRun = some t) :
    s.spawned = sys.inventory.length ∧ (∀ task < s.spawned, s.phase task = .collected) ∧ s.done = false ∧
      t = { s with done := true } := by
  simp only [FanoutSystem.step] at step
  split at step
  next hguard =>
    cases step
    exact ⟨hguard.1, hguard.2.1, hguard.2.2, rfl⟩
  next => cases step

/-- What a step can be: one of the run's own, which spawns the next task, moves
one or ends the collector's loop, or one of the store, which no task sees. -/
theorem FanoutSystem.step_cases (h : Registered sys s) {action : FanoutAction ε}
    (step : sys.step s action = some t) :
    action.own = true ∧
      ((∃ host, sys.inventory[s.spawned]? = some host ∧
        t = { s.setPhase s.spawned .waiting with
          spawned := s.spawned + 1
          hostIds := s.hostIds ++ [(s.spawned, host.hostId)] }) ∨
      (∃ task host phase effect, sys.inventory[task]? = some host ∧ TaskMove sys s task host action phase effect ∧
        t = s.move task phase effect) ∨
      s.spawned = sys.inventory.length ∧ (∀ task < s.spawned, s.phase task = .collected) ∧ s.done = false ∧
        t = { s with done := true }) ∨
    (∃ write task put, action = .commit write ∧ s.writes[write]? = some ⟨task, put, none⟩ ∧
      t = { s with
        writes := s.writes.set write ⟨task, put, some (logPut s.log put).1⟩
        log := (logPut s.log put).2 }) ∨
    ∃ put, action = .otherPut put ∧ t = { s with log := (logPut s.log put).2 } := by
  have moved : ∀ {task : Nat} {phase : TaskPhase} {effect : TaskEffect}, s.phase task ≠ .unspawned →
      (∀ host, sys.inventory[task]? = some host → TaskMove sys s task host action phase effect) →
      t = s.move task phase effect →
      ∃ task host phase effect, sys.inventory[task]? = some host ∧ TaskMove sys s task host action phase effect ∧
        t = s.move task phase effect := by
    intro task phase effect hspawned hmove ht
    obtain ⟨-, host, hhost⟩ := h.host hspawned
    exact ⟨task, host, phase, effect, hhost, hmove host hhost, ht⟩
  cases action with
  | spawn => exact .inl ⟨rfl, .inl (sys.spawn_eq step)⟩
  | acquire task =>
    obtain ⟨hphase, hfree, ht⟩ := sys.acquire_eq step
    exact .inl ⟨rfl, .inr (.inl (moved (by simp [hphase]) (fun host _ => .acquire hphase hfree) ht))⟩
  | start task key =>
    obtain ⟨hphase, host, hhost, ht⟩ := sys.start_eq step
    exact .inl ⟨rfl, .inr (.inl ⟨task, host, _, _, hhost, .start key hphase, ht⟩)⟩
  | resolve task strategy =>
    obtain ⟨hphase, ht⟩ := sys.resolve_eq step
    exact .inl ⟨rfl, .inr (.inl (moved (by simp [hphase]) (fun host _ => .resolve strategy hphase) ht))⟩
  | scanned task met =>
    obtain ⟨attempt, host, hphase, hhost, ⟨error, ht⟩ | ⟨snapshot, hscan, ht⟩⟩ := sys.scanned_eq step
    · exact .inl ⟨rfl, .inr (.inl ⟨task, host, _, _, hhost, .scanFailed attempt met error hphase, ht⟩)⟩
    · exact .inl ⟨rfl, .inr (.inl ⟨task, host, _, _, hhost, .persist attempt met snapshot hphase hscan, ht⟩)⟩
  | commit write =>
    obtain ⟨task, put, hwrite, ht⟩ := sys.commit_eq step
    exact .inr (.inl ⟨write, task, put, rfl, hwrite, ht⟩)
  | stored task =>
    obtain ⟨attempt, write, owner, put, id, hphase, hwrite, ht⟩ := sys.stored_eq step
    exact .inl ⟨rfl, .inr (.inl (moved (by simp [hphase])
      (fun host _ => .stored attempt write owner put id hphase hwrite) ht))⟩
  | storeFailed task error =>
    obtain ⟨attempt, write, hphase, ht⟩ := sys.storeFailed_eq step
    exact .inl ⟨rfl, .inr (.inl (moved (by simp [hphase])
      (fun host _ => .storeFailed attempt write error hphase) ht))⟩
  | wake task =>
    obtain ⟨attempt, hphase, ht⟩ := sys.wake_eq step
    exact .inl ⟨rfl, .inr (.inl (moved (by simp [hphase]) (fun host _ => .wake attempt hphase) ht))⟩
  | elapse task =>
    obtain ⟨htimed, ht⟩ := sys.elapse_eq step
    exact .inl ⟨rfl, .inr (.inl (moved (spawned_of_timed htimed) (fun host _ => .elapse htimed) ht))⟩
  | panic task =>
    obtain ⟨hcalling, ht⟩ := sys.panic_eq step
    have htimed := TaskPhase.timed_of_calling hcalling
    exact .inl ⟨rfl, .inr (.inl (moved (spawned_of_timed htimed) (fun host _ => .panic hcalling) ht))⟩
  | finish task =>
    obtain ⟨outcome, host, hphase, hhost, ht⟩ := sys.finish_eq step
    exact .inl ⟨rfl, .inr (.inl ⟨task, host, _, _, hhost, .finish outcome hphase, ht⟩)⟩
  | release task =>
    obtain ⟨result, hphase, ht⟩ := sys.release_eq step
    exact .inl ⟨rfl, .inr (.inl (moved (by simp [hphase]) (fun host _ => .release result hphase) ht))⟩
  | join task message =>
    obtain ⟨result, hphase, ht⟩ | ⟨hphase, host, hhost, ht⟩ := sys.join_eq h step
    · exact .inl ⟨rfl, .inr (.inl (moved (by simp [hphase]) (fun host _ => .join result message hphase) ht))⟩
    · exact .inl ⟨rfl, .inr (.inl ⟨task, host, _, _, hhost, .joinPanicked message hphase, ht⟩)⟩
  | finishRun => exact .inl ⟨rfl, .inr (.inr (sys.finishRun_eq step))⟩
  | otherPut put =>
    cases step
    exact .inr (.inr ⟨put, rfl, rfl⟩)

/-- A task that moves has been spawned, and stays so. -/
theorem TaskMove.spawned {task : Nat} {host : InventoryHost} {action : FanoutAction ε} {phase : TaskPhase}
    {effect : TaskEffect}
    (move : TaskMove sys s task host action phase effect) : s.phase task ≠ .unspawned ∧ phase ≠ .unspawned := by
  have resumed : ∀ attempt result, afterAttempt attempt result ≠ .unspawned := by
    intro attempt result hphase
    have permit := afterAttempt_permit attempt result
    rw [hphase] at permit
    cases permit
  cases move with
  | scanFailed attempt met error phase => exact ⟨by simp [phase], resumed attempt _⟩
  | elapse phase => exact ⟨spawned_of_timed phase, by simp⟩
  | panic phase => exact ⟨spawned_of_timed (TaskPhase.timed_of_calling phase), by simp⟩
  | _ => exact ⟨by simp [*], by simp⟩

theorem Registered.step (h : Registered sys s) {action : FanoutAction ε} (step : sys.step s action = some t) :
    Registered sys t := by
  rcases sys.step_cases h step with
    ⟨-, ⟨host, hhost, rfl⟩ | ⟨task, host, phase, effect, hhost, move, rfl⟩ | ⟨hall, -, -, rfl⟩⟩ |
    ⟨write, task, put, -, hwrite, rfl⟩ | ⟨put, -, rfl⟩
  · have hlt : s.spawned < sys.inventory.length := (List.getElem?_eq_some_iff.mp hhost).1
    refine ⟨hlt, fun task => ?_, fun entry hentry => ?_, fun task other hspawned hother => ?_⟩
    · by_cases htask : task = s.spawned
      · simp [FanoutState.setPhase, htask]
      · have hphase := h.phase task
        simp only [FanoutState.setPhase, Function.update_of_ne htask, hphase]
        omega
    · rcases List.mem_append.mp hentry with hold | hnew
      · exact Nat.lt_succ_of_lt (h.seen entry hold)
      · cases List.mem_singleton.mp hnew
        exact Nat.lt_succ_self _
    · simp only [List.find?_append]
      by_cases htask : task = s.spawned
      · have unseen : s.hostIds.find? (fun entry => entry.1 = task) = none := by
          rw [List.find?_eq_none]
          intro entry hentry
          have hbefore := h.seen entry hentry
          simp only [decide_eq_true_eq]
          omega
        rw [htask] at hother
        cases hhost.symm.trans hother
        rw [unseen]
        simp [htask]
      · rw [h.hostIds task other (by simp at hspawned; omega) hother]
        rfl
  · refine ⟨h.bound, fun other => ?_, h.seen, h.hostIds⟩
    by_cases htask : other = task
    · have hphase := h.phase task
      obtain ⟨before, after⟩ := move.spawned
      simp only [FanoutState.move, htask, Function.update_self, after, false_iff]
      rw [← hphase]
      exact before
    · simp only [FanoutState.move, Function.update_of_ne htask]
      exact h.phase other
  · exact ⟨h.bound, h.phase, h.seen, h.hostIds⟩
  · exact ⟨h.bound, h.phase, h.seen, h.hostIds⟩
  · exact ⟨h.bound, h.phase, h.seen, h.hostIds⟩

theorem FanoutSystem.initial_eq {log : List Put} {start : FanoutState} (h : sys.initial log = some start) :
    sys.limit ≤ maxPermits ∧ start = sys.start log := by
  unfold FanoutSystem.initial at h
  split at h
  next hlimit =>
    cases h
    exact ⟨hlimit, rfl⟩
  next => cases h

theorem Registered.initial (sys : FanoutSystem ε) (log : List Put) : Registered sys (sys.start log) where
  bound := Nat.zero_le _
  phase task := iff_of_true rfl (Nat.zero_le task)
  seen := by simp [FanoutSystem.start]
  hostIds task host hlt := absurd hlt (Nat.not_lt_zero task)

end

/-- What was recorded for one task. -/
def tagged {β : Type} (task : Nat) (entries : List (Nat × β)) : List β :=
  (entries.filter (fun entry => entry.1 = task)).map Prod.snd

theorem tagged_append {β : Type} (task : Nat) (xs ys : List (Nat × β)) :
    tagged task (xs ++ ys) = tagged task xs ++ tagged task ys := by
  simp [tagged]

theorem tagged_self {β : Type} (task : Nat) (entry : Option β) :
    tagged task (entry.map fun x => (task, x)).toList = entry.toList := by
  cases entry <;> simp [tagged]

theorem tagged_other {β : Type} {task other : Nat} (h : other ≠ task) (entry : Option β) :
    tagged other (entry.map fun x => (task, x)).toList = [] := by
  cases entry <;> simp [tagged, h.symm]

end AnneDeBreuil
