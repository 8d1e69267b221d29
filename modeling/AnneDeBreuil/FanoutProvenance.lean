import AnneDeBreuil.FanoutRetry
import AnneDeBreuil.RemoteScanner
import AnneDeBreuil.ReportModel

namespace AnneDeBreuil

/-- The task has drawn its key. -/
def TaskPhase.started : TaskPhase → Bool
  | .unspawned => false
  | .waiting => false
  | .starting => false
  | _ => true

/-- A key is drawn once: no record of the store, no other task and no other
user of the store has it. -/
def FreshKey {ε : Type} (s : FanoutState) : FanoutAction ε → Prop
  | .start task key => (∀ put ∈ s.log, put.key ≠ key) ∧
      ∀ other, other ≠ task → (s.phase other).started = true → s.key other ≠ key
  | .otherPut put => ∀ task, (s.phase task).started = true → s.key task ≠ put.key
  | _ => True

/-- A collector run for an `Execute` scan emits a snapshot of that strategy. -/
def EmitsExecute (s : FanoutState) : FanoutAction SshScanEnv → Prop
  | .scanned task met => s.resolvedStrategy task = .execute → ∀ emitted, met.Emits emitted → emitted.strategy = .execute
  | _ => True

/-- A record is from the host and of the strategy that a result names, and so is
what a report shows of it. -/
structure RecordOf (target : Target) (regexNew : String → Option FindIter) (host : InventoryHost)
    (result : HostResult) (snapshot : ScanSnapshot) : Prop where
  hostId : snapshot.hostId = host.hostId ∧ result.hostId = host.hostId
  strategy : snapshot.strategy = result.strategyUsed
  fidelity : (buildHostSection target regexNew snapshot).fidelity = .fromStrategy result.strategyUsed

/-- Each success has one record under its task's key, which is of the entry. -/
def FanoutState.Provenance {ε : Type} (sys : FanoutSystem ε) (target : Target) (regexNew : String → Option FindIter)
    (s : FanoutState) : Prop :=
  ∀ task result id, (task, result) ∈ s.results → result.outcome = .succeeded id →
    ∃ host put, sys.inventory[task]? = some host ∧ put ∈ s.log ∧ put.key = s.key task ∧ put.snapshot.scanId = id ∧
      RecordOf target regexNew host result put.snapshot

/-- The result a task has settled on, with the strategy it names. -/
def TaskPhase.result : TaskPhase → Option HostResult
  | .releasing result => some result
  | .returned result => some result
  | _ => none

section

variable {ε : Type} {sys : FanoutSystem ε} {s t : FanoutState} {task : Nat} {host : InventoryHost}
  {action : FanoutAction ε} {phase : TaskPhase} {effect : TaskEffect}

/-- Where the keys and the records of a run come from, and what its results say. -/
structure Traced (sys : FanoutSystem ε) (stamp : InventoryHost → TargetStrategy → ScanSnapshot → Prop)
    (s : FanoutState) : Prop where
  retrying : Retrying sys s
  distinct : ∀ i j, (s.phase i).started = true → (s.phase j).started = true → s.key i = s.key j → i = j
  records : ∀ put ∈ s.log, ∀ task, (s.phase task).started = true → put.key = s.key task → (task, put) ∈ s.puts
  stamped : ∀ entry ∈ s.puts, ∀ host, sys.inventory[entry.1]? = some host →
    stamp host (s.resolvedStrategy entry.1) entry.2.snapshot
  reported : ∀ task result id, ((s.phase task).result = some result ∨ (task, result) ∈ s.results) →
    result.outcome = .succeeded id → ∃ host, sys.inventory[task]? = some host ∧
      result.hostId = host.hostId ∧ result.strategyUsed = s.resolvedStrategy task

/-- Only the draw of a key starts a task. -/
theorem TaskMove.started (move : TaskMove sys s task host action phase effect) :
    phase.started = true ∧ (effect.key = none → (s.phase task).started = true) ∨
      phase = .starting ∧ (s.phase task).started = false ∧ effect.key = none := by
  cases move with
  | acquire before free => exact .inr ⟨rfl, by simp [before, TaskPhase.started], rfl⟩
  | scanFailed attempt met error before =>
    refine .inl ⟨?_, fun _ => by simp [before, TaskPhase.started]⟩
    obtain ⟨reason, -, -, hafter⟩ | ⟨outcome, hafter, -⟩ := afterAttempt_cases attempt (.error error) <;>
      rw [hafter] <;> rfl
  | elapse before =>
    refine .inl ⟨rfl, fun _ => ?_⟩
    revert before
    cases s.phase task <;> simp [TaskPhase.timed, TaskPhase.started]
  | panic before =>
    refine .inl ⟨rfl, fun _ => ?_⟩
    revert before
    cases s.phase task <;> simp [TaskPhase.calling, TaskPhase.started]
  | start key before => exact .inl ⟨rfl, by simp⟩
  | _ => exact .inl ⟨rfl, fun _ => by simp [TaskPhase.started, *]⟩

/-- A result names the entry's host, and the strategy resolved for it. -/
theorem TaskMove.reports (move : TaskMove sys s task host action phase effect) {result : HostResult} {id : ScanId}
    (h : phase.result = some result ∨ effect.result = some result) (houtcome : result.outcome = .succeeded id) :
    (s.phase task).result = some result ∨
      s.phase task = .finishing (.succeeded id) ∧ result.hostId = host.hostId ∧
        result.strategyUsed = s.resolvedStrategy task := by
  cases move with
  | scanFailed attempt met error before =>
    obtain ⟨reason, -, -, hafter⟩ | ⟨outcome, hafter, -⟩ := afterAttempt_cases attempt (.error error) <;>
      simp [hafter, TaskPhase.result] at h
  | finish outcome before =>
    have hresult : ⟨host.hostId, s.resolvedStrategy task, outcome⟩ = result := by
      simpa [TaskPhase.result] using h
    rw [← hresult] at houtcome ⊢
    simp only at houtcome
    rw [houtcome] at before
    exact .inr ⟨before, rfl, rfl⟩
  | release other before =>
    have hresult : other = result := by simpa [TaskPhase.result] using h
    exact .inl (by rw [before, ← hresult]; rfl)
  | join other message before =>
    have hresult : other = result := by simpa [TaskPhase.result] using h
    exact .inl (by rw [before, ← hresult]; rfl)
  | joinPanicked message before =>
    have hresult : ⟨host.hostId, .probe, .failed (.panicked message)⟩ = result := by
      simpa [TaskPhase.result] using h
    rw [← hresult] at houtcome
    cases houtcome
  | _ => simp [TaskPhase.result] at h

theorem Retrying.writer_started (h : Retrying sys s) {write : StoreWrite} (hwrite : write ∈ s.writes) :
    (s.phase write.task).started = true := by
  have hput := mem_puts hwrite
  have hphase := (h.attempts write.task).phase
  cases hp : s.phase write.task with
  | unspawned | waiting | starting =>
    rw [hp] at hphase
    simp [hphase.2.2] at hput
  | _ => rfl

theorem TaskPhase.outcome_of_result {result : HostResult} (h : phase.result = some result) :
    phase.outcome = some result.outcome := by
  cases phase with
  | releasing other | returned other =>
    cases h
    rfl
  | _ => cases h

theorem Traced.initial (sys : FanoutSystem ε) (stamp : InventoryHost → TargetStrategy → ScanSnapshot → Prop)
    (log : List Put) : Traced sys stamp (sys.start log) where
  retrying := Retrying.initial sys log
  distinct := by simp [FanoutSystem.start, TaskPhase.started]
  records := by simp [FanoutSystem.start, TaskPhase.started]
  stamped := by simp [FanoutSystem.start, FanoutState.puts]
  reported := by simp [FanoutSystem.start, TaskPhase.result]

variable {stamp : InventoryHost → TargetStrategy → ScanSnapshot → Prop}

theorem move_phase_other {other : Nat} (h : other ≠ task) :
    (s.move task phase effect).phase other = s.phase other := Function.update_of_ne h _ _

theorem move_phase_self : (s.move task phase effect).phase task = phase := Function.update_self _ _ _

/-- A started task keeps the key it had, or has just drawn one that is new. -/
theorem TaskMove.keyed (move : TaskMove sys s task host action phase effect) (fresh : FreshKey s action)
    (started : phase.started = true) :
    (effect.key = none ∧ (s.phase task).started = true) ∨
      ∃ key, effect.key = some key ∧ (∀ put ∈ s.log, put.key ≠ key) ∧
        ∀ other, other ≠ task → (s.phase other).started = true → s.key other ≠ key := by
  obtain ⟨keyDrawn, -⟩ := move.settled
  cases hkey : effect.key with
  | none =>
    obtain ⟨-, hbefore⟩ | ⟨hphase, -⟩ := move.started
    · exact .inl ⟨rfl, hbefore hkey⟩
    · rw [hphase] at started
      cases started
  | some key =>
    obtain ⟨rfl, -⟩ := keyDrawn key hkey
    exact .inr ⟨key, rfl, fresh⟩

theorem Traced.move_apart (h : Traced sys stamp s) (move : TaskMove sys s task host action phase effect)
    (fresh : FreshKey s action) {other : Nat} (htask : other ≠ task) (hother : (s.phase other).started = true)
    (started : phase.started = true) : s.key other ≠ (s.move task phase effect).key task := by
  rw [move_key_self]
  obtain ⟨hkey, hbefore⟩ | ⟨key, hkey, -, hnew⟩ := move.keyed fresh started
  · rw [hkey]
    exact fun heq => htask (h.distinct other task hother hbefore heq)
  · rw [hkey]
    exact hnew other htask hother

theorem Traced.move_distinct (h : Traced sys stamp s) (move : TaskMove sys s task host action phase effect)
    (fresh : FreshKey s action) (i j : Nat) (hi : ((s.move task phase effect).phase i).started = true)
    (hj : ((s.move task phase effect).phase j).started = true)
    (hkeys : (s.move task phase effect).key i = (s.move task phase effect).key j) : i = j := by
  by_cases hiTask : i = task
  · by_cases hjTask : j = task
    · rw [hiTask, hjTask]
    · rw [move_phase_other hjTask] at hj
      rw [hiTask, move_phase_self] at hi
      rw [hiTask, move_key_other hjTask] at hkeys
      exact absurd hkeys.symm (h.move_apart move fresh hjTask hj hi)
  · rw [move_phase_other hiTask] at hi
    rw [move_key_other hiTask] at hkeys
    by_cases hjTask : j = task
    · rw [hjTask, move_phase_self] at hj
      rw [hjTask] at hkeys
      exact absurd hkeys (h.move_apart move fresh hiTask hi hj)
    · rw [move_phase_other hjTask] at hj
      rw [move_key_other hjTask] at hkeys
      exact h.distinct i j hi hj hkeys

theorem Traced.move_records (h : Traced sys stamp s) (move : TaskMove sys s task host action phase effect)
    (fresh : FreshKey s action) {put : Put} (hput : put ∈ s.log) {other : Nat}
    (started : ((s.move task phase effect).phase other).started = true)
    (hkey : put.key = (s.move task phase effect).key other) : (other, put) ∈ s.puts := by
  by_cases htask : other = task
  · rw [htask, move_phase_self] at started
    rw [htask, move_key_self] at hkey
    rw [htask]
    obtain ⟨hnone, hbefore⟩ | ⟨key, hdrawn, hnew, -⟩ := move.keyed fresh started
    · rw [hnone] at hkey
      exact h.records put hput task hbefore hkey
    · rw [hdrawn] at hkey
      exact absurd hkey (hnew put hput)
  · rw [move_phase_other htask] at started
    rw [move_key_other htask] at hkey
    exact h.records put hput other started hkey

theorem Traced.move_stamped (h : Traced sys stamp s) (hhost : sys.inventory[task]? = some host)
    (move : TaskMove sys s task host action phase effect)
    (stamps : ∀ met snapshot, action = .scanned task met →
      sys.scan host (s.resolvedStrategy task) (s.key task) met = .ready (.ok snapshot) →
      stamp host (s.resolvedStrategy task) snapshot)
    {entry : Nat × Put} (hentry : entry ∈ (s.move task phase effect).puts) {entryHost : InventoryHost}
    (hentryHost : sys.inventory[entry.1]? = some entryHost) :
    stamp entryHost ((s.move task phase effect).resolvedStrategy entry.1) entry.2.snapshot := by
  rw [move_puts] at hentry
  rcases List.mem_append.mp hentry with hold | hnew
  · obtain ⟨write, hwrite, rfl⟩ := List.mem_map.mp hold
    rw [(h.retrying.fixed move hwrite).2]
    exact h.stamped _ hold entryHost hentryHost
  · obtain ⟨put, hput, rfl⟩ := Option.map_eq_some_iff.mp (Option.mem_toList.mp hnew)
    obtain ⟨snapshot, hsnapshot, rfl⟩ := Option.map_eq_some_iff.mp hput
    obtain ⟨met, haction, hscan, -, hstrategy⟩ := move.scanned hsnapshot
    cases hhost.symm.trans hentryHost
    rw [move_strategy_self, hstrategy]
    exact stamps met snapshot haction hscan

theorem Traced.move_reported (h : Traced sys stamp s) (hhost : sys.inventory[task]? = some host)
    (move : TaskMove sys s task host action phase effect) {other : Nat} {result : HostResult} {id : ScanId}
    (hreported : ((s.move task phase effect).phase other).result = some result ∨
      (other, result) ∈ (s.move task phase effect).results) (houtcome : result.outcome = .succeeded id) :
    ∃ host, sys.inventory[other]? = some host ∧ result.hostId = host.hostId ∧
      result.strategyUsed = (s.move task phase effect).resolvedStrategy other := by
  -- a success has a put behind it, so that the strategy of its task stays
  have stays : s.EndsWith other (.succeeded id) →
      (∃ host, sys.inventory[other]? = some host ∧ result.hostId = host.hostId ∧
        result.strategyUsed = s.resolvedStrategy other) →
      ∃ host, sys.inventory[other]? = some host ∧ result.hostId = host.hostId ∧
        result.strategyUsed = (s.move task phase effect).resolvedStrategy other := by
    intro ends names
    obtain ⟨write, hwrite, rfl, -⟩ := h.retrying.outcomes other id ends
    rw [(h.retrying.fixed move hwrite).2]
    exact names
  have handed : ∀ {phase : TaskPhase}, phase.result = some result → phase.outcome = some (.succeeded id) := by
    intro phase hphase
    rw [TaskPhase.outcome_of_result hphase, houtcome]
  have settled := settled_move TaskPhase.result (fun result => result) (x := result) (by simpa using hreported)
  simp only [exists_eq_right] at settled
  obtain hbefore | ⟨rfl, hnow⟩ := settled
  · exact stays (hbefore.imp handed (fun hmem => ⟨result, hmem, houtcome⟩))
      (h.reported other result id hbefore houtcome)
  · obtain hbefore | ⟨hphase, names⟩ := move.reports hnow houtcome
    · exact stays (.inl (handed hbefore)) (h.reported other result id (.inl hbefore) houtcome)
    · exact stays (.inl (by rw [hphase]; rfl)) ⟨host, hhost, names⟩

theorem Traced.move (h : Traced sys stamp s) (hhost : sys.inventory[task]? = some host)
    (move : TaskMove sys s task host action phase effect) (fresh : FreshKey s action)
    (stamps : ∀ met snapshot, action = .scanned task met →
      sys.scan host (s.resolvedStrategy task) (s.key task) met = .ready (.ok snapshot) →
      stamp host (s.resolvedStrategy task) snapshot)
    (retrying : Retrying sys (s.move task phase effect)) : Traced sys stamp (s.move task phase effect) where
  retrying := retrying
  distinct := h.move_distinct move fresh
  records put hput other started hkey := by
    rw [move_puts]
    exact List.mem_append_left _ (h.move_records move fresh hput started hkey)
  stamped entry hentry entryHost hentryHost := h.move_stamped hhost move stamps hentry hentryHost
  reported other result id hreported houtcome := h.move_reported hhost move hreported houtcome

/-- A step keeps it that is honest about keys and about what it puts. -/
theorem Traced.step (h : Traced sys stamp s) (fresh : FreshKey s action)
    (stamps : ∀ task met host snapshot, action = .scanned task met → sys.inventory[task]? = some host →
      sys.scan host (s.resolvedStrategy task) (s.key task) met = .ready (.ok snapshot) →
      stamp host (s.resolvedStrategy task) snapshot)
    (step : sys.step s action = some t) : Traced sys stamp t := by
  have retrying := h.retrying.step step
  rcases sys.step_cases h.retrying.registered step with
    ⟨-, ⟨host, hhost, rfl⟩ | ⟨task, host, phase, effect, hhost, move, rfl⟩ | ⟨hall, collected, -, rfl⟩⟩ |
    ⟨write, task, put, -, hwrite, rfl⟩ | ⟨put, rfl, rfl⟩
  · have before : s.phase s.spawned = .unspawned := (h.retrying.registered.phase s.spawned).mpr le_rfl
    have started : ∀ task, (Function.update s.phase s.spawned .waiting task).started = (s.phase task).started := by
      intro task
      by_cases htask : task = s.spawned
      · rw [htask, Function.update_self, before]
        rfl
      · rw [Function.update_of_ne htask]
    refine ⟨retrying, fun i j hi hj => ?_, fun put hput task htask => ?_, h.stamped, fun task result id hreported => ?_⟩
    · exact h.distinct i j (started i ▸ hi) (started j ▸ hj)
    · exact h.records put hput task (started task ▸ htask)
    · refine h.reported task result id (hreported.imp (fun hphase => ?_) (fun hmem => hmem))
      by_cases htask : task = s.spawned
      · simp [FanoutState.setPhase, htask, TaskPhase.result] at hphase
      · simpa [FanoutState.setPhase, Function.update_of_ne htask] using hphase
  · exact h.move hhost move fresh (fun met snapshot haction => stamps task met host snapshot haction hhost) retrying
  · exact ⟨retrying, h.distinct, h.records, h.stamped, h.reported⟩
  · have puts : (s.writes.set write ⟨task, put, some (logPut s.log put).1⟩).map
        (fun write => (write.task, write.put)) = s.puts := set_answer_puts hwrite
    have hmem := List.mem_of_getElem? hwrite
    refine ⟨retrying, h.distinct, fun other hother owner hstarted hkey => ?_, fun entry hentry => ?_, h.reported⟩
    · rw [FanoutState.puts, puts]
      rcases mem_logPut hother with hold | rfl
      · exact h.records other hold owner hstarted hkey
      · have hown := h.retrying.writeKey hmem
        have same : task = owner :=
          h.distinct task owner (h.retrying.writer_started hmem) hstarted (hown.symm.trans hkey)
        exact List.mem_map.mpr ⟨_, hmem, by rw [same]⟩
    · rw [FanoutState.puts, puts] at hentry
      exact h.stamped entry hentry
  · refine ⟨retrying, h.distinct, fun other hother task hstarted hkey => ?_, h.stamped, h.reported⟩
    rcases mem_logPut hother with hold | rfl
    · exact h.records other hold task hstarted hkey
    · exact absurd hkey.symm (fresh task hstarted)

theorem traced_run (stamp : InventoryHost → TargetStrategy → ScanSnapshot → Prop) {log : List Put}
    {trace : List (FanoutState × FanoutAction ε)}
    (run : Run sys.step (sys.start log) trace s) (fresh : ∀ p ∈ trace, FreshKey p.1 p.2)
    (stamps : ∀ p ∈ trace, ∀ task met host snapshot, p.2 = .scanned task met → sys.inventory[task]? = some host →
      sys.scan host (p.1.resolvedStrategy task) (p.1.key task) met = .ready (.ok snapshot) →
      stamp host (p.1.resolvedStrategy task) snapshot) : Traced sys stamp s :=
  run.invariant (Traced sys stamp)
    (fun s action => FreshKey s action ∧ ∀ task met host snapshot, action = .scanned task met →
      sys.inventory[task]? = some host →
      sys.scan host (s.resolvedStrategy task) (s.key task) met = .ready (.ok snapshot) →
      stamp host (s.resolvedStrategy task) snapshot)
    (Traced.initial sys stamp log) (fun _ _ _ h ok step => h.step ok.1 ok.2 step)
    (fun p hp => ⟨fresh p hp, stamps p hp⟩)

/-- The record under a task's key is what its own scan returned, whether the task lived to report it or not. -/
theorem Traced.record (h : Traced sys stamp s) {put : Put} (hput : put ∈ s.log) (started : (s.phase task).started = true)
    (hkey : put.key = s.key task) :
    ∃ host, sys.inventory[task]? = some host ∧ stamp host (s.resolvedStrategy task) put.snapshot := by
  have spawned : s.phase task ≠ .unspawned := by
    intro unspawned
    rw [unspawned] at started
    cases started
  obtain ⟨-, host, hhost⟩ := h.retrying.registered.host spawned
  exact ⟨host, hhost, h.stamped _ (h.records put hput task started hkey) host hhost⟩

/-- The one record under a success's key is what its own scan returned. -/
theorem Traced.success (h : Traced sys stamp s) {result : HostResult} {id : ScanId} (hmem : (task, result) ∈ s.results)
    (houtcome : result.outcome = .succeeded id) :
    ∃ host put, sys.inventory[task]? = some host ∧ put ∈ s.log ∧ put.key = s.key task ∧ put.snapshot.scanId = id ∧
      result.hostId = host.hostId ∧ stamp host result.strategyUsed put.snapshot := by
  obtain ⟨host, hhost, hid, hstrategy⟩ := h.reported task result id (.inr hmem) houtcome
  obtain ⟨write, hwrite, rfl, hanswer⟩ := h.retrying.outcomes task id (.inr ⟨result, hmem, houtcome⟩)
  obtain ⟨put, hput, hkey, hscan⟩ := h.retrying.answers write hwrite id hanswer
  have hown : put.key = s.key write.task := hkey.trans (h.retrying.writeKey hwrite)
  obtain ⟨owner, howner, hstamp⟩ := h.record hput (h.retrying.writer_started hwrite) hown
  obtain rfl := Option.some.inj (hhost.symm.trans howner)
  exact ⟨host, put, hhost, hput, hown, hscan, hid, hstrategy ▸ hstamp⟩

end

/-- The fan-out over the production scanner. -/
def sshFanout (scanner : SshHostScanner) (inventory : List InventoryHost) (concurrency : Nat) :
    FanoutSystem SshScanEnv :=
  ⟨inventory, concurrency, scanner.scan⟩

section

variable {scanner : SshHostScanner} {inventory : List InventoryHost} {concurrency : Nat} {log : List Put}
  {trace : List (FanoutState × FanoutAction SshScanEnv)} {s : FanoutState}

/-- The host id is stamped, whatever the collectors emit. -/
theorem hostId_run (run : Run (sshFanout scanner inventory concurrency).step
      ((sshFanout scanner inventory concurrency).start log) trace s)
    (fresh : ∀ p ∈ trace, FreshKey p.1 p.2) {task : Nat} {result : HostResult} {id : ScanId}
    (hmem : (task, result) ∈ s.results) (houtcome : result.outcome = .succeeded id) :
    ∃ host put, inventory[task]? = some host ∧ put ∈ s.log ∧ put.key = s.key task ∧ put.snapshot.scanId = id ∧
      result.hostId = host.hostId ∧ put.snapshot.hostId = host.hostId := by
  have stamps : ∀ p ∈ trace, ∀ task met host snapshot, p.2 = .scanned task met → inventory[task]? = some host →
      scanner.scan host (p.1.resolvedStrategy task) (p.1.key task) met = .ready (.ok snapshot) →
      snapshot.hostId = host.hostId := by
    intro p _ task met host snapshot _ _ hscan
    exact (scan_stamped hscan).1
  have traced := traced_run (fun host _ snapshot => snapshot.hostId = host.hostId) run fresh stamps
  exact traced.success hmem houtcome

/-- The strategy is the emitted one: where collectors run for `Execute` scans
emit that strategy, the records of a run are of the tiers that were used. -/
theorem provenance_run (target : Target) (regexNew : String → Option FindIter)
    (run : Run (sshFanout scanner inventory concurrency).step
      ((sshFanout scanner inventory concurrency).start log) trace s)
    (fresh : ∀ p ∈ trace, FreshKey p.1 p.2) (honest : ∀ p ∈ trace, EmitsExecute p.1 p.2) :
    s.Provenance (sshFanout scanner inventory concurrency) target regexNew := by
  have stamps : ∀ p ∈ trace, ∀ task met host snapshot, p.2 = .scanned task met → inventory[task]? = some host →
      scanner.scan host (p.1.resolvedStrategy task) (p.1.key task) met = .ready (.ok snapshot) →
      snapshot.hostId = host.hostId ∧ snapshot.strategy = p.1.resolvedStrategy task := by
    intro p hp task met host snapshot haction _ hscan
    obtain ⟨hid, hstrategy | ⟨hexecute, emitted, hemits, hemitted⟩⟩ := scan_stamped hscan
    · exact ⟨hid, hstrategy⟩
    · have honest := honest p hp
      rw [haction] at honest
      rw [hemitted, hexecute]
      exact ⟨hid, honest hexecute emitted hemits⟩
  have traced := traced_run
    (fun host strategy snapshot => snapshot.hostId = host.hostId ∧ snapshot.strategy = strategy) run fresh stamps
  intro task result id hmem houtcome
  obtain ⟨host, put, hhost, hput, hkey, hscan, hid, hstamp⟩ := traced.success hmem houtcome
  refine ⟨host, put, hhost, hput, hkey, hscan, ⟨hstamp.1, hid⟩, hstamp.2, ?_⟩
  simp only [buildHostSection, hstamp.2]

end

/-- A host whose collector emits a snapshot of a strategy it chooses. -/
def tellingEnv (strategy : TargetStrategy) : SshScanEnv where
  exeHash := .ok ("/usr/local/bin/anne", "ab12")
  connect := .ready (.ok ())
  remotePath := ⟨"/tmp/anne-collector-1"⟩
  collect := { healthyEnv with
    fromUtf8Lossy := fun _ => "ab12"
    fromSlice := fun _ => .ok (.new ⟨9⟩ ⟨7⟩ ⟨0, 0⟩ "1.0.0" [] [] [] strategy) }
  probeHost := .ready []
  scanId := ⟨8⟩
  nowUtc := ⟨0, 0⟩

/-- The only task of a run over an empty store starts under a fresh key. -/
theorem freshKey_alone {ε : Type} (host : InventoryHost)
    (scan : InventoryHost → TargetStrategy → IdempotencyKey → ε → Await (Except HostError ScanSnapshot))
    (key : IdempotencyKey) {later : List (FanoutAction ε)} (quiet : ∀ action ∈ later, ∀ s, FreshKey s action) :
    ∀ p ∈ stepsOf (FanoutSystem.mk [host] 1 scan).step ((FanoutSystem.mk [host] 1 scan).start [])
      (.spawn :: .acquire 0 :: .start 0 key :: later), FreshKey p.1 p.2 := by
  refine List.forall_mem_cons.mpr ⟨trivial, List.forall_mem_cons.mpr ⟨trivial, List.forall_mem_cons.mpr ⟨?_, ?_⟩⟩⟩
  · refine ⟨fun put hput => ?_, fun other hne hstarted => ?_⟩
    · cases hput
    · let unspawned : Nat → TaskPhase := fun _ => .unspawned
      change (Function.update (Function.update unspawned 0 .waiting) 0 .starting other).started = true at hstarted
      simp [unspawned, hne, TaskPhase.started] at hstarted
  · exact fun p hp => quiet p.2 (mem_stepsOf hp) p.1

def tellingFanout : FanoutSystem SshScanEnv := sshFanout ⟨⟨fun _ => "", id⟩, "1.0.0"⟩ [⟨⟨1⟩⟩] 1

/-- A run that scans the host with `Execute` and returns. -/
def tellingActions (strategy : TargetStrategy) : List (FanoutAction SshScanEnv) :=
  [.spawn, .acquire 0, .start 0 ⟨5⟩, .resolve 0 .execute, .scanned 0 (tellingEnv strategy), .commit 0, .stored 0,
    .finish 0, .release 0, .join 0 "", .finishRun]

theorem tellingRun (strategy : TargetStrategy) : ∃ s,
    runList tellingFanout.step (tellingFanout.start []) (tellingActions strategy) = some s ∧
      s.results = [(0, ⟨⟨1⟩, .execute, .succeeded ⟨7⟩⟩)] ∧
      s.log = [⟨⟨5⟩, .new ⟨1⟩ ⟨7⟩ ⟨0, 0⟩ "1.0.0" [] [] [] strategy⟩] := by
  have reported : (runList tellingFanout.step (tellingFanout.start []) (tellingActions strategy)).map
      (fun s => (s.results, s.log)) =
      some ([(0, ⟨⟨1⟩, .execute, .succeeded ⟨7⟩⟩)],
        [⟨⟨5⟩, .new ⟨1⟩ ⟨7⟩ ⟨0, 0⟩ "1.0.0" [] [] [] strategy⟩]) := by
    cases strategy <;> decide +kernel
  obtain ⟨s, ends, hs⟩ := Option.map_eq_some_iff.mp reported
  obtain ⟨results, log⟩ := Prod.mk.inj hs
  exact ⟨s, ends, results, log⟩

theorem tellingRun_fresh (strategy : TargetStrategy) :
    ∀ p ∈ stepsOf tellingFanout.step (tellingFanout.start []) (tellingActions strategy), FreshKey p.1 p.2 :=
  freshKey_alone _ _ _ (by simp [FreshKey])

theorem provenance_execute : ∃ trace s, Run tellingFanout.step (tellingFanout.start []) trace s ∧
    s.results = [(0, ⟨⟨1⟩, .execute, .succeeded ⟨7⟩⟩)] ∧ s.Provenance tellingFanout .other (fun _ => none) := by
  obtain ⟨s, ends, results, -⟩ := tellingRun .execute
  have run := Run.of_stepsOf ends
  refine ⟨_, s, run, results, provenance_run .other (fun _ => none) run (tellingRun_fresh .execute) ?_⟩
  rintro ⟨s, action⟩ hp
  have hmem := mem_stepsOf hp
  simp only [tellingActions, List.mem_cons, List.not_mem_nil, or_false] at hmem
  rcases hmem with rfl | rfl | rfl | rfl | rfl | rfl | rfl | rfl | rfl | rfl | rfl
  case inr.inr.inr.inr.inl =>
    rintro - emitted ⟨output, -, hslice⟩
    cases hslice
    rfl
  all_goals trivial

/-- A host scanned with `Execute` that emits `Probe` is stored, and shown, as inferred. -/
theorem provenance_counterexample : ∃ trace s put, Run tellingFanout.step (tellingFanout.start []) trace s ∧
    (∀ p ∈ trace, FreshKey p.1 p.2) ∧ s.results = [(0, ⟨⟨1⟩, .execute, .succeeded ⟨7⟩⟩)] ∧ s.log = [put] ∧
    put.snapshot.strategy = .probe ∧ (buildHostSection .other (fun _ => none) put.snapshot).fidelity = .inferred ∧
    ¬s.Provenance tellingFanout .other (fun _ => none) := by
  obtain ⟨s, ends, results, log⟩ := tellingRun .probe
  refine ⟨_, s, _, .of_stepsOf ends, tellingRun_fresh .probe, results, log, rfl, rfl, fun always => ?_⟩
  obtain ⟨host, put, -, hput, -, -, -, hstrategy, -⟩ := always 0 _ ⟨7⟩ (by rw [results]; exact .head _) rfl
  rw [log, List.mem_singleton] at hput
  rw [hput] at hstrategy
  cases hstrategy

end AnneDeBreuil
