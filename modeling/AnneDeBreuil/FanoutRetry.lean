import AnneDeBreuil.FanoutMoves
import AnneDeBreuil.FsPutContract

namespace AnneDeBreuil

/-- What a host run did before its task reached a phase: the scans it began, how
its attempts ended and the puts it made. -/
def TaskPhase.Attempts (scans : List IdempotencyKey) (ends : List (Except HostError ScanId)) (puts : List Put) :
    TaskPhase → Prop
  | .unspawned | .waiting | .starting | .resolving => scans = [] ∧ ends = [] ∧ puts = []
  | .scanning attempt => scans.length = attempt + 1 ∧ ends.length = attempt ∧ puts = []
  | .persisting attempt _ => scans.length = attempt + 1 ∧ ends.length = attempt ∧ puts.length = 1
  | .backoff attempt => scans.length = attempt + 1 ∧ attempt + 1 < maxAttempts ∧ puts = [] ∧
      ∃ before reason, before.length = attempt ∧ ends = before ++ [.error (.retryable reason)]
  | .finishing _ | .releasing _ | .returned _ | .panicked | .collected => puts.length ≤ 1

/-- One host run of `with_retry`: three attempts at most, all under the key,
each but the last one ended by a retryable error. -/
structure AttemptsOk (key : IdempotencyKey) (phase : TaskPhase) (scans : List IdempotencyKey)
    (ends : List (Except HostError ScanId)) (puts : List Put) : Prop where
  phase : phase.Attempts scans ends puts
  bound : scans.length ≤ maxAttempts
  sameKey : (∀ other ∈ scans, other = key) ∧ ∀ put ∈ puts, put.key = key
  retried : ∀ attempt, attempt + 1 < scans.length → ∃ reason, ends[attempt]? = some (.error (.retryable reason))

/-- The outcome a task has settled on and not yet handed over. -/
def TaskPhase.outcome : TaskPhase → Option HostOutcome
  | .finishing outcome => some outcome
  | .releasing result => some result.outcome
  | .returned result => some result.outcome
  | _ => none

/-- The host run has come to an outcome, in its task or in the results. -/
def FanoutState.EndsWith (s : FanoutState) (task : Nat) (outcome : HostOutcome) : Prop :=
  (s.phase task).outcome = some outcome ∨ ∃ result, (task, result) ∈ s.results ∧ result.outcome = outcome

def FanoutState.puts (s : FanoutState) : List (Nat × Put) := s.writes.map fun write => (write.task, write.put)

section

variable {ε : Type} {sys : FanoutSystem ε} {s t : FanoutState} {task : Nat} {host : InventoryHost}
  {action : FanoutAction ε} {phase : TaskPhase} {effect : TaskEffect}

theorem AttemptsOk.kept {key : IdempotencyKey} {before after : TaskPhase} {scans : List IdempotencyKey}
    {ends : List (Except HostError ScanId)} {puts : List Put} (h : AttemptsOk key before scans ends puts)
    (hphase : after.Attempts scans ends puts) : AttemptsOk key after (scans ++ []) (ends ++ []) (puts ++ []) := by
  simp only [List.append_nil]
  exact ⟨hphase, h.bound, h.sameKey, h.retried⟩

theorem TaskPhase.Attempts.onePut {scans : List IdempotencyKey} {ends : List (Except HostError ScanId)}
    {puts : List Put} (h : phase.Attempts scans ends puts) : puts.length ≤ 1 := by
  cases phase with
  | unspawned | waiting | starting | resolving => simp [h.2.2]
  | scanning attempt => simp [h.2.2]
  | persisting attempt write => exact h.2.2.le
  | backoff attempt => simp [h.2.2.1]
  | finishing outcome => exact h
  | releasing result | returned result => exact h
  | panicked | collected => exact h

/-- The end of an attempt leaves those before it as they were. -/
theorem AttemptsOk.ended {key : IdempotencyKey} {before after : TaskPhase} {scans : List IdempotencyKey}
    {ends : List (Except HostError ScanId)} {puts : List Put} (h : AttemptsOk key before scans ends puts)
    (result : Except HostError ScanId) (hphase : after.Attempts scans (ends ++ [result]) puts) :
    AttemptsOk key after (scans ++ []) (ends ++ [result]) (puts ++ []) := by
  simp only [List.append_nil]
  refine ⟨hphase, h.bound, h.sameKey, fun attempt hlt => ?_⟩
  obtain ⟨reason, hend⟩ := h.retried attempt hlt
  have hin := (List.getElem?_eq_some_iff.mp hend).1
  exact ⟨reason, by rw [List.getElem?_append_left hin, hend]⟩

theorem TaskMove.attempts {scans : List IdempotencyKey} {ends : List (Except HostError ScanId)} {puts : List Put}
    (move : TaskMove sys s task host action phase effect)
    (h : AttemptsOk (s.key task) (s.phase task) scans ends puts) :
    AttemptsOk (effect.key.getD (s.key task)) phase (scans ++ if effect.scan then [s.key task] else [])
      (ends ++ effect.ended.toList) (puts ++ (effect.write.map fun snapshot => ⟨s.key task, snapshot⟩).toList) := by
  have hphase := h.phase
  cases move with
  | acquire before free =>
    rw [before] at hphase
    exact h.kept hphase
  | start key before =>
    rw [before] at hphase
    obtain ⟨rfl, rfl, rfl⟩ := hphase
    exact ⟨⟨rfl, rfl, rfl⟩, by simp, by simp, by simp⟩
  | resolve strategy before =>
    rw [before] at hphase
    obtain ⟨rfl, rfl, rfl⟩ := hphase
    exact ⟨⟨rfl, rfl, rfl⟩, by simp [maxAttempts], by simp, by simp⟩
  | persist attempt met snapshot before hscan =>
    rw [before] at hphase
    obtain ⟨hscans, hends, rfl⟩ := hphase
    exact ⟨⟨by simpa using hscans, by simpa using hends, rfl⟩, by simpa using h.bound,
      ⟨by simpa using h.sameKey.1, by simp⟩, by simpa using h.retried⟩
  | scanFailed attempt met error before =>
    rw [before] at hphase
    obtain ⟨hscans, hends, rfl⟩ := hphase
    refine h.ended (.error error) ?_
    obtain ⟨reason, herror, hleft, hafter⟩ | ⟨outcome, hafter, -⟩ := afterAttempt_cases attempt (.error error)
    · rw [hafter, herror]
      exact ⟨hscans, hleft, rfl, ends, reason, hends, rfl⟩
    · rw [hafter]
      exact Nat.zero_le 1
  | stored attempt write owner put id before answer => exact h.ended (.ok id) hphase.onePut
  | storeFailed attempt write error before => exact h.ended (.error (.store error)) hphase.onePut
  | wake attempt before =>
    rw [before] at hphase
    obtain ⟨hscans, hleft, rfl, earlier, reason, hearlier, rfl⟩ := hphase
    refine ⟨⟨by simpa using hscans, by simpa using hearlier, rfl⟩, ?_, ⟨?_, by simp⟩, ?_⟩
    · simp only [if_true, List.length_append, List.length_singleton]
      omega
    · intro other hother
      rcases List.mem_append.mp hother with hold | hnew
      · exact h.sameKey.1 other hold
      · exact List.mem_singleton.mp hnew
    · intro again hagain
      simp only [if_true, List.length_append, List.length_singleton] at hagain
      by_cases hlast : again = attempt
      · exact ⟨reason, by simp [hlast, ← hearlier]⟩
      · simpa using h.retried again (by omega)
  | elapse before | panic before => exact h.kept hphase.onePut
  | finish outcome before | release result before => exact h.kept hphase.onePut
  | join result message before => exact h.kept hphase.onePut
  | joinPanicked message before => exact h.kept hphase.onePut

/-- The key is drawn, and the strategy set, before the first attempt. -/
theorem TaskMove.settled (move : TaskMove sys s task host action phase effect) :
    (∀ key, effect.key = some key → action = .start task key ∧ s.phase task = .starting) ∧
      ∀ strategy, effect.strategy = some strategy → s.phase task = .resolving := by
  cases move with
  | start key before =>
    refine ⟨fun other hother => ?_, by simp⟩
    cases hother
    exact ⟨rfl, before⟩
  | resolve strategy before => exact ⟨by simp, fun _ _ => before⟩
  | _ => exact ⟨by simp, by simp⟩

/-- What is put is what the scanner returned. -/
theorem TaskMove.scanned (move : TaskMove sys s task host action phase effect) {snapshot : ScanSnapshot}
    (h : effect.write = some snapshot) :
    ∃ met, action = .scanned task met ∧
      sys.scan host (s.resolvedStrategy task) (s.key task) met = .ready (.ok snapshot) ∧
      effect.key = none ∧ effect.strategy = none := by
  cases move with
  | persist attempt met other before hscan =>
    cases h
    exact ⟨met, rfl, hscan, rfl, rfl⟩
  | _ => cases h

theorem TaskMove.persisting (move : TaskMove sys s task host action phase effect) {attempt write : Nat}
    (h : phase = .persisting attempt write) : write = s.writes.length ∧ ∃ snapshot, effect.write = some snapshot := by
  cases move with
  | persist attempt met snapshot before hscan =>
    cases h
    exact ⟨rfl, snapshot, rfl⟩
  | scanFailed other met error before =>
    obtain ⟨reason, -, -, hafter⟩ | ⟨outcome, hafter, -⟩ := afterAttempt_cases other (.error error)
    · rw [hafter] at h
      cases h
    · rw [hafter] at h
      cases h
  | _ => cases h

/-- A success is the store's answer, handed on. -/
theorem TaskMove.succeeded (move : TaskMove sys s task host action phase effect) {id : ScanId}
    (h : phase.outcome = some (.succeeded id) ∨
      ∃ result, effect.result = some result ∧ result.outcome = .succeeded id) :
    (s.phase task).outcome = some (.succeeded id) ∨
      ∃ attempt write owner put, s.phase task = .persisting attempt write ∧
        s.writes[write]? = some ⟨owner, put, some id⟩ := by
  cases move with
  | stored attempt write owner put answered before answer =>
    have hid : answered = id := by simpa [TaskPhase.outcome] using h
    rw [hid] at answer
    exact .inr ⟨attempt, write, owner, put, before, answer⟩
  | scanFailed attempt met error before =>
    obtain ⟨reason, -, -, hafter⟩ | ⟨outcome, hafter, hok⟩ := afterAttempt_cases attempt (.error error)
    · simp [hafter, TaskPhase.outcome] at h
    · rw [hafter] at h
      have houtcome : outcome = .succeeded id := by simpa [TaskPhase.outcome] using h
      cases hok id houtcome
  | finish outcome before => exact .inl (by simpa [before, TaskPhase.outcome] using h)
  | release result before => exact .inl (by simpa [before, TaskPhase.outcome] using h)
  | join result message before => exact .inl (by simpa [before, TaskPhase.outcome] using h)
  | _ => simp [TaskPhase.outcome] at h

/-- What the tasks and the store know of the puts, in any run. -/
structure Retrying (sys : FanoutSystem ε) (s : FanoutState) : Prop where
  registered : Registered sys s
  attempts : ∀ task, AttemptsOk (s.key task) (s.phase task) (tagged task s.scans) (tagged task s.ends)
    (tagged task s.puts)
  origin : ∀ write ∈ s.writes, ∃ host met, sys.inventory[write.task]? = some host ∧
    sys.scan host (s.resolvedStrategy write.task) (s.key write.task) met = .ready (.ok write.put.snapshot)
  own : ∀ task attempt write, s.phase task = .persisting attempt write →
    ∃ put answer, s.writes[write]? = some ⟨task, put, answer⟩
  answers : ∀ write ∈ s.writes, ∀ id, write.answer = some id →
    ∃ first ∈ s.log, first.key = write.put.key ∧ first.snapshot.scanId = id
  outcomes : ∀ task id, s.EndsWith task (.succeeded id) →
    ∃ write ∈ s.writes, write.task = task ∧ write.answer = some id

theorem logPut_mono (log : List Put) (put : Put) : ∀ other ∈ log, other ∈ (logPut log put).2 := by
  intro other hother
  unfold logPut
  split
  · exact hother
  · exact List.mem_append_left _ hother

theorem mem_logPut {log : List Put} {put other : Put} (h : other ∈ (logPut log put).2) : other ∈ log ∨ other = put := by
  unfold logPut at h
  split at h
  next => exact .inl h
  next => simpa using h

/-- The answer to a put is the scan id of the log's record under its key. -/
theorem logPut_answer (log : List Put) (put : Put) :
    ∃ first ∈ (logPut log put).2, first.key = put.key ∧ first.snapshot.scanId = (logPut log put).1 := by
  unfold logPut
  split
  next first found =>
    exact ⟨first, List.mem_of_find?_eq_some found, by simpa using List.find?_some found, rfl⟩
  next => exact ⟨put, by simp, rfl, rfl⟩

theorem Retrying.mem_puts {write : StoreWrite} (h : write ∈ s.writes) : write.put ∈ tagged write.task s.puts :=
  List.mem_map.mpr ⟨(write.task, write.put),
    List.mem_filter.mpr ⟨List.mem_map_of_mem h, by simp⟩, rfl⟩

theorem Retrying.writeKey (h : Retrying sys s) {write : StoreWrite} (hwrite : write ∈ s.writes) :
    write.put.key = s.key write.task :=
  (h.attempts write.task).sameKey.2 _ (mem_puts hwrite)

/-- A task that has put something is past the draw of its key and strategy. -/
theorem Retrying.unwritten (h : Retrying sys s) {task : Nat}
    (early : s.phase task = .starting ∨ s.phase task = .resolving) : ∀ write ∈ s.writes, write.task ≠ task := by
  intro write hwrite htask
  have hput := mem_puts hwrite
  have hphase := (h.attempts task).phase
  rw [htask] at hput
  have none : tagged task s.puts = [] := by
    rcases early with early | early
    · rw [early] at hphase
      exact hphase.2.2
    · rw [early] at hphase
      exact hphase.2.2
  simp [none] at hput

theorem Retrying.initial (sys : FanoutSystem ε) (log : List Put) : Retrying sys (sys.start log) where
  registered := Registered.initial sys log
  attempts task := ⟨⟨rfl, rfl, rfl⟩, Nat.zero_le _, by simp [FanoutSystem.start, FanoutState.puts, tagged],
    by simp [FanoutSystem.start, tagged]⟩
  origin := by simp [FanoutSystem.start]
  own := by simp [FanoutSystem.start]
  answers := by simp [FanoutSystem.start]
  outcomes task id ends := by simp [FanoutSystem.start, FanoutState.EndsWith, TaskPhase.outcome] at ends

theorem Retrying.spawn (h : Retrying sys s) {host : InventoryHost}
    (registered : Registered sys { s.setPhase s.spawned .waiting with
      spawned := s.spawned + 1, hostIds := s.hostIds ++ [(s.spawned, host.hostId)] }) :
    Retrying sys { s.setPhase s.spawned .waiting with
      spawned := s.spawned + 1, hostIds := s.hostIds ++ [(s.spawned, host.hostId)] } := by
  have before : s.phase s.spawned = .unspawned := (h.registered.phase s.spawned).mpr le_rfl
  refine ⟨registered, fun task => ?_, h.origin, fun task attempt write hphase => ?_, h.answers,
    fun task scanId ends => ?_⟩
  · have attempts := h.attempts task
    by_cases htask : task = s.spawned
    · rw [htask] at attempts ⊢
      have hphase := attempts.phase
      rw [before] at hphase
      simp only [FanoutState.setPhase, Function.update_self]
      exact ⟨hphase, attempts.bound, attempts.sameKey, attempts.retried⟩
    · simp only [FanoutState.setPhase, Function.update_of_ne htask]
      exact attempts
  · by_cases htask : task = s.spawned
    · simp [FanoutState.setPhase, htask] at hphase
    · exact h.own task attempt write (by simpa [FanoutState.setPhase, Function.update_of_ne htask] using hphase)
  · by_cases htask : task = s.spawned
    · refine h.outcomes task scanId (ends.imp (fun hphase => ?_) id)
      simp [FanoutState.setPhase, htask, TaskPhase.outcome] at hphase
    · exact h.outcomes task scanId (by simpa [FanoutState.EndsWith, FanoutState.setPhase, Function.update_of_ne htask]
        using ends)

theorem move_key_self : (s.move task phase effect).key task = effect.key.getD (s.key task) := by
  cases hkey : effect.key <;> simp [FanoutState.move, hkey]

theorem move_key_other {other : Nat} (h : other ≠ task) : (s.move task phase effect).key other = s.key other := by
  cases hkey : effect.key <;> simp [FanoutState.move, hkey, h]

theorem move_strategy_self :
    (s.move task phase effect).resolvedStrategy task = effect.strategy.getD (s.resolvedStrategy task) := by
  cases hstrategy : effect.strategy <;> simp [FanoutState.move, hstrategy]

theorem move_strategy_other {other : Nat} (h : other ≠ task) :
    (s.move task phase effect).resolvedStrategy other = s.resolvedStrategy other := by
  cases hstrategy : effect.strategy <;> simp [FanoutState.move, hstrategy, h]

theorem move_puts : (s.move task phase effect).puts =
    s.puts ++ ((effect.write.map fun snapshot => Put.mk (s.key task) snapshot).map fun put => (task, put)).toList := by
  cases hwrite : effect.write <;> simp [FanoutState.puts, FanoutState.move, hwrite]

/-- The key and the strategy of a task that has put something stay. -/
theorem Retrying.fixed (h : Retrying sys s) (move : TaskMove sys s task host action phase effect) {write : StoreWrite}
    (hwrite : write ∈ s.writes) :
    (s.move task phase effect).key write.task = s.key write.task ∧
      (s.move task phase effect).resolvedStrategy write.task = s.resolvedStrategy write.task := by
  obtain ⟨keyDrawn, strategySet⟩ := move.settled
  by_cases htask : write.task = task
  · have hkey : effect.key = none := by
      cases hkey : effect.key with
      | none => rfl
      | some key => exact absurd htask (h.unwritten (.inl (keyDrawn key hkey).2) write hwrite)
    have hstrategy : effect.strategy = none := by
      cases hstrategy : effect.strategy with
      | none => rfl
      | some strategy => exact absurd htask (h.unwritten (.inr (strategySet strategy hstrategy)) write hwrite)
    rw [htask, move_key_self, move_strategy_self, hkey, hstrategy]
    exact ⟨rfl, rfl⟩
  · exact ⟨move_key_other htask, move_strategy_other htask⟩

/-- What a task has settled on, in its phase or its results, was there before the
move or is what the move came to. -/
theorem settled_move {α : Type} (phaseOf : TaskPhase → Option α) (resultOf : HostResult → α) {other : Nat} {x : α}
    (h : phaseOf ((s.move task phase effect).phase other) = some x ∨
      ∃ result, (other, result) ∈ (s.move task phase effect).results ∧ resultOf result = x) :
    (phaseOf (s.phase other) = some x ∨ ∃ result, (other, result) ∈ s.results ∧ resultOf result = x) ∨
      other = task ∧ (phaseOf phase = some x ∨ ∃ result, effect.result = some result ∧ resultOf result = x) := by
  rcases h with hphase | ⟨result, hmem, hresult⟩
  · by_cases htask : other = task
    · exact .inr ⟨htask, .inl (by simpa [FanoutState.move, htask] using hphase)⟩
    · exact .inl (.inl (by simpa [FanoutState.move, Function.update_of_ne htask] using hphase))
  · rcases List.mem_append.mp hmem with hold | hnew
    · exact .inl (.inr ⟨result, hold, hresult⟩)
    · obtain ⟨added, hadded, hpair⟩ := Option.map_eq_some_iff.mp (Option.mem_toList.mp hnew)
      cases hpair
      exact .inr ⟨rfl, .inr ⟨_, hadded, hresult⟩⟩

theorem Retrying.move_attempts (h : Retrying sys s) (move : TaskMove sys s task host action phase effect)
    (other : Nat) :
    AttemptsOk ((s.move task phase effect).key other) ((s.move task phase effect).phase other)
      (tagged other (s.move task phase effect).scans) (tagged other (s.move task phase effect).ends)
      (tagged other (s.move task phase effect).puts) := by
  by_cases htask : other = task
  · have moved := move.attempts (h.attempts task)
    have scans : tagged task (s.move task phase effect).scans =
        tagged task s.scans ++ if effect.scan then [s.key task] else [] := by
      cases hscan : effect.scan <;> simp [FanoutState.move, hscan, tagged]
    rw [htask, move_key_self, move_puts, tagged_append, tagged_self, scans]
    simpa [FanoutState.move, tagged_append, tagged_self] using moved
  · have scans : tagged other (s.move task phase effect).scans = tagged other s.scans := by
      cases hscan : effect.scan <;> simp [FanoutState.move, hscan, tagged, Ne.symm htask]
    rw [move_key_other htask, move_puts, tagged_append, tagged_other htask, List.append_nil, scans]
    simpa [FanoutState.move, tagged_append, tagged_other htask, Function.update_of_ne htask] using h.attempts other

/-- A write of the state after a move was there before it, or is its put. -/
theorem mem_move_writes {write : StoreWrite} (h : write ∈ (s.move task phase effect).writes) :
    write ∈ s.writes ∨ ∃ snapshot, effect.write = some snapshot ∧ write = ⟨task, ⟨s.key task, snapshot⟩, none⟩ := by
  rcases List.mem_append.mp h with hold | hnew
  · exact .inl hold
  · obtain ⟨snapshot, hsnapshot, hwrite⟩ := Option.map_eq_some_iff.mp (Option.mem_toList.mp hnew)
    exact .inr ⟨snapshot, hsnapshot, hwrite.symm⟩

theorem Retrying.move_origin (h : Retrying sys s) (hhost : sys.inventory[task]? = some host)
    (move : TaskMove sys s task host action phase effect) {write : StoreWrite}
    (hwrite : write ∈ (s.move task phase effect).writes) :
    ∃ host met, sys.inventory[write.task]? = some host ∧
      sys.scan host ((s.move task phase effect).resolvedStrategy write.task)
        ((s.move task phase effect).key write.task) met = .ready (.ok write.put.snapshot) := by
  obtain hold | ⟨snapshot, hsnapshot, rfl⟩ := mem_move_writes hwrite
  · obtain ⟨hkey, hstrategy⟩ := h.fixed move hold
    rw [hkey, hstrategy]
    exact h.origin write hold
  · obtain ⟨met, -, hscan, hkey, hstrategy⟩ := move.scanned hsnapshot
    rw [move_key_self, move_strategy_self, hkey, hstrategy]
    exact ⟨host, met, hhost, hscan⟩

theorem Retrying.move_own (h : Retrying sys s) (move : TaskMove sys s task host action phase effect)
    {other attempt write : Nat} (hphase : (s.move task phase effect).phase other = .persisting attempt write) :
    ∃ put answer, (s.move task phase effect).writes[write]? = some ⟨other, put, answer⟩ := by
  by_cases htask : other = task
  · obtain ⟨hlast, snapshot, hsnapshot⟩ := move.persisting (by simpa [FanoutState.move, htask] using hphase)
    exact ⟨⟨s.key task, snapshot⟩, none, by simp [FanoutState.move, hsnapshot, hlast, htask]⟩
  · obtain ⟨put, answer, hwrite⟩ := h.own other attempt write
      (by simpa [FanoutState.move, Function.update_of_ne htask] using hphase)
    have hin := (List.getElem?_eq_some_iff.mp hwrite).1
    exact ⟨put, answer, (List.getElem?_append_left hin).trans hwrite⟩

/-- A success has the store's answer behind it, to a put of the same task. -/
theorem Retrying.move_outcomes (h : Retrying sys s) (move : TaskMove sys s task host action phase effect)
    {other : Nat} {id : ScanId} (ends : (s.move task phase effect).EndsWith other (.succeeded id)) :
    ∃ write ∈ s.writes, write.task = other ∧ write.answer = some id := by
  obtain hbefore | ⟨rfl, hnow⟩ := settled_move TaskPhase.outcome HostResult.outcome ends
  · exact h.outcomes other id hbefore
  · obtain hphase | ⟨attempt, write, owner, put, hphase, hanswer⟩ := move.succeeded hnow
    · exact h.outcomes other id (.inl hphase)
    · obtain ⟨own, answer, hwrite⟩ := h.own other attempt write hphase
      cases hwrite.symm.trans hanswer
      exact ⟨_, List.mem_of_getElem? hwrite, rfl, rfl⟩

theorem Retrying.move (h : Retrying sys s) (hhost : sys.inventory[task]? = some host)
    (move : TaskMove sys s task host action phase effect) (registered : Registered sys (s.move task phase effect)) :
    Retrying sys (s.move task phase effect) where
  registered := registered
  attempts := h.move_attempts move
  origin write hwrite := h.move_origin hhost move hwrite
  own other attempt write hphase := h.move_own move hphase
  answers write hwrite id hid := by
    obtain hold | ⟨snapshot, -, rfl⟩ := mem_move_writes hwrite
    · exact h.answers write hold id hid
    · cases hid
  outcomes other id ends := by
    obtain ⟨write, hwrite, hown⟩ := h.move_outcomes move ends
    exact ⟨write, List.mem_append_left _ hwrite, hown⟩

theorem set_answer_puts {write owner : Nat} {put : Put} {id : ScanId}
    (hwrite : s.writes[write]? = some ⟨owner, put, none⟩) :
    (s.writes.set write ⟨owner, put, some id⟩).map (fun write => (write.task, write.put)) = s.puts := by
  refine List.ext_getElem? (fun i => ?_)
  simp only [FanoutState.puts, List.getElem?_map, List.getElem?_set]
  split
  next heq =>
    rw [← heq, hwrite]
    split
    next => rfl
    next hout => simp [List.getElem?_eq_none (Nat.not_lt.mp hout)] at hwrite
  next => rfl

/-- The store takes a put, and its answer is there for the task. -/
theorem Retrying.commit (h : Retrying sys s) {write owner : Nat} {put : Put}
    (hwrite : s.writes[write]? = some ⟨owner, put, none⟩)
    (registered : Registered sys { s with
      writes := s.writes.set write ⟨owner, put, some (logPut s.log put).1⟩, log := (logPut s.log put).2 }) :
    Retrying sys { s with
      writes := s.writes.set write ⟨owner, put, some (logPut s.log put).1⟩, log := (logPut s.log put).2 } := by
  have hmem := List.mem_of_getElem? hwrite
  refine ⟨registered, fun task => ?_, fun other hother => ?_, fun task attempt other hphase => ?_,
    fun other hother id hid => ?_, fun task id ends => ?_⟩
  · rw [FanoutState.puts, set_answer_puts hwrite]
    exact h.attempts task
  · rcases List.mem_or_eq_of_mem_set hother with hold | hnew
    · exact h.origin other hold
    · have origin := h.origin _ hmem
      rw [hnew]
      exact origin
  · obtain ⟨own, answer, hother⟩ := h.own task attempt other hphase
    by_cases hsame : write = other
    · rw [← hsame, hwrite] at hother
      cases hother
      exact ⟨put, some (logPut s.log put).1, by
        rw [← hsame, List.getElem?_set_self (List.getElem?_eq_some_iff.mp hwrite).1]⟩
    · exact ⟨own, answer, (List.getElem?_set_ne hsame).trans hother⟩
  · rcases List.mem_or_eq_of_mem_set hother with hold | hnew
    · obtain ⟨first, hfirst, hkey, hid⟩ := h.answers other hold id hid
      exact ⟨first, logPut_mono _ _ first hfirst, hkey, hid⟩
    · rw [hnew] at hid ⊢
      cases hid
      exact logPut_answer s.log put
  · obtain ⟨other, hother, htask, hanswer⟩ := h.outcomes task id ends
    obtain ⟨place, hplace⟩ := List.mem_iff_getElem?.mp hother
    have hne : write ≠ place := by
      intro heq
      rw [heq, hplace] at hwrite
      cases hwrite
      cases hanswer
    exact ⟨other, List.mem_of_getElem? ((List.getElem?_set_ne hne).trans hplace), htask, hanswer⟩

theorem Retrying.step (h : Retrying sys s) (step : sys.step s action = some t) :
    Retrying sys t := by
  have registered := h.registered.step step
  rcases sys.step_cases h.registered step with
    ⟨-, ⟨host, hhost, rfl⟩ | ⟨task, host, phase, effect, hhost, move, rfl⟩ | ⟨hall, collected, -, rfl⟩⟩ |
    ⟨write, task, put, -, hwrite, rfl⟩ | ⟨put, -, rfl⟩
  · exact h.spawn registered
  · exact h.move hhost move registered
  · exact ⟨registered, h.attempts, h.origin, h.own, h.answers, h.outcomes⟩
  · exact h.commit hwrite registered
  · refine ⟨registered, h.attempts, h.origin, h.own, fun write hwrite id hid => ?_, h.outcomes⟩
    obtain ⟨first, hfirst, hkey, hscan⟩ := h.answers write hwrite id hid
    exact ⟨first, logPut_mono _ _ first hfirst, hkey, hscan⟩

/-- The put a step brings to the store. -/
def storePut (p : FanoutState × FanoutAction ε) : Option Put :=
  match p.2 with
  | .commit write => (p.1.writes[write]?).map StoreWrite.put
  | .otherPut put => some put
  | _ => none

/-- The puts that reached the store during a run, in the order they did. -/
def storePuts (trace : List (FanoutState × FanoutAction ε)) : List Put := trace.filterMap storePut

theorem storePut_own (h : action.own = true) : storePut (s, action) = none := by
  cases action with
  | commit write => cases h
  | otherPut put => cases h
  | _ => rfl

theorem logPut_firstPuts (puts : List Put) (put : Put) :
    (logPut (firstPuts puts) put).2 = firstPuts (puts ++ [put]) := by
  rw [firstPuts_snoc, logPut]
  cases (firstPuts puts).find? (fun other => other.key = put.key) with
  | none => rfl
  | some first => rfl

/-- The store's log is the first puts under their keys, those before the run
and those of the run. -/
theorem retrying_run {prior : List Put} {trace : List (FanoutState × FanoutAction ε)}
    (run : Run sys.step (sys.start (firstPuts prior)) trace s) :
    Retrying sys s ∧ s.log = firstPuts (prior ++ storePuts trace) := by
  refine run.always_traced (fun trace s => Retrying sys s ∧ s.log = firstPuts (prior ++ storePuts trace))
    ⟨Retrying.initial sys _, ?_⟩ (fun trace s action t h step => ?_)
  · simp [storePuts, FanoutSystem.start]
  · obtain ⟨retrying, hlog⟩ := h
    have grown : prior ++ storePuts (trace ++ [(s, action)]) =
        (prior ++ storePuts trace) ++ (storePut (s, action)).toList := by
      cases hput : storePut (s, action) <;> simp [storePuts, hput]
    refine ⟨retrying.step step, ?_⟩
    rw [grown]
    rcases sys.step_cases retrying.registered step with
      ⟨hown, ⟨host, hhost, rfl⟩ | ⟨task, host, phase, effect, hhost, move, rfl⟩ | ⟨hall, collected, -, rfl⟩⟩ |
      ⟨write, task, put, rfl, hwrite, rfl⟩ | ⟨put, rfl, rfl⟩
    · rw [storePut_own hown, Option.toList_none, List.append_nil]
      exact hlog
    · rw [storePut_own hown, Option.toList_none, List.append_nil]
      exact hlog
    · rw [storePut_own hown, Option.toList_none, List.append_nil]
      exact hlog
    · simp only [hlog, logPut_firstPuts]
      simp [storePut, hwrite]
    · simp only [hlog, logPut_firstPuts]
      simp [storePut]

end

/-- One `run_fanout` entry, against the store's directory: at most three
attempts under one key, none after a success or an error that is not
retryable, one put at most, a record for each success it reports, and no two
records. -/
structure FanoutState.HostRunOk {β : Type} (libs : StoreLibs β) (dir : StoreDir β) (s : FanoutState) (task : Nat) :
    Prop where
  attempts : (tagged task s.scans).length ≤ 3
  sameKey : (∀ key ∈ tagged task s.scans, key = s.key task) ∧ ∀ put ∈ tagged task s.puts, put.key = s.key task
  stops : ∀ attempt, attempt + 1 < (tagged task s.scans).length →
    ∃ reason, (tagged task s.ends)[attempt]? = some (.error (.retryable reason))
  onePut : (tagged task s.puts).length ≤ 1
  stored : ∀ id, s.EndsWith task (.succeeded id) → ∃ index entry bytes snapshot,
    readIndex libs dir = .ok index ∧ entry ∈ index.entries ∧ entry.idempotencyKey = s.key task ∧
      entry.scanId = id ∧ dir.files (contentName entry.contentHash) = some bytes ∧
      libs.fromSlice bytes = .ok snapshot ∧ snapshot.scanId = id
  once : ∀ index, readIndex libs dir = .ok index →
    (index.entries.filter (fun entry => entry.idempotencyKey = s.key task)).length ≤ 1

section

variable {ε β : Type} {sys : FanoutSystem ε} {libs : StoreLibs β} {snapshots : List ScanSnapshot}
  {dir : StoreDir β} {log : List Put}

/-- A put of the fan-out's model of the store is one of the store. -/
theorem putBlocking_logPut (lawful : libs.Lawful snapshots) (h : Represents libs snapshots dir log) {put : Put}
    (hs : put.snapshot ∈ snapshots) :
    (putBlocking libs dir put.key put.snapshot).1 = .ok (logPut log put).1 ∧
      Represents libs snapshots (putBlocking libs dir put.key put.snapshot).2 (logPut log put).2 := by
  unfold logPut
  split
  next first found =>
    rw [putBlocking_repeated h found]
    exact ⟨rfl, h⟩
  next fresh => exact putBlocking_first lawful h hs fresh

theorem Represents.once (h : Represents libs snapshots dir log) (keys : (log.map Put.key).Nodup) {index : Index}
    (hindex : readIndex libs dir = .ok index) (key : IdempotencyKey) :
    (index.entries.filter (fun entry => entry.idempotencyKey = key)).length ≤ 1 := by
  cases h.index.symm.trans hindex
  have count := List.nodup_iff_count_le_one.mp keys key
  rw [List.count, List.countP_map, List.countP_eq_length_filter] at count
  rw [List.filter_map, List.length_map]
  exact count

/-- A commit of the run is a put of the store, with its answer. -/
theorem commit_putBlocking {prior : List Put} {s : FanoutState} {trace : List (FanoutState × FanoutAction ε)}
    (run : Run sys.step (sys.start (firstPuts prior)) trace s) {write task : Nat} {put : Put}
    (hwrite : s.writes[write]? = some ⟨task, put, none⟩)
    (lawful : libs.Lawful ((prior ++ storePuts (trace ++ [(s, .commit write)])).map Put.snapshot)) :
    putBlocking libs (runPuts libs (.fresh β) (prior ++ storePuts trace)) put.key put.snapshot =
      (.ok (logPut s.log put).1,
        runPuts libs (.fresh β) (prior ++ storePuts (trace ++ [(s, .commit write)]))) := by
  have grown : prior ++ storePuts (trace ++ [(s, .commit write)]) = (prior ++ storePuts trace) ++ [put] := by
    simp [storePuts, storePut, hwrite]
  obtain ⟨-, hlog⟩ := retrying_run run
  have represents := runPuts_represents lawful grown
  rw [← hlog] at represents
  have hs : put.snapshot ∈ (prior ++ storePuts (trace ++ [(s, .commit write)])).map Put.snapshot := by
    rw [grown]
    simp
  obtain ⟨answer, -⟩ := putBlocking_logPut lawful represents hs
  rw [grown, runPuts_snoc, ← answer]

/-- Over the file system store, whatever the scanner and the store answer and
whoever else uses it. -/
theorem hostRun_exactlyOnce {prior : List Put} {s : FanoutState} {trace : List (FanoutState × FanoutAction ε)}
    (run : Run sys.step (sys.start (firstPuts prior)) trace s)
    (lawful : libs.Lawful ((prior ++ storePuts trace).map Put.snapshot)) (task : Nat) :
    s.HostRunOk libs (runPuts libs (.fresh β) (prior ++ storePuts trace)) task := by
  obtain ⟨retrying, hlog⟩ := retrying_run run
  have represents := runPuts_represents lawful (List.append_nil _).symm
  rw [← hlog] at represents
  have attempts := retrying.attempts task
  refine ⟨attempts.bound, attempts.sameKey, attempts.retried, attempts.phase.onePut, fun id ends => ?_,
    fun index hindex => ?_⟩
  · obtain ⟨write, hwrite, htask, hanswer⟩ := retrying.outcomes task id ends
    obtain ⟨first, hfirst, hkey, hid⟩ := retrying.answers write hwrite id hanswer
    obtain ⟨bytes, hvec, hslice, hfile⟩ := represents.content first hfirst
    refine ⟨_, indexEntryOf libs first, bytes, first.snapshot, represents.index, List.mem_map_of_mem hfirst,
      ?_, hid, ?_, hslice, hid⟩
    · rw [← htask, ← retrying.writeKey hwrite, ← hkey]
      rfl
    · rw [← hfile]
      simp [indexEntryOf, contentHashOf_ok hvec]
  · have keys : (s.log.map Put.key).Nodup := hlog ▸ firstPuts_keys_nodup _
    exact represents.once keys hindex (s.key task)

end

/-- A host whose first scan is reset, and whose second works. -/
def flakyHost : FanoutSystem Bool where
  inventory := [⟨⟨1⟩⟩]
  concurrency := 1
  scan _ _ _ met := .ready (if met then .ok (emptyScan ⟨7⟩ 0) else .error (.retryable "connection reset"))

theorem hostRun_retried : ∃ trace s, Run flakyHost.step (flakyHost.start []) trace s ∧
    s.results = [(0, ⟨⟨1⟩, .localOnly, .succeeded ⟨7⟩⟩)] ∧
    s.HostRunOk taggedLibs (runPuts taggedLibs (.fresh _) (storePuts trace)) 0 := by
  let start := flakyHost.start (firstPuts [])
  let actions : List (FanoutAction Bool) := [.spawn, .acquire 0, .start 0 ⟨5⟩, .resolve 0 .localOnly, .scanned 0 false,
    .wake 0, .scanned 0 true, .commit 0, .stored 0, .finish 0, .release 0, .join 0 "", .finishRun]
  have reported : (runList flakyHost.step start actions).map FanoutState.results =
      some [(0, ⟨⟨1⟩, .localOnly, .succeeded ⟨7⟩⟩)] := rfl
  obtain ⟨s, ends, results⟩ := Option.map_eq_some_iff.mp reported
  have stored : storePuts (stepsOf flakyHost.step start actions) = [⟨⟨5⟩, emptyScan ⟨7⟩ 0⟩] := rfl
  have lawful : taggedLibs.Lawful (([] ++ storePuts (stepsOf flakyHost.step start actions)).map Put.snapshot) := by
    rw [stored]
    exact taggedLibs_lawful (by decide)
  exact ⟨_, s, .of_stepsOf ends, results, hostRun_exactlyOnce (.of_stepsOf ends) lawful 0⟩

end AnneDeBreuil
