import AnneDeBreuil.FsStoreLog
import AnneDeBreuil.RemoteArtifact
import AnneDeBreuil.Runs

namespace AnneDeBreuil

/-- An inventory entry, by the one field the orchestrator reads. -/
structure InventoryHost where
  hostId : HostId
deriving DecidableEq, Repr

inductive HostOutcome
  | succeeded (id : ScanId)
  | failed (error : HostError)
  | timedOut
deriving DecidableEq, Repr

structure HostResult where
  hostId : HostId
  strategyUsed : TargetStrategy
  outcome : HostOutcome
deriving DecidableEq, Repr

inductive ProgressEvent
  | hostStarted (hostId : HostId)
  | hostFinished (hostId : HostId) (outcome : HostOutcome)
deriving DecidableEq, Repr

def maxAttempts : Nat := 3

/-- `Semaphore::MAX_PERMITS` on a 64-bit target; `Semaphore::new` panics above. -/
def maxPermits : Nat := 2 ^ 61 - 1

/-- A `put` the tasks made. It runs on a thread of its own, so it can commit
after the task gave up on it; `answer` is what it came to once it did. -/
structure StoreWrite where
  task : Nat
  put : Put
  answer : Option ScanId
deriving DecidableEq, Repr

/-- Where a host's task stands. `attempt` counts the attempts that failed
before. -/
inductive TaskPhase
  | unspawned
  | waiting
  | starting
  | resolving
  | scanning (attempt : Nat)
  | persisting (attempt write : Nat)
  | backoff (attempt : Nat)
  | finishing (outcome : HostOutcome)
  | releasing (result : HostResult)
  | returned (result : HostResult)
  | panicked
  | collected
deriving DecidableEq, Repr

/-- `scan` is one call of the scanner, given what it meets. -/
structure FanoutSystem (ε : Type) where
  inventory : List InventoryHost
  concurrency : Nat
  scan : InventoryHost → TargetStrategy → IdempotencyKey → ε → Await (Except HostError ScanSnapshot)

/-- A run of `run_fanout`. Tasks are named by their inventory position, which
tags what they report: `events`, `results`, the scans they began (`scans`) and
how their attempts ended (`ends`). `log` is the store, the first put under each
key. -/
structure FanoutState where
  spawned : Nat
  hostIds : List (Nat × HostId)
  permits : Nat
  phase : Nat → TaskPhase
  key : Nat → IdempotencyKey
  resolvedStrategy : Nat → TargetStrategy
  writes : List StoreWrite
  log : List Put
  events : List (Nat × ProgressEvent)
  scans : List (Nat × IdempotencyKey)
  ends : List (Nat × Except HostError ScanId)
  results : List (Nat × HostResult)
  done : Bool

inductive FanoutAction (ε : Type)
  | spawn
  | acquire (task : Nat)
  | start (task : Nat) (key : IdempotencyKey)
  | resolve (task : Nat) (strategy : TargetStrategy)
  | scanned (task : Nat) (met : ε)
  | commit (write : Nat)
  | stored (task : Nat)
  | storeFailed (task : Nat) (error : StoreError)
  | wake (task : Nat)
  | elapse (task : Nat)
  | panic (task : Nat)
  | finish (task : Nat)
  | release (task : Nat)
  | join (task : Nat) (message : String)
  | finishRun
  | otherPut (put : Put)

/-- A `put` on the store: the first scan id under the key, and the log with the
put where there was none. -/
def logPut (log : List Put) (put : Put) : ScanId × List Put :=
  match log.find? (fun other => other.key = put.key) with
  | some first => (first.snapshot.scanId, log)
  | none => (put.snapshot.scanId, log ++ [put])

def TaskPhase.holdsPermit : TaskPhase → Bool
  | .starting => true
  | .resolving => true
  | .scanning _ => true
  | .persisting _ _ => true
  | .backoff _ => true
  | .finishing _ => true
  | .releasing _ => true
  | _ => false

/-- The end of an attempt in `with_retry`, and what `scan_one_host` makes of the
loop's result. -/
def afterAttempt (attempt : Nat) : Except HostError ScanId → TaskPhase
  | .ok id => .finishing (.succeeded id)
  | .error (.retryable reason) =>
    if attempt + 1 < maxAttempts then .backoff attempt else .finishing (.failed (.retryable reason))
  | .error .timeout => .finishing .timedOut
  | .error error => .finishing (.failed error)

def FanoutState.setPhase (s : FanoutState) (task : Nat) (phase : TaskPhase) : FanoutState :=
  { s with phase := Function.update s.phase task phase }

def FanoutState.report (s : FanoutState) (task : Nat) (event : ProgressEvent) : FanoutState :=
  { s with events := s.events ++ [(task, event)] }

/-- The next attempt: the scanner is called with the task's key. -/
def FanoutState.attempt (s : FanoutState) (task attempt : Nat) : FanoutState :=
  { s.setPhase task (.scanning attempt) with scans := s.scans ++ [(task, s.key task)] }

def FanoutState.endAttempt (s : FanoutState) (task attempt : Nat) (result : Except HostError ScanId) :
    FanoutState :=
  { s.setPhase task (afterAttempt attempt result) with ends := s.ends ++ [(task, result)] }

def FanoutState.pushResult (s : FanoutState) (task : Nat) (result : HostResult) : FanoutState :=
  { s with results := s.results ++ [(task, result)] }

/-- The permits of `run_fanout`'s semaphore. -/
def FanoutSystem.limit {ε : Type} (sys : FanoutSystem ε) : Nat := max sys.concurrency 1

/-- The state a run starts in, over a store. -/
def FanoutSystem.start {ε : Type} (sys : FanoutSystem ε) (log : List Put) : FanoutState where
  spawned := 0
  hostIds := []
  permits := sys.limit
  phase _ := .unspawned
  key _ := ⟨0⟩
  resolvedStrategy _ := .probe
  writes := []
  log := log
  events := []
  scans := []
  ends := []
  results := []
  done := false

/-- The start of a run; `none` where the semaphore panics. -/
def FanoutSystem.initial {ε : Type} (sys : FanoutSystem ε) (log : List Put) : Option FanoutState :=
  if sys.limit ≤ maxPermits then some (sys.start log) else none

/-- One step of the run, of one of its tasks, of a write under way, or of
another user of the store. -/
def FanoutSystem.step {ε : Type} (sys : FanoutSystem ε) (s : FanoutState) : FanoutAction ε → Option FanoutState
  | .spawn =>
    match sys.inventory[s.spawned]? with
    | none => none
    | some host =>
      some { s.setPhase s.spawned .waiting with
        spawned := s.spawned + 1
        hostIds := s.hostIds ++ [(s.spawned, host.hostId)] }
  | .acquire task =>
    if s.phase task = .waiting ∧ 0 < s.permits then
      some { s.setPhase task .starting with permits := s.permits - 1 }
    else none
  | .start task key =>
    match s.phase task, sys.inventory[task]? with
    | .starting, some host =>
      some (({ s with key := Function.update s.key task key }.setPhase task .resolving).report task
        (.hostStarted host.hostId))
    | _, _ => none
  | .resolve task strategy =>
    match s.phase task with
    | .resolving =>
      some ({ s with resolvedStrategy := Function.update s.resolvedStrategy task strategy }.attempt task 0)
    | _ => none
  | .scanned task met =>
    match s.phase task, sys.inventory[task]? with
    | .scanning attempt, some host =>
      match sys.scan host (s.resolvedStrategy task) (s.key task) met with
      | .dropped => none
      | .ready (.error error) => some (s.endAttempt task attempt (.error error))
      | .ready (.ok snapshot) =>
        some { s.setPhase task (.persisting attempt s.writes.length) with
          writes := s.writes ++ [⟨task, ⟨s.key task, snapshot⟩, none⟩] }
    | _, _ => none
  | .commit write =>
    match s.writes[write]? with
    | some ⟨task, put, none⟩ =>
      some { s with
        writes := s.writes.set write ⟨task, put, some (logPut s.log put).1⟩
        log := (logPut s.log put).2 }
    | _ => none
  | .stored task =>
    match s.phase task with
    | .persisting attempt write =>
      match s.writes[write]? with
      | some ⟨_, _, some id⟩ => some (s.endAttempt task attempt (.ok id))
      | _ => none
    | _ => none
  | .storeFailed task error =>
    match s.phase task with
    | .persisting attempt _ => some (s.endAttempt task attempt (.error (.store error)))
    | _ => none
  | .wake task =>
    match s.phase task with
    | .backoff attempt => some (s.attempt task (attempt + 1))
    | _ => none
  | .elapse task =>
    match s.phase task with
    | .resolving => some (s.setPhase task (.finishing .timedOut))
    | .scanning _ => some (s.setPhase task (.finishing .timedOut))
    | .persisting _ _ => some (s.setPhase task (.finishing .timedOut))
    | .backoff _ => some (s.setPhase task (.finishing .timedOut))
    | _ => none
  | .panic task =>
    match s.phase task with
    | .resolving => some { s.setPhase task .panicked with permits := s.permits + 1 }
    | .scanning _ => some { s.setPhase task .panicked with permits := s.permits + 1 }
    | .persisting _ _ => some { s.setPhase task .panicked with permits := s.permits + 1 }
    | _ => none
  | .finish task =>
    match s.phase task, sys.inventory[task]? with
    | .finishing outcome, some host =>
      some ((s.setPhase task (.releasing ⟨host.hostId, s.resolvedStrategy task, outcome⟩)).report task
        (.hostFinished host.hostId outcome))
    | _, _ => none
  | .release task =>
    match s.phase task with
    | .releasing result => some { s.setPhase task (.returned result) with permits := s.permits + 1 }
    | _ => none
  | .join task message =>
    if s.spawned = sys.inventory.length then
      match s.phase task with
      | .returned result => some ((s.setPhase task .collected).pushResult task result)
      | .panicked =>
        match s.hostIds.find? (fun entry => entry.1 = task) with
        | none => some (s.setPhase task .collected)
        | some (_, hostId) =>
          some (((s.setPhase task .collected).report task
            (.hostFinished hostId (.failed (.panicked message)))).pushResult task
              ⟨hostId, .probe, .failed (.panicked message)⟩)
      | _ => none
    else none
  | .finishRun =>
    if s.spawned = sys.inventory.length ∧ (∀ task < s.spawned, s.phase task = .collected) ∧ s.done = false then
      some { s with done := true }
    else none
  | .otherPut put => some { s with log := (logPut s.log put).2 }

end AnneDeBreuil
