import AnneDeBreuil.DiffCommand
import AnneDeBreuil.ExecuteTier
import AnneDeBreuil.FanoutAccounts
import AnneDeBreuil.KnownHosts
import AnneDeBreuil.LocalScan
import AnneDeBreuil.UuidText

namespace AnneDeBreuil

/-- The `{:?}` of a strategy. -/
def TargetStrategy.debug : TargetStrategy → String
  | .execute => "Execute"
  | .probe => "Probe"
  | .localOnly => "LocalOnly"

def StoreError.display : StoreError → String
  | .io message => "snapshot store I/O failure: " ++ message
  | .serde message => "snapshot store serialization failure: " ++ message
  | .locked => "snapshot store is locked by another writer"
  | .corrupt message => "snapshot store record is corrupt: " ++ message
  | .join message => "snapshot store background task failed: " ++ message
  | .sqlite message => "sqlite snapshot store failure: " ++ message

def HostError.display : HostError → String
  | .timeout => "host scan timed out"
  | .retryable message => "transient host scan failure, retry may succeed: " ++ message
  | .fatal message => "host scan failed: " ++ message
  | .panicked message => "host scan task panicked: " ++ message
  | .store error => "persisting host snapshot failed: " ++ error.display

/-- What one call of `anne scan` meets beside its arguments: the configuration behind a path, the host it
runs on, the inventory behind a path, the known hosts, the scanner's construction and the store. -/
structure ScanCommandEnv where
  crates : IdCrates
  wire : WireLibs
  version : String
  stamp : ScanStamp
  loadConfig : String → Except String ScanConfig
  host : LocalHost
  readInventory : String → Except String String
  parseInventory : String → Except String (List InventoryHost)
  knownHosts : Except String KnownHosts
  scanner : Except String SshHostScanner
  store : Except String (ScanSnapshot → Except StoreError ScanId)
  /-- Behind how many bytes a write to the standard output fails, if one does. -/
  stdoutTakes : Option Nat

/-- Writing to the standard output: what gets there, and whether that is all. -/
def ScanCommandEnv.writeStdout (env : ScanCommandEnv) (bytes : Utf8) : Utf8 × Bool :=
  match env.stdoutTakes with
  | some n => if n < bytes.length then (bytes.take n, false) else (bytes, true)
  | none => (bytes, true)

def ScanCommandEnv.on (env : ScanCommandEnv) (host : LocalHost) : ScanCommandEnv := { env with host := host }

/-- A scan ends by itself, with what it wrote to its standard output and what it gave to the store, or it
hands the hosts of its inventory to the fan-out. `println!` panics where the standard output fails. -/
inductive ScanRun
  | exits (stdout : Utf8) (persisted : Option ScanSnapshot) (exitCode : ExitCode)
  | panicked (stdout : Utf8) (persisted : Option ScanSnapshot)
  | fansOut (hosts : List InventoryHost) (scanner : SshHostScanner)

namespace ScanCommand

variable (env : ScanCommandEnv) (args : ScanArgs)

/-- The `[scan]` section, from the file that `--config` names or by default. -/
def resolveConfig : Except String ScanConfig :=
  match args.config with
  | some path => env.loadConfig path
  | none => .ok .default

def scanHere (config : ScanConfig) : Except ScanError ScanSnapshot :=
  scanLocal env.crates env.version env.stamp args config env.host

def runEmitJson (config : ScanConfig) : ScanRun :=
  if args.inventory.isSome || args.target.isSome then .exits [] none .configOrArgError
  else
    match scanHere env args config with
    | .error _ => .exits [] none .operationalError
    | .ok snapshot =>
      let (written, whole) := env.writeStdout (emitJson env.wire snapshot)
      .exits written none (if whole then .clean else .operationalError)

/-- What has to be there before any host is contacted. -/
def startFanout (hosts : List InventoryHost) : ScanRun :=
  match env.knownHosts with
  | .error _ => .exits [] none .operationalError
  | .ok _ =>
    match env.scanner with
    | .error _ => .exits [] none .operationalError
    | .ok scanner =>
      match env.store with
      | .error _ => .exits [] none .configOrArgError
      | .ok _ => .fansOut hosts scanner

def runRemoteFanout (inventory : String) : ScanRun :=
  match env.readInventory inventory with
  | .error _ => .exits [] none .configOrArgError
  | .ok contents =>
    match env.parseInventory contents with
    | .error _ => .exits [] none .configOrArgError
    | .ok hosts => if hosts = [] then .exits [] none .clean else startFanout env hosts

def persistedLine (hostId : HostId) (scanId : ScanId) : String :=
  "scanned host " ++ uuidText hostId.uuid ++ "; snapshot " ++ uuidText scanId.uuid ++ " persisted\n"

def runInteractive (config : ScanConfig) : ScanRun :=
  match args.inventory with
  | some inventory => runRemoteFanout env inventory
  | none =>
    match args.target with
    | some _ => .exits [] none .clean
    | none =>
      match scanHere env args config with
      | .error _ => .exits [] none .operationalError
      | .ok snapshot =>
        match env.store with
        | .error _ => .exits [] none .configOrArgError
        | .ok put =>
          match put snapshot with
          | .ok scanId =>
            let (written, whole) := env.writeStdout (utf8 (persistedLine snapshot.hostId scanId))
            if whole then .exits written (some snapshot) .clean else .panicked written (some snapshot)
          | .error _ => .exits [] (some snapshot) .operationalError

def run : ScanRun :=
  match resolveConfig env args with
  | .error _ => .exits [] none .configOrArgError
  | .ok config => if args.emitJson then runEmitJson env args config else runInteractive env args config

/-- What the command prints of an entry. -/
def hostLine (result : HostResult) : String :=
  let host := "host " ++ uuidText result.hostId.uuid
  match result.outcome with
  | .succeeded scanId => host ++ ": scanned (" ++ result.strategyUsed.debug ++ "); snapshot " ++ uuidText scanId.uuid ++ " persisted\n"
  | .failed err => host ++ ": scan failed (" ++ result.strategyUsed.debug ++ "): " ++ err.display ++ "\n"
  | .timedOut => host ++ ": scan timed out (" ++ result.strategyUsed.debug ++ ")\n"

def failures (results : List HostResult) : Nat :=
  results.countP fun result =>
    match result.outcome with
    | .succeeded _ => false
    | .failed _ | .timedOut => true

/-- The end of the command behind the fan-out, where its standard output takes every line. -/
def reportFanout (results : List HostResult) : Utf8 × ExitCode :=
  (utf8 (String.join (results.map hostLine)), if 0 < failures results then .operationalError else .clean)

end ScanCommand

section

variable {env : ScanCommandEnv} {args : ScanArgs}

/-- All of what is written gets to the standard output, or a proper prefix of it. -/
theorem writeStdout_cases (env : ScanCommandEnv) (bytes : Utf8) : env.writeStdout bytes = (bytes, true) ∨
    ∃ n, env.stdoutTakes = some n ∧ n < bytes.length ∧ env.writeStdout bytes = (bytes.take n, false) := by
  unfold ScanCommandEnv.writeStdout
  split
  next n fails =>
    split
    next short => exact .inr ⟨n, fails, short, rfl⟩
    next => exact .inl rfl
  next => exact .inl rfl

/-- What `scan --emit-json` comes to: it is refused, its scan fails, or the snapshot is written. -/
theorem runEmitJson_cases (env : ScanCommandEnv) (args : ScanArgs) (config : ScanConfig) :
    ((args.inventory.isSome = true ∨ args.target.isSome = true) ∧
      ScanCommand.runEmitJson env args config = .exits [] none .configOrArgError) ∨
    ¬(args.inventory.isSome = true ∨ args.target.isSome = true) ∧
      (ScanCommand.runEmitJson env args config = .exits [] none .operationalError ∨
      ∃ snapshot, ScanCommand.scanHere env args config = .ok snapshot ∧
        (ScanCommand.runEmitJson env args config = .exits (emitJson env.wire snapshot) none .clean ∨
        ∃ n, env.stdoutTakes = some n ∧ n < (emitJson env.wire snapshot).length ∧
          ScanCommand.runEmitJson env args config = .exits ((emitJson env.wire snapshot).take n) none .operationalError)) := by
  unfold ScanCommand.runEmitJson
  split
  next remote => exact .inl ⟨by simpa using remote, rfl⟩
  next neither =>
    refine .inr ⟨by simpa using neither, ?_⟩
    cases ScanCommand.scanHere env args config with
    | error e => exact .inl rfl
    | ok snapshot =>
      refine .inr ⟨snapshot, rfl, ?_⟩
      dsimp only
      rcases writeStdout_cases env (emitJson env.wire snapshot) with whole | ⟨n, fails, short, part⟩
      · rw [whole]
        exact .inl rfl
      · rw [part]
        exact .inr ⟨n, fails, short, rfl⟩

/-- What the command prints, stores and exits with is the same on two hosts that differ only in what it was not
asked for. -/
theorem scan_private {a b : LocalHost} (same : ∀ config, ScanCommand.resolveConfig env args = .ok config →
      a.SameUpTo (args.redaction config) b) : ScanCommand.run (env.on a) args = ScanCommand.run (env.on b) args := by
  have resolved : ∀ host, ScanCommand.resolveConfig (env.on host) args = ScanCommand.resolveConfig env args := fun _ => rfl
  unfold ScanCommand.run
  rw [resolved, resolved]
  cases hconfig : ScanCommand.resolveConfig env args with
  | error e => rfl
  | ok config =>
    have scans : ScanCommand.scanHere (env.on a) args config = ScanCommand.scanHere (env.on b) args config :=
      scanLocal_private (same config hconfig)
    simp only [ScanCommand.runEmitJson, ScanCommand.runInteractive, scans]
    rfl

end

section

variable {results : List HostResult}

theorem failures_eq_zero_iff : ScanCommand.failures results = 0 ↔ ∀ result ∈ results, ∃ id, result.outcome = .succeeded id := by
  rw [ScanCommand.failures, List.countP_eq_zero]
  refine forall₂_congr fun result _ => ?_
  cases result.outcome <;> simp

theorem reportFanout_clean_iff : (ScanCommand.reportFanout results).2 = .clean ↔
    ∀ result ∈ results, ∃ id, result.outcome = .succeeded id := by
  rw [← failures_eq_zero_iff, ScanCommand.reportFanout]
  by_cases none : ScanCommand.failures results = 0
  · simp [none]
  · simp [Nat.pos_of_ne_zero none, none]

end

/-- The records from before the run are still there, and no task has one's key. -/
structure SinceStart (log : List Put) (s : FanoutState) : Prop where
  kept : ∀ put ∈ log, put ∈ s.log
  apart : ∀ put ∈ log, ∀ task, (s.phase task).started = true → s.key task ≠ put.key

section

variable {ε : Type} {sys : FanoutSystem ε} {log : List Put} {s t : FanoutState} {action : FanoutAction ε}

theorem SinceStart.move (h : SinceStart log s) {task : Nat} {host : InventoryHost} {phase : TaskPhase} {effect : TaskEffect}
    (move : TaskMove sys s task host action phase effect) (fresh : FreshKey s action) :
    SinceStart log (s.move task phase effect) where
  kept := h.kept
  apart put hput other started := by
    by_cases own : other = task
    · rw [own, move_phase_self] at started
      rw [own, move_key_self]
      obtain ⟨hnone, before⟩ | ⟨key, hdrawn, new, -⟩ := move.keyed fresh started
      · rw [hnone]
        exact h.apart put hput task before
      · rw [hdrawn]
        exact fun same => new put (h.kept put hput) same.symm
    · rw [move_phase_other own] at started
      rw [move_key_other own]
      exact h.apart put hput other started

theorem SinceStart.step (registered : Registered sys s) (h : SinceStart log s) (fresh : FreshKey s action)
    (step : sys.step s action = some t) : SinceStart log t := by
  rcases sys.step_cases registered step with
    ⟨-, ⟨host, hhost, rfl⟩ | ⟨task, host, phase, effect, hhost, move, rfl⟩ | ⟨hall, collected, -, rfl⟩⟩ |
    ⟨write, task, put, -, hwrite, rfl⟩ | ⟨put, rfl, rfl⟩
  · refine ⟨h.kept, fun put hput task started => h.apart put hput task ?_⟩
    by_cases spawned : task = s.spawned
    · simp [FanoutState.setPhase, spawned, TaskPhase.started] at started
    · simpa [FanoutState.setPhase, Function.update_of_ne spawned] using started
  · exact h.move move fresh
  · exact ⟨h.kept, h.apart⟩
  · exact ⟨fun other hother => logPut_mono _ _ other (h.kept other hother), h.apart⟩
  · exact ⟨fun other hother => logPut_mono _ _ other (h.kept other hother), h.apart⟩

theorem sinceStart_run {trace : List (FanoutState × FanoutAction ε)} (run : Run sys.step (sys.start log) trace s)
    (fresh : ∀ p ∈ trace, FreshKey p.1 p.2) : SinceStart log s := by
  have both : Registered sys s ∧ SinceStart log s := by
    refine run.invariant (fun s => Registered sys s ∧ SinceStart log s) FreshKey ⟨Registered.initial sys log, ?_⟩ ?_ fresh
    · exact ⟨fun _ hput => hput, by simp [FanoutSystem.start, TaskPhase.started]⟩
    · rintro s action t ⟨registered, since⟩ fresh step
      exact ⟨registered.step step, since.step registered fresh step⟩
  exact both.2

end

section

variable {scanner : SshHostScanner} {inventory : List InventoryHost} {concurrency : Nat} {log : List Put}
  {trace : List (FanoutState × FanoutAction SshScanEnv)} {s : FanoutState}

/-- The exit code of a fan-out that returned: clean where every entry's one result is a success. -/
theorem fanoutExit_clean_iff {ε : Type} {sys : FanoutSystem ε} {trace : List (FanoutState × FanoutAction ε)}
    (run : Run sys.step (sys.start log) trace s) (returned : s.done = true) :
    (ScanCommand.reportFanout (s.results.map Prod.snd)).2 = .clean ↔ ∀ task host, sys.inventory[task]? = some host →
      ∃ result id, (task, result) ∈ s.results ∧ result.outcome = .succeeded id := by
  have accounting := (accounting_run run).1
  have tags : ∀ {task result}, (task, result) ∈ s.results ↔ result ∈ tagged task s.results := by
    intro task result
    simp [tagged]
  rw [reportFanout_clean_iff]
  constructor
  · intro clean task host hhost
    obtain ⟨result, one, -⟩ := accounting.accounted.reports returned task host hhost
    have hmem : (task, result) ∈ s.results := by rw [tags, one]; exact List.mem_singleton_self _
    obtain ⟨id, succeeded⟩ := clean result (List.mem_map_of_mem hmem)
    exact ⟨result, id, hmem, succeeded⟩
  · intro all result hresult
    obtain ⟨⟨task, _⟩, hmem, rfl⟩ := List.mem_map.mp hresult
    have inside := accounting.known _ hmem
    obtain ⟨own, id, howner, succeeded⟩ := all task _ (List.getElem?_eq_getElem inside)
    obtain ⟨only, one, -⟩ := accounting.accounted.reports returned task _ (List.getElem?_eq_getElem inside)
    rw [tags, one, List.mem_singleton] at howner hmem
    rw [hmem, ← howner]
    exact ⟨id, succeeded⟩

theorem scanFanout_records
    (run : Run (sshFanout scanner inventory concurrency).step ((sshFanout scanner inventory concurrency).start log) trace s)
    (fresh : ∀ p ∈ trace, FreshKey p.1 p.2) (returned : s.done = true)
    (clean : (ScanCommand.reportFanout (s.results.map Prod.snd)).2 = .clean) :
    ∃ records : List Put, records.Nodup ∧ (∀ put ∈ records, put ∈ s.log ∧ put ∉ log) ∧
      records.map (fun put => put.snapshot.hostId) = inventory.map InventoryHost.hostId ∧
      ∀ task put, records[task]? = some put → ∃ result, (task, result) ∈ s.results ∧
        result.hostId = put.snapshot.hostId ∧ result.outcome = .succeeded put.snapshot.scanId := by
  have own : ∀ task : Fin inventory.length, ∃ put, put ∈ s.log ∧ put.key = s.key task ∧
      put.snapshot.hostId = inventory[task].hostId ∧ ∃ result, (task.val, result) ∈ s.results ∧
        result.hostId = put.snapshot.hostId ∧ result.outcome = .succeeded put.snapshot.scanId := by
    intro task
    have entry : inventory[task.val]? = some inventory[task] := List.getElem?_eq_getElem task.isLt
    obtain ⟨result, id, hmem, succeeded⟩ := (fanoutExit_clean_iff run returned).mp clean task _ entry
    obtain ⟨host, put, hhost, hput, hkey, rfl, hnames, hid⟩ := hostId_run run fresh hmem succeeded
    obtain rfl := Option.some.inj (entry.symm.trans hhost)
    exact ⟨put, hput, hkey, hid, result, hmem, hnames.trans hid.symm, succeeded⟩
  choose record hlog hkey hid hresult using own
  have traced := traced_run (fun _ _ _ => True) run fresh fun _ _ _ _ _ _ _ _ _ => trivial
  obtain ⟨all, collected⟩ := (accounting_run run).1.done returned
  have started : ∀ task : Fin inventory.length, (s.phase task).started = true := by
    intro task
    have spawned : task.val < s.spawned := by
      rw [all]
      exact task.isLt
    rw [collected task spawned]
    rfl
  refine ⟨List.ofFn record, List.nodup_ofFn.mpr fun i j same => ?_, fun put hput => ?_, ?_, fun task put hput => ?_⟩
  · have keys : s.key i = s.key j := by rw [← hkey i, ← hkey j, same]
    exact Fin.ext (traced.distinct i j (started i) (started j) keys)
  · obtain ⟨task, rfl⟩ := (List.mem_ofFn' _ _).mp hput
    exact ⟨hlog task, fun old => (sinceStart_run run fresh).apart _ old task (started task) (hkey task).symm⟩
  · rw [List.map_ofFn]
    refine List.ext_getElem (by simp) fun task inRecords inInventory => ?_
    simp only [List.getElem_ofFn, Function.comp_apply, hid, List.getElem_map]
    rfl
  · obtain ⟨inRecords, rfl⟩ := List.getElem?_eq_some_iff.mp hput
    rw [List.getElem_ofFn]
    exact hresult ⟨task, _⟩

/-- The line that a success is printed on. -/
def successLine (hostId : HostId) (strategy : TargetStrategy) (scanId : ScanId) : String :=
  "host " ++ uuidText hostId.uuid ++ ": scanned (" ++ strategy.debug ++ "); snapshot " ++ uuidText scanId.uuid ++
    " persisted\n"

theorem successLine_printed {result : HostResult} {results : List HostResult} (hmem : result ∈ results) {id : ScanId}
    (succeeded : result.outcome = .succeeded id) :
    utf8 (successLine result.hostId result.strategyUsed id) <:+: (ScanCommand.reportFanout results).1 := by
  have line : ScanCommand.hostLine result = successLine result.hostId result.strategyUsed id := by
    simp [ScanCommand.hostLine, successLine, succeeded, String.append_assoc]
  rw [← line]
  obtain ⟨before, after, rfl⟩ := List.append_of_mem hmem
  refine ⟨utf8 (String.join (before.map ScanCommand.hostLine)), utf8 (String.join (after.map ScanCommand.hostLine)), ?_⟩
  simp [ScanCommand.reportFanout, utf8_append, String.join_append]

/-- The exit code behind the fan-out is clean just where each entry's one result is a success, else it is an operational
error. A clean exit stands for a new record of each entry: one that was not there before, is from the entry's host and
has the id on the line that the command printed for it. No two entries share a record. -/
theorem scanFanout_exit
    (run : Run (sshFanout scanner inventory concurrency).step ((sshFanout scanner inventory concurrency).start log) trace s)
    (fresh : ∀ p ∈ trace, FreshKey p.1 p.2) (returned : s.done = true) {exitCode : ExitCode}
    (exits : (ScanCommand.reportFanout (s.results.map Prod.snd)).2 = exitCode) :
    (exitCode = .clean ↔ ∀ task host, inventory[task]? = some host → ∃ result id, (task, result) ∈ s.results ∧
      result.outcome = .succeeded id) ∧ (exitCode ≠ .clean → exitCode = .operationalError) ∧
    (exitCode = .clean → ∃ records : List Put, records.Nodup ∧ (∀ put ∈ records, put ∈ s.log ∧ put ∉ log) ∧
      records.map (fun put => put.snapshot.hostId) = inventory.map InventoryHost.hostId ∧
      ∀ task put, records[task]? = some put → ∃ result, (task, result) ∈ s.results ∧
        result.outcome = .succeeded put.snapshot.scanId ∧
        utf8 (successLine put.snapshot.hostId result.strategyUsed put.snapshot.scanId) <:+:
          (ScanCommand.reportFanout (s.results.map Prod.snd)).1) := by
  subst exits
  refine ⟨fanoutExit_clean_iff run returned, fun failed => ?_, fun clean => ?_⟩
  · unfold ScanCommand.reportFanout at failed ⊢
    by_cases some : 0 < ScanCommand.failures (s.results.map Prod.snd)
    · exact if_pos some
    · exact absurd (if_neg some) failed
  · obtain ⟨records, distinct, new, hosts, reported⟩ := scanFanout_records run fresh returned clean
    refine ⟨records, distinct, new, hosts, fun task put hput => ?_⟩
    obtain ⟨result, hmem, names, succeeded⟩ := reported task put hput
    have among : result ∈ s.results.map Prod.snd := List.mem_map_of_mem hmem
    have printed := successLine_printed among succeeded
    rw [names] at printed
    exact ⟨result, hmem, succeeded, printed⟩

/-- Each `Execute` scan of a run has met a remote that ran the scan of `scan --emit-json`. -/
def CollectsQuietly (sent : SshScanEnv → ScanSnapshot) : FanoutAction SshScanEnv → Prop
  | .scanned _ met => ∃ crates version stamp host, scanLocal crates version stamp .emitJsonOnly .default host = .ok (sent met)
  | _ => True

/-- What a remote built that ran the quiet scan. -/
theorem builtRemotely_private {sent : SshScanEnv → ScanSnapshot} (quiet : ∀ p ∈ trace, CollectsQuietly sent p.2)
    {host : InventoryHost} {snapshot : ScanSnapshot} (built : BuiltRemotely inventory sent trace host .execute snapshot) :
    snapshot.strategy = .execute ∧ ∀ endpoint ∈ snapshot.endpoints, endpoint.processPath = none ∧
      endpoint.signatureStatus = .unknown ∧ endpoint.commandLine = none := by
  obtain ⟨p, hp, task, met, haction, -, rfl⟩ := built rfl
  have collects := quiet p hp
  rw [haction] at collects
  obtain ⟨crates, version, stamp, scanned, hscan⟩ := collects
  obtain ⟨-, -, -, strategy⟩ := scanLocal_endpoints hscan
  refine ⟨strategy, fun endpoint hendpoint => ?_⟩
  have hides := scanLocal_hides hscan hendpoint
  exact ⟨(hides.path rfl).1, (hides.path rfl).2, hides.commandLine rfl⟩

/-- What the store keeps under the key of an entry scanned with `Execute`, late puts included, has no path, no command
line and no publisher of a process, since the command that runs on the remotes asks for none. An entry reported as a
success has such a record. -/
theorem executedRecords_private {wire : WireLibs} {session : SshScanEnv → RemoteCommand → ExecSession}
    {sent : SshScanEnv → ScanSnapshot}
    (run : Run (sshFanout scanner inventory concurrency).step ((sshFanout scanner inventory concurrency).start log) trace s)
    (fresh : ∀ p ∈ trace, FreshKey p.1 p.2) (viaSsh : ∀ p ∈ trace, SentOver wire session sent p.1 p.2)
    (quiet : ∀ p ∈ trace, CollectsQuietly sent p.2) :
    (∀ put ∈ s.log, ∀ task, (s.phase task).started = true → put.key = s.key task → s.resolvedStrategy task = .execute →
      put.snapshot.strategy = .execute ∧ ∀ endpoint ∈ put.snapshot.endpoints, endpoint.processPath = none ∧
        endpoint.signatureStatus = .unknown ∧ endpoint.commandLine = none) ∧
    ∀ task result id, (task, result) ∈ s.results → result.outcome = .succeeded id → result.strategyUsed = .execute →
      ∃ put ∈ s.log, put.key = s.key task ∧ put.snapshot.scanId = id ∧ put.snapshot.strategy = .execute ∧
        ∀ endpoint ∈ put.snapshot.endpoints, endpoint.processPath = none ∧ endpoint.signatureStatus = .unknown ∧
          endpoint.commandLine = none := by
  have traced := executed_traced run fresh viaSsh
  constructor
  · intro put hput task started hkey executed
    obtain ⟨host, -, built⟩ := traced.record hput started hkey
    rw [executed] at built
    exact builtRemotely_private quiet built
  · intro task result id hmem succeeded executed
    obtain ⟨host, put, -, hput, hkey, hid, -, built⟩ := traced.success hmem succeeded
    rw [executed] at built
    exact ⟨put, hput, hkey, hid, builtRemotely_private quiet built⟩

end

/-- A host whose firewall cannot be read. -/
def unreadable (processes : ProcessTable) (verdict : SignatureStatus) : LocalHost :=
  listenerHost processes verdict (.error (.policyUnavailable "permission denied"))

def listenerCommand : ScanCommandEnv where
  crates := ⟨fun _ => none, fun _ => 5⟩
  wire := listenerWire none 0
  version := "1.0.0"
  stamp := ⟨⟨9⟩, ⟨7⟩, ⟨0, 0⟩⟩
  loadConfig _ := .error "no such file"
  host := unreadable nginxTable .notApplicable
  readInventory _ := .error "no such file"
  parseInventory _ := .ok []
  knownHosts := .ok ⟨[], []⟩
  scanner := .ok listenerScanner
  store := .ok fun snapshot => .ok snapshot.scanId
  stdoutTakes := none

theorem scanHere_listener : ScanCommand.scanHere listenerCommand .emitJsonOnly .default = .ok (listenerScan none) := by
  have scans : quietScan (unreadable nginxTable .notApplicable) = .ok (listenerScan none) := by decide
  exact scans

theorem run_listener : ScanCommand.run listenerCommand .emitJsonOnly =
    .exits (emitJson (listenerWire none 0) (listenerScan none)) none .clean := by
  have config : ScanCommand.resolveConfig listenerCommand .emitJsonOnly = .ok .default := rfl
  have whole : ∀ bytes, listenerCommand.writeStdout bytes = (bytes, true) := fun _ => rfl
  have wire : listenerCommand.wire = listenerWire none 0 := rfl
  have asks : ScanArgs.emitJsonOnly.emitJson = true ∧ (ScanArgs.emitJsonOnly.inventory.isSome ||
      ScanArgs.emitJsonOnly.target.isSome) = false := by decide
  simp only [ScanCommand.run, config, asks.1, if_true, ScanCommand.runEmitJson, asks.2, scanHere_listener, whole, wire,
    Bool.false_eq_true, if_false]

theorem listenerCommand_reads : ∀ config snapshot, ScanCommand.resolveConfig listenerCommand .emitJsonOnly = .ok config →
    ScanCommand.scanHere listenerCommand .emitJsonOnly config = .ok snapshot → listenerCommand.wire.Reads snapshot := by
  rintro _ snapshot ⟨⟩ hscan
  rw [scanHere_listener] at hscan
  cases hscan
  exact listenerWire_reads none 0

/-- Not even the platform shows. -/
theorem scan_private_listener :
    ScanCommand.run (listenerCommand.on (unreadable (.windowsPowerShell [⟨42, some "C:\\nginx.exe", none⟩]) .unsigned)) .emitJsonOnly =
      ScanCommand.run (listenerCommand.on (unreadable nginxTable .notApplicable)) .emitJsonOnly := by
  refine scan_private ?_
  rintro _ ⟨⟩
  exact ⟨rfl, .inr ⟨_, _, rfl, rfl, .cons ⟨rfl, nofun, nofun⟩ .nil⟩, rfl, nofun, rfl, rfl⟩

theorem scanFanout_exit_listener : ∃ trace s,
    Run (sshFanout listenerScanner [⟨⟨1⟩⟩] 1).step ((sshFanout listenerScanner [⟨⟨1⟩⟩] 1).start []) trace s ∧
      (ScanCommand.reportFanout (s.results.map Prod.snd)).2 = .clean ∧ ∃ put ∈ s.log, put.snapshot.hostId = ⟨1⟩ := by
  obtain ⟨cap, trace, s, run, results, done, fresh, -, -⟩ := executedActions_listener none
  have clean : (ScanCommand.reportFanout (s.results.map Prod.snd)).2 = .clean := by rw [results]; rfl
  obtain ⟨records, -, stored, hosts, -⟩ := (scanFanout_exit run fresh done clean).2.2 rfl
  obtain ⟨put, rest, rfl, hhost, -⟩ := List.map_eq_cons_iff.mp hosts
  exact ⟨trace, s, run, clean, put, (stored put List.mem_cons_self).1, hhost⟩

theorem executedRecords_private_listener : ∃ trace s, ∃ put : Put,
    Run (sshFanout listenerScanner [⟨⟨1⟩⟩] 1).step ((sshFanout listenerScanner [⟨⟨1⟩⟩] 1).start []) trace s ∧ put ∈ s.log ∧
      put.snapshot.scanId = ⟨7⟩ ∧ ∀ endpoint ∈ put.snapshot.endpoints, endpoint.commandLine = none := by
  obtain ⟨cap, trace, s, run, results, -, fresh, actions, viaSsh⟩ := executedActions_listener none
  have quiet : ∀ p ∈ trace, CollectsQuietly (fun _ => listenerScan none) p.2 := by
    intro p hp
    cases p.2 with
    | scanned task met => exact ⟨_, _, _, _, scanHere_listener⟩
    | _ => trivial
  obtain ⟨put, hput, -, hid, -, hides⟩ :=
    (executedRecords_private run fresh viaSsh quiet).2 0 _ ⟨7⟩ (by rw [results]; exact .head _) rfl rfl
  exact ⟨trace, s, put, run, hput, hid, fun endpoint h => (hides endpoint h).2.2⟩

end AnneDeBreuil
