import AnneDeBreuil.IndexBy
import AnneDeBreuil.Memo
import AnneDeBreuil.PsCollector

namespace AnneDeBreuil

/-- The fields a collector leaves out unless it is asked for them. -/
structure RedactionPolicy where
  includeCommandLine : Bool
  includeExecutablePath : Bool
  includeServicePath : Bool
  includeDisabledFirewallRules : Bool
deriving DecidableEq, Repr

/-- A process as `sysinfo` has it, with what the link `/proc/<pid>/exe` says where it can be read. -/
structure SysProcess where
  pid : UInt32
  exe : Option String
  exeLink : Option String
  cmd : List String
deriving DecidableEq, Repr

/-- The process table, a map by the pid. -/
structure System where
  processes : List SysProcess
  distinct : (processes.map SysProcess.pid).Nodup

def commandLineOf (cmd : List String) : Option String := if cmd = [] then none else some (" ".intercalate cmd)

def SysProcess.linux (policy : RedactionPolicy) (process : SysProcess) : RawProcess where
  pid := process.pid
  path := if policy.includeExecutablePath then process.exeLink.or process.exe else none
  commandLine := if policy.includeCommandLine then commandLineOf process.cmd else none

def SysProcess.windows (policy : RedactionPolicy) (process : SysProcess) : RawProcess where
  pid := process.pid
  path := if policy.includeExecutablePath then process.exe else none
  commandLine := if policy.includeCommandLine then commandLineOf process.cmd else none

/-- The map of the processes by their pids. -/
def buildProcessMap (raw : SysProcess → RawProcess) (system : System) (pid : UInt32) : Option RawProcess :=
  indexBy RawProcess.pid (system.processes.map raw) pid

def pushService (grouped : UInt32 → List RawService) (record : HostedService) : UInt32 → List RawService :=
  Function.update grouped record.processId (grouped record.processId ++ [record.service])

/-- The services of `EnumServicesStatusExW` by the processes that run them. -/
def groupByPid (records : List HostedService) : UInt32 → List RawService := records.foldl pushService fun _ => []

/-- The last segment of the path of a cgroup line that names a service. -/
def extractFromCgroupLine (line : List Char) : Option (List Char) := do
  let (_, line) ← splitOnce ':' line
  let (_, path) ← splitOnce ':' line
  (path.splitOn '/').reverse.find? fun segment => ".service".toList.isSuffixOf segment

def extractSystemdUnitFromCgroup (contents : String) : Option String :=
  ((lines contents.toList).findSome? extractFromCgroupLine).map String.ofList

/-- What comes of reading `/proc/<pid>/cgroup`. -/
inductive CgroupRead
  | contents (text : String)
  | notFound
  | failed (message : String)
deriving DecidableEq, Repr

def hostedServicesForPid : CgroupRead → Except CollectorError (List RawService)
  | .contents text => .ok ((extractSystemdUnitFromCgroup text).toList.map fun name => ⟨name, name⟩)
  | .notFound => .ok []
  | .failed message => .error (.parse message)

/-- What a call meets that takes a snapshot: its blocking task panics, or sees the host as it is then. -/
structure WindowsHost where
  panicked : Option String
  system : System
  services : Except CollectorError (List HostedService)

inductive ResolverCall
  | describe (pid : ProcessId)
  | hostedServices (pid : ProcessId)
deriving DecidableEq, Repr

/-- The two caches of `WindowsProcessResolver`. -/
inductive WindowsCell
  | processes
  | servicesByPid
deriving DecidableEq, Repr

def ResolverCall.cell : ResolverCall → WindowsCell
  | .describe _ => .processes
  | .hostedServices _ => .servicesByPid

def WindowsCell.Snapshot : WindowsCell → Type
  | .processes => UInt32 → Option RawProcess
  | .servicesByPid => UInt32 → List RawService

/-- `process_snapshot` and `services_snapshot` where nothing is cached. -/
def WindowsCell.snapshot (policy : RedactionPolicy) (host : WindowsHost) : (cell : WindowsCell) →
    Except CollectorError cell.Snapshot
  | .processes =>
    match host.panicked with
    | some message => .error (.parse message)
    | none => .ok (buildProcessMap (SysProcess.windows policy) host.system)
  | .servicesByPid =>
    match host.panicked with
    | some message => .error (.parse message)
    | none => host.services.map groupByPid

def windowsResolver {ι : Type} (policy : RedactionPolicy) (calls : ι → ResolverCall) :
    Memo ι WindowsCell WindowsHost CollectorError WindowsCell.Snapshot where
  key i := (calls i).cell
  compute cell host := cell.snapshot policy host
  shared := true

/-- The answer of a call from its snapshot. -/
def ResolverCall.reply : (call : ResolverCall) → call.cell.Snapshot → CollectorReply
  | .describe pid, processes => .process (processes pid.get)
  | .hostedServices pid, grouped => .services (grouped pid.get)

/-- The same call on a `PowerShellCollector`. -/
def ResolverCall.toCollectorCall : ResolverCall → CollectorCall
  | .describe pid => .describe pid
  | .hostedServices pid => .hostedServices pid

/-- `LinuxProcessResolver::describe`, each call of one pid; a snapshot is taken of a system unless its
task panics. -/
def linuxResolver {ι : Type} (policy : RedactionPolicy) :
    Memo ι Unit (Except String System) CollectorError fun _ => UInt32 → Option RawProcess where
  key _ := ()
  compute _ met := (met.mapError .parse).map (buildProcessMap (SysProcess.linux policy))
  shared := true

/-- What `WinVerifyTrust` and the walk to the signer's name say of a file, unless the task panics. -/
structure TrustAnswer where
  verifyResult : Int32
  publisherName : Option PublisherName
deriving DecidableEq, Repr

def verifyFile (answer : TrustAnswer) : SignatureStatus :=
  if answer.verifyResult = 0 then
    match answer.publisherName with
    | some publisher => .signed publisher
    | none => .unknown
  else .unsigned

/-- `WinTrustSignatureVerifier::verify`, each call of one path. A call that verified answers with its
own verdict, also where another's is kept. -/
def winTrustVerifier {ι : Type} (paths : ι → ProcessPath) :
    Memo ι String (Except String TrustAnswer) CollectorError fun _ => SignatureStatus where
  key i := (paths i).asStr
  compute _ met := (met.mapError .parse).map verifyFile
  shared := false

/-- The unit of a cgroup line is the service segment that is closest to the leaf of its path. -/
theorem extractFromCgroupLine_eq_some_iff {line unit : List Char} : extractFromCgroupLine line = some unit ↔
    ∃ hierarchy controllers path above below, line = hierarchy ++ ':' :: (controllers ++ ':' :: path) ∧ ':' ∉ hierarchy ∧
      ':' ∉ controllers ∧ path.splitOn '/' = above ++ unit :: below ∧ ".service".toList <:+ unit ∧
      ∀ segment ∈ below, ¬".service".toList <:+ segment := by
  have last : ∀ path : List Char, (path.splitOn '/').reverse.find? (fun segment => ".service".toList.isSuffixOf segment) = some unit ↔
      ∃ above below, path.splitOn '/' = above ++ unit :: below ∧ ".service".toList <:+ unit ∧
        ∀ segment ∈ below, ¬".service".toList <:+ segment := by
    intro path
    have other : ∀ segment : List Char, (!".service".toList.isSuffixOf segment) = true ↔ ¬".service".toList <:+ segment := by
      intro segment
      rw [Bool.not_eq_true', ← Bool.not_eq_true, List.isSuffixOf_iff_suffix]
    simp only [List.find?_eq_some_iff_append, List.isSuffixOf_iff_suffix, other]
    constructor
    · rintro ⟨service, below, above, segments, leaf⟩
      refine ⟨above.reverse, below.reverse, ?_, service, fun segment hsegment => ?_⟩
      · rw [← List.reverse_reverse (path.splitOn '/'), segments]
        simp
      · exact leaf segment (List.mem_reverse.mp hsegment)
    · rintro ⟨above, below, segments, service, leaf⟩
      refine ⟨service, below.reverse, above.reverse, by simp [segments], fun segment hsegment => ?_⟩
      exact leaf segment (List.mem_reverse.mp hsegment)
  simp only [extractFromCgroupLine, Option.bind_eq_bind, Option.bind_eq_some_iff, Prod.exists, splitOnce_eq_some, last]
  constructor
  · rintro ⟨hierarchy, rest, ⟨rfl, first⟩, controllers, path, ⟨rfl, second⟩, above, below, leaf⟩
    exact ⟨hierarchy, controllers, path, above, below, rfl, first, second, leaf⟩
  · rintro ⟨hierarchy, controllers, path, above, below, rfl, first, second, leaf⟩
    exact ⟨hierarchy, _, ⟨rfl, first⟩, controllers, path, ⟨rfl, second⟩, above, below, leaf⟩

example : hostedServicesForPid (.contents "12:pids:/init.scope\n0::/user.slice/user@1000.service/app.slice/a.scope\n") =
    .ok [⟨"user@1000.service", "user@1000.service"⟩] := by decide

section

variable {policy : RedactionPolicy}

theorem indexBy_eq_find {V : Type} {key : V → UInt32} {xs : List V} (distinct : (xs.map key).Nodup) (k : UInt32) :
    indexBy key xs k = xs.find? (fun x => key x == k) := by
  cases hfind : xs.find? (fun x => key x == k) with
  | none =>
    rw [List.find?_eq_none] at hfind
    exact indexBy_none.mpr fun x hx same => hfind x hx (by simp [same])
  | some x =>
    have hkey : key x = k := by simpa using List.find?_some hfind
    rw [← hkey]
    exact indexBy_of_nodup distinct (List.mem_of_find?_eq_some hfind)

/-- The map has the process of a pid that the table has. -/
theorem buildProcessMap_eq {raw : SysProcess → RawProcess} (pids : ∀ process, (raw process).pid = process.pid)
    (system : System) (pid : UInt32) :
    buildProcessMap raw system pid = (system.processes.map raw).find? fun process => process.pid == pid := by
  refine indexBy_eq_find ?_ pid
  rw [List.map_map]
  have same : RawProcess.pid ∘ raw = SysProcess.pid := funext pids
  rw [same]
  exact system.distinct

theorem groupByPid_eq (records : List HostedService) (pid : UInt32) : groupByPid records pid =
    (records.filter fun record => record.processId == pid).map HostedService.service := by
  have grown : ∀ grouped : UInt32 → List RawService, records.foldl pushService grouped pid =
      grouped pid ++ (records.filter fun record => record.processId == pid).map HostedService.service := by
    induction records with
    | nil => simp
    | cons record records ih =>
      intro grouped
      rw [List.foldl_cons, ih, pushService]
      by_cases same : record.processId = pid
      · simp [same]
      · simp [same, Function.update_of_ne (Ne.symm same)]
  exact grown fun _ => []

/-- A process whose fields are left out that were not asked for. -/
def RedactionPolicy.Covers (policy : RedactionPolicy) (process : RawProcess) : Prop :=
  (policy.includeExecutablePath = false → process.path = none) ∧
    (policy.includeCommandLine = false → process.commandLine = none)

theorem SysProcess.windows_covered (process : SysProcess) : policy.Covers (process.windows policy) := by
  constructor <;> intro off <;> simp [SysProcess.windows, off]

theorem SysProcess.linux_covered (process : SysProcess) : policy.Covers (process.linux policy) := by
  constructor <;> intro off <;> simp [SysProcess.linux, off]

end

section

variable {ι : Type} [DecidableEq ι] {policy : RedactionPolicy}

/-- What a `WindowsProcessResolver` has answered a call. -/
def windowsReplied {calls : ι → ResolverCall} (s : MemoState (windowsResolver policy calls)) (i : ι) (reply : CollectorReply) :
    Prop :=
  ∃ snapshot, s.phase i = .returned (.ok snapshot) ∧ reply = (calls i).reply snapshot

/-- Some call met this host while it took a snapshot for the cell. -/
def SnapshotOf {calls : ι → ResolverCall}
    (trace : List (MemoState (windowsResolver policy calls) × (ι × MemoEvent WindowsHost))) (cell : WindowsCell)
    (host : WindowsHost) : Prop :=
  ∃ i, (calls i).cell = cell ∧ ∃ p ∈ trace, p.2 = (i, .compute host)

variable {calls : ι → ResolverCall} {trace : List (MemoState (windowsResolver policy calls) × (ι × MemoEvent WindowsHost))}
  {s : MemoState (windowsResolver policy calls)}

/-- What a cell keeps is what one of its calls has seen. -/
theorem windowsResolver_kept (run : Run (windowsResolver policy calls).step (windowsResolver policy calls).start trace s)
    {cell : WindowsCell} {snapshot : cell.Snapshot} (h : s.stored cell = some snapshot) :
    ∃ host, SnapshotOf trace cell host ∧ cell.snapshot policy host = .ok snapshot := by
  obtain ⟨i, hcell, ⟨host, ok, seen⟩, -⟩ := (Memo.sound_run run).stored cell snapshot h
  exact ⟨host, ⟨i, hcell, seen⟩, ok⟩

theorem windowsResolver_replied (run : Run (windowsResolver policy calls).step (windowsResolver policy calls).start trace s)
    {i : ι} {reply : CollectorReply} (h : windowsReplied s i reply) :
    ∃ snapshot, s.stored (calls i).cell = some snapshot ∧ reply = (calls i).reply snapshot := by
  obtain ⟨snapshot, returned, rfl⟩ := h
  obtain ⟨held, kept, rfl | ⟨own, -⟩⟩ := (Memo.sound_run run).answered i snapshot returned
  · exact ⟨snapshot, kept, rfl⟩
  · cases own

theorem WindowsCell.processes_ok {host : WindowsHost} {map : WindowsCell.processes.Snapshot}
    (h : WindowsCell.processes.snapshot policy host = .ok map) :
    host.panicked = none ∧ map = buildProcessMap (SysProcess.windows policy) host.system := by
  simp only [WindowsCell.snapshot] at h
  split at h
  next => cases h
  next calm => exact ⟨calm, (Except.ok.inj h).symm⟩

theorem WindowsCell.services_ok {host : WindowsHost} {grouped : WindowsCell.servicesByPid.Snapshot}
    (h : WindowsCell.servicesByPid.snapshot policy host = .ok grouped) :
    host.panicked = none ∧ ∃ records, host.services = .ok records ∧ grouped = groupByPid records := by
  simp only [WindowsCell.snapshot] at h
  split at h
  next => cases h
  next calm =>
    refine ⟨calm, ?_⟩
    cases hservices : host.services with
    | error e =>
      rw [hservices] at h
      cases h
    | ok records =>
      rw [hservices] at h
      exact ⟨records, rfl, (Except.ok.inj h).symm⟩

/-- No call that is answered from the cell has been answered. -/
def Unanswered {calls : ι → ResolverCall} (s : MemoState (windowsResolver policy calls)) (cell : WindowsCell) : Prop :=
  ∀ i reply, windowsReplied s i reply → (calls i).cell ≠ cell

/-- A payload that the calls on one resolver are answered from, as if it were a `PowerShellCollector`: its
processes and its services are each what one of the calls has seen, and empty only there, or where no
call was answered from them. -/
structure WindowsPayload {calls : ι → ResolverCall}
    (trace : List (MemoState (windowsResolver policy calls) × (ι × MemoEvent WindowsHost)))
    (s : MemoState (windowsResolver policy calls)) (payload : PowerShellPayload) : Prop where
  processes : (Unanswered s .processes ∧ payload.processes = []) ∨ ∃ host, SnapshotOf trace .processes host ∧
    host.panicked = none ∧ payload.processes = host.system.processes.map (SysProcess.windows policy)
  services : (Unanswered s .servicesByPid ∧ payload.services = []) ∨ ∃ host, SnapshotOf trace .servicesByPid host ∧
    host.panicked = none ∧ host.services = .ok payload.services
  covered : ∀ process ∈ payload.processes, policy.Covers process
  answered : ∀ i reply, windowsReplied s i reply → reply = (calls i).toCollectorCall.answer payload
  failed : ∀ i e, s.phase i = .returned (.error e) → ∃ host, (∃ p ∈ trace, p.2 = (i, .compute host)) ∧
    (calls i).cell.snapshot policy host = .error e

theorem unanswered_of_empty (run : Run (windowsResolver policy calls).step (windowsResolver policy calls).start trace s)
    {cell : WindowsCell} (empty : s.stored cell = none) : Unanswered s cell := by
  rintro i reply replied rfl
  obtain ⟨snapshot, kept, -⟩ := windowsResolver_replied run replied
  rw [kept] at empty
  cases empty

theorem windowsResolver_processes (run : Run (windowsResolver policy calls).step (windowsResolver policy calls).start trace s) :
    ∃ processes : List RawProcess, ((Unanswered s .processes ∧ processes = []) ∨ ∃ host, SnapshotOf trace .processes host ∧
        host.panicked = none ∧ processes = host.system.processes.map (SysProcess.windows policy)) ∧
      ∀ map, s.stored .processes = some map → ∀ pid, map pid = processes.find? fun process => process.pid == pid := by
  cases kept : s.stored .processes with
  | none => exact ⟨[], .inl ⟨unanswered_of_empty run kept, rfl⟩, nofun⟩
  | some map =>
    obtain ⟨host, seen, ok⟩ := windowsResolver_kept run kept
    obtain ⟨calm, same⟩ := WindowsCell.processes_ok ok
    refine ⟨_, .inr ⟨host, seen, calm, rfl⟩, fun other held pid => ?_⟩
    rw [← Option.some.inj held, same]
    exact buildProcessMap_eq (fun _ => rfl) host.system pid

theorem windowsResolver_services (run : Run (windowsResolver policy calls).step (windowsResolver policy calls).start trace s) :
    ∃ services : List HostedService, ((Unanswered s .servicesByPid ∧ services = []) ∨ ∃ host, SnapshotOf trace .servicesByPid host ∧
        host.panicked = none ∧ host.services = .ok services) ∧
      ∀ grouped, s.stored .servicesByPid = some grouped → ∀ pid,
        grouped pid = (services.filter fun record => record.processId == pid).map HostedService.service := by
  cases kept : s.stored .servicesByPid with
  | none => exact ⟨[], .inl ⟨unanswered_of_empty run kept, rfl⟩, nofun⟩
  | some grouped =>
    obtain ⟨host, seen, ok⟩ := windowsResolver_kept run kept
    obtain ⟨calm, records, listed, rfl⟩ := WindowsCell.services_ok ok
    refine ⟨records, .inr ⟨host, seen, calm, listed⟩, fun other same pid => ?_⟩
    rw [← Option.some.inj same]
    exact groupByPid_eq records pid

/-- Concurrent calls on one native resolver are answered as a `PowerShellCollector` answers from a payload. -/
theorem windowsResolver_run (run : Run (windowsResolver policy calls).step (windowsResolver policy calls).start trace s) :
    ∃ payload, WindowsPayload trace s payload := by
  obtain ⟨processes, fromTable, described⟩ := windowsResolver_processes run
  obtain ⟨services, fromList, hosted⟩ := windowsResolver_services run
  refine ⟨⟨.full, [], [], processes, services, [], []⟩, fromTable, fromList, ?_, fun i reply replied => ?_, fun i e failed => ?_⟩
  · rcases fromTable with ⟨-, rfl⟩ | ⟨host, -, -, rfl⟩
    · nofun
    · simp only [List.forall_mem_map]
      exact fun process _ => process.windows_covered
  · obtain ⟨snapshot, kept, rfl⟩ := windowsResolver_replied run replied
    have answers : ∀ (call : ResolverCall) (snapshot : call.cell.Snapshot), s.stored call.cell = some snapshot →
        call.reply snapshot = call.toCollectorCall.answer ⟨.full, [], [], processes, services, [], []⟩ := by
      intro call snapshot kept
      cases call with
      | describe pid => exact congrArg CollectorReply.process (described snapshot kept pid.get)
      | hostedServices pid => exact congrArg CollectorReply.services (hosted snapshot kept pid.get)
    exact answers (calls i) snapshot kept
  · obtain ⟨host, error, seen⟩ := (Memo.sound_run run).failed i e failed
    exact ⟨host, seen, error⟩

end

section

variable {ι : Type} [DecidableEq ι]

/-- On Linux too all descriptions come from one table. -/
theorem linuxResolver_run {policy : RedactionPolicy}
    {trace : List (MemoState (linuxResolver (ι := ι) policy) × (ι × MemoEvent (Except String System)))}
    {s : MemoState (linuxResolver (ι := ι) policy)} (run : Run (linuxResolver policy).step (linuxResolver policy).start trace s) :
    ∃ processes : List RawProcess, (∀ process ∈ processes, policy.Covers process) ∧ ∀ i map, s.phase i = .returned (.ok map) →
      ∀ pid, map pid = processes.find? fun process => process.pid == pid := by
  have sound := Memo.sound_run run
  have kept : ∀ i map, s.phase i = .returned (.ok map) → s.stored () = some map := by
    intro i map returned
    obtain ⟨held, kept, rfl | ⟨own, -⟩⟩ := sound.answered i map returned
    · exact kept
    · cases own
  cases table : s.stored () with
  | none =>
    refine ⟨[], nofun, fun i map returned => ?_⟩
    rw [kept i map returned] at table
    cases table
  | some map =>
    obtain ⟨_, -, ⟨met, ok, -⟩, -⟩ := sound.stored () map table
    cases met with
    | error message => cases ok
    | ok system =>
      refine ⟨system.processes.map (SysProcess.linux policy), ?_, fun i other returned pid => ?_⟩
      · simp only [List.forall_mem_map]
        exact fun process _ => process.linux_covered
      · rw [kept i other returned] at table
        rw [Option.some.inj table, ← Except.ok.inj ok]
        exact buildProcessMap_eq (fun _ => rfl) system pid

/-- What a verifier's answers are worth. A file counts as signed only where its own path was verified and
`WinVerifyTrust` accepted it. Two calls that race may answer apart; a call that finds a verdict gives that one. -/
structure VerdictsOf {paths : ι → ProcessPath}
    (trace : List (MemoState (winTrustVerifier paths) × (ι × MemoEvent (Except String TrustAnswer))))
    (s : MemoState (winTrustVerifier paths)) : Prop where
  verified : ∀ i status, s.phase i = .returned (.ok status) → ∃ j answer, (paths j).asStr = (paths i).asStr ∧
    status = verifyFile answer ∧ ∃ p ∈ trace, p.2 = (j, .compute (.ok answer))
  found : ∀ p ∈ trace, p.2.2 = .check → ∀ status, p.1.stored (paths p.2.1).asStr = some status →
    s.phase p.2.1 = .returned (.ok status) ∧ s.stored (paths p.2.1).asStr = some status ∧ ∀ q ∈ trace, q.2.1 = p.2.1 → q = p

theorem winTrustVerifier_run {paths : ι → ProcessPath}
    {trace : List (MemoState (winTrustVerifier paths) × (ι × MemoEvent (Except String TrustAnswer)))}
    {s : MemoState (winTrustVerifier paths)} (run : Run (winTrustVerifier paths).step (winTrustVerifier paths).start trace s) :
    VerdictsOf trace s where
  verified i status returned := by
    have sound := Memo.sound_run run
    have answer : ∀ {j path} {status : SignatureStatus}, (winTrustVerifier paths).Computed trace j path (.ok status) →
        ∃ answer, status = verifyFile answer ∧ ∃ p ∈ trace, p.2 = (j, .compute (.ok answer)) := by
      rintro j path status ⟨met, ok, seen⟩
      cases met with
      | error message => cases ok
      | ok answer => exact ⟨answer, (Except.ok.inj ok).symm, seen⟩
    obtain ⟨held, kept, rfl | ⟨-, own⟩⟩ := sound.answered i status returned
    · obtain ⟨j, path, computed, -⟩ := sound.stored _ status kept
      obtain ⟨verdict, rfl, seen⟩ := answer computed
      exact ⟨j, verdict, path, rfl, seen⟩
    · obtain ⟨verdict, rfl, seen⟩ := answer own
      exact ⟨i, verdict, rfl, rfl, seen⟩
  found p hp check status held := by
    obtain ⟨u, hu, later, rest⟩ := run.behind hp
    refine ⟨(Memo.hit_run run hp check held hp rfl).2, ?_, fun q hq same => (Memo.hit_run run hp check held hq same).1⟩
    exact Memo.run_keeps rest (Memo.step_keeps hu held)

end

/-- A host of one process, whose image and arguments tell when it was seen. -/
def hostOf (name : String) : WindowsHost where
  panicked := none
  system := ⟨[⟨42, some name, none, [name, "-k"]⟩], List.nodup_singleton _⟩
  services := .ok [⟨42, ⟨"Dnscache", ""⟩⟩]

def onlyPaths : RedactionPolicy := ⟨false, true, false, false⟩

def twoDescribes : Memo Bool WindowsCell WindowsHost CollectorError WindowsCell.Snapshot :=
  windowsResolver onlyPaths fun _ => .describe ⟨42⟩

/-- Two calls see the process table at different times; the slower one's table is dropped. -/
theorem windowsResolver_rivals : ∃ trace, ∃ s : MemoState twoDescribes, ∃ payload, WindowsPayload trace s payload ∧
    ∀ i, windowsReplied s i (.process (some ⟨42, some "new", none⟩)) := by
  have ends : runList twoDescribes.step twoDescribes.start [(false, .check), (true, .check), (false, .compute (hostOf "old")),
    (true, .compute (hostOf "new")), (true, .store), (false, .store)] = some _ := rfl
  obtain ⟨payload, answers⟩ := windowsResolver_run (Run.of_stepsOf ends)
  refine ⟨_, _, payload, answers, fun i => ?_⟩
  cases i <;> exact ⟨_, rfl, rfl⟩

def threeVerifies : Memo (Fin 3) String (Except String TrustAnswer) CollectorError fun _ => SignatureStatus :=
  winTrustVerifier fun _ => ⟨"C:\\svc.exe"⟩

/-- The file is replaced while two calls race: they answer apart, and the next call like the one that was first. -/
theorem winTrustVerifier_rivals : ∃ trace, ∃ s : MemoState threeVerifies, VerdictsOf trace s ∧
    s.phase 0 = .returned (.ok .unsigned) ∧ s.phase 1 = .returned (.ok (.signed ⟨"Contoso"⟩)) ∧
    s.phase 2 = .returned (.ok (.signed ⟨"Contoso"⟩)) := by
  have ends : runList threeVerifies.step threeVerifies.start [(0, .check), (1, .check), (0, .compute (.ok ⟨-2146762496, none⟩)),
    (1, .compute (.ok ⟨0, some ⟨"Contoso"⟩⟩)), (1, .store), (0, .store), (2, .check)] = some _ := rfl
  exact ⟨_, _, winTrustVerifier_run (Run.of_stepsOf ends), rfl, rfl, rfl⟩

end AnneDeBreuil
