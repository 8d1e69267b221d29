import AnneDeBreuil.CollectRounds
import AnneDeBreuil.FirewallMapping
import AnneDeBreuil.ProcessResolvers
import AnneDeBreuil.Reachability
import AnneDeBreuil.Snapshot

namespace AnneDeBreuil

/-- The switches of the configuration's `[scan]` section that a scan reads. -/
structure ScanConfig where
  includeCommandLine : Bool
  includeExecutablePath : Bool
  includeServicePath : Bool
  includeDisabledFirewallRules : Bool
deriving DecidableEq, Repr

def ScanConfig.default : ScanConfig := ⟨false, false, false, false⟩

inductive StrategyArg
  | auto
  | execute
  | probe
  | localOnly
deriving DecidableEq, Repr

structure ScanArgs where
  target : Option String
  inventory : Option String
  store : Option String
  config : Option String
  emitJson : Bool
  strategy : StrategyArg
  includeCommandLine : Bool
  includeExecutablePath : Bool
  includeServicePath : Bool
  includeDisabledFirewallRules : Bool
deriving DecidableEq, Repr

def forcedStrategy : StrategyArg → TargetStrategy
  | .auto | .execute | .localOnly => .execute
  | .probe => .probe

/-- Either of the command line and the configuration asks for a field. -/
def ScanArgs.redaction (args : ScanArgs) (config : ScanConfig) : RedactionPolicy where
  includeCommandLine := args.includeCommandLine || config.includeCommandLine
  includeExecutablePath := args.includeExecutablePath || config.includeExecutablePath
  includeServicePath := args.includeServicePath || config.includeServicePath
  includeDisabledFirewallRules := args.includeDisabledFirewallRules || config.includeDisabledFirewallRules

/-- A process as `Win32_Process` has it. -/
structure Win32Process where
  processId : UInt32
  executablePath : Option String
  commandLine : Option String
deriving DecidableEq, Repr

/-- The switches that `Backend::command` puts behind the output path. -/
def redactionSwitches (redaction : RedactionPolicy) : List String :=
  (if redaction.includeCommandLine then ["-IncludeCommandLine"] else []) ++
    (if redaction.includeExecutablePath then ["-IncludeExecutablePath"] else []) ++
    (if redaction.includeServicePath then ["-IncludeServicePath"] else []) ++
    if redaction.includeDisabledFirewallRules then ["-IncludeDisabledFirewallRules"] else []

/-- The process records of the helper script, as the parser of the payload has them. -/
def collectProcesses (switches : List String) (table : List Win32Process) : List RawProcess :=
  table.map fun process =>
    { pid := process.processId
      path := if "-IncludeExecutablePath" ∈ switches then process.executablePath else none
      commandLine := if "-IncludeCommandLine" ∈ switches then process.commandLine else none }

/-- The process table behind each variant of `LocalCollectorSet`. -/
inductive ProcessTable
  | linux (system : System)
  | windowsPowerShell (table : List Win32Process)
  | windowsNative (system : System)
  | stub

def ProcessTable.rawProcesses (redaction : RedactionPolicy) : ProcessTable → List RawProcess
  | .linux system => system.processes.map (SysProcess.linux redaction)
  | .windowsPowerShell table => collectProcesses (redactionSwitches redaction) table
  | .windowsNative system => system.processes.map (SysProcess.windows redaction)
  | .stub => []

/-- What the collectors of a host answer: its process table once, services and signatures anew in each
round of the collection. -/
structure LocalHost where
  listeningEndpoints : Except CollectError (List RawEndpoint)
  processes : Except CollectError ProcessTable
  hostedServices : Nat → ProcessId → Except CollectError (List RawService)
  verify : Nat → ProcessPath → Except CollectError SignatureStatus
  inboundRules : Except CollectError (List RawRule)
  profiles : Except CollectError (List RawProfile)

def LocalHost.describe (host : LocalHost) (redaction : RedactionPolicy) (pid : ProcessId) :
    Except CollectError (Option RawProcess) :=
  host.processes.map fun table => (table.rawProcesses redaction).find? fun process => process.pid == pid.get

def localCollectors (redaction : RedactionPolicy) (host : LocalHost) : CollectSources where
  listeningEndpoints := host.listeningEndpoints
  lookups round := ⟨host.describe redaction, host.hostedServices round, host.verify round⟩

def firewallProfileFromRaw (raw : RawProfile) : Except DomainError ProfileState := do
  let profile ← FirewallProfileKind.fromStr raw.name
  let defaultInboundAction ← RuleAction.fromStr raw.defaultInboundAction
  let defaultOutboundAction ← RuleAction.fromStr raw.defaultOutboundAction
  .ok ⟨profile, raw.enabled, defaultInboundAction, defaultOutboundAction⟩

def firewallProfilesFromRaw (raws : List RawProfile) : Except DomainError (List ProfileState) := raws.mapM firewallProfileFromRaw

/-- The failures of a local scan, by the step that failed. -/
inductive ScanError
  | collectEndpoints (e : CollectError)
  | inboundRules (e : CollectError)
  | mappingRules (e : DomainError)
  | profiles (e : CollectError)
  | mappingProfiles (e : DomainError)
deriving DecidableEq, Repr

/-- What a scan draws: its ids and the time. -/
structure ScanStamp where
  hostId : HostId
  scanId : ScanId
  nowUtc : OffsetDateTime
deriving DecidableEq, Repr

/-- The rules of a scan: a policy source that cannot be read counts as one without rules. -/
def rulesOrNone : Except CollectError (List RawRule) → Except ScanError (List RawRule)
  | .ok rules => .ok rules
  | .error (.policyUnavailable _) => .ok []
  | .error e => .error (.inboundRules e)

def scanLocal (crates : IdCrates) (version : String) (stamp : ScanStamp) (args : ScanArgs) (config : ScanConfig)
    (host : LocalHost) : Except ScanError ScanSnapshot := do
  let collected ← (collectEndpoints (localCollectors (args.redaction config) host)).mapError .collectEndpoints
  let endpoints := collected.map endpointFromCollected
  let rawRules ← rulesOrNone host.inboundRules
  let firewallRules ← (firewallRulesFromRaw crates rawRules).mapError .mappingRules
  let rawProfiles ← host.profiles.mapError .profiles
  let profiles ← (firewallProfilesFromRaw rawProfiles).mapError .mappingProfiles
  .ok (.new stamp.hostId stamp.scanId stamp.nowUtc version endpoints firewallRules profiles (forcedStrategy args.strategy))

/-- What is left of a process under a policy. -/
def RedactionPolicy.redact (redaction : RedactionPolicy) (process : RawProcess) : RawProcess where
  pid := process.pid
  path := if redaction.includeExecutablePath then process.path else none
  commandLine := if redaction.includeCommandLine then process.commandLine else none

/-- All that the collectors could tell of the processes. -/
def ProcessTable.everything (table : ProcessTable) : List RawProcess := table.rawProcesses ⟨true, true, true, true⟩

/-- Two processes that differ at most in what the policy leaves out. -/
structure RedactionPolicy.Same (redaction : RedactionPolicy) (a b : RawProcess) : Prop where
  pid : a.pid = b.pid
  path : redaction.includeExecutablePath = true → a.path = b.path
  commandLine : redaction.includeCommandLine = true → a.commandLine = b.commandLine

/-- Two hosts that differ at most in the paths, the command lines and the signatures that the policy leaves out. -/
structure LocalHost.SameUpTo (redaction : RedactionPolicy) (a b : LocalHost) : Prop where
  listeningEndpoints : a.listeningEndpoints = b.listeningEndpoints
  processes : a.processes = b.processes ∨ ∃ table other, a.processes = .ok table ∧ b.processes = .ok other ∧
    List.Forall₂ redaction.Same table.everything other.everything
  hostedServices : a.hostedServices = b.hostedServices
  verify : redaction.includeExecutablePath = true → a.verify = b.verify
  inboundRules : a.inboundRules = b.inboundRules
  profiles : a.profiles = b.profiles

section

variable {redaction : RedactionPolicy}

/-- A switch means the same on every platform. -/
theorem ProcessTable.rawProcesses_eq (redaction : RedactionPolicy) (table : ProcessTable) :
    table.rawProcesses redaction = table.everything.map redaction.redact := by
  cases table with
  | linux system => simp [everything, rawProcesses, SysProcess.linux, RedactionPolicy.redact]
  | windowsNative system => simp [everything, rawProcesses, SysProcess.windows, RedactionPolicy.redact]
  | windowsPowerShell table =>
    have path : "-IncludeExecutablePath" ∈ redactionSwitches redaction ↔ redaction.includeExecutablePath = true := by
      simp [redactionSwitches]
    have commandLine : "-IncludeCommandLine" ∈ redactionSwitches redaction ↔ redaction.includeCommandLine = true := by
      simp [redactionSwitches]
    have all : "-IncludeExecutablePath" ∈ redactionSwitches ⟨true, true, true, true⟩ ∧
        "-IncludeCommandLine" ∈ redactionSwitches ⟨true, true, true, true⟩ := by decide
    simp [everything, rawProcesses, collectProcesses, path, commandLine, all, RedactionPolicy.redact]
  | stub => rfl

theorem RedactionPolicy.Same.redact {a b : RawProcess} (h : redaction.Same a b) : redaction.redact a = redaction.redact b := by
  have path := h.path
  have commandLine := h.commandLine
  simp only [RedactionPolicy.redact, h.pid, RawProcess.mk.injEq, true_and]
  constructor
  · split
    next on => exact path on
    next => rfl
  · split
    next on => exact commandLine on
    next => rfl

theorem LocalHost.SameUpTo.describe {a b : LocalHost} (h : a.SameUpTo redaction b) : a.describe redaction = b.describe redaction := by
  funext pid
  unfold LocalHost.describe
  rcases h.processes with same | ⟨table, other, ha, hb, same⟩
  · rw [same]
  · have redacted : table.rawProcesses redaction = other.rawProcesses redaction := by
      rw [table.rawProcesses_eq, other.rawProcesses_eq, ← List.forall₂_eq_eq_eq, List.forall₂_map_left_iff,
        List.forall₂_map_right_iff]
      exact same.imp fun _ _ => RedactionPolicy.Same.redact
    rw [ha, hb]
    simp only [Except.map, redacted]

/-- A described process is redacted. -/
theorem LocalHost.describe_covered {host : LocalHost} {pid : ProcessId} {process : RawProcess}
    (h : host.describe redaction pid = .ok (some process)) : redaction.Covers process := by
  unfold LocalHost.describe at h
  cases hprocesses : host.processes with
  | error e =>
    rw [hprocesses] at h
    cases h
  | ok table =>
    simp only [hprocesses, Except.map, table.rawProcesses_eq, Except.ok.injEq] at h
    obtain ⟨whole, -, rfl⟩ := List.mem_map.mp (List.mem_of_find?_eq_some h)
    constructor <;> intro off <;> simp [RedactionPolicy.redact, off]

/-- Where no description has a path the verifier is not asked. -/
theorem resolveProcess_congr {a b : Lookups} (describe : a.describe = b.describe) (services : a.hostedServices = b.hostedServices)
    (verify : a.verify = b.verify ∨ ∀ pid process, b.describe pid = .ok (some process) → process.path = none)
    (owningPid : Option UInt32) : resolveProcess a owningPid = resolveProcess b owningPid := by
  rcases verify with verify | pathless
  · have same : a = b := by
      cases a
      cases b
      cases describe
      cases services
      cases verify
      rfl
    rw [same]
  · unfold resolveProcess
    rw [describe, services]
    split
    next => rfl
    next pid _ =>
      cases hdescribe : b.describe pid with
      | error e => rfl
      | ok described =>
        cases described with
        | none => rfl
        | some process =>
          simp only [ok_bind, pathless pid process hdescribe]
          rfl

theorem collectLoop_congr {a b : Nat → Lookups} (h : ∀ round owningPid, resolveProcess (a round) owningPid = resolveProcess (b round) owningPid)
    (done : List CollectedEndpoint) (raws : List RawEndpoint) : collectLoop a done raws = collectLoop b done raws := by
  induction raws generalizing done with
  | nil => rfl
  | cons raw raws ih =>
    have same : collectEndpoint (a done.length) raw = collectEndpoint (b done.length) raw := by
      simp only [collectEndpoint, h]
    rw [collectLoop, collectLoop, same]
    simp only [ih]

end

section

variable {crates : IdCrates} {version : String} {stamp : ScanStamp} {args : ScanArgs} {config : ScanConfig} {a b host : LocalHost}

theorem collectEndpoints_congr {redaction : RedactionPolicy} (h : a.SameUpTo redaction b) :
    collectEndpoints (localCollectors redaction a) = collectEndpoints (localCollectors redaction b) := by
  have verify : ∀ round, a.verify round = b.verify round ∨
      ∀ pid process, b.describe redaction pid = .ok (some process) → process.path = none := by
    intro round
    cases on : redaction.includeExecutablePath with
    | true => exact .inl (by rw [h.verify on])
    | false => exact .inr fun pid process described => (LocalHost.describe_covered described).1 on
  have loops := collectLoop_congr (a := (localCollectors redaction a).lookups) (b := (localCollectors redaction b).lookups)
    fun round => resolveProcess_congr h.describe (congrFun h.hostedServices round) (verify round)
  simp only [collectEndpoints, loops]
  rw [localCollectors, localCollectors, h.listeningEndpoints]

/-- A scan tells nothing of the paths, the command lines and the signatures that it was not asked for: on two
hosts that differ in them alone it comes out the same. -/
theorem scanLocal_private (h : a.SameUpTo (args.redaction config) b) :
    scanLocal crates version stamp args config a = scanLocal crates version stamp args config b := by
  rw [scanLocal, scanLocal, collectEndpoints_congr h, h.inboundRules, h.profiles]

/-- An attribution has the description's command line, and no path where the description has none. -/
theorem resolveProcess_described {lookups : Lookups} {owningPid : Option UInt32} {pid : ProcessId} {path : Option ProcessPath}
    {services : List ServiceName} {signature : SignatureStatus} {commandLine : Option String}
    (h : resolveProcess lookups owningPid = .ok (.resolved pid path services signature commandLine)) :
    ∃ owner process, lookups.describe owner = .ok (some process) ∧ commandLine = process.commandLine ∧
      (process.path = none → path = none ∧ signature = .unknown) := by
  unfold resolveProcess at h
  split at h
  next => cases h
  next owner _ =>
    obtain ⟨described, hdescribe, h⟩ := bind_eq_ok h
    cases described with
    | none => cases h
    | some process =>
      refine ⟨owner, process, hdescribe, ?_⟩
      cases hpath : process.path with
      | none =>
        simp only [hpath] at h
        obtain ⟨parsed, hparsed, h⟩ := bind_eq_ok h
        cases hparsed
        obtain ⟨status, hstatus, h⟩ := bind_eq_ok h
        cases hstatus
        obtain ⟨raws, -, h⟩ := bind_eq_ok h
        obtain ⟨names, -, h⟩ := bind_eq_ok h
        cases h
        exact ⟨rfl, fun _ => ⟨rfl, rfl⟩⟩
      | some text =>
        refine ⟨?_, by simp⟩
        simp only [hpath] at h
        obtain ⟨parsed, -, h⟩ := bind_eq_ok h
        cases parsed with
        | none =>
          obtain ⟨status, -, h⟩ := bind_eq_ok h
          obtain ⟨raws, -, h⟩ := bind_eq_ok h
          obtain ⟨names, -, h⟩ := bind_eq_ok h
          cases h
          rfl
        | some path =>
          obtain ⟨status, -, h⟩ := bind_eq_ok h
          obtain ⟨raws, -, h⟩ := bind_eq_ok h
          obtain ⟨names, -, h⟩ := bind_eq_ok h
          cases h
          rfl

/-- An endpoint without what the policy leaves out. -/
structure RedactionPolicy.Hides (redaction : RedactionPolicy) (endpoint : Endpoint) : Prop where
  path : redaction.includeExecutablePath = false → endpoint.processPath = none ∧ endpoint.signatureStatus = .unknown
  commandLine : redaction.includeCommandLine = false → endpoint.commandLine = none

theorem endpointFromCollected_hides {redaction : RedactionPolicy} {round : Nat} {raw : RawEndpoint} {collected : CollectedEndpoint}
    (h : collectEndpoint ((localCollectors redaction host).lookups round) raw = .ok collected) :
    redaction.Hides (endpointFromCollected collected) := by
  obtain ⟨-, -, -, howner⟩ := collectEndpoint_eq_ok_iff.mp h
  unfold endpointFromCollected
  split
  next pid path services signature commandLine attribution =>
    rw [attribution] at howner
    obtain ⟨_, process, hdescribe, rfl, pathless⟩ := resolveProcess_described howner
    have covered : redaction.Covers process := LocalHost.describe_covered hdescribe
    refine ⟨fun off => pathless (covered.1 off), fun off => ?_⟩
    simp [Endpoint.new, covered.2 off]
  next => exact ⟨fun _ => ⟨rfl, rfl⟩, fun _ => rfl⟩
  next => exact ⟨fun _ => ⟨rfl, rfl⟩, fun _ => rfl⟩

theorem scanLocal_endpoints {snapshot : ScanSnapshot} (h : scanLocal crates version stamp args config host = .ok snapshot) :
    ∃ collected, collectEndpoints (localCollectors (args.redaction config) host) = .ok collected ∧
      snapshot.endpoints = sortByKey Endpoint.sortKey (collected.map endpointFromCollected) ∧
      snapshot.strategy = forcedStrategy args.strategy := by
  have mapped : ∀ {ε : Type} {α : Type} {x : Except ε α} {f : ε → ScanError} {a : α}, x.mapError f = .ok a → x = .ok a := by
    intro ε α x f a hx
    cases x with
    | error e => cases hx
    | ok b =>
      cases hx
      rfl
  obtain ⟨collected, hcollected, h⟩ := bind_eq_ok h
  obtain ⟨rawRules, -, h⟩ := bind_eq_ok h
  obtain ⟨rules, -, h⟩ := bind_eq_ok h
  obtain ⟨rawProfiles, -, h⟩ := bind_eq_ok h
  obtain ⟨profiles, -, h⟩ := bind_eq_ok h
  cases h
  exact ⟨collected, mapped hcollected, rfl, rfl⟩

/-- Each endpoint of a scan is without what the policy leaves out. -/
theorem scanLocal_hides {snapshot : ScanSnapshot} (h : scanLocal crates version stamp args config host = .ok snapshot)
    {endpoint : Endpoint} (hendpoint : endpoint ∈ snapshot.endpoints) : (args.redaction config).Hides endpoint := by
  obtain ⟨collected, hcollected, hendpoints, -⟩ := scanLocal_endpoints h
  obtain ⟨raws, -, hlength, rounds⟩ := collectEndpoints_eq_ok_iff.mp hcollected
  rw [hendpoints, mem_sortByKey] at hendpoint
  obtain ⟨one, hone, rfl⟩ := List.mem_map.mp hendpoint
  obtain ⟨round, hround⟩ := List.getElem?_of_mem hone
  have inRaws : round < raws.length := hlength ▸ (List.getElem?_eq_some_iff.mp hround).1
  exact endpointFromCollected_hides (rounds round _ one (List.getElem?_eq_getElem inRaws) hround)

/-- A rule for a program governs no endpoint whose path is not known. -/
theorem evaluate_pathless {target : Target} {endpoint : Endpoint} (h : endpoint.processPath = none) (rules : List FirewallRule)
    (profiles : List ProfileState) : evaluate target endpoint rules profiles =
      evaluate target endpoint (rules.filter fun rule => rule.programFilter.isNone) profiles := by
  have same : applicable target endpoint rules = applicable target endpoint (rules.filter fun rule => rule.programFilter.isNone) := by
    rw [applicable, applicable, List.filter_filter]
    refine List.filter_congr fun rule _ => ?_
    cases hprogram : rule.programFilter with
    | none => simp
    | some filter => simp [ruleApplies, hprogram, h, programFilterMatches]
  rw [evaluate, evaluate, same]

/-- The price of leaving the paths out: a scan's verdicts are those of the rules that name no program. -/
theorem scanLocal_programRules (pathless : (args.redaction config).includeExecutablePath = false) {snapshot : ScanSnapshot}
    (h : scanLocal crates version stamp args config host = .ok snapshot) (target : Target) :
    ∀ endpoint ∈ snapshot.endpoints, evaluate target endpoint snapshot.firewallRules snapshot.profiles =
      evaluate target endpoint (snapshot.firewallRules.filter fun rule => rule.programFilter.isNone) snapshot.profiles :=
  fun _ hendpoint => evaluate_pathless ((scanLocal_hides h hendpoint).path pathless).1 _ _

end

/-- The arguments of `scan --emit-json`. -/
def ScanArgs.emitJsonOnly : ScanArgs where
  target := none
  inventory := none
  store := none
  config := none
  emitJson := true
  strategy := .auto
  includeCommandLine := false
  includeExecutablePath := false
  includeServicePath := false
  includeDisabledFirewallRules := false

/-- A host with one listener. -/
def listenerHost (processes : ProcessTable) (verdict : SignatureStatus) (rules : Except CollectError (List RawRule)) : LocalHost where
  listeningEndpoints := .ok [⟨"tcp", "0.0.0.0", 443, some 42⟩]
  processes := .ok processes
  hostedServices _ _ := .ok []
  verify _ _ := .ok verdict
  inboundRules := rules
  profiles := .ok []

def nginxTable : ProcessTable :=
  .linux ⟨[⟨42, none, some "/usr/sbin/nginx", ["nginx", "--token=s3cret"]⟩], List.nodup_singleton _⟩

def noNginx : RawRule :=
  ⟨"nginx", "no nginx", "in", "block", some "tcp", some "443", some "/usr/sbin/nginx", none, true, "Local"⟩

def quietScan (host : LocalHost) : Except ScanError ScanSnapshot :=
  scanLocal ⟨fun _ => none, fun _ => 5⟩ "1.0.0" ⟨⟨9⟩, ⟨7⟩, ⟨0, 0⟩⟩ .emitJsonOnly .default host

def quietSnapshot : ScanSnapshot :=
  .new ⟨9⟩ ⟨7⟩ ⟨0, 0⟩ "1.0.0" [.new .tcp ⟨.v4 0⟩ ⟨443⟩ (some ⟨42⟩) none [] .unknown none]
    [⟨⟨0⟩, "no nginx", .inbound, .block, .tcp, .single ⟨443⟩, some ⟨"/usr/sbin/nginx"⟩, none, true, .local⟩] [] .execute

theorem quietScan_nginx : quietScan (listenerHost nginxTable .notApplicable (.ok [noNginx])) = .ok quietSnapshot := by
  decide

/-- The blocked program's listener does not count as blocked. -/
theorem scanLocal_programRules_listener :
    quietSnapshot.endpoints.map (fun endpoint => evaluate .other endpoint quietSnapshot.firewallRules []) =
      quietSnapshot.endpoints.map fun endpoint => evaluate .other endpoint [] [] :=
  List.map_congr_left (scanLocal_programRules rfl quietScan_nginx .other)

end AnneDeBreuil
