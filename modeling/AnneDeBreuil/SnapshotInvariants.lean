import AnneDeBreuil.SnapshotJson
import Mathlib.Data.String.Basic

namespace AnneDeBreuil

/-- What `ProcessPath::try_from` leaves. -/
def ProcessPath.Valid (path : ProcessPath) : Prop := trim path.asStr = path.asStr ∧ path.asStr ≠ ""

/-- The single ports of a specification, at any depth. -/
@[mk_iff]
inductive PortSpec.Names : PortSpec → Port → Prop
  | single (port : Port) : Names (.single port) port
  | list {specs : List PortSpec} {spec : PortSpec} {port : Port} : spec ∈ specs → Names spec port →
      Names (.list specs) port

structure Endpoint.Valid (endpoint : Endpoint) : Prop where
  exposure : endpoint.exposure = .classify endpoint.bindAddress.ip
  services : endpoint.hostedServices.Pairwise (fun a b => a.asStr ≤ b.asStr)
  port : endpoint.port.get ≠ 0
  pid : ∀ pid ∈ endpoint.processId, pid.get ≠ 0
  path : ∀ path ∈ endpoint.processPath, path.Valid

structure FirewallRule.Valid (rule : FirewallRule) : Prop where
  ports : ∀ port, rule.portSpec.Names port → port.get ≠ 0
  program : ∀ path ∈ rule.programFilter, path.Valid

/-- The invariants that the constructors enforce. -/
structure ScanSnapshot.Valid (snapshot : ScanSnapshot) : Prop where
  endpoints : ∀ endpoint ∈ snapshot.endpoints, endpoint.Valid
  rules : ∀ rule ∈ snapshot.firewallRules, rule.Valid
  endpointOrder : snapshot.endpoints.Pairwise (fun a b => a.sortKey ≤ b.sortKey)
  ruleOrder : snapshot.firewallRules.Pairwise (fun a b => a.sortKey ≤ b.sortKey)
  profileOrder : snapshot.profiles.Pairwise (fun a b => a.sortKey ≤ b.sortKey)

theorem Endpoint.new_valid {protocol : Protocol} {bindAddress : BindAddress} {port : Port} {processId : Option ProcessId}
    {processPath : Option ProcessPath} {hostedServices : List ServiceName} {signatureStatus : SignatureStatus}
    {commandLine : Option Utf8} (hport : port.get ≠ 0) (hpid : ∀ pid ∈ processId, pid.get ≠ 0)
    (hpath : ∀ path ∈ processPath, path.Valid) :
    (Endpoint.new protocol bindAddress port processId processPath hostedServices signatureStatus commandLine).Valid where
  exposure := rfl
  services := sortByKey_sorted ServiceName.asStr hostedServices
  port := hport
  pid := hpid
  path := hpath

theorem ScanSnapshot.new_valid {hostId : HostId} {scanId : ScanId} {collectedAt : OffsetDateTime}
    {collectorVersion : String} {endpoints : List Endpoint} {firewallRules : List FirewallRule}
    {profiles : List ProfileState} {strategy : TargetStrategy} (hendpoints : ∀ endpoint ∈ endpoints, endpoint.Valid)
    (hrules : ∀ rule ∈ firewallRules, rule.Valid) :
    (ScanSnapshot.new hostId scanId collectedAt collectorVersion endpoints firewallRules profiles strategy).Valid where
  endpoints endpoint h := hendpoints endpoint (mem_sortByKey.mp h)
  rules rule h := hrules rule (mem_sortByKey.mp h)
  endpointOrder := sortByKey_sorted _ _
  ruleOrder := sortByKey_sorted _ _
  profileOrder := sortByKey_sorted _ _

def Json.text (v : Json) : String := v.asStr.getD ""

def Exposure.variant : Exposure → String
  | .loopback => "Loopback"
  | .specificInterface => "SpecificInterface"
  | .allInterfaces => "AllInterfaces"

/-- The values given for single ports, at any depth of a specification's JSON. -/
@[mk_iff]
inductive NamesPort : Json → Json → Prop
  | single (port : Json) : NamesPort (.obj [("Single", port)]) port
  | list {specs : List Json} {spec port : Json} : spec ∈ specs → NamesPort spec port →
      NamesPort (.obj [("List", .arr specs)]) port

def PathKept (v : Json) : Prop := ∀ text, v = .str text → trim text = text ∧ text ≠ ""

/-- What the JSON of an endpoint itself keeps of the constructors' invariants. -/
structure EndpointKept (v : Json) : Prop where
  exposure : ∃ ip, (v.field Endpoint.schema "bind_address").asStr.bind IpAddr.fromStr = some ip ∧
    (v.field Endpoint.schema "exposure").unitVariant = some (Exposure.classify ip).variant
  services : (v.field Endpoint.schema "hosted_services").items.Pairwise (fun a b => a.text ≤ b.text)
  port : v.field Endpoint.schema "port" ≠ .int 0
  pid : v.field Endpoint.schema "process_id" ≠ .int 0
  path : PathKept (v.field Endpoint.schema "process_path")

structure RuleKept (v : Json) : Prop where
  ports : ¬ NamesPort (v.field FirewallRule.schema "port_spec") (.int 0)
  program : PathKept (v.field FirewallRule.schema "program_filter")

/-- The place of an endpoint's JSON in the order of endpoints. -/
def endpointRank (v : Json) : Option Nat := do
  let protocol ← Protocol.deserialize (v.field Endpoint.schema "protocol")
  let address ← (v.field Endpoint.schema "bind_address").asStr.bind IpAddr.fromStr
  let port ← (v.field Endpoint.schema "port").asU16
  return (protocol.ctorIdx * 2 ^ 129 + address.rank) * 2 ^ 16 + port.toNat

def ruleRank (crates : SerdeCrates) (v : Json) : Option Nat :=
  ((v.field FirewallRule.schema "rule_id").asStr.bind crates.uuidParseStr).map BitVec.toNat

def profileRank (v : Json) : Option Nat :=
  (FirewallProfileKind.deserialize (v.field ProfileState.schema "profile")).map (·.ctorIdx)

/-- What the JSON of a snapshot itself keeps of the constructors' invariants. -/
structure InvariantsKept (crates : SerdeCrates) (v : Json) : Prop where
  endpoints : ∀ item ∈ (v.field ScanSnapshot.schema "endpoints").items, EndpointKept item
  rules : ∀ item ∈ (v.field ScanSnapshot.schema "firewall_rules").items, RuleKept item
  endpointOrder : (v.field ScanSnapshot.schema "endpoints").items.Pairwise
    (fun a b => (endpointRank a).getD 0 ≤ (endpointRank b).getD 0)
  ruleOrder : (v.field ScanSnapshot.schema "firewall_rules").items.Pairwise
    (fun a b => (ruleRank crates a).getD 0 ≤ (ruleRank crates b).getD 0)
  profileOrder : (v.field ScanSnapshot.schema "profiles").items.Pairwise
    (fun a b => (profileRank a).getD 0 ≤ (profileRank b).getD 0)

theorem Exposure.variant_iff {v : Json} {read exposure : Exposure} (h : Exposure.deserialize v = some read) :
    v.unitVariant = some exposure.variant ↔ read = exposure := by
  obtain ⟨name, hname, hread⟩ := Json.enumOf_eq_some h
  have named : name = read.variant := by
    simp only [List.lookup_cons, List.lookup_nil] at hread
    grind [Exposure.variant]
  rw [hname, Option.some.injEq, named]
  cases read <;> cases exposure <;> simp [Exposure.variant]

theorem ProcessPath.valid_iff {v : Json} {path : ProcessPath} (h : ProcessPath.deserialize v = some path) :
    PathKept v ↔ path.Valid := by
  obtain ⟨text, htext, rfl⟩ := Option.map_eq_some_iff.mp h
  cases Json.asStr_eq_some.mp htext
  simp [PathKept, ProcessPath.Valid]

theorem Port.ne_zero_iff {v : Json} {port : Port} (h : Port.deserialize v = some port) :
    v ≠ .int 0 ↔ port.get ≠ 0 := by
  obtain ⟨value, hvalue, rfl⟩ := Option.map_eq_some_iff.mp h
  rw [Ne, Json.asU16_eq_zero hvalue]

theorem ProcessId.ne_zero_iff {v : Json} {pid : ProcessId} (h : ProcessId.deserialize v = some pid) :
    v ≠ .int 0 ↔ pid.get ≠ 0 := by
  obtain ⟨value, hvalue, rfl⟩ := Option.map_eq_some_iff.mp h
  rw [Ne, Json.asU32_eq_zero hvalue]

theorem ServiceName.text_eq {v : Json} {service : ServiceName} (h : ServiceName.deserialize v = some service) :
    v.text = service.asStr := by
  obtain ⟨text, htext, rfl⟩ := Option.map_eq_some_iff.mp h
  rw [Json.text, htext]
  rfl

@[simp] theorem PortSpec.names_single_iff {p port : Port} : (PortSpec.single p).Names port ↔ port = p := by
  rw [names_iff]
  simp [eq_comm]

@[simp] theorem PortSpec.names_list_iff {specs : List PortSpec} {port : Port} :
    (PortSpec.list specs).Names port ↔ ∃ spec ∈ specs, spec.Names port := by
  rw [names_iff]
  simp

@[simp] theorem namesPort_single_iff {v port : Json} : NamesPort (.obj [("Single", v)]) port ↔ port = v := by
  rw [namesPort_iff]
  simp [eq_comm]

@[simp] theorem namesPort_list_iff {specs : List Json} {port : Json} :
    NamesPort (.obj [("List", .arr specs)]) port ↔ ∃ spec ∈ specs, NamesPort spec port := by
  rw [namesPort_iff]
  simp

theorem not_namesPort {v port : Json} (notSingle : ∀ p, v = .obj [("Single", p)] → False)
    (notList : ∀ specs, v = .obj [("List", .arr specs)] → False) : ¬NamesPort v port := by
  rintro (_ | _)
  next => exact notSingle _ rfl
  next => exact notList _ rfl

theorem namesPort_iff_of_silent {v : Json} {spec : PortSpec} (hv : ¬NamesPort v (.int 0)) (hspec : ∀ port, ¬spec.Names port) :
    ¬NamesPort v (.int 0) ↔ ∀ port, spec.Names port → port.get ≠ 0 :=
  ⟨fun _ port hport => absurd hport (hspec port), fun _ => hv⟩

/-- A specification with a zero port is read from JSON with one: nothing on the way checks it. -/
theorem PortSpec.deserialize_names_iff {v : Json} {spec : PortSpec} (h : PortSpec.deserialize v = some spec) :
    ¬ NamesPort v (.int 0) ↔ ∀ port, spec.Names port → port.get ≠ 0 := by
  refine PortSpec.deserialize.induct
    (fun v => ∀ spec, PortSpec.deserialize v = some spec →
      (¬ NamesPort v (.int 0) ↔ ∀ port, spec.Names port → port.get ≠ 0))
    (fun vs => ∀ specs, PortSpec.deserializeAll vs = some specs →
      ((∀ v ∈ vs, ¬ NamesPort v (.int 0)) ↔ ∀ spec ∈ specs, ∀ port, spec.Names port → port.get ≠ 0))
    ?single ?range ?list ?dynamic ?other ?nil ?cons v spec h
  case single =>
    intro v spec h
    obtain ⟨port, hport, rfl⟩ := Option.map_eq_some_iff.mp h
    have nonzero := Port.ne_zero_iff hport
    simpa [eq_comm] using nonzero
  case range =>
    intro v spec h
    obtain ⟨bounds, -, rfl⟩ := Option.map_eq_some_iff.mp h
    exact namesPort_iff_of_silent (not_namesPort (by simp) (by simp)) nofun
  case list =>
    intro vs ih spec h
    obtain ⟨specs, hspecs, rfl⟩ := Option.map_eq_some_iff.mp h
    have members := ih specs hspecs
    simp only [namesPort_list_iff, names_list_iff]
    grind
  case dynamic =>
    intro v spec h
    obtain ⟨keyword, -, rfl⟩ := Option.map_eq_some_iff.mp h
    exact namesPort_iff_of_silent (not_namesPort (by simp) (by simp)) nofun
  case other =>
    intro v notSingle notRange notList notDynamic spec h
    rw [PortSpec.deserialize.eq_5 v notSingle notRange notList notDynamic] at h
    obtain ⟨name, -, hspec⟩ := Json.enumOf_eq_some h
    have hany : spec = .any := by grind
    subst hany
    exact namesPort_iff_of_silent (not_namesPort notSingle notList) nofun
  case nil =>
    intro specs h
    cases h
    simp
  case cons =>
    intro v vs ihv ihvs specs h
    obtain ⟨spec, hspec, h⟩ := Option.bind_eq_some_iff.mp h
    obtain ⟨rest, hrest, h⟩ := Option.bind_eq_some_iff.mp h
    cases h
    rw [List.forall_mem_cons, List.forall_mem_cons, ihv spec hspec, ihvs rest hrest]

/-- An accepted endpoint holds what each of its fields is read as. -/
structure Endpoint.ReadFrom (v : Json) (endpoint : Endpoint) : Prop where
  protocol : Protocol.deserialize (v.field schema "protocol") = some endpoint.protocol
  bindAddress : BindAddress.deserialize (v.field schema "bind_address") = some endpoint.bindAddress
  port : Port.deserialize (v.field schema "port") = some endpoint.port
  processId : (v.field schema "process_id").optional ProcessId.deserialize = some endpoint.processId
  processPath : (v.field schema "process_path").optional ProcessPath.deserialize = some endpoint.processPath
  hostedServices : (v.field schema "hosted_services").listOf ServiceName.deserialize = some endpoint.hostedServices
  exposure : Exposure.deserialize (v.field schema "exposure") = some endpoint.exposure

theorem Endpoint.deserialize_readFrom {v : Json} {endpoint : Endpoint} (h : Endpoint.deserialize v = some endpoint) :
    endpoint.ReadFrom v := by
  simp only [Endpoint.deserialize, Option.bind_eq_bind, Option.bind_eq_some_iff, Option.pure_def,
    Option.some.injEq] at h
  obtain ⟨fields, hfields, protocol, hprotocol, bindAddress, hbindAddress, port, hport, processId, hprocessId,
    processPath, hprocessPath, hostedServices, hhostedServices, _, _, exposure, hexposure, _, _, rfl⟩ := h
  cases Json.record_eq_field hfields
  exact ⟨hprotocol, hbindAddress, hport, hprocessId, hprocessPath, hhostedServices, hexposure⟩

theorem Endpoint.kept_iff_valid {v : Json} {endpoint : Endpoint} (h : Endpoint.deserialize v = some endpoint) :
    EndpointKept v ↔ endpoint.Valid := by
  have read := deserialize_readFrom h
  obtain ⟨ip, hip, haddress⟩ := Option.map_eq_some_iff.mp read.bindAddress
  have exposure : (∃ ip, (v.field schema "bind_address").asStr.bind IpAddr.fromStr = some ip ∧
      (v.field schema "exposure").unitVariant = some (Exposure.classify ip).variant) ↔
        endpoint.exposure = .classify endpoint.bindAddress.ip := by
    simp only [hip, Option.some.injEq, exists_eq_left', ← haddress]
    exact Exposure.variant_iff read.exposure
  have services := Json.pairwise_iff_of_forall₂ (q := (· ≤ ·)) (Json.listOf_items read.hostedServices)
    (fun _ _ => ServiceName.text_eq)
  have port := Port.ne_zero_iff read.port
  have pid := Json.optional_forall_iff (p := (· ≠ .int 0)) read.processId nofun (fun _ => ProcessId.ne_zero_iff)
  have path := Json.optional_forall_iff (p := PathKept) read.processPath nofun (fun _ => ProcessPath.valid_iff)
  constructor
  · intro kept
    exact ⟨exposure.mp kept.exposure, services.mp kept.services, port.mp kept.port, pid.mp kept.pid,
      path.mp kept.path⟩
  · intro valid
    exact ⟨exposure.mpr valid.exposure, services.mpr valid.services, port.mpr valid.port, pid.mpr valid.pid,
      path.mpr valid.path⟩

theorem Endpoint.rank_eq {v : Json} {endpoint : Endpoint} (h : Endpoint.deserialize v = some endpoint) :
    endpointRank v = some endpoint.sortKey := by
  have read := deserialize_readFrom h
  obtain ⟨ip, hip, haddress⟩ := Option.map_eq_some_iff.mp read.bindAddress
  obtain ⟨port, hport, hget⟩ := Option.map_eq_some_iff.mp read.port
  unfold endpointRank sortKey
  rw [read.protocol, hip, hport, ← haddress, ← hget]
  rfl

theorem FirewallRule.deserialize_fields {crates : SerdeCrates} {v : Json} {rule : FirewallRule}
    (h : FirewallRule.deserialize crates v = some rule) :
    RuleId.deserialize crates (v.field schema "rule_id") = some rule.ruleId ∧
      PortSpec.deserialize (v.field schema "port_spec") = some rule.portSpec ∧
      (v.field schema "program_filter").optional ProcessPath.deserialize = some rule.programFilter := by
  simp only [FirewallRule.deserialize, Option.bind_eq_bind, Option.bind_eq_some_iff, Option.pure_def,
    Option.some.injEq] at h
  obtain ⟨fields, hfields, ruleId, hruleId, _, _, _, _, _, _, _, _, portSpec, hportSpec, programFilter,
    hprogramFilter, _, _, _, _, _, _, rfl⟩ := h
  cases Json.record_eq_field hfields
  exact ⟨hruleId, hportSpec, hprogramFilter⟩

theorem FirewallRule.kept_iff_valid {crates : SerdeCrates} {v : Json} {rule : FirewallRule}
    (h : FirewallRule.deserialize crates v = some rule) : RuleKept v ↔ rule.Valid := by
  obtain ⟨-, hports, hprogram⟩ := deserialize_fields h
  have ports := PortSpec.deserialize_names_iff hports
  have program := Json.optional_forall_iff (p := PathKept) hprogram nofun (fun _ => ProcessPath.valid_iff)
  exact ⟨fun kept => ⟨ports.mp kept.ports, program.mp kept.program⟩,
    fun valid => ⟨ports.mpr valid.ports, program.mpr valid.program⟩⟩

theorem FirewallRule.rank_eq {crates : SerdeCrates} {v : Json} {rule : FirewallRule}
    (h : FirewallRule.deserialize crates v = some rule) : ruleRank crates v = some rule.sortKey := by
  obtain ⟨hid, -, -⟩ := deserialize_fields h
  obtain ⟨uuid, huuid, hrule⟩ := Option.map_eq_some_iff.mp hid
  unfold ruleRank sortKey
  rw [← hrule, show (v.field schema "rule_id").asStr.bind crates.uuidParseStr = some uuid from huuid]
  rfl

theorem ProfileState.rank_eq {v : Json} {state : ProfileState} (h : ProfileState.deserialize v = some state) :
    profileRank v = some state.sortKey := by
  simp only [ProfileState.deserialize, Option.bind_eq_bind, Option.bind_eq_some_iff, Option.pure_def,
    Option.some.injEq] at h
  obtain ⟨fields, hfields, profile, hprofile, _, _, _, _, _, _, rfl⟩ := h
  cases Json.record_eq_field hfields
  unfold profileRank sortKey
  rw [hprofile]
  rfl

/-- A snapshot is accepted as its JSON has it: it satisfies the constructors'
invariants exactly when the JSON does so on its own. -/
theorem deserialize_valid_iff {crates : SerdeCrates} {v : Json} {snapshot : ScanSnapshot}
    (accepted : ScanSnapshot.deserialize crates v = some snapshot) : snapshot.Valid ↔ InvariantsKept crates v := by
  simp only [ScanSnapshot.deserialize, Option.bind_eq_bind, Option.bind_eq_some_iff, Option.pure_def,
    Option.some.injEq] at accepted
  obtain ⟨fields, hfields, _, _, _, _, _, _, _, _, endpoints, hendpoints, firewallRules, hrules, profiles, hprofiles,
    _, _, rfl⟩ := accepted
  cases Json.record_eq_field hfields
  replace hendpoints := Json.listOf_items hendpoints
  replace hrules := Json.listOf_items hrules
  replace hprofiles := Json.listOf_items hprofiles
  have eachEndpoint := Json.forall_iff_of_forall₂ hendpoints (fun _ _ => Endpoint.kept_iff_valid)
  have eachRule := Json.forall_iff_of_forall₂ hrules (fun _ _ => FirewallRule.kept_iff_valid)
  have endpointOrder := Json.pairwise_iff_of_forall₂ (f := fun a => (endpointRank a).getD 0) (q := (· ≤ ·)) hendpoints
    (fun _ _ h => by rw [Endpoint.rank_eq h, Option.getD_some])
  have ruleOrder := Json.pairwise_iff_of_forall₂ (f := fun a => (ruleRank crates a).getD 0) (q := (· ≤ ·))
    hrules (fun _ _ h => by rw [FirewallRule.rank_eq h, Option.getD_some])
  have profileOrder := Json.pairwise_iff_of_forall₂ (f := fun a => (profileRank a).getD 0) (q := (· ≤ ·)) hprofiles
    (fun _ _ h => by rw [ProfileState.rank_eq h, Option.getD_some])
  constructor
  · intro valid
    exact ⟨eachEndpoint.mpr valid.endpoints, eachRule.mpr valid.rules, endpointOrder.mpr valid.endpointOrder,
      ruleOrder.mpr valid.ruleOrder, profileOrder.mpr valid.profileOrder⟩
  · intro kept
    exact ⟨eachEndpoint.mp kept.endpoints, eachRule.mp kept.rules, endpointOrder.mp kept.endpointOrder,
      ruleOrder.mp kept.ruleOrder, profileOrder.mp kept.profileOrder⟩

def snapshotJson (endpoints : List Json) : Json :=
  .obj [("host_id", .str "7c7f6c3e-1b7b-4b0a-9c1d-3a5e2f9b0a11"), ("scan_id", .str "7c7f6c3e-1b7b-4b0a-9c1d-3a5e2f9b0a11"),
    ("collected_at", .arr [.int 1970, .int 1, .int 0, .int 0, .int 0, .int 0, .int 0, .int 0, .int 0]),
    ("collector_version", .str "1.0.0"), ("endpoints", .arr endpoints), ("firewall_rules", .arr []),
    ("profiles", .arr []), ("strategy", .str "Execute")]

/-- A listener on every interface that calls itself so exposed. -/
def endpointJson (exposure : String) : Json :=
  .obj [("protocol", .str "Tcp"), ("bind_address", .str "0.0.0.0"), ("port", .int 443), ("hosted_services", .arr []),
    ("signature_status", .str "Unknown"), ("exposure", .str exposure)]

/-- Reads the one UUID and the one time of these snapshots, the start of 1970. -/
def epochCrates : SerdeCrates where
  uuidParseStr s :=
    if s = "7c7f6c3e-1b7b-4b0a-9c1d-3a5e2f9b0a11" then some 0x7c7f6c3e1b7b4b0a9c1d3a5e2f9b0a11#128 else none
  offsetDateTime
    | .arr [.int 1970, .int 1, .int 0, .int 0, .int 0, .int 0, .int 0, .int 0, .int 0] => some ⟨0, 0⟩
    | _ => none

def publicSnapshot (exposure : Exposure) : ScanSnapshot where
  hostId := ⟨0x7c7f6c3e1b7b4b0a9c1d3a5e2f9b0a11⟩
  scanId := ⟨0x7c7f6c3e1b7b4b0a9c1d3a5e2f9b0a11⟩
  collectedAt := ⟨0, 0⟩
  collectorVersion := "1.0.0"
  endpoints := [⟨.tcp, ⟨.v4 0⟩, ⟨443⟩, none, none, [], .unknown, exposure, none⟩]
  firewallRules := []
  profiles := []
  strategy := .execute

theorem deserialize_valid_iff_public :
    (publicSnapshot .allInterfaces).Valid ↔ InvariantsKept epochCrates (snapshotJson [endpointJson "AllInterfaces"]) :=
  deserialize_valid_iff (by decide +kernel)

theorem deserialize_valid_counterexample :
    ∃ snapshot, ScanSnapshot.deserialize epochCrates (snapshotJson [endpointJson "Loopback"]) = some snapshot ∧
      ¬ snapshot.Valid := by
  refine ⟨publicSnapshot .loopback, by decide +kernel, ?_⟩
  intro valid
  have exposure := (valid.endpoints _ (List.mem_singleton_self _)).exposure
  revert exposure
  decide

end AnneDeBreuil
