import AnneDeBreuil.IpDisplay
import AnneDeBreuil.PsEnvelope
import AnneDeBreuil.SnapshotJson
import AnneDeBreuil.UuidText

namespace AnneDeBreuil

/-- How a date and time is written, by its own crate. -/
structure SerdeWriters where
  offsetDateTime : OffsetDateTime → Json

namespace Json

variable {α β : Type} {read : Json → Option α} {write : α → Json}

/-- An object with every field once is read to its members. -/
theorem record_obj (schema : List Field) (members : List (String × Json))
    (names : members.map Prod.fst = schema.map Field.name) (nodup : (schema.map Field.name).Nodup) :
    ∃ fields, (Json.obj members).record schema = some fields ∧ ∀ member ∈ members, fields member.1 = member.2 := by
  have known : ∀ name ∈ schema.map Field.name, name ∈ schema.map Field.name := fun _ h => h
  have given : ∀ field ∈ schema, field.optional = true ∨ field.name ∈ schema.map Field.name :=
    fun field hfield => .inr (List.mem_map_of_mem hfield)
  refine ⟨fun name => (members.lookup name).getD .null, ?_, ?_⟩
  · simp only [record, names]
    rw [if_pos ⟨nodup, known, given⟩]
  · intro member hmember
    have found := lookup_of_mem (names ▸ nodup) member hmember
    exact congrArg (Option.getD · .null) found

theorem asU16_ofU16 (value : UInt16) : (ofU16 value).asU16 = some value := by
  have bound := value.toNat_lt
  rw [ofU16, asU16, if_pos (by omega), Int.toNat_natCast, UInt16.ofNat_toNat]

end Json

def HostId.toJson (id : HostId) : Json := .str (uuidText id.uuid)

def ScanId.toJson (id : ScanId) : Json := .str (uuidText id.uuid)

def RuleId.toJson (id : RuleId) : Json := .str (uuidText id.uuid)

def ProcessId.toJson (pid : ProcessId) : Json := .ofU32 pid.get

def Port.toJson (port : Port) : Json := .ofU16 port.get

def BindAddress.toJson (address : BindAddress) : Json := .str address.ip.display

def ProcessPath.toJson (path : ProcessPath) : Json := .str path.asStr

def ServiceName.toJson (name : ServiceName) : Json := .str name.asStr

def PublisherName.toJson (name : PublisherName) : Json := .str name.asStr

def Protocol.toJson : Protocol → Json
  | .tcp => .str "Tcp"
  | .udp => .str "Udp"

def Exposure.toJson : Exposure → Json
  | .loopback => .str "Loopback"
  | .specificInterface => .str "SpecificInterface"
  | .allInterfaces => .str "AllInterfaces"

def PolicyStore.toJson : PolicyStore → Json
  | .local => .str "Local"
  | .groupPolicy => .str "GroupPolicy"
  | .dynamic => .str "Dynamic"
  | .static => .str "Static"

def TargetStrategy.toJson : TargetStrategy → Json
  | .execute => .str "Execute"
  | .probe => .str "Probe"
  | .localOnly => .str "LocalOnly"

def RuleAction.toJson : RuleAction → Json
  | .allow => .str "Allow"
  | .block => .str "Block"

def Direction.toJson : Direction → Json
  | .inbound => .str "Inbound"
  | .outbound => .str "Outbound"

def FirewallProfileKind.toJson : FirewallProfileKind → Json
  | .domain => .str "Domain"
  | .privateNetwork => .str "Private"
  | .publicNetwork => .str "Public"

def DynamicKeyword.toJson : DynamicKeyword → Json
  | .rpc => .str "Rpc"
  | .rpcEpMap => .str "RpcEpMap"
  | .ipHttpsIn => .str "IpHttpsIn"
  | .mdns => .str "Mdns"
  | .teredo => .str "Teredo"
  | .playToDiscovery => .str "PlayToDiscovery"

def SignatureStatus.toJson : SignatureStatus → Json
  | .signed publisher => .obj [("Signed", publisher.toJson)]
  | .unsigned => .str "Unsigned"
  | .unknown => .str "Unknown"
  | .notApplicable => .str "NotApplicable"

def PortRange.members (range : PortRange) : List (String × Json) :=
  [("start", .ofU16 range.start), ("end", .ofU16 range.stop)]

/-- Written by hand as a plain pair. -/
def PortRange.toJson (range : PortRange) : Json := .obj range.members

mutual

def PortSpec.toJson : PortSpec → Json
  | .any => .str "Any"
  | .single port => .obj [("Single", port.toJson)]
  | .range bounds => .obj [("Range", bounds.toJson)]
  | .list specs => .obj [("List", .arr (PortSpec.toJsonAll specs))]
  | .dynamic keyword => .obj [("Dynamic", keyword.toJson)]

def PortSpec.toJsonAll : List PortSpec → List Json
  | [] => []
  | spec :: specs => spec.toJson :: PortSpec.toJsonAll specs

end

/-- The bytes of a `String`, given back as text. -/
def commandLineJson (bytes : Utf8) : Json := .str ((fromUtf8 bytes).getD "")

def Endpoint.members (endpoint : Endpoint) : List (String × Json) :=
  [("protocol", endpoint.protocol.toJson), ("bind_address", endpoint.bindAddress.toJson), ("port", endpoint.port.toJson),
    ("process_id", .ofOption ProcessId.toJson endpoint.processId),
    ("process_path", .ofOption ProcessPath.toJson endpoint.processPath),
    ("hosted_services", .arr (endpoint.hostedServices.map ServiceName.toJson)),
    ("signature_status", endpoint.signatureStatus.toJson), ("exposure", endpoint.exposure.toJson),
    ("command_line", .ofOption commandLineJson endpoint.commandLine)]

def Endpoint.toJson (endpoint : Endpoint) : Json := .obj endpoint.members

def FirewallRule.members (rule : FirewallRule) : List (String × Json) :=
  [("rule_id", rule.ruleId.toJson), ("display_name", .str rule.displayName), ("direction", rule.direction.toJson),
    ("action", rule.action.toJson), ("protocol", rule.protocol.toJson), ("port_spec", rule.portSpec.toJson),
    ("program_filter", .ofOption ProcessPath.toJson rule.programFilter),
    ("service_filter", .ofOption ServiceName.toJson rule.serviceFilter), ("enabled", .bool rule.enabled),
    ("policy_store", rule.policyStore.toJson)]

def FirewallRule.toJson (rule : FirewallRule) : Json := .obj rule.members

def ProfileState.members (state : ProfileState) : List (String × Json) :=
  [("profile", state.profile.toJson), ("enabled", .bool state.enabled),
    ("default_inbound_action", state.defaultInboundAction.toJson),
    ("default_outbound_action", state.defaultOutboundAction.toJson)]

def ProfileState.toJson (state : ProfileState) : Json := .obj state.members

def ScanSnapshot.members (writers : SerdeWriters) (snapshot : ScanSnapshot) : List (String × Json) :=
  [("host_id", snapshot.hostId.toJson), ("scan_id", snapshot.scanId.toJson),
    ("collected_at", writers.offsetDateTime snapshot.collectedAt), ("collector_version", .str snapshot.collectorVersion),
    ("endpoints", .arr (snapshot.endpoints.map Endpoint.toJson)),
    ("firewall_rules", .arr (snapshot.firewallRules.map FirewallRule.toJson)),
    ("profiles", .arr (snapshot.profiles.map ProfileState.toJson)), ("strategy", snapshot.strategy.toJson)]

/-- The derived `Serialize`, which every writer of a snapshot goes through. -/
def ScanSnapshot.toJson (writers : SerdeWriters) (snapshot : ScanSnapshot) : Json := .obj (snapshot.members writers)

/-- The UUIDs that a snapshot names. -/
def ScanSnapshot.uuids (snapshot : ScanSnapshot) : List Uuid :=
  snapshot.hostId.uuid :: snapshot.scanId.uuid :: snapshot.firewallRules.map fun rule => rule.ruleId.uuid

/-- A command line is a `String` of the source: its bytes are those of a text. -/
def Endpoint.LegibleCommandLine (endpoint : Endpoint) : Prop := ∀ bytes ∈ endpoint.commandLine, ∃ text, bytes = utf8 text

section

variable {crates : SerdeCrates}

theorem ProcessId.deserialize_toJson (pid : ProcessId) : deserialize pid.toJson = some pid :=
  congrArg (Option.map ProcessId.mk) (Json.asU32_ofU32 pid.get)

theorem Port.deserialize_toJson (port : Port) : deserialize port.toJson = some port :=
  congrArg (Option.map Port.mk) (Json.asU16_ofU16 port.get)

theorem BindAddress.deserialize_toJson (address : BindAddress) : deserialize address.toJson = some address :=
  congrArg (Option.map BindAddress.mk) (IpAddr.fromStr_display address.ip)

theorem ServiceName.deserialize_toJson (name : ServiceName) : deserialize name.toJson = some name := rfl

theorem ProcessPath.deserialize_toJson (path : ProcessPath) : deserialize path.toJson = some path := rfl

theorem Protocol.deserialize_toJson (protocol : Protocol) : deserialize protocol.toJson = some protocol := by
  cases protocol <;> rfl

theorem Exposure.deserialize_toJson (exposure : Exposure) : deserialize exposure.toJson = some exposure := by
  cases exposure <;> rfl

theorem PolicyStore.deserialize_toJson (store : PolicyStore) : deserialize store.toJson = some store := by
  cases store <;> rfl

theorem TargetStrategy.deserialize_toJson (strategy : TargetStrategy) : deserialize strategy.toJson = some strategy := by
  cases strategy <;> rfl

theorem RuleAction.deserialize_toJson (action : RuleAction) : deserialize action.toJson = some action := by
  cases action <;> rfl

theorem Direction.deserialize_toJson (direction : Direction) : deserialize direction.toJson = some direction := by
  cases direction <;> rfl

theorem FirewallProfileKind.deserialize_toJson (kind : FirewallProfileKind) : deserialize kind.toJson = some kind := by
  cases kind <;> rfl

theorem DynamicKeyword.deserialize_toJson (keyword : DynamicKeyword) : deserialize keyword.toJson = some keyword := by
  cases keyword <;> rfl

theorem SignatureStatus.deserialize_toJson (status : SignatureStatus) : deserialize status.toJson = some status := by
  cases status <;> rfl

theorem PortRange.tryFrom_bounds (range : PortRange) : PortRange.tryFrom range.start range.stop = .ok range := by
  rw [tryFrom, dif_pos ⟨range.start_ne, range.stop_ne, range.start_le⟩]

theorem PortRange.deserialize_toJson (range : PortRange) : deserialize range.toJson = some range := by
  obtain ⟨fields, hrecord, hfields⟩ := Json.record_obj schema range.members rfl (by decide)
  simp only [members, List.forall_mem_cons] at hfields
  obtain ⟨start, stop, _⟩ := hfields
  rw [deserialize, toJson, hrecord, Option.bind_eq_bind, Option.bind_some]
  refine Json.bind_read start (Json.asU16_ofU16 _) ?_
  refine Json.bind_read stop (Json.asU16_ofU16 _) ?_
  rw [tryFrom_bounds]
  rfl

theorem PortSpec.deserializeAll_toJsonAll {specs : List PortSpec}
    (each : ∀ spec ∈ specs, deserialize spec.toJson = some spec) : deserializeAll (toJsonAll specs) = some specs := by
  induction specs with
  | nil => simp only [toJsonAll, deserializeAll]
  | cons spec specs ih =>
    obtain ⟨first, each⟩ := List.forall_mem_cons.mp each
    simp only [toJsonAll, deserializeAll, first, ih each]
    rfl

theorem PortSpec.deserialize_toJson (spec : PortSpec) : deserialize spec.toJson = some spec := by
  cases spec with
  | any => simp only [toJson, deserialize]; rfl
  | single port => simp only [toJson, deserialize, Port.deserialize_toJson, Option.map_some]
  | range bounds => simp only [toJson, deserialize, PortRange.deserialize_toJson, Option.map_some]
  | list specs =>
    have all := PortSpec.deserializeAll_toJsonAll fun spec (_ : spec ∈ specs) => PortSpec.deserialize_toJson spec
    simp only [toJson, deserialize, all, Option.map_some]
  | dynamic keyword => simp only [toJson, deserialize, DynamicKeyword.deserialize_toJson, Option.map_some]

theorem commandLineJson_asStr (text : String) : (commandLineJson (utf8 text)).asStr.map utf8 = some (utf8 text) := by
  rw [commandLineJson, fromUtf8_utf8]
  rfl

theorem Endpoint.deserialize_toJson {endpoint : Endpoint} (legible : endpoint.LegibleCommandLine) :
    deserialize endpoint.toJson = some endpoint := by
  obtain ⟨fields, hrecord, hfields⟩ := Json.record_obj schema endpoint.members rfl (by decide)
  simp only [members, List.forall_mem_cons] at hfields
  obtain ⟨protocol, bindAddress, port, processId, processPath, hostedServices, signatureStatus, exposure, commandLine, _⟩ :=
    hfields
  have anyPid : ∀ pid : ProcessId, pid.toJson ≠ .null := nofun
  have anyPath : ∀ path : ProcessPath, path.toJson ≠ .null := nofun
  have anyLine : ∀ bytes, commandLineJson bytes ≠ .null := nofun
  have lines : ∀ bytes ∈ endpoint.commandLine, (commandLineJson bytes).asStr.map utf8 = some bytes := by
    intro bytes hbytes
    obtain ⟨text, rfl⟩ := legible bytes hbytes
    exact commandLineJson_asStr text
  rw [deserialize, toJson, hrecord, Option.bind_eq_bind, Option.bind_some]
  refine Json.bind_read protocol (Protocol.deserialize_toJson _) ?_
  refine Json.bind_read bindAddress (BindAddress.deserialize_toJson _) ?_
  refine Json.bind_read port (Port.deserialize_toJson _) ?_
  refine Json.bind_read processId (Json.optional_of_mem anyPid fun x _ => ProcessId.deserialize_toJson x) ?_
  refine Json.bind_read processPath (Json.optional_of_mem anyPath fun x _ => ProcessPath.deserialize_toJson x) ?_
  refine Json.bind_read hostedServices (Json.listOf_map ServiceName.deserialize_toJson _) ?_
  refine Json.bind_read signatureStatus (SignatureStatus.deserialize_toJson _) ?_
  refine Json.bind_read exposure (Exposure.deserialize_toJson _) ?_
  exact Json.bind_read commandLine (Json.optional_of_mem anyLine lines) rfl

theorem FirewallRule.deserialize_toJson {rule : FirewallRule}
    (uuid : crates.uuidParseStr (uuidText rule.ruleId.uuid) = some rule.ruleId.uuid) :
    deserialize crates rule.toJson = some rule := by
  obtain ⟨fields, hrecord, hfields⟩ := Json.record_obj schema rule.members rfl (by decide)
  simp only [members, List.forall_mem_cons] at hfields
  obtain ⟨ruleId, displayName, direction, action, protocol, portSpec, programFilter, serviceFilter, enabled, policyStore, _⟩ :=
    hfields
  have id : RuleId.deserialize crates rule.ruleId.toJson = some rule.ruleId :=
    congrArg (Option.map RuleId.mk) uuid
  have anyPath : ∀ path : ProcessPath, path.toJson ≠ .null := nofun
  have anyName : ∀ name : ServiceName, name.toJson ≠ .null := nofun
  have text : (Json.str rule.displayName).asStr = some rule.displayName := rfl
  have flag : (Json.bool rule.enabled).asBool = some rule.enabled := rfl
  rw [deserialize, toJson, hrecord, Option.bind_eq_bind, Option.bind_some]
  refine Json.bind_read ruleId id ?_
  refine Json.bind_read displayName text ?_
  refine Json.bind_read direction (Direction.deserialize_toJson _) ?_
  refine Json.bind_read action (RuleAction.deserialize_toJson _) ?_
  refine Json.bind_read protocol (Protocol.deserialize_toJson _) ?_
  refine Json.bind_read portSpec (PortSpec.deserialize_toJson _) ?_
  refine Json.bind_read programFilter (Json.optional_of_mem anyPath fun x _ => ProcessPath.deserialize_toJson x) ?_
  refine Json.bind_read serviceFilter (Json.optional_of_mem anyName fun x _ => ServiceName.deserialize_toJson x) ?_
  refine Json.bind_read enabled flag ?_
  exact Json.bind_read policyStore (PolicyStore.deserialize_toJson _) rfl

theorem ProfileState.deserialize_toJson (state : ProfileState) : deserialize state.toJson = some state := by
  obtain ⟨fields, hrecord, hfields⟩ := Json.record_obj schema state.members rfl (by decide)
  simp only [members, List.forall_mem_cons] at hfields
  obtain ⟨profile, enabled, defaultInboundAction, defaultOutboundAction, _⟩ := hfields
  have flag : (Json.bool state.enabled).asBool = some state.enabled := rfl
  rw [deserialize, toJson, hrecord, Option.bind_eq_bind, Option.bind_some]
  refine Json.bind_read profile (FirewallProfileKind.deserialize_toJson _) ?_
  refine Json.bind_read enabled flag ?_
  refine Json.bind_read defaultInboundAction (RuleAction.deserialize_toJson _) ?_
  exact Json.bind_read defaultOutboundAction (RuleAction.deserialize_toJson _) rfl

/-- What is written of a snapshot reads back as that snapshot. -/
theorem ScanSnapshot.deserialize_toJson {writers : SerdeWriters} {snapshot : ScanSnapshot}
    (uuids : ∀ uuid ∈ snapshot.uuids, crates.uuidParseStr (uuidText uuid) = some uuid)
    (date : crates.offsetDateTime (writers.offsetDateTime snapshot.collectedAt) = some snapshot.collectedAt)
    (legible : ∀ endpoint ∈ snapshot.endpoints, endpoint.LegibleCommandLine) :
    deserialize crates (snapshot.toJson writers) = some snapshot := by
  obtain ⟨fields, hrecord, hfields⟩ := Json.record_obj schema (snapshot.members writers) rfl (by decide)
  simp only [members, List.forall_mem_cons] at hfields
  obtain ⟨hostId, scanId, collectedAt, collectorVersion, endpoints, firewallRules, profiles, strategy, _⟩ := hfields
  have host : HostId.deserialize crates snapshot.hostId.toJson = some snapshot.hostId :=
    congrArg (Option.map HostId.mk) (uuids _ (.head _))
  have scan : ScanId.deserialize crates snapshot.scanId.toJson = some snapshot.scanId :=
    congrArg (Option.map ScanId.mk) (uuids _ (.tail _ (.head _)))
  have rules : ∀ rule ∈ snapshot.firewallRules, FirewallRule.deserialize crates rule.toJson = some rule := by
    intro rule h
    have named : rule.ruleId.uuid ∈ snapshot.firewallRules.map fun rule => rule.ruleId.uuid := List.mem_map.mpr ⟨rule, h, rfl⟩
    exact FirewallRule.deserialize_toJson (uuids _ (.tail _ (.tail _ named)))
  have text : (Json.str snapshot.collectorVersion).asStr = some snapshot.collectorVersion := rfl
  rw [deserialize, toJson, hrecord, Option.bind_eq_bind, Option.bind_some]
  refine Json.bind_read hostId host ?_
  refine Json.bind_read scanId scan ?_
  refine Json.bind_read collectedAt date ?_
  refine Json.bind_read collectorVersion text ?_
  refine Json.bind_read endpoints (Json.listOf_map_of_mem fun _ h => Endpoint.deserialize_toJson (legible _ h)) ?_
  refine Json.bind_read firewallRules (Json.listOf_map_of_mem rules) ?_
  refine Json.bind_read profiles (Json.listOf_map ProfileState.deserialize_toJson _) ?_
  exact Json.bind_read strategy (TargetStrategy.deserialize_toJson _) rfl

end

end AnneDeBreuil
