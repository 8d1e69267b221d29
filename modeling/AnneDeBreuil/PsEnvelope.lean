import AnneDeBreuil.Collect
import AnneDeBreuil.JsonText
import AnneDeBreuil.WindowsRules

namespace AnneDeBreuil

/-- How a field of a derived record may be missing: not at all, from an object
when its type is an option, or from any form when it has a default. -/
inductive FieldKind where
  | required
  | optional
  | defaulted
deriving DecidableEq, Repr

abbrev OpenSchema := List (String × FieldKind)

namespace Json

section

variable {α : Type}

/-- A derived record that passes over unknown fields: an object with each known
field at most once, or an array of the fields' values in their order. -/
def openRecord (schema : OpenSchema) : Json → Option (String → Option Json)
  | .obj members =>
    let known := (members.map Prod.fst).filter (· ∈ schema.map Prod.fst)
    if known.Nodup ∧ ∀ field ∈ schema, field.2 = .required → field.1 ∈ known then some (members.lookup ·) else none
  | .arr items =>
    if items.length ≤ schema.length ∧ ∀ field ∈ schema.drop items.length, field.2 = .defaulted then
      some (((schema.map Prod.fst).zip items).lookup ·)
    else none
  | _ => none

def required (read : Json → Option α) (v : Option Json) : Option α := v.bind read

def optionalField (read : Json → Option α) : Option Json → Option (Option α)
  | none => some none
  | some v => v.optional read

def defaulted (read : Json → Option α) (default : α) : Option Json → Option α
  | none => some default
  | some v => read v

def asU64 : Json → Option UInt64
  | .int value => if 0 ≤ value ∧ value < 18446744073709551616 then some (UInt64.ofNat value.toNat) else none
  | _ => none

/-- A map by its entries, in the order of the text; nothing here looks one up. -/
def mapOf (read : Json → Option α) : Json → Option (List (String × α))
  | .obj members => members.mapM fun member => (read member.2).map (member.1, ·)
  | _ => none

def ofOption (write : α → Json) : Option α → Json
  | none => .null
  | some x => write x

variable {read : Json → Option α} {write : α → Json}

theorem lookup_of_mem {members : List (String × Json)} (nodup : (members.map Prod.fst).Nodup) :
    ∀ member ∈ members, members.lookup member.1 = some member.2 := by
  induction members with
  | nil => nofun
  | cons first members ih =>
    rw [List.map_cons, List.nodup_cons] at nodup
    intro member hmember
    rcases List.mem_cons.mp hmember with rfl | hmember
    · exact List.lookup_cons_self
    · have other : (member.1 == first.1) = false := by
        apply beq_eq_false_iff_ne.mpr
        intro same
        exact nodup.1 (same ▸ List.mem_map_of_mem hmember)
      rw [List.lookup_cons, other]
      exact ih nodup.2 member hmember

/-- An object with every field once is read to its members. -/
theorem openRecord_obj (schema : OpenSchema) (members : List (String × Json))
    (names : members.map Prod.fst = schema.map Prod.fst) (nodup : (schema.map Prod.fst).Nodup) :
    ∃ fields, (Json.obj members).openRecord schema = some fields ∧ ∀ member ∈ members, fields member.1 = some member.2 := by
  have known : (members.map Prod.fst).filter (· ∈ schema.map Prod.fst) = schema.map Prod.fst := by
    rw [names]
    exact List.filter_eq_self.mpr fun name hname => decide_eq_true hname
  have required : ∀ field ∈ schema, field.2 = .required → field.1 ∈ schema.map Prod.fst :=
    fun field hfield _ => List.mem_map_of_mem hfield
  refine ⟨(members.lookup ·), ?_, lookup_of_mem (names ▸ nodup)⟩
  rw [openRecord, known, if_pos ⟨nodup, required⟩]

theorem optional_of_mem {value : Option α} (present : ∀ x, write x ≠ .null) (reads : ∀ x ∈ value, read (write x) = some x) :
    (ofOption write value).optional read = some value := by
  cases value with
  | none => rfl
  | some x =>
    have hread := reads x rfl
    rw [ofOption]
    unfold optional
    split
    next h => exact absurd h (present x)
    next => rw [hread]; rfl

theorem listOf_map_of_mem {xs : List α} (reads : ∀ x ∈ xs, read (write x) = some x) :
    (Json.arr (xs.map write)).listOf read = some xs := by
  rw [listOf]
  apply mapM_eq_some_iff.mpr
  rw [List.forall₂_map_left_iff]
  exact List.forall₂_same.mpr reads

theorem listOf_map (reads : ∀ x, read (write x) = some x) (xs : List α) :
    (Json.arr (xs.map write)).listOf read = some xs := listOf_map_of_mem fun x _ => reads x

theorem mapOf_map (reads : ∀ x, read (write x) = some x) (entries : List (String × α)) :
    (Json.obj (entries.map fun entry => (entry.1, write entry.2))).mapOf read = some entries := by
  have same : ((fun member : String × Json => (read member.2).map (member.1, ·)) ∘ fun entry => (entry.1, write entry.2)) =
      pure := by
    funext entry
    exact congrArg (Option.map (entry.1, ·)) (reads entry.2)
  rw [mapOf, List.mapM_map, same]
  exact (List.mapM_pure (f := id)).trans (congrArg some (List.map_id entries))

end

end Json

inductive LanguageMode where
  | full
  | constrained
  | restricted
  | noLanguage
deriving DecidableEq, Repr

structure HostedService where
  processId : UInt32
  service : RawService
deriving DecidableEq, Repr

structure RawProfile where
  name : String
  enabled : Bool
  defaultInboundAction : String
  defaultOutboundAction : String
deriving DecidableEq, Repr

structure PowerShellPayload where
  languageMode : LanguageMode
  tcpEndpoints : List RawEndpoint
  udpEndpoints : List RawEndpoint
  processes : List RawProcess
  services : List HostedService
  firewallRules : List RawRule
  firewallProfiles : List RawProfile
deriving DecidableEq, Repr

structure PsMetadata where
  languageMode : LanguageMode
  powerShellVersion : String
deriving DecidableEq, Repr

structure PsSectionStatus where
  status : String
  count : UInt64
deriving DecidableEq, Repr

structure PsDiagnostic where
  sectionName : String
  severity : String
  message : String
deriving DecidableEq, Repr

structure PsListeningSurfaceEntry where
  transport : String
  localAddress : String
  localPort : UInt16
  owningProcess : Option UInt32
  processName : Option String
  hostedServices : List String
  ownerResolved : Bool
deriving DecidableEq, Repr

structure PsSocketEndpoint where
  localAddress : String
  localPort : UInt16
  owningProcess : Option UInt32
deriving DecidableEq, Repr

def PsSocketEndpoint.intoRawEndpoint (protocol : String) (endpoint : PsSocketEndpoint) : RawEndpoint where
  protocol := protocol
  localAddress := endpoint.localAddress
  localPort := endpoint.localPort
  owningPid := endpoint.owningProcess

structure PsProcess where
  processId : UInt32
  executablePath : Option String
  commandLine : Option String
deriving DecidableEq, Repr

def PsProcess.intoRawProcess (process : PsProcess) : RawProcess where
  pid := process.processId
  path := process.executablePath
  commandLine := process.commandLine

structure PsService where
  name : String
  displayName : String
  processId : Option UInt32
  pathName : Option String
deriving DecidableEq, Repr

def PsService.intoHosted (service : PsService) : HostedService where
  processId := service.processId.getD 0
  service := ⟨service.name, service.displayName⟩

/-- The envelope of a collection payload. -/
structure PsPayload where
  schemaName : String
  schemaVersion : UInt32
  metadata : Option PsMetadata
  collectionStatus : List (String × PsSectionStatus)
  diagnostics : List PsDiagnostic
  listeningSurface : List PsListeningSurfaceEntry
  tcpEndpoints : List PsSocketEndpoint
  udpEndpoints : List PsSocketEndpoint
  processes : List PsProcess
  services : List PsService
  firewallRules : List PsFirewallRule
  firewallProfiles : List RawProfile
deriving DecidableEq, Repr

-- The derived `Deserialize` of each record: none of them denies unknown fields.

def LanguageMode.names : List (String × LanguageMode) :=
  [("FullLanguage", .full), ("ConstrainedLanguage", .constrained), ("RestrictedLanguage", .restricted),
    ("NoLanguage", .noLanguage)]

def LanguageMode.deserialize : Json → Option LanguageMode := Json.enumOf LanguageMode.names

def PsMetadata.schema : OpenSchema := [("language_mode", .defaulted), ("power_shell_version", .defaulted)]

def PsMetadata.deserialize (v : Json) : Option PsMetadata := do
  let fields ← v.openRecord schema
  let languageMode ← (Json.defaulted LanguageMode.deserialize .full) (fields "language_mode")
  let powerShellVersion ← (Json.defaulted Json.asStr "") (fields "power_shell_version")
  return { languageMode, powerShellVersion }

def PsSectionStatus.schema : OpenSchema := [("status", .required), ("count", .required)]

def PsSectionStatus.deserialize (v : Json) : Option PsSectionStatus := do
  let fields ← v.openRecord schema
  let status ← Json.required Json.asStr (fields "status")
  let count ← Json.required Json.asU64 (fields "count")
  return { status, count }

def PsDiagnostic.schema : OpenSchema := [("section", .required), ("severity", .required), ("message", .required)]

def PsDiagnostic.deserialize (v : Json) : Option PsDiagnostic := do
  let fields ← v.openRecord schema
  let sectionName ← Json.required Json.asStr (fields "section")
  let severity ← Json.required Json.asStr (fields "severity")
  let message ← Json.required Json.asStr (fields "message")
  return { sectionName, severity, message }

def PsListeningSurfaceEntry.schema : OpenSchema :=
  [("transport", .required), ("local_address", .required), ("local_port", .required), ("owning_process", .optional),
    ("process_name", .optional), ("hosted_services", .required), ("owner_resolved", .required)]

def PsListeningSurfaceEntry.deserialize (v : Json) : Option PsListeningSurfaceEntry := do
  let fields ← v.openRecord schema
  let transport ← Json.required Json.asStr (fields "transport")
  let localAddress ← Json.required Json.asStr (fields "local_address")
  let localPort ← Json.required Json.asU16 (fields "local_port")
  let owningProcess ← Json.optionalField Json.asU32 (fields "owning_process")
  let processName ← Json.optionalField Json.asStr (fields "process_name")
  let hostedServices ← Json.required (Json.listOf Json.asStr) (fields "hosted_services")
  let ownerResolved ← Json.required Json.asBool (fields "owner_resolved")
  return { transport, localAddress, localPort, owningProcess, processName, hostedServices, ownerResolved }

def PsSocketEndpoint.schema : OpenSchema :=
  [("local_address", .required), ("local_port", .required), ("owning_process", .optional)]

def PsSocketEndpoint.deserialize (v : Json) : Option PsSocketEndpoint := do
  let fields ← v.openRecord schema
  let localAddress ← Json.required Json.asStr (fields "local_address")
  let localPort ← Json.required Json.asU16 (fields "local_port")
  let owningProcess ← Json.optionalField Json.asU32 (fields "owning_process")
  return { localAddress, localPort, owningProcess }

def PsProcess.schema : OpenSchema :=
  [("process_id", .required), ("executable_path", .optional), ("command_line", .optional)]

def PsProcess.deserialize (v : Json) : Option PsProcess := do
  let fields ← v.openRecord schema
  let processId ← Json.required Json.asU32 (fields "process_id")
  let executablePath ← Json.optionalField Json.asStr (fields "executable_path")
  let commandLine ← Json.optionalField Json.asStr (fields "command_line")
  return { processId, executablePath, commandLine }

def PsService.schema : OpenSchema :=
  [("name", .required), ("display_name", .required), ("process_id", .optional), ("path_name", .defaulted)]

def PsService.deserialize (v : Json) : Option PsService := do
  let fields ← v.openRecord schema
  let name ← Json.required Json.asStr (fields "name")
  let displayName ← Json.required Json.asStr (fields "display_name")
  let processId ← Json.optionalField Json.asU32 (fields "process_id")
  let pathName ← Json.optionalField Json.asStr (fields "path_name")
  return { name, displayName, processId, pathName }

def PsFirewallRule.schema : OpenSchema :=
  [("rule_id", .required), ("display_name", .required), ("direction", .required), ("action", .required),
    ("protocol", .defaulted), ("local_ports", .defaulted), ("program_filter", .defaulted),
    ("service_filter", .defaulted), ("enabled", .required), ("policy_store_source_type", .defaulted),
    ("policy_store_source", .defaulted)]

def PsFirewallRule.deserialize (v : Json) : Option PsFirewallRule := do
  let fields ← v.openRecord schema
  let ruleId ← Json.required Json.asStr (fields "rule_id")
  let displayName ← Json.required Json.asStr (fields "display_name")
  let direction ← Json.required Json.asStr (fields "direction")
  let action ← Json.required Json.asStr (fields "action")
  let protocol ← Json.optionalField Json.asStr (fields "protocol")
  let localPorts ← (Json.defaulted (Json.listOf Json.asStr) []) (fields "local_ports")
  let programFilter ← Json.optionalField Json.asStr (fields "program_filter")
  let serviceFilter ← Json.optionalField Json.asStr (fields "service_filter")
  let enabled ← Json.required Json.asBool (fields "enabled")
  let policyStoreSourceType ← Json.optionalField Json.asStr (fields "policy_store_source_type")
  let policyStoreSource ← Json.optionalField Json.asStr (fields "policy_store_source")
  return ⟨ruleId, displayName, direction, action, protocol, localPorts, programFilter, serviceFilter, enabled,
    policyStoreSourceType, policyStoreSource⟩

def RawProfile.schema : OpenSchema :=
  [("name", .required), ("enabled", .required), ("default_inbound_action", .required),
    ("default_outbound_action", .required)]

def RawProfile.deserialize (v : Json) : Option RawProfile := do
  let fields ← v.openRecord schema
  let name ← Json.required Json.asStr (fields "name")
  let enabled ← Json.required Json.asBool (fields "enabled")
  let defaultInboundAction ← Json.required Json.asStr (fields "default_inbound_action")
  let defaultOutboundAction ← Json.required Json.asStr (fields "default_outbound_action")
  return { name, enabled, defaultInboundAction, defaultOutboundAction }

def PsPayload.schema : OpenSchema :=
  [("schema_name", .required), ("schema_version", .required), ("metadata", .defaulted), ("collection_status", .defaulted),
    ("diagnostics", .defaulted), ("listening_surface", .defaulted), ("tcp_endpoints", .defaulted),
    ("udp_endpoints", .defaulted), ("processes", .defaulted), ("services", .defaulted), ("firewall_rules", .defaulted),
    ("firewall_profiles", .defaulted)]

def PsPayload.deserialize (v : Json) : Option PsPayload := do
  let fields ← v.openRecord schema
  let schemaName ← Json.required Json.asStr (fields "schema_name")
  let schemaVersion ← Json.required Json.asU32 (fields "schema_version")
  let metadata ← Json.optionalField PsMetadata.deserialize (fields "metadata")
  let collectionStatus ← (Json.defaulted (Json.mapOf PsSectionStatus.deserialize) []) (fields "collection_status")
  let diagnostics ← (Json.defaulted (Json.listOf PsDiagnostic.deserialize) []) (fields "diagnostics")
  let listeningSurface ← (Json.defaulted (Json.listOf PsListeningSurfaceEntry.deserialize) []) (fields "listening_surface")
  let tcpEndpoints ← (Json.defaulted (Json.listOf PsSocketEndpoint.deserialize) []) (fields "tcp_endpoints")
  let udpEndpoints ← (Json.defaulted (Json.listOf PsSocketEndpoint.deserialize) []) (fields "udp_endpoints")
  let processes ← (Json.defaulted (Json.listOf PsProcess.deserialize) []) (fields "processes")
  let services ← (Json.defaulted (Json.listOf PsService.deserialize) []) (fields "services")
  let firewallRules ← (Json.defaulted (Json.listOf PsFirewallRule.deserialize) []) (fields "firewall_rules")
  let firewallProfiles ← (Json.defaulted (Json.listOf RawProfile.deserialize) []) (fields "firewall_profiles")
  return ⟨schemaName, schemaVersion, metadata, collectionStatus, diagnostics, listeningSurface, tcpEndpoints, udpEndpoints,
    processes, services, firewallRules, firewallProfiles⟩

-- The JSON encoding of each record, by its members: every field in its order.

def Json.ofU16 (value : UInt16) : Json := .int value.toNat

def Json.ofU32 (value : UInt32) : Json := .int value.toNat

def Json.ofU64 (value : UInt64) : Json := .int value.toNat

def LanguageMode.toJson : LanguageMode → Json
  | .full => .str "FullLanguage"
  | .constrained => .str "ConstrainedLanguage"
  | .restricted => .str "RestrictedLanguage"
  | .noLanguage => .str "NoLanguage"

def PsMetadata.members (metadata : PsMetadata) : List (String × Json) :=
  [("language_mode", metadata.languageMode.toJson), ("power_shell_version", .str metadata.powerShellVersion)]

def PsMetadata.toJson (metadata : PsMetadata) : Json := .obj metadata.members

def PsSectionStatus.members (status : PsSectionStatus) : List (String × Json) :=
  [("status", .str status.status), ("count", .ofU64 status.count)]

def PsSectionStatus.toJson (status : PsSectionStatus) : Json := .obj status.members

def PsDiagnostic.members (diagnostic : PsDiagnostic) : List (String × Json) :=
  [("section", .str diagnostic.sectionName), ("severity", .str diagnostic.severity),
    ("message", .str diagnostic.message)]

def PsDiagnostic.toJson (diagnostic : PsDiagnostic) : Json := .obj diagnostic.members

def PsListeningSurfaceEntry.members (entry : PsListeningSurfaceEntry) : List (String × Json) :=
  [("transport", .str entry.transport), ("local_address", .str entry.localAddress),
    ("local_port", .ofU16 entry.localPort), ("owning_process", .ofOption .ofU32 entry.owningProcess),
    ("process_name", .ofOption .str entry.processName), ("hosted_services", .arr (entry.hostedServices.map .str)),
    ("owner_resolved", .bool entry.ownerResolved)]

def PsListeningSurfaceEntry.toJson (entry : PsListeningSurfaceEntry) : Json := .obj entry.members

def PsSocketEndpoint.members (endpoint : PsSocketEndpoint) : List (String × Json) :=
  [("local_address", .str endpoint.localAddress), ("local_port", .ofU16 endpoint.localPort),
    ("owning_process", .ofOption .ofU32 endpoint.owningProcess)]

def PsSocketEndpoint.toJson (endpoint : PsSocketEndpoint) : Json := .obj endpoint.members

def PsProcess.members (process : PsProcess) : List (String × Json) :=
  [("process_id", .ofU32 process.processId), ("executable_path", .ofOption .str process.executablePath),
    ("command_line", .ofOption .str process.commandLine)]

def PsProcess.toJson (process : PsProcess) : Json := .obj process.members

def PsService.members (service : PsService) : List (String × Json) :=
  [("name", .str service.name), ("display_name", .str service.displayName),
    ("process_id", .ofOption .ofU32 service.processId), ("path_name", .ofOption .str service.pathName)]

def PsService.toJson (service : PsService) : Json := .obj service.members

def PsFirewallRule.members (rule : PsFirewallRule) : List (String × Json) :=
  [("rule_id", .str rule.ruleId), ("display_name", .str rule.displayName), ("direction", .str rule.direction),
    ("action", .str rule.action), ("protocol", .ofOption .str rule.protocol),
    ("local_ports", .arr (rule.localPorts.map .str)), ("program_filter", .ofOption .str rule.programFilter),
    ("service_filter", .ofOption .str rule.serviceFilter), ("enabled", .bool rule.enabled),
    ("policy_store_source_type", .ofOption .str rule.policyStoreSourceType),
    ("policy_store_source", .ofOption .str rule.policyStoreSource)]

def PsFirewallRule.toJson (rule : PsFirewallRule) : Json := .obj rule.members

def RawProfile.members (profile : RawProfile) : List (String × Json) :=
  [("name", .str profile.name), ("enabled", .bool profile.enabled),
    ("default_inbound_action", .str profile.defaultInboundAction),
    ("default_outbound_action", .str profile.defaultOutboundAction)]

def RawProfile.toJson (profile : RawProfile) : Json := .obj profile.members

def PsPayload.members (envelope : PsPayload) : List (String × Json) :=
  [("schema_name", .str envelope.schemaName), ("schema_version", .ofU32 envelope.schemaVersion),
    ("metadata", .ofOption PsMetadata.toJson envelope.metadata),
    ("collection_status", .obj (envelope.collectionStatus.map fun entry => (entry.1, entry.2.toJson))),
    ("diagnostics", .arr (envelope.diagnostics.map PsDiagnostic.toJson)),
    ("listening_surface", .arr (envelope.listeningSurface.map PsListeningSurfaceEntry.toJson)),
    ("tcp_endpoints", .arr (envelope.tcpEndpoints.map PsSocketEndpoint.toJson)),
    ("udp_endpoints", .arr (envelope.udpEndpoints.map PsSocketEndpoint.toJson)),
    ("processes", .arr (envelope.processes.map PsProcess.toJson)),
    ("services", .arr (envelope.services.map PsService.toJson)),
    ("firewall_rules", .arr (envelope.firewallRules.map PsFirewallRule.toJson)),
    ("firewall_profiles", .arr (envelope.firewallProfiles.map RawProfile.toJson))]

def PsPayload.toJson (envelope : PsPayload) : Json := .obj envelope.members

namespace Json

theorem asU32_ofU32 (value : UInt32) : (ofU32 value).asU32 = some value := by
  have bound := value.toNat_lt
  rw [ofU32, asU32, if_pos (by omega), Int.toNat_natCast, UInt32.ofNat_toNat]

theorem required_of {α : Type} {read : Json → Option α} {v : Json} {x : α} (h : read v = some x) :
    required read (some v) = some x := h

theorem required_u16 (value : UInt16) : required asU16 (some (ofU16 value)) = some value := by
  have bound := value.toNat_lt
  apply required_of
  rw [ofU16, asU16, if_pos (by omega), Int.toNat_natCast, UInt16.ofNat_toNat]

theorem required_u32 (value : UInt32) : required asU32 (some (ofU32 value)) = some value := required_of (asU32_ofU32 value)

theorem required_u64 (value : UInt64) : required asU64 (some (ofU64 value)) = some value := by
  have bound := value.toNat_lt
  apply required_of
  rw [ofU64, asU64, if_pos (by omega), Int.toNat_natCast, UInt64.ofNat_toNat]

theorem required_str (text : String) : required asStr (some (str text)) = some text := rfl

theorem required_bool (value : Bool) : required asBool (some (bool value)) = some value := rfl

theorem listOf_str (texts : List String) : (arr (texts.map str)).listOf asStr = some texts := by
  have reads : ∀ text, (str text).asStr = some text := fun _ => rfl
  exact listOf_map reads texts

theorem required_texts (texts : List String) : required (listOf asStr) (some (arr (texts.map str))) = some texts :=
  listOf_str texts

theorem optional_str (value : Option String) : optionalField asStr (some (ofOption str value)) = some value := by
  have present : ∀ text, str text ≠ .null := nofun
  exact optional_of_mem present fun _ _ => rfl

theorem optional_u32 (value : Option UInt32) : optionalField asU32 (some (ofOption ofU32 value)) = some value := by
  have present : ∀ value, ofU32 value ≠ .null := nofun
  exact optional_of_mem present fun value _ => asU32_ofU32 value

/-- A field that is read lets the reading of its record go on. -/
theorem bind_read {φ α β : Type} {fields : String → φ} {name : String} {v : φ} {read : φ → Option α} {x : α}
    {next : α → Option β} {y : Option β} (present : fields name = v) (reads : read v = some x) (rest : next x = y) :
    (read (fields name) >>= next) = y := by
  rw [present, reads]
  exact rest

end Json

theorem LanguageMode.deserialize_toJson (mode : LanguageMode) : deserialize mode.toJson = some mode := by
  cases mode with
  | full => rfl
  | constrained => rfl
  | restricted => rfl
  | noLanguage => rfl

theorem PsMetadata.deserialize_toJson (metadata : PsMetadata) : deserialize metadata.toJson = some metadata := by
  obtain ⟨fields, hrecord, hfields⟩ := Json.openRecord_obj schema metadata.members rfl (by decide)
  simp only [members, List.forall_mem_cons] at hfields
  simp [deserialize, toJson, hrecord, hfields, Json.defaulted, LanguageMode.deserialize_toJson, Json.asStr]

theorem PsSectionStatus.deserialize_toJson (status : PsSectionStatus) : deserialize status.toJson = some status := by
  obtain ⟨fields, hrecord, hfields⟩ := Json.openRecord_obj schema status.members rfl (by decide)
  simp only [members, List.forall_mem_cons] at hfields
  simp [deserialize, toJson, hrecord, hfields, Json.required_str, Json.required_u64]

theorem PsDiagnostic.deserialize_toJson (diagnostic : PsDiagnostic) : deserialize diagnostic.toJson = some diagnostic := by
  obtain ⟨fields, hrecord, hfields⟩ := Json.openRecord_obj schema diagnostic.members rfl (by decide)
  simp only [members, List.forall_mem_cons] at hfields
  simp [deserialize, toJson, hrecord, hfields, Json.required_str]

theorem PsListeningSurfaceEntry.deserialize_toJson (entry : PsListeningSurfaceEntry) : deserialize entry.toJson = some entry := by
  obtain ⟨fields, hrecord, hfields⟩ := Json.openRecord_obj schema entry.members rfl (by decide)
  simp only [members, List.forall_mem_cons] at hfields
  simp [deserialize, toJson, hrecord, hfields, Json.required_str, Json.required_bool, Json.required_u16,
    Json.required_texts, Json.optional_str, Json.optional_u32]

theorem PsSocketEndpoint.deserialize_toJson (endpoint : PsSocketEndpoint) : deserialize endpoint.toJson = some endpoint := by
  obtain ⟨fields, hrecord, hfields⟩ := Json.openRecord_obj schema endpoint.members rfl (by decide)
  simp only [members, List.forall_mem_cons] at hfields
  simp [deserialize, toJson, hrecord, hfields, Json.required_str, Json.required_u16, Json.optional_u32]

theorem PsProcess.deserialize_toJson (process : PsProcess) : deserialize process.toJson = some process := by
  obtain ⟨fields, hrecord, hfields⟩ := Json.openRecord_obj schema process.members rfl (by decide)
  simp only [members, List.forall_mem_cons] at hfields
  simp [deserialize, toJson, hrecord, hfields, Json.required_u32, Json.optional_str]

theorem PsService.deserialize_toJson (service : PsService) : deserialize service.toJson = some service := by
  obtain ⟨fields, hrecord, hfields⟩ := Json.openRecord_obj schema service.members rfl (by decide)
  simp only [members, List.forall_mem_cons] at hfields
  simp [deserialize, toJson, hrecord, hfields, Json.required_str, Json.optional_str, Json.optional_u32]

theorem PsFirewallRule.deserialize_toJson (rule : PsFirewallRule) : deserialize rule.toJson = some rule := by
  obtain ⟨fields, hrecord, hfields⟩ := Json.openRecord_obj schema rule.members rfl (by decide)
  simp only [members, List.forall_mem_cons] at hfields
  obtain ⟨ruleId, displayName, direction, action, protocol, localPorts, programFilter, serviceFilter, enabled,
    storeType, store, _⟩ := hfields
  rw [deserialize, toJson, hrecord, Option.bind_eq_bind, Option.bind_some]
  refine Json.bind_read ruleId (Json.required_str _) ?_
  refine Json.bind_read displayName (Json.required_str _) ?_
  refine Json.bind_read direction (Json.required_str _) ?_
  refine Json.bind_read action (Json.required_str _) ?_
  refine Json.bind_read protocol (Json.optional_str _) ?_
  refine Json.bind_read localPorts (Json.listOf_str _) ?_
  refine Json.bind_read programFilter (Json.optional_str _) ?_
  refine Json.bind_read serviceFilter (Json.optional_str _) ?_
  refine Json.bind_read enabled (Json.required_bool _) ?_
  refine Json.bind_read storeType (Json.optional_str _) ?_
  exact Json.bind_read store (Json.optional_str _) rfl

theorem RawProfile.deserialize_toJson (profile : RawProfile) : deserialize profile.toJson = some profile := by
  obtain ⟨fields, hrecord, hfields⟩ := Json.openRecord_obj schema profile.members rfl (by decide)
  simp only [members, List.forall_mem_cons] at hfields
  simp [deserialize, toJson, hrecord, hfields, Json.required_str, Json.required_bool]

theorem PsPayload.deserialize_toJson (envelope : PsPayload) : deserialize envelope.toJson = some envelope := by
  obtain ⟨fields, hrecord, hfields⟩ := Json.openRecord_obj schema envelope.members rfl (by decide)
  simp only [members, List.forall_mem_cons] at hfields
  obtain ⟨schemaName, schemaVersion, metadata, collectionStatus, diagnostics, listeningSurface, tcpEndpoints, udpEndpoints,
    processes, services, firewallRules, firewallProfiles, _⟩ := hfields
  have present : ∀ metadata : PsMetadata, metadata.toJson ≠ .null := nofun
  rw [deserialize, toJson, hrecord, Option.bind_eq_bind, Option.bind_some]
  refine Json.bind_read schemaName (Json.required_str _) ?_
  refine Json.bind_read schemaVersion (Json.required_u32 _) ?_
  refine Json.bind_read metadata (Json.optional_of_mem present fun x _ => PsMetadata.deserialize_toJson x) ?_
  refine Json.bind_read collectionStatus (Json.mapOf_map PsSectionStatus.deserialize_toJson _) ?_
  refine Json.bind_read diagnostics (Json.listOf_map PsDiagnostic.deserialize_toJson _) ?_
  refine Json.bind_read listeningSurface (Json.listOf_map PsListeningSurfaceEntry.deserialize_toJson _) ?_
  refine Json.bind_read tcpEndpoints (Json.listOf_map PsSocketEndpoint.deserialize_toJson _) ?_
  refine Json.bind_read udpEndpoints (Json.listOf_map PsSocketEndpoint.deserialize_toJson _) ?_
  refine Json.bind_read processes (Json.listOf_map PsProcess.deserialize_toJson _) ?_
  refine Json.bind_read services (Json.listOf_map PsService.deserialize_toJson _) ?_
  refine Json.bind_read firewallRules (Json.listOf_map PsFirewallRule.deserialize_toJson _) ?_
  exact Json.bind_read firewallProfiles (Json.listOf_map RawProfile.deserialize_toJson _) rfl

end AnneDeBreuil
