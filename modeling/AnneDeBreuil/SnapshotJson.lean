import AnneDeBreuil.IpText
import AnneDeBreuil.SerdeJson
import AnneDeBreuil.Snapshot

namespace AnneDeBreuil

/-- What the types of other crates are read with: a UUID from its text, and a date and time. -/
structure SerdeCrates where
  uuidParseStr : String → Option Uuid
  offsetDateTime : Json → Option OffsetDateTime

def uuidFromJson (crates : SerdeCrates) (v : Json) : Option Uuid := v.asStr.bind crates.uuidParseStr

def HostId.deserialize (crates : SerdeCrates) (v : Json) : Option HostId := (uuidFromJson crates v).map .mk

def ScanId.deserialize (crates : SerdeCrates) (v : Json) : Option ScanId := (uuidFromJson crates v).map .mk

def RuleId.deserialize (crates : SerdeCrates) (v : Json) : Option RuleId := (uuidFromJson crates v).map .mk

-- The newtypes derive `Deserialize` and are read as what they wrap; none goes through its `try_from`.

def ProcessId.deserialize (v : Json) : Option ProcessId := v.asU32.map .mk

def Port.deserialize (v : Json) : Option Port := v.asU16.map .mk

def BindAddress.deserialize (v : Json) : Option BindAddress := (v.asStr.bind IpAddr.fromStr).map .mk

def ProcessPath.deserialize (v : Json) : Option ProcessPath := v.asStr.map .mk

def ServiceName.deserialize (v : Json) : Option ServiceName := v.asStr.map .mk

def PublisherName.deserialize (v : Json) : Option PublisherName := v.asStr.map .mk

def Protocol.deserialize : Json → Option Protocol := Json.enumOf [("Tcp", .tcp), ("Udp", .udp)]

def Exposure.deserialize : Json → Option Exposure :=
  Json.enumOf [("Loopback", .loopback), ("SpecificInterface", .specificInterface), ("AllInterfaces", .allInterfaces)]

def PolicyStore.deserialize : Json → Option PolicyStore :=
  Json.enumOf [("Local", .local), ("GroupPolicy", .groupPolicy), ("Dynamic", .dynamic), ("Static", .static)]

def TargetStrategy.deserialize : Json → Option TargetStrategy :=
  Json.enumOf [("Execute", .execute), ("Probe", .probe), ("LocalOnly", .localOnly)]

def RuleAction.deserialize : Json → Option RuleAction := Json.enumOf [("Allow", .allow), ("Block", .block)]

def Direction.deserialize : Json → Option Direction := Json.enumOf [("Inbound", .inbound), ("Outbound", .outbound)]

def FirewallProfileKind.deserialize : Json → Option FirewallProfileKind :=
  Json.enumOf [("Domain", .domain), ("Private", .privateNetwork), ("Public", .publicNetwork)]

def DynamicKeyword.deserialize : Json → Option DynamicKeyword :=
  Json.enumOf [("Rpc", .rpc), ("RpcEpMap", .rpcEpMap), ("IpHttpsIn", .ipHttpsIn), ("Mdns", .mdns), ("Teredo", .teredo),
    ("PlayToDiscovery", .playToDiscovery)]

def SignatureStatus.deserialize : Json → Option SignatureStatus
  | .obj [("Signed", publisher)] => (PublisherName.deserialize publisher).map .signed
  | v => v.enumOf [("Unsigned", .unsigned), ("Unknown", .unknown), ("NotApplicable", .notApplicable)]

def PortRange.schema : List Field := [⟨"start", false⟩, ⟨"end", false⟩]

/-- Written by hand over a plain pair, so that the bounds are checked. -/
def PortRange.deserialize (v : Json) : Option PortRange := do
  let fields ← v.record schema
  let start ← (fields "start").asU16
  let stop ← (fields "end").asU16
  (PortRange.tryFrom start stop).toOption

mutual

def PortSpec.deserialize : Json → Option PortSpec
  | .obj [("Single", port)] => (Port.deserialize port).map .single
  | .obj [("Range", bounds)] => (PortRange.deserialize bounds).map .range
  | .obj [("List", .arr specs)] => (PortSpec.deserializeAll specs).map .list
  | .obj [("Dynamic", keyword)] => (DynamicKeyword.deserialize keyword).map .dynamic
  | v => v.enumOf [("Any", .any)]

def PortSpec.deserializeAll : List Json → Option (List PortSpec)
  | [] => some []
  | v :: vs => do
    let spec ← PortSpec.deserialize v
    let specs ← PortSpec.deserializeAll vs
    return spec :: specs

end

def Endpoint.schema : List Field :=
  [⟨"protocol", false⟩, ⟨"bind_address", false⟩, ⟨"port", false⟩, ⟨"process_id", true⟩, ⟨"process_path", true⟩,
    ⟨"hosted_services", false⟩, ⟨"signature_status", false⟩, ⟨"exposure", false⟩, ⟨"command_line", true⟩]

def Endpoint.deserialize (v : Json) : Option Endpoint := do
  let fields ← v.record schema
  let protocol ← Protocol.deserialize (fields "protocol")
  let bindAddress ← BindAddress.deserialize (fields "bind_address")
  let port ← Port.deserialize (fields "port")
  let processId ← (fields "process_id").optional ProcessId.deserialize
  let processPath ← (fields "process_path").optional ProcessPath.deserialize
  let hostedServices ← (fields "hosted_services").listOf ServiceName.deserialize
  let signatureStatus ← SignatureStatus.deserialize (fields "signature_status")
  let exposure ← Exposure.deserialize (fields "exposure")
  let commandLine ← (fields "command_line").optional (·.asStr.map utf8)
  return { protocol, bindAddress, port, processId, processPath, hostedServices, signatureStatus, exposure, commandLine }

def FirewallRule.schema : List Field :=
  [⟨"rule_id", false⟩, ⟨"display_name", false⟩, ⟨"direction", false⟩, ⟨"action", false⟩, ⟨"protocol", false⟩,
    ⟨"port_spec", false⟩, ⟨"program_filter", true⟩, ⟨"service_filter", true⟩, ⟨"enabled", false⟩,
    ⟨"policy_store", false⟩]

def FirewallRule.deserialize (crates : SerdeCrates) (v : Json) : Option FirewallRule := do
  let fields ← v.record schema
  let ruleId ← RuleId.deserialize crates (fields "rule_id")
  let displayName ← (fields "display_name").asStr
  let direction ← Direction.deserialize (fields "direction")
  let action ← RuleAction.deserialize (fields "action")
  let protocol ← Protocol.deserialize (fields "protocol")
  let portSpec ← PortSpec.deserialize (fields "port_spec")
  let programFilter ← (fields "program_filter").optional ProcessPath.deserialize
  let serviceFilter ← (fields "service_filter").optional ServiceName.deserialize
  let enabled ← (fields "enabled").asBool
  let policyStore ← PolicyStore.deserialize (fields "policy_store")
  return { ruleId, displayName, direction, action, protocol, portSpec, programFilter, serviceFilter, enabled, policyStore }

def ProfileState.schema : List Field :=
  [⟨"profile", false⟩, ⟨"enabled", false⟩, ⟨"default_inbound_action", false⟩, ⟨"default_outbound_action", false⟩]

def ProfileState.deserialize (v : Json) : Option ProfileState := do
  let fields ← v.record schema
  let profile ← FirewallProfileKind.deserialize (fields "profile")
  let enabled ← (fields "enabled").asBool
  let defaultInboundAction ← RuleAction.deserialize (fields "default_inbound_action")
  let defaultOutboundAction ← RuleAction.deserialize (fields "default_outbound_action")
  return { profile, enabled, defaultInboundAction, defaultOutboundAction }

def ScanSnapshot.schema : List Field :=
  [⟨"host_id", false⟩, ⟨"scan_id", false⟩, ⟨"collected_at", false⟩, ⟨"collector_version", false⟩, ⟨"endpoints", false⟩,
    ⟨"firewall_rules", false⟩, ⟨"profiles", false⟩, ⟨"strategy", false⟩]

/-- The derived `Deserialize`, which every reader of a snapshot goes through. -/
def ScanSnapshot.deserialize (crates : SerdeCrates) (v : Json) : Option ScanSnapshot := do
  let fields ← v.record schema
  let hostId ← HostId.deserialize crates (fields "host_id")
  let scanId ← ScanId.deserialize crates (fields "scan_id")
  let collectedAt ← crates.offsetDateTime (fields "collected_at")
  let collectorVersion ← (fields "collector_version").asStr
  let endpoints ← (fields "endpoints").listOf Endpoint.deserialize
  let firewallRules ← (fields "firewall_rules").listOf (FirewallRule.deserialize crates)
  let profiles ← (fields "profiles").listOf ProfileState.deserialize
  let strategy ← TargetStrategy.deserialize (fields "strategy")
  return { hostId, scanId, collectedAt, collectorVersion, endpoints, firewallRules, profiles, strategy }

end AnneDeBreuil
