import AnneDeBreuil.Drift
import AnneDeBreuil.ProfilePorts
import AnneDeBreuil.Redaction

namespace AnneDeBreuil

/-- Which collection tier a section represents, in a report reader's terms. -/
inductive Fidelity
  | authoritative
  | inferred
deriving DecidableEq, Repr

def Fidelity.fromStrategy : TargetStrategy → Fidelity
  | .execute | .localOnly => .authoritative
  | .probe => .inferred

/-- A rule as a report reader sees it. The serializable mirrors of the plain
enumerations and of the drift types have the same values as what they mirror. -/
structure FirewallRuleView where
  displayName : String
  direction : Direction
  action : RuleAction
  protocol : Protocol
  portSpecLabel : String
  programFilter : Option ProcessPath
  serviceFilter : Option ServiceName
  enabled : Bool
deriving DecidableEq, Repr

def FirewallRuleView.ofRule (rule : FirewallRule) : FirewallRuleView where
  displayName := rule.displayName
  direction := rule.direction
  action := rule.action
  protocol := rule.protocol
  portSpecLabel := rule.portSpec.displayLabel
  programFilter := rule.programFilter
  serviceFilter := rule.serviceFilter
  enabled := rule.enabled

structure EndpointView where
  protocol : Protocol
  bindAddress : BindAddress
  port : Port
  processPath : Option ProcessPath
  hostedServices : List ServiceName
  signatureStatus : SignatureStatus
  exposure : Exposure
  reachability : Reachability
  matchedRules : List FirewallRuleView
  commandLine : Option Utf8
  commandLineRedactions : List (Redacted Utf8)
deriving DecidableEq, Repr

structure HostSection where
  hostId : HostId
  scanId : ScanId
  collectedAt : OffsetDateTime
  collectorVersion : String
  strategy : TargetStrategy
  fidelity : Fidelity
  endpoints : List EndpointView
  profilePorts : List ProfilePortSummary
deriving DecidableEq, Repr

structure ExposureCounts where
  loopback : Nat
  specificInterface : Nat
  allInterfaces : Nat
deriving DecidableEq, Repr

def ExposureCounts.record (counts : ExposureCounts) : Exposure → ExposureCounts
  | .loopback => { counts with loopback := counts.loopback + 1 }
  | .specificInterface => { counts with specificInterface := counts.specificInterface + 1 }
  | .allInterfaces => { counts with allInterfaces := counts.allInterfaces + 1 }

structure ReachabilityCounts where
  localOnly : Nat
  blocked : Nat
  allowed : Nat
  defaultAction : Nat
  indeterminate : Nat
deriving DecidableEq, Repr

def ReachabilityCounts.record (counts : ReachabilityCounts) : Reachability → ReachabilityCounts
  | .localOnly => { counts with localOnly := counts.localOnly + 1 }
  | .blocked => { counts with blocked := counts.blocked + 1 }
  | .allowed => { counts with allowed := counts.allowed + 1 }
  | .defaultAction => { counts with defaultAction := counts.defaultAction + 1 }
  | .indeterminate => { counts with indeterminate := counts.indeterminate + 1 }

structure DriftSeverityCounts where
  low : Nat
  medium : Nat
  high : Nat
  critical : Nat
deriving DecidableEq, Repr

def DriftSeverityCounts.record (counts : DriftSeverityCounts) : Severity → DriftSeverityCounts
  | .low => { counts with low := counts.low + 1 }
  | .medium => { counts with medium := counts.medium + 1 }
  | .high => { counts with high := counts.high + 1 }
  | .critical => { counts with critical := counts.critical + 1 }

structure Rollup where
  hostsScanned : Nat
  endpointsByExposure : ExposureCounts
  endpointsByReachability : ReachabilityCounts
  unsignedBinaries : Nat
  assignmentMismatches : Nat
  certificateFindings : Nat
  driftBySeverity : DriftSeverityCounts
deriving DecidableEq, Repr

structure ReportModel where
  hosts : List HostSection
  drift : List DriftEntry
  rollup : Rollup
  redactionEnabled : Bool
deriving DecidableEq, Repr

inductive ReportError
  | redactionConfirmationRequired
deriving DecidableEq, Repr

section

variable (target : Target) (regexNew : String → Option FindIter)

def buildEndpointView (endpoint : Endpoint) (snapshot : ScanSnapshot) : EndpointView :=
  let verdict := evaluate target endpoint snapshot.firewallRules snapshot.profiles
  let redacted := endpoint.commandLine.map (redact regexNew)
  { protocol := endpoint.protocol
    bindAddress := endpoint.bindAddress
    port := endpoint.port
    processPath := endpoint.processPath
    hostedServices := endpoint.hostedServices
    signatureStatus := endpoint.signatureStatus
    exposure := endpoint.exposure
    reachability := verdict.reachability
    matchedRules := verdict.matchedRules.map FirewallRuleView.ofRule
    commandLine := redacted.map (·.1)
    commandLineRedactions := (redacted.map (·.2)).getD [] }

def buildHostSection (snapshot : ScanSnapshot) : HostSection where
  hostId := snapshot.hostId
  scanId := snapshot.scanId
  collectedAt := snapshot.collectedAt
  collectorVersion := snapshot.collectorVersion
  strategy := snapshot.strategy
  fidelity := .fromStrategy snapshot.strategy
  endpoints := snapshot.endpoints.map (fun endpoint => buildEndpointView target regexNew endpoint snapshot)
  profilePorts := summarizeInboundPorts snapshot.firewallRules snapshot.profiles

/-- What the rollup counts of the endpoints seen so far. -/
structure EndpointCounts where
  endpointsByExposure : ExposureCounts
  endpointsByReachability : ReachabilityCounts
  unsignedBinaries : Nat
deriving DecidableEq, Repr

def EndpointCounts.record (snapshot : ScanSnapshot) (counts : EndpointCounts) (endpoint : Endpoint) :
    EndpointCounts where
  endpointsByExposure := counts.endpointsByExposure.record endpoint.exposure
  endpointsByReachability := counts.endpointsByReachability.record
    (evaluate target endpoint snapshot.firewallRules snapshot.profiles).reachability
  unsignedBinaries := counts.unsignedBinaries + if endpoint.signatureStatus = .unsigned then 1 else 0

def EndpointCounts.recordSnapshot (counts : EndpointCounts) (snapshot : ScanSnapshot) : EndpointCounts :=
  snapshot.endpoints.foldl (EndpointCounts.record target snapshot) counts

def buildRollup (snapshots : List ScanSnapshot) (drift : Option DriftReport) : Rollup :=
  let counts := snapshots.foldl (EndpointCounts.recordSnapshot target) ⟨⟨0, 0, 0⟩, ⟨0, 0, 0, 0, 0⟩, 0⟩
  { hostsScanned := snapshots.length
    endpointsByExposure := counts.endpointsByExposure
    endpointsByReachability := counts.endpointsByReachability
    unsignedBinaries := counts.unsignedBinaries
    assignmentMismatches := 0
    certificateFindings := 0
    driftBySeverity := ((drift.map (·.entries)).getD []).foldl
      (fun counts entry => counts.record entry.severity) ⟨0, 0, 0, 0⟩ }

/-- The order of `(host_id, scan_id)`, as one number. -/
def HostSection.sortKey (host : HostSection) : Nat := host.hostId.uuid.toNat * 2 ^ 128 + host.scanId.uuid.toNat

def ReportModel.build (snapshots : List ScanSnapshot) (drift : Option DriftReport) (noRedactConfirmed : Bool) :
    Except ReportError ReportModel :=
  if !noRedactConfirmed then .error .redactionConfirmationRequired
  else .ok
    { hosts := sortByKey HostSection.sortKey (snapshots.map (buildHostSection target regexNew))
      drift := (drift.map (·.entries)).getD []
      rollup := buildRollup target snapshots drift
      redactionEnabled := true }

end

end AnneDeBreuil
