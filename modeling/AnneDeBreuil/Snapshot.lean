import AnneDeBreuil.Endpoint
import AnneDeBreuil.FirewallRule

namespace AnneDeBreuil

/-- `time::OffsetDateTime`: an instant and the offset it is shown in. -/
structure OffsetDateTime where
  unixTimestampNanos : Int
  offsetSeconds : Int
deriving DecidableEq, Repr

/-- The result of one scan of one host. -/
structure ScanSnapshot where
  hostId : HostId
  scanId : ScanId
  collectedAt : OffsetDateTime
  collectorVersion : String
  endpoints : List Endpoint
  firewallRules : List FirewallRule
  profiles : List ProfileState
  strategy : TargetStrategy
deriving DecidableEq, Repr

def ScanSnapshot.new (hostId : HostId) (scanId : ScanId) (collectedAt : OffsetDateTime)
    (collectorVersion : String) (endpoints : List Endpoint) (firewallRules : List FirewallRule)
    (profiles : List ProfileState) (strategy : TargetStrategy) : ScanSnapshot where
  hostId := hostId
  scanId := scanId
  collectedAt := collectedAt
  collectorVersion := collectorVersion
  endpoints := sortByKey Endpoint.sortKey endpoints
  firewallRules := sortByKey FirewallRule.sortKey firewallRules
  profiles := sortByKey ProfileState.sortKey profiles
  strategy := strategy

end AnneDeBreuil
