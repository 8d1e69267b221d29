import AnneDeBreuil.FirewallRule

namespace AnneDeBreuil

structure AllowedPortEntry where
  ruleDisplayName : String
  portLabel : String
deriving DecidableEq, Repr

/-- One profile's inbound posture. -/
structure ProfilePortSummary where
  profile : FirewallProfileKind
  enabled : Bool
  defaultInboundAction : RuleAction
  allowed : List AllowedPortEntry
deriving DecidableEq, Repr

def summarizeInboundPorts (rules : List FirewallRule) (profiles : List ProfileState) : List ProfilePortSummary :=
  let allowed := ((rules.filter (fun rule => rule.enabled && rule.direction = .inbound)).filter
    (fun rule => rule.action = .allow)).map (fun rule => ⟨rule.displayName, rule.portSpec.displayLabel⟩)
  profiles.map fun state => ⟨state.profile, state.enabled, state.defaultInboundAction, allowed⟩

end AnneDeBreuil
