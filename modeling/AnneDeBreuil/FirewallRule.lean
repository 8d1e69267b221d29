import AnneDeBreuil.PortSpec

namespace AnneDeBreuil

inductive RuleAction
  | allow
  | block
deriving DecidableEq, Repr

def RuleAction.fromStr : String → Except DomainError RuleAction :=
  parseKeyword [("allow", .allow), ("block", .block), ("deny", .block)] .invalidRuleAction

inductive Direction
  | inbound
  | outbound
deriving DecidableEq, Repr

def Direction.fromStr : String → Except DomainError Direction :=
  parseKeyword [("inbound", .inbound), ("in", .inbound), ("outbound", .outbound), ("out", .outbound)]
    .invalidDirection

/-- One firewall rule as observed on a host. -/
structure FirewallRule where
  ruleId : RuleId
  displayName : String
  direction : Direction
  action : RuleAction
  protocol : Protocol
  portSpec : PortSpec
  programFilter : Option ProcessPath
  serviceFilter : Option ServiceName
  enabled : Bool
  policyStore : PolicyStore
deriving DecidableEq, Repr

def FirewallRule.sortKey (rule : FirewallRule) : Nat := rule.ruleId.uuid.toNat

inductive FirewallProfileKind
  | domain
  | privateNetwork
  | publicNetwork
deriving DecidableEq, Repr

def FirewallProfileKind.fromStr : String → Except DomainError FirewallProfileKind :=
  parseKeyword [("domain", .domain), ("private", .privateNetwork),
    ("public", .publicNetwork)] .invalidFirewallProfileKind

/-- The observed state of one firewall profile. -/
structure ProfileState where
  profile : FirewallProfileKind
  enabled : Bool
  defaultInboundAction : RuleAction
  defaultOutboundAction : RuleAction
deriving DecidableEq, Repr

/-- The derived order of the profile kinds is their declaration order. -/
def ProfileState.sortKey (state : ProfileState) : Nat := state.profile.ctorIdx

end AnneDeBreuil
