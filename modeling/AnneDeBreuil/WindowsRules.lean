import AnneDeBreuil.FirewallMapping
import AnneDeBreuil.IndexBy

namespace AnneDeBreuil

/-- One firewall rule as the PowerShell script emits it. -/
structure PsFirewallRule where
  ruleId : String
  displayName : String
  direction : String
  action : String
  protocol : Option String
  localPorts : List String
  programFilter : Option String
  serviceFilter : Option String
  enabled : Bool
  policyStoreSourceType : Option String
  policyStoreSource : Option String
deriving DecidableEq, Repr

/-- The ports that are neither `Any` nor empty, joined by commas. -/
def PsFirewallRule.localPortSpec (rule : PsFirewallRule) : Option String :=
  let ports := rule.localPorts.filter (fun port => !eqIgnoreAsciiCase port "any" && port ≠ "")
  if ports.isEmpty then none else some (String.intercalate "," ports)

def PsFirewallRule.protocolText (rule : PsFirewallRule) : Option String :=
  rule.protocol.filter (fun protocol => !eqIgnoreAsciiCase protocol "any")

/-- The program and service filters are passed on as they are. -/
def PsFirewallRule.intoRawRule (rule : PsFirewallRule) : RawRule where
  ruleId := rule.ruleId
  displayName := rule.displayName
  direction := rule.direction
  action := rule.action
  protocol := rule.protocolText
  localPortSpec := rule.localPortSpec
  programFilter := rule.programFilter
  serviceFilter := rule.serviceFilter
  enabled := rule.enabled
  policyStore := (rule.policyStoreSourceType.or rule.policyStoreSource).getD "Local"

/-- A row of `MSFT_NetFirewallRule`; its enumerations are numbers. -/
structure WmiFirewallRule where
  instanceId : String
  displayName : String
  direction : UInt32
  action : UInt32
  enabled : UInt32
  policyStoreSourceType : UInt32
deriving DecidableEq, Repr

structure WmiPortFilter where
  instanceId : String
  protocol : Option String
  localPort : Option String
deriving DecidableEq, Repr

structure WmiApplicationFilter where
  instanceId : String
  program : Option String
deriving DecidableEq, Repr

structure WmiServiceFilter where
  instanceId : String
  service : Option String
deriving DecidableEq, Repr

def directionText (direction : UInt32) : String :=
  if direction = 1 then "Inbound" else if direction = 2 then "Outbound" else toString direction

def actionText (action : UInt32) : String :=
  if action = 1 then "Allow" else if action = 2 then "Block" else toString action

def policyStoreText (policyStoreSourceType : UInt32) : String :=
  if policyStoreSourceType = 0 then "Local"
  else if policyStoreSourceType = 1 then "GroupPolicy"
  else if policyStoreSourceType = 2 then "Dynamic"
  else if policyStoreSourceType = 3 then "Static"
  else toString policyStoreSourceType

def noneIfAny (value : Option String) : Option String := value.filter (fun v => !eqIgnoreAsciiCase v "any")

def ruleFromWmi (rule : WmiFirewallRule) (filter : Option WmiPortFilter) : RawRule where
  ruleId := rule.instanceId
  displayName := rule.displayName
  direction := directionText rule.direction
  action := actionText rule.action
  protocol := noneIfAny (filter.bind WmiPortFilter.protocol)
  localPortSpec := noneIfAny (filter.bind WmiPortFilter.localPort)
  programFilter := none
  serviceFilter := none
  enabled := rule.enabled != 0
  policyStore := policyStoreText rule.policyStoreSourceType

def joinRulesToFilters (rules : List WmiFirewallRule) (filters : List WmiPortFilter) : List RawRule :=
  rules.map fun rule => ruleFromWmi rule (indexBy WmiPortFilter.instanceId filters rule.instanceId)

/-- Joins the rules to their three kinds of filter. Only the port filter goes
through `noneIfAny`. -/
def assembleRules (rules : List WmiFirewallRule) (portFilters : List WmiPortFilter)
    (appFilters : List WmiApplicationFilter) (serviceFilters : List WmiServiceFilter) : List RawRule :=
  (joinRulesToFilters rules portFilters).map fun rule =>
    { rule with
      programFilter := (indexBy WmiApplicationFilter.instanceId appFilters rule.ruleId).bind
        WmiApplicationFilter.program
      serviceFilter := (indexBy WmiServiceFilter.instanceId serviceFilters rule.ruleId).bind
        WmiServiceFilter.service }

end AnneDeBreuil
