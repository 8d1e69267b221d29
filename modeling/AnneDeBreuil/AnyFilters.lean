import AnneDeBreuil.InForceRules
import AnneDeBreuil.WindowsRules

namespace AnneDeBreuil

/-- A Windows firewall rule as one of the two collection paths receives it,
the WMI rule with the filter tables it is joined to. -/
inductive WindowsRule
  | powershell (rule : PsFirewallRule)
  | wmi (rule : WmiFirewallRule) (portFilters : List WmiPortFilter)
      (appFilters : List WmiApplicationFilter) (serviceFilters : List WmiServiceFilter)

namespace WindowsRule

def rawRules : WindowsRule → List RawRule
  | powershell rule => [rule.intoRawRule]
  | wmi rule ports apps services => assembleRules [rule] ports apps services

def protocolFilter : WindowsRule → Option String
  | powershell rule => rule.protocol
  | wmi rule ports _ _ => (indexBy WmiPortFilter.instanceId ports rule.instanceId).bind WmiPortFilter.protocol

def portFilter : WindowsRule → List String
  | powershell rule => rule.localPorts
  | wmi rule ports _ _ =>
    ((indexBy WmiPortFilter.instanceId ports rule.instanceId).bind WmiPortFilter.localPort).toList

def programFilter : WindowsRule → Option String
  | powershell rule => rule.programFilter
  | wmi rule _ apps _ =>
    (indexBy WmiApplicationFilter.instanceId apps rule.instanceId).bind WmiApplicationFilter.program

def serviceFilter : WindowsRule → Option String
  | powershell rule => rule.serviceFilter
  | wmi rule _ _ services =>
    (indexBy WmiServiceFilter.instanceId services rule.instanceId).bind WmiServiceFilter.service

def direction : WindowsRule → String
  | powershell rule => rule.direction
  | wmi rule _ _ _ => directionText rule.direction

def action : WindowsRule → String
  | powershell rule => rule.action
  | wmi rule _ _ _ => actionText rule.action

def policyStore : WindowsRule → String
  | powershell rule => (rule.policyStoreSourceType.or rule.policyStoreSource).getD "Local"
  | wmi rule _ _ _ => policyStoreText rule.policyStoreSourceType

/-- Every filter is absent or the literal `Any`, in any letter case. -/
structure Unrestricted (rule : WindowsRule) : Prop where
  protocol : ∀ text ∈ rule.protocolFilter, eqIgnoreAsciiCase text "any" = true
  ports : ∀ text ∈ rule.portFilter, eqIgnoreAsciiCase text "any" = true
  program : ∀ text ∈ rule.programFilter, eqIgnoreAsciiCase text "any" = true
  service : ∀ text ∈ rule.serviceFilter, eqIgnoreAsciiCase text "any" = true

end WindowsRule

/-- The mapped rules include one that applies to the endpoint. -/
def AppliesAfterMapping (crates : IdCrates) (target : Target) (rule : WindowsRule) (endpoint : Endpoint) :
    Prop :=
  ∃ rules, firewallRulesFromRaw crates rule.rawRules = .ok rules ∧
    ∃ mapped ∈ rules, ruleApplies target mapped endpoint = true

instance (crates : IdCrates) (target : Target) (rule : WindowsRule) (endpoint : Endpoint) :
    Decidable (AppliesAfterMapping crates target rule endpoint) :=
  match h : firewallRulesFromRaw crates rule.rawRules with
  | .ok rules =>
    decidable_of_iff (∃ mapped ∈ rules, ruleApplies target mapped endpoint = true)
      (by simp [AppliesAfterMapping, h])
  | .error _ => isFalse (by simp [AppliesAfterMapping, h])

theorem noneIfAny_of_any {filter : Option String} (h : ∀ text ∈ filter, eqIgnoreAsciiCase text "any" = true) :
    noneIfAny filter = none := by
  cases filter with
  | none => rfl
  | some text => simp [noneIfAny, h text rfl]

theorem tryFromText_of_any {α : Type} {field text : String} {mk : String → α}
    (h : eqIgnoreAsciiCase text "any" = true) : tryFromText field mk text = .ok (mk text) := by
  have nonempty : text ≠ "" := by
    rintro rfl
    simp [eqIgnoreAsciiCase] at h
  simp [tryFromText, trim_of_any h, nonempty]

theorem parseOptional_of_any {α : Type} {field : String} {mk : String → α} {filter : Option String}
    (h : ∀ text ∈ filter, eqIgnoreAsciiCase text "any" = true) :
    parseOptional (tryFromText field mk) filter = .ok (filter.map mk) := by
  cases filter with
  | none => rfl
  | some text =>
    simp only [parseOptional, tryFromText_of_any (h text rfl)]
    rfl

/-- Both paths drop the protocol and the ports of an unrestricted rule, and
neither drops its program or its service. -/
theorem rawRules_of_unrestricted {rule : WindowsRule} (h : rule.Unrestricted) :
    ∃ raw, rule.rawRules = [raw] ∧ raw.protocol = none ∧ raw.localPortSpec = none ∧
      raw.programFilter = rule.programFilter ∧ raw.serviceFilter = rule.serviceFilter ∧
      raw.direction = rule.direction ∧ raw.action = rule.action ∧ raw.policyStore = rule.policyStore := by
  cases rule with
  | powershell ps =>
    have noPorts : ps.localPortSpec = none := by
      have empty : ps.localPorts.filter
          (fun port => !eqIgnoreAsciiCase port "any" && port ≠ "") = [] := by
        apply List.filter_eq_nil_iff.mpr
        intro text ht
        simp [h.ports text ht]
      simp only [PsFirewallRule.localPortSpec, empty]
      rfl
    exact ⟨ps.intoRawRule, rfl, noneIfAny_of_any h.protocol, noPorts, rfl, rfl, rfl, rfl, rfl⟩
  | wmi row ports apps services =>
    refine ⟨_, rfl, noneIfAny_of_any h.protocol, noneIfAny_of_any ?_, rfl, rfl, rfl, rfl, rfl⟩
    intro text ht
    exact h.ports text (Option.mem_toList.mpr ht)

/-- A rule with no protocol and no port filter maps to one rule per protocol
once its own texts parse, and its filters are those texts. -/
theorem firewallRuleFromRaw_of_any (crates : IdCrates) {raw : RawRule} {direction : Direction}
    {action : RuleAction} {policyStore : PolicyStore}
    (hproto : raw.protocol = none) (hports : raw.localPortSpec = none)
    (hprogram : ∀ text ∈ raw.programFilter, eqIgnoreAsciiCase text "any" = true)
    (hservice : ∀ text ∈ raw.serviceFilter, eqIgnoreAsciiCase text "any" = true)
    (hd : Direction.fromStr raw.direction = .ok direction) (ha : RuleAction.fromStr raw.action = .ok action)
    (hs : PolicyStore.fromStr raw.policyStore = .ok policyStore) :
    ∃ rule : Protocol → FirewallRule,
      firewallRuleFromRaw crates raw = .ok [rule .tcp, rule .udp] ∧
      ∀ protocol, (rule protocol).protocol = protocol ∧ (rule protocol).portSpec = .any ∧
        (rule protocol).programFilter = raw.programFilter.map ProcessPath.mk ∧
        (rule protocol).serviceFilter = raw.serviceFilter.map ServiceName.mk := by
  have hp : parseOptional ProcessPath.tryFrom raw.programFilter = .ok (raw.programFilter.map .mk) :=
    parseOptional_of_any hprogram
  have hv : parseOptional ServiceName.tryFrom raw.serviceFilter = .ok (raw.serviceFilter.map .mk) :=
    parseOptional_of_any hservice
  have hfields : raw.fields = .ok ⟨direction, action, .any, raw.programFilter.map .mk, raw.serviceFilter.map .mk,
      policyStore⟩ := RawRule.fields_ok_iff.mpr ⟨hd, ha, by rw [hports]; rfl, hp, hv, hs⟩
  refine ⟨raw.ruleFor crates ⟨direction, action, .any, raw.programFilter.map .mk, raw.serviceFilter.map .mk,
    policyStore⟩, firewallRuleFromRaw_ok_iff.mpr ⟨_, hfields, ?_⟩, fun protocol => ⟨rfl, rfl, rfl, rfl⟩⟩
  rw [RawRule.protocols, hproto]
  rfl

/-- Mapping succeeds only when the direction, action and store texts parse. -/
theorem firewallRuleFromRaw_texts {crates : IdCrates} {raw : RawRule} {rules : List FirewallRule}
    (h : firewallRuleFromRaw crates raw = .ok rules) :
    (∃ direction, Direction.fromStr raw.direction = .ok direction) ∧
    (∃ action, RuleAction.fromStr raw.action = .ok action) ∧
    (∃ policyStore, PolicyStore.fromStr raw.policyStore = .ok policyStore) := by
  obtain ⟨fields, hfields, -⟩ := firewallRuleFromRaw_ok_iff.mp h
  obtain ⟨hd, ha, -, -, -, hs⟩ := RawRule.fields_ok_iff.mp hfields
  exact ⟨⟨_, hd⟩, ⟨_, ha⟩, ⟨_, hs⟩⟩

/-- A rule mapped from `Any` filters applies where its program text, taken as a
path, and its service text, taken as a name, happen to agree with the endpoint. -/
theorem ruleApplies_of_any {target : Target} {rule : FirewallRule} {endpoint : Endpoint}
    {program service : Option String} (hproto : rule.protocol = endpoint.protocol)
    (hports : rule.portSpec = .any) (hprogram : rule.programFilter = program.map .mk)
    (hservice : rule.serviceFilter = service.map .mk) :
    ruleApplies target rule endpoint = true ↔
      (∀ text ∈ program, ∃ path, endpoint.processPath = some path ∧
        compareProgramPaths target text path.asStr = true) ∧
      (∀ text ∈ service, ServiceName.mk text ∈ endpoint.hostedServices) := by
  simp only [ruleApplies, hproto, hports, hprogram, hservice, PortSpec.matches, beq_self_eq_true,
    Bool.true_and, Bool.and_eq_true]
  apply and_congr
  · cases program with
    | none => simp
    | some text =>
      cases hpath : endpoint.processPath with
      | none => simp [programFilterMatches]
      | some path => simp [programFilterMatches, expandEnvVars_none]
  · cases service with
    | none => simp
    | some text => simp

/-- An `Any` program or service filter is kept as a literal path or name on
both paths: the rule applies exactly when its other texts parse and each of the
two is absent or matches the endpoint by that literal. -/
theorem appliesAfterMapping_iff (crates : IdCrates) (target : Target) (rule : WindowsRule)
    (endpoint : Endpoint) (h : rule.Unrestricted) :
    AppliesAfterMapping crates target rule endpoint ↔
      ((∃ direction, Direction.fromStr rule.direction = .ok direction) ∧
        (∃ action, RuleAction.fromStr rule.action = .ok action) ∧
        (∃ policyStore, PolicyStore.fromStr rule.policyStore = .ok policyStore)) ∧
      (∀ text ∈ rule.programFilter, ∃ path, endpoint.processPath = some path ∧
        compareProgramPaths target text path.asStr = true) ∧
      (∀ text ∈ rule.serviceFilter, ServiceName.mk text ∈ endpoint.hostedServices) := by
  obtain ⟨raw, hraw, hproto, hports, hprogram, hservice, hd, ha, hs⟩ := rawRules_of_unrestricted h
  simp only [AppliesAfterMapping, hraw, firewallRulesFromRaw_singleton, ← hprogram, ← hservice, ← hd,
    ← ha, ← hs]
  have anyProgram : ∀ text ∈ raw.programFilter, eqIgnoreAsciiCase text "any" = true := hprogram ▸ h.program
  have anyService : ∀ text ∈ raw.serviceFilter, eqIgnoreAsciiCase text "any" = true := hservice ▸ h.service
  constructor
  · rintro ⟨rules, hok, mapped, hm, happ⟩
    have texts := firewallRuleFromRaw_texts hok
    refine ⟨texts, ?_⟩
    obtain ⟨⟨_, hd⟩, ⟨_, ha⟩, ⟨_, hs⟩⟩ := texts
    obtain ⟨mk, hmk, hfields⟩ := firewallRuleFromRaw_of_any crates hproto hports anyProgram anyService
      hd ha hs
    cases Except.ok.inj (hok.symm.trans hmk)
    have shape : ∃ protocol, mapped = mk protocol := by
      simp only [List.mem_cons, List.not_mem_nil, or_false] at hm
      rcases hm with rfl | rfl
      · exact ⟨_, rfl⟩
      · exact ⟨_, rfl⟩
    obtain ⟨protocol, rfl⟩ := shape
    obtain ⟨hp, hspec, hpath, hname⟩ := hfields protocol
    have same : (mk protocol).protocol = endpoint.protocol := by
      simp only [ruleApplies, Bool.and_eq_true, beq_iff_eq] at happ
      exact happ.1.1.1
    exact (ruleApplies_of_any same hspec hpath hname).mp happ
  · rintro ⟨⟨⟨_, hd⟩, ⟨_, ha⟩, ⟨_, hs⟩⟩, hfilters⟩
    obtain ⟨mk, hmk, hfields⟩ := firewallRuleFromRaw_of_any crates hproto hports anyProgram anyService
      hd ha hs
    obtain ⟨hp, hspec, hpath, hname⟩ := hfields endpoint.protocol
    refine ⟨_, hmk, mk endpoint.protocol, ?_, (ruleApplies_of_any hp hspec hpath hname).mpr hfilters⟩
    cases endpoint.protocol with
    | tcp => simp
    | udp => simp

/-- A rule whose identifier is a UUID, read by a parser that knows that one. -/
def guidCrates : IdCrates where
  uuidParseStr s :=
    if s = "7c7f6c3e-1b7b-4b0a-9c1d-3a5e2f9b0a11" then some 0x7c7f6c3e1b7b4b0a9c1d3a5e2f9b0a11#128 else none
  blake3Hash _ := 0#256

def anyPsRule (program service : Option String) : PsFirewallRule where
  ruleId := "7c7f6c3e-1b7b-4b0a-9c1d-3a5e2f9b0a11"
  displayName := "Windows Media Player"
  direction := "Inbound"
  action := "Allow"
  protocol := some "Any"
  localPorts := ["Any"]
  programFilter := program
  serviceFilter := service
  enabled := true
  policyStoreSourceType := some "Local"
  policyStoreSource := some "PersistentStore"

def anyWmiRule (program service : Option String) : WindowsRule :=
  let id := "7c7f6c3e-1b7b-4b0a-9c1d-3a5e2f9b0a11"
  .wmi ⟨id, "Windows Media Player", 1, 1, 1, 0⟩ [⟨id, some "Any", some "Any"⟩] [⟨id, program⟩] [⟨id, service⟩]

/-- With the filters absent the rule applies to a listener it does not name. -/
theorem appliesAfterMapping_absent :
    AppliesAfterMapping guidCrates .windows (.powershell (anyPsRule none none)) (wildcardListener 443) :=
  (appliesAfterMapping_iff guidCrates .windows (.powershell (anyPsRule none none)) (wildcardListener 443)
    ⟨by decide, by decide, by decide, by decide⟩).mpr
    ⟨⟨⟨.inbound, by decide⟩, ⟨.allow, by decide⟩, ⟨.local, by decide⟩⟩, by decide, by decide⟩

/-- With the literal `Any` as program and service, as a real capture has them,
the rule applies on neither path. -/
theorem appliesAfterMapping_counterexample :
    (WindowsRule.powershell (anyPsRule (some "Any") (some "Any"))).Unrestricted ∧
    ¬ AppliesAfterMapping guidCrates .windows (.powershell (anyPsRule (some "Any") (some "Any")))
      (wildcardListener 443) ∧
    (anyWmiRule (some "Any") (some "Any")).Unrestricted ∧
    ¬ AppliesAfterMapping guidCrates .windows (anyWmiRule (some "Any") (some "Any"))
      (wildcardListener 443) :=
  ⟨⟨by decide, by decide, by decide, by decide⟩, by decide +kernel,
    ⟨by decide, by decide, by decide, by decide⟩, by decide +kernel⟩

end AnneDeBreuil
