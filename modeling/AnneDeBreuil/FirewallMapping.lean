import AnneDeBreuil.FirewallRule

namespace AnneDeBreuil

/-- The crates identifiers are read and derived with: `Uuid::parse_str` and
the BLAKE3 digest of some bytes. -/
structure IdCrates where
  uuidParseStr : String → Option Uuid
  blake3Hash : Utf8 → BitVec 256

/-- The identifier is the first half of the seed's digest. -/
def RuleId.synthesize (crates : IdCrates) (seed : String) : RuleId :=
  ⟨(crates.blake3Hash (utf8 seed)).extractLsb' 128 128⟩

def ruleIdFromRaw (crates : IdCrates) (rawRuleId : String) : RuleId :=
  match crates.uuidParseStr (trim rawRuleId) with
  | some uuid => ⟨uuid⟩
  | none => RuleId.synthesize crates rawRuleId

/-- A firewall rule in the platform's own text; a filter is `none` when the
rule carries none of that kind. -/
structure RawRule where
  ruleId : String
  displayName : String
  direction : String
  action : String
  protocol : Option String
  localPortSpec : Option String
  programFilter : Option String
  serviceFilter : Option String
  enabled : Bool
  policyStore : String
deriving DecidableEq, Repr

/-- `Option::map` followed by `transpose`: an absent text stays absent. -/
def parseOptional {α : Type} (parse : String → Except DomainError α) :
    Option String → Except DomainError (Option α)
  | none => .ok none
  | some text => (parse text).map some

def portSpecFromRaw : Option String → Except DomainError PortSpec
  | some spec => PortSpec.fromStr spec
  | none => .ok .any

/-- Zero, one or two domain rules for a raw rule: one per tracked protocol when
it names none, and none at all when it names a protocol that is not tracked. -/
def firewallRuleFromRaw (crates : IdCrates) (raw : RawRule) : Except DomainError (List FirewallRule) := do
  let direction ← Direction.fromStr raw.direction
  let action ← RuleAction.fromStr raw.action
  let portSpec ← portSpecFromRaw raw.localPortSpec
  let programFilter ← parseOptional ProcessPath.tryFrom raw.programFilter
  let serviceFilter ← parseOptional ServiceName.tryFrom raw.serviceFilter
  let policyStore ← PolicyStore.fromStr raw.policyStore
  let rule (protocol : Protocol) : FirewallRule := {
    ruleId := ruleIdFromRaw crates raw.ruleId
    displayName := raw.displayName
    direction := direction
    action := action
    protocol := protocol
    portSpec := portSpec
    programFilter := programFilter
    serviceFilter := serviceFilter
    enabled := raw.enabled
    policyStore := policyStore }
  match raw.protocol with
  | some protocolText =>
    match Protocol.fromStr protocolText with
    | .ok protocol => .ok [rule protocol]
    | .error (.invalidProtocol _) => .ok []
    | .error other => .error other
  | none => .ok [rule .tcp, rule .udp]

def firewallRulesFromRaw (crates : IdCrates) : List RawRule → Except DomainError (List FirewallRule)
  | [] => .ok []
  | raw :: raws => do
    let rules ← firewallRuleFromRaw crates raw
    let rest ← firewallRulesFromRaw crates raws
    .ok (rules ++ rest)

/-- The fields of a raw rule but its protocol, parsed. -/
structure RuleFields where
  direction : Direction
  action : RuleAction
  portSpec : PortSpec
  programFilter : Option ProcessPath
  serviceFilter : Option ServiceName
  policyStore : PolicyStore
deriving DecidableEq, Repr

def RawRule.fields (raw : RawRule) : Except DomainError RuleFields := do
  let direction ← Direction.fromStr raw.direction
  let action ← RuleAction.fromStr raw.action
  let portSpec ← portSpecFromRaw raw.localPortSpec
  let programFilter ← parseOptional ProcessPath.tryFrom raw.programFilter
  let serviceFilter ← parseOptional ServiceName.tryFrom raw.serviceFilter
  let policyStore ← PolicyStore.fromStr raw.policyStore
  .ok ⟨direction, action, portSpec, programFilter, serviceFilter, policyStore⟩

/-- The tracked protocols that a raw rule's protocol text stands for. -/
def RawRule.protocols (raw : RawRule) : List Protocol :=
  match raw.protocol with
  | none => [.tcp, .udp]
  | some text => (Protocol.fromStr text).toOption.toList

/-- The domain rule of a raw rule for one protocol. -/
def RawRule.ruleFor (crates : IdCrates) (raw : RawRule) (fields : RuleFields) (protocol : Protocol) :
    FirewallRule where
  ruleId := ruleIdFromRaw crates raw.ruleId
  displayName := raw.displayName
  direction := fields.direction
  action := fields.action
  protocol := protocol
  portSpec := fields.portSpec
  programFilter := fields.programFilter
  serviceFilter := fields.serviceFilter
  enabled := raw.enabled
  policyStore := fields.policyStore

theorem RawRule.fields_ok_iff {raw : RawRule} {fields : RuleFields} :
    raw.fields = .ok fields ↔
      Direction.fromStr raw.direction = .ok fields.direction ∧ RuleAction.fromStr raw.action = .ok fields.action ∧
      portSpecFromRaw raw.localPortSpec = .ok fields.portSpec ∧
      parseOptional ProcessPath.tryFrom raw.programFilter = .ok fields.programFilter ∧
      parseOptional ServiceName.tryFrom raw.serviceFilter = .ok fields.serviceFilter ∧
      PolicyStore.fromStr raw.policyStore = .ok fields.policyStore := by
  unfold RawRule.fields
  constructor
  · intro h
    obtain ⟨direction, hd, h⟩ := bind_eq_ok h
    obtain ⟨action, ha, h⟩ := bind_eq_ok h
    obtain ⟨portSpec, hp, h⟩ := bind_eq_ok h
    obtain ⟨programFilter, hf, h⟩ := bind_eq_ok h
    obtain ⟨serviceFilter, hv, h⟩ := bind_eq_ok h
    obtain ⟨policyStore, hs, h⟩ := bind_eq_ok h
    cases h
    exact ⟨hd, ha, hp, hf, hv, hs⟩
  · rintro ⟨hd, ha, hp, hf, hv, hs⟩
    rw [hd, ha, hp, hf, hv, hs]
    rfl

theorem parseKeyword_error {α : Type} {names : List (String × α)} {err : String → DomainError} {s : String}
    {e : DomainError} (h : parseKeyword names err s = .error e) : e = err s := by
  unfold parseKeyword at h
  split at h
  next => cases h
  next => exact (Except.error.inj h).symm

/-- A raw rule is mapped field by field, then once for each of its protocols. -/
theorem firewallRuleFromRaw_eq (crates : IdCrates) (raw : RawRule) :
    firewallRuleFromRaw crates raw = raw.fields.map fun fields => raw.protocols.map (raw.ruleFor crates fields) := by
  unfold firewallRuleFromRaw RawRule.fields RawRule.protocols
  cases Direction.fromStr raw.direction with
  | error e => rfl
  | ok direction =>
  cases RuleAction.fromStr raw.action with
  | error e => rfl
  | ok action =>
  cases portSpecFromRaw raw.localPortSpec with
  | error e => rfl
  | ok portSpec =>
  cases parseOptional ProcessPath.tryFrom raw.programFilter with
  | error e => rfl
  | ok programFilter =>
  cases parseOptional ServiceName.tryFrom raw.serviceFilter with
  | error e => rfl
  | ok serviceFilter =>
  cases PolicyStore.fromStr raw.policyStore with
  | error e => rfl
  | ok policyStore =>
    cases raw.protocol with
    | none => rfl
    | some text =>
      rcases hfrom : Protocol.fromStr text with e | protocol
      · cases parseKeyword_error hfrom
        simp only [bind, Except.bind, hfrom]
        rfl
      · simp only [bind, Except.bind, hfrom]
        rfl

theorem firewallRuleFromRaw_ok_iff {crates : IdCrates} {raw : RawRule} {rules : List FirewallRule} :
    firewallRuleFromRaw crates raw = .ok rules ↔
      ∃ fields, raw.fields = .ok fields ∧ rules = raw.protocols.map (raw.ruleFor crates fields) := by
  rw [firewallRuleFromRaw_eq]
  cases raw.fields with
  | error e => simp [Except.map]
  | ok fields => simp [Except.map, eq_comm]

@[simp] theorem firewallRulesFromRaw_singleton (crates : IdCrates) (raw : RawRule) :
    firewallRulesFromRaw crates [raw] = firewallRuleFromRaw crates raw := by
  simp only [firewallRulesFromRaw]
  cases firewallRuleFromRaw crates raw with
  | error e => rfl
  | ok rules => exact congrArg Except.ok (List.append_nil rules)

/-- No text is a UUID, and every digest is the same. -/
def constantCrates : IdCrates where
  uuidParseStr _ := none
  blake3Hash _ := 0#256

end AnneDeBreuil
