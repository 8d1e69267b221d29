import AnneDeBreuil.FirewallMapping
import AnneDeBreuil.PortGrammar

namespace AnneDeBreuil

def Protocol.word : Protocol → String
  | .tcp => "tcp"
  | .udp => "udp"

/-- The text is the protocol's name, in any letter case and with blanks around it. -/
def NamesProtocol (text : String) (protocol : Protocol) : Prop := eqIgnoreAsciiCase (trim text) protocol.word = true

/-- What a raw rule's own texts say of an endpoint; a text that is absent admits
every one. -/
structure RawRule.Admits (target : Target) (raw : RawRule) (endpoint : Endpoint) : Prop where
  protocol : ∀ text, raw.protocol = some text → NamesProtocol text endpoint.protocol
  ports : ∀ text, raw.localPortSpec = some text →
    ∃ ports, TextDenotes PlusDecimal text ports ∧ endpoint.port.get.toNat ∈ ports
  program : ∀ text, raw.programFilter = some text →
    ∃ path, endpoint.processPath = some path ∧ SameProgram target (trim text) path.asStr
  service : ∀ text, raw.serviceFilter = some text → ∃ service ∈ endpoint.hostedServices, service.asStr = trim text

/-- The rules a raw rule is mapped to: one for each protocol it stands for, of
which one applies exactly to the endpoints that the raw rule admits. -/
structure RuleGroup (raw : RawRule) (group : List FirewallRule) : Prop where
  unrestricted : raw.protocol = none →
    ∃ rule : FirewallRule, group = [{ rule with protocol := .tcp }, { rule with protocol := .udp }]
  tracked : ∀ text protocol, raw.protocol = some text → NamesProtocol text protocol →
    ∃ rule, group = [rule] ∧ rule.protocol = protocol
  untracked : ∀ text, raw.protocol = some text → (∀ protocol, ¬NamesProtocol text protocol) → group = []
  applies : ∀ target endpoint,
    (∃ rule ∈ group, ruleApplies target rule endpoint = true) ↔ raw.Admits target endpoint
  once : ∀ target endpoint, raw.Admits target endpoint → group.countP (ruleApplies target · endpoint) = 1

section

variable {crates : IdCrates} {target : Target} {raw : RawRule} {fields : RuleFields} {endpoint : Endpoint}

theorem protocolFromStr_iff {text : String} {protocol : Protocol} :
    Protocol.fromStr text = .ok protocol ↔ NamesProtocol text protocol := by
  unfold NamesProtocol
  simp only [Protocol.fromStr, parseKeyword, List.find?_cons, List.find?_nil]
  by_cases htcp : eqIgnoreAsciiCase (trim text) "tcp" = true
  · have noUdp : ¬eqIgnoreAsciiCase (trim text) "udp" = true := by
      simp only [eqIgnoreAsciiCase_iff] at htcp ⊢
      rw [htcp]
      decide
    cases protocol <;> simp [htcp, noUdp, Protocol.word]
  · by_cases hudp : eqIgnoreAsciiCase (trim text) "udp" = true
    · cases protocol <;> simp [htcp, hudp, Protocol.word]
    · cases protocol <;> simp [htcp, hudp, Protocol.word]

theorem mem_protocols {protocol : Protocol} :
    protocol ∈ raw.protocols ↔ ∀ text, raw.protocol = some text → NamesProtocol text protocol := by
  unfold RawRule.protocols
  cases raw.protocol with
  | none => cases protocol <;> simp
  | some text =>
    have ok : protocol ∈ (Protocol.fromStr text).toOption.toList ↔ Protocol.fromStr text = .ok protocol := by
      cases Protocol.fromStr text with
      | error e => simp [Except.toOption]
      | ok own => simp [Except.toOption, eq_comm]
    simp [ok, protocolFromStr_iff]

theorem protocols_nodup (raw : RawRule) : raw.protocols.Nodup := by
  unfold RawRule.protocols
  cases raw.protocol with
  | none => decide
  | some text =>
    cases h : Protocol.fromStr text with
    | error e => simp [h, Except.toOption]
    | ok own => simp [h, Except.toOption]

/-- The spec of a port text matches what the text denotes, or every port where there is none. -/
theorem portSpecFromRaw_matches {spec : Option String} {parsed : PortSpec} (h : portSpecFromRaw spec = .ok parsed)
    (port : Port) : parsed.matches port = true ↔
      ∀ text, spec = some text → ∃ ports, TextDenotes PlusDecimal text ports ∧ port.get.toNat ∈ ports := by
  cases spec with
  | none =>
    cases h
    exact iff_of_true rfl nofun
  | some text =>
    obtain ⟨ports, denotes⟩ := textDenotes_of_parses h
    rw [denotes.matches_iff h]
    constructor
    · intro hmem other hother
      cases hother
      exact ⟨ports, denotes, hmem⟩
    · intro each
      obtain ⟨other, hother, hmem⟩ := each text rfl
      rwa [← denotes.matches_iff h, hother.matches_iff h]

theorem parseOptional_tryFromText {α : Type} {field : String} {mk : String → α} {filter : Option String}
    {parsed : Option α} (h : parseOptional (tryFromText field mk) filter = .ok parsed) :
    parsed = filter.map fun text => mk (trim text) := by
  cases filter with
  | none =>
    cases h
    rfl
  | some text =>
    unfold parseOptional tryFromText at h
    dsimp only at h
    split at h
    next => cases h
    next => cases h; rfl

/-- The rule for one protocol applies where the protocol is the endpoint's and
the raw rule's other texts admit it. -/
theorem ruleFor_applies (hfields : raw.fields = .ok fields) {protocol : Protocol} (hprotocol : protocol ∈ raw.protocols) :
    ruleApplies target (raw.ruleFor crates fields protocol) endpoint = true ↔
      protocol = endpoint.protocol ∧ raw.Admits target endpoint := by
  obtain ⟨-, -, hports, hprogram, hservice, -⟩ := RawRule.fields_ok_iff.mp hfields
  have program := parseOptional_tryFromText hprogram
  have service := parseOptional_tryFromText hservice
  rw [ruleApplies_iff_governs]
  constructor
  · intro governs
    refine ⟨governs.protocol, fun text htext => ?_, ?_, fun text htext => ?_, fun text htext => ?_⟩
    · rw [← governs.protocol]
      exact mem_protocols.mp hprotocol text htext
    · rw [← portSpecFromRaw_matches hports, PortSpec.matches_iff_covers]
      exact governs.ports
    · exact governs.program ⟨trim text⟩ (program.trans (by rw [htext]; rfl))
    · exact ⟨_, governs.service ⟨trim text⟩ (service.trans (by rw [htext]; rfl)), rfl⟩
  · rintro ⟨same, admits⟩
    refine ⟨same, ?_, fun filter hfilter => ?_, fun name hname => ?_⟩
    · rw [← PortSpec.matches_iff_covers]
      exact (portSpecFromRaw_matches hports _).mpr admits.ports
    · obtain ⟨text, htext, rfl⟩ := Option.map_eq_some_iff.mp (program.symm.trans hfilter)
      exact admits.program text htext
    · obtain ⟨text, htext, rfl⟩ := Option.map_eq_some_iff.mp (service.symm.trans hname)
      obtain ⟨own, hown, hsame⟩ := admits.service text htext
      rwa [← hsame]

theorem ruleGroup_of_mapped {group : List FirewallRule} (h : firewallRuleFromRaw crates raw = .ok group) :
    RuleGroup raw group := by
  obtain ⟨fields, hfields, rfl⟩ := firewallRuleFromRaw_ok_iff.mp h
  refine ⟨?_, ?_, ?_, ?_, ?_⟩
  · intro hnone
    refine ⟨raw.ruleFor crates fields .tcp, ?_⟩
    rw [RawRule.protocols, hnone]
    rfl
  · intro text protocol htext hnames
    refine ⟨raw.ruleFor crates fields protocol, ?_, rfl⟩
    rw [RawRule.protocols, htext]
    simp [protocolFromStr_iff.mpr hnames, Except.toOption]
  · intro text htext hnone
    rw [List.map_eq_nil_iff, List.eq_nil_iff_forall_not_mem]
    exact fun protocol hmem => hnone protocol (mem_protocols.mp hmem text htext)
  · intro target endpoint
    constructor
    · rintro ⟨rule, hrule, happlies⟩
      obtain ⟨protocol, hprotocol, rfl⟩ := List.mem_map.mp hrule
      exact ((ruleFor_applies hfields hprotocol).mp happlies).2
    · intro admits
      have own : endpoint.protocol ∈ raw.protocols := mem_protocols.mpr admits.protocol
      exact ⟨_, List.mem_map_of_mem own, (ruleFor_applies hfields own).mpr ⟨rfl, admits⟩⟩
  · intro target endpoint admits
    have own : endpoint.protocol ∈ raw.protocols := mem_protocols.mpr admits.protocol
    calc (raw.protocols.map (raw.ruleFor crates fields)).countP (ruleApplies target · endpoint)
        = raw.protocols.countP (· == endpoint.protocol) := by
          rw [List.countP_map]
          apply List.countP_congr
          intro protocol hprotocol
          simp [ruleFor_applies hfields hprotocol, admits]
      _ = 1 := List.count_eq_one_of_mem (protocols_nodup raw) own

end

/-- The mapped list is one group for each raw rule, in their order. -/
theorem firewallRulesFromRaw_groups (crates : IdCrates) (raws : List RawRule) (rules : List FirewallRule)
    (h : firewallRulesFromRaw crates raws = .ok rules) :
    ∃ groups, rules = groups.flatten ∧ List.Forall₂ RuleGroup raws groups := by
  induction raws generalizing rules with
  | nil =>
    cases h
    exact ⟨[], rfl, .nil⟩
  | cons raw raws ih =>
    obtain ⟨group, hgroup, h⟩ := bind_eq_ok h
    obtain ⟨rest, hrest, h⟩ := bind_eq_ok h
    cases h
    obtain ⟨groups, rfl, each⟩ := ih rest hrest
    exact ⟨group :: groups, rfl, .cons (ruleGroup_of_mapped hgroup) each⟩

def anyProtocolRule : RawRule where
  ruleId := "nftables/inet-filter/input"
  displayName := "Allow HTTPS"
  direction := "Inbound"
  action := "Allow"
  protocol := none
  localPortSpec := some "443, 8000-8010"
  programFilter := none
  serviceFilter := none
  enabled := true
  policyStore := "nftables"

/-- A rule for both protocols, one for UDP and one for neither. -/
def mixedRules : List RawRule :=
  [anyProtocolRule, { anyProtocolRule with protocol := some " udp" }, { anyProtocolRule with protocol := some "ICMPv4" }]

theorem firewallRulesFromRaw_groups_mixed :
    ∃ groups, List.Forall₂ RuleGroup mixedRules groups ∧ groups.flatten.length = 3 := by
  have three : (firewallRulesFromRaw constantCrates mixedRules).toOption.map List.length = some 3 := by decide +kernel
  obtain ⟨rules, hrules, hlength⟩ := Option.map_eq_some_iff.mp three
  cases hok : firewallRulesFromRaw constantCrates mixedRules with
  | error e => simp [hok, Except.toOption] at hrules
  | ok mapped =>
    obtain ⟨groups, hgroups, each⟩ := firewallRulesFromRaw_groups constantCrates mixedRules mapped hok
    refine ⟨groups, each, ?_⟩
    rw [hok] at hrules
    cases hrules
    rwa [← hgroups]

end AnneDeBreuil
