import AnneDeBreuil.Precedence
import AnneDeBreuil.WindowsRules

namespace AnneDeBreuil

/-- The members of a port text, between its commas. -/
def PortSpec.members (text : String) : List String :=
  ((text.toList.splitOn ',').map trimChars).map String.ofList

/-- The text parses on its own, to a spec that matches the port. -/
def PortSpec.TextMatches (text : String) (port : Port) : Prop :=
  ∃ spec, PortSpec.fromStr text = .ok spec ∧ spec.matches port = true

section

variable {text : String} {texts : List String} {spec : PortSpec} {port : Port}

theorem PortSpec.members_trim (text : String) : PortSpec.members (trim text) = PortSpec.members text := by
  simp only [PortSpec.members, trim, String.toList_ofList,
    splitOn_trimChars (show isWhitespace ',' = false by decide)]

theorem PortSpec.members_of_scalar (h : ',' ∉ (trim text).toList) : PortSpec.members text = [trim text] := by
  rw [← PortSpec.members_trim, PortSpec.members, List.splitOn_eq_singleton h]
  simp [trim]

theorem PortSpec.members_intercalate (h : texts ≠ []) :
    PortSpec.members (String.intercalate "," texts) = texts.flatMap PortSpec.members := by
  have joined : (String.intercalate "," texts).toList.splitOn ',' = texts.flatMap (·.toList.splitOn ',') := by
    rw [String.toList_intercalate, show ",".toList = [','] from rfl,
      splitOn_intercalate_flatMap _ (by simpa using h), List.flatMap_map]
  simp only [PortSpec.members, joined, List.map_flatMap]
  rfl

theorem fromScalar_trim : PortSpec.fromScalar (trim text) = .ok spec ↔ PortSpec.fromScalar text = .ok spec := by
  unfold PortSpec.fromScalar
  simp only [trim_trim]
  by_cases hempty : trim text = ""
  · simp [hempty]
  · simp [hempty]

theorem fromStr_of_comma (h : ',' ∈ (trim text).toList) :
    PortSpec.fromStr text = ((PortSpec.members text).mapM PortSpec.fromScalar).map .list := by
  have trimmed : ∀ part, trim (String.ofList part) = String.ofList (trimChars part) := fun part => by
    rw [trim, String.toList_ofList]
  rw [PortSpec.fromStr, if_pos h, ← PortSpec.members_trim]
  simp only [PortSpec.members, List.map_map, List.mapM_map, trimmed, Function.comp_def]

/-- A text parses exactly when each of its members does. -/
theorem fromStr_parses :
    (∃ spec, PortSpec.fromStr text = .ok spec) ↔
      ∀ member ∈ PortSpec.members text, ∃ spec, PortSpec.fromScalar member = .ok spec := by
  by_cases hcomma : ',' ∈ (trim text).toList
  · rw [fromStr_of_comma hcomma, ← mapM_ok_iff]
    constructor
    · rintro ⟨spec, h⟩
      cases hspecs : (PortSpec.members text).mapM PortSpec.fromScalar with
      | error e => simp [hspecs, Except.map] at h
      | ok specs => exact ⟨specs, rfl⟩
    · rintro ⟨specs, h⟩
      exact ⟨.list specs, by rw [h]; rfl⟩
  · rw [PortSpec.members_of_scalar hcomma, PortSpec.fromStr, if_neg hcomma]
    simp [fromScalar_trim]

/-- What it parses to matches the ports that its members match. -/
theorem fromStr_matches (h : PortSpec.fromStr text = .ok spec) :
    spec.matches port = true ↔
      ∃ member ∈ PortSpec.members text, ∃ s, PortSpec.fromScalar member = .ok s ∧ s.matches port = true := by
  by_cases hcomma : ',' ∈ (trim text).toList
  · rw [fromStr_of_comma hcomma] at h
    cases hspecs : (PortSpec.members text).mapM PortSpec.fromScalar with
    | error e => simp [hspecs, Except.map] at h
    | ok specs =>
      rw [hspecs] at h
      cases h
      have each := mapM_eq_ok_iff.mp hspecs
      simp only [PortSpec.matches, PortSpec.anyMatches_eq, List.any_eq_true]
      clear hspecs
      generalize PortSpec.members text = members at each
      induction each with
      | nil => simp
      | cons hmember _ ih => simp only [List.mem_cons, exists_eq_or_imp, hmember, Except.ok.injEq, exists_eq_left', ih]
  · rw [PortSpec.fromStr, if_neg hcomma] at h
    rw [PortSpec.members_of_scalar hcomma]
    simp [fromScalar_trim, h]

/-- Joining texts by commas and reading the result neither adds nor loses a port. -/
theorem fromStr_intercalate (hne : texts ≠ []) (parses : ∀ text ∈ texts, ∃ spec, PortSpec.fromStr text = .ok spec) :
    ∃ spec, PortSpec.fromStr (String.intercalate "," texts) = .ok spec ∧
      ∀ port, spec.matches port = true ↔ ∃ text ∈ texts, PortSpec.TextMatches text port := by
  have members := PortSpec.members_intercalate hne
  obtain ⟨spec, hspec⟩ : ∃ spec, PortSpec.fromStr (String.intercalate "," texts) = .ok spec := by
    rw [fromStr_parses, members]
    intro member hmember
    obtain ⟨text, htext, hmember⟩ := List.mem_flatMap.mp hmember
    exact fromStr_parses.mp (parses text htext) member hmember
  refine ⟨spec, hspec, fun port => ?_⟩
  rw [fromStr_matches hspec, members]
  constructor
  · rintro ⟨member, hmember, s, hs, hmatches⟩
    obtain ⟨text, htext, hmember⟩ := List.mem_flatMap.mp hmember
    obtain ⟨own, hown⟩ := parses text htext
    exact ⟨text, htext, own, hown, (fromStr_matches hown).mpr ⟨member, hmember, s, hs, hmatches⟩⟩
  · rintro ⟨text, htext, own, hown, hmatches⟩
    obtain ⟨member, hmember, s, hs, hmatches⟩ := (fromStr_matches hown).mp hmatches
    exact ⟨member, List.mem_flatMap.mpr ⟨text, htext, hmember⟩, s, hs, hmatches⟩

def isAnyWord (text : String) : Bool := eqIgnoreAsciiCase text "any"

theorem fromStr_any (h : isAnyWord text = true) : PortSpec.fromStr text = .ok .any := by
  have word : eqIgnoreAsciiCase text "any" = true := h
  have lowered := eqIgnoreAsciiCase_iff.mp word
  have noComma : ',' ∉ text.toList := by
    intro hmem
    have hlower := List.mem_map_of_mem (f := Char.toLower) hmem
    rw [lowered] at hlower
    simp at hlower
  have nonempty : text ≠ "" := by
    rintro rfl
    simp at lowered
  rw [PortSpec.fromStr, trim_of_any word, if_neg noComma]
  simp [PortSpec.fromScalar, trim_of_any word, nonempty, word]

end

/-- The mapped rules of a raw rule carry its own port spec. -/
theorem firewallRuleFromRaw_portSpec {crates : IdCrates} {raw : RawRule} {rules : List FirewallRule}
    (h : firewallRuleFromRaw crates raw = .ok rules) :
    ∀ rule ∈ rules, portSpecFromRaw raw.localPortSpec = .ok rule.portSpec := by
  obtain ⟨fields, hfields, rfl⟩ := firewallRuleFromRaw_ok_iff.mp h
  intro rule hrule
  obtain ⟨protocol, -, rfl⟩ := List.mem_map.mp hrule
  exact (RawRule.fields_ok_iff.mp hfields).2.2.1

namespace PsFirewallRule

/-- The rule ends up with a spec that matches exactly the ports that one of its
texts matches on its own, or every port where it has none. -/
def PortsUnion (crates : IdCrates) (rule : PsFirewallRule) : Prop :=
  ∃ spec, portSpecFromRaw rule.localPortSpec = .ok spec ∧
    (∀ rules, firewallRulesFromRaw crates [rule.intoRawRule] = .ok rules →
      ∀ mapped ∈ rules, mapped.portSpec = spec) ∧
    ∀ port, spec.matches port = true ↔
      rule.localPorts = [] ∨ ∃ text ∈ rule.localPorts, PortSpec.TextMatches text port

def namedPorts (rule : PsFirewallRule) : List String := rule.localPorts.filter (fun text => !isAnyWord text)

theorem localPortSpec_named {rule : PsFirewallRule}
    (parses : ∀ text ∈ rule.localPorts, ∃ spec, PortSpec.fromStr text = .ok spec) :
    rule.localPortSpec = if rule.namedPorts.isEmpty then none else some (String.intercalate "," rule.namedPorts) := by
  have same : rule.localPorts.filter (fun port => !eqIgnoreAsciiCase port "any" && port ≠ "") = rule.namedPorts := by
    apply List.filter_congr
    intro text htext
    have nonempty : text ≠ "" := by
      rintro rfl
      obtain ⟨spec, hspec⟩ := parses "" htext
      simp [PortSpec.fromStr, PortSpec.fromScalar, show trim "" = "" from rfl] at hspec
    simp [isAnyWord, nonempty]
  simp only [localPortSpec, same]

/-- The spec of the rule's own named ports, or every port where it names none. -/
theorem portSpecFromRaw_named {rule : PsFirewallRule}
    (parses : ∀ text ∈ rule.localPorts, ∃ spec, PortSpec.fromStr text = .ok spec) :
    ∃ spec, portSpecFromRaw rule.localPortSpec = .ok spec ∧
      ∀ port, spec.matches port = true ↔
        rule.namedPorts = [] ∨ ∃ text ∈ rule.namedPorts, PortSpec.TextMatches text port := by
  rw [localPortSpec_named parses]
  by_cases hnone : rule.namedPorts = []
  · exact ⟨.any, by simp [hnone, portSpecFromRaw], fun port => by simp [hnone, PortSpec.matches]⟩
  · obtain ⟨spec, hspec, hmatches⟩ := fromStr_intercalate hnone
      fun text htext => parses text (List.mem_filter.mp htext).1
    exact ⟨spec, by simpa [hnone, portSpecFromRaw] using hspec, fun port => by simp [hmatches port, hnone]⟩

/-- The word `Any` beside other ports is dropped: the union law holds exactly
where it stands alone, or what it stands beside matches every port anyway. -/
theorem portsUnion_iff (crates : IdCrates) (rule : PsFirewallRule)
    (parses : ∀ text ∈ rule.localPorts, ∃ spec, PortSpec.fromStr text = .ok spec) :
    rule.PortsUnion crates ↔
      ((∃ text ∈ rule.localPorts, isAnyWord text = true) →
        (∀ text ∈ rule.localPorts, isAnyWord text = true) ∨
        ∀ port, ∃ text ∈ rule.localPorts, isAnyWord text = false ∧ PortSpec.TextMatches text port) := by
  obtain ⟨spec, hspec, hmatches⟩ := portSpecFromRaw_named parses
  have carried : ∀ rules, firewallRulesFromRaw crates [rule.intoRawRule] = .ok rules →
      ∀ mapped ∈ rules, mapped.portSpec = spec := by
    intro rules hrules mapped hmapped
    rw [firewallRulesFromRaw_singleton] at hrules
    have own := firewallRuleFromRaw_portSpec hrules mapped hmapped
    exact Except.ok.inj (own.symm.trans hspec)
  have anyMatches : ∀ text ∈ rule.localPorts, isAnyWord text = true → ∀ port, PortSpec.TextMatches text port :=
    fun text _ hany port => ⟨.any, fromStr_any hany, rfl⟩
  have named : ∀ text, text ∈ rule.namedPorts ↔ text ∈ rule.localPorts ∧ isAnyWord text = false := by
    simp [namedPorts]
  have noneNamed : rule.namedPorts = [] ↔ ∀ text ∈ rule.localPorts, isAnyWord text = true := by
    simp [namedPorts]
  constructor
  · rintro ⟨spec', hspec', -, union⟩ ⟨word, hword, hany⟩
    cases Except.ok.inj (hspec.symm.trans hspec')
    rw [or_iff_not_imp_left]
    intro hsome port
    have covered := (union port).mpr (.inr ⟨word, hword, anyMatches word hword hany port⟩)
    obtain ⟨text, htext, htextMatches⟩ := ((hmatches port).mp covered).resolve_left (mt noneNamed.mp hsome)
    exact ⟨text, ((named text).mp htext).1, ((named text).mp htext).2, htextMatches⟩
  · intro alone
    refine ⟨spec, hspec, carried, fun port => (hmatches port).trans ?_⟩
    constructor
    · rintro (hnone | ⟨text, htext, htextMatches⟩)
      · cases hports : rule.localPorts with
        | nil => exact .inl rfl
        | cons word rest =>
          have hword : word ∈ rule.localPorts := by simp [hports]
          exact .inr ⟨word, by simp, anyMatches word hword (noneNamed.mp hnone word hword) port⟩
      · exact .inr ⟨text, ((named text).mp htext).1, htextMatches⟩
    · rintro (hempty | ⟨text, htext, htextMatches⟩)
      · exact .inl (by simp [namedPorts, hempty])
      · by_cases hany : isAnyWord text = true
        · rcases alone ⟨text, htext, hany⟩ with hall | hcover
          · exact .inl (noneNamed.mpr hall)
          · obtain ⟨other, hother, hnamed, hmatch⟩ := hcover port
            exact .inr ⟨other, (named other).mpr ⟨hother, hnamed⟩, hmatch⟩
        · exact .inr ⟨text, (named text).mpr ⟨htext, by simpa using hany⟩, htextMatches⟩

def onPorts (localPorts : List String) : PsFirewallRule where
  ruleId := "7c7f6c3e-1b7b-4b0a-9c1d-3a5e2f9b0a11"
  displayName := "rule"
  direction := "Inbound"
  action := "Allow"
  protocol := some "TCP"
  localPorts := localPorts
  programFilter := none
  serviceFilter := none
  enabled := true
  policyStoreSourceType := none
  policyStoreSource := none

theorem portsUnion_mixed : (onPorts ["80, 443", "RPC", "5000-5010"]).PortsUnion constantCrates :=
  (portsUnion_iff constantCrates (onPorts ["80, 443", "RPC", "5000-5010"]) (by
    simp only [onPorts, List.forall_mem_cons, List.not_mem_nil, false_implies, implies_true, and_true]
    exact ⟨⟨.list [.single ⟨80⟩, .single ⟨443⟩], by decide +kernel⟩, ⟨.dynamic .rpc, by decide +kernel⟩,
      ⟨.range ⟨5000, 5010, by decide, by decide, by decide⟩, by decide +kernel⟩⟩)).mpr
    fun ⟨text, htext, hany⟩ => absurd hany (by revert text; decide)

/-- The rule is for every port and port 443, and ends up for port 443. -/
theorem portsUnion_counterexample :
    (∀ text ∈ (onPorts ["Any", "443"]).localPorts, ∃ spec, PortSpec.fromStr text = .ok spec) ∧
    portSpecFromRaw (onPorts ["Any", "443"]).localPortSpec = .ok (.single ⟨443⟩) ∧
    ¬(onPorts ["Any", "443"]).PortsUnion constantCrates := by
  have ends : portSpecFromRaw (onPorts ["Any", "443"]).localPortSpec = .ok (.single ⟨443⟩) := by decide +kernel
  have anyParses : PortSpec.fromStr "Any" = .ok .any := by decide +kernel
  have numberParses : PortSpec.fromStr "443" = .ok (.single ⟨443⟩) := by decide +kernel
  refine ⟨?_, ends, ?_⟩
  · simp only [onPorts, List.forall_mem_cons, List.not_mem_nil, false_implies, implies_true, and_true]
    exact ⟨⟨_, anyParses⟩, ⟨_, numberParses⟩⟩
  · rintro ⟨spec, hspec, -, union⟩
    cases Except.ok.inj (ends.symm.trans hspec)
    have covered := (union ⟨80⟩).mpr (.inr ⟨"Any", by simp [onPorts], .any, anyParses, rfl⟩)
    simp [PortSpec.matches] at covered

end PsFirewallRule

end AnneDeBreuil
