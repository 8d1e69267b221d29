import AnneDeBreuil.FirewallMapping

namespace AnneDeBreuil

/-- Unrestricted, or scoped to TCP or UDP. -/
def RawRule.tracked (raw : RawRule) : Bool :=
  match raw.protocol with
  | none => true
  | some text => (Protocol.fromStr text).isOk

/-- Every field but the protocol parses. -/
def RawRule.Readable (raw : RawRule) : Prop := ∃ fields, raw.fields = .ok fields

/-- A rule of an untracked protocol contributes nothing and fails nothing: the
mapping fails only for a field of a tracked rule, and else maps the list as if
the untracked rules were not there. -/
structure UntrackedIgnored (crates : IdCrates) (raws : List RawRule) : Prop where
  none : ∀ raw ∈ raws, raw.tracked = false → ∀ rules, firewallRuleFromRaw crates raw = .ok rules → rules = []
  failure : ∀ e, firewallRulesFromRaw crates raws = .error e → ∃ raw ∈ raws, raw.tracked = true ∧ ¬raw.Readable
  success : (∀ raw ∈ raws, raw.tracked = true → raw.Readable) →
    firewallRulesFromRaw crates raws = firewallRulesFromRaw crates (raws.filter RawRule.tracked)

section

variable {crates : IdCrates} {raw : RawRule} {raws : List RawRule}

theorem protocols_of_untracked (h : raw.tracked = false) : raw.protocols = [] := by
  unfold RawRule.tracked at h
  unfold RawRule.protocols
  cases hproto : raw.protocol with
  | none =>
    rw [hproto] at h
    cases h
  | some text =>
    rw [hproto] at h
    dsimp only at h ⊢
    cases hfrom : Protocol.fromStr text with
    | error e => rfl
    | ok protocol => simp [hfrom, Except.isOk, Except.toBool] at h

theorem firewallRuleFromRaw_untracked {rules : List FirewallRule} (h : raw.tracked = false)
    (hok : firewallRuleFromRaw crates raw = .ok rules) : rules = [] := by
  obtain ⟨fields, -, rfl⟩ := firewallRuleFromRaw_ok_iff.mp hok
  rw [protocols_of_untracked h]
  rfl

theorem firewallRuleFromRaw_readable (crates : IdCrates) :
    (∃ rules, firewallRuleFromRaw crates raw = .ok rules) ↔ raw.Readable := by
  constructor
  · rintro ⟨rules, h⟩
    obtain ⟨fields, hfields, -⟩ := firewallRuleFromRaw_ok_iff.mp h
    exact ⟨fields, hfields⟩
  · rintro ⟨fields, hfields⟩
    exact ⟨_, firewallRuleFromRaw_ok_iff.mpr ⟨fields, hfields, rfl⟩⟩

/-- The mapping succeeds exactly when every rule's fields parse, whatever its protocol. -/
theorem firewallRulesFromRaw_readable (crates : IdCrates) :
    (∃ rules, firewallRulesFromRaw crates raws = .ok rules) ↔ ∀ raw ∈ raws, raw.Readable := by
  induction raws with
  | nil => simp [firewallRulesFromRaw]
  | cons raw raws ih =>
    rw [List.forall_mem_cons, ← ih, ← firewallRuleFromRaw_readable crates]
    constructor
    · rintro ⟨rules, h⟩
      obtain ⟨own, hown, h⟩ := bind_eq_ok h
      obtain ⟨rest, hrest, -⟩ := bind_eq_ok h
      exact ⟨⟨own, hown⟩, rest, hrest⟩
    · rintro ⟨⟨own, hown⟩, rest, hrest⟩
      exact ⟨own ++ rest, by rw [firewallRulesFromRaw, hown, hrest]; rfl⟩

/-- Untracked rules that parse may be dropped. -/
theorem firewallRulesFromRaw_filter (h : ∀ raw ∈ raws, raw.tracked = false → raw.Readable) :
    firewallRulesFromRaw crates raws = firewallRulesFromRaw crates (raws.filter RawRule.tracked) := by
  induction raws with
  | nil => rfl
  | cons raw raws ih =>
    have tail := ih fun other hother => h other (List.mem_cons_of_mem _ hother)
    cases htracked : raw.tracked with
    | true => rw [List.filter_cons_of_pos htracked, firewallRulesFromRaw, firewallRulesFromRaw, tail]
    | false =>
      obtain ⟨own, hown⟩ := (firewallRuleFromRaw_readable crates).mpr
        (h raw List.mem_cons_self htracked)
      rw [List.filter_cons_of_neg (by simp [htracked]), firewallRulesFromRaw, hown,
        firewallRuleFromRaw_untracked htracked hown, tail]
      cases firewallRulesFromRaw crates (raws.filter RawRule.tracked) with
      | error e => rfl
      | ok rest => rfl

end

/-- The other fields are parsed before the protocol is looked at: untracked
rules are ignored exactly when theirs parse, or a tracked rule fails the
mapping anyway. -/
theorem untrackedIgnored_iff (crates : IdCrates) (raws : List RawRule) :
    UntrackedIgnored crates raws ↔
      (∃ raw ∈ raws, raw.tracked = true ∧ ¬raw.Readable) ∨ ∀ raw ∈ raws, raw.tracked = false → raw.Readable := by
  constructor
  · intro ignored
    rw [or_iff_not_imp_left]
    intro noFailure
    have readable : ∃ rules, firewallRulesFromRaw crates raws = .ok rules := by
      cases h : firewallRulesFromRaw crates raws with
      | ok rules => exact ⟨rules, rfl⟩
      | error e => exact absurd (ignored.failure e h) noFailure
    exact fun raw hraw _ => (firewallRulesFromRaw_readable crates).mp readable raw hraw
  · intro condition
    refine ⟨fun raw _ htracked rules hok => firewallRuleFromRaw_untracked htracked hok, fun e he => ?_,
      fun tracked => ?_⟩
    · rcases condition with failure | untracked
      · exact failure
      · by_contra noFailure
        simp only [not_exists, not_and, not_not] at noFailure
        obtain ⟨rules, hok⟩ := (firewallRulesFromRaw_readable crates).mpr fun raw hraw => by
          cases htracked : raw.tracked with
          | true => exact noFailure raw hraw htracked
          | false => exact untracked raw hraw htracked
        rw [he] at hok
        cases hok
    · rcases condition with ⟨raw, hraw, htracked, hnot⟩ | untracked
      · exact absurd (tracked raw hraw htracked) hnot
      · exact firewallRulesFromRaw_filter untracked

/-- An ICMP rule whose port text is an ICMP type. -/
def icmpEcho : RawRule where
  ruleId := "icmp-echo"
  displayName := "Echo Request"
  direction := "Inbound"
  action := "Allow"
  protocol := some "ICMPv4"
  localPortSpec := some "8:0"
  programFilter := none
  serviceFilter := none
  enabled := true
  policyStore := "Local"

def httpsAllow : RawRule where
  ruleId := "https"
  displayName := "Allow HTTPS"
  direction := "Inbound"
  action := "Allow"
  protocol := some "TCP"
  localPortSpec := some "443"
  programFilter := none
  serviceFilter := none
  enabled := true
  policyStore := "Local"

/-- Its port text fails the mapping of a list that is otherwise fine. -/
theorem untrackedIgnored_counterexample :
    icmpEcho.tracked = false ∧
    firewallRulesFromRaw constantCrates [icmpEcho, httpsAllow] = .error (.malformedPortSpec "8:0") ∧
    (∃ rules, firewallRulesFromRaw constantCrates [httpsAllow] = .ok rules) ∧
    ¬UntrackedIgnored constantCrates [icmpEcho, httpsAllow] := by
  have fails : firewallRulesFromRaw constantCrates [icmpEcho, httpsAllow] = .error (.malformedPortSpec "8:0") := by
    decide +kernel
  have readable : httpsAllow.Readable :=
    ⟨⟨.inbound, .allow, .single ⟨443⟩, none, none, .local⟩, by decide +kernel⟩
  refine ⟨by decide +kernel, fails, ?_, fun ignored => ?_⟩
  · rw [firewallRulesFromRaw_readable]
    simpa using readable
  · obtain ⟨raw, hraw, htracked, hnot⟩ := ignored.failure _ fails
    simp only [List.mem_cons, List.not_mem_nil, or_false] at hraw
    rcases hraw with rfl | rfl
    · exact absurd htracked (by decide +kernel)
    · exact hnot readable

end AnneDeBreuil
