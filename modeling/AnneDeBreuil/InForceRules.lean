import AnneDeBreuil.Reachability

namespace AnneDeBreuil

/-- An enabled inbound rule, the kind `summarize_inbound_ports` keeps. -/
def FirewallRule.inForce (rule : FirewallRule) : Bool := rule.enabled && rule.direction = .inbound

theorem applicable_filter (target : Target) (endpoint : Endpoint) (rules : List FirewallRule)
    (keep : FirewallRule → Bool) :
    applicable target endpoint (rules.filter keep) = (applicable target endpoint rules).filter keep := by
  simp only [applicable, List.filter_filter, Bool.and_comm]

theorem applicable_find_blocks {target : Target} {endpoint : Endpoint} {rules : List FirewallRule} :
    (applicable target endpoint rules).find? FirewallRule.blocks =
      rules.find? (fun rule => ruleApplies target rule endpoint && rule.blocks) := by
  simp only [applicable, List.find?_filter, Bool.decide_and, Bool.decide_eq_true]

/-- Off loopback, filtering the rule list keeps the verdict exactly when it
keeps the outcome of the combination. -/
theorem evaluate_filter_iff_decision {target : Target} {endpoint : Endpoint} {rules : List FirewallRule}
    {profiles : List ProfileState} {keep : FirewallRule → Bool} (h : endpoint.exposure ≠ .loopback) :
    evaluate target endpoint (rules.filter keep) profiles = evaluate target endpoint rules profiles ↔
      denyOverrides FirewallRule.blocks ((applicable target endpoint rules).filter keep) =
        denyOverrides FirewallRule.blocks (applicable target endpoint rules) := by
  rw [evaluate_eq_verdictOf h, evaluate_eq_verdictOf h, applicable_filter]
  exact verdictOf_injective.eq_iff

/-- The evaluator ignores the disabled and outbound rules of a list exactly
when the endpoint is loopback-bound, or the first applicable Block rule is in
force, or no rule that applies is a Block rule and all that apply are in force. -/
theorem evaluate_inForce_iff (target : Target) (endpoint : Endpoint) (rules : List FirewallRule)
    (profiles : List ProfileState) :
    evaluate target endpoint (rules.filter FirewallRule.inForce) profiles =
        evaluate target endpoint rules profiles ↔
      endpoint.exposure = .loopback ∨
      (∃ block, rules.find? (fun rule => ruleApplies target rule endpoint && rule.blocks) = some block ∧
        block.inForce = true) ∨
      (∀ rule ∈ rules, ruleApplies target rule endpoint = true →
        rule.action = .allow ∧ rule.inForce = true) := by
  by_cases hl : endpoint.exposure = .loopback
  · simp [evaluate_loopback hl, hl]
  · rw [evaluate_filter_iff_decision hl, denyOverrides_filter_iff, applicable_find_blocks]
    simp only [hl, false_or]
    apply or_congr_right
    constructor
    · rintro ⟨hn, hk⟩ rule hr ha
      have hb := List.find?_eq_none.mp hn rule hr
      simp only [ha, Bool.true_and, Bool.not_eq_true] at hb
      exact ⟨FirewallRule.blocks_eq_false.mp hb, hk rule (mem_applicable.mpr ⟨hr, ha⟩)⟩
    · intro h
      refine ⟨List.find?_eq_none.mpr ?_, ?_⟩
      · intro rule hr
        by_cases ha : ruleApplies target rule endpoint = true
        · simp [ha, FirewallRule.blocks_eq_false.mpr (h rule hr ha).1]
        · simp [ha]
      · intro rule hr
        exact (h rule (mem_applicable.mp hr).1 (mem_applicable.mp hr).2).2

/-- A TCP listener on every interface. -/
def wildcardListener (port : UInt16) : Endpoint :=
  .new .tcp ⟨.v4 0⟩ ⟨port⟩ none none [] .unknown none

def tcpRule (action : RuleAction) (portSpec : PortSpec) : FirewallRule where
  ruleId := ⟨1⟩
  displayName := "rule"
  direction := .inbound
  action := action
  protocol := .tcp
  portSpec := portSpec
  programFilter := none
  serviceFilter := none
  enabled := true
  policyStore := .local

def disabledBlock : List FirewallRule :=
  [{ tcpRule .block (.single ⟨443⟩) with enabled := false }, tcpRule .allow (.single ⟨443⟩)]

def outboundAllow : List FirewallRule :=
  [{ tcpRule .allow (.single ⟨443⟩) with direction := .outbound }]

/-- A disabled Block rule hides an exposed port, and an outbound Allow rule
invents an exposure. -/
theorem evaluate_inForce_counterexample :
    (evaluate .other (wildcardListener 443) disabledBlock []).reachability = .blocked ∧
    (evaluate .other (wildcardListener 443) (disabledBlock.filter FirewallRule.inForce) []).reachability =
      .allowed ∧
    (evaluate .other (wildcardListener 443) outboundAllow []).reachability = .allowed ∧
    (evaluate .other (wildcardListener 443) (outboundAllow.filter FirewallRule.inForce) []).reachability =
      .defaultAction := by
  decide

end AnneDeBreuil
