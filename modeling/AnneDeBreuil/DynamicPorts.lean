import AnneDeBreuil.InForceRules

namespace AnneDeBreuil

mutual

/-- Whether the spec covers `port` by `Any`, a single port or a range, at some depth. -/
def PortSpec.coversStatically : PortSpec → Port → Bool
  | .single p, port => p == port
  | .range r, port => r.contains port
  | .list specs, port => PortSpec.anyCoversStatically specs port
  | .any, _ => true
  | .dynamic _, _ => false

def PortSpec.anyCoversStatically : List PortSpec → Port → Bool
  | [], _ => false
  | spec :: specs, port => spec.coversStatically port || PortSpec.anyCoversStatically specs port

end

/-- Whether the spec covers `port`, but through dynamic keywords alone. -/
def PortSpec.coversOnlyDynamically (spec : PortSpec) (port : Port) : Bool :=
  spec.matches port && !spec.coversStatically port

/-- No applicable Block rule stands against an endpoint that leaves the host. -/
def Unblocked (target : Target) (endpoint : Endpoint) (rules : List FirewallRule) : Prop :=
  endpoint.exposure ≠ .loopback ∧
    ∀ rule ∈ rules, ruleApplies target rule endpoint = true → rule.action = .allow

theorem ruleApplies_matches {target : Target} {rule : FirewallRule} {endpoint : Endpoint}
    (h : ruleApplies target rule endpoint = true) : rule.portSpec.matches endpoint.port = true := by
  simp only [ruleApplies, Bool.and_eq_true] at h
  exact h.1.1.2

theorem evaluate_unblocked {target : Target} {endpoint : Endpoint} {rules : List FirewallRule}
    {profiles : List ProfileState} (h : Unblocked target endpoint rules) :
    evaluate target endpoint rules profiles = verdictOf (.granted (applicable target endpoint rules)) := by
  rw [evaluate_eq_verdictOf h.1, denyOverrides_of_none]
  apply List.find?_eq_none.mpr
  intro rule hr
  have hm := mem_applicable.mp hr
  simp [FirewallRule.blocks_eq_false.mpr (h.2 rule hm.1 hm.2)]

theorem evaluate_allowed_unblocked {target : Target} {endpoint : Endpoint} {rules : List FirewallRule}
    {profiles : List ProfileState}
    (h : (evaluate target endpoint rules profiles).reachability = .allowed) :
    Unblocked target endpoint rules := by
  have hl : endpoint.exposure ≠ .loopback := by
    intro hl
    simp [evaluate_loopback hl] at h
  refine ⟨hl, ?_⟩
  rw [evaluate_eq_verdictOf hl] at h
  cases hd : denyOverrides FirewallRule.blocks (applicable target endpoint rules) with
  | denied block => simp [hd, verdictOf] at h
  | granted allows =>
    intro rule hr ha
    have hb := (denyOverrides_granted hd).2 rule (mem_applicable.mpr ⟨hr, ha⟩)
    exact FirewallRule.blocks_eq_false.mp hb

theorem verdictOf_indeterminate {allows : List FirewallRule}
    (h : ∃ rule ∈ allows, rule.portSpec.isDynamic = true) :
    verdictOf (.granted allows) = ⟨.indeterminate, allows⟩ := by
  simp only [verdictOf]
  rw [if_pos (List.any_eq_true.mpr h)]

/-- Without a bare dynamic keyword the applicable rules of an unblocked
endpoint are taken to allow. -/
theorem verdictOf_allowed {allows : List FirewallRule} (hne : allows ≠ [])
    (h : ∀ rule ∈ allows, rule.portSpec.isDynamic = false) :
    verdictOf (.granted allows) = ⟨.allowed, allows⟩ := by
  have hany : ¬ allows.any (·.portSpec.isDynamic) = true := by
    simpa [List.any_eq_true] using h
  simp only [verdictOf]
  rw [if_neg hany, if_neg (by simpa [List.isEmpty_iff] using hne)]

/-- An allowed verdict rests on static coverage only, and a rule that covers the
port of an unblocked endpoint through dynamic keywords alone leaves the verdict
indeterminate. -/
def DynamicNeverAllowed (target : Target) (endpoint : Endpoint) (rules : List FirewallRule)
    (profiles : List ProfileState) : Prop :=
  ((evaluate target endpoint rules profiles).reachability = .allowed →
    ∀ rule ∈ (evaluate target endpoint rules profiles).matchedRules,
      rule.portSpec.coversStatically endpoint.port = true) ∧
  (Unblocked target endpoint rules → ∀ rule ∈ rules, ruleApplies target rule endpoint = true →
    rule.portSpec.coversOnlyDynamically endpoint.port = true →
    (evaluate target endpoint rules profiles).reachability = .indeterminate)

/-- The evaluator asks whether a spec is a bare keyword, not whether it covers
the port through one, so a keyword inside a comma list escapes it. -/
theorem dynamicNeverAllowed_iff (target : Target) (endpoint : Endpoint) (rules : List FirewallRule)
    (profiles : List ProfileState) :
    DynamicNeverAllowed target endpoint rules profiles ↔
      ¬ Unblocked target endpoint rules ∨
      (∃ rule ∈ rules, ruleApplies target rule endpoint = true ∧ rule.portSpec.isDynamic = true) ∨
      (∀ rule ∈ rules, ruleApplies target rule endpoint = true →
        rule.portSpec.coversOnlyDynamically endpoint.port = false) := by
  by_cases hu : Unblocked target endpoint rules
  · simp only [hu, not_true_eq_false, false_or]
    unfold DynamicNeverAllowed
    simp only [hu, forall_const, evaluate_unblocked hu]
    by_cases hd : ∃ rule ∈ rules, ruleApplies target rule endpoint = true ∧ rule.portSpec.isDynamic = true
    · have hi : ∃ rule ∈ applicable target endpoint rules, rule.portSpec.isDynamic = true := by
        obtain ⟨rule, hr, ha, hk⟩ := hd
        exact ⟨rule, mem_applicable.mpr ⟨hr, ha⟩, hk⟩
      simp [verdictOf_indeterminate hi, hd]
    · have hbare : ∀ rule ∈ applicable target endpoint rules, rule.portSpec.isDynamic = false := by
        intro rule hr
        have hm := mem_applicable.mp hr
        exact Bool.eq_false_iff.mpr fun hk => hd ⟨rule, hm.1, hm.2, hk⟩
      simp only [hd, false_or]
      constructor
      · rintro ⟨-, hkeyword⟩ rule hr ha
        by_contra hc
        have hne : applicable target endpoint rules ≠ [] :=
          List.ne_nil_of_mem (mem_applicable.mpr ⟨hr, ha⟩)
        have := hkeyword rule hr ha (by simpa using hc)
        simp [verdictOf_allowed hne hbare] at this
      · intro hstatic
        constructor
        · intro hv rule hr
          have hne : applicable target endpoint rules ≠ [] := by
            intro he
            simp [he, verdictOf] at hv
          rw [verdictOf_allowed hne hbare] at hr
          have hm := mem_applicable.mp hr
          have hs := hstatic rule hm.1 hm.2
          simpa [PortSpec.coversOnlyDynamically, ruleApplies_matches hm.2] using hs
        · intro rule hr ha hk
          simp [hstatic rule hr ha] at hk
  · simp only [hu, not_false_eq_true, true_or, iff_true]
    exact ⟨fun h => absurd (evaluate_allowed_unblocked h) hu, fun h => absurd h hu⟩

def mixedListAllow : List FirewallRule :=
  [tcpRule .allow (.list [.dynamic .rpc, .single ⟨443⟩])]

/-- `RPC,443` covers port 49666 through `RPC` alone, and the verdict is `Allowed`. -/
theorem dynamicNeverAllowed_counterexample :
    PortSpec.fromStr "RPC,443" = .ok (.list [.dynamic .rpc, .single ⟨443⟩]) ∧
    (evaluate .other (wildcardListener 49666) mixedListAllow []) = ⟨.allowed, mixedListAllow⟩ ∧
    (∀ rule ∈ mixedListAllow, rule.portSpec.coversOnlyDynamically ⟨49666⟩ = true) := by
  decide +kernel

end AnneDeBreuil
