import AnneDeBreuil.InForceRules

namespace AnneDeBreuil

/-- The ports a spec covers; a dynamic keyword covers every one. -/
inductive PortSpec.Covers (port : Port) : PortSpec → Prop
  | any : Covers port .any
  | single : Covers port (.single port)
  | range {bounds : PortRange} (hstart : bounds.start ≤ port.get) (hstop : port.get ≤ bounds.stop) :
      Covers port (.range bounds)
  | list {specs : List PortSpec} {spec : PortSpec} (hspec : spec ∈ specs) (h : Covers port spec) :
      Covers port (.list specs)
  | dynamic {keyword : DynamicKeyword} : Covers port (.dynamic keyword)

theorem PortSpec.anyMatches_eq (specs : List PortSpec) (port : Port) :
    PortSpec.anyMatches specs port = specs.any (fun spec => spec.matches port) := by
  induction specs with
  | nil => rfl
  | cons spec specs ih => simp only [PortSpec.anyMatches, List.any_cons, ih]

mutual

theorem PortSpec.matches_iff_covers {port : Port} :
    (spec : PortSpec) → (spec.matches port = true ↔ PortSpec.Covers port spec)
  | .any => ⟨fun _ => .any, fun _ => rfl⟩
  | .single p => by
    simp only [PortSpec.matches, beq_iff_eq]
    constructor
    · intro h
      rw [h]
      exact .single
    · intro h
      cases h
      rfl
  | .range bounds => by
    simp only [PortSpec.matches, PortRange.contains, Bool.and_eq_true, decide_eq_true_eq]
    constructor
    · intro h
      exact .range h.1 h.2
    · intro h
      cases h with
      | range hstart hstop => exact ⟨hstart, hstop⟩
  | .list specs => by
    simp only [PortSpec.matches, PortSpec.anyMatches_iff_covers specs]
    constructor
    · rintro ⟨spec, hspec, h⟩
      exact .list hspec h
    · intro h
      cases h with
      | list hspec h => exact ⟨_, hspec, h⟩
  | .dynamic keyword => ⟨fun _ => .dynamic, fun _ => rfl⟩

theorem PortSpec.anyMatches_iff_covers {port : Port} :
    (specs : List PortSpec) → (PortSpec.anyMatches specs port = true ↔ ∃ spec ∈ specs, PortSpec.Covers port spec)
  | [] => by simp [PortSpec.anyMatches]
  | spec :: specs => by
    simp only [PortSpec.anyMatches, Bool.or_eq_true, PortSpec.matches_iff_covers spec,
      PortSpec.anyMatches_iff_covers specs, List.mem_cons, exists_eq_or_imp]

end

/-- The same program: on Windows up to ASCII case, elsewhere only where both
are the `System` pseudo-path. -/
def SameProgram (target : Target) (filter path : String) : Prop :=
  match target with
  | .windows => eqIgnoreAsciiCase filter path = true
  | .other => filter = path ∨
      eqIgnoreAsciiCase filter systemPseudoPath = true ∧ eqIgnoreAsciiCase path systemPseudoPath = true

theorem compareProgramPaths_iff {target : Target} {filter path : String} :
    compareProgramPaths target filter path = true ↔ SameProgram target filter path := by
  cases target with
  | windows =>
    simp only [compareProgramPaths, SameProgram]
    split <;> rfl
  | other =>
    simp only [compareProgramPaths, SameProgram, Bool.or_eq_true]
    split
    next hsystem =>
      simp only [eqIgnoreAsciiCase_iff] at hsystem ⊢
      constructor
      · intro h
        rw [h, or_self] at hsystem
        exact .inr ⟨h.trans hsystem, hsystem⟩
      · rintro (rfl | ⟨hf, hp⟩)
        · rfl
        · exact hf.trans hp.symm
    next hsystem =>
      rw [beq_iff_eq]
      constructor
      · exact .inl
      · rintro (h | ⟨hf, -⟩)
        · exact h
        · exact absurd (.inl hf) hsystem

/-- A rule governs an endpoint that its protocol, its ports and its filters each
admit; a filter that is absent admits every endpoint. -/
@[mk_iff]
structure Governs (target : Target) (rule : FirewallRule) (endpoint : Endpoint) : Prop where
  protocol : rule.protocol = endpoint.protocol
  ports : PortSpec.Covers endpoint.port rule.portSpec
  program : ∀ filter, rule.programFilter = some filter →
    ∃ path, endpoint.processPath = some path ∧ SameProgram target filter.asStr path.asStr
  service : ∀ service, rule.serviceFilter = some service → service ∈ endpoint.hostedServices

theorem programFilterMatches_iff {target : Target} {filter : ProcessPath} {processPath : Option ProcessPath} :
    programFilterMatches target filter processPath = true ↔
      ∃ path, processPath = some path ∧ SameProgram target filter.asStr path.asStr := by
  cases processPath with
  | none => simp [programFilterMatches]
  | some path => simp [programFilterMatches, expandEnvVars_none, compareProgramPaths_iff]

theorem ruleApplies_iff_governs {target : Target} {rule : FirewallRule} {endpoint : Endpoint} :
    ruleApplies target rule endpoint = true ↔ Governs target rule endpoint := by
  rw [governs_iff, ruleApplies]
  cases rule.programFilter with
  | none =>
    cases rule.serviceFilter with
    | none => simp [PortSpec.matches_iff_covers]
    | some service => simp [PortSpec.matches_iff_covers, and_assoc]
  | some filter =>
    cases rule.serviceFilter with
    | none => simp [PortSpec.matches_iff_covers, programFilterMatches_iff, and_assoc]
    | some service => simp [PortSpec.matches_iff_covers, programFilterMatches_iff, and_assoc]

instance (target : Target) (rule : FirewallRule) (endpoint : Endpoint) : Decidable (Governs target rule endpoint) :=
  decidable_of_iff _ ruleApplies_iff_governs

/-- The precedence of a verdict: loopback, then a Block rule that governs, then
an Allow rule that does, then the default; and the rules named for each. -/
structure FollowsPrecedence (target : Target) (endpoint : Endpoint) (rules : List FirewallRule)
    (verdict : ReachabilityVerdict) : Prop where
  localOnly : verdict.reachability = .localOnly ↔ endpoint.exposure = .loopback
  blocked : endpoint.exposure ≠ .loopback →
    (verdict.reachability = .blocked ↔ ∃ rule ∈ rules, Governs target rule endpoint ∧ rule.action = .block)
  allowed : endpoint.exposure ≠ .loopback → verdict.reachability ≠ .blocked →
    (verdict.reachability = .allowed ∨ verdict.reachability = .indeterminate ↔
      ∃ rule ∈ rules, Governs target rule endpoint ∧ rule.action = .allow)
  defaultAction : endpoint.exposure ≠ .loopback →
    (verdict.reachability = .defaultAction ↔ ∀ rule ∈ rules, ¬Governs target rule endpoint)
  firstBlock : verdict.reachability = .blocked →
    ∃ before block after, rules = before ++ block :: after ∧ Governs target block endpoint ∧
      block.action = .block ∧ (∀ rule ∈ before, Governs target rule endpoint → rule.action = .allow) ∧
      verdict.matchedRules = [block]
  allAllows : verdict.reachability = .allowed ∨ verdict.reachability = .indeterminate →
    verdict.matchedRules = rules.filter (fun rule => Governs target rule endpoint ∧ rule.action = .allow)
  noneMatched : verdict.reachability = .localOnly ∨ verdict.reachability = .defaultAction →
    verdict.matchedRules = []

section

variable {target : Target} {endpoint : Endpoint} {rules : List FirewallRule} {profiles : List ProfileState}

theorem mem_applicable_governs {rule : FirewallRule} :
    rule ∈ applicable target endpoint rules ↔ rule ∈ rules ∧ Governs target rule endpoint := by
  rw [mem_applicable, ruleApplies_iff_governs]

theorem followsPrecedence_loopback (hl : endpoint.exposure = .loopback) :
    FollowsPrecedence target endpoint rules (evaluate target endpoint rules profiles) := by
  rw [evaluate_loopback hl]
  exact ⟨iff_of_true rfl hl, fun h => absurd hl h, fun h => absurd hl h, fun h => absurd hl h, nofun,
    fun h => by simp at h, fun _ => rfl⟩

theorem followsPrecedence_blocked {block : FirewallRule} (hl : endpoint.exposure ≠ .loopback)
    (hf : (applicable target endpoint rules).find? FirewallRule.blocks = some block) :
    FollowsPrecedence target endpoint rules (evaluate target endpoint rules profiles) := by
  rw [evaluate_eq_verdictOf hl, denyOverrides_of_find hf]
  rw [applicable_find_blocks] at hf
  obtain ⟨hblock, before, after, hsplit, hbefore⟩ := List.find?_eq_some_iff_append.mp hf
  simp only [Bool.and_eq_true, ruleApplies_iff_governs] at hblock
  have action : block.action = .block := by simpa [FirewallRule.blocks] using hblock.2
  have mem : block ∈ rules := by simp [hsplit]
  refine ⟨iff_of_false (by simp [verdictOf]) hl, fun _ => iff_of_true rfl ⟨block, mem, hblock.1, action⟩,
    fun _ h => absurd rfl h, fun _ => iff_of_false (by simp [verdictOf]) fun h => h block mem hblock.1,
    fun _ => ⟨before, block, after, hsplit, hblock.1, action, fun rule hr hgoverns => ?_, rfl⟩, ?_, ?_⟩
  · have hnot := hbefore rule hr
    simp only [ruleApplies_iff_governs.mpr hgoverns, Bool.true_and, Bool.not_eq_true'] at hnot
    exact FirewallRule.blocks_eq_false.mp hnot
  · intro h
    simp [verdictOf] at h
  · intro h
    simp [verdictOf] at h

/-- Where nothing blocks, the rules that apply allow, or there are none. -/
theorem verdictOf_granted (allows : List FirewallRule) :
    ((verdictOf (.granted allows)).reachability = .allowed ∨ (verdictOf (.granted allows)).reachability = .indeterminate) ∧
        (verdictOf (.granted allows)).matchedRules = allows ∧ allows ≠ [] ∨
      verdictOf (.granted allows) = ⟨.defaultAction, []⟩ ∧ allows = [] := by
  by_cases hempty : allows = []
  · exact .inr ⟨by simp [hempty, verdictOf], hempty⟩
  · refine .inl ⟨?_, ?_, hempty⟩
    · simp only [verdictOf]
      split
      · exact .inr rfl
      · rw [if_neg (by simpa using hempty)]
        exact .inl rfl
    · simp only [verdictOf]
      split
      · rfl
      · rw [if_neg (by simpa using hempty)]

theorem followsPrecedence_unblocked (hl : endpoint.exposure ≠ .loopback)
    (hf : (applicable target endpoint rules).find? FirewallRule.blocks = none) :
    FollowsPrecedence target endpoint rules (evaluate target endpoint rules profiles) := by
  rw [evaluate_eq_verdictOf hl, denyOverrides_of_none hf]
  have allow : ∀ rule ∈ rules, Governs target rule endpoint → rule.action = .allow := by
    intro rule hr hgoverns
    have hnot := List.find?_eq_none.mp hf rule (mem_applicable_governs.mpr ⟨hr, hgoverns⟩)
    exact FirewallRule.blocks_eq_false.mp (by simpa using hnot)
  have allows : applicable target endpoint rules =
      rules.filter (fun rule => Governs target rule endpoint ∧ rule.action = .allow) := by
    apply List.filter_congr
    intro rule hr
    rw [Bool.eq_iff_iff, ruleApplies_iff_governs, decide_eq_true_eq]
    exact ⟨fun h => ⟨h, allow rule hr h⟩, And.left⟩
  have governed : applicable target endpoint rules ≠ [] ↔
      ∃ rule ∈ rules, Governs target rule endpoint ∧ rule.action = .allow := by
    rw [allows, ne_eq, List.filter_eq_nil_iff]
    simp
  have none : applicable target endpoint rules = [] ↔ ∀ rule ∈ rules, ¬Governs target rule endpoint := by
    rw [List.eq_nil_iff_forall_not_mem]
    simp only [mem_applicable_governs, not_and]
  have noBlock : ¬∃ rule ∈ rules, Governs target rule endpoint ∧ rule.action = .block := by
    rintro ⟨rule, hr, hgoverns, haction⟩
    simp [allow rule hr hgoverns] at haction
  rcases verdictOf_granted (applicable target endpoint rules) with ⟨hclass, hmatched, hne⟩ | ⟨hdefault, hnil⟩
  · refine ⟨iff_of_false ?_ hl, fun _ => iff_of_false ?_ noBlock, fun _ _ => iff_of_true hclass (governed.mp hne),
      fun _ => iff_of_false ?_ (fun h => hne (none.mpr h)), ?_, fun _ => hmatched.trans allows, ?_⟩
    all_goals rcases hclass with h | h <;> simp [h]
  · rw [hdefault]
    refine ⟨iff_of_false (by simp) hl, fun _ => iff_of_false (by simp) noBlock,
      fun _ _ => iff_of_false (by simp) (fun h => governed.mpr h hnil), fun _ => iff_of_true rfl (none.mp hnil),
      fun h => by simp at h, fun h => by simp at h, fun _ => rfl⟩

theorem evaluate_followsPrecedence :
    FollowsPrecedence target endpoint rules (evaluate target endpoint rules profiles) := by
  by_cases hl : endpoint.exposure = .loopback
  · exact followsPrecedence_loopback hl
  · cases hf : (applicable target endpoint rules).find? FirewallRule.blocks with
    | some block => exact followsPrecedence_blocked hl hf
    | none => exact followsPrecedence_unblocked hl hf

/-- A rule that does not govern the endpoint may stand anywhere in the list. -/
theorem evaluate_insert_idle {before after : List FirewallRule} {rule : FirewallRule}
    (h : ¬Governs target rule endpoint) :
    evaluate target endpoint (before ++ rule :: after) profiles =
      evaluate target endpoint (before ++ after) profiles := by
  have idle : ruleApplies target rule endpoint = false := by
    rw [← Bool.not_eq_true, ruleApplies_iff_governs]
    exact h
  have same : applicable target endpoint (before ++ rule :: after) = applicable target endpoint (before ++ after) := by
    simp [applicable, idle]
  simp only [evaluate, same]

end

/-- The evaluator agrees with its precedence reference on every rule list; order
and repetition of the rules do not change the class, a rule that does not
govern the endpoint changes nothing, and a Block rule that does blocks from any
place in the list. -/
theorem evaluate_precedence (target : Target) (endpoint : Endpoint) (rules : List FirewallRule)
    (profiles : List ProfileState) :
    FollowsPrecedence target endpoint rules (evaluate target endpoint rules profiles) ∧
    (∀ rules', (∀ rule, rule ∈ rules' ↔ rule ∈ rules) →
      (evaluate target endpoint rules' profiles).reachability =
        (evaluate target endpoint rules profiles).reachability) ∧
    (∀ before after rule, rules = before ++ after → ¬Governs target rule endpoint →
      evaluate target endpoint (before ++ rule :: after) profiles = evaluate target endpoint rules profiles) ∧
    (∀ before after rule, rules = before ++ after → endpoint.exposure ≠ .loopback → Governs target rule endpoint →
      rule.action = .block →
      (evaluate target endpoint (before ++ rule :: after) profiles).reachability = .blocked) := by
  refine ⟨evaluate_followsPrecedence, fun rules' same => evaluate_reachability_congr same, ?_, ?_⟩
  · rintro before after rule rfl hidle
    exact evaluate_insert_idle hidle
  · rintro before after rule rfl hl hgoverns haction
    exact (evaluate_followsPrecedence.blocked hl).mpr ⟨rule, by simp, hgoverns, haction⟩

end AnneDeBreuil
