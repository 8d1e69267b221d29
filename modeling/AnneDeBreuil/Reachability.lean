import AnneDeBreuil.DenyOverrides
import AnneDeBreuil.Endpoint
import AnneDeBreuil.FirewallRule

namespace AnneDeBreuil

/-- The platform the evaluator is compiled for (`cfg(windows)` or not). -/
inductive Target
  | windows
  | other
deriving DecidableEq, Repr

inductive Reachability
  | localOnly
  | blocked
  | allowed
  | defaultAction
  | indeterminate
deriving DecidableEq, Repr

/-- A verdict with the rules that produced it, in evaluation order. -/
structure ReachabilityVerdict where
  reachability : Reachability
  matchedRules : List FirewallRule
deriving DecidableEq, Repr

def systemPseudoPath : String := "System"

/-- Windows compares every path up to ASCII case, other targets only when one
side is the `System` pseudo-path. -/
def compareProgramPaths (target : Target) (filter processPath : String) : Bool :=
  if eqIgnoreAsciiCase filter systemPseudoPath || eqIgnoreAsciiCase processPath systemPseudoPath then
    eqIgnoreAsciiCase filter processPath
  else
    match target with
    | .windows => eqIgnoreAsciiCase filter processPath
    | .other => filter == processPath

/-- The scan of `expand_env_vars`; the second argument holds the name read
since an open percent sign, reversed. -/
def expandChars (lookup : String → Option String) : List Char → Option (List Char) → List Char
  | [], none => []
  | [], some name => '%' :: name.reverse
  | c :: cs, none => if c = '%' then expandChars lookup cs (some []) else c :: expandChars lookup cs none
  | c :: cs, some name =>
    if c = '%' then
      let text :=
        if name.isEmpty then ['%', '%']
        else match lookup (String.ofList name.reverse) with
          | some value => value.toList
          | none => '%' :: name.reverse ++ ['%']
      text ++ expandChars lookup cs none
    else expandChars lookup cs (some (c :: name))

def expandEnvVars (lookup : String → Option String) (input : String) : String :=
  String.ofList (expandChars lookup input.toList none)

theorem expandChars_none (cs : List Char) :
    expandChars (fun _ => none) cs none = cs ∧
      ∀ name, expandChars (fun _ => none) cs (some name) = '%' :: name.reverse ++ cs := by
  induction cs with
  | nil => simp [expandChars]
  | cons c cs ih =>
    refine ⟨?_, fun name => ?_⟩
    · by_cases hc : c = '%'
      · simp [expandChars, hc, ih.2]
      · simp [expandChars, hc, ih.1]
    · by_cases hc : c = '%'
      · cases name with
        | nil => simp [expandChars, hc, ih.1]
        | cons d ds => simp [expandChars, hc, ih.1]
      · simp [expandChars, hc, ih.2]

/-- With no variable known the text is left as it is. -/
theorem expandEnvVars_none (input : String) : expandEnvVars (fun _ => none) input = input := by
  simp [expandEnvVars, (expandChars_none input.toList).1]

def programFilterMatches (target : Target) (filter : ProcessPath) (processPath : Option ProcessPath) :
    Bool :=
  match processPath with
  | none => false
  | some path => compareProgramPaths target (expandEnvVars (fun _ => none) filter.asStr) path.asStr

/-- Whether `rule` governs traffic to `endpoint`. -/
def ruleApplies (target : Target) (rule : FirewallRule) (endpoint : Endpoint) : Bool :=
  rule.protocol == endpoint.protocol &&
  rule.portSpec.matches endpoint.port &&
  (match rule.programFilter with
    | some filter => programFilterMatches target filter endpoint.processPath
    | none => true) &&
  (match rule.serviceFilter with
    | some service => endpoint.hostedServices.any (· == service)
    | none => true)

def PortSpec.isDynamic : PortSpec → Bool
  | .dynamic _ => true
  | _ => false

/-- The rules of the list that apply to the endpoint, in list order. -/
def applicable (target : Target) (endpoint : Endpoint) (rules : List FirewallRule) : List FirewallRule :=
  rules.filter (ruleApplies target · endpoint)

def evaluate (target : Target) (endpoint : Endpoint) (rules : List FirewallRule)
    (_profiles : List ProfileState) : ReachabilityVerdict :=
  if endpoint.exposure = .loopback then ⟨.localOnly, []⟩
  else
    match (applicable target endpoint rules).find? (·.action = .block) with
    | some block => ⟨.blocked, [block]⟩
    | none =>
      let allows := (applicable target endpoint rules).filter (·.action = .allow)
      if allows.any (·.portSpec.isDynamic) then ⟨.indeterminate, allows⟩
      else if allows.isEmpty then ⟨.defaultAction, []⟩
      else ⟨.allowed, allows⟩

@[simp] theorem mem_applicable {target : Target} {endpoint : Endpoint} {rules : List FirewallRule}
    {rule : FirewallRule} :
    rule ∈ applicable target endpoint rules ↔ rule ∈ rules ∧ ruleApplies target rule endpoint = true :=
  List.mem_filter

def FirewallRule.blocks (rule : FirewallRule) : Bool := rule.action = .block

theorem FirewallRule.blocks_eq_false {rule : FirewallRule} : rule.blocks = false ↔ rule.action = .allow := by
  cases h : rule.action <;> simp [FirewallRule.blocks, h]

/-- What the combined rules mean for an endpoint that leaves the host. -/
def verdictOf : Decision FirewallRule → ReachabilityVerdict
  | .denied block => ⟨.blocked, [block]⟩
  | .granted allows =>
    if allows.any (·.portSpec.isDynamic) then ⟨.indeterminate, allows⟩
    else if allows.isEmpty then ⟨.defaultAction, []⟩
    else ⟨.allowed, allows⟩

theorem verdictOf_injective : Function.Injective verdictOf := by
  intro a b h
  cases a with
  | denied r =>
    cases b with
    | denied s => simpa [verdictOf] using h
    | granted ss =>
      simp only [verdictOf] at h
      split at h
      · simp at h
      · split at h <;> simp at h
  | granted rs =>
    cases b with
    | denied s =>
      simp only [verdictOf] at h
      split at h
      · simp at h
      · split at h <;> simp at h
    | granted ss =>
      have same : ∀ allows, (verdictOf (.granted allows)).matchedRules = allows := by
        intro allows
        simp only [verdictOf]
        split
        · rfl
        · split
          next he => simpa using (List.isEmpty_iff.mp he).symm
          next => rfl
      rw [← same rs, ← same ss, h]

/-- What is decided by the rules leaves the host. -/
theorem verdictOf_ne_localOnly (decision : Decision FirewallRule) : (verdictOf decision).reachability ≠ .localOnly := by
  cases decision with
  | denied block => nofun
  | granted allows =>
    simp only [verdictOf]
    split
    · nofun
    · split <;> nofun

theorem evaluate_loopback {target : Target} {endpoint : Endpoint} {rules : List FirewallRule}
    {profiles : List ProfileState} (h : endpoint.exposure = .loopback) :
    evaluate target endpoint rules profiles = ⟨.localOnly, []⟩ := by
  simp [evaluate, h]

/-- Off loopback the evaluator is the deny-overrides combination of the
applicable rules. -/
theorem evaluate_eq_verdictOf {target : Target} {endpoint : Endpoint} {rules : List FirewallRule}
    {profiles : List ProfileState} (h : endpoint.exposure ≠ .loopback) :
    evaluate target endpoint rules profiles =
      verdictOf (denyOverrides FirewallRule.blocks (applicable target endpoint rules)) := by
  have blocks : (fun rule : FirewallRule => decide (rule.action = .block)) = FirewallRule.blocks := rfl
  simp only [evaluate, if_neg h, blocks]
  cases hf : (applicable target endpoint rules).find? FirewallRule.blocks with
  | some block => rw [denyOverrides_of_find hf]; rfl
  | none =>
    have allows : (applicable target endpoint rules).filter (·.action = .allow) =
        applicable target endpoint rules := by
      apply List.filter_eq_self.mpr
      intro rule hr
      have hb : rule.blocks = false := by simpa using List.find?_eq_none.mp hf rule hr
      simpa using FirewallRule.blocks_eq_false.mp hb
    simp only [denyOverrides_of_none hf, allows, verdictOf]

theorem evaluate_profiles_irrel (target : Target) (endpoint : Endpoint) (rules : List FirewallRule)
    (profiles profiles' : List ProfileState) :
    evaluate target endpoint rules profiles = evaluate target endpoint rules profiles' := rfl

/-- The class depends on which rules apply, not on their order. -/
theorem verdictOf_reachability (rules : List FirewallRule) :
    (verdictOf (denyOverrides FirewallRule.blocks rules)).reachability =
      if rules.any FirewallRule.blocks then .blocked
      else if rules.any (·.portSpec.isDynamic) then .indeterminate
      else if rules.isEmpty then .defaultAction
      else .allowed := by
  cases hf : rules.find? FirewallRule.blocks with
  | some block =>
    have hb : rules.any FirewallRule.blocks = true :=
      List.any_eq_true.mpr ⟨block, List.mem_of_find?_eq_some hf, List.find?_some hf⟩
    rw [denyOverrides_of_find hf, if_pos hb, verdictOf]
  | none =>
    have hb : ¬rules.any FirewallRule.blocks = true := by
      simpa using hf
    rw [denyOverrides_of_none hf, if_neg hb, verdictOf]
    split
    · rfl
    · split <;> rfl

/-- The verdict depends on which rules are in the list, and not on their order
or number. -/
theorem evaluate_reachability_congr {target : Target} {endpoint : Endpoint} {rules rules' : List FirewallRule}
    {profiles profiles' : List ProfileState} (h : ∀ rule, rule ∈ rules ↔ rule ∈ rules') :
    (evaluate target endpoint rules profiles).reachability =
      (evaluate target endpoint rules' profiles').reachability := by
  by_cases hl : endpoint.exposure = .loopback
  · rw [evaluate_loopback hl, evaluate_loopback hl]
  · have same : ∀ rule, rule ∈ applicable target endpoint rules ↔ rule ∈ applicable target endpoint rules' := by
      intro rule
      rw [mem_applicable, mem_applicable, h rule]
    have any : ∀ p : FirewallRule → Bool,
        (applicable target endpoint rules).any p = (applicable target endpoint rules').any p := by
      intro p
      rw [Bool.eq_iff_iff]
      simp only [List.any_eq_true, same]
    have empty : (applicable target endpoint rules).isEmpty = (applicable target endpoint rules').isEmpty := by
      rw [Bool.eq_iff_iff]
      simp only [List.isEmpty_iff, List.eq_nil_iff_forall_not_mem, same]
    simp only [evaluate_eq_verdictOf hl, verdictOf_reachability, any, empty]

end AnneDeBreuil
