import Mathlib.Data.List.Basic

namespace AnneDeBreuil

/-- Outcome of combining the rules that apply to a request when one denying
rule is enough: the denying rule found, or every applicable rule. -/
inductive Decision (R : Type)
  | denied (rule : R)
  | granted (rules : List R)
deriving DecidableEq

variable {R : Type}

def denyOverrides (deny : R → Bool) (rules : List R) : Decision R :=
  match rules.find? deny with
  | some rule => .denied rule
  | none => .granted rules

theorem denyOverrides_of_find {deny : R → Bool} {rules : List R} {rule : R}
    (h : rules.find? deny = some rule) : denyOverrides deny rules = .denied rule := by
  simp [denyOverrides, h]

theorem denyOverrides_of_none {deny : R → Bool} {rules : List R}
    (h : rules.find? deny = none) : denyOverrides deny rules = .granted rules := by
  simp [denyOverrides, h]

theorem denyOverrides_denied {deny : R → Bool} {rules : List R} {rule : R}
    (h : denyOverrides deny rules = .denied rule) : rule ∈ rules ∧ deny rule = true := by
  cases hf : rules.find? deny with
  | none => simp [denyOverrides, hf] at h
  | some found =>
    rw [denyOverrides_of_find hf] at h
    cases h
    exact ⟨List.mem_of_find?_eq_some hf, List.find?_some hf⟩

theorem denyOverrides_granted {deny : R → Bool} {rules granted : List R}
    (h : denyOverrides deny rules = .granted granted) :
    granted = rules ∧ ∀ rule ∈ rules, deny rule = false := by
  cases hf : rules.find? deny with
  | none =>
    rw [denyOverrides_of_none hf] at h
    cases h
    exact ⟨rfl, by simpa using List.find?_eq_none.mp hf⟩
  | some found => simp [denyOverrides, hf] at h

/-- A kept rule that is the first to deny is still the first after filtering. -/
theorem find_filter_of_kept {deny keep : R → Bool} {rules : List R} {rule : R}
    (h : rules.find? deny = some rule) (hk : keep rule = true) :
    (rules.filter keep).find? deny = some rule := by
  induction rules with
  | nil => simp at h
  | cons r rules ih =>
    by_cases hd : deny r = true
    · have eq : r = rule := by simpa [hd] using h
      subst eq
      simp [hk, hd]
    · have tail : rules.find? deny = some rule := by simpa [hd] using h
      by_cases hr : keep r = true
      · simp [hr, hd, ih tail]
      · simp [hr, ih tail]

/-- Dropping rules leaves the outcome as it was exactly when it drops neither
the rule that denies nor, when none does, any rule at all. -/
theorem denyOverrides_filter_iff {deny keep : R → Bool} {rules : List R} :
    denyOverrides deny (rules.filter keep) = denyOverrides deny rules ↔
      (∃ rule, rules.find? deny = some rule ∧ keep rule = true) ∨
        (rules.find? deny = none ∧ ∀ rule ∈ rules, keep rule = true) := by
  cases hf : rules.find? deny with
  | some rule =>
    rw [denyOverrides_of_find hf]
    constructor
    · intro h
      have hm := (denyOverrides_denied h).1
      exact Or.inl ⟨rule, rfl, (List.mem_filter.mp hm).2⟩
    · rintro (⟨found, he, hk⟩ | ⟨he, _⟩)
      · cases Option.some.inj he
        exact denyOverrides_of_find (find_filter_of_kept hf hk)
      · simp at he
  | none =>
    rw [denyOverrides_of_none hf]
    constructor
    · intro h
      have he := (denyOverrides_granted h).1
      exact Or.inr ⟨rfl, List.filter_eq_self.mp he.symm⟩
    · rintro (⟨found, he, _⟩ | ⟨_, hk⟩)
      · simp at he
      · rw [List.filter_eq_self.mpr hk]
        exact denyOverrides_of_none hf

end AnneDeBreuil
