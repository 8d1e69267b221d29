import AnneDeBreuil.DriftEvents

namespace AnneDeBreuil

theorem allEntries_ruleSet {target : Target} {baseline current : ScanSnapshot} {severity : Severity} :
    (⟨.ruleSetChanged, none, severity⟩ : DriftEntry) ∈ allEntries target baseline current ↔
      baseline.firewallRules ≠ current.firewallRules ∧ severity = .medium := by
  constructor
  · intro h
    rcases allEntries_split.mp h with h | h | h | h
    · obtain ⟨_, key, hk⟩ := unmatchedEntries_event h
      cases hk
    · obtain ⟨_, key, hk⟩ := unmatchedEntries_event h
      cases hk
    · obtain ⟨⟨key, hk⟩, _⟩ := sharedEntries_event h
      cases hk
    · obtain ⟨hr, he⟩ := ruleSetEntries_mem.mp h
      exact ⟨hr, congrArg DriftEntry.severity he⟩
  · rintro ⟨hr, rfl⟩
    have he := ruleSetEntries_mem.mpr ⟨hr, rfl⟩
    exact allEntries_split.mpr (.inr (.inr (.inr he)))

theorem changedEntries_profiles (target : Target) (baseline current : ScanSnapshot)
    (before after : Endpoint) (profiles profiles' : List ProfileState) :
    changedEntries target { baseline with profiles := profiles } { current with profiles := profiles' }
      before after = changedEntries target baseline current before after := by
  have was := evaluate_profiles_irrel target before baseline.firewallRules profiles baseline.profiles
  have now := evaluate_profiles_irrel target after current.firewallRules profiles' current.profiles
  simp only [changedEntries, was, now]

/-- A changed rule list is always reported, and the report does not depend on
the profiles of either snapshot. -/
theorem diff_policy_change (target : Target) (baseline current : ScanSnapshot) :
    (⟨.ruleSetChanged, none, .medium⟩ ∈ (diff target baseline current).entries ↔
      baseline.firewallRules ≠ current.firewallRules) ∧
    ∀ profiles profiles' : List ProfileState,
      diff target { baseline with profiles := profiles } { current with profiles := profiles' } =
        diff target baseline current := by
  refine ⟨?_, fun profiles profiles' => ?_⟩
  · have kept : isEphemeralChurn ⟨.ruleSetChanged, none, .medium⟩ = false := rfl
    simp only [diff, List.mem_filter, allEntries_ruleSet, kept, Bool.not_false, and_true]
  · simp only [diff, allEntries, sharedEntries, ruleSetEntries, changedEntries_profiles]

/-- A firewall switched off and opened by default leaves no trace. -/
theorem diff_profile_change_counterexample :
    let baseline := sampleSnapshot [wildcardListener 443] [] [⟨.publicNetwork, true, .block, .allow⟩]
    let current := sampleSnapshot [wildcardListener 443] [] [⟨.publicNetwork, false, .allow, .allow⟩]
    baseline.profiles ≠ current.profiles ∧ { baseline with profiles := current.profiles } = current ∧
      diff .other baseline current = ⟨[], 0⟩ := by
  decide

end AnneDeBreuil
