import AnneDeBreuil.Drift
import AnneDeBreuil.InForceRules

namespace AnneDeBreuil

/-- Two endpoints between which `diff` sees no change under one rule list. -/
def SameOwner (target : Target) (rules : List FirewallRule) (profiles : List ProfileState) (a b : Endpoint) :
    Prop :=
  a.processPath = b.processPath ∧ a.signatureStatus = b.signatureStatus ∧
  (evaluate target a rules profiles).reachability = (evaluate target b rules profiles).reachability

theorem SameOwner.symm {target : Target} {rules : List FirewallRule} {profiles : List ProfileState}
    {a b : Endpoint} (h : SameOwner target rules profiles a b) : SameOwner target rules profiles b a :=
  ⟨h.1.symm, h.2.1.symm, h.2.2.symm⟩

theorem SameOwner.trans {target : Target} {rules : List FirewallRule} {profiles : List ProfileState}
    {a b c : Endpoint} (hab : SameOwner target rules profiles a b) (hbc : SameOwner target rules profiles b c) :
    SameOwner target rules profiles a c :=
  ⟨hab.1.trans hbc.1, hab.2.1.trans hbc.2.1, hab.2.2.trans hbc.2.2⟩

theorem unmatchedEntries_self (kind : DriftKind) (endpoints : List Endpoint) :
    unmatchedEntries kind (indexBy EndpointKey.ofEndpoint endpoints) endpoints = [] := by
  apply List.eq_nil_iff_forall_not_mem.mpr
  intro entry he
  obtain ⟨endpoint, hm, hn, _⟩ := unmatchedEntries_mem.mp he
  exact hn endpoint hm rfl

/-- Against itself a snapshot's endpoints are each compared with the last one
under their key. -/
theorem allEntries_self_nil {target : Target} {snapshot : ScanSnapshot} :
    allEntries target snapshot snapshot = [] ↔
      ∀ after ∈ snapshot.endpoints, ∀ before,
        indexBy EndpointKey.ofEndpoint snapshot.endpoints (.ofEndpoint after) = some before →
        SameOwner target snapshot.firewallRules snapshot.profiles before after := by
  simp only [allEntries, unmatchedEntries_self, ruleSetEntries, ne_eq, not_true, if_false, List.nil_append,
    List.append_nil]
  constructor
  · intro h after hm before hb
    apply changedEntries_nil.mp
    apply List.eq_nil_iff_forall_not_mem.mpr
    intro entry he
    have hs := sharedEntries_mem.mpr ⟨after, hm, before, hb, he⟩
    simp [h] at hs
  · intro h
    apply List.eq_nil_iff_forall_not_mem.mpr
    intro entry he
    obtain ⟨after, hm, before, hb, hc⟩ := sharedEntries_mem.mp he
    rw [changedEntries_nil.mpr (h after hm before hb)] at hc
    simp at hc

theorem diff_self_empty {target : Target} {snapshot : ScanSnapshot} :
    (diff target snapshot snapshot).entries = [] ∧ (diff target snapshot snapshot).suppressedEphemeral = 0 ↔
      ∀ a ∈ snapshot.endpoints, ∀ b ∈ snapshot.endpoints, EndpointKey.ofEndpoint a = .ofEndpoint b →
        SameOwner target snapshot.firewallRules snapshot.profiles a b := by
  rw [diff_empty_iff, allEntries_self_nil]
  constructor
  · intro h a ha b hb hk
    obtain ⟨last, hl⟩ := indexBy_exists EndpointKey.ofEndpoint ha
    exact (h a ha last hl).symm.trans (h b hb last (hk ▸ hl))
  · intro h after ha before hb
    obtain ⟨hm, hk⟩ := indexBy_some hb
    exact h before hm after ha hk

/-- A snapshot differs from itself exactly when two of its endpoints share
protocol, address and port but not process path, signature or reachability. -/
theorem diff_self_empty_iff (target : Target) (hostId : HostId) (scanId : ScanId) (collectedAt : OffsetDateTime)
    (collectorVersion : String) (endpoints : List Endpoint) (firewallRules : List FirewallRule)
    (profiles : List ProfileState) (strategy : TargetStrategy) :
    let snapshot := ScanSnapshot.new hostId scanId collectedAt collectorVersion endpoints firewallRules profiles
      strategy
    (diff target snapshot snapshot).entries = [] ∧ (diff target snapshot snapshot).suppressedEphemeral = 0 ↔
      ∀ a ∈ endpoints, ∀ b ∈ endpoints,
        a.protocol = b.protocol → a.bindAddress = b.bindAddress → a.port = b.port →
        a.processPath = b.processPath ∧ a.signatureStatus = b.signatureStatus ∧
        (evaluate target a firewallRules profiles).reachability =
          (evaluate target b firewallRules profiles).reachability := by
  intro snapshot
  have hrules : snapshot.firewallRules.Perm firewallRules := sortByKey_perm FirewallRule.sortKey firewallRules
  have hends : ∀ endpoint, endpoint ∈ snapshot.endpoints ↔ endpoint ∈ endpoints := fun _ => mem_sortByKey
  have hreach : ∀ endpoint, (evaluate target endpoint snapshot.firewallRules snapshot.profiles).reachability =
      (evaluate target endpoint firewallRules profiles).reachability :=
    fun _ => evaluate_reachability_congr fun _ => hrules.mem_iff
  rw [diff_self_empty]
  simp only [SameOwner, hends, hreach, EndpointKey.ofEndpoint, EndpointKey.mk.injEq, and_imp]

def sampleSnapshot (endpoints : List Endpoint) (firewallRules : List FirewallRule)
    (profiles : List ProfileState) : ScanSnapshot :=
  .new ⟨1⟩ ⟨2⟩ ⟨0, 0⟩ "1.0.0" endpoints firewallRules profiles .localOnly

/-- Two workers that listen on one port through `SO_REUSEPORT`. -/
def reusedPort : List Endpoint :=
  [{ wildcardListener 443 with processPath := some ⟨"/usr/bin/a"⟩ },
    { wildcardListener 443 with processPath := some ⟨"/usr/bin/b"⟩ }]

theorem diff_self_empty_counterexample :
    (diff .other (sampleSnapshot reusedPort [] []) (sampleSnapshot reusedPort [] [])).entries =
      [⟨.processChanged, some ⟨.tcp, ⟨.v4 0⟩, ⟨443⟩⟩, .high⟩] := by
  decide

end AnneDeBreuil
