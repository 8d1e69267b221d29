import AnneDeBreuil.FsStoreLog
import AnneDeBreuil.InForceRules

namespace AnneDeBreuil

/-- No order of the same endpoints, rules and profiles shows in the snapshot,
nor in the bytes it is written as or in their hash. -/
def OrderNeverShows (endpoints : List Endpoint) (firewallRules : List FirewallRule) (profiles : List ProfileState) :
    Prop :=
  ∀ hostId scanId collectedAt collectorVersion strategy endpoints' firewallRules' profiles',
    endpoints.Perm endpoints' → firewallRules.Perm firewallRules' → profiles.Perm profiles' →
    let snapshot := ScanSnapshot.new hostId scanId collectedAt collectorVersion endpoints firewallRules profiles strategy
    let shuffled :=
      ScanSnapshot.new hostId scanId collectedAt collectorVersion endpoints' firewallRules' profiles' strategy
    shuffled = snapshot ∧ ∀ (β : Type) (libs : StoreLibs β),
      libs.toVec shuffled = libs.toVec snapshot ∧ contentHashOf libs shuffled = contentHashOf libs snapshot

theorem IpAddr.rank_lt (ip : IpAddr) : ip.rank < 2 ^ 129 := by
  cases ip with
  | v4 bits => have := bits.isLt; simp only [IpAddr.rank]; omega
  | v6 bits => have := bits.isLt; simp only [IpAddr.rank]; omega

theorem IpAddr.rank_inj {a b : IpAddr} : a.rank = b.rank ↔ a = b := by
  constructor
  · intro h
    cases a with
    | v4 x =>
      cases b with
      | v4 y => rw [BitVec.eq_of_toNat_eq h]
      | v6 y => have := x.isLt; simp only [IpAddr.rank] at h; omega
    | v6 x =>
      cases b with
      | v4 y => have := y.isLt; simp only [IpAddr.rank] at h; omega
      | v6 y => rw [BitVec.eq_of_toNat_eq (Nat.add_left_cancel h)]
  · rintro rfl
    rfl

theorem Protocol.ctorIdx_inj {a b : Protocol} : a.ctorIdx = b.ctorIdx ↔ a = b := by
  cases a <;> cases b <;> decide

/-- The number stands for the triple it is made of. -/
theorem Endpoint.sortKey_eq_iff {a b : Endpoint} :
    a.sortKey = b.sortKey ↔ a.protocol = b.protocol ∧ a.bindAddress = b.bindAddress ∧ a.port = b.port := by
  have ha := a.bindAddress.ip.rank_lt
  have hb := b.bindAddress.ip.rank_lt
  have hpa := a.port.get.toNat_lt
  have hpb := b.port.get.toNat_lt
  have split : a.sortKey = b.sortKey ↔ a.protocol.ctorIdx = b.protocol.ctorIdx ∧
      a.bindAddress.ip.rank = b.bindAddress.ip.rank ∧ a.port.get.toNat = b.port.get.toNat := by
    unfold Endpoint.sortKey
    omega
  rw [split, Protocol.ctorIdx_inj, IpAddr.rank_inj, UInt16.toNat_inj]
  have address : a.bindAddress.ip = b.bindAddress.ip ↔ a.bindAddress = b.bindAddress := by
    cases a.bindAddress; cases b.bindAddress; simp
  have port : a.port.get = b.port.get ↔ a.port = b.port := by
    cases a.port; cases b.port; simp
  rw [address, port]

theorem FirewallRule.sortKey_eq_iff {a b : FirewallRule} : a.sortKey = b.sortKey ↔ a.ruleId = b.ruleId := by
  unfold FirewallRule.sortKey
  rw [BitVec.toNat_inj]
  cases a.ruleId; cases b.ruleId; simp

theorem ProfileState.sortKey_eq_iff {a b : ProfileState} : a.sortKey = b.sortKey ↔ a.profile = b.profile := by
  unfold ProfileState.sortKey
  cases a.profile <;> cases b.profile <;> decide

theorem orderNeverShows_iff_separates {endpoints : List Endpoint} {firewallRules : List FirewallRule}
    {profiles : List ProfileState} :
    OrderNeverShows endpoints firewallRules profiles ↔
      Separates Endpoint.sortKey endpoints ∧ Separates FirewallRule.sortKey firewallRules ∧
      Separates ProfileState.sortKey profiles := by
  constructor
  · intro free
    have sorted := fun endpoints' firewallRules' profiles' he hr hp =>
      (free ⟨0⟩ ⟨0⟩ ⟨0, 0⟩ "" .localOnly endpoints' firewallRules' profiles' he hr hp).1
    simp only [ScanSnapshot.new, ScanSnapshot.mk.injEq, true_and, and_true] at sorted
    refine ⟨?_, ?_, ?_⟩
    · exact sortByKey_order_free_iff.mp fun ys hys => (sorted ys _ _ hys (.refl _) (.refl _)).1
    · exact sortByKey_order_free_iff.mp fun ys hys => (sorted _ ys _ (.refl _) hys (.refl _)).2.1
    · exact sortByKey_order_free_iff.mp fun ys hys => (sorted _ _ ys (.refl _) (.refl _) hys).2.2
  · rintro ⟨he, hr, hp⟩ hostId scanId collectedAt collectorVersion strategy endpoints' firewallRules' profiles' pe pr pp
    have same : ScanSnapshot.new hostId scanId collectedAt collectorVersion endpoints' firewallRules' profiles' strategy =
        ScanSnapshot.new hostId scanId collectedAt collectorVersion endpoints firewallRules profiles strategy := by
      unfold ScanSnapshot.new
      rw [sortByKey_of_separates he pe, sortByKey_of_separates hr pr, sortByKey_of_separates hp pp]
    refine ⟨same, fun β libs => ?_⟩
    rw [same]
    exact ⟨rfl, rfl⟩

/-- The input order stays hidden exactly when each sort key tells the unequal
elements of its list apart. -/
theorem orderNeverShows_iff (endpoints : List Endpoint) (firewallRules : List FirewallRule)
    (profiles : List ProfileState) :
    OrderNeverShows endpoints firewallRules profiles ↔
      (∀ a ∈ endpoints, ∀ b ∈ endpoints,
        a.protocol = b.protocol → a.bindAddress = b.bindAddress → a.port = b.port → a = b) ∧
      (∀ a ∈ firewallRules, ∀ b ∈ firewallRules, a.ruleId = b.ruleId → a = b) ∧
      (∀ a ∈ profiles, ∀ b ∈ profiles, a.profile = b.profile → a = b) := by
  rw [orderNeverShows_iff_separates]
  simp only [Separates, Endpoint.sortKey_eq_iff, FirewallRule.sortKey_eq_iff, ProfileState.sortKey_eq_iff, and_imp]

/-- An unrestricted rule becomes a TCP and a UDP rule of one id, and whichever
is listed first stays first. -/
theorem orderNeverShows_counterexample :
    let tcp := tcpRule .allow .any
    let udp := { tcpRule .allow .any with protocol := .udp }
    ((ScanSnapshot.new ⟨0⟩ ⟨0⟩ ⟨0, 0⟩ "1.0.0" [] [tcp, udp] [] .localOnly).firewallRules = [tcp, udp] ∧
      (ScanSnapshot.new ⟨0⟩ ⟨0⟩ ⟨0, 0⟩ "1.0.0" [] [udp, tcp] [] .localOnly).firewallRules = [udp, tcp]) ∧
    ¬OrderNeverShows [] [tcp, udp] [] := by
  intro tcp udp
  have first : (ScanSnapshot.new ⟨0⟩ ⟨0⟩ ⟨0, 0⟩ "1.0.0" [] [tcp, udp] [] .localOnly).firewallRules = [tcp, udp] := by
    decide +kernel
  have second : (ScanSnapshot.new ⟨0⟩ ⟨0⟩ ⟨0, 0⟩ "1.0.0" [] [udp, tcp] [] .localOnly).firewallRules = [udp, tcp] := by
    decide +kernel
  refine ⟨⟨first, second⟩, fun free => ?_⟩
  have same := (free ⟨0⟩ ⟨0⟩ ⟨0, 0⟩ "1.0.0" .localOnly [] [udp, tcp] [] (.refl _) (List.Perm.swap udp tcp []) (.refl _)).1
  have rules := congrArg ScanSnapshot.firewallRules same
  rw [first, second] at rules
  exact absurd rules (by decide)

end AnneDeBreuil
