import AnneDeBreuil.DriftSelf

namespace AnneDeBreuil

/-- The changes between two snapshots, each with the entry that reports it. -/
inductive DriftEvent (target : Target) (baseline current : ScanSnapshot) : DriftEntry → Prop
  | appeared {endpoint : Endpoint} (present : endpoint ∈ current.endpoints)
      (absent : ∀ other ∈ baseline.endpoints, EndpointKey.ofEndpoint other ≠ .ofEndpoint endpoint) :
      DriftEvent target baseline current (entryFor .endpointAppeared endpoint)
  | disappeared {endpoint : Endpoint} (present : endpoint ∈ baseline.endpoints)
      (absent : ∀ other ∈ current.endpoints, EndpointKey.ofEndpoint other ≠ .ofEndpoint endpoint) :
      DriftEvent target baseline current (entryFor .endpointDisappeared endpoint)
  | process {before after : Endpoint} (old : before ∈ baseline.endpoints) (new : after ∈ current.endpoints)
      (shared : EndpointKey.ofEndpoint before = .ofEndpoint after)
      (change : before.processPath ≠ after.processPath) :
      DriftEvent target baseline current (entryFor .processChanged after)
  | signature {before after : Endpoint} (old : before ∈ baseline.endpoints) (new : after ∈ current.endpoints)
      (shared : EndpointKey.ofEndpoint before = .ofEndpoint after)
      (change : before.signatureStatus ≠ after.signatureStatus) :
      DriftEvent target baseline current (entryFor .signatureChanged after)
  | reachability {before after : Endpoint} {was now : Reachability} (old : before ∈ baseline.endpoints)
      (new : after ∈ current.endpoints) (shared : EndpointKey.ofEndpoint before = .ofEndpoint after)
      (wasVerdict : (evaluate target before baseline.firewallRules baseline.profiles).reachability = was)
      (nowVerdict : (evaluate target after current.firewallRules current.profiles).reachability = now)
      (change : was ≠ now) :
      DriftEvent target baseline current (entryFor (.reachabilityChanged was now) after)
  | ruleSet (change : baseline.firewallRules ≠ current.firewallRules) :
      DriftEvent target baseline current ⟨.ruleSetChanged, none, .medium⟩

def DriftEntry.event (entry : DriftEntry) : DriftKind × Option EndpointKey := (entry.kind, entry.endpointKey)

/-- An endpoint that came or went on a port above 49152. -/
def DriftEntry.Ephemeral (entry : DriftEntry) : Prop :=
  (entry.kind = .endpointAppeared ∨ entry.kind = .endpointDisappeared) ∧
  ∃ key, entry.endpointKey = some key ∧ 49152 < key.port.get

theorem isEphemeralChurn_iff {entry : DriftEntry} : isEphemeralChurn entry = true ↔ entry.Ephemeral := by
  obtain ⟨kind, key, severity⟩ := entry
  cases kind <;> cases key <;>
    simp [isEphemeralChurn, DriftEntry.Ephemeral, ephemeralPortThreshold]

theorem ruleSetEntries_mem {baseline current : ScanSnapshot} {entry : DriftEntry} :
    entry ∈ ruleSetEntries baseline current ↔
      baseline.firewallRules ≠ current.firewallRules ∧ entry = ⟨.ruleSetChanged, none, .medium⟩ := by
  simp only [ruleSetEntries, severityFor]
  split <;> simp_all

theorem changedEntries_mem {target : Target} {baseline current : ScanSnapshot} {before after : Endpoint}
    {entry : DriftEntry} :
    entry ∈ changedEntries target baseline current before after ↔
      (before.processPath ≠ after.processPath ∧ entry = entryFor .processChanged after) ∨
      (before.signatureStatus ≠ after.signatureStatus ∧ entry = entryFor .signatureChanged after) ∨
      ((evaluate target before baseline.firewallRules baseline.profiles).reachability ≠
          (evaluate target after current.firewallRules current.profiles).reachability ∧
        entry = entryFor (.reachabilityChanged
          (evaluate target before baseline.firewallRules baseline.profiles).reachability
          (evaluate target after current.firewallRules current.profiles).reachability) after) := by
  have guarded : ∀ (p : Prop) [Decidable p] (e : DriftEntry),
      entry ∈ (if p then [e] else []) ↔ p ∧ entry = e := by
    intro p _ e
    split <;> simp_all
  simp only [changedEntries, List.mem_append, guarded, or_assoc]

/-- The entries pushed are the changes, when the baseline's keys are distinct. -/
theorem allEntries_mem {target : Target} {baseline current : ScanSnapshot} {entry : DriftEntry}
    (distinct : (baseline.endpoints.map EndpointKey.ofEndpoint).Nodup) :
    entry ∈ allEntries target baseline current ↔ DriftEvent target baseline current entry := by
  have found : ∀ {before after : Endpoint}, before ∈ baseline.endpoints →
      EndpointKey.ofEndpoint before = .ofEndpoint after →
      indexBy EndpointKey.ofEndpoint baseline.endpoints (.ofEndpoint after) = some before :=
    fun hm hk => hk ▸ indexBy_of_nodup distinct hm
  simp only [allEntries_split, unmatchedEntries_mem, sharedEntries_mem, changedEntries_mem,
    ruleSetEntries_mem]
  constructor
  · rintro (⟨endpoint, hm, hn, rfl⟩ | ⟨endpoint, hm, hn, rfl⟩ | ⟨after, hm, before, hb, hc⟩ | ⟨hr, rfl⟩)
    · exact .appeared hm hn
    · exact .disappeared hm hn
    · obtain ⟨hold, hk⟩ := indexBy_some hb
      rcases hc with ⟨hd, rfl⟩ | ⟨hd, rfl⟩ | ⟨hd, rfl⟩
      · exact .process hold hm hk hd
      · exact .signature hold hm hk hd
      · exact .reachability hold hm hk rfl rfl hd
    · exact .ruleSet hr
  · intro h
    cases h with
    | appeared present absent => exact .inl ⟨_, present, absent, rfl⟩
    | disappeared present absent => exact .inr (.inl ⟨_, present, absent, rfl⟩)
    | process old new shared change =>
      exact .inr (.inr (.inl ⟨_, new, _, found old shared, .inl ⟨change, rfl⟩⟩))
    | signature old new shared change =>
      exact .inr (.inr (.inl ⟨_, new, _, found old shared, .inr (.inl ⟨change, rfl⟩)⟩))
    | reachability old new shared wasVerdict nowVerdict change =>
      subst wasVerdict nowVerdict
      exact .inr (.inr (.inl ⟨_, new, _, found old shared, .inr (.inr ⟨change, rfl⟩)⟩))
    | ruleSet change => exact .inr (.inr (.inr ⟨change, rfl⟩))

theorem unmatchedEntries_events (kind : DriftKind) (other : EndpointKey → Option Endpoint)
    (endpoints : List Endpoint) :
    (unmatchedEntries kind other endpoints).map DriftEntry.event =
      ((endpoints.filter (fun endpoint => (other (.ofEndpoint endpoint)).isNone)).map EndpointKey.ofEndpoint).map
        (fun key => (kind, some key)) := by
  simp [unmatchedEntries, entryFor, DriftEntry.event]

theorem unmatchedEntries_events_nodup {kind : DriftKind} {other : EndpointKey → Option Endpoint}
    {endpoints : List Endpoint} (distinct : (endpoints.map EndpointKey.ofEndpoint).Nodup) :
    ((unmatchedEntries kind other endpoints).map DriftEntry.event).Nodup := by
  rw [unmatchedEntries_events]
  apply List.Nodup.map
  · intro a b h
    simpa using h
  · exact distinct.sublist (List.filter_sublist.map _)

theorem changedEntries_events_nodup (target : Target) (baseline current : ScanSnapshot)
    (before after : Endpoint) :
    ((changedEntries target baseline current before after).map DriftEntry.event).Nodup := by
  simp only [changedEntries, entryFor]
  split <;> split <;> split <;> simp [DriftEntry.event]

theorem changedEntries_event {target : Target} {baseline current : ScanSnapshot} {before after : Endpoint}
    {entry : DriftEntry} (h : entry ∈ changedEntries target baseline current before after) :
    entry.endpointKey = some (.ofEndpoint after) ∧ entry.kind ≠ .endpointAppeared ∧
      entry.kind ≠ .endpointDisappeared := by
  rcases changedEntries_mem.mp h with ⟨_, rfl⟩ | ⟨_, rfl⟩ | ⟨_, rfl⟩ <;> simp [entryFor]

/-- What sets the entries of the shared keys apart from the other ones. -/
theorem sharedEntries_event {target : Target} {baseline current : ScanSnapshot} {entry : DriftEntry}
    (h : entry ∈ sharedEntries target baseline current) :
    (∃ key, entry.endpointKey = some key) ∧ entry.kind ≠ .endpointAppeared ∧
      entry.kind ≠ .endpointDisappeared := by
  obtain ⟨after, _, before, _, hc⟩ := sharedEntries_mem.mp h
  obtain ⟨hkey, happeared, hdisappeared⟩ := changedEntries_event hc
  exact ⟨⟨_, hkey⟩, happeared, hdisappeared⟩

theorem sharedEntries_events_nodup {target : Target} {baseline current : ScanSnapshot}
    (distinct : (current.endpoints.map EndpointKey.ofEndpoint).Nodup) :
    ((sharedEntries target baseline current).map DriftEntry.event).Nodup := by
  simp only [sharedEntries, List.map_flatMap]
  refine List.nodup_flatMap.mpr ⟨fun after _ => ?_, (List.pairwise_map.mp distinct).imp ?_⟩
  · split
    · simp
    · exact changedEntries_events_nodup ..
  · intro a b hk
    simp only [Function.onFun]
    split
    · exact List.disjoint_nil_left _
    · split
      · exact List.disjoint_nil_right _
      · simp only [List.disjoint_iff_ne, List.mem_map]
        rintro _ ⟨x, hx, rfl⟩ _ ⟨y, hy, rfl⟩ he
        have heq : x.endpointKey = y.endpointKey := (Prod.mk.inj he).2
        rw [(changedEntries_event hx).1, (changedEntries_event hy).1] at heq
        exact hk (Option.some.inj heq)

theorem events_append_nodup {xs ys : List DriftEntry} (hx : (xs.map DriftEntry.event).Nodup)
    (hy : (ys.map DriftEntry.event).Nodup) (h : ∀ x ∈ xs, ∀ y ∈ ys, x.event ≠ y.event) :
    ((xs ++ ys).map DriftEntry.event).Nodup := by
  rw [List.map_append]
  refine List.nodup_append.mpr ⟨hx, hy, ?_⟩
  intro a ha b hb
  obtain ⟨x, hm, rfl⟩ := List.mem_map.mp ha
  obtain ⟨y, hn, rfl⟩ := List.mem_map.mp hb
  exact h x hm y hn

/-- No change is pushed twice. -/
theorem allEntries_events_nodup {target : Target} {baseline current : ScanSnapshot}
    (hb : (baseline.endpoints.map EndpointKey.ofEndpoint).Nodup)
    (hc : (current.endpoints.map EndpointKey.ofEndpoint).Nodup) :
    ((allEntries target baseline current).map DriftEntry.event).Nodup := by
  have ruleSet : ((ruleSetEntries baseline current).map DriftEntry.event).Nodup := by
    simp only [ruleSetEntries]
    split <;> simp
  refine events_append_nodup (events_append_nodup (events_append_nodup
    (unmatchedEntries_events_nodup hc) (unmatchedEntries_events_nodup hb) ?_)
    (sharedEntries_events_nodup hc) ?_) ruleSet ?_
  · intro x hx y hy he
    have hk : x.kind = y.kind := (Prod.mk.inj he).1
    rw [(unmatchedEntries_event hx).1, (unmatchedEntries_event hy).1] at hk
    cases hk
  · intro x hx y hy he
    have hk : y.kind = x.kind := (Prod.mk.inj he).1.symm
    obtain ⟨_, happeared, hdisappeared⟩ := sharedEntries_event hy
    rcases List.mem_append.mp hx with hx | hx
    · exact happeared (hk.trans (unmatchedEntries_event hx).1)
    · exact hdisappeared (hk.trans (unmatchedEntries_event hx).1)
  · intro x hx y hy he
    obtain ⟨_, rfl⟩ := ruleSetEntries_mem.mp hy
    have keyed : ∃ key, x.endpointKey = some key := by
      rcases List.mem_append.mp hx with hx | hx
      · rcases List.mem_append.mp hx with hx | hx
        · exact (unmatchedEntries_event hx).2
        · exact (unmatchedEntries_event hx).2
      · exact (sharedEntries_event hx).1
    obtain ⟨key, hkey⟩ := keyed
    have hk : x.endpointKey = none := (Prod.mk.inj he).2
    simp [hkey] at hk

theorem unmatchedEntries_suppressed {kind : DriftKind} {other : EndpointKey → Option Endpoint}
    {endpoints : List Endpoint} (h : kind = .endpointAppeared ∨ kind = .endpointDisappeared) :
    ((unmatchedEntries kind other endpoints).filter isEphemeralChurn).length =
      endpoints.countP (fun endpoint =>
        endpoint.port.get > ephemeralPortThreshold && (other (.ofEndpoint endpoint)).isNone) := by
  have churn : ∀ endpoint, isEphemeralChurn (entryFor kind endpoint) =
      decide (endpoint.port.get > ephemeralPortThreshold) := by
    intro endpoint
    rcases h with rfl | rfl <;> simp [isEphemeralChurn, entryFor, EndpointKey.ofEndpoint]
  simp only [unmatchedEntries, List.filter_map, List.length_map, List.filter_filter, Function.comp_def, churn,
    List.countP_eq_length_filter]

/-- The suppressed entries are the endpoints on one side only, on ports above
the threshold. -/
theorem diff_suppressed (target : Target) (baseline current : ScanSnapshot) :
    (diff target baseline current).suppressedEphemeral =
      current.endpoints.countP (fun endpoint => endpoint.port.get > ephemeralPortThreshold &&
        (indexBy EndpointKey.ofEndpoint baseline.endpoints (.ofEndpoint endpoint)).isNone) +
      baseline.endpoints.countP (fun endpoint => endpoint.port.get > ephemeralPortThreshold &&
        (indexBy EndpointKey.ofEndpoint current.endpoints (.ofEndpoint endpoint)).isNone) := by
  have shared : (sharedEntries target baseline current).filter isEphemeralChurn = [] := by
    apply List.filter_eq_nil_iff.mpr
    intro entry he hs
    obtain ⟨_, happeared, hdisappeared⟩ := sharedEntries_event he
    rcases (isEphemeralChurn_iff.mp hs).1 with hk | hk
    · exact happeared hk
    · exact hdisappeared hk
  have ruleSet : (ruleSetEntries baseline current).filter isEphemeralChurn = [] := by
    apply List.filter_eq_nil_iff.mpr
    intro entry he hs
    obtain ⟨_, rfl⟩ := ruleSetEntries_mem.mp he
    simp [isEphemeralChurn] at hs
  simp only [diff, allEntries, List.filter_append, shared, ruleSet, List.append_nil, List.length_append,
    unmatchedEntries_suppressed (.inl rfl), unmatchedEntries_suppressed (.inr rfl)]

theorem diff_suppressed_swap (target : Target) (baseline current : ScanSnapshot) :
    (diff target current baseline).suppressedEphemeral = (diff target baseline current).suppressedEphemeral := by
  rw [diff_suppressed, diff_suppressed, Nat.add_comm]

theorem diff_entries_mem {target : Target} {baseline current : ScanSnapshot} {entry : DriftEntry}
    (distinct : (baseline.endpoints.map EndpointKey.ofEndpoint).Nodup) :
    entry ∈ (diff target baseline current).entries ↔
      DriftEvent target baseline current entry ∧ ¬entry.Ephemeral := by
  simp only [diff, List.mem_filter, allEntries_mem distinct, Bool.not_eq_true', ← Bool.not_eq_true,
    isEphemeralChurn_iff]

theorem entryFor_ephemeral {kind : DriftKind} {endpoint : Endpoint}
    (h : kind = .endpointAppeared ∨ kind = .endpointDisappeared) :
    (entryFor kind endpoint).Ephemeral ↔ 49152 < endpoint.port.get := by
  simp [DriftEntry.Ephemeral, entryFor, EndpointKey.ofEndpoint, h]

/-- What is reported as appeared one way is reported as disappeared the other
way. -/
theorem diff_appeared_swap {target : Target} {baseline current : ScanSnapshot} {key : Option EndpointKey}
    (hb : (baseline.endpoints.map EndpointKey.ofEndpoint).Nodup)
    (hc : (current.endpoints.map EndpointKey.ofEndpoint).Nodup) :
    (DriftKind.endpointAppeared, key) ∈ (diff target baseline current).entries.map DriftEntry.event ↔
      (DriftKind.endpointDisappeared, key) ∈ (diff target current baseline).entries.map DriftEntry.event := by
  simp only [List.mem_map, diff_entries_mem hb, diff_entries_mem hc]
  constructor
  · rintro ⟨entry, ⟨he, hn⟩, hk⟩
    cases he with
    | @appeared endpoint present absent =>
      rw [entryFor_ephemeral (.inl rfl)] at hn
      refine ⟨entryFor .endpointDisappeared endpoint, ⟨.disappeared present absent, ?_⟩, ?_⟩
      · rwa [entryFor_ephemeral (.inr rfl)]
      · simpa [DriftEntry.event, entryFor] using hk
    | _ => simp [DriftEntry.event, entryFor] at hk
  · rintro ⟨entry, ⟨he, hn⟩, hk⟩
    cases he with
    | @disappeared endpoint present absent =>
      rw [entryFor_ephemeral (.inr rfl)] at hn
      refine ⟨entryFor .endpointAppeared endpoint, ⟨.appeared present absent, ?_⟩, ?_⟩
      · rwa [entryFor_ephemeral (.inl rfl)]
      · simpa [DriftEntry.event, entryFor] using hk
    | _ => simp [DriftEntry.event, entryFor] at hk

/-- The report is exactly the changes, each once: the ephemeral ones counted,
the others listed. -/
theorem diff_events_exact (target : Target) {baseline current : ScanSnapshot}
    (hb : (baseline.endpoints.map EndpointKey.ofEndpoint).Nodup)
    (hc : (current.endpoints.map EndpointKey.ofEndpoint).Nodup) :
    ((diff target baseline current).entries.map DriftEntry.event).Nodup ∧
    (∀ entry, entry ∈ (diff target baseline current).entries ↔
      DriftEvent target baseline current entry ∧ ¬entry.Ephemeral) ∧
    (∃ suppressed : List DriftEntry, (suppressed.map DriftEntry.event).Nodup ∧
      (∀ entry, entry ∈ suppressed ↔ DriftEvent target baseline current entry ∧ entry.Ephemeral) ∧
      (diff target baseline current).suppressedEphemeral = suppressed.length) ∧
    (∀ key,
      ((DriftKind.endpointAppeared, key) ∈ (diff target baseline current).entries.map DriftEntry.event ↔
        (DriftKind.endpointDisappeared, key) ∈
          (diff target current baseline).entries.map DriftEntry.event) ∧
      ((DriftKind.endpointDisappeared, key) ∈ (diff target baseline current).entries.map DriftEntry.event ↔
        (DriftKind.endpointAppeared, key) ∈
          (diff target current baseline).entries.map DriftEntry.event)) ∧
    (diff target current baseline).suppressedEphemeral =
      (diff target baseline current).suppressedEphemeral := by
  have once : ((allEntries target baseline current).map DriftEntry.event).Nodup :=
    allEntries_events_nodup hb hc
  refine ⟨once.sublist (List.filter_sublist.map _), fun entry => diff_entries_mem hb,
    ⟨(allEntries target baseline current).filter isEphemeralChurn,
      once.sublist (List.filter_sublist.map _), ?_, rfl⟩,
    fun key => ⟨diff_appeared_swap hb hc, (diff_appeared_swap hc hb).symm⟩,
    diff_suppressed_swap target baseline current⟩
  intro entry
  rw [List.mem_filter, allEntries_mem hb, isEphemeralChurn_iff]

/-- A listener replaced while a port above the threshold comes and goes. -/
theorem diff_events_exact_replaced :
    let baseline := sampleSnapshot [wildcardListener 443, wildcardListener 50000] [] []
    let current := sampleSnapshot [wildcardListener 8443] [] []
    (diff .other baseline current).entries =
      [⟨.endpointAppeared, some ⟨.tcp, ⟨.v4 0⟩, ⟨8443⟩⟩, .critical⟩,
        ⟨.endpointDisappeared, some ⟨.tcp, ⟨.v4 0⟩, ⟨443⟩⟩, .low⟩] ∧
    ((diff .other baseline current).entries.map DriftEntry.event).Nodup ∧
    (diff .other current baseline).suppressedEphemeral =
      (diff .other baseline current).suppressedEphemeral := by
  intro baseline current
  have hb : (baseline.endpoints.map EndpointKey.ofEndpoint).Nodup := by decide
  have hc : (current.endpoints.map EndpointKey.ofEndpoint).Nodup := by decide
  have events := diff_events_exact .other hb hc
  exact ⟨by decide, events.1, events.2.2.2.2⟩

end AnneDeBreuil
