import AnneDeBreuil.DiffCommand
import AnneDeBreuil.DriftEvents
import AnneDeBreuil.Precedence

namespace AnneDeBreuil

/-- A scan of distinct listeners, each with the exposure of its own address. -/
structure ScanSnapshot.Listed (snapshot : ScanSnapshot) : Prop where
  keyed : (snapshot.endpoints.map EndpointKey.ofEndpoint).Nodup
  classified : ∀ endpoint ∈ snapshot.endpoints, endpoint.exposure = .classify endpoint.bindAddress.ip

def EndpointKey.OnLoopback (key : EndpointKey) : Prop := Exposure.classify key.bindAddress.ip = .loopback

/-- One entry is enough to notice another: it is about the same listener, and as
severe, which is not asked on loopback. -/
structure DriftEntry.Covers (seen entry : DriftEntry) : Prop where
  key : seen.endpointKey = entry.endpointKey
  severity : (∃ key, entry.endpointKey = some key ∧ key.OnLoopback) ∨
    entry.severity.ctorIdx ≤ seen.severity.ctorIdx

theorem DriftEntry.Covers.refl (entry : DriftEntry) : entry.Covers entry := ⟨rfl, .inr (Nat.le_refl _)⟩

theorem DriftEntry.Covers.trans {a b c : DriftEntry} (h : a.Covers b) (h' : b.Covers c) : a.Covers c := by
  refine ⟨h.key.trans h'.key, ?_⟩
  cases h'.severity with
  | inl loopback => exact .inl loopback
  | inr severe =>
    cases h.severity with
    | inl loopback =>
      rw [h'.key] at loopback
      exact .inl loopback
    | inr severe' => exact .inr (Nat.le_trans severe severe')

theorem exposure_eq_of_key {a b : ScanSnapshot} (ha : a.Listed) (hb : b.Listed) {x y : Endpoint}
    (hx : x ∈ a.endpoints) (hy : y ∈ b.endpoints) (shared : EndpointKey.ofEndpoint x = .ofEndpoint y) : x.exposure = y.exposure := by
  rw [ha.classified x hx, hb.classified y hy]
  have address : x.bindAddress = y.bindAddress := congrArg EndpointKey.bindAddress shared
  rw [address]

/-- A new listener is as severe as any change of it. -/
theorem severityFor_le_appeared {kind : DriftKind} {exposure : Exposure} (outside : exposure ≠ .loopback)
    (hkind : kind ≠ .ruleSetChanged) :
    (severityFor kind exposure).ctorIdx ≤ (severityFor .endpointAppeared exposure).ctorIdx := by
  have medium : Severity.medium.ctorIdx ≤ (newExposureSeverity exposure).ctorIdx := by
    cases exposure with
    | loopback => exact absurd rfl outside
    | specificInterface => decide
    | allInterfaces => decide
  have low : Severity.low.ctorIdx ≤ (newExposureSeverity exposure).ctorIdx := Nat.zero_le _
  have owner : (severityFor .processChanged exposure).ctorIdx ≤ (newExposureSeverity exposure).ctorIdx := by
    cases exposure with
    | loopback => exact absurd rfl outside
    | specificInterface => decide
    | allInterfaces => decide
  cases kind with
  | endpointAppeared => exact Nat.le_refl _
  | endpointDisappeared => exact low
  | processChanged => exact owner
  | signatureChanged => exact owner
  | ruleSetChanged => exact absurd rfl hkind
  | reachabilityChanged before after =>
    simp only [severityFor, reachabilityChangeSeverity]
    split
    · exact Nat.le_refl _
    · split
      · exact low
      · exact medium

/-- Of a change of verdict, the step to or from any third verdict is as severe. -/
theorem reachabilityChange_through {was now : Reachability} (via : Reachability) {exposure : Exposure}
    (outside : exposure ≠ .loopback) (change : was ≠ now) :
    (was ≠ via ∧ (reachabilityChangeSeverity was now exposure).ctorIdx ≤
      (reachabilityChangeSeverity was via exposure).ctorIdx) ∨
    (via ≠ now ∧ (reachabilityChangeSeverity was now exposure).ctorIdx ≤
      (reachabilityChangeSeverity via now exposure).ctorIdx) := by
  by_cases first : was = via
  · subst first
    exact .inr ⟨change, Nat.le_refl _⟩
  by_cases second : via = now
  · subst second
    exact .inl ⟨first, Nat.le_refl _⟩
  by_cases opened : now = .allowed
  · -- A path is opened at the second step, as at the change itself.
    right
    refine ⟨second, ?_⟩
    have notBefore : was ≠ .allowed := fun h => change (h.trans opened.symm)
    have notVia : via ≠ .allowed := fun h => second (h.trans opened.symm)
    simp [reachabilityChangeSeverity, opened, notBefore, notVia]
  left
  refine ⟨first, ?_⟩
  by_cases closed : was = .allowed
  · have low : reachabilityChangeSeverity was now exposure = .low := by
      simp [reachabilityChangeSeverity, opened, closed]
    rw [low]
    exact Nat.zero_le _
  · by_cases passes : via = .allowed
    · have severe : (severityFor (.reachabilityChanged was now) exposure).ctorIdx ≤
          (severityFor .endpointAppeared exposure).ctorIdx := severityFor_le_appeared outside (by simp)
      simpa [severityFor, reachabilityChangeSeverity, opened, closed, passes] using severe
    · simp [reachabilityChangeSeverity, opened, closed, passes]

/-- A change across three scans is noticed between the first two or between the
last two. -/
theorem DriftEvent.between {target : Target} {a b c : ScanSnapshot} (ha : a.Listed) (hb : b.Listed) (hc : c.Listed)
    {entry : DriftEntry} (h : DriftEvent target a c entry) :
    ∃ seen, (DriftEvent target a b seen ∨ DriftEvent target b c seen) ∧ seen.Covers entry := by
  -- Of a listener that the middle scan misses, the last two tell that it appeared.
  have missed : ∀ {kind : DriftKind} {after : Endpoint}, after ∈ c.endpoints → kind ≠ .ruleSetChanged →
      (∀ other ∈ b.endpoints, EndpointKey.ofEndpoint other ≠ .ofEndpoint after) →
      ∃ seen, (DriftEvent target a b seen ∨ DriftEvent target b c seen) ∧ seen.Covers (entryFor kind after) := by
    intro kind after new hkind absent
    refine ⟨_, .inr (.appeared new absent), rfl, ?_⟩
    by_cases loopback : after.exposure = .loopback
    · refine .inl ⟨_, rfl, ?_⟩
      rw [EndpointKey.OnLoopback, EndpointKey.ofEndpoint, ← hc.classified after new, loopback]
    · exact .inr (severityFor_le_appeared loopback hkind)
  have covers : ∀ {kind : DriftKind} {middle after : Endpoint}, middle ∈ b.endpoints → after ∈ c.endpoints →
      EndpointKey.ofEndpoint middle = .ofEndpoint after → (entryFor kind middle).Covers (entryFor kind after) := by
    intro kind middle after hmiddle new shared
    refine ⟨congrArg some shared, .inr (Nat.le_of_eq ?_)⟩
    simp only [entryFor, exposure_eq_of_key hb hc hmiddle new shared]
  cases h with
  | @appeared endpoint present absent =>
    by_cases middle : ∃ other ∈ b.endpoints, EndpointKey.ofEndpoint other = .ofEndpoint endpoint
    · obtain ⟨other, hother, shared⟩ := middle
      refine ⟨_, .inl (.appeared hother fun old hold => ?_), covers hother present shared⟩
      rw [shared]
      exact absent old hold
    · exact missed present (by simp) fun other hother shared => middle ⟨other, hother, shared⟩
  | @disappeared endpoint present absent =>
    by_cases middle : ∃ other ∈ b.endpoints, EndpointKey.ofEndpoint other = .ofEndpoint endpoint
    · obtain ⟨other, hother, shared⟩ := middle
      refine ⟨_, .inr (.disappeared hother fun new hnew => ?_), congrArg some shared, .inr (Nat.le_refl _)⟩
      rw [shared]
      exact absent new hnew
    · exact ⟨_, .inl (.disappeared present fun other hother shared => middle ⟨other, hother, shared⟩), .refl _⟩
  | @process before after old new shared change =>
    by_cases middle : ∃ other ∈ b.endpoints, EndpointKey.ofEndpoint other = .ofEndpoint after
    · obtain ⟨other, hother, same⟩ := middle
      by_cases first : before.processPath = other.processPath
      · exact ⟨_, .inr (.process hother new same fun second => change (first.trans second)), .refl _⟩
      · exact ⟨_, .inl (.process old hother (shared.trans same.symm) first), covers hother new same⟩
    · exact missed new (by simp) fun other hother same => middle ⟨other, hother, same⟩
  | @signature before after old new shared change =>
    by_cases middle : ∃ other ∈ b.endpoints, EndpointKey.ofEndpoint other = .ofEndpoint after
    · obtain ⟨other, hother, same⟩ := middle
      by_cases first : before.signatureStatus = other.signatureStatus
      · exact ⟨_, .inr (.signature hother new same fun second => change (first.trans second)), .refl _⟩
      · exact ⟨_, .inl (.signature old hother (shared.trans same.symm) first), covers hother new same⟩
    · exact missed new (by simp) fun other hother same => middle ⟨other, hother, same⟩
  | @reachability before after was now old new shared wasVerdict nowVerdict change =>
    by_cases middle : ∃ other ∈ b.endpoints, EndpointKey.ofEndpoint other = .ofEndpoint after
    · obtain ⟨other, hother, same⟩ := middle
      have outside : after.exposure ≠ .loopback := by
        intro loopback
        have loopback' := (exposure_eq_of_key ha hc old new shared).trans loopback
        rw [evaluate_loopback loopback'] at wasVerdict
        rw [evaluate_loopback loopback] at nowVerdict
        exact change (wasVerdict.symm.trans nowVerdict)
      obtain ⟨first, severe⟩ | ⟨second, severe⟩ := reachabilityChange_through
        (evaluate target other b.firewallRules b.profiles).reachability outside change
      · refine ⟨_, .inl (.reachability old hother (shared.trans same.symm) wasVerdict rfl first),
          congrArg some same, .inr ?_⟩
        rw [entryFor, entryFor, exposure_eq_of_key hb hc hother new same]
        exact severe
      · exact ⟨_, .inr (.reachability hother new same rfl nowVerdict second), rfl, .inr severe⟩
    · exact missed new (by simp) fun other hother same => middle ⟨other, hother, same⟩
  | ruleSet change =>
    by_cases first : a.firewallRules = b.firewallRules
    · exact ⟨_, .inr (.ruleSet fun second => change (first.trans second)), .refl _⟩
    · exact ⟨_, .inl (.ruleSet first), .refl _⟩

/-- The listeners above port 49152 that one of two scans has and the other has not. -/
def churn (baseline current : ScanSnapshot) : List EndpointKey :=
  let before := baseline.endpoints.map EndpointKey.ofEndpoint
  let after := current.endpoints.map EndpointKey.ofEndpoint
  (after.filter (· ∉ before) ++ before.filter (· ∉ after)).filter fun key => ephemeralPortThreshold < key.port.get

/-- The drift counts them. -/
theorem suppressed_eq_churn (target : Target) (baseline current : ScanSnapshot) :
    (diff target baseline current).suppressedEphemeral = (churn baseline current).length := by
  have side : ∀ others endpoints : List Endpoint, endpoints.countP (fun endpoint =>
        endpoint.port.get > ephemeralPortThreshold && (indexBy EndpointKey.ofEndpoint others (.ofEndpoint endpoint)).isNone) =
      (((endpoints.map EndpointKey.ofEndpoint).filter (· ∉ others.map EndpointKey.ofEndpoint)).filter
        fun key => ephemeralPortThreshold < key.port.get).length := by
    intro others endpoints
    have absent : ∀ endpoint : Endpoint, (indexBy EndpointKey.ofEndpoint others (.ofEndpoint endpoint)).isNone =
        decide (EndpointKey.ofEndpoint endpoint ∉ others.map EndpointKey.ofEndpoint) := by
      intro endpoint
      rw [Bool.eq_iff_iff, Option.isNone_iff_eq_none, indexBy_none, decide_eq_true_iff, List.mem_map]
      simp
    simp only [absent, List.countP_eq_length_filter, List.filter_filter, List.filter_map, List.length_map]
    rfl
  rw [diff_suppressed, side, side, churn, List.filter_append, List.length_append]

/-- A suppressed change is of such a listener. -/
theorem DriftEvent.churned {target : Target} {baseline current : ScanSnapshot} {entry : DriftEntry}
    (h : DriftEvent target baseline current entry) (ephemeral : entry.Ephemeral) :
    ∃ key ∈ churn baseline current, entry.endpointKey = some key := by
  obtain ⟨kinds, key, hkey, above⟩ := ephemeral
  refine ⟨key, List.mem_filter.mpr ⟨List.mem_append.mpr ?_, decide_eq_true above⟩, hkey⟩
  cases h with
  | @appeared endpoint present absent =>
    obtain rfl := Option.some.inj hkey
    exact .inl (List.mem_filter.mpr ⟨List.mem_map_of_mem present, by simpa using absent⟩)
  | @disappeared endpoint present absent =>
    obtain rfl := Option.some.inj hkey
    exact .inr (List.mem_filter.mpr ⟨List.mem_map_of_mem present, by simpa using absent⟩)
  | process | signature | reachability | ruleSet => simp [entryFor] at kinds

/-- The scans of a history, each with the next one. -/
def scanSteps (history : List ScanSnapshot) : List (ScanSnapshot × ScanSnapshot) := history.zip history.tail

theorem mem_scanSteps_cons {scan : ScanSnapshot} {history : List ScanSnapshot} {step : ScanSnapshot × ScanSnapshot}
    (h : step ∈ scanSteps history) : step ∈ scanSteps (scan :: history) := by
  cases history with
  | nil => cases h
  | cons next rest => exact List.mem_cons_of_mem _ h

variable {target : Target} {first last : ScanSnapshot} {between : List ScanSnapshot}

/-- A change over a whole history is noticed at one of its steps. -/
theorem DriftEvent.at_step (listed : ∀ scan ∈ first :: between ++ [last], scan.Listed) {entry : DriftEntry}
    (h : DriftEvent target first last entry) :
    ∃ step ∈ scanSteps (first :: between ++ [last]), ∃ seen,
      DriftEvent target step.1 step.2 seen ∧ seen.Covers entry := by
  induction between generalizing first entry with
  | nil => exact ⟨(first, last), List.mem_cons_self, entry, h, .refl entry⟩
  | cons next rest ih =>
    have hfirst : first.Listed := listed first List.mem_cons_self
    have hnext : next.Listed := listed next (List.mem_cons_of_mem _ List.mem_cons_self)
    have hlast : last.Listed := listed last (by simp)
    obtain ⟨seen, early | late, covers⟩ := h.between hfirst hnext hlast
    · exact ⟨(first, next), List.mem_cons_self, seen, early, covers⟩
    · have listed' : ∀ scan ∈ next :: rest ++ [last], scan.Listed :=
        fun scan hscan => listed scan (List.mem_cons_of_mem _ hscan)
      obtain ⟨step, hstep, later, event, covers'⟩ := ih listed' late
      exact ⟨step, mem_scanSteps_cons hstep, later, event, covers'.trans covers⟩

/-- Watching a host by the drift between each scan and the next misses nothing
of the drift between the first and the last: each entry of the latter is covered
at some step, or its listener, above port 49152, came or went there, which the
step's drift counts. -/
theorem history_watched (listed : ∀ scan ∈ first :: between ++ [last], scan.Listed) :
    ∀ entry ∈ (diff target first last).entries, ∃ step ∈ scanSteps (first :: between ++ [last]),
      (∃ seen ∈ (diff target step.1 step.2).entries, seen.Covers entry) ∨
      (∃ key ∈ churn step.1 step.2, entry.endpointKey = some key) ∧
        (diff target step.1 step.2).suppressedEphemeral = (churn step.1 step.2).length := by
  intro entry hentry
  have hfirst : first.Listed := listed first List.mem_cons_self
  have event := ((diff_entries_mem hfirst.keyed).mp hentry).1
  obtain ⟨step, hstep, seen, happened, covers⟩ := event.at_step listed
  have hbefore : step.1.Listed := listed step.1 (List.of_mem_zip hstep).1
  refine ⟨step, hstep, ?_⟩
  by_cases ephemeral : seen.Ephemeral
  · obtain ⟨key, churned, hkey⟩ := happened.churned ephemeral
    exact .inr ⟨⟨key, churned, covers.key.symm.trans hkey⟩, suppressed_eq_churn target step.1 step.2⟩
  · exact .inl ⟨seen, (diff_entries_mem hbefore.keyed).mpr ⟨happened, ephemeral⟩, covers⟩

/-- A listener that is gone in the middle scan and back under another program:
the last two scans tell of it, as of a new listener. -/
theorem history_watched_replaced :
    let old := { wildcardListener 443 with processPath := some ⟨"/usr/bin/nginx"⟩ }
    let new := { wildcardListener 443 with processPath := some ⟨"/tmp/nginx"⟩ }
    let first := sampleSnapshot [old] [] []
    let middle := sampleSnapshot [] [] []
    let last := sampleSnapshot [new] [] []
    let entry : DriftEntry := ⟨.processChanged, some ⟨.tcp, ⟨.v4 0⟩, ⟨443⟩⟩, .high⟩
    (diff .other first last).entries = [entry] ∧ ∃ step ∈ scanSteps [first, middle, last],
      (∃ seen ∈ (diff .other step.1 step.2).entries, seen.Covers entry) ∨
      (∃ key ∈ churn step.1 step.2, entry.endpointKey = some key) ∧
        (diff .other step.1 step.2).suppressedEphemeral = (churn step.1 step.2).length := by
  intro old new first middle last entry
  have entries : (diff .other first last).entries = [entry] := by decide
  have listed : ∀ scan ∈ first :: [middle] ++ [last], scan.Listed := by
    intro scan hscan
    have keyed : ∀ scan ∈ [first, middle, last], (scan.endpoints.map EndpointKey.ofEndpoint).Nodup := by decide
    have classified : ∀ scan ∈ [first, middle, last], ∀ endpoint ∈ scan.endpoints,
        endpoint.exposure = .classify endpoint.bindAddress.ip := by
      decide
    exact ⟨keyed scan hscan, classified scan hscan⟩
  refine ⟨entries, history_watched listed _ ?_⟩
  rw [entries]
  exact List.mem_singleton_self _

end AnneDeBreuil
