import AnneDeBreuil.IndexBy
import AnneDeBreuil.Reachability
import AnneDeBreuil.Snapshot

namespace AnneDeBreuil

def ephemeralPortThreshold : UInt16 := 49152

/-- The join key between two snapshots; it leaves the owning process out. -/
structure EndpointKey where
  protocol : Protocol
  bindAddress : BindAddress
  port : Port
deriving DecidableEq, Repr

def EndpointKey.ofEndpoint (endpoint : Endpoint) : EndpointKey :=
  ⟨endpoint.protocol, endpoint.bindAddress, endpoint.port⟩

inductive DriftKind
  | endpointAppeared
  | endpointDisappeared
  | reachabilityChanged (before after : Reachability)
  | processChanged
  | signatureChanged
  | ruleSetChanged
deriving DecidableEq, Repr

/-- How urgently an entry warrants review, weakest first. -/
inductive Severity
  | low
  | medium
  | high
  | critical
deriving DecidableEq, Repr

structure DriftEntry where
  kind : DriftKind
  endpointKey : Option EndpointKey
  severity : Severity
deriving DecidableEq, Repr

structure DriftReport where
  entries : List DriftEntry
  suppressedEphemeral : Nat
deriving DecidableEq, Repr

/-- Severity of an exposure that is new: a listener or an allowed path. -/
def newExposureSeverity : Exposure → Severity
  | .allInterfaces => .critical
  | .specificInterface => .high
  | .loopback => .low

def reachabilityChangeSeverity (before after : Reachability) (exposure : Exposure) : Severity :=
  let newlyAllowed := after = .allowed ∧ before ≠ .allowed
  let newlyBlocked := before = .allowed ∧ after ≠ .allowed
  if newlyAllowed then newExposureSeverity exposure
  else if newlyBlocked then .low
  else .medium

def severityFor (kind : DriftKind) (exposure : Exposure) : Severity :=
  match kind with
  | .endpointAppeared => newExposureSeverity exposure
  | .endpointDisappeared => .low
  | .reachabilityChanged before after => reachabilityChangeSeverity before after exposure
  | .processChanged | .signatureChanged =>
    match exposure with
    | .allInterfaces => .high
    | .specificInterface | .loopback => .medium
  | .ruleSetChanged => .medium

def isEphemeralChurn (entry : DriftEntry) : Bool :=
  (match entry.kind with
    | .endpointAppeared | .endpointDisappeared => true
    | _ => false) &&
  entry.endpointKey.any (fun key => key.port.get > ephemeralPortThreshold)

/-- The entry of one endpoint; its key and its exposure decide the rest. -/
def entryFor (kind : DriftKind) (endpoint : Endpoint) : DriftEntry :=
  ⟨kind, some (.ofEndpoint endpoint), severityFor kind endpoint.exposure⟩

/-- The loops over one side's endpoints that report those whose key the other
side's map does not hold. -/
def unmatchedEntries (kind : DriftKind) (other : EndpointKey → Option Endpoint) (endpoints : List Endpoint) :
    List DriftEntry :=
  (endpoints.filter (fun endpoint => (other (.ofEndpoint endpoint)).isNone)).map (entryFor kind)

/-- The entries of a shared key, from its baseline and its current endpoint. -/
def changedEntries (target : Target) (baseline current : ScanSnapshot) (before after : Endpoint) :
    List DriftEntry :=
  let beforeReachability := (evaluate target before baseline.firewallRules baseline.profiles).reachability
  let afterReachability := (evaluate target after current.firewallRules current.profiles).reachability
  (if before.processPath ≠ after.processPath then [entryFor .processChanged after] else []) ++
  (if before.signatureStatus ≠ after.signatureStatus then [entryFor .signatureChanged after] else []) ++
  (if beforeReachability ≠ afterReachability then
    [entryFor (.reachabilityChanged beforeReachability afterReachability) after] else [])

def sharedEntries (target : Target) (baseline current : ScanSnapshot) : List DriftEntry :=
  let before := indexBy EndpointKey.ofEndpoint baseline.endpoints
  current.endpoints.flatMap fun endpoint =>
    match before (.ofEndpoint endpoint) with
    | none => []
    | some baselineEndpoint => changedEntries target baseline current baselineEndpoint endpoint

def ruleSetEntries (baseline current : ScanSnapshot) : List DriftEntry :=
  if baseline.firewallRules ≠ current.firewallRules then
    [⟨.ruleSetChanged, none, severityFor .ruleSetChanged .specificInterface⟩]
  else []

/-- Every entry `diff` pushes, before the ephemeral ones are extracted. -/
def allEntries (target : Target) (baseline current : ScanSnapshot) : List DriftEntry :=
  let before := indexBy EndpointKey.ofEndpoint baseline.endpoints
  let after := indexBy EndpointKey.ofEndpoint current.endpoints
  unmatchedEntries .endpointAppeared before current.endpoints ++
  unmatchedEntries .endpointDisappeared after baseline.endpoints ++
  sharedEntries target baseline current ++
  ruleSetEntries baseline current

def diff (target : Target) (baseline current : ScanSnapshot) : DriftReport where
  entries := (allEntries target baseline current).filter (fun entry => !isEphemeralChurn entry)
  suppressedEphemeral := ((allEntries target baseline current).filter isEphemeralChurn).length

theorem unmatchedEntries_mem {kind : DriftKind} {others endpoints : List Endpoint}
    {entry : DriftEntry} :
    entry ∈ unmatchedEntries kind (indexBy EndpointKey.ofEndpoint others) endpoints ↔
      ∃ endpoint ∈ endpoints,
        (∀ other ∈ others, EndpointKey.ofEndpoint other ≠ EndpointKey.ofEndpoint endpoint) ∧
        entry = entryFor kind endpoint := by
  simp only [unmatchedEntries, List.mem_map, List.mem_filter, Option.isNone_iff_eq_none, indexBy_none]
  constructor
  · rintro ⟨endpoint, ⟨hm, hn⟩, rfl⟩
    exact ⟨endpoint, hm, hn, rfl⟩
  · rintro ⟨endpoint, hm, hn, rfl⟩
    exact ⟨endpoint, ⟨hm, hn⟩, rfl⟩

/-- An entry of one side only has the loop's kind, and a key. -/
theorem unmatchedEntries_event {kind : DriftKind} {other : EndpointKey → Option Endpoint}
    {endpoints : List Endpoint} {entry : DriftEntry} (h : entry ∈ unmatchedEntries kind other endpoints) :
    entry.kind = kind ∧ ∃ key, entry.endpointKey = some key := by
  obtain ⟨endpoint, _, rfl⟩ := List.mem_map.mp h
  exact ⟨rfl, _, rfl⟩

theorem sharedEntries_mem {target : Target} {baseline current : ScanSnapshot} {entry : DriftEntry} :
    entry ∈ sharedEntries target baseline current ↔
      ∃ after ∈ current.endpoints, ∃ before,
        indexBy EndpointKey.ofEndpoint baseline.endpoints (.ofEndpoint after) = some before ∧
        entry ∈ changedEntries target baseline current before after := by
  simp only [sharedEntries, List.mem_flatMap]
  constructor
  · rintro ⟨after, hm, he⟩
    cases hb : indexBy EndpointKey.ofEndpoint baseline.endpoints (.ofEndpoint after) with
    | none => simp [hb] at he
    | some before => exact ⟨after, hm, before, hb, by simpa [hb] using he⟩
  · rintro ⟨after, hm, before, hb, he⟩
    exact ⟨after, hm, by simpa [hb] using he⟩

theorem changedEntries_nil {target : Target} {baseline current : ScanSnapshot} {before after : Endpoint} :
    changedEntries target baseline current before after = [] ↔
      before.processPath = after.processPath ∧ before.signatureStatus = after.signatureStatus ∧
      (evaluate target before baseline.firewallRules baseline.profiles).reachability =
        (evaluate target after current.firewallRules current.profiles).reachability := by
  simp only [changedEntries, List.append_eq_nil_iff, ite_eq_right_iff, List.cons_ne_nil, imp_false,
    not_not, and_assoc]

theorem allEntries_split {target : Target} {baseline current : ScanSnapshot} {entry : DriftEntry} :
    entry ∈ allEntries target baseline current ↔
      entry ∈ unmatchedEntries .endpointAppeared (indexBy EndpointKey.ofEndpoint baseline.endpoints)
        current.endpoints ∨
      entry ∈ unmatchedEntries .endpointDisappeared (indexBy EndpointKey.ofEndpoint current.endpoints)
        baseline.endpoints ∨
      entry ∈ sharedEntries target baseline current ∨ entry ∈ ruleSetEntries baseline current := by
  simp only [allEntries, List.mem_append, or_assoc]

/-- Nothing is lost between the entries pushed and the report. -/
theorem diff_empty_iff {target : Target} {baseline current : ScanSnapshot} :
    (diff target baseline current).entries = [] ∧ (diff target baseline current).suppressedEphemeral = 0 ↔
      allEntries target baseline current = [] := by
  simp only [diff, List.length_eq_zero_iff, List.filter_eq_nil_iff]
  constructor
  · rintro ⟨hkept, hdropped⟩
    apply List.eq_nil_iff_forall_not_mem.mpr
    intro entry he
    have hk := hkept entry he
    have hd := hdropped entry he
    simp [hd] at hk
  · intro h
    simp [h]

end AnneDeBreuil
