import AnneDeBreuil.Observation
import AnneDeBreuil.Portal
import Mathlib.Data.List.ReduceOption

namespace AnneDeBreuil

def Endpoint.eraseCommandLine (endpoint : Endpoint) : Endpoint := { endpoint with commandLine := none }

/-- An endpoint less its command line, and that line's redaction. -/
structure DisclosedEndpoint where
  erased : Endpoint
  redacted : Option (Utf8 × List (Redacted Utf8))
deriving DecidableEq

def Endpoint.disclosed (regexNew : String → Option FindIter) (endpoint : Endpoint) : DisclosedEndpoint :=
  ⟨endpoint.eraseCommandLine, endpoint.commandLine.map (redact regexNew)⟩

/-- A snapshot less its endpoints, and what these disclose. -/
structure DisclosedSnapshot where
  rest : ScanSnapshot
  endpoints : List DisclosedEndpoint
deriving DecidableEq

def ScanSnapshot.disclosed (regexNew : String → Option FindIter) (snapshot : ScanSnapshot) :
    DisclosedSnapshot :=
  ⟨{ snapshot with endpoints := [] }, snapshot.endpoints.map (Endpoint.disclosed regexNew)⟩

/-- Stores that list the same scans, and whose snapshots are equal but for
command lines with the same redacted text and redaction records. -/
structure SameDisclosed (regexNew : String → Option FindIter) (store store' : SnapshotStore) : Prop where
  list : ∀ host, store.list host = store'.list host
  get : ∀ scan, (store.get scan).map (Option.map (ScanSnapshot.disclosed regexNew)) =
    (store'.get scan).map (Option.map (ScanSnapshot.disclosed regexNew))

section

variable {target : Target} {regexNew : String → Option FindIter} {renderers : Renderers}

theorem disclosed_fields {s t : ScanSnapshot} (h : s.disclosed regexNew = t.disclosed regexNew) :
    s.hostId = t.hostId ∧ s.scanId = t.scanId ∧ s.collectedAt = t.collectedAt ∧
      s.collectorVersion = t.collectorVersion ∧ s.firewallRules = t.firewallRules ∧
      s.profiles = t.profiles ∧ s.strategy = t.strategy := by
  have rest := congrArg DisclosedSnapshot.rest h
  simp only [ScanSnapshot.disclosed, ScanSnapshot.mk.injEq, true_and] at rest
  exact ⟨rest.1, rest.2.1, rest.2.2.1, rest.2.2.2.1, rest.2.2.2.2.1, rest.2.2.2.2.2.1, rest.2.2.2.2.2.2⟩

theorem disclosed_endpoints {s t : ScanSnapshot} (h : s.disclosed regexNew = t.disclosed regexNew) :
    s.endpoints.map (Endpoint.disclosed regexNew) = t.endpoints.map (Endpoint.disclosed regexNew) :=
  congrArg DisclosedSnapshot.endpoints h

theorem buildEndpointView_factors (snapshot : ScanSnapshot) :
    Function.FactorsThrough (fun endpoint => buildEndpointView target regexNew endpoint snapshot)
      (Endpoint.disclosed regexNew) := by
  intro a b h
  let viewOf (shown : DisclosedEndpoint) : EndpointView :=
    { buildEndpointView target regexNew shown.erased snapshot with
      commandLine := shown.redacted.map Prod.fst
      commandLineRedactions := (shown.redacted.map Prod.snd).getD [] }
  have shown : viewOf (a.disclosed regexNew) = viewOf (b.disclosed regexNew) := congrArg viewOf h
  exact shown

theorem buildHostSection_factors :
    Function.FactorsThrough (buildHostSection target regexNew) (ScanSnapshot.disclosed regexNew) := by
  intro s t h
  obtain ⟨hhost, hscan, htime, hversion, hrules, hprofiles, hstrategy⟩ := disclosed_fields h
  have same : ∀ endpoint, buildEndpointView target regexNew endpoint s =
      buildEndpointView target regexNew endpoint t := by
    intro endpoint
    simp only [buildEndpointView, hrules, hprofiles]
  have views : s.endpoints.map (fun endpoint => buildEndpointView target regexNew endpoint t) =
      t.endpoints.map (fun endpoint => buildEndpointView target regexNew endpoint t) :=
    factorsThrough_map (buildEndpointView_factors t) (disclosed_endpoints h)
  simp only [buildHostSection, hhost, hscan, htime, hversion, hrules, hprofiles, hstrategy, same, views]

theorem recordSnapshot_erase (counts : EndpointCounts) (snapshot : ScanSnapshot) (endpoints : List Endpoint) :
    endpoints.foldl (EndpointCounts.record target snapshot) counts =
      (endpoints.map Endpoint.eraseCommandLine).foldl (EndpointCounts.record target snapshot) counts := by
  rw [List.foldl_map]
  rfl

theorem disclosed_erased {s t : ScanSnapshot} (h : s.disclosed regexNew = t.disclosed regexNew) :
    s.endpoints.map Endpoint.eraseCommandLine = t.endpoints.map Endpoint.eraseCommandLine :=
  factorsThrough_map (fun _ _ => congrArg DisclosedEndpoint.erased) (disclosed_endpoints h)

theorem buildRollup_factors :
    Function.FactorsThrough (fun snapshot => buildRollup target [snapshot] none)
      (ScanSnapshot.disclosed regexNew) := by
  intro s t h
  obtain ⟨_, _, _, _, hrules, hprofiles, _⟩ := disclosed_fields h
  have step : EndpointCounts.record target s = EndpointCounts.record target t := by
    funext counts endpoint
    simp only [EndpointCounts.record, hrules, hprofiles]
  have counts : ∀ counts, EndpointCounts.recordSnapshot target counts s =
      EndpointCounts.recordSnapshot target counts t := by
    intro counts
    rw [EndpointCounts.recordSnapshot, EndpointCounts.recordSnapshot, recordSnapshot_erase,
      recordSnapshot_erase _ t, disclosed_erased h, step]
  simp only [buildRollup, List.foldl_cons, List.foldl_nil, counts, List.length_singleton]

theorem reportModel_factors :
    Function.FactorsThrough (fun snapshot => ReportModel.build target regexNew [snapshot] none true)
      (ScanSnapshot.disclosed regexNew) := by
  intro s t h
  have hsection : buildHostSection target regexNew s = buildHostSection target regexNew t :=
    buildHostSection_factors h
  have hrollup : buildRollup target [s] none = buildRollup target [t] none := buildRollup_factors h
  simp only [ReportModel.build, List.map_cons, List.map_nil, hsection, hrollup]

theorem indexBy_erase (endpoints : List Endpoint) (key : EndpointKey) :
    indexBy EndpointKey.ofEndpoint (endpoints.map Endpoint.eraseCommandLine) key =
      (indexBy EndpointKey.ofEndpoint endpoints key).map Endpoint.eraseCommandLine := by
  simp only [indexBy, ← List.map_reverse, List.find?_map]
  rfl

def ScanSnapshot.eraseCommandLines (snapshot : ScanSnapshot) : ScanSnapshot :=
  { snapshot with endpoints := snapshot.endpoints.map Endpoint.eraseCommandLine }

theorem unmatchedEntries_erase (kind : DriftKind) (others endpoints : List Endpoint) :
    unmatchedEntries kind (indexBy EndpointKey.ofEndpoint (others.map Endpoint.eraseCommandLine))
        (endpoints.map Endpoint.eraseCommandLine) =
      unmatchedEntries kind (indexBy EndpointKey.ofEndpoint others) endpoints := by
  simp only [unmatchedEntries, indexBy_erase, Option.isNone_map, List.filter_map, List.map_map]
  rfl

theorem sharedEntries_erase (baseline current : ScanSnapshot) :
    sharedEntries target baseline.eraseCommandLines current.eraseCommandLines =
      sharedEntries target baseline current := by
  have key : ∀ endpoint : Endpoint,
      EndpointKey.ofEndpoint endpoint.eraseCommandLine = .ofEndpoint endpoint := fun _ => rfl
  simp only [sharedEntries, ScanSnapshot.eraseCommandLines, List.flatMap_map, indexBy_erase, key]
  congr 1
  funext endpoint
  cases indexBy EndpointKey.ofEndpoint baseline.endpoints (.ofEndpoint endpoint) <;> rfl

theorem diff_erase (baseline current : ScanSnapshot) :
    diff target baseline.eraseCommandLines current.eraseCommandLines = diff target baseline current := by
  have rules : ruleSetEntries baseline.eraseCommandLines current.eraseCommandLines =
      ruleSetEntries baseline current := rfl
  have all : allEntries target baseline.eraseCommandLines current.eraseCommandLines =
      allEntries target baseline current := by
    simp only [allEntries, sharedEntries_erase, rules]
    simp only [ScanSnapshot.eraseCommandLines, unmatchedEntries_erase]
  simp only [diff, all]

theorem disclosed_erase {s t : ScanSnapshot} (h : s.disclosed regexNew = t.disclosed regexNew) :
    s.eraseCommandLines = t.eraseCommandLines := by
  obtain ⟨hhost, hscan, htime, hversion, hrules, hprofiles, hstrategy⟩ := disclosed_fields h
  simp only [ScanSnapshot.eraseCommandLines, disclosed_erased h, hhost, hscan, htime, hversion, hrules,
    hprofiles, hstrategy]

theorem driftTemplate_factors (tokensCss : Utf8) (host : HostId) :
    Function.FactorsThrough (driftTemplate target renderers tokensCss host)
      (List.map (ScanSnapshot.disclosed regexNew)) := by
  intro xs ys h
  have hlength : xs.length = ys.length := by simpa using congrArg List.length h
  match xs, ys with
  | [], [] => rfl
  | [_], [_] => rfl
  | current :: baseline :: rest, current' :: baseline' :: rest' =>
    obtain ⟨hc, hrest⟩ := List.cons.inj h
    obtain ⟨hb, _⟩ := List.cons.inj hrest
    have report : diff target baseline current = diff target baseline' current' := by
      rw [← diff_erase baseline current, ← diff_erase baseline' current', disclosed_erase hb, disclosed_erase hc]
    simp only [driftTemplate, report, hlength]

theorem scanRow_factors :
    Function.FactorsThrough (scanRow renderers) (ScanSnapshot.disclosed regexNew) := by
  intro s t h
  obtain ⟨_, hscan, htime, _, _, _, hstrategy⟩ := disclosed_fields h
  have hlength : s.endpoints.length = t.endpoints.length := by
    simpa using congrArg List.length (disclosed_endpoints h)
  simp only [scanRow, hscan, htime, hstrategy, hlength]

end

end AnneDeBreuil
