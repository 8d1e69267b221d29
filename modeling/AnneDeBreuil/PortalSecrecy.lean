import AnneDeBreuil.PortalDisclosure
import AnneDeBreuil.DriftSelf
import AnneDeBreuil.RedactionSplice

namespace AnneDeBreuil

section

variable {target : Target} {regexNew : String → Option FindIter} {renderers : Renderers}
  {store store' : SnapshotStore}

theorem portalRepository_list (same : SameDisclosed regexNew store store') :
    (portalRepository store).listForHost = (portalRepository store').listForHost := by
  funext ctx host
  simp only [portalRepository, authorizingRepository, storeBackedRepository, same.list]

theorem filter_disclosed (host : HostId) :
    Function.FactorsThrough
      (fun found : Option ScanSnapshot =>
        (found.filter (fun s => s.hostId = host)).map (ScanSnapshot.disclosed regexNew))
      (Option.map (ScanSnapshot.disclosed regexNew)) := by
  intro a b h
  cases a with
  | none =>
    rw [Option.map_eq_none_iff.mp h.symm]
  | some s =>
    cases b with
    | none => cases h
    | some t =>
      have hst : s.disclosed regexNew = t.disclosed regexNew := Option.some.inj h
      have hhost := (disclosed_fields hst).1
      by_cases hs : t.hostId = host
      · simp [Option.filter, hhost, hs, hst]
      · simp [Option.filter, hhost, hs]

theorem portalRepository_get (same : SameDisclosed regexNew store store') (ctx : AuthContext) (host : HostId)
    (scan : ScanId) :
    ((portalRepository store).getForHost ctx host scan).map (Option.map (ScanSnapshot.disclosed regexNew)) =
      ((portalRepository store').getForHost ctx host scan).map
        (Option.map (ScanSnapshot.disclosed regexNew)) := by
  have fetched := observed_mapError (f := PortalError.store) (same.get scan)
  simp only [portalRepository, authorizingRepository, storeBackedRepository]
  split
  · rfl
  · exact observed_map_map fetched (filter_disclosed host)

theorem newestFirst_disclosed :
    Function.FactorsThrough
      (fun found : List (Option ScanSnapshot) =>
        (sortByKey (fun snapshot : ScanSnapshot => -snapshot.collectedAt.unixTimestampNanos)
          found.reduceOption).map (ScanSnapshot.disclosed regexNew))
      (List.map (Option.map (ScanSnapshot.disclosed regexNew))) := by
  intro xs ys h
  have shown := sortByKey_map (fun shown : DisclosedSnapshot => -shown.rest.collectedAt.unixTimestampNanos)
    (ScanSnapshot.disclosed regexNew)
  have reduced := congrArg List.reduceOption h
  rw [List.reduceOption_map, List.reduceOption_map] at reduced
  exact (shown xs.reduceOption).trans ((congrArg _ reduced).trans (shown ys.reduceOption).symm)

theorem recentSnapshots_disclosed (same : SameDisclosed regexNew store store') (ctx : AuthContext)
    (host : HostId) (fontsMode : FontsMode) :
    (recentSnapshots ctx host ⟨portalRepository store, fontsMode⟩).map
        (List.map (ScanSnapshot.disclosed regexNew)) =
      (recentSnapshots ctx host ⟨portalRepository store', fontsMode⟩).map
        (List.map (ScanSnapshot.disclosed regexNew)) := by
  simp only [recentSnapshots, portalRepository_list same]
  cases (portalRepository store').listForHost ctx host with
  | error e => rfl
  | ok scanIds =>
    refine observed_bind_map (observed_mapM (portalRepository_get same ctx host) scanIds) ?_
    intro xs ys h
    exact congrArg Except.ok (newestFirst_disclosed h)

theorem renderHostFragment_disclosed (same : SameDisclosed regexNew store store') (ctx : AuthContext)
    (host : HostId) (fontsMode : FontsMode) :
    renderHostFragment renderers ctx host ⟨portalRepository store, fontsMode⟩ =
      renderHostFragment renderers ctx host ⟨portalRepository store', fontsMode⟩ := by
  refine observed_bind (observed_mapError (recentSnapshots_disclosed same ctx host fontsMode)) ?_
  intro xs ys h
  have rows : xs.map (scanRow renderers) = ys.map (scanRow renderers) :=
    factorsThrough_map scanRow_factors h
  simp only [rows]

theorem driftView_disclosed (same : SameDisclosed regexNew store store') (ctx : AuthContext) (host : HostId)
    (fontsMode : FontsMode) :
    driftView target renderers ctx host ⟨portalRepository store, fontsMode⟩ =
      driftView target renderers ctx host ⟨portalRepository store', fontsMode⟩ := by
  refine observed_bind (observed_mapError (recentSnapshots_disclosed same ctx host fontsMode)) ?_
  intro xs ys h
  have template : ∀ tokensCss, driftTemplate target renderers tokensCss host xs =
      driftTemplate target renderers tokensCss host ys := fun tokensCss => driftTemplate_factors tokensCss host h
  simp only [template]

theorem storedSnapshot_disclosed (same : SameDisclosed regexNew store store') (ctx : AuthContext)
    (host : HostId) (scan : ScanId) (fontsMode : FontsMode) :
    (storedSnapshot ctx host scan ⟨portalRepository store, fontsMode⟩).map (ScanSnapshot.disclosed regexNew) =
      (storedSnapshot ctx host scan ⟨portalRepository store', fontsMode⟩).map
        (ScanSnapshot.disclosed regexNew) := by
  refine observed_bind_map (observed_mapError (portalRepository_get same ctx host scan)) ?_
  intro a b h
  cases a with
  | none => rw [Option.map_eq_none_iff.mp h.symm]
  | some s =>
    cases b with
    | none => cases h
    | some t => exact congrArg Except.ok (Option.some.inj h)

theorem scanDetail_disclosed (same : SameDisclosed regexNew store store') (ctx : AuthContext) (host : HostId)
    (scan : ScanId) (fontsMode : FontsMode) :
    scanDetail target regexNew renderers ctx host scan ⟨portalRepository store, fontsMode⟩ =
      scanDetail target regexNew renderers ctx host scan ⟨portalRepository store', fontsMode⟩ := by
  refine observed_bind (storedSnapshot_disclosed same ctx host scan fontsMode) ?_
  intro s t h
  have model : ReportModel.build target regexNew [s] none true =
      ReportModel.build target regexNew [t] none true := reportModel_factors h
  simp only [model]

end

/-- Every page shows the same for two stores that differ only in what
redaction removes; the download alone hands the stored snapshot out as it is. -/
theorem route_discloses (target : Target) (regexNew : String → Option FindIter) (renderers : Renderers)
    (fontsMode : FontsMode) {store store' : SnapshotStore} (same : SameDisclosed regexNew store store')
    (ctx : AuthContext) :
    (∀ request, (∀ host scan, request ≠ .download host scan) →
      route target regexNew renderers ⟨portalRepository store, fontsMode⟩ ctx request =
        route target regexNew renderers ⟨portalRepository store', fontsMode⟩ ctx request) ∧
    ∀ host scan snapshot, host ∈ ctx.hostScopes → store.get scan = .ok (some snapshot) →
      snapshot.hostId = host →
      route target regexNew renderers ⟨portalRepository store, fontsMode⟩ ctx (.download host scan) =
        respondWith jsonResponse (fromRenderer (renderers.toVecPretty snapshot)) := by
  constructor
  · intro request hnot
    cases request with
    | fleetIndex => rfl
    | hostDetailPage host =>
      simp only [route, hostDetailPage, renderHostFragment_disclosed same]
    | hostDetailFragment host =>
      simp only [route, renderHostFragment_disclosed same]
    | driftView host =>
      simp only [route, driftView_disclosed same]
    | scanDetail host scan =>
      simp only [route, scanDetail_disclosed same]
    | download host scan => exact absurd rfl (hnot host scan)
  · intro host scan snapshot hin hget hhost
    have inScope : ctx.hostScopes.contains host = true := by simpa using hin
    have fetched : (portalRepository store).getForHost ctx host scan = .ok (some snapshot) := by
      simp [portalRepository, authorizingRepository, storeBackedRepository, hin, hget, Except.mapError,
        Except.map, Option.filter, hhost]
    simp only [route, download, storedSnapshot, fetched]
    rfl

/-- A scan of one listener whose command line carries a password. -/
def passwordScan (password : String) : ScanSnapshot :=
  sampleSnapshot [{ wildcardListener 443 with commandLine := some (utf8 "pwd=" ++ utf8 password) }] [] []

def storeOf (snapshot : ScanSnapshot) : SnapshotStore where
  get scan := .ok (if scan = snapshot.scanId then some snapshot else none)
  list host := .ok (if host = snapshot.hostId then [snapshot.scanId] else [])

def passwordRegex : String → Option FindIter :=
  tableRegex [("(?i)\\bpwd\\s*[:=]\\s*\\S+", utf8 "pwd=hunter1", [(0, 11)]),
    ("(?i)\\bpwd\\s*[:=]\\s*\\S+", utf8 "pwd=hunter2", [(0, 11)])]

/-- The pretty JSON of a scan as in `passwordScan`. -/
def passwordScanJson (commandLine : Utf8) : Utf8 :=
  utf8 "\x7b\n  \"host_id\": \"00000000-0000-0000-0000-000000000001\",\n" ++
  utf8 "  \"scan_id\": \"00000000-0000-0000-0000-000000000002\",\n" ++
  utf8 "  \"collected_at\": [\n    1970,\n    1,\n    0,\n    0,\n    0,\n    0,\n    0,\n    0,\n    0\n  ],\n" ++
  utf8 "  \"collector_version\": \"1.0.0\",\n  \"endpoints\": [\n    \x7b\n      \"protocol\": \"Tcp\",\n" ++
  utf8 "      \"bind_address\": \"0.0.0.0\",\n      \"port\": 443,\n      \"process_id\": null,\n" ++
  utf8 "      \"process_path\": null,\n      \"hosted_services\": [],\n" ++
  utf8 "      \"signature_status\": \"Unknown\",\n      \"exposure\": \"AllInterfaces\",\n" ++
  utf8 "      \"command_line\": \"" ++ commandLine ++ utf8 "\"\n    \x7d\n  ],\n" ++
  utf8 "  \"firewall_rules\": [],\n  \"profiles\": [],\n  \"strategy\": \"LocalOnly\"\n\x7d"

theorem passwordScanJson_injective : Function.Injective passwordScanJson := by
  intro a b h
  simpa only [passwordScanJson, List.append_cancel_right_eq, List.append_cancel_left_eq] using h

/-- Renderers that show a report's command lines and leave the rest out. -/
def plainRenderers : Renderers where
  tokensCss _ := .ok []
  assetVersion := []
  fleetIndex _ := .ok []
  hostFragment _ := .ok []
  hostPage _ := .ok []
  drift _ := .ok []
  htmlReport model _ := .ok (model.hosts.flatMap fun host => host.endpoints.flatMap fun e => e.commandLine.getD [])
  displayTime _ := []
  displayAddress _ := []
  toVecPretty snapshot := .ok (snapshot.endpoints.flatMap fun e => passwordScanJson (e.commandLine.getD []))

theorem storeOf_same {regexNew : String → Option FindIter} {s t : ScanSnapshot}
    (h : s.disclosed regexNew = t.disclosed regexNew) : SameDisclosed regexNew (storeOf s) (storeOf t) := by
  obtain ⟨hhost, hscan, _⟩ := disclosed_fields h
  refine ⟨fun host => by simp only [storeOf, hhost, hscan], fun scan => ?_⟩
  simp only [storeOf, hscan]
  split
  · exact congrArg (fun shown => Except.ok (some shown)) h
  · rfl

theorem route_discloses_redacted :
    route .other passwordRegex plainRenderers ⟨portalRepository (storeOf (passwordScan "hunter1")), .system⟩
        ⟨"ops", [⟨1⟩]⟩ (.scanDetail ⟨1⟩ ⟨2⟩) = htmlResponse (utf8 "[REDACTED:PasswordAssignment]") ∧
    route .other passwordRegex plainRenderers ⟨portalRepository (storeOf (passwordScan "hunter2")), .system⟩
        ⟨"ops", [⟨1⟩]⟩ (.scanDetail ⟨1⟩ ⟨2⟩) = htmlResponse (utf8 "[REDACTED:PasswordAssignment]") := by
  have same : SameDisclosed passwordRegex (storeOf (passwordScan "hunter1"))
    (storeOf (passwordScan "hunter2")) := storeOf_same (by decide +kernel)
  have pages := (route_discloses .other passwordRegex plainRenderers .system same ⟨"ops", [⟨1⟩]⟩).1
    (.scanDetail ⟨1⟩ ⟨2⟩) (by simp)
  have first : route .other passwordRegex plainRenderers
      ⟨portalRepository (storeOf (passwordScan "hunter1")), .system⟩ ⟨"ops", [⟨1⟩]⟩ (.scanDetail ⟨1⟩ ⟨2⟩) =
      htmlResponse (utf8 "[REDACTED:PasswordAssignment]") := by
    decide +kernel
  exact ⟨first, pages.symm.trans first⟩

theorem plainRenderers_download (password : String) :
    route .other passwordRegex plainRenderers ⟨portalRepository (storeOf (passwordScan password)), .system⟩
        ⟨"ops", [⟨1⟩]⟩ (.download ⟨1⟩ ⟨2⟩) =
      jsonResponse (passwordScanJson (utf8 "pwd=" ++ utf8 password) ++ []) := rfl

/-- The download tells two passwords apart that redact to the same text. -/
theorem route_discloses_counterexample :
    SameDisclosed passwordRegex (storeOf (passwordScan "hunter1")) (storeOf (passwordScan "hunter2")) ∧
    (route .other passwordRegex plainRenderers ⟨portalRepository (storeOf (passwordScan "hunter1")), .system⟩
        ⟨"ops", [⟨1⟩]⟩ (.download ⟨1⟩ ⟨2⟩)).body ≠
      (route .other passwordRegex plainRenderers ⟨portalRepository (storeOf (passwordScan "hunter2")), .system⟩
        ⟨"ops", [⟨1⟩]⟩ (.download ⟨1⟩ ⟨2⟩)).body := by
  refine ⟨storeOf_same (by decide +kernel), ?_⟩
  rw [plainRenderers_download, plainRenderers_download, List.append_nil, List.append_nil]
  intro h
  have lines := passwordScanJson_injective h
  revert lines
  decide +kernel

end AnneDeBreuil
