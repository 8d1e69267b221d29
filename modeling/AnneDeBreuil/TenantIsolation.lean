import AnneDeBreuil.FsPutContract

namespace AnneDeBreuil

/-- The filesystem store in one state, as its readers see it. -/
def fsSnapshotStore {β : Type} (libs : StoreLibs β) (dir : StoreDir β) : SnapshotStore where
  get id := getBlocking libs dir id
  list host := listBlocking libs dir host

def inScope (ctx : AuthContext) (put : Put) : Bool := ctx.hostScopes.contains put.snapshot.hostId

/-- The first snapshot under the id belongs to a host outside the scopes. -/
def Shadowed (ctx : AuthContext) (log : List Put) (scan : ScanId) : Prop :=
  ∃ put, log.find? (fun put => put.snapshot.scanId = scan) = some put ∧ inScope ctx put = false

/-- Of the snapshots in scope, the first under the id is the host's own. -/
def OwnFirst (ctx : AuthContext) (log : List Put) (host : HostId) (scan : ScanId) : Prop :=
  ∃ put, (log.filter (inScope ctx)).find? (fun put => put.snapshot.scanId = scan) = some put ∧
    put.snapshot.hostId = host

/-- A caller cannot tell two stores apart by what it asks of one of its hosts,
and what it gets is that host's. -/
structure Isolated (ctx : AuthContext) (host : HostId) (store store' : SnapshotStore) : Prop where
  list : (portalRepository store).listForHost ctx host = (portalRepository store').listForHost ctx host
  get : ∀ scan, (portalRepository store).getForHost ctx host scan = (portalRepository store').getForHost ctx host scan
  own : ∀ scan snapshot, (portalRepository store).getForHost ctx host scan = .ok (some snapshot) →
    snapshot.hostId = host ∧ host ∈ ctx.hostScopes

section

variable {β : Type} {libs : StoreLibs β} {snapshots snapshots' : List ScanSnapshot} {dir dir' : StoreDir β}
  {log log' : List Put} {ctx : AuthContext} {host : HostId} {scan : ScanId}

/-- The host filter of the outer layer, over any store. -/
theorem getForHost_own (store : SnapshotStore) {snapshot : ScanSnapshot}
    (h : (portalRepository store).getForHost ctx host scan = .ok (some snapshot)) :
    snapshot.hostId = host ∧ host ∈ ctx.hostScopes := by
  simp only [portalRepository, authorizingRepository, storeBackedRepository] at h
  split at h
  next => cases h
  next hscope =>
    cases hget : store.get scan with
    | error error =>
      rw [hget] at h
      cases h
    | ok found =>
      rw [hget] at h
      have hfilter : found.filter (fun s => s.hostId = host) = some snapshot := Except.ok.inj h
      have hhost := (Option.filter_eq_some_iff.mp hfilter).2
      exact ⟨by simpa using hhost, by simpa using hscope⟩

theorem listForHost_log (h : Represents libs snapshots dir log) (hscope : host ∈ ctx.hostScopes) :
    (portalRepository (fsSnapshotStore libs dir)).listForHost ctx host =
      .ok (sortByKey (fun id => id.uuid.toNat)
        (((log.filter (inScope ctx)).filter (fun put => put.snapshot.hostId = host)).map
          (fun put => put.snapshot.scanId))) := by
  have within : (log.filter (inScope ctx)).filter (fun put => put.snapshot.hostId = host) =
      log.filter (fun put => put.snapshot.hostId = host) := by
    rw [List.filter_filter]
    refine List.filter_congr fun put _ => ?_
    by_cases hhost : put.snapshot.hostId = host
    · simp [inScope, hhost, hscope]
    · simp [hhost]
  have allowed : ctx.hostScopes.contains host = true := by simpa using hscope
  simp only [portalRepository, authorizingRepository, storeBackedRepository, fsSnapshotStore, allowed,
    listBlocking_log h host, within]
  rfl

/-- Of the snapshots under an id only the first is looked at, so the host's own
is found when it is the first in scope and none out of scope is before it. -/
theorem find_shadowed (ctx : AuthContext) (log : List Put) (host : HostId) (scan : ScanId)
    (hscope : host ∈ ctx.hostScopes) (put : Put) :
    log.find? (fun put => put.snapshot.scanId = scan) = some put ∧ put.snapshot.hostId = host ↔
      ¬Shadowed ctx log scan ∧
        (log.filter (inScope ctx)).find? (fun put => put.snapshot.scanId = scan) = some put ∧
        put.snapshot.hostId = host := by
  induction log with
  | nil => simp [Shadowed]
  | cons first log ih =>
    unfold Shadowed at ih ⊢
    by_cases hscan : first.snapshot.scanId = scan
    · cases hin : inScope ctx first with
      | true => simp [hscan, hin]
      | false =>
        have foreign : first.snapshot.hostId ≠ host := by
          intro hhost
          simp [inScope, hhost, hscope] at hin
        simp [hscan, hin]
        rintro rfl
        exact foreign
    · cases hin : inScope ctx first with
      | true => simpa [hscan, hin] using ih
      | false => simpa [hscan, hin] using ih

theorem getForHost_log (h : Represents libs snapshots dir log) (hscope : host ∈ ctx.hostScopes) (scan : ScanId) :
    (portalRepository (fsSnapshotStore libs dir)).getForHost ctx host scan =
      .ok (((log.find? (fun put => put.snapshot.scanId = scan)).filter
        (fun put => put.snapshot.hostId = host)).map Put.snapshot) := by
  have allowed : ctx.hostScopes.contains host = true := by simpa using hscope
  simp only [portalRepository, authorizingRepository, storeBackedRepository, fsSnapshotStore, allowed,
    getBlocking_log h scan]
  cases log.find? (fun put => put.snapshot.scanId = scan) with
  | none => rfl
  | some put =>
    show Except.ok ((some put.snapshot).filter _) = Except.ok (((some put).filter _).map Put.snapshot)
    simp only [Option.filter_some]
    split <;> rfl

/-- `get_for_host` by what is in scope and whether it is shadowed. -/
theorem getForHost_shadowed (h : Represents libs snapshots dir log) (hscope : host ∈ ctx.hostScopes)
    (snapshot : ScanSnapshot) (scan : ScanId) :
    (portalRepository (fsSnapshotStore libs dir)).getForHost ctx host scan = .ok (some snapshot) ↔
      ¬Shadowed ctx log scan ∧ ∃ put, (log.filter (inScope ctx)).find? (fun put => put.snapshot.scanId = scan) =
        some put ∧ put.snapshot.hostId = host ∧ put.snapshot = snapshot := by
  rw [getForHost_log h hscope, Except.ok.injEq, Option.map_eq_some_iff]
  simp only [Option.filter_eq_some_iff, decide_eq_true_eq, find_shadowed ctx log host scan hscope]
  constructor
  · rintro ⟨put, ⟨hclear, hfirst, hhost⟩, hsnapshot⟩
    exact ⟨hclear, put, hfirst, hhost, hsnapshot⟩
  · rintro ⟨hclear, put, hfirst, hhost, hsnapshot⟩
    exact ⟨put, ⟨hclear, hfirst, hhost⟩, hsnapshot⟩

theorem getForHost_ok (h : Represents libs snapshots dir log) (hscope : host ∈ ctx.hostScopes) (scan : ScanId) :
    ∃ found, (portalRepository (fsSnapshotStore libs dir)).getForHost ctx host scan = .ok found :=
  ⟨_, getForHost_log h hscope scan⟩

/-- Two stores that agree on the caller's hosts look alike to the caller
exactly when each scan id of one of the host's own snapshots is shadowed in
both or in neither. -/
theorem isolated_iff (h : Represents libs snapshots dir log) (h' : Represents libs snapshots' dir' log')
    (same : log.filter (inScope ctx) = log'.filter (inScope ctx)) (hscope : host ∈ ctx.hostScopes) :
    Isolated ctx host (fsSnapshotStore libs dir) (fsSnapshotStore libs dir') ↔
      ∀ scan, OwnFirst ctx log host scan → (Shadowed ctx log scan ↔ Shadowed ctx log' scan) := by
  constructor
  · rintro isolated scan ⟨put, hfirst, hhost⟩
    have seen := getForHost_shadowed h hscope put.snapshot scan
    have seen' := getForHost_shadowed h' hscope put.snapshot scan
    rw [isolated.get, ← same] at *
    have own : ∃ other, (log.filter (inScope ctx)).find? (fun put => put.snapshot.scanId = scan) = some other ∧
        other.snapshot.hostId = host ∧ other.snapshot = put.snapshot := ⟨put, hfirst, hhost, rfl⟩
    have clear := seen.symm.trans seen'
    simp only [own, and_true] at clear
    exact not_iff_not.mp clear
  · intro shadows
    refine ⟨?_, fun scan => ?_, fun scan snapshot => getForHost_own _⟩
    · rw [listForHost_log h hscope, listForHost_log h' hscope, same]
    · obtain ⟨found, hfound⟩ := getForHost_ok h hscope scan
      obtain ⟨found', hfound'⟩ := getForHost_ok h' hscope scan
      have agree : ∀ snapshot, found = some snapshot ↔ found' = some snapshot := by
        intro snapshot
        have seen := getForHost_shadowed h hscope snapshot scan
        have seen' := getForHost_shadowed h' hscope snapshot scan
        rw [hfound, Except.ok.injEq] at seen
        rw [hfound', Except.ok.injEq, ← same] at seen'
        rw [seen, seen']
        refine and_congr_left fun ⟨put, hfirst, hhost, _⟩ => not_congr ?_
        exact shadows scan ⟨put, hfirst, hhost⟩
      rw [hfound, hfound', Option.ext agree]

end

/-- An empty scan of another host. -/
def foreignScan (scanId : ScanId) (nanos : Int) : ScanSnapshot := { emptyScan scanId nanos with hostId := ⟨2⟩ }

def oneHost : AuthContext := ⟨"portal", [⟨1⟩]⟩

theorem isolated_distinct_ids :
    Isolated oneHost ⟨1⟩ (fsSnapshotStore taggedLibs (runPuts taggedLibs (.fresh _) [⟨⟨1⟩, emptyScan ⟨7⟩ 0⟩]))
      (fsSnapshotStore taggedLibs
        (runPuts taggedLibs (.fresh _) [⟨⟨2⟩, foreignScan ⟨8⟩ 1⟩, ⟨⟨1⟩, emptyScan ⟨7⟩ 0⟩])) := by
  let own : List Put := [⟨⟨1⟩, emptyScan ⟨7⟩ 0⟩]
  have before := runPuts_represents (taggedLibs_lawful (by decide)) (List.append_nil own).symm
  let mixed : List Put := [⟨⟨2⟩, foreignScan ⟨8⟩ 1⟩, ⟨⟨1⟩, emptyScan ⟨7⟩ 0⟩]
  have after := runPuts_represents (taggedLibs_lawful (by decide)) (List.append_nil mixed).symm
  refine (isolated_iff before after (by decide) (by decide)).mpr ?_
  rintro scan ⟨put, hfirst, -⟩
  have hscan : put.snapshot.scanId = scan := by simpa using List.find?_some hfirst
  have hput : put = ⟨⟨1⟩, emptyScan ⟨7⟩ 0⟩ := List.mem_singleton.mp (List.mem_of_find?_eq_some hfirst)
  rw [← hscan, hput]
  refine iff_of_false ?_ ?_
  · rintro ⟨other, hother, hscope⟩
    cases hother
    revert hscope
    decide
  · rintro ⟨other, hother, hscope⟩
    cases hother
    revert hscope
    decide

/-- Another tenant's snapshot, put under the scan id first, hides the caller's
own. -/
theorem isolated_counterexample :
    taggedLibs.Lawful [foreignScan ⟨7⟩ 1, emptyScan ⟨7⟩ 0] ∧
    (portalRepository (fsSnapshotStore taggedLibs (runPuts taggedLibs (.fresh _)
      [⟨⟨1⟩, emptyScan ⟨7⟩ 0⟩]))).getForHost oneHost ⟨1⟩ ⟨7⟩ = .ok (some (emptyScan ⟨7⟩ 0)) ∧
    (portalRepository (fsSnapshotStore taggedLibs (runPuts taggedLibs (.fresh _)
      [⟨⟨2⟩, foreignScan ⟨7⟩ 1⟩, ⟨⟨1⟩, emptyScan ⟨7⟩ 0⟩]))).getForHost oneHost ⟨1⟩ ⟨7⟩ = .ok none ∧
    ¬Isolated oneHost ⟨1⟩ (fsSnapshotStore taggedLibs (runPuts taggedLibs (.fresh _) [⟨⟨1⟩, emptyScan ⟨7⟩ 0⟩]))
      (fsSnapshotStore taggedLibs
        (runPuts taggedLibs (.fresh _) [⟨⟨2⟩, foreignScan ⟨7⟩ 1⟩, ⟨⟨1⟩, emptyScan ⟨7⟩ 0⟩])) := by
  refine ⟨taggedLibs_lawful (by decide), rfl, rfl, fun isolated => ?_⟩
  have same : Except.ok (some (emptyScan ⟨7⟩ 0)) = (Except.ok none : Except PortalError _) := isolated.get ⟨7⟩
  cases same

end AnneDeBreuil
