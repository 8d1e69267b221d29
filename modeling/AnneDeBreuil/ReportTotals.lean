import AnneDeBreuil.Callouts
import AnneDeBreuil.Substring

namespace AnneDeBreuil

def ExposureCounts.of (counts : ExposureCounts) : Exposure → Nat
  | .loopback => counts.loopback
  | .specificInterface => counts.specificInterface
  | .allInterfaces => counts.allInterfaces

def ReachabilityCounts.of (counts : ReachabilityCounts) : Reachability → Nat
  | .localOnly => counts.localOnly
  | .blocked => counts.blocked
  | .allowed => counts.allowed
  | .defaultAction => counts.defaultAction
  | .indeterminate => counts.indeterminate

def DriftSeverityCounts.of (counts : DriftSeverityCounts) : Severity → Nat
  | .low => counts.low
  | .medium => counts.medium
  | .high => counts.high
  | .critical => counts.critical

/-- The endpoint views of all hosts, in the model's order. -/
def ReportModel.endpointViews (model : ReportModel) : List EndpointView := model.hosts.flatMap HostSection.endpoints

theorem ExposureCounts.of_record (counts : ExposureCounts) (recorded exposure : Exposure) :
    (counts.record recorded).of exposure = counts.of exposure + if recorded = exposure then 1 else 0 := by
  cases recorded <;> cases exposure <;> rfl

theorem ReachabilityCounts.of_record (counts : ReachabilityCounts) (recorded reachability : Reachability) :
    (counts.record recorded).of reachability = counts.of reachability + if recorded = reachability then 1 else 0 := by
  cases recorded <;> cases reachability <;> rfl

theorem DriftSeverityCounts.of_record (counts : DriftSeverityCounts) (recorded severity : Severity) :
    (counts.record recorded).of severity = counts.of severity + if recorded = severity then 1 else 0 := by
  cases recorded <;> cases severity <;> rfl

theorem ExposureCounts.ext_of {a b : ExposureCounts} (h : ∀ exposure, a.of exposure = b.of exposure) : a = b := by
  obtain ⟨loopback, specificInterface, allInterfaces⟩ := a
  have first := h .loopback
  have second := h .specificInterface
  have third := h .allInterfaces
  simp only [of] at first second third
  rw [first, second, third]

theorem ReachabilityCounts.ext_of {a b : ReachabilityCounts}
    (h : ∀ reachability, a.of reachability = b.of reachability) : a = b := by
  obtain ⟨localOnly, blocked, allowed, defaultAction, indeterminate⟩ := a
  have first := h .localOnly
  have second := h .blocked
  have third := h .allowed
  have fourth := h .defaultAction
  have fifth := h .indeterminate
  simp only [of] at first second third fourth fifth
  rw [first, second, third, fourth, fifth]

section

variable {target : Target} {regexNew : String → Option FindIter}

/-- The views of the sections that a model is built from, before they are sorted. -/
def builtViews (target : Target) (regexNew : String → Option FindIter) (snapshots : List ScanSnapshot) : List EndpointView :=
  (snapshots.map (buildHostSection target regexNew)).flatMap HostSection.endpoints

/-- A number that each recorded endpoint raises by one when its view is of a kind,
counts the views of the kind. -/
theorem tally_recorded (target : Target) (regexNew : String → Option FindIter) (tally : EndpointCounts → Nat)
    (kind : EndpointView → Bool)
    (step : ∀ snapshot counts endpoint, tally (EndpointCounts.record target snapshot counts endpoint) =
      tally counts + if kind (buildEndpointView target regexNew endpoint snapshot) then 1 else 0)
    (snapshots : List ScanSnapshot) (counts : EndpointCounts) :
    tally (snapshots.foldl (EndpointCounts.recordSnapshot target) counts) =
      tally counts + (builtViews target regexNew snapshots).countP kind := by
  have snapshotTally : ∀ (snapshot : ScanSnapshot) (endpoints : List Endpoint) (counts : EndpointCounts),
      tally (endpoints.foldl (EndpointCounts.record target snapshot) counts) = tally counts +
        (endpoints.map fun endpoint => buildEndpointView target regexNew endpoint snapshot).countP kind := by
    intro snapshot endpoints
    induction endpoints with
    | nil => exact fun _ => rfl
    | cons endpoint endpoints ih =>
      intro counts
      rw [List.foldl_cons, ih, step, List.map_cons, List.countP_cons]
      omega
  induction snapshots generalizing counts with
  | nil => rfl
  | cons snapshot snapshots ih =>
    rw [List.foldl_cons, ih, EndpointCounts.recordSnapshot, snapshotTally, builtViews, builtViews, List.map_cons,
      List.flatMap_cons, List.countP_append, Nat.add_assoc]
    rfl

/-- A tally that starts at zero. -/
theorem tally_buildRollup (regexNew : String → Option FindIter) (tally : EndpointCounts → Nat)
    (kind : EndpointView → Bool) (start : tally ⟨⟨0, 0, 0⟩, ⟨0, 0, 0, 0, 0⟩, 0⟩ = 0)
    (step : ∀ snapshot counts endpoint, tally (EndpointCounts.record target snapshot counts endpoint) =
      tally counts + if kind (buildEndpointView target regexNew endpoint snapshot) then 1 else 0)
    (snapshots : List ScanSnapshot) :
    tally (snapshots.foldl (EndpointCounts.recordSnapshot target) ⟨⟨0, 0, 0⟩, ⟨0, 0, 0, 0, 0⟩, 0⟩) =
      (builtViews target regexNew snapshots).countP kind := by
  rw [tally_recorded target regexNew tally kind step, start, Nat.zero_add]

theorem exposure_buildRollup (regexNew : String → Option FindIter) (snapshots : List ScanSnapshot)
    (drift : Option DriftReport) (exposure : Exposure) :
    (buildRollup target snapshots drift).endpointsByExposure.of exposure =
      (builtViews target regexNew snapshots).countP (fun view => view.exposure = exposure) := by
  refine tally_buildRollup regexNew (fun counts => counts.endpointsByExposure.of exposure)
    (fun view => view.exposure = exposure) ?_ ?_ snapshots
  · cases exposure <;> rfl
  · intro snapshot counts endpoint
    simp [EndpointCounts.record, ExposureCounts.of_record, buildEndpointView]

theorem reachability_buildRollup (regexNew : String → Option FindIter) (snapshots : List ScanSnapshot)
    (drift : Option DriftReport) (reachability : Reachability) :
    (buildRollup target snapshots drift).endpointsByReachability.of reachability =
      (builtViews target regexNew snapshots).countP (fun view => view.reachability = reachability) := by
  refine tally_buildRollup regexNew (fun counts => counts.endpointsByReachability.of reachability)
    (fun view => view.reachability = reachability) ?_ ?_ snapshots
  · cases reachability <;> rfl
  · intro snapshot counts endpoint
    simp [EndpointCounts.record, ReachabilityCounts.of_record, buildEndpointView]

theorem unsigned_buildRollup (regexNew : String → Option FindIter) (snapshots : List ScanSnapshot)
    (drift : Option DriftReport) :
    (buildRollup target snapshots drift).unsignedBinaries =
      (builtViews target regexNew snapshots).countP (fun view => view.signatureStatus = .unsigned) := by
  refine tally_buildRollup regexNew EndpointCounts.unsignedBinaries (fun view => view.signatureStatus = .unsigned) rfl ?_
    snapshots
  intro snapshot counts endpoint
  simp [EndpointCounts.record, buildEndpointView]

theorem severity_recorded (entries : List DriftEntry) (counts : DriftSeverityCounts) (severity : Severity) :
    (entries.foldl (fun counts entry => counts.record entry.severity) counts).of severity =
      counts.of severity + entries.countP (fun entry => entry.severity = severity) := by
  induction entries generalizing counts with
  | nil => rfl
  | cons entry entries ih =>
    rw [List.foldl_cons, ih, DriftSeverityCounts.of_record, List.countP_cons]
    simp only [decide_eq_true_eq]
    omega

/-- Only what is bound to loopback stays on the host. -/
theorem localOnly_iff_loopback (endpoint : Endpoint) (snapshot : ScanSnapshot) :
    (buildEndpointView target regexNew endpoint snapshot).reachability = .localOnly ↔
      (buildEndpointView target regexNew endpoint snapshot).exposure = .loopback := by
  simp only [buildEndpointView]
  by_cases loopback : endpoint.exposure = .loopback
  · rw [evaluate_loopback loopback]
    exact iff_of_true rfl loopback
  · rw [evaluate_eq_verdictOf loopback]
    exact iff_of_false (verdictOf_ne_localOnly _) loopback

/-- Each view is of one exposure and of one reachability. -/
theorem countP_exposures (views : List EndpointView) :
    views.countP (fun view => view.exposure = .loopback) + views.countP (fun view => view.exposure = .specificInterface) +
      views.countP (fun view => view.exposure = .allInterfaces) = views.length := by
  induction views with
  | nil => rfl
  | cons view views ih =>
    simp only [List.countP_cons, List.length_cons, ← ih]
    cases view.exposure <;> simp <;> omega

theorem countP_reachabilities (views : List EndpointView) :
    views.countP (fun view => view.reachability = .localOnly) + views.countP (fun view => view.reachability = .blocked) +
      views.countP (fun view => view.reachability = .allowed) +
      views.countP (fun view => view.reachability = .defaultAction) +
      views.countP (fun view => view.reachability = .indeterminate) = views.length := by
  induction views with
  | nil => rfl
  | cons view views ih =>
    simp only [List.countP_cons, List.length_cons, ← ih]
    cases view.reachability <;> simp <;> omega

theorem builtViews_length (snapshots : List ScanSnapshot) :
    (builtViews target regexNew snapshots).length = (snapshots.flatMap ScanSnapshot.endpoints).length := by
  rw [builtViews, List.length_flatMap, List.length_flatMap, List.map_map]
  simp [Function.comp_def, buildHostSection]

theorem HostSection.sortKey_le_iff {a b : HostSection} : a.sortKey ≤ b.sortKey ↔
    a.hostId.uuid < b.hostId.uuid ∨ a.hostId.uuid = b.hostId.uuid ∧ a.scanId.uuid ≤ b.scanId.uuid := by
  have below := a.scanId.uuid.isLt
  have below' := b.scanId.uuid.isLt
  rw [BitVec.lt_def, BitVec.le_def, ← BitVec.toNat_inj, HostSection.sortKey, HostSection.sortKey]
  omega

theorem HostSection.sortKey_eq_iff {a b : HostSection} :
    a.sortKey = b.sortKey ↔ a.hostId = b.hostId ∧ a.scanId = b.scanId := by
  have below := a.scanId.uuid.isLt
  have below' := b.scanId.uuid.isLt
  have hosts : a.hostId = b.hostId ↔ a.hostId.uuid.toNat = b.hostId.uuid.toNat := by
    rw [BitVec.toNat_inj]
    exact ⟨congrArg _, fun same => congrArg HostId.mk same⟩
  have scans : a.scanId = b.scanId ↔ a.scanId.uuid.toNat = b.scanId.uuid.toNat := by
    rw [BitVec.toNat_inj]
    exact ⟨congrArg _, fun same => congrArg ScanId.mk same⟩
  rw [hosts, scans, HostSection.sortKey, HostSection.sortKey]
  omega

/-- Sections of distinct pairs are told apart by what they are sorted by. -/
theorem separates_sections {snapshots : List ScanSnapshot}
    (distinct : (snapshots.map fun snapshot => (snapshot.hostId, snapshot.scanId)).Nodup) :
    Separates HostSection.sortKey (snapshots.map (buildHostSection target regexNew)) := by
  intro a ha b hb tie
  obtain ⟨s, hs, rfl⟩ := List.mem_map.mp ha
  obtain ⟨t, ht, rfl⟩ := List.mem_map.mp hb
  obtain ⟨hosts, scans⟩ := HostSection.sortKey_eq_iff.mp tie
  have same : s = t := List.inj_on_of_nodup_map distinct hs ht (Prod.ext hosts scans)
  rw [same]

/-- The totals do not depend on the order of the snapshots. -/
theorem buildRollup_perm {snapshots snapshots' : List ScanSnapshot} (same : snapshots'.Perm snapshots)
    (drift : Option DriftReport) : buildRollup target snapshots' drift = buildRollup target snapshots drift := by
  have views : (builtViews target (fun _ => none) snapshots').Perm (builtViews target (fun _ => none) snapshots) :=
    (same.map _).flatMap_right _
  have exposures : (buildRollup target snapshots' drift).endpointsByExposure =
      (buildRollup target snapshots drift).endpointsByExposure := by
    refine ExposureCounts.ext_of fun exposure => ?_
    rw [exposure_buildRollup fun _ => none, exposure_buildRollup fun _ => none, views.countP_eq]
  have reachabilities : (buildRollup target snapshots' drift).endpointsByReachability =
      (buildRollup target snapshots drift).endpointsByReachability := by
    refine ReachabilityCounts.ext_of fun reachability => ?_
    rw [reachability_buildRollup fun _ => none, reachability_buildRollup fun _ => none,
      views.countP_eq]
  have binaries : (buildRollup target snapshots' drift).unsignedBinaries =
      (buildRollup target snapshots drift).unsignedBinaries := by
    rw [unsigned_buildRollup fun _ => none, unsigned_buildRollup fun _ => none,
      views.countP_eq]
  have hosts : (buildRollup target snapshots' drift).hostsScanned = (buildRollup target snapshots drift).hostsScanned :=
    same.length_eq
  rw [Rollup.mk.injEq]
  exact ⟨hosts, exposures, reachabilities, binaries, rfl, rfl, rfl⟩

end

/-- Only the summary of nothing holds these words. -/
theorem hasNoFindings_of_summary {rollup : Rollup} (h : "No findings".toList <:+: (executiveSummary rollup).toList) :
    hasNoFindings rollup = true := by
  have digits : ∀ n : Nat, 'N' ∉ (toString n).toList := by
    intro n hn
    have digit : ('N').isDigit = true := Nat.isDigit_of_mem_toDigits (by decide) (by decide) (Nat.toList_repr ▸ hn)
    cases digit
  have letter : 'N' ∈ (executiveSummary rollup).toList := h.subset (by decide)
  by_contra found
  rw [executiveSummary, if_neg found] at letter
  simp only [String.toList_append, List.mem_append, digits, or_false] at letter
  revert letter
  decide

/-- The totals of a report agree with the rows it shows. -/
structure TotalsAgree (model : ReportModel) : Prop where
  exposure : ∀ exposure, model.rollup.endpointsByExposure.of exposure =
    model.endpointViews.countP (fun view => view.exposure = exposure)
  reachability : ∀ reachability, model.rollup.endpointsByReachability.of reachability =
    model.endpointViews.countP (fun view => view.reachability = reachability)
  severity : ∀ severity, model.rollup.driftBySeverity.of severity =
    model.drift.countP (fun entry => entry.severity = severity)
  exposures : model.rollup.endpointsByExposure.loopback + model.rollup.endpointsByExposure.specificInterface +
    model.rollup.endpointsByExposure.allInterfaces = model.endpointViews.length
  reachabilities : model.rollup.endpointsByReachability.localOnly + model.rollup.endpointsByReachability.blocked +
    model.rollup.endpointsByReachability.allowed + model.rollup.endpointsByReachability.defaultAction +
    model.rollup.endpointsByReachability.indeterminate = model.endpointViews.length
  severities : driftTotal model.rollup = model.drift.length
  loopback : model.rollup.endpointsByExposure.loopback = model.rollup.endpointsByReachability.localOnly

section

variable {target : Target} {regexNew : String → Option FindIter} {snapshots : List ScanSnapshot}
  {drift : Option DriftReport} {model : ReportModel}

theorem endpointViews_perm (h : ReportModel.build target regexNew snapshots drift true = .ok model) :
    model.endpointViews.Perm (builtViews target regexNew snapshots) := by
  cases h
  exact (sortByKey_perm _ _).flatMap_right _

theorem totalsAgree (h : ReportModel.build target regexNew snapshots drift true = .ok model) : TotalsAgree model := by
  have shown := endpointViews_perm h
  have rollup : model.rollup = buildRollup target snapshots drift := by cases h; rfl
  have exposure : ∀ exposure, model.rollup.endpointsByExposure.of exposure =
      model.endpointViews.countP (fun view => view.exposure = exposure) := by
    intro exposure
    rw [rollup, exposure_buildRollup regexNew, shown.countP_eq]
  have reachability : ∀ reachability, model.rollup.endpointsByReachability.of reachability =
      model.endpointViews.countP (fun view => view.reachability = reachability) := by
    intro reachability
    rw [rollup, reachability_buildRollup regexNew, shown.countP_eq]
  refine ⟨exposure, reachability, ?_, ?_, ?_, ?_, ?_⟩
  · intro severity
    cases h
    have start : (⟨0, 0, 0, 0⟩ : DriftSeverityCounts).of severity = 0 := by cases severity <;> rfl
    exact (severity_recorded _ _ severity).trans (by rw [start, Nat.zero_add])
  · rw [← countP_exposures, ← exposure .loopback, ← exposure .specificInterface, ← exposure .allInterfaces]
    rfl
  · rw [← countP_reachabilities, ← reachability .localOnly, ← reachability .blocked, ← reachability .allowed,
      ← reachability .defaultAction, ← reachability .indeterminate]
    rfl
  · cases h
    exact (recordSeverities_total _ _).trans (Nat.zero_add _)
  · calc model.rollup.endpointsByExposure.loopback
        = model.endpointViews.countP (fun view => view.exposure = .loopback) := exposure .loopback
      _ = model.endpointViews.countP (fun view => view.reachability = .localOnly) := by
        refine List.countP_congr fun view hview => ?_
        obtain ⟨host, hhost, hview⟩ := List.mem_flatMap.mp (shown.subset hview)
        obtain ⟨snapshot, -, rfl⟩ := List.mem_map.mp hhost
        obtain ⟨endpoint, -, rfl⟩ := List.mem_map.mp hview
        simp only [decide_eq_true_eq, localOnly_iff_loopback]
      _ = model.rollup.endpointsByReachability.localOnly := (reachability .localOnly).symm

/-- A report whose summary has no findings has nothing to call out. -/
theorem selectAnnotation_of_summary (h : ReportModel.build target regexNew snapshots drift true = .ok model)
    (summary : "No findings".toList <:+: (executiveSummary model.rollup).toList) : selectAnnotation model = none := by
  have totals := totalsAgree h
  have nothing := hasNoFindings_of_summary summary
  simp only [hasNoFindings, Bool.and_eq_true, beq_iff_eq] at nothing
  obtain ⟨⟨exposed, -⟩, changes⟩ := nothing
  rw [totals.severities, List.length_eq_zero_iff] at changes
  refine selectAnnotation_eq_none.mpr ⟨changes, List.eq_nil_iff_forall_not_mem.mpr fun listener hlistener => ?_⟩
  obtain ⟨⟨host, hhost, -, hview⟩, -, everywhere⟩ := mem_unsignedListeners.mp hlistener
  have counted := (totals.exposure .allInterfaces).symm.trans exposed
  rw [List.countP_eq_zero] at counted
  exact counted _ (List.mem_flatMap.mpr ⟨host, hhost, hview⟩) (by simpa using everywhere)

end

theorem build_totals (target : Target) (regexNew : String → Option FindIter) (snapshots : List ScanSnapshot)
    (drift : Option DriftReport) : ∃ model, ReportModel.build target regexNew snapshots drift true = .ok model ∧
      TotalsAgree model ∧
      model.endpointViews.length = (snapshots.flatMap ScanSnapshot.endpoints).length ∧
      (model.hosts.Pairwise fun a b =>
        a.hostId.uuid < b.hostId.uuid ∨ a.hostId.uuid = b.hostId.uuid ∧ a.scanId.uuid ≤ b.scanId.uuid) ∧
      ((snapshots.map fun snapshot => (snapshot.hostId, snapshot.scanId)).Nodup →
        ∀ snapshots' : List ScanSnapshot, snapshots'.Perm snapshots →
          ReportModel.build target regexNew snapshots' drift true = .ok model) ∧
      ("No findings".toList <:+: (executiveSummary model.rollup).toList → selectAnnotation model = none) := by
  refine ⟨_, rfl, totalsAgree rfl, ?_, ?_, ?_, selectAnnotation_of_summary rfl⟩
  · rw [(endpointViews_perm rfl).length_eq, builtViews_length]
  · have sorted := sortByKey_sorted HostSection.sortKey (snapshots.map (buildHostSection target regexNew))
    exact sorted.imp HostSection.sortKey_le_iff.mp
  · intro distinct snapshots' same
    have separate : Separates HostSection.sortKey (snapshots.map (buildHostSection target regexNew)) :=
      separates_sections distinct
    have sections := sortByKey_of_separates separate (same.symm.map (buildHostSection target regexNew))
    simp only [ReportModel.build, sections, buildRollup_perm same, Bool.not_true, Bool.false_eq_true, if_false]

end AnneDeBreuil
