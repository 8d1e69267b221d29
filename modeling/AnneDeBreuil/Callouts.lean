import AnneDeBreuil.Annotations
import AnneDeBreuil.FirstLeast
import AnneDeBreuil.IpDisplay
import AnneDeBreuil.Portal
import AnneDeBreuil.UuidText

namespace AnneDeBreuil

/-- Which diagram a callout's leader line points toward. -/
inductive DiagramAnchor
  | exposureMap
  | driftTimeline
deriving DecidableEq, Repr

structure Annotation where
  headline : String
  leaderTarget : DiagramAnchor
deriving DecidableEq, Repr

/-- The first entry of the highest severity. -/
def highestSeverityDrift (entries : List DriftEntry) : Option DriftEntry :=
  entries.argmax fun entry => entry.severity.ctorIdx

/-- The unsigned endpoints of the fleet that are bound to all interfaces. -/
def unsignedListeners (model : ReportModel) : List (HostId × EndpointView) :=
  (model.hosts.flatMap fun host => host.endpoints.map fun endpoint => (host.hostId, endpoint)).filter
    fun (_, endpoint) => endpoint.signatureStatus = .unsigned && endpoint.exposure = .allInterfaces

/-- The order of `(port, host_id)`, as one number. -/
def listenerKey (listener : HostId × EndpointView) : Nat :=
  listener.2.port.get.toNat * 2 ^ 128 + listener.1.uuid.toNat

def mostExposedUnsignedListener (model : ReportModel) : Option (HostId × EndpointView) :=
  (unsignedListeners model).argmin listenerKey

def driftKindHeadline : DriftKind → String
  | .endpointAppeared => "A new endpoint appeared"
  | .endpointDisappeared => "An endpoint disappeared"
  | .reachabilityChanged _ _ => "Reachability changed"
  | .processChanged => "The owning process changed"
  | .signatureChanged => "The binary signature changed"
  | .ruleSetChanged => "The firewall rule set changed"

def annotationForDrift (entry : DriftEntry) : Annotation :=
  let place := match entry.endpointKey with
    | none => "the rule set"
    | some key => key.protocol.display ++ " " ++ key.bindAddress.ip.display ++ ":" ++ toString key.port.get.toNat
  ⟨driftKindHeadline entry.kind ++ " at " ++ place ++ " is the most severe change since the baseline.", .driftTimeline⟩

def shortHostId (hostId : HostId) : String := String.ofList ((uuidText hostId.uuid).toList.take 8)

def annotationForExposedListener (hostId : HostId) (endpoint : EndpointView) : Annotation :=
  ⟨"Port " ++ toString endpoint.port.get.toNat ++ " on host " ++ shortHostId hostId ++
    " is unsigned and reachable on every interface.", .exposureMap⟩

def selectAnnotation (model : ReportModel) : Option Annotation :=
  let candidates : List (Severity × Annotation) :=
    ((highestSeverityDrift model.drift).toList.map fun worstDrift => (worstDrift.severity, annotationForDrift worstDrift)) ++
    ((mostExposedUnsignedListener model).toList.map fun (hostId, endpoint) =>
      (Severity.critical, annotationForExposedListener hostId endpoint))
  let sorted := candidates.insertionSort fun a b =>
    b.1.ctorIdx < a.1.ctorIdx ∨ b.1.ctorIdx = a.1.ctorIdx ∧ a.2.headline ≤ b.2.headline
  sorted.head?.map (·.2)

/-- The kinds of change whose headline sorts before that of a listener. -/
def DriftKind.isPresence (kind : DriftKind) : Prop := kind = .endpointAppeared ∨ kind = .endpointDisappeared

instance (kind : DriftKind) : Decidable kind.isPresence := inferInstanceAs (Decidable (_ ∨ _))

/-- Texts with different first characters are ordered by these. -/
theorem lt_of_head_lt {s t : String} {c d : Char} (hs : s.toList.head? = some c) (ht : t.toList.head? = some d)
    (h : c < d) : s < t := by
  obtain ⟨srest, hs⟩ := List.head?_eq_some_iff.mp hs
  obtain ⟨trest, ht⟩ := List.head?_eq_some_iff.mp ht
  rw [String.lt_iff_toList_lt, hs, ht]
  exact List.Lex.rel h

theorem headline_le_iff (entry : DriftEntry) (hostId : HostId) (endpoint : EndpointView) :
    (annotationForDrift entry).headline ≤ (annotationForExposedListener hostId endpoint).headline ↔
      entry.kind.isPresence := by
  have listener : (annotationForExposedListener hostId endpoint).headline.toList.head? = some 'P' := by
    simp [annotationForExposedListener]
  have drift : (annotationForDrift entry).headline.toList.head? = (driftKindHeadline entry.kind).toList.head? := by
    have nonempty : (driftKindHeadline entry.kind).toList ≠ [] := by
      cases entry.kind <;> simp [driftKindHeadline]
    simp only [annotationForDrift, String.toList_append, List.append_assoc]
    exact List.head?_append_of_ne_nil _ nonempty
  cases hkind : entry.kind with
  | endpointAppeared | endpointDisappeared =>
    rw [hkind] at drift
    exact iff_of_true (lt_of_head_lt (d := 'P') (drift.trans rfl) listener (by decide)).le (by decide)
  | reachabilityChanged before after =>
    rw [hkind] at drift
    have initial : (driftKindHeadline (.reachabilityChanged before after)).toList.head? = some 'R' := by
      simp [driftKindHeadline]
    exact iff_of_false (lt_of_head_lt listener (drift.trans initial) (by decide)).not_ge (by simp [DriftKind.isPresence])
  | processChanged | signatureChanged | ruleSetChanged =>
    rw [hkind] at drift
    exact iff_of_false (lt_of_head_lt (d := 'T') listener (drift.trans rfl) (by decide)).not_ge (by decide)

section

variable {model : ReportModel}

/-- Which candidate is taken: the drift entry before a listener only if it is
critical and its headline sorts first. -/
theorem selectAnnotation_eq (model : ReportModel) : selectAnnotation model =
    match highestSeverityDrift model.drift, mostExposedUnsignedListener model with
    | none, none => none
    | some worst, none => some (annotationForDrift worst)
    | none, some (hostId, endpoint) => some (annotationForExposedListener hostId endpoint)
    | some worst, some (hostId, endpoint) =>
      if worst.severity = .critical ∧ worst.kind.isPresence then some (annotationForDrift worst)
      else some (annotationForExposedListener hostId endpoint) := by
  unfold selectAnnotation
  cases highestSeverityDrift model.drift with
  | none => cases mostExposedUnsignedListener model <;> rfl
  | some worst =>
    cases mostExposedUnsignedListener model with
    | none => rfl
    | some listener =>
      obtain ⟨hostId, endpoint⟩ := listener
      have order : (Severity.critical.ctorIdx < worst.severity.ctorIdx ∨
          Severity.critical.ctorIdx = worst.severity.ctorIdx ∧
            (annotationForDrift worst).headline ≤ (annotationForExposedListener hostId endpoint).headline) ↔
          worst.severity = .critical ∧ worst.kind.isPresence := by
        rw [headline_le_iff]
        cases worst.severity <;> simp [Severity.ctorIdx]
      simp only [Option.toList_some, List.map_cons, List.map_nil, List.singleton_append, List.insertionSort_cons,
        List.insertionSort_nil, List.orderedInsert_nil, List.orderedInsert_cons, order]
      split <;> rfl

theorem mem_unsignedListeners {listener : HostId × EndpointView} : listener ∈ unsignedListeners model ↔
    (∃ host ∈ model.hosts, host.hostId = listener.1 ∧ listener.2 ∈ host.endpoints) ∧
      listener.2.signatureStatus = .unsigned ∧ listener.2.exposure = .allInterfaces := by
  obtain ⟨hostId, endpoint⟩ := listener
  simp only [unsignedListeners, List.mem_filter, List.mem_flatMap, List.mem_map, Prod.mk.injEq, Bool.and_eq_true,
    decide_eq_true_eq]
  constructor
  · rintro ⟨⟨host, hhost, other, hother, rfl, rfl⟩, listed⟩
    exact ⟨⟨host, hhost, rfl, hother⟩, listed⟩
  · rintro ⟨⟨host, hhost, rfl, hother⟩, listed⟩
    exact ⟨⟨host, hhost, endpoint, hother, rfl, rfl⟩, listed⟩

/-- Nothing to call out: no drift, and no unsigned listener on all interfaces. -/
theorem selectAnnotation_eq_none : selectAnnotation model = none ↔ model.drift = [] ∧ unsignedListeners model = [] := by
  have drift : highestSeverityDrift model.drift = none ↔ model.drift = [] := List.argmax_eq_none
  have listeners : mostExposedUnsignedListener model = none ↔ unsignedListeners model = [] := List.argmin_eq_none
  rw [selectAnnotation_eq, ← drift, ← listeners]
  cases highestSeverityDrift model.drift with
  | none => cases mostExposedUnsignedListener model <;> simp
  | some worst =>
    cases mostExposedUnsignedListener model with
    | none => simp
    | some listener =>
      refine iff_of_false ?_ (by simp)
      dsimp only
      split <;> simp

/-- A critical entry that is taken is the first of the critical ones. -/
theorem highestSeverityDrift_critical_iff {entries : List DriftEntry} {entry : DriftEntry} :
    highestSeverityDrift entries = some entry ∧ entry.severity = .critical ↔
      entries.find? (fun other => other.severity = .critical) = some entry := by
  have critical : ∀ {severity : Severity}, severity = .critical ↔ ¬severity.ctorIdx < Severity.critical.ctorIdx := by
    intro severity
    cases severity <;> decide
  have first : ∀ worst, highestSeverityDrift entries = some worst → worst.severity = .critical →
      entries.find? (fun other => other.severity = .critical) = some worst := by
    intro worst hworst hcritical
    obtain ⟨before, after, rfl, hbefore, -⟩ := argmax_iff_isFirstLeast.mp hworst
    rw [List.find?_append, List.find?_eq_none.mpr, Option.none_or, List.find?_cons_of_pos (by simpa using hcritical)]
    intro other hother
    have lower : other.severity.ctorIdx < worst.severity.ctorIdx := hbefore other hother
    rw [hcritical] at lower
    simpa [critical] using lower
  refine ⟨fun ⟨hworst, hcritical⟩ => first entry hworst hcritical, fun hfind => ?_⟩
  have hcritical : entry.severity = .critical := by simpa using List.find?_some hfind
  cases hworst : highestSeverityDrift entries with
  | none =>
    rw [highestSeverityDrift, List.argmax_eq_none] at hworst
    simp [hworst] at hfind
  | some worst =>
    have above : entry.severity.ctorIdx ≤ worst.severity.ctorIdx :=
      List.le_of_mem_argmax (f := fun entry => entry.severity.ctorIdx) (List.mem_of_find?_eq_some hfind) hworst
    rw [hcritical] at above
    rw [first worst hworst (critical.mpr above.not_gt)] at hfind
    exact ⟨hfind, hcritical⟩

end

/-- What may be called out: the drift entries, and the unsigned listeners that the
firewall does not block. -/
def calloutCandidates (model : ReportModel) : List (Severity × Annotation) :=
  (model.drift.map fun entry => (entry.severity, annotationForDrift entry)) ++
  ((unsignedListeners model).filter fun (_, endpoint) => endpoint.reachability ≠ .blocked).map
    fun (hostId, endpoint) => (.critical, annotationForExposedListener hostId endpoint)

/-- A callout stands for a candidate of the highest severity, and says of no
endpoint that it is reachable against the endpoint's own verdict. -/
structure CalloutSound (model : ReportModel) : Prop where
  none_iff : selectAnnotation model = none ↔
    model.drift = [] ∧ ∀ listener ∈ unsignedListeners model, listener.2.reachability = .blocked
  highest : ∀ annotation, selectAnnotation model = some annotation →
    ∃ severity, (severity, annotation) ∈ calloutCandidates model ∧
      ∀ other ∈ calloutCandidates model, other.1.ctorIdx ≤ severity.ctorIdx
  reachable : ∀ hostId endpoint, mostExposedUnsignedListener model = some (hostId, endpoint) →
    selectAnnotation model = some (annotationForExposedListener hostId endpoint) →
      endpoint.reachability ≠ .blocked ∧ endpoint.reachability ≠ .localOnly

/-- A listener that is taken is off the local host and let through, or gives way to
the first critical change, which is that an endpoint came or went. -/
def ListenerReached (model : ReportModel) : Prop :=
  ∀ listener, IsFirstLeast listenerKey (unsignedListeners model) listener →
    listener.2.reachability ≠ .blocked ∧ listener.2.reachability ≠ .localOnly ∨
      ∃ entry, model.drift.find? (fun entry => entry.severity = .critical) = some entry ∧ entry.kind.isPresence

section

variable {model : ReportModel}

theorem severity_le_critical (severity : Severity) : severity.ctorIdx ≤ Severity.critical.ctorIdx := by
  cases severity <;> decide

theorem drift_mem_candidates {entry : DriftEntry} (h : entry ∈ model.drift) :
    (entry.severity, annotationForDrift entry) ∈ calloutCandidates model :=
  List.mem_append_left _ (List.mem_map_of_mem h)

theorem listener_mem_candidates {hostId : HostId} {endpoint : EndpointView}
    (h : mostExposedUnsignedListener model = some (hostId, endpoint)) (hreach : endpoint.reachability ≠ .blocked) :
    (.critical, annotationForExposedListener hostId endpoint) ∈ calloutCandidates model := by
  have listed : (hostId, endpoint) ∈ (unsignedListeners model).filter fun (_, endpoint) =>
      endpoint.reachability ≠ .blocked := List.mem_filter.mpr ⟨List.argmin_mem h, by simpa using hreach⟩
  exact List.mem_append_right _ (List.mem_map.mpr ⟨(hostId, endpoint), listed, rfl⟩)

/-- Without listeners only drift is left, and its worst entry is taken. -/
theorem candidate_le_worst {worst : DriftEntry} (hworst : highestSeverityDrift model.drift = some worst)
    (hnone : mostExposedUnsignedListener model = none) :
    ∀ other ∈ calloutCandidates model, other.1.ctorIdx ≤ worst.severity.ctorIdx := by
  rw [mostExposedUnsignedListener, List.argmin_eq_none] at hnone
  intro other hother
  simp only [calloutCandidates, hnone, List.filter_nil, List.map_nil, List.append_nil, List.mem_map] at hother
  obtain ⟨entry, hentry, rfl⟩ := hother
  exact List.le_of_mem_argmax (f := fun entry => entry.severity.ctorIdx) hentry hworst

theorem listenerReached_of_sound (sound : CalloutSound model) : ListenerReached model := by
  intro listener hfirst
  obtain ⟨hostId, endpoint⟩ := listener
  have hmost : mostExposedUnsignedListener model = some (hostId, endpoint) := argmin_iff_isFirstLeast.mpr hfirst
  have reached := sound.reachable hostId endpoint hmost
  rw [selectAnnotation_eq, hmost] at reached
  cases hworst : highestSeverityDrift model.drift with
  | none =>
    rw [hworst] at reached
    exact .inl (reached rfl)
  | some worst =>
    rw [hworst] at reached
    by_cases taken : worst.severity = .critical ∧ worst.kind.isPresence
    · exact .inr ⟨worst, highestSeverityDrift_critical_iff.mp ⟨hworst, taken.1⟩, taken.2⟩
    · exact .inl (reached (if_neg taken))

/-- A callout of a listener is of one that is reached. -/
theorem reached_of_selected (reached : ListenerReached model) {hostId : HostId} {endpoint : EndpointView}
    (hmost : mostExposedUnsignedListener model = some (hostId, endpoint))
    (hselect : selectAnnotation model = some (annotationForExposedListener hostId endpoint)) :
    endpoint.reachability ≠ .blocked ∧ endpoint.reachability ≠ .localOnly := by
  rcases reached _ (argmin_iff_isFirstLeast.mp hmost) with through | ⟨entry, hfind, presence⟩
  · exact through
  · obtain ⟨hworst, critical⟩ := highestSeverityDrift_critical_iff.mpr hfind
    rw [selectAnnotation_eq, hworst, hmost] at hselect
    simp only [critical, presence, and_self, if_true, Option.some.injEq] at hselect
    have anchors := congrArg Annotation.leaderTarget hselect
    cases anchors

/-- Where a listener is taken, only a critical change comes before it. -/
theorem selected_of_listener {hostId : HostId} {endpoint : EndpointView} {callout : Annotation}
    (hmost : mostExposedUnsignedListener model = some (hostId, endpoint))
    (hselect : selectAnnotation model = some callout) :
    callout = annotationForExposedListener hostId endpoint ∨
      ∃ worst, highestSeverityDrift model.drift = some worst ∧ worst.severity = .critical ∧
        callout = annotationForDrift worst := by
  rw [selectAnnotation_eq, hmost] at hselect
  cases hworst : highestSeverityDrift model.drift with
  | none =>
    rw [hworst] at hselect
    exact .inl (Option.some.inj hselect).symm
  | some worst =>
    rw [hworst] at hselect
    simp only at hselect
    split at hselect
    next taken => exact .inr ⟨worst, rfl, taken.1, (Option.some.inj hselect).symm⟩
    next => exact .inl (Option.some.inj hselect).symm

theorem sound_of_listenerReached (reached : ListenerReached model) : CalloutSound model where
  none_iff := by
    rw [selectAnnotation_eq_none]
    refine and_congr_right fun hdrift => ⟨fun hnone => by simp [hnone], fun blocked => ?_⟩
    by_contra hsome
    have taken : mostExposedUnsignedListener model ≠ none := fun h => hsome (List.argmin_eq_none.mp h)
    obtain ⟨listener, hlistener⟩ := Option.ne_none_iff_exists'.mp taken
    rcases reached listener (argmin_iff_isFirstLeast.mp hlistener) with ⟨through, -⟩ | ⟨entry, hfind, -⟩
    · exact through (blocked listener (List.argmin_mem hlistener))
    · simp [hdrift] at hfind
  highest := by
    intro annotation hselect
    cases hmost : mostExposedUnsignedListener model with
    | none =>
      rw [selectAnnotation_eq] at hselect
      cases hworst : highestSeverityDrift model.drift with
      | none => simp [hmost, hworst] at hselect
      | some worst =>
        simp only [hmost, hworst, Option.some.injEq] at hselect
        subst hselect
        exact ⟨_, drift_mem_candidates (List.argmax_mem hworst), candidate_le_worst hworst hmost⟩
    | some listener =>
      obtain ⟨hostId, endpoint⟩ := listener
      refine ⟨.critical, ?_, fun other _ => severity_le_critical other.1⟩
      rcases selected_of_listener hmost hselect with rfl | ⟨worst, hworst, critical, rfl⟩
      · exact listener_mem_candidates hmost (reached_of_selected reached hmost hselect).1
      · rw [← critical]
        exact drift_mem_candidates (List.argmax_mem hworst)
  reachable := fun _ _ hmost hselect => reached_of_selected reached hmost hselect

end

theorem calloutSound_iff (model : ReportModel) : CalloutSound model ↔ ListenerReached model :=
  ⟨listenerReached_of_sound, sound_of_listenerReached⟩

/-- An unsigned listener on port 22 of every interface, which the firewall blocks. -/
def blockedListener : ScanSnapshot :=
  .new ⟨0⟩ ⟨0⟩ ⟨0, 0⟩ "1"
    [.new .tcp ⟨.v4 0⟩ ⟨22⟩ none none [] .unsigned none]
    [⟨⟨0⟩, "block all", .inbound, .block, .tcp, .any, none, none, true, .local⟩] [] .execute

theorem calloutSound_counterexample : ∃ model,
    ReportModel.build .other (fun _ => none) [blockedListener] none true = .ok model ∧
    (∀ host ∈ model.hosts, ∀ endpoint ∈ host.endpoints, endpoint.reachability = .blocked) ∧
    selectAnnotation model =
      some ⟨"Port 22 on host 00000000 is unsigned and reachable on every interface.", .exposureMap⟩ ∧
    ¬CalloutSound model := by
  refine ⟨_, rfl, by decide, by decide, fun sound => ?_⟩
  have nothing := sound.none_iff.mpr ⟨by decide, by decide⟩
  revert nothing
  decide

end AnneDeBreuil
