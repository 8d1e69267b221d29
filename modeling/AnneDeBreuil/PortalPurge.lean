import AnneDeBreuil.PortalServer
import AnneDeBreuil.Purge

namespace AnneDeBreuil

section

variable {ν : Type} (setup : PortalSetup ν)

/-- The hosts that are in the scope of a token of a budget key. -/
def keyScopes (tokens : PortalTokens) (key : String) : List HostId :=
  (tokens.entries.filter fun entry => "token:" ++ entry.tokenId = key).flatMap TokenEntry.hostScopes

def keyOwns (tokens : PortalTokens) (key : String) (put : Put) : Bool :=
  (keyScopes tokens key).contains put.snapshot.hostId

/-- What a caller of a budget key can know of: the calls on that budget, and the
scans of the hosts in its scopes. -/
def concerns (key : String) : PortalEvent ν → Bool
  | .put put => keyOwns setup.tokens key put
  | .call call _ => budgetKey setup.crates setup.tokens call.parts = key

def putsOf (events : List (PortalEvent ν)) : List Put :=
  events.filterMap fun
    | .put put => some put
    | .call _ _ => none

/-- No put of a host in the scopes shares its key or its scan id with one of
another host. -/
def ScopesApart (tokens : PortalTokens) (key : String) (puts : List Put) : Prop :=
  ∀ own ∈ puts, ∀ other ∈ puts, keyOwns tokens key own = true → keyOwns tokens key other = false →
    own.key ≠ other.key ∧ own.snapshot.scanId ≠ other.snapshot.scanId

end

/-- Of what an identifier finds first, a part is found among its own, where the
identifier is not one of the rest too. -/
theorem find_purged {α : Type} {own hit wanted : α → Bool} {xs : List α} (within : ∀ x, wanted x = true → own x = true)
    (apart : ∀ x ∈ xs, ∀ y ∈ xs, own x = true → own y = false → ¬(hit x = true ∧ hit y = true)) :
    (xs.find? hit).filter wanted = ((xs.filter own).find? hit).filter wanted := by
  induction xs with
  | nil => rfl
  | cons x xs ih =>
    have tail := ih fun y hy z hz => apart y (List.mem_cons_of_mem _ hy) z (List.mem_cons_of_mem _ hz)
    cases hhit : hit x with
    | false =>
      rw [List.find?_cons_of_neg (by simp [hhit]), tail, List.filter_cons]
      split
      next => rw [List.find?_cons_of_neg (by simp [hhit])]
      next => rfl
    | true =>
      rw [List.find?_cons_of_pos hhit]
      cases hown : own x with
      | true => rw [List.filter_cons_of_pos hown, List.find?_cons_of_pos hhit]
      | false =>
        have unwanted : wanted x = false := by
          cases hwanted : wanted x with
          | false => rfl
          | true => exact absurd (within x hwanted) (by simp [hown])
        have nowhere : (xs.filter own).find? hit = none := by
          refine List.find?_eq_none.mpr fun y hy hhity => ?_
          obtain ⟨hyxs, hyown⟩ := List.mem_filter.mp hy
          exact apart y (List.mem_cons_of_mem _ hyxs) x (by simp) hyown hown ⟨hhity, hhit⟩
        rw [List.filter_cons_of_neg (by simp [hown]), nowhere]
        simp [Option.filter, unwanted]

section

variable {β : Type} {libs : StoreLibs β} {snapshots snapshots' : List ScanSnapshot} {dir dir' : StoreDir β}
  {log : List Put} {ctx : AuthContext} {own : Put → Bool}

/-- A caller's answers are those over its own part of the store. -/
theorem listForHost_purged (h : Represents libs snapshots dir log) (h' : Represents libs snapshots' dir' (log.filter own))
    (within : ∀ put, inScope ctx put = true → own put = true) :
    (portalRepository (fsSnapshotStore libs dir)).listForHost ctx =
      (portalRepository (fsSnapshotStore libs dir')).listForHost ctx := by
  funext host
  by_cases hscope : host ∈ ctx.hostScopes
  · have scopes : (log.filter own).filter (inScope ctx) = log.filter (inScope ctx) := by
      rw [List.filter_filter]
      refine List.filter_congr fun put _ => ?_
      cases hin : inScope ctx put with
      | true => simp [within put hin]
      | false => rfl
    rw [listForHost_log h hscope, listForHost_log h' hscope, scopes]
  · simp [portalRepository, authorizingRepository, hscope]

theorem getForHost_purged (h : Represents libs snapshots dir log) (h' : Represents libs snapshots' dir' (log.filter own))
    (within : ∀ put, inScope ctx put = true → own put = true)
    (apart : ∀ a ∈ log, ∀ b ∈ log, own a = true → own b = false → a.snapshot.scanId ≠ b.snapshot.scanId) :
    (portalRepository (fsSnapshotStore libs dir)).getForHost ctx =
      (portalRepository (fsSnapshotStore libs dir')).getForHost ctx := by
  funext host scan
  by_cases hscope : host ∈ ctx.hostScopes
  · have found : (log.find? fun put => put.snapshot.scanId = scan).filter (fun put => put.snapshot.hostId = host) =
        ((log.filter own).find? fun put => put.snapshot.scanId = scan).filter (fun put => put.snapshot.hostId = host) := by
      refine find_purged (fun put hput => within put ?_) fun a ha b hb hown hother both => apart a ha b hb hown hother ?_
      · simpa [inScope, of_decide_eq_true hput] using hscope
      · exact (of_decide_eq_true both.1).trans (of_decide_eq_true both.2).symm
    rw [getForHost_log h hscope, getForHost_log h' hscope, found]
  · simp [portalRepository, authorizingRepository, hscope]

/-- A handler asks the repository for its caller alone. -/
theorem route_congr {target : Target} {regexNew : String → Option FindIter} {renderers : Renderers}
    {repository repository' : SnapshotRepository} {fontsMode : FontsMode}
    (list : repository.listForHost ctx = repository'.listForHost ctx)
    (get : repository.getForHost ctx = repository'.getForHost ctx) (request : PortalRequest) :
    route target regexNew renderers ⟨repository, fontsMode⟩ ctx request =
      route target regexNew renderers ⟨repository', fontsMode⟩ ctx request := by
  have recent : ∀ host, recentSnapshots ctx host ⟨repository, fontsMode⟩ = recentSnapshots ctx host ⟨repository', fontsMode⟩ := by
    intro host
    simp only [recentSnapshots, list, get]
  have fragment : ∀ host, renderHostFragment renderers ctx host ⟨repository, fontsMode⟩ =
      renderHostFragment renderers ctx host ⟨repository', fontsMode⟩ := by
    intro host
    simp only [renderHostFragment, recent]
  have stored : ∀ host scan, storedSnapshot ctx host scan ⟨repository, fontsMode⟩ =
      storedSnapshot ctx host scan ⟨repository', fontsMode⟩ := by
    intro host scan
    simp only [storedSnapshot, get]
  cases request with
  | fleetIndex => rfl
  | hostDetailPage host => simp only [route, hostDetailPage, fragment]
  | hostDetailFragment host => simp only [route, fragment]
  | driftView host => simp only [route, driftView, recent]
  | scanDetail host scan => simp only [route, scanDetail, stored]
  | download host scan => simp only [route, download, stored]

end

section

variable {ν β : Type} {setup : PortalSetup ν} {libs : StoreLibs β} {key : String}

/-- Who a request is taken for has scopes of its budget key. -/
theorem scopes_of_parts {parts : HttpRequest ν} {ctx : AuthContext}
    (h : fromRequestParts setup.crates setup.tokens parts.headers = .ok ctx) :
    ∀ host ∈ ctx.hostScopes, host ∈ keyScopes setup.tokens (budgetKey setup.crates setup.tokens parts) := by
  have hauth : parts.authenticate setup.crates setup.tokens = some ctx := by
    unfold fromRequestParts at h
    unfold HttpRequest.authenticate
    split at h
    next found hfound =>
      cases h
      exact hfound
    next => cases h
  obtain ⟨presented, -, hpresented⟩ := Option.bind_eq_some_iff.mp hauth
  unfold PortalTokens.authenticate at hpresented
  dsimp only at hpresented
  rw [lastMatch_eq (fun entry : TokenEntry => constantTimeEq entry.secretHash (setup.crates.sha256 (utf8 presented))),
    Option.or_none] at hpresented
  obtain ⟨entry, hentry, rfl⟩ := Option.map_eq_some_iff.mp hpresented
  have member : entry ∈ setup.tokens.entries := List.mem_reverse.mp (List.mem_of_find?_eq_some hentry)
  intro host hhost
  unfold keyScopes budgetKey
  rw [hauth]
  exact List.mem_flatMap.mpr ⟨entry, List.mem_filter.mpr ⟨member, by simp⟩, hhost⟩

/-- A reply depends on the store by what is answered about the hosts in the scopes. -/
theorem respond_congr {store store' : SnapshotStore} (call : PortalCall ν) (allowed : Bool)
    (same : ∀ ctx : AuthContext,
      (∀ host ∈ ctx.hostScopes, host ∈ keyScopes setup.tokens (budgetKey setup.crates setup.tokens call.parts)) →
      (portalRepository store).listForHost ctx = (portalRepository store').listForHost ctx ∧
        (portalRepository store).getForHost ctx = (portalRepository store').getForHost ctx) :
    respond setup store call allowed = respond setup store' call allowed := by
  have handled : ∀ found, handleRoute setup store call.parts found = handleRoute setup store' call.parts found := by
    intro found
    unfold handleRoute
    cases hparts : fromRequestParts setup.crates setup.tokens call.parts.headers with
    | error status => rfl
    | ok ctx =>
      obtain ⟨list, get⟩ := same ctx (scopes_of_parts hparts)
      simp only [route_congr list get]
  simp only [respond, dispatch, handled]

theorem putsOf_snoc (past : List (PortalEvent ν)) (event : PortalEvent ν) :
    putsOf (past ++ [event]) = putsOf past ++ putsOf [event] := List.filterMap_append

theorem putsOf_concerns (events : List (PortalEvent ν)) :
    putsOf (events.filter (concerns setup key)) = (putsOf events).filter (keyOwns setup.tokens key) := by
  induction events with
  | nil => rfl
  | cons event events ih =>
    cases event with
    | put put =>
      have all : putsOf (.put put :: events) = put :: putsOf events := rfl
      rw [all, List.filter_cons, List.filter_cons, ← ih]
      have one : concerns setup key (.put put) = keyOwns setup.tokens key put := rfl
      rw [one]
      split
      next => rfl
      next => rfl
    | call call now =>
      rw [List.filter_cons]
      split
      next => exact ih
      next => exact ih

/-- The limiter's buckets agree on the key, and the stores hold the puts so far
and those of them that the key is concerned with. -/
structure KeyRelated (setup : PortalSetup ν) (libs : StoreLibs β) (key : String) (past : List (PortalEvent ν))
    (world purged : PortalWorld β) : Prop where
  budget : world.limiter.budgetPerWindow = setup.rateLimitPerMinute ∧
    purged.limiter.budgetPerWindow = setup.rateLimitPerMinute
  bucket : world.limiter.buckets key = purged.limiter.buckets key
  store : world.dir = runPuts libs (.fresh β) (putsOf past)
  purgedStore : purged.dir = runPuts libs (.fresh β) (putsOf (past.filter (concerns setup key)))

theorem putsOf_call (past : List (PortalEvent ν)) (call : PortalCall ν) (now : Nat) :
    putsOf (past ++ [.call call now]) = putsOf past := (putsOf_snoc past _).trans (List.append_nil _)

theorem putsOf_prefix {past events : List (PortalEvent ν)} (h : past <+: events) :
    ∃ rest, putsOf events = putsOf past ++ rest := by
  obtain ⟨rest, rfl⟩ := h
  exact ⟨putsOf rest, List.filterMap_append⟩

theorem firstPuts_owned {puts : List Put} (apart : ScopesApart setup.tokens key puts) :
    (firstPuts puts).filter (keyOwns setup.tokens key) = firstPuts (puts.filter (keyOwns setup.tokens key)) :=
  claimInOrder_filter _ fun a ha b hb own other => by
    simpa [Put.sameKey] using (apart a ha b hb own other).1

/-- The stores after the same events, whole and purged, answer the key's callers alike. -/
theorem stores_alike {events past : List (PortalEvent ν)} (lawful : libs.Lawful ((putsOf events).map Put.snapshot))
    (apart : ScopesApart setup.tokens key (putsOf events)) (upTo : past <+: events) {ctx : AuthContext}
    (scopes : ∀ host ∈ ctx.hostScopes, host ∈ keyScopes setup.tokens key) :
    (portalRepository (fsSnapshotStore libs (runPuts libs (.fresh β) (putsOf past)))).listForHost ctx =
      (portalRepository (fsSnapshotStore libs
        (runPuts libs (.fresh β) (putsOf (past.filter (concerns setup key)))))).listForHost ctx ∧
    (portalRepository (fsSnapshotStore libs (runPuts libs (.fresh β) (putsOf past)))).getForHost ctx =
      (portalRepository (fsSnapshotStore libs
        (runPuts libs (.fresh β) (putsOf (past.filter (concerns setup key)))))).getForHost ctx := by
  obtain ⟨rest, hrest⟩ := putsOf_prefix upTo
  have early : ∀ put ∈ putsOf past, put ∈ putsOf events := by
    intro put hput
    rw [hrest]
    exact List.mem_append_left _ hput
  have apartPast : ScopesApart setup.tokens key (putsOf past) := fun own hown other hother =>
    apart own (early own hown) other (early other hother)
  have whole := runPuts_represents lawful hrest
  have purged : Represents libs (((putsOf past).filter (keyOwns setup.tokens key)).map Put.snapshot)
      (runPuts libs (.fresh β) ((putsOf past).filter (keyOwns setup.tokens key)))
      ((firstPuts (putsOf past)).filter (keyOwns setup.tokens key)) := by
    rw [firstPuts_owned apartPast]
    refine runPuts_represents (lawful.subset ?_) (List.append_nil _).symm
    intro snapshot hsnapshot
    obtain ⟨put, hput, rfl⟩ := List.mem_map.mp hsnapshot
    exact List.mem_map_of_mem (early put (List.mem_filter.mp hput).1)
  have within : ∀ put, inScope ctx put = true → keyOwns setup.tokens key put = true := by
    intro put hput
    have hhost : put.snapshot.hostId ∈ ctx.hostScopes := by simpa [inScope] using hput
    simpa [keyOwns] using scopes _ hhost
  have member : ∀ put ∈ firstPuts (putsOf past), put ∈ putsOf past := fun put hput =>
    (claimInOrder_sublist _ _).subset hput
  rw [putsOf_concerns]
  exact ⟨listForHost_purged whole purged within, getForHost_purged whole purged within
    fun a ha b hb own other => (apartPast a (member a ha) b (member b hb) own other).2⟩

/-- What does not concern a key moves nothing that the key's replies come from,
and what concerns it moves both runs alike. -/
theorem portal_unwinding {events : List (PortalEvent ν)} (lawful : libs.Lawful ((putsOf events).map Put.snapshot))
    (apart : ScopesApart setup.tokens key (putsOf events)) :
    Unwinding (serve setup libs) (concerns setup key) events (KeyRelated setup libs key) where
  hidden past event world purged upTo hidden h := by
    have same : (past ++ [event]).filter (concerns setup key) = past.filter (concerns setup key) := by
      rw [List.filter_append, List.filter_cons_of_neg (by simp [hidden]), List.filter_nil, List.append_nil]
    cases event with
    | put put =>
      refine ⟨h.budget, h.bucket, ?_, h.purgedStore.trans (by rw [same])⟩
      show (putBlocking libs world.dir put.key put.snapshot).2 = _
      rw [h.store, putsOf_snoc]
      exact (runPuts_snoc libs (.fresh β) (putsOf past) put).symm
    | call call now =>
      have other : budgetKey setup.crates setup.tokens call.parts ≠ key := by simpa [concerns] using hidden
      refine ⟨⟨?_, h.budget.2⟩, ?_, h.store.trans (by rw [putsOf_call]), h.purgedStore.trans (by rw [same])⟩
      · show (world.limiter.checkCall _).1.budgetPerWindow = _
        rw [check_eq]
        exact h.budget.1
      · show (world.limiter.checkCall _).1.buckets key = _
        rw [check_eq, ← h.bucket]
        exact Function.update_of_ne (Ne.symm other) ..
  shown past event world purged upTo shown h := by
    have same : (past ++ [event]).filter (concerns setup key) = past.filter (concerns setup key) ++ [event] := by
      rw [List.filter_append, List.filter_cons_of_pos shown, List.filter_nil]
    cases event with
    | put put =>
      refine ⟨⟨h.budget, h.bucket, ?_, ?_⟩, rfl⟩
      · show (putBlocking libs world.dir put.key put.snapshot).2 = _
        rw [h.store, putsOf_snoc]
        exact (runPuts_snoc libs (.fresh β) (putsOf past) put).symm
      · show (putBlocking libs purged.dir put.key put.snapshot).2 = _
        rw [h.purgedStore, same, putsOf_snoc]
        exact (runPuts_snoc libs (.fresh β) (putsOf (past.filter (concerns setup key))) put).symm
    | call call now =>
      have own : budgetKey setup.crates setup.tokens call.parts = key := by simpa [concerns] using shown
      have counted : world.limiter.buckets (enforceCall setup.crates setup.tokens (call.parts, now)).1 =
          purged.limiter.buckets (enforceCall setup.crates setup.tokens (call.parts, now)).1 := by
        show world.limiter.buckets (budgetKey setup.crates setup.tokens call.parts) =
          purged.limiter.buckets (budgetKey setup.crates setup.tokens call.parts)
        rw [own]
        exact h.bucket
      have allowed : (world.limiter.checkCall (enforceCall setup.crates setup.tokens (call.parts, now))).2 =
          (purged.limiter.checkCall (enforceCall setup.crates setup.tokens (call.parts, now))).2 := by
        rw [check_eq, check_eq, h.budget.1, h.budget.2]
        simp only [keyed, counted]
      refine ⟨⟨⟨?_, ?_⟩, ?_, h.store.trans (by rw [putsOf_call]), ?_⟩, ?_⟩
      · show (world.limiter.checkCall _).1.budgetPerWindow = _
        rw [check_eq]
        exact h.budget.1
      · show (purged.limiter.checkCall _).1.budgetPerWindow = _
        rw [check_eq]
        exact h.budget.2
      · show (world.limiter.checkCall _).1.buckets key = (purged.limiter.checkCall _).1.buckets key
        rw [check_eq, check_eq, h.budget.1, h.budget.2]
        simp only [keyed, enforceCall, own, Function.update_self, h.bucket]
      · show purged.dir = _
        rw [same, putsOf_call]
        exact h.purgedStore
      · show some (respond setup (fsSnapshotStore libs world.dir) call _) =
          some (respond setup (fsSnapshotStore libs purged.dir) call _)
        rw [allowed, h.store, h.purgedStore]
        refine congrArg some (respond_congr call _ fun ctx scopes => ?_)
        rw [own] at scopes
        exact stores_alike lawful apart ((List.prefix_append past [_]).trans upTo) scopes

end

/-- What a caller is answered in a run of the portal over a fresh store, it is
answered in the run of nothing but the calls on its own budget and the scans of
the hosts in its scopes. -/
theorem portal_purged {ν β : Type} (setup : PortalSetup ν) {libs : StoreLibs β} (key : String)
    {events : List (PortalEvent ν)} (lawful : libs.Lawful ((putsOf events).map Put.snapshot))
    (apart : ScopesApart setup.tokens key (putsOf events)) :
    seen (serve setup libs) (concerns setup key) (.start setup) events =
      (events.filter (concerns setup key)).zip
        (replies (serve setup libs) (.start setup) (events.filter (concerns setup key))) :=
  (portal_unwinding lawful apart).seen_purged ⟨⟨rfl, rfl⟩, rfl, rfl, rfl⟩

theorem portal_purged_shared :
    (seen (serve sharedPortal taggedLibs) (concerns sharedPortal "token:ops") (.start sharedPortal) sharedRun).map
        (fun answered => answered.2.map fun reply => (reply.status, reply.body)) =
      [none, some (200, utf8 (uuidText 7)), some (429, [])] ∧
    seen (serve sharedPortal taggedLibs) (concerns sharedPortal "token:ops") (.start sharedPortal) sharedRun =
      (sharedRun.filter (concerns sharedPortal "token:ops")).zip
        (replies (serve sharedPortal taggedLibs) (.start sharedPortal)
          (sharedRun.filter (concerns sharedPortal "token:ops"))) := by
  have apart : ScopesApart sharedPortal.tokens "token:ops" (putsOf sharedRun) := by
    unfold ScopesApart
    decide +kernel
  exact ⟨by decide +kernel, portal_purged sharedPortal "token:ops" (taggedLibs_lawful (by decide)) apart⟩

end AnneDeBreuil
