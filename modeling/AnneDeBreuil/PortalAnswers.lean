import AnneDeBreuil.PortalServer
import AnneDeBreuil.Purge

namespace AnneDeBreuil

section

variable {ν β : Type} {setup : PortalSetup ν} {libs : StoreLibs β}

theorem insert_names (reply : HttpReply) (header : String × String) (name : String) :
    (reply.insert header).headers.filter (·.1 = name) =
      if header.1 = name then [header] else reply.headers.filter (·.1 = name) := by
  unfold HttpReply.insert
  rw [List.filter_append, List.filter_filter]
  by_cases same : header.1 = name
  · rw [if_pos same, List.filter_cons_of_pos (by simpa using same), List.filter_nil]
    have gone : reply.headers.filter (fun h => decide (h.1 = name) && decide (h.1 ≠ header.1)) = [] := by
      rw [List.filter_eq_nil_iff]
      intro h _
      simp [same]
    rw [gone, List.nil_append]
  · rw [if_neg same, List.filter_cons_of_neg (by simpa using same), List.filter_nil, List.append_nil]
    refine List.filter_congr fun h _ => ?_
    by_cases named : h.1 = name
    · simp [named, Ne.symm same]
    · simp [named]

/-- Of the headers inserted under a name the last one stands. -/
theorem insertAll_names (reply : HttpReply) (headers : List (String × String)) (name : String) :
    (headers.foldl .insert reply).headers.filter (·.1 = name) =
      (headers.reverse.find? (·.1 = name)).elim (reply.headers.filter (·.1 = name)) fun header => [header] := by
  induction headers using List.reverseRecOn with
  | nil => rfl
  | append_singleton headers header ih =>
    rw [List.foldl_append, List.foldl_cons, List.foldl_nil, insert_names, List.reverse_append, List.reverse_singleton,
      List.singleton_append, List.find?_cons]
    by_cases named : header.1 = name
    · simp [named]
    · simp only [named, if_false, decide_false, ih]

/-- The headers that a reply carries whatever it is, each once, and the one that
it carries where the request came over a secure hop. -/
structure Hardened (crates : PortalCrates ν) (parts : HttpRequest ν) (reply : HttpReply) : Prop where
  always : ∀ header ∈ fixedHeaders, reply.headers.filter (·.1 = header.1) = [header]
  secure : reply.headers.filter (·.1 = hsts.1) = if forwardedHttps crates parts then [hsts] else []

theorem securityHeaders_hardened {crates : PortalCrates ν} (parts : HttpRequest ν) {response : HttpReply}
    (plain : ∀ header ∈ response.headers, header.1 ≠ hsts.1) :
    Hardened crates parts (securityHeaders crates parts response) := by
  have free : response.headers.filter (·.1 = hsts.1) = [] := by
    rw [List.filter_eq_nil_iff]
    intro header hheader
    simpa using plain header hheader
  have fixed : ∀ header ∈ fixedHeaders, fixedHeaders.reverse.find? (·.1 = header.1) = some header := by decide +kernel
  have other : fixedHeaders.reverse.find? (·.1 = hsts.1) = none := by decide +kernel
  have apart : ∀ header ∈ fixedHeaders, hsts.1 ≠ header.1 := by decide +kernel
  unfold securityHeaders
  dsimp only
  constructor
  · intro header hheader
    split
    next => rw [insert_names, if_neg (apart header hheader), insertAll_names, fixed header hheader, Option.elim_some]
    next => rw [insertAll_names, fixed header hheader, Option.elim_some]
  · split
    next => rw [insert_names, if_pos rfl]
    next => rw [insertAll_names, other, Option.elim_none, free]

/-- A reply of the routes names no header of the outermost layer's. -/
theorem dispatch_plain (store : SnapshotStore) (call : PortalCall ν) :
    ∀ header ∈ (dispatch setup store call).headers, header.1 ≠ hsts.1 := by
  have own : ∀ (reply : HttpReply), (∀ header ∈ reply.headers, header.1 ∈ ["content-type", "cache-control", "allow"]) →
      ∀ header ∈ reply.headers, header.1 ≠ hsts.1 := by
    intro reply names header hheader named
    have unlisted : hsts.1 ∉ ["content-type", "cache-control", "allow"] := by decide +kernel
    exact unlisted (named ▸ names header hheader)
  have handled : ∀ found, ∀ header ∈ (handleRoute setup store call.parts found).headers,
      header.1 ∈ ["content-type", "cache-control", "allow"] := by
    intro found
    unfold handleRoute
    split
    next => exact nofun
    next ctx _ =>
      split
      next => simp [htmxJs]
      next =>
        split
        next request _ =>
          intro header hheader
          obtain ⟨contentType, -, rfl⟩ := List.mem_map.mp hheader
          simp
        next => simp [rejectPath]
  refine own _ ?_
  unfold dispatch
  split
  next => exact nofun
  next found _ =>
    split
    next => exact handled found
    next => exact handled found
    next => simp

/-- The host that a request is about. -/
def PortalRequest.host? : PortalRequest → Option HostId
  | .fleetIndex => none
  | .hostDetailPage host => some host
  | .hostDetailFragment host => some host
  | .driftView host => some host
  | .scanDetail host _ => some host
  | .download host _ => some host

/-- Without the scope a request is refused before anything is read. -/
theorem route_forbidden {target : Target} {regexNew : String → Option FindIter} {renderers : Renderers}
    {store : SnapshotStore} {fontsMode : FontsMode} {ctx : AuthContext} {request : PortalRequest} {host : HostId}
    (about : request.host? = some host) (outside : host ∉ ctx.hostScopes) :
    route target regexNew renderers ⟨portalRepository store, fontsMode⟩ ctx request = ⟨403, none, []⟩ := by
  have list : (portalRepository store).listForHost ctx host = .error .forbidden := by
    simp [portalRepository, authorizingRepository, outside]
  have get : ∀ scan, (portalRepository store).getForHost ctx host scan = .error .forbidden := by
    intro scan
    simp [portalRepository, authorizingRepository, outside]
  have recent : recentSnapshots ctx host ⟨portalRepository store, fontsMode⟩ = .error .forbidden := by
    simp only [recentSnapshots, list]
    rfl
  have fragment : renderHostFragment renderers ctx host ⟨portalRepository store, fontsMode⟩ = .error .forbidden := by
    simp only [renderHostFragment, recent]
    rfl
  have stored : ∀ scan, storedSnapshot ctx host scan ⟨portalRepository store, fontsMode⟩ = .error .forbidden := by
    intro scan
    simp only [storedSnapshot, get]
    rfl
  cases request with
  | fleetIndex => cases about
  | hostDetailPage named =>
    cases about
    simp only [route, hostDetailPage, fragment]
    rfl
  | hostDetailFragment named =>
    cases about
    simp only [route, fragment]
    rfl
  | driftView named =>
    cases about
    simp only [route, driftView, recent]
    rfl
  | scanDetail named scan =>
    cases about
    simp only [route, scanDetail, stored]
    rfl
  | download named scan =>
    cases about
    simp only [route, download, stored]
    rfl

theorem fromRequestParts_eq (parts : HttpRequest ν) : fromRequestParts setup.crates setup.tokens parts.headers =
    (parts.authenticate setup.crates setup.tokens).elim (.error 401) .ok := by
  unfold fromRequestParts HttpRequest.authenticate
  cases (bearerToken setup.crates parts.headers).bind (setup.tokens.authenticate setup.crates) with
  | none => rfl
  | some ctx => rfl

/-- What every reply owes: the headers, nothing to a caller without a token, and
nothing about a host to a caller without the scope. -/
structure Answered (setup : PortalSetup ν) (call : PortalCall ν) (reply : HttpReply) : Prop where
  hardened : Hardened setup.crates call.parts reply
  stranger : call.parts.authenticate setup.crates setup.tokens = none →
    reply.status ∈ [401, 404, 405, 429] ∧ reply.body = []
  outside : ∀ ctx found request host, call.parts.authenticate setup.crates setup.tokens = some ctx →
    matchRoute call.path = some found → found.request setup.router = some request → request.host? = some host →
      host ∉ ctx.hostScopes → reply.status ∈ [403, 405, 429] ∧ reply.body = []

theorem securityHeaders_rest (crates : PortalCrates ν) (parts : HttpRequest ν) (response : HttpReply) :
    (securityHeaders crates parts response).status = response.status ∧
      (securityHeaders crates parts response).body = response.body := by
  unfold securityHeaders
  dsimp only
  split
  next => exact ⟨rfl, rfl⟩
  next => exact ⟨rfl, rfl⟩

theorem dispatch_stranger {store : SnapshotStore} {call : PortalCall ν}
    (unknown : call.parts.authenticate setup.crates setup.tokens = none) :
    (dispatch setup store call).status ∈ [401, 404, 405, 429] ∧ (dispatch setup store call).body = [] := by
  have refused : ∀ found, handleRoute setup store call.parts found = ⟨401, [], []⟩ := by
    intro found
    unfold handleRoute
    rw [fromRequestParts_eq, unknown]
    rfl
  unfold dispatch
  split
  next => simp
  next found _ =>
    rw [refused]
    cases call.method with
    | get => simp
    | head => simp
    | other => simp

theorem dispatch_outside {store : SnapshotStore} {call : PortalCall ν} {ctx : AuthContext} {found : RouteMatch}
    {request : PortalRequest} {host : HostId} (known : call.parts.authenticate setup.crates setup.tokens = some ctx)
    (matched : matchRoute call.path = some found) (read : found.request setup.router = some request)
    (about : request.host? = some host) (outside : host ∉ ctx.hostScopes) :
    (dispatch setup store call).status ∈ [403, 405, 429] ∧ (dispatch setup store call).body = [] := by
  have page : found ≠ .htmxJs := by
    rintro rfl
    cases read
  have refused : handleRoute setup store call.parts found = ⟨403, [], []⟩ := by
    unfold handleRoute
    rw [fromRequestParts_eq, known, Option.elim_some]
    dsimp only
    rw [if_neg page, read]
    dsimp only
    rw [route_forbidden about outside]
    rfl
  unfold dispatch
  rw [matched]
  dsimp only
  rw [refused]
  cases call.method with
  | get => simp
  | head => simp
  | other => simp

/-- Every reply of a layered route is as owed, whether the limiter let it through or not. -/
theorem respond_answered (store : SnapshotStore) (call : PortalCall ν) (allowed : Bool) :
    Answered setup call (respond setup store call allowed) := by
  unfold respond
  cases allowed with
  | false =>
    obtain ⟨status, body⟩ := securityHeaders_rest setup.crates call.parts ⟨429, [], []⟩
    refine ⟨securityHeaders_hardened call.parts nofun, fun _ => ?_, fun _ _ _ _ _ _ _ _ _ => ?_⟩
    · exact ⟨by rw [if_neg nofun, status]; simp, body⟩
    · exact ⟨by rw [if_neg nofun, status]; simp, body⟩
  | true =>
    rw [if_pos rfl]
    obtain ⟨status, body⟩ := securityHeaders_rest setup.crates call.parts (dispatch setup store call)
    refine ⟨securityHeaders_hardened call.parts (dispatch_plain store call), fun unknown => ?_, ?_⟩
    · rw [status, body]
      exact dispatch_stranger unknown
    · intro ctx found request host known matched read about outside
      rw [status, body]
      exact dispatch_outside known matched read about outside

/-- In every run, whatever the limiter and the store have come to, every reply
carries the headers, a caller without a token gets no content, and neither does
one that asks about a host outside its token's scopes. -/
theorem portal_answers {world : PortalWorld β} {events : List (PortalEvent ν)} {call : PortalCall ν} {now : Nat}
    {reply : HttpReply}
    (h : (.call call now, some reply) ∈ events.zip (replies (serve setup libs) world events)) :
    Answered setup call reply := by
  obtain ⟨t, ht⟩ := reply_from h
  rw [Option.some.inj ht]
  exact respond_answered (fsSnapshotStore libs t.dir) call _

end

/-- The auditor asks about the first host. -/
theorem portal_answers_shared : ∃ reply, (.call (firstHostCall "beta") 0, some reply) ∈
      sharedRun.zip (replies (serve sharedPortal taggedLibs) (.start sharedPortal) sharedRun) ∧
    Answered sharedPortal (firstHostCall "beta") reply ∧ reply.status = 403 ∧ reply.body = [] := by
  have second : (.call (firstHostCall "beta") 0,
      some (respond sharedPortal (fsSnapshotStore taggedLibs (runPuts taggedLibs (.fresh _) [⟨⟨2⟩, foreignScan ⟨8⟩ 1⟩]))
        (firstHostCall "beta") true)) ∈
      sharedRun.zip (replies (serve sharedPortal taggedLibs) (.start sharedPortal) sharedRun) :=
    List.mem_cons_of_mem _ List.mem_cons_self
  exact ⟨_, second, portal_answers second, by decide +kernel, by decide +kernel⟩

end AnneDeBreuil
