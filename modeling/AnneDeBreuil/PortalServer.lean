import AnneDeBreuil.Portal
import AnneDeBreuil.PortalTokens
import AnneDeBreuil.RateLimit
import AnneDeBreuil.TenantIsolation
import AnneDeBreuil.UuidText

namespace AnneDeBreuil

inductive Method
  | get
  | head
  | other
deriving DecidableEq, Repr

/-- A route of the table, with its parameters as they stand in the path. -/
inductive RouteMatch
  | fleetIndex
  | hostDetailPage (host : String)
  | hostDetailFragment (host : String)
  | driftView (host : String)
  | scanDetail (host scan : String)
  | download (host scan : String)
  | htmxJs
deriving DecidableEq, Repr

/-- What `axum` and the build give the router: the percent-decoding of a
parameter, the identifier that its text is read as, the text of the rejection
of parameters that are not read, and the vendored script. -/
structure RouterCrates where
  percentDecode : String → Option String
  uuidParseStr : String → Option Uuid
  pathRejection : RouteMatch → Utf8
  htmxJs : Utf8

/-- The route table; a parameter is never empty. -/
def matchRoute (path : String) : Option RouteMatch :=
  match (path.toList.splitOn '/').map String.ofList with
  | ["", ""] => some .fleetIndex
  | "" :: segments =>
    if "" ∈ segments then none
    else match segments with
      | ["hosts", host] => some (.hostDetailPage host)
      | ["hosts", host, "fragment"] => some (.hostDetailFragment host)
      | ["hosts", host, "drift"] => some (.driftView host)
      | ["hosts", host, "scans", scan] => some (.scanDetail host scan)
      | ["hosts", host, "scans", scan, "download"] => some (.download host scan)
      | ["assets", "htmx.min.js"] => some .htmxJs
      | _ => none
  | _ => none

structure HttpReply where
  status : Nat
  headers : List (String × String)
  body : Utf8
deriving DecidableEq, Repr

/-- `HeaderMap::insert`. -/
def HttpReply.insert (reply : HttpReply) (header : String × String) : HttpReply :=
  { reply with headers := reply.headers.filter (·.1 ≠ header.1) ++ [header] }

def HttpReply.ofResponse (response : Response) : HttpReply :=
  ⟨response.status, response.contentType.toList.map ("content-type", ·), response.body⟩

def csp : String :=
  "default-src 'self'; script-src 'self'; style-src 'self' 'unsafe-inline'; img-src 'self'; base-uri 'none'; " ++
    "form-action 'none'; frame-ancestors 'none'"

def fixedHeaders : List (String × String) :=
  [("content-security-policy", csp), ("x-content-type-options", "nosniff"), ("referrer-policy", "no-referrer"),
    ("x-frame-options", "DENY")]

def hsts : String × String := ("strict-transport-security", "max-age=31536000; includeSubDomains")

structure PortalCall (ν : Type) where
  method : Method
  path : String
  parts : HttpRequest ν

section

variable {ν : Type} (crates : PortalCrates ν)

def forwardedHttps (request : HttpRequest ν) : Bool :=
  ((request.headers "x-forwarded-proto").bind crates.toStr).any (eqIgnoreAsciiCase · "https")

/-- The outermost layer, over the response that came back. -/
def securityHeaders (request : HttpRequest ν) (response : HttpReply) : HttpReply :=
  let response := fixedHeaders.foldl .insert response
  if forwardedHttps crates request then response.insert hsts else response

end

section

variable (router : RouterCrates)

def pathUuid (param : String) : Option Uuid := (router.percentDecode param).bind router.uuidParseStr

/-- The `Path` extractor, and what the handler behind it is asked for. -/
def RouteMatch.request : RouteMatch → Option PortalRequest
  | .fleetIndex => some .fleetIndex
  | .hostDetailPage host => (pathUuid router host).map fun host => .hostDetailPage ⟨host⟩
  | .hostDetailFragment host => (pathUuid router host).map fun host => .hostDetailFragment ⟨host⟩
  | .driftView host => (pathUuid router host).map fun host => .driftView ⟨host⟩
  | .scanDetail host scan => do pure (.scanDetail ⟨← pathUuid router host⟩ ⟨← pathUuid router scan⟩)
  | .download host scan => do pure (.download ⟨← pathUuid router host⟩ ⟨← pathUuid router scan⟩)
  | .htmxJs => none

def htmxJs : HttpReply :=
  ⟨200, [("content-type", "text/javascript; charset=utf-8"), ("cache-control", "public, max-age=31536000, immutable")],
    router.htmxJs⟩

def rejectPath (found : RouteMatch) : HttpReply :=
  ⟨400, [("content-type", "text/plain; charset=utf-8")], router.pathRejection found⟩

end

/-- What a portal is set up with, its store and its limiter apart. -/
structure PortalSetup (ν : Type) where
  target : Target
  regexNew : String → Option FindIter
  renderers : Renderers
  router : RouterCrates
  crates : PortalCrates ν
  tokens : PortalTokens
  fontsMode : FontsMode
  rateLimitPerMinute : Nat

section

variable {ν β : Type} (setup : PortalSetup ν)

/-- A handler behind its extractors: the caller first, then the path. -/
def handleRoute (store : SnapshotStore) (parts : HttpRequest ν) (found : RouteMatch) : HttpReply :=
  match fromRequestParts setup.crates setup.tokens parts.headers with
  | .error status => ⟨status, [], []⟩
  | .ok ctx =>
    if found = .htmxJs then htmxJs setup.router
    else match found.request setup.router with
      | some request => .ofResponse (route setup.target setup.regexNew setup.renderers
          ⟨portalRepository store, setup.fontsMode⟩ ctx request)
      | none => rejectPath setup.router found

/-- A `get` route answers `HEAD` with the head of its answer. -/
def dispatch (store : SnapshotStore) (call : PortalCall ν) : HttpReply :=
  match matchRoute call.path with
  | none => ⟨404, [], []⟩
  | some found =>
    match call.method with
    | .get => handleRoute setup store call.parts found
    | .head => { handleRoute setup store call.parts found with body := [] }
    | .other => ⟨405, [("allow", "GET,HEAD")], []⟩

/-- The layers around the routes, for a call that the limiter lets through or not. -/
def respond (store : SnapshotStore) (call : PortalCall ν) (allowed : Bool) : HttpReply :=
  securityHeaders setup.crates call.parts (if allowed then dispatch setup store call else ⟨429, [], []⟩)

/-- What happens to a portal over a store: a scan is put into the store, or a
call comes in. -/
inductive PortalEvent (ν : Type)
  | put (put : Put)
  | call (call : PortalCall ν) (now : Nat)

structure PortalWorld (β : Type) where
  limiter : RateLimiter
  dir : StoreDir β

variable (libs : StoreLibs β)

def PortalWorld.start : PortalWorld β := ⟨.new setup.rateLimitPerMinute, .fresh β⟩

def serve (world : PortalWorld β) : PortalEvent ν → PortalWorld β × Option HttpReply
  | .put put => ({ world with dir := (putBlocking libs world.dir put.key put.snapshot).2 }, none)
  | .call call now =>
    let checked := world.limiter.checkCall (enforceCall setup.crates setup.tokens (call.parts, now))
    ({ world with limiter := checked.1 },
      some (respond setup (fsSnapshotStore libs world.dir) call checked.2))

end

/-- A portal with two tokens and one call a minute for each, that shows a host's
scans by their identifiers. -/
def sharedPortal : PortalSetup Utf8 where
  target := .other
  regexNew _ := none
  renderers := ⟨fun _ => .ok [], [], fun _ => .ok [],
    fun page => .ok (page.scans.flatMap fun row => utf8 (uuidText row.scanId.uuid)),
    fun page => .ok page.fragmentHtml, fun _ => .ok [], fun _ _ => .ok [], fun _ => [], fun _ => [], fun _ => .ok []⟩
  router := ⟨some, fun text => if text = uuidText 1 then some 1 else none, fun _ => [], []⟩
  crates := tabledPortal
  tokens := ⟨[⟨"ops", tabledPortal.sha256 (utf8 "alpha"), [⟨1⟩]⟩, ⟨"audit", tabledPortal.sha256 (utf8 "beta"), [⟨2⟩]⟩]⟩
  fontsMode := .system
  rateLimitPerMinute := 1

def firstHostCall (secret : String) : PortalCall Utf8 where
  method := .get
  path := "/hosts/" ++ uuidText 1 ++ "/fragment"
  parts := ⟨fun name => if name = "authorization" then tabledPortal.headerValue (utf8 ("Bearer " ++ secret)) else none, none⟩

def sharedRun : List (PortalEvent Utf8) :=
  [.put ⟨⟨2⟩, foreignScan ⟨8⟩ 1⟩, .call (firstHostCall "beta") 0, .put ⟨⟨1⟩, emptyScan ⟨7⟩ 0⟩,
    .call (firstHostCall "alpha") 1, .call (firstHostCall "alpha") 2]

end AnneDeBreuil
