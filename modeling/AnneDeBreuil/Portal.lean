import AnneDeBreuil.PortalRepository
import AnneDeBreuil.ReportModel

namespace AnneDeBreuil

inductive FontsMode
  | embed
  | system
deriving DecidableEq, Repr

structure FleetIndexTemplate where
  tokensCss : Utf8
  assetVersion : Utf8
  hosts : List HostId
deriving DecidableEq, Repr

structure ScanRow where
  scanId : ScanId
  collectedAt : Utf8
  strategyLabel : String
  endpointCount : Nat
deriving DecidableEq, Repr

structure HostFragmentTemplate where
  hostId : HostId
  scans : List ScanRow
deriving DecidableEq, Repr

structure HostPageTemplate where
  tokensCss : Utf8
  hostId : HostId
  fragmentHtml : Utf8
deriving DecidableEq, Repr

structure DriftRow where
  kindLabel : String
  endpointLabel : Option Utf8
  severityLabel : String
  severityClass : String
  severity : Severity
deriving DecidableEq, Repr

structure DriftTemplate where
  tokensCss : Utf8
  hostId : HostId
  insufficientHistory : Bool
  scanCount : Nat
  suppressedEphemeral : Nat
  entries : List DriftRow
deriving DecidableEq, Repr

def strategyLabel : TargetStrategy → String
  | .execute => "execute (authoritative)"
  | .probe => "probe (inferred)"
  | .localOnly => "local-only (authoritative)"

def reachabilityLabel : Reachability → String
  | .localOnly => "local only"
  | .blocked => "blocked"
  | .allowed => "allowed"
  | .defaultAction => "default action"
  | .indeterminate => "indeterminate"

def driftKindLabel : DriftKind → String
  | .endpointAppeared => "endpoint appeared"
  | .endpointDisappeared => "endpoint disappeared"
  | .reachabilityChanged before after =>
    "reachability changed: " ++ reachabilityLabel before ++ " -> " ++ reachabilityLabel after
  | .processChanged => "owning process changed"
  | .signatureChanged => "signature status changed"
  | .ruleSetChanged => "firewall rule set changed"

def severityLabel : Severity → String
  | .low => "low"
  | .medium => "medium"
  | .high => "high"
  | .critical => "critical"

def severityCssClass : Severity → String
  | .low => "severity-low"
  | .medium => "severity-medium"
  | .high => "severity-high"
  | .critical => "severity-critical"

def Protocol.display : Protocol → String
  | .tcp => "TCP"
  | .udp => "UDP"

/-- What turns the portal's data into text: the templates and the report
renderer, functions of what they are given, and the formatting and serializing
of the libraries. -/
structure Renderers where
  tokensCss : FontsMode → Except String Utf8
  assetVersion : Utf8
  fleetIndex : FleetIndexTemplate → Except String Utf8
  hostFragment : HostFragmentTemplate → Except String Utf8
  hostPage : HostPageTemplate → Except String Utf8
  drift : DriftTemplate → Except String Utf8
  htmlReport : ReportModel → FontsMode → Except String Utf8
  displayTime : OffsetDateTime → Utf8
  displayAddress : BindAddress → Utf8
  toVecPretty : ScanSnapshot → Except String Utf8

inductive PortalHttpError
  | forbidden
  | notFound
  | internal
deriving DecidableEq, Repr

def PortalHttpError.ofPortalError : PortalError → PortalHttpError
  | .forbidden => .forbidden
  | .store _ => .internal

structure Response where
  status : Nat
  contentType : Option String
  body : Utf8
deriving DecidableEq, Repr

def PortalHttpError.intoResponse : PortalHttpError → Response
  | .forbidden => ⟨403, none, []⟩
  | .notFound => ⟨404, none, []⟩
  | .internal => ⟨500, none, []⟩

def htmlResponse (body : Utf8) : Response := ⟨200, some "text/html; charset=utf-8", body⟩

def jsonResponse (body : Utf8) : Response := ⟨200, some "application/json", body⟩

/-- The `?` on a repository call. -/
def fromRepository {α : Type} (x : Except PortalError α) : Except PortalHttpError α :=
  x.mapError .ofPortalError

/-- The `?` on a rendering step. -/
def fromRenderer {α : Type} (x : Except String α) : Except PortalHttpError α :=
  x.mapError (fun _ => .internal)

def driftRow (renderers : Renderers) (entry : DriftEntry) : DriftRow where
  kindLabel := driftKindLabel entry.kind
  endpointLabel := entry.endpointKey.map (fun key =>
    utf8 key.protocol.display ++ utf8 " " ++ renderers.displayAddress key.bindAddress ++ utf8 ":" ++
      utf8 (toString key.port.get))
  severityLabel := severityLabel entry.severity
  severityClass := severityCssClass entry.severity
  severity := entry.severity

/-- Worst severity first, then by kind label. -/
def DriftRow.before (a b : DriftRow) : Prop :=
  b.severity.ctorIdx < a.severity.ctorIdx ∨
    (a.severity.ctorIdx = b.severity.ctorIdx ∧ utf8 a.kindLabel ≤ utf8 b.kindLabel)

instance : DecidableRel DriftRow.before := fun a b =>
  inferInstanceAs (Decidable (b.severity.ctorIdx < a.severity.ctorIdx ∨
    (a.severity.ctorIdx = b.severity.ctorIdx ∧ utf8 a.kindLabel ≤ utf8 b.kindLabel)))

def driftRows (renderers : Renderers) (entries : List DriftEntry) : List DriftRow :=
  (entries.map (driftRow renderers)).insertionSort DriftRow.before

structure PortalState where
  repository : SnapshotRepository
  fontsMode : FontsMode

section

variable (target : Target) (regexNew : String → Option FindIter) (renderers : Renderers)

def fleetIndex (ctx : AuthContext) (state : PortalState) : Except PortalHttpError Utf8 := do
  let tokensCss ← fromRenderer (renderers.tokensCss state.fontsMode)
  fromRenderer (renderers.fleetIndex
    ⟨tokensCss, renderers.assetVersion, sortByKey (fun host => host.uuid.toNat) ctx.hostScopes⟩)

/-- The newest first. -/
def recentSnapshots (ctx : AuthContext) (host : HostId) (state : PortalState) :
    Except PortalError (List ScanSnapshot) := do
  let scanIds ← state.repository.listForHost ctx host
  let snapshots ← scanIds.mapM (fun scanId => state.repository.getForHost ctx host scanId)
  pure (sortByKey (fun snapshot => -snapshot.collectedAt.unixTimestampNanos) snapshots.reduceOption)

def scanRow (snapshot : ScanSnapshot) : ScanRow where
  scanId := snapshot.scanId
  collectedAt := renderers.displayTime snapshot.collectedAt
  strategyLabel := strategyLabel snapshot.strategy
  endpointCount := snapshot.endpoints.length

def renderHostFragment (ctx : AuthContext) (host : HostId) (state : PortalState) :
    Except PortalHttpError Utf8 := do
  let snapshots ← fromRepository (recentSnapshots ctx host state)
  fromRenderer (renderers.hostFragment ⟨host, snapshots.map (scanRow renderers)⟩)

def hostDetailPage (ctx : AuthContext) (host : HostId) (state : PortalState) : Except PortalHttpError Utf8 := do
  let fragmentHtml ← renderHostFragment renderers ctx host state
  let tokensCss ← fromRenderer (renderers.tokensCss state.fontsMode)
  fromRenderer (renderers.hostPage ⟨tokensCss, host, fragmentHtml⟩)

/-- `get_for_host(..)?.ok_or(NotFound)?`. -/
def storedSnapshot (ctx : AuthContext) (host : HostId) (scan : ScanId) (state : PortalState) :
    Except PortalHttpError ScanSnapshot := do
  let found ← fromRepository (state.repository.getForHost ctx host scan)
  match found with
  | some snapshot => .ok snapshot
  | none => .error .notFound

def scanDetail (ctx : AuthContext) (host : HostId) (scan : ScanId) (state : PortalState) :
    Except PortalHttpError Utf8 := do
  let snapshot ← storedSnapshot ctx host scan state
  let model ← (ReportModel.build target regexNew [snapshot] none true).mapError (fun _ => .internal)
  fromRenderer (renderers.htmlReport model state.fontsMode)

def download (ctx : AuthContext) (host : HostId) (scan : ScanId) (state : PortalState) :
    Except PortalHttpError Utf8 := do
  let snapshot ← storedSnapshot ctx host scan state
  fromRenderer (renderers.toVecPretty snapshot)

def driftTemplate (tokensCss : Utf8) (host : HostId) (snapshots : List ScanSnapshot) : DriftTemplate :=
  match snapshots with
  | current :: baseline :: _ =>
    let report := diff target baseline current
    ⟨tokensCss, host, false, snapshots.length, report.suppressedEphemeral,
      driftRows renderers report.entries⟩
  | _ => ⟨tokensCss, host, true, snapshots.length, 0, []⟩

def driftView (ctx : AuthContext) (host : HostId) (state : PortalState) : Except PortalHttpError Utf8 := do
  let snapshots ← fromRepository (recentSnapshots ctx host state)
  let tokensCss ← fromRenderer (renderers.tokensCss state.fontsMode)
  fromRenderer (renderers.drift (driftTemplate target renderers tokensCss host snapshots))

end

/-- The routes that read for a caller; the vendored script asset is left out. -/
inductive PortalRequest
  | fleetIndex
  | hostDetailPage (host : HostId)
  | hostDetailFragment (host : HostId)
  | driftView (host : HostId)
  | scanDetail (host : HostId) (scan : ScanId)
  | download (host : HostId) (scan : ScanId)
deriving DecidableEq, Repr

def respondWith (into : Utf8 → Response) : Except PortalHttpError Utf8 → Response
  | .ok body => into body
  | .error error => error.intoResponse

/-- The router, once the caller is authenticated. -/
def route (target : Target) (regexNew : String → Option FindIter) (renderers : Renderers) (state : PortalState)
    (ctx : AuthContext) : PortalRequest → Response
  | .fleetIndex => respondWith htmlResponse (fleetIndex renderers ctx state)
  | .hostDetailPage host => respondWith htmlResponse (hostDetailPage renderers ctx host state)
  | .hostDetailFragment host => respondWith htmlResponse (renderHostFragment renderers ctx host state)
  | .driftView host => respondWith htmlResponse (driftView target renderers ctx host state)
  | .scanDetail host scan => respondWith htmlResponse (scanDetail target regexNew renderers ctx host scan state)
  | .download host scan => respondWith jsonResponse (download renderers ctx host scan state)

end AnneDeBreuil
