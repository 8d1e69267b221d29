import AnneDeBreuil.Callouts
import AnneDeBreuil.CsvText
import AnneDeBreuil.MappedListeners
import AnneDeBreuil.NftIdentity
import AnneDeBreuil.SerdeJson

namespace AnneDeBreuil

/-- Commas, quotes, and line ends. -/
def csvDialect : CsvDialect UInt8 := ⟨44, 34, 10, 13, by decide⟩

/-- The `csv` crate: what a writer without headers into a buffer leaves there of these records. -/
structure CsvCrate where
  intoInner : List (List Utf8) → Except String Utf8

/-- What the crate promises: records of as many fields each are written, and so that they are read back. -/
def CsvCrate.Lawful (csv : CsvCrate) : Prop :=
  ∀ (width : Nat) (records : List (List Utf8)), 0 < width → (∀ record ∈ records, record.length = width) →
    ∃ bytes, csv.intoInner records = .ok bytes ∧ CsvReader.start.read csvDialect bytes = records

def csvHeaders : List String :=
  ["host_id", "protocol", "bind_address", "port", "process_path", "hosted_services", "signature_status", "exposure",
    "reachability"]

structure EndpointRow where
  hostId : String
  protocol : String
  bindAddress : String
  port : UInt16
  processPath : String
  hostedServices : String
  signatureStatus : String
  exposure : String
  reachability : String
deriving DecidableEq, Repr

def signatureStatusText : SignatureStatus → String
  | .signed publisher => "Signed(" ++ publisher.asStr ++ ")"
  | .unsigned => "Unsigned"
  | .unknown => "Unknown"
  | .notApplicable => "NotApplicable"

def exposureText : Exposure → String
  | .loopback => "Loopback"
  | .specificInterface => "SpecificInterface"
  | .allInterfaces => "AllInterfaces"

def reachabilityText : Reachability → String
  | .localOnly => "LocalOnly"
  | .blocked => "Blocked"
  | .allowed => "Allowed"
  | .defaultAction => "DefaultAction"
  | .indeterminate => "Indeterminate"

/-- The services' names in the order of their bytes. -/
def sortedServices (services : List ServiceName) : List String := sortByKey utf8 (services.map ServiceName.asStr)

def joinedServices (services : List ServiceName) : String := ";".intercalate (sortedServices services)

def pathText (path : Option ProcessPath) : String := (path.map ProcessPath.asStr).getD ""

def EndpointRow.fromView (hostId : HostId) (endpoint : EndpointView) : EndpointRow where
  hostId := uuidText hostId.uuid
  protocol := endpoint.protocol.display
  bindAddress := endpoint.bindAddress.ip.display
  port := endpoint.port.get
  processPath := pathText endpoint.processPath
  hostedServices := joinedServices endpoint.hostedServices
  signatureStatus := signatureStatusText endpoint.signatureStatus
  exposure := exposureText endpoint.exposure
  reachability := reachabilityText endpoint.reachability

/-- The fields in their declared order, as `serialize` writes them. -/
def EndpointRow.fields (row : EndpointRow) : List Utf8 :=
  [utf8 row.hostId, utf8 row.protocol, utf8 row.bindAddress, utf8 (toString row.port.toNat), utf8 row.processPath,
    utf8 row.hostedServices, utf8 row.signatureStatus, utf8 row.exposure, utf8 row.reachability]

def ReportModel.rows (model : ReportModel) : List EndpointRow :=
  model.hosts.flatMap fun host => host.endpoints.map (.fromView host.hostId)

def renderCsv (csv : CsvCrate) (model : ReportModel) : Except String Utf8 :=
  csv.intoInner (csvHeaders.map utf8 :: model.rows.map EndpointRow.fields)

def sarifSchemaUri : String :=
  "https://raw.githubusercontent.com/oasis-tcs/sarif-spec/master/Schemata/sarif-schema-2.1.0.json"

/-- `(ruleId, name, shortDescription)` of each kind. -/
def driftRules : List (String × String × String) :=
  [("endpoint-appeared", "EndpointAppeared",
      "A listening endpoint present in the current scan was absent from the baseline."),
    ("endpoint-disappeared", "EndpointDisappeared",
      "A listening endpoint present in the baseline is absent from the current scan."),
    ("reachability-changed", "ReachabilityChanged",
      "The same endpoint's reachability verdict differs between the baseline and current scan."),
    ("process-changed", "ProcessChanged", "The same endpoint's owning process identity changed between scans."),
    ("signature-changed", "SignatureChanged",
      "The same endpoint's binary signature status changed between scans."),
    ("rule-set-changed", "RuleSetChanged", "The host's firewall rule set itself changed between scans.")]

def driftRuleId : DriftKind → String
  | .endpointAppeared => "endpoint-appeared"
  | .endpointDisappeared => "endpoint-disappeared"
  | .reachabilityChanged _ _ => "reachability-changed"
  | .processChanged => "process-changed"
  | .signatureChanged => "signature-changed"
  | .ruleSetChanged => "rule-set-changed"

def sarifLevel : Severity → String
  | .low => "note"
  | .medium => "warning"
  | .high | .critical => "error"

def singleHostId (model : ReportModel) : Option HostId :=
  match model.hosts with
  | [only] => some only.hostId
  | _ => none

def endpointLabel (key : EndpointKey) : String :=
  key.protocol.display ++ ":" ++ key.bindAddress.ip.display ++ ":" ++ toString key.port.get.toNat

/-- `Debug` prints a verdict by its variant's name, as the table does. -/
def driftMessage (entry : DriftEntry) (hostId : Option HostId) : String :=
  let hostClause := (hostId.map fun id => " on host " ++ uuidText id.uuid).getD ""
  let subject := (entry.endpointKey.map fun key => "endpoint " ++ endpointLabel key).getD "the host"
  match entry.kind with
  | .endpointAppeared => subject ++ hostClause ++ " appeared; not present in the baseline scan."
  | .endpointDisappeared => subject ++ hostClause ++ " was present in the baseline scan and is no longer observed."
  | .reachabilityChanged before after =>
    "Reachability for " ++ subject ++ hostClause ++ " changed from " ++ reachabilityText before ++ " to " ++
      reachabilityText after ++ "."
  | .processChanged => "The owning process for " ++ subject ++ hostClause ++ " changed between scans."
  | .signatureChanged => "The binary signature status for " ++ subject ++ hostClause ++ " changed between scans."
  | .ruleSetChanged => "The firewall rule set" ++ hostClause ++ " changed between scans."

def fullyQualifiedName : Option HostId → Option EndpointKey → Option String
  | none, none => none
  | some host, none => some ("host:" ++ uuidText host.uuid)
  | none, some key => some (endpointLabel key)
  | some host, some key => some ("host:" ++ uuidText host.uuid ++ "/" ++ endpointLabel key)

def sarifLocations (hostId : Option HostId) (endpointKey : Option EndpointKey) : List Json :=
  (fullyQualifiedName hostId endpointKey).toList.map fun name =>
    .obj [("logicalLocations", .arr [.obj [("fullyQualifiedName", .str name), ("kind", .str "resource")]])]

/-- The members stand in the order of their names, as a `Map` keeps them. -/
def sarifResultForDriftEntry (entry : DriftEntry) (hostId : Option HostId) : Json :=
  let locations := sarifLocations hostId entry.endpointKey
  .obj ([("level", .str (sarifLevel entry.severity))] ++
    (if locations = [] then [] else [("locations", .arr locations)]) ++
    [("message", .obj [("text", .str (driftMessage entry hostId))]), ("ruleId", .str (driftRuleId entry.kind))])

def sarifRule (rule : String × String × String) : Json :=
  .obj [("id", .str rule.1), ("name", .str rule.2.1), ("shortDescription", .obj [("text", .str rule.2.2)])]

def sarifResults (model : ReportModel) : List Json :=
  model.drift.map fun entry => sarifResultForDriftEntry entry (singleHostId model)

def renderSarif (pkgVersion : String) (model : ReportModel) : Json :=
  .obj [("$schema", .str sarifSchemaUri),
    ("runs", .arr [.obj [("results", .arr (sarifResults model)),
      ("tool", .obj [("driver", .obj [("name", .str "anne-de-breuil"), ("rules", .arr (driftRules.map sarifRule)),
        ("version", .str pkgVersion)])])]]),
    ("version", .str "2.1.0")]

theorem decimal_digits (n : Nat) : (toString n).toList = Nat.toDigits 10 n := String.toList_ofList

theorem decimal_injective : Function.Injective (fun n : Nat => toString n) := by
  intro m n h
  have digits : Nat.toDigits 10 m = Nat.toDigits 10 n := by
    rw [← decimal_digits, ← decimal_digits]
    exact congrArg String.toList h
  have read : ∀ k ≤ m + n, readDigits 10 (Nat.toDigits 10 k).length (m + n) 0 0 (Nat.toDigits 10 k) =
      some (k, (Nat.toDigits 10 k).length, []) := fun k hk => readDigits_toDigits (by decide) (by decide) hk le_rfl
  have readM := read m (Nat.le_add_right m n)
  rw [digits, read n (Nat.le_add_left n m)] at readM
  exact (Prod.mk.inj (Option.some.inj readM)).1.symm

theorem protocolDisplay_injective : Function.Injective Protocol.display := by
  intro a b
  cases a <;> cases b <;> decide

theorem exposureText_injective : Function.Injective exposureText := by
  intro a b
  cases a <;> cases b <;> decide

theorem reachabilityText_injective : Function.Injective reachabilityText := by
  intro a b
  cases a <;> cases b <;> decide

theorem signatureStatusText_injective : Function.Injective signatureStatusText := by
  have signed : ∀ (publisher : PublisherName) (text : String), text.toList.head? ≠ some 'S' →
      signatureStatusText (.signed publisher) ≠ text := by
    rintro publisher text hhead rfl
    simp [signatureStatusText] at hhead
  intro a b h
  cases a with
  | signed publisher =>
    cases b with
    | signed publisher' =>
      simp only [signatureStatusText, String.append_left_inj, String.append_right_inj] at h
      exact congrArg _ (PublisherName.mk.injEq _ _ ▸ h)
    | unsigned => exact absurd h (signed publisher _ (by decide))
    | unknown => exact absurd h (signed publisher _ (by decide))
    | notApplicable => exact absurd h (signed publisher _ (by decide))
  | unsigned =>
    cases b with
    | signed publisher => exact absurd h.symm (signed publisher _ (by decide))
    | unsigned => rfl
    | unknown => exact absurd h (by decide)
    | notApplicable => exact absurd h (by decide)
  | unknown =>
    cases b with
    | signed publisher => exact absurd h.symm (signed publisher _ (by decide))
    | unsigned => exact absurd h (by decide)
    | unknown => rfl
    | notApplicable => exact absurd h (by decide)
  | notApplicable =>
    cases b with
    | signed publisher => exact absurd h.symm (signed publisher _ (by decide))
    | unsigned => exact absurd h (by decide)
    | unknown => exact absurd h (by decide)
    | notApplicable => rfl

/-- What a line of the table is of: all that the report has of an endpoint but
for its rules and its command line. -/
structure ShownEndpoint where
  hostId : HostId
  protocol : Protocol
  bindAddress : BindAddress
  port : Port
  processPath : Option ProcessPath
  hostedServices : List String
  signatureStatus : SignatureStatus
  exposure : Exposure
  reachability : Reachability
deriving DecidableEq, Repr

def ShownEndpoint.of (hostId : HostId) (endpoint : EndpointView) : ShownEndpoint where
  hostId := hostId
  protocol := endpoint.protocol
  bindAddress := endpoint.bindAddress
  port := endpoint.port
  processPath := endpoint.processPath
  hostedServices := sortedServices endpoint.hostedServices
  signatureStatus := endpoint.signatureStatus
  exposure := endpoint.exposure
  reachability := endpoint.reachability

def ReportModel.shownEndpoints (model : ReportModel) : List ShownEndpoint :=
  model.hosts.flatMap fun host => host.endpoints.map (.of host.hostId)

def ShownEndpoint.fields (shown : ShownEndpoint) : List Utf8 :=
  [utf8 (uuidText shown.hostId.uuid), utf8 shown.protocol.display, utf8 shown.bindAddress.ip.display,
    utf8 (toString shown.port.get.toNat), utf8 (pathText shown.processPath), utf8 (";".intercalate shown.hostedServices),
    utf8 (signatureStatusText shown.signatureStatus), utf8 (exposureText shown.exposure),
    utf8 (reachabilityText shown.reachability)]

/-- No path or service without a name, and no semicolon in a service's name. -/
structure ShownEndpoint.Separable (shown : ShownEndpoint) : Prop where
  path : ∀ path ∈ shown.processPath, path.asStr ≠ ""
  named : ∀ name ∈ shown.hostedServices, name ≠ "" ∧ ';' ∉ name.toList

theorem rows_fields (model : ReportModel) :
    model.rows.map EndpointRow.fields = model.shownEndpoints.map ShownEndpoint.fields := by
  rw [ReportModel.rows, ReportModel.shownEndpoints, List.map_flatMap, List.map_flatMap]
  simp only [List.map_map]
  rfl

theorem pathText_inj {a b : Option ProcessPath} (ha : ∀ path ∈ a, path.asStr ≠ "") (hb : ∀ path ∈ b, path.asStr ≠ "")
    (h : pathText a = pathText b) : a = b := by
  cases a with
  | none =>
    cases b with
    | none => rfl
    | some path => exact absurd h.symm (hb path rfl)
  | some path =>
    cases b with
    | none => exact absurd h (ha path rfl)
    | some other => exact congrArg some (ProcessPath.mk.injEq _ _ ▸ h)

/-- Names without a semicolon are told from their text with semicolons between them. -/
theorem joined_inj {xs ys : List String} (hxs : ∀ name ∈ xs, name ≠ "" ∧ ';' ∉ name.toList)
    (hys : ∀ name ∈ ys, name ≠ "" ∧ ';' ∉ name.toList) (h : ";".intercalate xs = ";".intercalate ys) : xs = ys := by
  have letters : [';'].intercalate (xs.map String.toList) = [';'].intercalate (ys.map String.toList) := by
    have same := congrArg String.toList h
    rw [String.toList_intercalate, String.toList_intercalate] at same
    exact same
  have split : ∀ {names : List String}, (∀ name ∈ names, name ≠ "" ∧ ';' ∉ name.toList) →
      ([';'].intercalate (names.map String.toList)).splitOn ';' =
        if names = [] then [[]] else names.map String.toList := by
    intro names hnames
    by_cases none : names = []
    · subst none
      rfl
    · rw [if_neg none]
      have unbroken : ∀ letters ∈ names.map String.toList, ';' ∉ letters :=
        List.forall_mem_map.mpr fun name hname => (hnames name hname).2
      exact List.splitOn_intercalate ';' unbroken (by simpa using none)
  have texts := (split hxs).symm.trans ((congrArg (List.splitOn ';') letters).trans (split hys))
  have blank : ∀ {names : List String}, (∀ name ∈ names, name ≠ "" ∧ ';' ∉ name.toList) →
      [[]] ≠ names.map String.toList := by
    intro names hnames same
    obtain ⟨name, rest, rfl, hname, -⟩ := List.map_eq_cons_iff.mp same.symm
    exact (hnames name List.mem_cons_self).1 (String.toList_eq_nil_iff.mp hname)
  split at texts
  next hx =>
    split at texts
    next hy => rw [hx, hy]
    next => exact absurd texts (blank hys)
  next =>
    split at texts
    next => exact absurd texts.symm (blank hxs)
    next => exact (List.map_injective_iff.mpr fun _ _ => String.toList_inj.mp) texts

theorem ShownEndpoint.fields_inj {a b : ShownEndpoint} (ha : a.Separable) (hb : b.Separable) (h : a.fields = b.fields) :
    a = b := by
  simp only [ShownEndpoint.fields, List.cons.injEq, and_true, utf8_injective.eq_iff, protocolDisplay_injective.eq_iff,
    IpAddr.display_injective.eq_iff, signatureStatusText_injective.eq_iff, exposureText_injective.eq_iff,
    reachabilityText_injective.eq_iff, hostIdText_inj] at h
  obtain ⟨hhost, hprotocol, haddress, hport, hpath, hservices, hsignature, hexposure, hreachability⟩ := h
  have address : a.bindAddress = b.bindAddress := by
    cases ha : a.bindAddress
    cases hb : b.bindAddress
    rw [ha, hb] at haddress
    exact congrArg _ haddress
  have port : a.port = b.port := by
    have same := UInt16.toNat_inj.mp (decimal_injective hport)
    cases ha : a.port
    cases hb : b.port
    rw [ha, hb] at same
    exact congrArg _ same
  have path := pathText_inj ha.path hb.path hpath
  have services := joined_inj ha.named hb.named hservices
  cases a
  cases b
  simp_all only

theorem map_fields_inj {xs ys : List ShownEndpoint} (hxs : ∀ shown ∈ xs, shown.Separable)
    (hys : ∀ shown ∈ ys, shown.Separable) (h : xs.map ShownEndpoint.fields = ys.map ShownEndpoint.fields) : xs = ys := by
  induction xs generalizing ys with
  | nil => exact (List.map_eq_nil_iff.mp h.symm).symm
  | cons x xs ih =>
    cases ys with
    | nil => cases h
    | cons y ys =>
      rw [List.forall_mem_cons] at hxs hys
      obtain ⟨first, rest⟩ := List.cons.inj h
      rw [ShownEndpoint.fields_inj hxs.1 hys.1 first, ih hxs.2 hys.2 rest]

theorem renderCsv_ok {csv : CsvCrate} (lawful : csv.Lawful) (model : ReportModel) : ∃ bytes, renderCsv csv model = .ok bytes ∧
    CsvReader.start.read csvDialect bytes = csvHeaders.map utf8 :: model.shownEndpoints.map ShownEndpoint.fields := by
  rw [renderCsv, rows_fields]
  refine lawful 9 _ (by decide) (List.forall_mem_cons.mpr ⟨rfl, ?_⟩)
  rw [List.forall_mem_map]
  exact fun shown _ => rfl

/-- The table is read back as its header and its rows in the report's order. Reports that show the same
endpoints have one table; and reports with one table show the same endpoints, if the services can be
told apart where they are joined. -/
theorem renderCsv_faithful {csv : CsvCrate} (lawful : csv.Lawful) (model : ReportModel) :
    ∃ bytes, renderCsv csv model = .ok bytes ∧
      CsvReader.start.read csvDialect bytes = csvHeaders.map utf8 :: model.shownEndpoints.map ShownEndpoint.fields ∧
      ∀ model' : ReportModel, (model.shownEndpoints = model'.shownEndpoints → renderCsv csv model' = .ok bytes) ∧
        ((∀ shown ∈ model.shownEndpoints, shown.Separable) → (∀ shown ∈ model'.shownEndpoints, shown.Separable) →
          renderCsv csv model' = .ok bytes → model.shownEndpoints = model'.shownEndpoints) := by
  obtain ⟨bytes, rendered, read⟩ := renderCsv_ok lawful model
  refine ⟨bytes, rendered, read, fun model' => ⟨fun same => ?_, fun separable separable' same => ?_⟩⟩
  · rw [← rendered, renderCsv, renderCsv, rows_fields, rows_fields, same]
  · obtain ⟨bytes', rendered', read'⟩ := renderCsv_ok lawful model'
    obtain rfl := Except.ok.inj (rendered'.symm.trans same)
    exact map_fields_inj separable separable' (List.cons.inj (read.symm.trans read')).2

/-- Every record in the layout, by a writer that quotes where it must. -/
def quotingCsv : CsvCrate := ⟨fun records => .ok (records.flatMap (writeRecord csvDialect))⟩

theorem quotingCsv_lawful : quotingCsv.Lawful := by
  intro width records some widths
  refine ⟨_, rfl, read_writeRecords fun record hrecord => ?_⟩
  rintro rfl
  exact absurd (widths [] hrecord) (Nat.ne_of_lt some)

/-- Two services on one listener, under a path with a comma. -/
def servicesModel (names : List String) : ReportModel where
  hosts := [⟨⟨1⟩, ⟨7⟩, ⟨0, 0⟩, "1.0.0", .execute, .authoritative,
    [⟨.tcp, ⟨.v4 0⟩, ⟨443⟩, some ⟨"C:\\a,b.exe"⟩, names.map .mk, .unsigned, .allInterfaces, .blocked, [], none, []⟩], []⟩]
  drift := []
  rollup := ⟨1, ⟨0, 0, 1⟩, ⟨0, 1, 0, 0, 0⟩, 1, 0, 0, ⟨0, 0, 0, 0⟩⟩
  redactionEnabled := true

theorem renderCsv_faithful_services : ∃ bytes, renderCsv quotingCsv (servicesModel ["http", "cache"]) = .ok bytes ∧
    (CsvReader.start.read csvDialect bytes).length = 2 ∧
    renderCsv quotingCsv (servicesModel ["cache", "http"]) = .ok bytes ∧
    renderCsv quotingCsv (servicesModel ["http"]) ≠ .ok bytes := by
  obtain ⟨bytes, rendered, read, tells⟩ := renderCsv_faithful quotingCsv_lawful (servicesModel ["http", "cache"])
  have two : (servicesModel ["http", "cache"]).shownEndpoints = (servicesModel ["cache", "http"]).shownEndpoints := by decide
  have separable : ∀ names, (∀ name ∈ sortedServices (names.map .mk), name ≠ "" ∧ ';' ∉ name.toList) →
      ∀ shown ∈ (servicesModel names).shownEndpoints, shown.Separable := by
    intro names named shown hshown
    obtain rfl := List.mem_singleton.mp hshown
    refine ⟨fun path hpath => ?_, named⟩
    cases hpath
    decide
  refine ⟨bytes, rendered, by rw [read]; rfl, (tells _).1 two, fun same => ?_⟩
  have shown := (tells _).2 (separable _ (by decide)) (separable _ (by decide)) same
  revert shown
  decide

theorem uuidText_length (uuid : Uuid) : (uuidText uuid).toList.length = 36 := by
  rw [uuidText, String.toList_ofList, List.length_map]
  rfl

end AnneDeBreuil
