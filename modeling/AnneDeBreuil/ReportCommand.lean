import AnneDeBreuil.HtmlReport
import AnneDeBreuil.ReportFormats
import AnneDeBreuil.ScanCommand
import AnneDeBreuil.TenantIsolation

namespace AnneDeBreuil

inductive ReportFormat
  | json
  | csv
  | sarif
  | html
deriving DecidableEq, Repr

structure ReportArgs where
  target : String
  format : ReportFormat
  output : Option FilePath
  fonts : FontsMode
  split : Option FilePath
deriving DecidableEq, Repr

/-- What one call of `anne report` meets: the files behind paths, the store at
`anne-snapshots` where there is one, and what serializes and renders. -/
structure ReportEnv where
  platform : Target
  regexNew : String → Option FindIter
  wire : WireLibs
  ids : IdCrates
  pkgVersion : String
  readFile : String → Except String Utf8
  store : Option (Except StoreError SnapshotStore)
  toVecPretty : ReportModel → Except String Utf8
  valueToVecPretty : Json → Except String Utf8
  csv : CsvCrate
  templates : HtmlTemplates

inductive ReportCommandError
  | parsingScanId (rawId : String)
  | noStore
  | store (error : StoreError)
  | noSnapshot (id : ScanId)
  | readingSnapshotFile (path source : String)
  | parsingFile (path source : String)
  | buildingModel (error : ReportError)
  | renderJson (source : String)
  | renderCsv (source : String)
  | serializeSarif (source : String)
  | html (error : HtmlRenderError)
deriving DecidableEq, Repr

/-- What is handed to its destination: the standard output or a file, whole, or
the directory of a split report. -/
inductive ReportRun
  | configOrArgError
  | writes (output : Option FilePath) (bytes : Utf8)
  | splits (model : ReportModel) (fonts : FontsMode) (dir : FilePath)
deriving DecidableEq, Repr

/-- By the length in bytes alone. -/
def looksLikeUuid (target : String) : Bool := (utf8 target).length = 36 || (utf8 target).length = 32

namespace ReportCommand

variable (env : ReportEnv)

def loadFromStore (rawId : String) : Except ReportCommandError ScanSnapshot :=
  match ScanId.fromStr env.ids rawId with
  | none => .error (.parsingScanId rawId)
  | some id =>
    match env.store with
    | none => .error .noStore
    | some opened => do
      let store ← opened.mapError .store
      match ← (store.get id).mapError .store with
      | some snapshot => .ok snapshot
      | none => .error (.noSnapshot id)

def loadFromPath (path : String) : Except ReportCommandError ScanSnapshot := do
  let bytes ← (env.readFile path).mapError (.readingSnapshotFile path)
  (ScanSnapshot.fromSlice env.wire bytes).mapError (.parsingFile path)

def load (target : String) : Except ReportCommandError ScanSnapshot :=
  if looksLikeUuid target then loadFromStore env target else loadFromPath env target

/-- A document that streams to the standard output is taken as a whole. -/
def render (args : ReportArgs) (model : ReportModel) : Except ReportCommandError ReportRun :=
  match args.format with
  | .json => (env.toVecPretty model).mapError .renderJson |>.map (.writes args.output)
  | .csv => (renderCsv env.csv model).mapError .renderCsv |>.map (.writes args.output)
  | .sarif =>
    (env.valueToVecPretty (renderSarif env.pkgVersion model)).mapError .serializeSarif |>.map (.writes args.output)
  | .html =>
    match args.split with
    | some dir => .ok (.splits model args.fonts dir)
    | none => (writeReportStreaming env.templates model args.fonts).mapError .html |>.map (.writes args.output)

def run (args : ReportArgs) : Except ReportCommandError ReportRun :=
  if args.split.isSome && args.format ≠ .html then .ok .configOrArgError
  else do
    let snapshot ← load env args.target
    let model ← (ReportModel.build env.platform env.regexNew [snapshot] none true).mapError .buildingModel
    render env args model

end ReportCommand

theorem hexDigit_ascii (n : Nat) : (hexDigit n).toNat < 128 := by
  have table : ∀ n < 16, (hexDigit n).toNat < 128 := by decide
  by_cases h : n < 16
  · exact table n h
  · have zero : hexDigit n = '0' := by
      rw [hexDigit, List.getD_eq_getElem?_getD, List.getElem?_eq_none (Nat.not_lt.mp h)]
      rfl
    rw [zero]
    decide

theorem looksLikeUuid_uuidText (uuid : Uuid) : looksLikeUuid (uuidText uuid) = true := by
  have ascii : ∀ c ∈ (uuidText uuid).toList, c.toNat < 128 := by
    intro c hc
    rw [uuidText, String.toList_ofList] at hc
    obtain ⟨group, -, rfl⟩ := List.mem_map.mp hc
    cases group with
    | none => exact (by decide : '-'.toNat < 128)
    | some i => exact hexDigit_ascii _
  have bytes : (utf8 (uuidText uuid)).length = 36 := (encode_length ascii).trans (uuidText_length uuid)
  simp [looksLikeUuid, bytes]

section

variable {env : ReportEnv} {snapshot : ScanSnapshot}

theorem load_stored {store : SnapshotStore} (parsed : env.ids.uuidParseStr (uuidText snapshot.scanId.uuid) = some snapshot.scanId.uuid)
    (opened : env.store = some (.ok store)) (held : store.get snapshot.scanId = .ok (some snapshot)) :
    ReportCommand.load env (uuidText snapshot.scanId.uuid) = .ok snapshot := by
  have read : ScanId.fromStr env.ids (uuidText snapshot.scanId.uuid) = some snapshot.scanId := by
    rw [ScanId.fromStr, trim_uuidText, parsed]
    rfl
  rw [ReportCommand.load, if_pos (looksLikeUuid_uuidText _), ReportCommand.loadFromStore, read, opened]
  simp only [Except.mapError, bind, Except.bind, held]

theorem load_emitted {path : String} {stdout : Utf8} (short : looksLikeUuid path = false)
    (file : env.readFile path = .ok stdout) (reads : ScanSnapshot.fromSlice env.wire stdout = .ok snapshot) :
    ReportCommand.load env path = .ok snapshot := by
  rw [ReportCommand.load, if_neg (by simp [short]), ReportCommand.loadFromPath, file]
  exact congrArg (Except.mapError _) reads

/-- What a report shows of an endpoint of a snapshot. -/
def ScanSnapshot.shown (snapshot : ScanSnapshot) (platform : Target) (endpoint : Endpoint) : ShownEndpoint :=
  ⟨snapshot.hostId, endpoint.protocol, endpoint.bindAddress, endpoint.port, endpoint.processPath,
    sortedServices endpoint.hostedServices, endpoint.signatureStatus, endpoint.exposure,
    (evaluate platform endpoint snapshot.firewallRules snapshot.profiles).reachability⟩

/-- A report of one scan shows its endpoints, in their order, with their verdicts. -/
theorem shownEndpoints_build {platform : Target} {regexNew : String → Option FindIter} {model : ReportModel}
    (h : ReportModel.build platform regexNew [snapshot] none true = .ok model) :
    model.shownEndpoints = snapshot.endpoints.map (snapshot.shown platform) := by
  cases h
  simp only [ReportModel.shownEndpoints, List.map_cons, List.map_nil, sortByKey, List.insertionSort_cons,
    List.insertionSort_nil, List.orderedInsert_nil, List.flatMap_cons, List.flatMap_nil, List.append_nil,
    buildHostSection, List.map_map]
  rfl

/-- What `scan --emit-json` prints where it succeeds. -/
theorem emitted_snapshot {scan : ScanCommandEnv} {args : ScanArgs} {stdout : Utf8} (emits : args.emitJson = true)
    (clean : ScanCommand.run scan args = .exits stdout none .clean) : ∃ config snapshot,
      ScanCommand.resolveConfig scan args = .ok config ∧ ScanCommand.scanHere scan args config = .ok snapshot ∧
        stdout = emitJson scan.wire snapshot := by
  unfold ScanCommand.run at clean
  cases hconfig : ScanCommand.resolveConfig scan args with
  | error e =>
    rw [hconfig] at clean
    cases clean
  | ok config =>
    rw [hconfig] at clean
    simp only [emits, if_true] at clean
    rcases runEmitJson_cases scan args config with ⟨-, refused⟩ | ⟨-, failed | ⟨snapshot, hscan, whole | ⟨n, -, -, part⟩⟩⟩
    · rw [refused] at clean
      cases clean
    · rw [failed] at clean
      cases clean
    · rw [whole] at clean
      exact ⟨config, snapshot, rfl, hscan, (ScanRun.exits.inj clean).1.symm⟩
    · rw [part] at clean
      cases clean

theorem run_loaded {args : ReportArgs} {snapshot : ScanSnapshot} (loaded : ReportCommand.load env args.target = .ok snapshot)
    (whole : args.split = none) : ∃ model, ReportModel.build env.platform env.regexNew [snapshot] none true = .ok model ∧
      ReportCommand.run env args = ReportCommand.render env args model := by
  refine ⟨_, rfl, ?_⟩
  unfold ReportCommand.run
  rw [whole, loaded]
  rfl

/-- The table that `anne report` writes of a scan's own output, from a file whose path it does not take for a scan id,
has a line for each endpoint of the scan, in their order, with its verdict. -/
theorem reportCsv_scan {scan : ScanCommandEnv} {scanArgs : ScanArgs} {args : ReportArgs} {stdout : Utf8}
    (emits : scanArgs.emitJson = true) (clean : ScanCommand.run scan scanArgs = .exits stdout none .clean)
    (reads : ∀ config snapshot, ScanCommand.resolveConfig scan scanArgs = .ok config →
      ScanCommand.scanHere scan scanArgs config = .ok snapshot → scan.wire.Reads snapshot)
    (same : env.wire = scan.wire) (lawful : env.csv.Lawful) (file : env.readFile args.target = .ok stdout)
    (short : looksLikeUuid args.target = false) (csv : args.format = .csv) (whole : args.split = none) :
    ∃ config snapshot bytes,
      ScanCommand.resolveConfig scan scanArgs = .ok config ∧ ScanCommand.scanHere scan scanArgs config = .ok snapshot ∧
      ReportCommand.run env args = .ok (.writes args.output bytes) ∧
      CsvReader.start.read csvDialect bytes =
        csvHeaders.map utf8 :: snapshot.endpoints.map fun endpoint => (snapshot.shown env.platform endpoint).fields := by
  obtain ⟨config, snapshot, hconfig, hscan, printed⟩ := emitted_snapshot emits clean
  have back : ScanSnapshot.fromSlice env.wire stdout = .ok snapshot := by
    rw [same, printed]
    exact ScanSnapshot.fromSlice_emitJson (reads config snapshot hconfig hscan)
  obtain ⟨model, built, runs⟩ := run_loaded (load_emitted short file back) whole
  obtain ⟨bytes, rendered, read⟩ := renderCsv_ok lawful model
  refine ⟨config, snapshot, bytes, hconfig, hscan, ?_, ?_⟩
  · rw [runs, ReportCommand.render, csv]
    dsimp only
    rw [rendered]
    rfl
  · rw [read, shownEndpoints_build built, List.map_map]
    rfl

theorem find_alone {α β : Type} {p : α → Bool} {f : α → β} {xs : List α} {x : α} (hx : x ∈ xs) (holds : p x = true)
    (alone : ∀ y ∈ xs, p y = true → f y = f x) : (xs.find? p).map f = some (f x) := by
  cases hfind : xs.find? p with
  | none => exact absurd holds (List.find?_eq_none.mp hfind x hx)
  | some y => exact congrArg some (alone y (List.mem_of_find?_eq_some hfind) (List.find?_some hfind))

/-- A report is the same of a snapshot's printed JSON and of the snapshot in a filesystem store that has no other scan
of its id, under any arguments but the target; unless the file's path is as long as a scan id, which it is then
taken for, whatever is in the file. -/
theorem report_sources_agree {β : Type} {libs : StoreLibs β} {puts : List Put} {put : Put} {path : String} {args : ReportArgs}
    (lawful : libs.Lawful (puts.map Put.snapshot)) (recorded : put ∈ firstPuts puts)
    (alone : ∀ other ∈ firstPuts puts, other.snapshot.scanId = put.snapshot.scanId → other.snapshot = put.snapshot)
    (opened : env.store = some (.ok (fsSnapshotStore libs (runPuts libs (.fresh β) puts))))
    (parsed : env.ids.uuidParseStr (uuidText put.snapshot.scanId.uuid) = some put.snapshot.scanId.uuid)
    (reads : env.wire.Reads put.snapshot) (file : env.readFile path = .ok (emitJson env.wire put.snapshot)) :
    (looksLikeUuid path = false → ReportCommand.run env { args with target := path } =
      ReportCommand.run env { args with target := uuidText put.snapshot.scanId.uuid }) ∧
    (looksLikeUuid path = true → ∀ readFile, ReportCommand.run { env with readFile := readFile } { args with target := path } =
      ReportCommand.run env { args with target := path }) := by
  constructor
  · intro short
    have represents := runPuts_represents lawful (List.append_nil puts).symm
    have held : (fsSnapshotStore libs (runPuts libs (.fresh β) puts)).get put.snapshot.scanId = .ok (some put.snapshot) := by
      show getBlocking libs _ _ = _
      rw [getBlocking_log represents, find_alone recorded (decide_eq_true rfl) fun other hother same =>
        alone other hother (of_decide_eq_true same)]
    have printed := load_emitted short file (ScanSnapshot.fromSlice_emitJson reads)
    have stored := load_stored parsed opened held
    simp only [ReportCommand.run, printed, stored]
    rfl
  · intro long readFile
    have unread : ReportCommand.load { env with readFile := readFile } path = ReportCommand.load env path := by
      rw [ReportCommand.load, ReportCommand.load, if_pos long, if_pos long]
      rfl
    simp only [ReportCommand.run, unread]
    rfl

end

def listenerPuts : List Put := [⟨⟨1⟩, listenerScan none⟩]

def listenerFiles (path : String) : Except String Utf8 :=
  if path = "scan.json" then .ok (emitJson (listenerWire none 0) (listenerScan none)) else .error "no such file"

theorem listenerFiles_scan : listenerFiles "scan.json" = .ok (emitJson (listenerWire none 0) (listenerScan none)) := if_pos rfl

/-- What `scan --emit-json` printed of a listener, in a file and in a store. -/
def listenerReport : ReportEnv where
  platform := .other
  regexNew _ := none
  wire := listenerWire none 0
  ids := ⟨listenerUuid, fun _ => 5⟩
  pkgVersion := "1.0.0"
  readFile := listenerFiles
  store := some (.ok (fsSnapshotStore taggedLibs (runPuts taggedLibs (.fresh _) listenerPuts)))
  toVecPretty _ := .ok []
  valueToVecPretty _ := .ok []
  csv := quotingCsv
  templates := ⟨fun _ => .ok [], fun _ _ => .ok [], fun _ _ => .ok []⟩

theorem reportCsv_scan_listener : ∃ bytes, ReportCommand.run listenerReport ⟨"scan.json", .csv, none, .system, none⟩ =
    .ok (.writes none bytes) ∧ (CsvReader.start.read csvDialect bytes).length = 2 := by
  let args : ReportArgs := ⟨"scan.json", .csv, none, .system, none⟩
  have file : listenerReport.readFile args.target = _ := listenerFiles_scan
  obtain ⟨config, snapshot, bytes, hconfig, hscan, runs, read⟩ :=
    reportCsv_scan rfl run_listener listenerCommand_reads rfl quotingCsv_lawful file (by decide) rfl rfl
  have default : ScanCommand.resolveConfig listenerCommand .emitJsonOnly = .ok .default := rfl
  cases default.symm.trans hconfig
  cases scanHere_listener.symm.trans hscan
  exact ⟨bytes, runs, by rw [read]; rfl⟩

def sarifArgs : ReportArgs := ⟨"", .sarif, none, .system, none⟩

theorem report_sources_agree_listener : ReportCommand.run listenerReport { sarifArgs with target := "scan.json" } =
    ReportCommand.run listenerReport { sarifArgs with target := uuidText (listenerScan none).scanId.uuid } := by
  have recorded : (⟨⟨1⟩, listenerScan none⟩ : Put) ∈ firstPuts listenerPuts := by decide
  have alone : ∀ other ∈ firstPuts listenerPuts, other.snapshot.scanId = (listenerScan none).scanId →
      other.snapshot = listenerScan none := by decide
  have stored : listenerReport.store = some (.ok (fsSnapshotStore taggedLibs (runPuts taggedLibs (.fresh _) listenerPuts))) := rfl
  have parsed : listenerReport.ids.uuidParseStr (uuidText (listenerScan none).scanId.uuid) =
      some (listenerScan none).scanId.uuid := by decide +kernel
  have reads : listenerReport.wire.Reads (listenerScan none) := listenerWire_reads none 0
  have file : listenerReport.readFile "scan.json" = .ok (emitJson listenerReport.wire (listenerScan none)) := listenerFiles_scan
  have lawful : taggedLibs.Lawful (listenerPuts.map Put.snapshot) := taggedLibs_lawful (by decide)
  exact (@report_sources_agree listenerReport _ taggedLibs listenerPuts ⟨⟨1⟩, listenerScan none⟩ "scan.json" sarifArgs
    lawful recorded alone stored parsed reads file).1 (by decide)

end AnneDeBreuil
