import AnneDeBreuil.FsStoreLog
import AnneDeBreuil.UuidText

namespace AnneDeBreuil

/-- A row of the `snapshots` table. -/
structure SnapshotRow (β : Type) where
  scanId : String
  hostId : String
  idempotencyKey : String
  snapshotJson : β
deriving DecidableEq, Repr

section

variable {β : Type} (crates : IdCrates) (libs : StoreLibs β)

/-- `INSERT INTO snapshots`: refused where the primary key or the unique column
already holds the row's value. -/
def insertRow (table : List (SnapshotRow β)) (row : SnapshotRow β) : Option (List (SnapshotRow β)) :=
  if table.any (fun other => other.scanId = row.scanId || other.idempotencyKey = row.idempotencyKey) then none
  else some (table ++ [row])

def scanIdColumn (text : String) : Except StoreError ScanId :=
  match ScanId.fromStr crates text with
  | some id => .ok id
  | none => .error (.corrupt "invalid uuid for ScanId")

def findByIdempotencyKey (table : List (SnapshotRow β)) (key : IdempotencyKey) :
    Except StoreError (Option ScanId) :=
  match table.find? (fun row => row.idempotencyKey = uuidText key.uuid) with
  | none => .ok none
  | some row => (scanIdColumn crates row.scanId).map some

/-- One `put`: its result, and the table it leaves. A refused insert rolls the
transaction back and looks for the row that won the key. -/
def putTx (table : List (SnapshotRow β)) (key : IdempotencyKey) (snapshot : ScanSnapshot) :
    Except StoreError ScanId × List (SnapshotRow β) :=
  match findByIdempotencyKey crates table key with
  | .error error => (.error error, table)
  | .ok (some existing) => (.ok existing, table)
  | .ok none =>
    match libs.toVec snapshot with
    | .error error => (.error (.serde error), table)
    | .ok json =>
      match insertRow table ⟨uuidText snapshot.scanId.uuid, uuidText snapshot.hostId.uuid, uuidText key.uuid, json⟩ with
      | some inserted => (.ok snapshot.scanId, inserted)
      | none =>
        match findByIdempotencyKey crates table key with
        | .error error => (.error error, table)
        | .ok (some existing) => (.ok existing, table)
        | .ok none => (.error (.corrupt "idempotency_key uniqueness conflict left no winning row"), table)

def getByScanId (table : List (SnapshotRow β)) (id : ScanId) : Except StoreError (Option ScanSnapshot) :=
  match table.find? (fun row => row.scanId = uuidText id.uuid) with
  | none => .ok none
  | some row => ((libs.fromSlice row.snapshotJson).mapError .serde).map some

def listByHost (table : List (SnapshotRow β)) (host : HostId) : Except StoreError (List ScanId) :=
  (sortByKey SnapshotRow.scanId (table.filter (fun row => row.hostId = uuidText host.uuid))).mapM
    (fun row => scanIdColumn crates row.scanId)

end

/-- A snapshot's body, or `blank` where it has none. -/
def bodyOf {β : Type} (libs : StoreLibs β) (blank : β) (snapshot : ScanSnapshot) : β :=
  match libs.toVec snapshot with
  | .ok json => json
  | .error _ => blank

def snapshotRowOf {β : Type} (libs : StoreLibs β) (blank : β) (put : Put) : SnapshotRow β :=
  ⟨uuidText put.snapshot.scanId.uuid, uuidText put.snapshot.hostId.uuid, uuidText put.key.uuid,
    bodyOf libs blank put.snapshot⟩

section

variable {β : Type} {crates : IdCrates} {libs : StoreLibs β} {blank : β} {snapshots : List ScanSnapshot}
  {log : List Put}

theorem mapM_eq_ok {ε α γ : Type} {f : α → Except ε γ} {g : α → γ} {xs : List α}
    (h : ∀ x ∈ xs, f x = .ok (g x)) : xs.mapM f = .ok (xs.map g) := by
  rw [mapM_eq_ok_iff, List.forall₂_map_right_iff, List.forall₂_same]
  exact h

theorem bodyOf_ok {snapshot : ScanSnapshot} {json : β} (h : libs.toVec snapshot = .ok json) :
    bodyOf libs blank snapshot = json := by
  simp [bodyOf, h]

theorem StoreLibs.Lawful.fromSlice_bodyOf (lawful : libs.Lawful snapshots) (blank : β) {snapshot : ScanSnapshot}
    (hs : snapshot ∈ snapshots) : libs.fromSlice (bodyOf libs blank snapshot) = .ok snapshot := by
  obtain ⟨json, hvec, hslice⟩ := lawful.roundTrip snapshot hs
  rw [bodyOf_ok hvec, hslice]

theorem scanIdColumn_text {id : ScanId} (h : crates.uuidParseStr (uuidText id.uuid) = some id.uuid) :
    scanIdColumn crates (uuidText id.uuid) = .ok id := by
  simp [scanIdColumn, ScanId.fromStr, trim_uuidText, h]

theorem find_key_row (key : IdempotencyKey) :
    (log.map (snapshotRowOf libs blank)).find? (fun row => row.idempotencyKey = uuidText key.uuid) =
      (log.find? (fun put => put.key = key)).map (snapshotRowOf libs blank) := by
  rw [List.find?_map]
  congr 2
  funext put
  exact decide_eq_decide.mpr keyText_inj

theorem find_scan_row (id : ScanId) :
    (log.map (snapshotRowOf libs blank)).find? (fun row => row.scanId = uuidText id.uuid) =
      (log.find? (fun put => put.snapshot.scanId = id)).map (snapshotRowOf libs blank) := by
  rw [List.find?_map]
  congr 2
  funext put
  exact decide_eq_decide.mpr scanIdText_inj

/-- A row is refused when its key or its scan id is taken. -/
theorem insertRow_log (libs : StoreLibs β) (blank : β) (log : List Put) (put : Put) :
    insertRow (log.map (snapshotRowOf libs blank)) (snapshotRowOf libs blank put) =
      if put.snapshot.scanId ∈ log.map (fun put => put.snapshot.scanId) ∨ put.key ∈ log.map Put.key then none
      else some ((log ++ [put]).map (snapshotRowOf libs blank)) := by
  have taken : (log.map (snapshotRowOf libs blank)).any (fun other =>
      other.scanId = (snapshotRowOf libs blank put).scanId ||
        other.idempotencyKey = (snapshotRowOf libs blank put).idempotencyKey) = true ↔
      put.snapshot.scanId ∈ log.map (fun put => put.snapshot.scanId) ∨ put.key ∈ log.map Put.key := by
    simp only [List.any_map, List.any_eq_true, Function.comp, Bool.or_eq_true, decide_eq_true_eq, List.mem_map]
    rw [← exists_or]
    refine exists_congr fun other => ?_
    rw [← and_or_left]
    exact and_congr_right fun _ => or_congr scanIdText_inj keyText_inj
  unfold insertRow
  split
  next h => rw [if_pos (taken.mp h)]
  next h => rw [if_neg (fun hm => h (taken.mpr hm)), List.map_append, List.map_singleton]

theorem findByIdempotencyKey_log (libs : StoreLibs β) (blank : β)
    (parses : ∀ put ∈ log, crates.uuidParseStr (uuidText put.snapshot.scanId.uuid) = some put.snapshot.scanId.uuid)
    (key : IdempotencyKey) :
    findByIdempotencyKey crates (log.map (snapshotRowOf libs blank)) key =
      .ok ((log.find? (fun put => put.key = key)).map (fun put => put.snapshot.scanId)) := by
  unfold findByIdempotencyKey
  rw [find_key_row]
  cases hf : log.find? (fun put => put.key = key) with
  | none => rfl
  | some first =>
    have column := scanIdColumn_text (parses first (List.mem_of_find?_eq_some hf))
    simp only [Option.map_some, snapshotRowOf, column]
    rfl

/-- What a `put` does to a table that holds the log. -/
theorem putTx_log (lawful : libs.Lawful snapshots) (blank : β)
    (parses : ∀ put ∈ log, crates.uuidParseStr (uuidText put.snapshot.scanId.uuid) = some put.snapshot.scanId.uuid)
    {put : Put} (hs : put.snapshot ∈ snapshots) :
    putTx crates libs (log.map (snapshotRowOf libs blank)) put.key put.snapshot =
      match log.find? (fun other => other.key = put.key) with
      | some first => (.ok first.snapshot.scanId, log.map (snapshotRowOf libs blank))
      | none =>
        if put.snapshot.scanId ∈ log.map (fun put => put.snapshot.scanId) then
          (.error (.corrupt "idempotency_key uniqueness conflict left no winning row"),
            log.map (snapshotRowOf libs blank))
        else (.ok put.snapshot.scanId, (log ++ [put]).map (snapshotRowOf libs blank)) := by
  obtain ⟨json, hvec, -⟩ := lawful.roundTrip put.snapshot hs
  have find := findByIdempotencyKey_log libs blank parses put.key
  cases hf : log.find? (fun other => other.key = put.key) with
  | some first =>
    rw [hf] at find
    simp only [putTx, find, Option.map_some]
  | none =>
    rw [hf] at find
    have unkeyed : put.key ∉ log.map Put.key := by
      intro hm
      obtain ⟨other, ho, hk⟩ := List.mem_map.mp hm
      have hno := List.find?_eq_none.mp hf other ho
      simp [hk] at hno
    have insert := insertRow_log libs blank log put
    simp only [unkeyed, or_false] at insert
    rw [snapshotRowOf, bodyOf_ok hvec] at insert
    by_cases taken : put.snapshot.scanId ∈ log.map (fun put => put.snapshot.scanId)
    · rw [if_pos taken] at insert
      simp only [putTx, find, Option.map_none, hvec, insert, if_pos taken]
    · rw [if_neg taken] at insert
      simp only [putTx, find, Option.map_none, hvec, insert, if_neg taken]

theorem getByScanId_log (lawful : libs.Lawful snapshots) (hlog : ∀ put ∈ log, put.snapshot ∈ snapshots)
    (id : ScanId) :
    getByScanId libs (log.map (snapshotRowOf libs blank)) id =
      .ok ((log.find? (fun put => put.snapshot.scanId = id)).map Put.snapshot) := by
  unfold getByScanId
  rw [find_scan_row]
  cases hf : log.find? (fun put => put.snapshot.scanId = id) with
  | none => rfl
  | some put =>
    have body := lawful.fromSlice_bodyOf blank (hlog put (List.mem_of_find?_eq_some hf))
    simp only [Option.map_some, snapshotRowOf, body]
    rfl

theorem listByHost_log
    (parses : ∀ put ∈ log, crates.uuidParseStr (uuidText put.snapshot.scanId.uuid) = some put.snapshot.scanId.uuid)
    (host : HostId) :
    listByHost crates (log.map (snapshotRowOf libs blank)) host =
      .ok (sortByKey (fun id => id.uuid.toNat)
        ((log.filter (fun put => put.snapshot.hostId = host)).map (fun put => put.snapshot.scanId))) := by
  have filtered : (log.map (snapshotRowOf libs blank)).filter (fun row => row.hostId = uuidText host.uuid) =
      (log.filter (fun put => put.snapshot.hostId = host)).map (snapshotRowOf libs blank) := by
    rw [List.filter_map]
    congr 2
    funext put
    exact decide_eq_decide.mpr hostIdText_inj
  have order : sortByKey (fun put : Put => (snapshotRowOf libs blank put).scanId) =
      sortByKey (fun put : Put => put.snapshot.scanId.uuid.toNat) :=
    sortByKey_congr fun a b => uuidText_le_iff
  unfold listByHost
  rw [filtered, ← sortByKey_map, order, ← sortByKey_map, List.mapM_map]
  refine mapM_eq_ok fun put hput => scanIdColumn_text (parses put ?_)
  exact (List.mem_filter.mp (mem_sortByKey.mp hput)).1

end

end AnneDeBreuil
