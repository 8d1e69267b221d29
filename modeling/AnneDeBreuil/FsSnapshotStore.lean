import AnneDeBreuil.PortalRepository
import Mathlib.Logic.Function.Basic

namespace AnneDeBreuil

structure IndexEntry where
  scanId : ScanId
  hostId : HostId
  idempotencyKey : IdempotencyKey
  contentHash : String
deriving DecidableEq, Repr

structure Index where
  entries : List IndexEntry
deriving DecidableEq, Repr

/-- What the store takes from `serde_json` and `blake3`, over a type of file
contents. -/
structure StoreLibs (β : Type) where
  toVec : ScanSnapshot → Except String β
  fromSlice : β → Except String ScanSnapshot
  indexToVec : Index → Except String β
  indexFromSlice : β → Except String Index
  blake3 : β → String

/-- The files under the store's root, by name, and whether the lock file has
been created. -/
structure StoreDir (β : Type) where
  files : String → Option β
  lockFile : Bool

def StoreDir.fresh (β : Type) : StoreDir β := ⟨fun _ => none, false⟩

def indexName : String := "index.json"

def indexTmpName : String := ".index.json.tmp"

def contentName (contentHash : String) : String := contentHash ++ ".json"

def contentTmpName : String := ".content.json.tmp"

section

variable {β : Type} (libs : StoreLibs β)

def acquireStoreLock (dir : StoreDir β) : StoreDir β := { dir with lockFile := true }

def readIndex (dir : StoreDir β) : Except StoreError Index :=
  match dir.files indexName with
  | none => .ok ⟨[]⟩
  | some bytes => (libs.indexFromSlice bytes).mapError .corrupt

/-- A write to the temporary name, then the rename over the final one. -/
def writeAtomic (tmpName finalName : String) (bytes : β) (dir : StoreDir β) : StoreDir β :=
  { dir with files := Function.update (Function.update dir.files finalName (some bytes)) tmpName none }

def writeIndex (index : Index) (dir : StoreDir β) : Except StoreError (StoreDir β) :=
  match libs.indexToVec index with
  | .error error => .error (.serde error)
  | .ok bytes => .ok (writeAtomic indexTmpName indexName bytes dir)

/-- The content file, left alone where one of its name exists. -/
def writeContent (bytes : β) (dir : StoreDir β) : StoreDir β :=
  if (dir.files (contentName (libs.blake3 bytes))).isSome then dir
  else writeAtomic contentTmpName (contentName (libs.blake3 bytes)) bytes dir

/-- One `put` that runs alone and meets no I/O failure: its result, and the
directory it leaves. -/
def putBlocking (dir : StoreDir β) (key : IdempotencyKey) (snapshot : ScanSnapshot) :
    Except StoreError ScanId × StoreDir β :=
  let locked := acquireStoreLock dir
  match readIndex libs locked with
  | .error error => (.error error, locked)
  | .ok index =>
    match index.entries.find? (fun entry => entry.idempotencyKey = key) with
    | some existing => (.ok existing.scanId, locked)
    | none =>
      match libs.toVec snapshot with
      | .error error => (.error (.serde error), locked)
      | .ok bytes =>
        let stored := writeContent libs bytes locked
        let entry := ⟨snapshot.scanId, snapshot.hostId, key, libs.blake3 bytes⟩
        match writeIndex libs ⟨index.entries ++ [entry]⟩ stored with
        | .error error => (.error error, stored)
        | .ok indexed => (.ok snapshot.scanId, indexed)

def getBlocking (dir : StoreDir β) (id : ScanId) : Except StoreError (Option ScanSnapshot) :=
  match readIndex libs dir with
  | .error error => .error error
  | .ok index =>
    match index.entries.find? (fun entry => entry.scanId = id) with
    | none => .ok none
    | some entry =>
      match dir.files (contentName entry.contentHash) with
      | none => .error (.io "not found")
      | some bytes => ((libs.fromSlice bytes).mapError .serde).map some

def listBlocking (dir : StoreDir β) (host : HostId) : Except StoreError (List ScanId) :=
  (readIndex libs dir).map fun index =>
    sortByKey (fun id => id.uuid.toNat)
      ((index.entries.filter (fun entry => entry.hostId = host)).map (·.scanId))

end

/-- A `put` call. -/
structure Put where
  key : IdempotencyKey
  snapshot : ScanSnapshot
deriving DecidableEq, Repr

def runPuts {β : Type} (libs : StoreLibs β) (dir : StoreDir β) (puts : List Put) : StoreDir β :=
  puts.foldl (fun dir put => (putBlocking libs dir put.key put.snapshot).2) dir

theorem runPuts_snoc {β : Type} (libs : StoreLibs β) (dir : StoreDir β) (puts : List Put) (put : Put) :
    runPuts libs dir (puts ++ [put]) =
      (putBlocking libs (runPuts libs dir puts) put.key put.snapshot).2 := by
  simp [runPuts]

/-- What the store relies on for the snapshots of a run: serialising them
succeeds and is undone by parsing, a hash is written in hex digits, and no two
of their bodies collide. -/
structure StoreLibs.Lawful {β : Type} (libs : StoreLibs β) (snapshots : List ScanSnapshot) : Prop where
  roundTrip : ∀ s ∈ snapshots, ∃ bytes, libs.toVec s = .ok bytes ∧ libs.fromSlice bytes = .ok s
  indexRoundTrip : ∀ index, ∃ bytes, libs.indexToVec index = .ok bytes ∧ libs.indexFromSlice bytes = .ok index
  hexDigits : ∀ bytes, ∀ c ∈ (libs.blake3 bytes).toList, c ∈ "0123456789abcdef".toList
  collisionFree : ∀ s ∈ snapshots, ∀ t ∈ snapshots, ∀ bytes bytes', libs.toVec s = .ok bytes →
    libs.toVec t = .ok bytes' → libs.blake3 bytes = libs.blake3 bytes' → bytes = bytes'

theorem StoreLibs.Lawful.subset {β : Type} {libs : StoreLibs β} {snapshots part : List ScanSnapshot}
    (lawful : libs.Lawful snapshots) (h : part ⊆ snapshots) : libs.Lawful part :=
  ⟨fun s hs => lawful.roundTrip s (h hs), lawful.indexRoundTrip, lawful.hexDigits,
    fun s hs t ht => lawful.collisionFree s (h hs) t (h ht)⟩

theorem contentName_injective : Function.Injective contentName := by
  intro a b h
  have lists := congrArg String.toList h
  simp only [contentName, String.toList_append, List.append_cancel_right_eq] at lists
  exact String.toList_inj.mp lists

theorem contentName_getLast (contentHash : String) : (contentName contentHash).toList.getLast? = some 'n' := by
  simp [contentName]

section

variable {β : Type} {libs : StoreLibs β} {snapshots : List ScanSnapshot}

theorem StoreLibs.Lawful.contentName_ne_index (lawful : libs.Lawful snapshots) (bytes : β) :
    contentName (libs.blake3 bytes) ≠ indexName := by
  intro h
  have hash : libs.blake3 bytes = "index" := contentName_injective h
  have hex := lawful.hexDigits bytes 'i' (by rw [hash]; decide)
  revert hex
  decide

theorem contentName_ne_indexTmp (contentHash : String) : contentName contentHash ≠ indexTmpName := by
  intro h
  have last := contentName_getLast contentHash
  rw [h] at last
  revert last
  decide

theorem contentName_ne_contentTmp (contentHash : String) : contentName contentHash ≠ contentTmpName := by
  intro h
  have last := contentName_getLast contentHash
  rw [h] at last
  revert last
  decide

theorem writeAtomic_final {tmpName finalName : String} {bytes : β} {dir : StoreDir β}
    (h : finalName ≠ tmpName) : (writeAtomic tmpName finalName bytes dir).files finalName = some bytes := by
  simp [writeAtomic, h]

theorem writeAtomic_other {tmpName finalName name : String} {bytes : β} {dir : StoreDir β}
    (htmp : name ≠ tmpName) (hfinal : name ≠ finalName) :
    (writeAtomic tmpName finalName bytes dir).files name = dir.files name := by
  simp [writeAtomic, htmp, hfinal]

end

end AnneDeBreuil
