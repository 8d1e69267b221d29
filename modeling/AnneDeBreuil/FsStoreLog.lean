import AnneDeBreuil.FsSnapshotStore
import AnneDeBreuil.PriorityClaim

namespace AnneDeBreuil

def Put.sameKey (a b : Put) : Bool := a.key = b.key

/-- The puts that are the first under their keys: what the store is for. -/
def firstPuts (puts : List Put) : List Put := claimInOrder Put.sameKey puts

def contentHashOf {β : Type} (libs : StoreLibs β) (snapshot : ScanSnapshot) : String :=
  match libs.toVec snapshot with
  | .ok bytes => libs.blake3 bytes
  | .error _ => ""

def indexEntryOf {β : Type} (libs : StoreLibs β) (put : Put) : IndexEntry :=
  ⟨put.snapshot.scanId, put.snapshot.hostId, put.key, contentHashOf libs put.snapshot⟩

/-- The directory holds the log: an index entry and a content file for each put
of it, and no content file that is not the body of a snapshot of the run. -/
structure Represents {β : Type} (libs : StoreLibs β) (snapshots : List ScanSnapshot) (dir : StoreDir β)
    (log : List Put) : Prop where
  index : readIndex libs dir = .ok ⟨log.map (indexEntryOf libs)⟩
  content : ∀ put ∈ log, ∃ bytes, libs.toVec put.snapshot = .ok bytes ∧
    libs.fromSlice bytes = .ok put.snapshot ∧ dir.files (contentName (libs.blake3 bytes)) = some bytes
  own : ∀ body bytes, dir.files (contentName (libs.blake3 body)) = some bytes →
    libs.blake3 bytes = libs.blake3 body ∧ ∃ s ∈ snapshots, libs.toVec s = .ok bytes
  lock : log ≠ [] → dir.lockFile = true

section

variable {β : Type} {libs : StoreLibs β} {snapshots : List ScanSnapshot} {dir : StoreDir β} {log : List Put}

theorem contentHashOf_ok {snapshot : ScanSnapshot} {bytes : β} (h : libs.toVec snapshot = .ok bytes) :
    contentHashOf libs snapshot = libs.blake3 bytes := by
  simp [contentHashOf, h]

theorem fresh_represents (libs : StoreLibs β) (snapshots : List ScanSnapshot) :
    Represents libs snapshots (StoreDir.fresh β) [] where
  index := rfl
  content := by simp
  own := by simp [StoreDir.fresh]
  lock := by simp

theorem Represents.find_key (h : Represents libs snapshots dir log) (key : IdempotencyKey) :
    readIndex libs (acquireStoreLock dir) = .ok ⟨log.map (indexEntryOf libs)⟩ ∧
      (log.map (indexEntryOf libs)).find? (fun entry => entry.idempotencyKey = key) =
        (log.find? (fun put => put.key = key)).map (indexEntryOf libs) := by
  refine ⟨h.index, ?_⟩
  rw [List.find?_map]
  rfl

/-- A key seen before: the scan id of its first put, and nothing changes. -/
theorem putBlocking_repeated (h : Represents libs snapshots dir log) {first : Put} {key : IdempotencyKey}
    (found : log.find? (fun put => put.key = key) = some first) (snapshot : ScanSnapshot) :
    putBlocking libs dir key snapshot = (.ok first.snapshot.scanId, dir) := by
  obtain ⟨hindex, hfind⟩ := h.find_key key
  have locked : acquireStoreLock dir = dir := by
    have held := h.lock (List.ne_nil_of_mem (List.mem_of_find?_eq_some found))
    rw [acquireStoreLock, ← held]
  rw [locked] at hindex
  simp only [putBlocking, hindex, hfind, found, Option.map_some, indexEntryOf, locked]

theorem writeContent_content (lawful : libs.Lawful snapshots) (h : Represents libs snapshots dir log)
    {snapshot : ScanSnapshot} {bytes : β} (hs : snapshot ∈ snapshots) (hbytes : libs.toVec snapshot = .ok bytes) :
    (writeContent libs bytes dir).files (contentName (libs.blake3 bytes)) = some bytes := by
  unfold writeContent
  split
  next present =>
    obtain ⟨stored, hstored⟩ := Option.isSome_iff_exists.mp present
    obtain ⟨hhash, s, hin, hvec⟩ := h.own bytes stored hstored
    rw [hstored, lawful.collisionFree s hin snapshot hs stored bytes hvec hbytes hhash]
  next => exact writeAtomic_final (contentName_ne_contentTmp _)

theorem writeContent_other {bytes : β} {name : String} (htmp : name ≠ contentTmpName)
    (hname : name ≠ contentName (libs.blake3 bytes)) :
    (writeContent libs bytes dir).files name = dir.files name := by
  unfold writeContent
  split
  · rfl
  · exact writeAtomic_other htmp hname

theorem writeContent_kept {bytes stored : β} {name : String} (htmp : name ≠ contentTmpName)
    (hstored : dir.files name = some stored) :
    (writeContent libs bytes dir).files name = some stored := by
  by_cases hname : name = contentName (libs.blake3 bytes)
  · have present : (dir.files (contentName (libs.blake3 bytes))).isSome = true := by
      rw [← hname, hstored]
      rfl
    rw [writeContent, if_pos present, hstored]
  · rw [writeContent_other htmp hname, hstored]

theorem writeContent_lockFile {bytes : β} : (writeContent libs bytes dir).lockFile = dir.lockFile := by
  unfold writeContent
  split <;> rfl

/-- A fresh key: the put answers with its snapshot's scan id and is logged. -/
theorem putBlocking_first (lawful : libs.Lawful snapshots) (h : Represents libs snapshots dir log) {put : Put}
    (hs : put.snapshot ∈ snapshots) (fresh : log.find? (fun other => other.key = put.key) = none) :
    (putBlocking libs dir put.key put.snapshot).1 = .ok put.snapshot.scanId ∧
      Represents libs snapshots (putBlocking libs dir put.key put.snapshot).2 (log ++ [put]) := by
  obtain ⟨hindex, hfind⟩ := h.find_key put.key
  obtain ⟨bytes, hvec, hslice⟩ := lawful.roundTrip put.snapshot hs
  let index : Index := ⟨(log ++ [put]).map (indexEntryOf libs)⟩
  obtain ⟨indexBytes, hindexVec, hindexSlice⟩ := lawful.indexRoundTrip index
  let stored := writeContent libs bytes (acquireStoreLock dir)
  have result : putBlocking libs dir put.key put.snapshot =
      (.ok put.snapshot.scanId, writeAtomic indexTmpName indexName indexBytes stored) := by
    have entries : log.map (indexEntryOf libs) ++
        [⟨put.snapshot.scanId, put.snapshot.hostId, put.key, libs.blake3 bytes⟩] = index.entries := by
      simp [index, indexEntryOf, contentHashOf_ok hvec]
    simp only [putBlocking, hindex, hfind, fresh, Option.map_none, hvec, writeIndex, entries]
    rw [show libs.indexToVec ⟨index.entries⟩ = .ok indexBytes from hindexVec]
  have contents : ∀ body, (writeAtomic indexTmpName indexName indexBytes stored).files
      (contentName (libs.blake3 body)) = stored.files (contentName (libs.blake3 body)) := fun body =>
    writeAtomic_other (contentName_ne_indexTmp _) (lawful.contentName_ne_index body)
  have locked : Represents libs snapshots (acquireStoreLock dir) log := ⟨h.index, h.content, h.own, fun _ => rfl⟩
  rw [result]
  refine ⟨rfl, ?_, ?_, ?_, ?_⟩
  · simp only [readIndex, writeAtomic_final (show indexName ≠ indexTmpName by decide), hindexSlice]
    rfl
  · intro other ho
    rcases List.mem_append.mp ho with ho | ho
    · obtain ⟨otherBytes, hv, hr, hf⟩ := locked.content other ho
      exact ⟨otherBytes, hv, hr, (contents otherBytes).trans
        (writeContent_kept (contentName_ne_contentTmp _) hf)⟩
    · rw [List.mem_singleton.mp ho]
      exact ⟨bytes, hvec, hslice, (contents bytes).trans (writeContent_content lawful locked hs hvec)⟩
  · intro body found hfound
    rw [contents body] at hfound
    by_cases hname : contentName (libs.blake3 body) = contentName (libs.blake3 bytes)
    · have hhash := contentName_injective hname
      rw [hname, writeContent_content lawful locked hs hvec] at hfound
      cases hfound
      exact ⟨hhash.symm, put.snapshot, hs, hvec⟩
    · rw [writeContent_other (contentName_ne_contentTmp _) hname] at hfound
      exact locked.own body found hfound
  · intro _
    exact writeContent_lockFile

theorem firstPuts_snoc (puts : List Put) (put : Put) :
    firstPuts (puts ++ [put]) =
      match (firstPuts puts).find? (fun other => other.key = put.key) with
      | some _ => firstPuts puts
      | none => firstPuts puts ++ [put] := by
  have keyed : (firstPuts puts).any (Put.sameKey put) =
      ((firstPuts puts).find? (fun other => other.key = put.key)).isSome := by
    simp only [List.isSome_find?, eq_comm (b := put.key)]
    rfl
  rw [firstPuts, claimInOrder_snoc, ← firstPuts, keyed]
  cases (firstPuts puts).find? (fun other => other.key = put.key) <;> simp

/-- After any sequence of puts on a fresh store the directory holds the first
put under each key. -/
theorem runPuts_represents {puts : List Put} (lawful : libs.Lawful (puts.map Put.snapshot)) {ran rest : List Put}
    (hputs : puts = ran ++ rest) :
    Represents libs (puts.map Put.snapshot) (runPuts libs (StoreDir.fresh β) ran) (firstPuts ran) := by
  induction ran using List.reverseRecOn generalizing rest with
  | nil => exact fresh_represents libs _
  | append_singleton ran put ih =>
    have hran : puts = ran ++ put :: rest := by simpa using hputs
    have before := ih hran
    have hs : put.snapshot ∈ puts.map Put.snapshot := List.mem_map_of_mem (by simp [hputs])
    rw [runPuts_snoc, firstPuts_snoc]
    cases hf : (firstPuts ran).find? (fun other => other.key = put.key) with
    | some first =>
      rw [putBlocking_repeated before hf]
      exact before
    | none => exact (putBlocking_first lawful before hs hf).2

theorem getBlocking_log (h : Represents libs snapshots dir log) (id : ScanId) :
    getBlocking libs dir id =
      .ok ((log.find? (fun put => put.snapshot.scanId = id)).map Put.snapshot) := by
  have found : (log.map (indexEntryOf libs)).find? (fun entry => entry.scanId = id) =
      (log.find? (fun put => put.snapshot.scanId = id)).map (indexEntryOf libs) := by
    rw [List.find?_map]
    rfl
  simp only [getBlocking, h.index, found]
  cases hf : log.find? (fun put => put.snapshot.scanId = id) with
  | none => rfl
  | some put =>
    obtain ⟨bytes, hvec, hslice, hfile⟩ := h.content put (List.mem_of_find?_eq_some hf)
    simp only [Option.map_some, indexEntryOf, contentHashOf_ok hvec, hfile, hslice]
    rfl

theorem listBlocking_log (h : Represents libs snapshots dir log) (host : HostId) :
    listBlocking libs dir host =
      .ok (sortByKey (fun id => id.uuid.toNat)
        ((log.filter (fun put => put.snapshot.hostId = host)).map (fun put => put.snapshot.scanId))) := by
  simp only [listBlocking, h.index, Except.map, List.filter_map, List.map_map]
  rfl

end

end AnneDeBreuil
