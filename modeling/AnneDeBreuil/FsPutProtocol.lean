import AnneDeBreuil.FsSnapshotStore
import AnneDeBreuil.Runs

namespace AnneDeBreuil

/-- How one filesystem call of a step ends. `wrote` is a write that has put
some bytes in the file and is not done. -/
inductive FileEvent (β : Type)
  | done
  | failed (message : String)
  | wrote (bytes : β)
deriving DecidableEq, Repr

/-- The call of `write_atomic` that comes next. -/
inductive WriteStage
  | opening
  | locking
  | writing
  | syncing
  | renaming
deriving DecidableEq, Repr

/-- The call of `put_blocking` that comes next, with the locals it has. -/
inductive PutPhase (β : Type)
  | entering
  | acquiring
  | checkingIndex
  | readingIndex
  | checkingContent (index : Index) (bytes : β)
  | writingContent (stage : WriteStage) (index : Index) (bytes : β)
  | writingIndex (stage : WriteStage) (index : Index) (bytes : β)
  | unlocking (result : Except StoreError ScanId)
  | leaving (result : Except StoreError ScanId)
  | returned (result : Except StoreError ScanId)
  | crashed

inductive ReadCall
  | get (id : ScanId)
  | list (host : HostId)
deriving DecidableEq, Repr

inductive ReadAnswer
  | get (result : Except StoreError (Option ScanSnapshot))
  | list (result : Except StoreError (List ScanId))

/-- The call of `get_blocking` or `list_blocking` that comes next. -/
inductive ReadPhase
  | checkingIndex
  | readingIndex
  | readingContent (entry : IndexEntry)
  | returned (answer : ReadAnswer)

section

variable {β : Type} (libs : StoreLibs β) (empty : β)

/-- One call of `write_atomic`: an error, the call that comes next, or `none`
once the file is renamed. -/
def writeAtomicStep (tmpName finalName : String) (bytes : β) (dir : StoreDir β) :
    WriteStage → FileEvent β → Option (Except StoreError (Option WriteStage) × StoreDir β)
  | .opening, .done => some (.ok (some .locking), { dir with files := Function.update dir.files tmpName (some empty) })
  | .opening, .failed message => some (.error (.io message), dir)
  | .locking, .done => some (.ok (some .writing), dir)
  | .locking, .failed _ => some (.error .locked, dir)
  | .writing, .wrote part => some (.ok (some .writing), { dir with files := Function.update dir.files tmpName (some part) })
  | .writing, .done => some (.ok (some .syncing), { dir with files := Function.update dir.files tmpName (some bytes) })
  | .writing, .failed message => some (.error (.io message), dir)
  | .syncing, .done => some (.ok (some .renaming), dir)
  | .syncing, .failed message => some (.error (.io message), dir)
  | .renaming, .done =>
    match dir.files tmpName with
    | none => some (.error (.io "not found"), dir)
    | some moved =>
      some (.ok none, { dir with
        files := Function.update (Function.update dir.files finalName (some moved)) tmpName none })
  | .renaming, .failed message => some (.error (.io message), dir)
  | _, _ => none

/-- The rest of `read_index`, once the file was seen to exist. -/
def readIndexFile (dir : StoreDir β) : Except StoreError Index :=
  match dir.files indexName with
  | none => .error (.io "not found")
  | some bytes => (libs.indexFromSlice bytes).mapError .corrupt

/-- From the index to the content file: the key is looked up and the snapshot
serialised. -/
def searchIndex (put : Put) (index : Index) : PutPhase β :=
  match index.entries.find? (fun entry => entry.idempotencyKey = put.key) with
  | some existing => .unlocking (.ok existing.scanId)
  | none =>
    match libs.toVec put.snapshot with
    | .error error => .unlocking (.error (.serde error))
    | .ok bytes => .checkingContent index bytes

/-- From the content file to the index file: the entry is pushed. -/
def pushEntry (put : Put) (index : Index) (bytes : β) : PutPhase β :=
  let entry := ⟨put.snapshot.scanId, put.snapshot.hostId, put.key, libs.blake3 bytes⟩
  match libs.indexToVec ⟨index.entries ++ [entry]⟩ with
  | .error error => .unlocking (.error (.serde error))
  | .ok indexBytes => .writingIndex .opening ⟨index.entries ++ [entry]⟩ indexBytes

/-- One filesystem call of `put_blocking` between its locks. `Path::exists`
answers false when the call fails. -/
def putBlockingStep (put : Put) (dir : StoreDir β) : PutPhase β → FileEvent β → Option (PutPhase β × StoreDir β)
  | .checkingIndex, .done =>
    if (dir.files indexName).isSome then some (.readingIndex, dir) else some (searchIndex libs put ⟨[]⟩, dir)
  | .checkingIndex, .failed _ => some (searchIndex libs put ⟨[]⟩, dir)
  | .readingIndex, .done =>
    match readIndexFile libs dir with
    | .error error => some (.unlocking (.error error), dir)
    | .ok index => some (searchIndex libs put index, dir)
  | .readingIndex, .failed message => some (.unlocking (.error (.io message)), dir)
  | .checkingContent index bytes, .done =>
    if (dir.files (contentName (libs.blake3 bytes))).isSome then some (pushEntry libs put index bytes, dir)
    else some (.writingContent .opening index bytes, dir)
  | .checkingContent index bytes, .failed _ => some (.writingContent .opening index bytes, dir)
  | .writingContent stage index bytes, event =>
    (writeAtomicStep empty contentTmpName (contentName (libs.blake3 bytes)) bytes dir stage event).map fun
      | (.error error, dir) => (.unlocking (.error error), dir)
      | (.ok (some next), dir) => (.writingContent next index bytes, dir)
      | (.ok none, dir) => (pushEntry libs put index bytes, dir)
  | .writingIndex stage index bytes, event =>
    (writeAtomicStep empty indexTmpName indexName bytes dir stage event).map fun
      | (.error error, dir) => (.unlocking (.error error), dir)
      | (.ok (some next), dir) => (.writingIndex next index bytes, dir)
      | (.ok none, dir) => (.unlocking (.ok put.snapshot.scanId), dir)
  | _, _ => none

def answerFromIndex (index : Index) : ReadCall → ReadPhase
  | .get id =>
    match index.entries.find? (fun entry => entry.scanId = id) with
    | none => .returned (.get (.ok none))
    | some entry => .readingContent entry
  | .list host =>
    .returned (.list (.ok (sortByKey (fun id => id.uuid.toNat)
      ((index.entries.filter (fun entry => entry.hostId = host)).map (·.scanId)))))

def answerError (error : StoreError) : ReadCall → ReadPhase
  | .get _ => .returned (.get (.error error))
  | .list _ => .returned (.list (.error error))

/-- One filesystem call of a reader, which takes no lock. -/
def readStep (call : ReadCall) (dir : StoreDir β) : ReadPhase → FileEvent β → Option ReadPhase
  | .checkingIndex, .done =>
    if (dir.files indexName).isSome then some .readingIndex else some (answerFromIndex ⟨[]⟩ call)
  | .checkingIndex, .failed _ => some (answerFromIndex ⟨[]⟩ call)
  | .readingIndex, .done =>
    match readIndexFile libs dir with
    | .error error => some (answerError error call)
    | .ok index => some (answerFromIndex index call)
  | .readingIndex, .failed message => some (answerError (.io message) call)
  | .readingContent entry, .done =>
    match dir.files (contentName entry.contentHash) with
    | none => some (answerError (.io "not found") call)
    | some bytes => some (.returned (.get (((libs.fromSlice bytes).mapError .serde).map some)))
  | .readingContent _, .failed message => some (answerError (.io message) call)
  | _, _ => none

end

/-- Calls on one store root: the puts and the process each runs in, and the
readers. `empty` is the content of a file just truncated. -/
structure StoreSystem (ι π ρ β : Type) where
  libs : StoreLibs β
  empty : β
  put : ι → Put
  process : ι → π
  read : ρ → ReadCall

/-- `flock` is the call that holds the lock file, `mutex` the call that holds
the store's mutex in a process. -/
structure StoreState (ι π ρ β : Type) where
  dir : StoreDir β
  flock : Option ι
  mutex : π → Option ι
  phase : ι → PutPhase β
  reader : ρ → ReadPhase

def StoreState.initial (ι π ρ β : Type) : StoreState ι π ρ β :=
  ⟨.fresh β, none, fun _ => none, fun _ => .entering, fun _ => .checkingIndex⟩

inductive StoreAction (ι π ρ β : Type)
  | put (call : ι) (event : FileEvent β)
  | read (call : ρ) (event : FileEvent β)
  | crash (process : π)

section

variable {ι π ρ β : Type} [DecidableEq ι] [DecidableEq π] [DecidableEq ρ]

/-- What is left of a call whose process is killed. -/
def PutPhase.killed : PutPhase β → PutPhase β
  | .returned result => .returned result
  | _ => .crashed

def StoreState.setPhase (s : StoreState ι π ρ β) (call : ι) (phase : PutPhase β) : StoreState ι π ρ β :=
  { s with phase := Function.update s.phase call phase }

/-- One step of one call. The mutex blocks a call of its own process; the lock
file turns a call of another away. -/
def StoreSystem.step (sys : StoreSystem ι π ρ β) (s : StoreState ι π ρ β) :
    StoreAction ι π ρ β → Option (StoreState ι π ρ β)
  | .put call event =>
    match s.phase call, event with
    | .entering, .done =>
      if s.mutex (sys.process call) = none then
        some { s.setPhase call .acquiring with mutex := Function.update s.mutex (sys.process call) (some call) }
      else none
    | .acquiring, .done =>
      if s.flock = none then
        some { s.setPhase call .checkingIndex with dir := acquireStoreLock s.dir, flock := some call }
      else some { s.setPhase call (.leaving (.error .locked)) with dir := acquireStoreLock s.dir }
    | .acquiring, .failed message => some (s.setPhase call (.leaving (.error (.io message))))
    | .unlocking result, .done => some { s.setPhase call (.leaving result) with flock := none }
    | .leaving result, .done =>
      some { s.setPhase call (.returned result) with mutex := Function.update s.mutex (sys.process call) none }
    | phase, event =>
      (putBlockingStep sys.libs sys.empty (sys.put call) s.dir phase event).map fun next =>
        { s.setPhase call next.1 with dir := next.2 }
  | .read call event =>
    (readStep sys.libs (sys.read call) s.dir (s.reader call) event).map fun next =>
      { s with reader := Function.update s.reader call next }
  | .crash process =>
    some { s with
      flock := s.flock.filter (fun call => sys.process call ≠ process)
      mutex := Function.update s.mutex process none
      phase := fun call => if sys.process call = process then (s.phase call).killed else s.phase call }

end

end AnneDeBreuil
