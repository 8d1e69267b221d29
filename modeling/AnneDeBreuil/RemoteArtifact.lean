import AnneDeBreuil.RemoteTransport
import AnneDeBreuil.Text

namespace AnneDeBreuil

/-- How an await point ends: with a value, or with the future dropped there. -/
inductive Await (α : Type)
  | ready (value : α)
  | dropped
deriving DecidableEq, Repr

structure RemotePath where
  asStr : String
deriving DecidableEq, Repr

structure RemoteCommand where
  argv : List String
deriving DecidableEq, Repr

def RemoteCommand.new (program : String) (arguments : List String) : RemoteCommand := ⟨program :: arguments⟩

structure ExecOutput where
  status : Int
  stdout : List UInt8
  stderr : List UInt8
  durationNanos : Nat
deriving DecidableEq, Repr

/-- The await points of a push. `created` says whether the server made the file
although the open request did not come back with `Ok`. -/
structure PushOutcomes where
  readLocal : Await (Except String (List UInt8))
  openSftp : Await (Except TransportError Unit)
  openFile : Await (Except TransportError Unit)
  created : Bool
  writeAll : List UInt8 → Await (Except String Unit)
  shutdown : Await (Except String Unit)

structure RemoveOutcomes where
  openSftp : Await (Except TransportError Unit)
  removeFile : Await (Except TransportError Unit)

/-- A host and its connection, as one run meets them, and the libraries that
read what a command printed. -/
structure CollectEnv where
  push : PushOutcomes
  exec : RemoteCommand → Await (Except TransportError ExecOutput)
  remove : RemoveOutcomes
  fromUtf8Lossy : List UInt8 → String
  fromSlice : List UInt8 → Except String ScanSnapshot

/-- Its result, and whether the remote file is there from then on. -/
def sftpPush (outcomes : PushOutcomes) (localPath : String) (remote : RemotePath) :
    Await (Except TransportError Unit) × Bool :=
  match outcomes.readLocal with
  | .dropped => (.dropped, false)
  | .ready (.error err) => (.ready (.error (.transfer ("reading " ++ localPath ++ ": " ++ err))), false)
  | .ready (.ok bytes) =>
    match outcomes.openSftp with
    | .dropped => (.dropped, false)
    | .ready (.error error) => (.ready (.error error), false)
    | .ready (.ok ()) =>
      match outcomes.openFile with
      | .dropped => (.dropped, outcomes.created)
      | .ready (.error error) => (.ready (.error error), outcomes.created)
      | .ready (.ok ()) =>
        match outcomes.writeAll bytes with
        | .dropped => (.dropped, true)
        | .ready (.error err) => (.ready (.error (.transfer ("writing " ++ remote.asStr ++ ": " ++ err))), true)
        | .ready (.ok ()) =>
          match outcomes.shutdown with
          | .dropped => (.dropped, true)
          | .ready (.error err) => (.ready (.error (.transfer ("closing " ++ remote.asStr ++ ": " ++ err))), true)
          | .ready (.ok ()) => (.ready (.ok ()), true)

def sftpRemove (outcomes : RemoveOutcomes) : Await (Except TransportError Unit) :=
  match outcomes.openSftp with
  | .dropped => .dropped
  | .ready (.error error) => .ready (.error error)
  | .ready (.ok ()) => outcomes.removeFile

def runAndCollect (env : CollectEnv) (remotePath : RemotePath) (expectedHash : String) :
    Await (Except TransportError ScanSnapshot) :=
  match env.exec (.new remotePath.asStr ["--self-hash"]) with
  | .dropped => .dropped
  | .ready (.error error) => .ready (.error error)
  | .ready (.ok hashCheck) =>
    if trim (env.fromUtf8Lossy hashCheck.stdout) ≠ expectedHash then .ready (.error .integrityMismatch)
    else
      match env.exec (.new remotePath.asStr ["scan", "--emit-json"]) with
      | .dropped => .dropped
      | .ready (.error error) => .ready (.error error)
      | .ready (.ok output) => .ready ((env.fromSlice output.stdout).mapError .jsonDecode)

structure RemoteArtifactGuard where
  path : RemotePath
  disarmed : Bool

def RemoteArtifactGuard.new (path : RemotePath) : RemoteArtifactGuard := ⟨path, false⟩

/-- The guard is disarmed before the removal is awaited. -/
def RemoteArtifactGuard.removeNow (guard : RemoteArtifactGuard) (outcomes : RemoveOutcomes) :
    Await (Except TransportError Unit) × RemoteArtifactGuard :=
  (sftpRemove outcomes, { guard with disarmed := true })

/-- The removals a dropped guard spawns. -/
def RemoteArtifactGuard.drop (guard : RemoteArtifactGuard) : List RemotePath :=
  if guard.disarmed then [] else [guard.path]

/-- What a run leaves: its result, whether the pushed file was created, the
paths of the awaited removals that ran to their end, and of those spawned. -/
structure CollectRun where
  result : Await (Except TransportError ScanSnapshot)
  created : Bool
  removed : List RemotePath
  spawned : List RemotePath

def pushExecCollectRemove (env : CollectEnv) (collectorBinary : String) (remotePath : RemotePath)
    (expectedHash : String) : CollectRun :=
  match sftpPush env.push collectorBinary remotePath with
  | (.dropped, created) => ⟨.dropped, created, [], []⟩
  | (.ready (.error error), created) => ⟨.ready (.error error), created, [], []⟩
  | (.ready (.ok ()), created) =>
    let guard := RemoteArtifactGuard.new remotePath
    match runAndCollect env remotePath expectedHash with
    | .dropped => ⟨.dropped, created, [], guard.drop⟩
    | .ready result =>
      match guard.removeNow env.remove with
      | (.dropped, guard) => ⟨.dropped, created, [], guard.drop⟩
      | (.ready _, guard) => ⟨.ready result, created, [guard.path], guard.drop⟩

/-- A file that was created is removed, by an awaited call that ends or by the
guard's task; nothing else is. -/
structure CleanedUp (run : CollectRun) (remotePath : RemotePath) : Prop where
  attempted : run.created = true → remotePath ∈ run.removed ++ run.spawned
  only : ∀ path ∈ run.removed ++ run.spawned, path = remotePath

/-- The server was asked to open the file and made it. -/
def PushOutcomes.Creates (outcomes : PushOutcomes) : Prop :=
  (∃ bytes, outcomes.readLocal = .ready (.ok bytes)) ∧ outcomes.openSftp = .ready (.ok ()) ∧
    (outcomes.openFile = .ready (.ok ()) ∨ outcomes.created = true)

def PushOutcomes.Completes (outcomes : PushOutcomes) : Prop :=
  outcomes.openFile = .ready (.ok ()) ∧
    (∃ bytes, outcomes.readLocal = .ready (.ok bytes) ∧ outcomes.writeAll bytes = .ready (.ok ())) ∧
    outcomes.shutdown = .ready (.ok ())

/-- The future is dropped while it awaits one of the two commands. -/
def CollectEnv.ExecDropped (env : CollectEnv) (remotePath : RemotePath) (expectedHash : String) : Prop :=
  env.exec (.new remotePath.asStr ["--self-hash"]) = .dropped ∨
    ∃ hashCheck, env.exec (.new remotePath.asStr ["--self-hash"]) = .ready (.ok hashCheck) ∧
      trim (env.fromUtf8Lossy hashCheck.stdout) = expectedHash ∧
      env.exec (.new remotePath.asStr ["scan", "--emit-json"]) = .dropped

/-- The future is dropped while it awaits the removal. -/
def RemoveOutcomes.Dropped (outcomes : RemoveOutcomes) : Prop :=
  outcomes.openSftp = .dropped ∨ outcomes.openSftp = .ready (.ok ()) ∧ outcomes.removeFile = .dropped

theorem sftpPush_created (outcomes : PushOutcomes) (localPath : String) (remote : RemotePath) :
    (sftpPush outcomes localPath remote).2 = true ↔ outcomes.Creates := by
  unfold sftpPush PushOutcomes.Creates
  rcases outcomes.readLocal with (err | bytes) | _
  · simp
  · rcases outcomes.openSftp with (error | ⟨⟩) | _
    · simp
    · rcases outcomes.openFile with (error | ⟨⟩) | _
      · simp
      · rcases hwrite : outcomes.writeAll bytes with (err | ⟨⟩) | _
        · simp [hwrite]
        · rcases outcomes.shutdown with (err | ⟨⟩) | _ <;> simp [hwrite]
        · simp [hwrite]
      · simp
    · simp
  · simp

theorem sftpPush_ok (outcomes : PushOutcomes) (localPath : String) (remote : RemotePath)
    (creates : outcomes.Creates) :
    (sftpPush outcomes localPath remote).1 = .ready (.ok ()) ↔ outcomes.Completes := by
  obtain ⟨⟨bytes, hread⟩, hsftp, -⟩ := creates
  unfold sftpPush PushOutcomes.Completes
  rw [hread, hsftp]
  simp only [Await.ready.injEq, Except.ok.injEq]
  rcases outcomes.openFile with (error | ⟨⟩) | _
  · simp
  · rcases hwrite : outcomes.writeAll bytes with (err | ⟨⟩) | _
    · simp [hwrite]
    · rcases outcomes.shutdown with (err | ⟨⟩) | _ <;> simp [hwrite]
    · simp [hwrite]
  · simp

theorem runAndCollect_dropped (env : CollectEnv) (remotePath : RemotePath) (expectedHash : String) :
    runAndCollect env remotePath expectedHash = .dropped ↔ env.ExecDropped remotePath expectedHash := by
  unfold runAndCollect CollectEnv.ExecDropped
  rcases env.exec (.new remotePath.asStr ["--self-hash"]) with (error | hashCheck) | _
  · simp
  · by_cases hhash : trim (env.fromUtf8Lossy hashCheck.stdout) = expectedHash
    · rcases env.exec (.new remotePath.asStr ["scan", "--emit-json"]) with (error | output) | _ <;> simp [hhash]
    · simp [hhash]
  · simp

theorem sftpRemove_dropped (outcomes : RemoveOutcomes) : sftpRemove outcomes = .dropped ↔ outcomes.Dropped := by
  unfold sftpRemove RemoveOutcomes.Dropped
  rcases outcomes.openSftp with (error | ⟨⟩) | _ <;> simp

theorem cleanedUp_unguarded (result : Await (Except TransportError ScanSnapshot)) (created : Bool)
    (remotePath : RemotePath) : CleanedUp ⟨result, created, [], []⟩ remotePath ↔ created = false :=
  ⟨fun h => by simpa using h.attempted, fun h => ⟨by simp [h], by simp⟩⟩

theorem cleanedUp_guarded {run : CollectRun} {remotePath : RemotePath}
    (h : run.removed ++ run.spawned = [remotePath]) : CleanedUp run remotePath :=
  ⟨fun _ => by simp [h], by simp [h]⟩

/-- The guard exists once the push is done, and is disarmed while the removal
runs: a created file is cleaned up exactly when the push went through and the
future was not dropped at the removal. -/
theorem cleanedUp_iff (env : CollectEnv) (collectorBinary : String) (remotePath : RemotePath)
    (expectedHash : String) :
    CleanedUp (pushExecCollectRemove env collectorBinary remotePath expectedHash) remotePath ↔
      (env.push.Creates → env.push.Completes ∧
        (env.remove.Dropped → env.ExecDropped remotePath expectedHash)) := by
  have hcreated := sftpPush_created env.push collectorBinary remotePath
  have hok := sftpPush_ok env.push collectorBinary remotePath
  have hcollect := runAndCollect_dropped env remotePath expectedHash
  have hremove := sftpRemove_dropped env.remove
  have unfinished : ∀ result created, result ≠ .ready (.ok ()) →
      sftpPush env.push collectorBinary remotePath = (result, created) →
      (created = false ↔ (env.push.Creates → env.push.Completes ∧
        (env.remove.Dropped → env.ExecDropped remotePath expectedHash))) := by
    intro result created hresult hpush
    rw [hpush] at hcreated hok
    refine ⟨fun hfalse creates => ?_, fun owed => ?_⟩
    · rw [hfalse] at hcreated
      cases hcreated.mpr creates
    · by_contra htrue
      have creates := hcreated.mp (by simpa using htrue)
      exact hresult ((hok creates).mpr (owed creates).1)
  unfold pushExecCollectRemove
  rcases hpush : sftpPush env.push collectorBinary remotePath with ⟨(error | ⟨⟩) | _, created⟩
  · exact (cleanedUp_unguarded _ created _).trans (unfinished _ created (by simp) hpush)
  · rw [hpush] at hcreated hok
    have completes : env.push.Creates → env.push.Completes := fun creates => (hok creates).mp rfl
    cases hrun : runAndCollect env remotePath expectedHash with
    | dropped =>
      refine iff_of_true (cleanedUp_guarded rfl) (fun creates => ⟨completes creates, fun _ => hcollect.mp hrun⟩)
    | ready result =>
      have collected : ¬env.ExecDropped remotePath expectedHash := fun h => by
        rw [hcollect.mpr h] at hrun
        cases hrun
      simp only [RemoteArtifactGuard.removeNow]
      cases hrem : sftpRemove env.remove with
      | dropped =>
        have lost := hremove.mp hrem
        refine (cleanedUp_unguarded _ created _).trans ⟨fun hfalse creates => ?_, fun owed => ?_⟩
        · rw [hfalse] at hcreated
          cases hcreated.mpr creates
        · by_contra htrue
          have creates := hcreated.mp (by simpa using htrue)
          exact collected ((owed creates).2 lost)
      | ready removed =>
        have ended : ¬env.remove.Dropped := fun h => by
          rw [hremove.mpr h] at hrem
          cases hrem
        exact iff_of_true (cleanedUp_guarded rfl) (fun creates => ⟨completes creates, fun h => absurd h ended⟩)
  · exact (cleanedUp_unguarded _ created _).trans (unfinished _ created (by simp) hpush)

/-- A host where each step succeeds. -/
def healthyEnv : CollectEnv where
  push := ⟨.ready (.ok [35, 33]), .ready (.ok ()), .ready (.ok ()), true, fun _ => .ready (.ok ()), .ready (.ok ())⟩
  exec _ := .ready (.ok ⟨0, [], [], 0⟩)
  remove := ⟨.ready (.ok ()), .ready (.ok ())⟩
  fromUtf8Lossy _ := ""
  fromSlice _ := .error "EOF while parsing a value at line 1 column 0"

example : CleanedUp (pushExecCollectRemove healthyEnv "anne" ⟨"/tmp/anne-collector-1"⟩ "") ⟨"/tmp/anne-collector-1"⟩ where
  attempted _ := by decide
  only := by decide

/-- A write that fails leaves the file; so does a timeout that comes while the
removal is awaited. -/
theorem cleanedUp_counterexample :
    (pushExecCollectRemove { healthyEnv with
        push := { healthyEnv.push with writeAll := fun _ => .ready (.error "broken pipe") } }
      "anne" ⟨"/tmp/anne-collector-1"⟩ "") =
      ⟨.ready (.error (.transfer "writing /tmp/anne-collector-1: broken pipe")), true, [], []⟩ ∧
    (pushExecCollectRemove { healthyEnv with remove := ⟨.ready (.ok ()), .dropped⟩ }
      "anne" ⟨"/tmp/anne-collector-1"⟩ "") = ⟨.dropped, true, [], []⟩ ∧
    ¬∀ env, CleanedUp (pushExecCollectRemove env "anne" ⟨"/tmp/anne-collector-1"⟩ "") ⟨"/tmp/anne-collector-1"⟩ := by
  refine ⟨rfl, rfl, fun always => ?_⟩
  have left := (always { healthyEnv with remove := ⟨.ready (.ok ()), .dropped⟩ }).attempted rfl
  revert left
  decide

end AnneDeBreuil
