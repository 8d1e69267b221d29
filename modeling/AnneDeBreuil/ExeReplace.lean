import AnneDeBreuil.FileSystem
import AnneDeBreuil.Reachability

namespace AnneDeBreuil

/-- The step that failed, with the paths that its context names. -/
inductive ReplaceError
  | noParentDirectory
  | writing (path : FilePath)
  | settingPermissions (path : FilePath)
  | replacing (target : FilePath)
  | renaming (target backup : FilePath)
deriving DecidableEq, Repr

/-- Which of the steps on the disk fail. -/
structure ReplaceFaults where
  remove : Bool
  rename : Bool
  write : Option WriteFault
  metadata : Bool
  setPermissions : Bool
deriving DecidableEq, Repr

def updateTmpName : String := ".anne.update.tmp"

/-- `replace_running_executable` on Unix. -/
def replaceOnUnix (faults : ReplaceFaults) (target : FilePath) (newBytes : List UInt8) (fs : FileSystem) :
    Except ReplaceError Unit × FileSystem :=
  match target.parent with
  | none => (.error .noParentDirectory, fs)
  | some dir =>
    let tmpPath := dir.join updateTmpName
    match fs.writeFile faults.write tmpPath newBytes with
    | (false, fs) => (.error (.writing tmpPath), fs)
    | (true, fs) =>
      let mode := (fs.metadataMode faults.metadata target).getD 0o755 ||| 0o111
      match fs.setPermissions faults.setPermissions tmpPath mode with
      | (false, fs) => (.error (.settingPermissions tmpPath), fs)
      | (true, fs) =>
        match fs.rename faults.rename tmpPath target with
        | (false, fs) => (.error (.replacing target), fs)
        | (true, fs) => (.ok (), fs)

/-- `replace_running_executable` on Windows. -/
def replaceOnWindows (faults : ReplaceFaults) (target : FilePath) (newBytes : List UInt8) (fs : FileSystem) :
    Except ReplaceError Unit × FileSystem :=
  let backup := target.withExtension "exe.old"
  -- whether there was a backup to remove does not matter
  let fs := (fs.removeFile faults.remove backup).2
  match fs.rename faults.rename target backup with
  | (false, fs) => (.error (.renaming target backup), fs)
  | (true, fs) =>
    match fs.writeFile faults.write target newBytes with
    | (false, fs) => (.error (.writing target), fs)
    | (true, fs) => (.ok (), fs)

/-- The branch that is compiled; every supported platform but Windows is a Unix. -/
def replaceRunningExecutable (platform : Target) :
    ReplaceFaults → FilePath → List UInt8 → FileSystem → Except ReplaceError Unit × FileSystem :=
  match platform with
  | .windows => replaceOnWindows
  | .other => replaceOnUnix

/-- What an answer may leave at the target: the old contents behind an error, the new
bytes behind a success. -/
def AllOrNothing (target : FilePath) (newBytes : List UInt8) (before : FileSystem) :
    Except ReplaceError Unit × FileSystem → Prop
  | (.error _, after) => after.read target = before.read target
  | (.ok (), after) => after.read target = some newBytes

/-- The replacement is atomic, whatever fails. -/
def AtomicReplace (platform : Target) (target : FilePath) (newBytes : List UInt8) (fs : FileSystem) : Prop :=
  ∀ faults, AllOrNothing target newBytes fs (replaceRunningExecutable platform faults target newBytes fs)

/-- On Unix the target is not the temporary file, unless all of it is empty; on
Windows there is no target. -/
def ReplaceSafe (platform : Target) (target : FilePath) (newBytes : List UInt8) (fs : FileSystem) : Prop :=
  match platform with
  | .windows => fs.read target = none
  | .other => target.getLast? ≠ some updateTmpName ∨ fs.read target = some [] ∧ newBytes = []

section

variable {target : FilePath} {newBytes : List UInt8} {fs : FileSystem}

/-- The temporary file is the target itself only if this has its name. -/
theorem eq_join_parent_iff {name : String} {dir : FilePath} (hparent : target.parent = some dir) :
    target = dir.join name ↔ target.getLast? = some name := by
  rw [FilePath.parent] at hparent
  split at hparent
  next => cases hparent
  next nonempty =>
    cases hparent
    rw [FilePath.join, List.getLast?_eq_some_iff]
    constructor
    · exact fun same => ⟨_, same⟩
    · rintro ⟨dir, rfl⟩
      rw [List.dropLast_concat]

/-- As long as writing the temporary file leaves the target as it is, so do the other steps,
until the file is renamed into place. -/
theorem allOrNothing_of_kept {dir : FilePath} (hparent : target.parent = some dir) (faults : ReplaceFaults)
    (written : (fs.writeFile faults.write (dir.join updateTmpName) newBytes).2.read target = fs.read target) :
    AllOrNothing target newBytes fs (replaceOnUnix faults target newBytes fs) := by
  simp only [replaceOnUnix, hparent]
  split
  next fs₁ hwrite =>
    rw [hwrite] at written
    exact written
  next fs₁ hwrite =>
    rw [hwrite] at written
    have filled := FileSystem.read_writeFile_of_ok hwrite
    have kept := fs₁.read_setPermissions faults.setPermissions (dir.join updateTmpName)
      ((fs₁.metadataMode faults.metadata target).getD 0o755 ||| 0o111)
    split
    next fs₂ hpermissions =>
      rw [hpermissions] at kept
      exact (kept target).trans written
    next fs₂ hpermissions =>
      rw [hpermissions] at kept
      split
      next fs₃ hrename =>
        obtain rfl := FileSystem.rename_of_failed hrename
        exact (kept target).trans written
      next fs₃ hrename => exact (FileSystem.read_rename_of_ok hrename).trans ((kept _).trans filled)

/-- A temporary file that is the target has lost the old contents when its permissions
are to be set, and before that when the disk is full. -/
theorem replaceOnUnix_inPlace {dir : FilePath} (hparent : target.parent = some dir)
    (same : target = dir.join updateTmpName) (atomic : AtomicReplace .other target newBytes fs) :
    fs.read target = some [] ∧ newBytes = [] := by
  have unset : replaceOnUnix ⟨false, false, none, false, true⟩ target newBytes fs =
      (.error (.settingPermissions target), fs.put target newBytes) := by
    simp [replaceOnUnix, hparent, ← same, FileSystem.writeFile, FileSystem.setPermissions, FileSystem.put]
  have kept := atomic ⟨false, false, none, false, true⟩
  rw [replaceRunningExecutable, unset, AllOrNothing, FileSystem.read_put_self] at kept
  have nothing : newBytes = [] := by
    by_contra nonempty
    have cut : replaceOnUnix ⟨false, false, some (.full 0), false, false⟩ target newBytes fs =
        (.error (.writing target), fs.put target []) := by
      simp [replaceOnUnix, hparent, ← same, FileSystem.writeFile, List.length_pos_iff.mpr nonempty]
    have lost := atomic ⟨false, false, some (.full 0), false, false⟩
    rw [replaceRunningExecutable, cut, AllOrNothing, FileSystem.read_put_self, ← kept] at lost
    exact nonempty (Option.some.inj lost).symm
  exact ⟨nothing ▸ kept.symm, nothing⟩

theorem replaceOnUnix_atomic_iff :
    AtomicReplace .other target newBytes fs ↔ ReplaceSafe .other target newBytes fs := by
  cases hparent : target.parent with
  | none =>
    have root : target = [] := by
      by_contra nonempty
      rw [FilePath.parent, if_neg nonempty] at hparent
      cases hparent
    refine iff_of_true (fun faults => ?_) (.inl (by simp [root]))
    simp only [replaceRunningExecutable, replaceOnUnix, hparent]
    exact rfl
  | some dir =>
    have named := @eq_join_parent_iff target updateTmpName dir hparent
    constructor
    · intro atomic
      by_cases same : target = dir.join updateTmpName
      · exact .inr (replaceOnUnix_inPlace hparent same atomic)
      · exact .inl fun h => same (named.mpr h)
    · intro safe faults
      refine allOrNothing_of_kept hparent faults ?_
      by_cases same : target = dir.join updateTmpName
      · -- an empty file that is written with nothing stays as it is
        obtain ⟨empty, rfl⟩ := safe.resolve_left fun h => h (named.mp same)
        rw [← same, FileSystem.read_writeFile_nil empty, empty]
      · exact fs.read_writeFile_of_ne same faults.write newBytes

/-- On Windows the target is away when the new file cannot be opened. -/
theorem read_replaceOnWindows_unopened (newBytes : List UInt8) {file : StoredFile} (hfile : fs.files target = some file) :
    ∃ error after, replaceOnWindows ⟨false, false, some .opening, false, false⟩ target newBytes fs = (.error error, after) ∧
      after.read target = none := by
  by_cases same : target = target.withExtension "exe.old"
  · simp [replaceOnWindows, ← same, FileSystem.removeFile, FileSystem.rename, hfile, FileSystem.read]
  · have kept : (fs.removeFile false (target.withExtension "exe.old")).2.files target = some file := by
      simp only [FileSystem.removeFile]
      split
      · exact (FileSystem.files_set_of_ne same none).trans hfile
      · exact hfile
    simp [replaceOnWindows, FileSystem.rename, kept, FileSystem.writeFile, FileSystem.read, FileSystem.files_set_of_ne same]

theorem replaceOnWindows_atomic_iff :
    AtomicReplace .windows target newBytes fs ↔ ReplaceSafe .windows target newBytes fs := by
  constructor
  · intro atomic
    cases hfile : fs.files target with
    | none => exact congrArg (Option.map StoredFile.contents) hfile
    | some file =>
      obtain ⟨error, after, hreplace, lost⟩ := read_replaceOnWindows_unopened newBytes hfile
      have kept := atomic ⟨false, false, some .opening, false, false⟩
      rw [replaceRunningExecutable, hreplace] at kept
      exact kept.symm.trans lost
  · intro absent faults
    have nothing : fs.files target = none := Option.map_eq_none_iff.mp absent
    have still : (fs.removeFile faults.remove (target.withExtension "exe.old")).2.files target = none := by
      simp only [FileSystem.removeFile]
      split
      · split
        · exact nothing
        · by_cases same : target = target.withExtension "exe.old"
          · rw [← same, FileSystem.files_set_self]
          · exact (FileSystem.files_set_of_ne same none).trans nothing
      · exact nothing
    simp only [replaceRunningExecutable, replaceOnWindows, FileSystem.rename, still]
    exact (congrArg (Option.map StoredFile.contents) still).trans absent.symm

end

theorem atomicReplace_iff (platform : Target) (target : FilePath) (newBytes : List UInt8) (fs : FileSystem) :
    AtomicReplace platform target newBytes fs ↔ ReplaceSafe platform target newBytes fs := by
  cases platform with
  | windows => exact replaceOnWindows_atomic_iff
  | other => exact replaceOnUnix_atomic_iff

/-- An installed executable of three bytes. -/
def installedExe : FileSystem :=
  ⟨fun path => if path = ["C:", "anne.exe"] then some ⟨[1, 2, 3], 0o755⟩ else none, 0o644⟩

/-- A full disk leaves one byte of the new executable behind the error, and not the old one. -/
theorem atomicReplace_counterexample :
    (∃ after, replaceRunningExecutable .windows ⟨false, false, some (.full 1), false, false⟩ ["C:", "anne.exe"] [4, 5]
        installedExe = (.error (.writing ["C:", "anne.exe"]), after) ∧
      after.read ["C:", "anne.exe"] = some [4]) ∧
    installedExe.read ["C:", "anne.exe"] = some [1, 2, 3] ∧
    ¬AtomicReplace .windows ["C:", "anne.exe"] [4, 5] installedExe := by
  have run : ∃ after, replaceRunningExecutable .windows ⟨false, false, some (.full 1), false, false⟩ ["C:", "anne.exe"]
      [4, 5] installedExe = (.error (.writing ["C:", "anne.exe"]), after) ∧
      after.read ["C:", "anne.exe"] = some [4] := ⟨_, rfl, by decide⟩
  refine ⟨run, by decide, fun atomic => ?_⟩
  obtain ⟨after, hrun, hread⟩ := run
  have kept := atomic ⟨false, false, some (.full 1), false, false⟩
  rw [hrun, AllOrNothing, hread] at kept
  revert kept
  decide

end AnneDeBreuil
