import Mathlib.Data.List.Basic

namespace AnneDeBreuil

/-- A path by its normal components; the empty one is the root. -/
abbrev FilePath := List String

structure StoredFile where
  contents : List UInt8
  mode : UInt32
deriving DecidableEq, Repr

/-- The files of a disk without links, and the mode that a new one gets. -/
structure FileSystem where
  files : FilePath → Option StoredFile
  createMode : UInt32

/-- A write that fails: before the file is opened, or when the disk is full. -/
inductive WriteFault
  | opening
  | full (written : Nat)
deriving DecidableEq, Repr

namespace FilePath

/-- `Path::parent`. -/
def parent (path : FilePath) : Option FilePath := if path = [] then none else some path.dropLast

/-- `Path::join` with one normal component. -/
def join (path : FilePath) (name : String) : FilePath := path ++ [name]

/-- `Path::file_stem` of a file name: what stands before its last dot, if that is not the first character. -/
def fileStem (name : String) : String :=
  let before := (name.toList.reverse.dropWhile (· ≠ '.')).tail.reverse
  if before = [] then name else String.ofList before

/-- `Path::with_extension`. -/
def withExtension (path : FilePath) (extension : String) : FilePath :=
  match path.getLast? with
  | none => path
  | some name => path.dropLast ++ [fileStem name ++ "." ++ extension]

end FilePath

namespace FileSystem

def set (fs : FileSystem) (path : FilePath) (file : Option StoredFile) : FileSystem :=
  { fs with files := fun other => if other = path then file else fs.files other }

/-- `std::fs::read`. -/
def read (fs : FileSystem) (path : FilePath) : Option (List UInt8) := (fs.files path).map StoredFile.contents

/-- A file with these bytes, which keeps its mode if it was there. -/
def put (fs : FileSystem) (path : FilePath) (bytes : List UInt8) : FileSystem :=
  fs.set path (some ⟨bytes, ((fs.files path).map StoredFile.mode).getD fs.createMode⟩)

-- The operations say whether they succeeded, and what the disk is like then.

/-- `std::fs::write`: the file is created or emptied, and then filled. -/
def writeFile (fault : Option WriteFault) (path : FilePath) (bytes : List UInt8) (fs : FileSystem) : Bool × FileSystem :=
  match fault with
  | none => (true, fs.put path bytes)
  | some .opening => (false, fs)
  | some (.full written) =>
    if written < bytes.length then (false, fs.put path (bytes.take written)) else (true, fs.put path bytes)

/-- `OpenOptions::create_new`: an empty file where there was none. -/
def createNew (fails : Bool) (path : FilePath) (fs : FileSystem) : Bool × FileSystem :=
  match fs.files path with
  | some _ => (false, fs)
  | none => if fails then (false, fs) else (true, fs.set path (some ⟨[], fs.createMode⟩))

/-- A write to a file that is open, behind what was written before. -/
def append (path : FilePath) (bytes : List UInt8) (fs : FileSystem) : FileSystem :=
  match fs.files path with
  | some file => fs.set path (some { file with contents := file.contents ++ bytes })
  | none => fs

/-- `std::fs::rename`, which replaces a file at the new path. -/
def rename (fails : Bool) (source target : FilePath) (fs : FileSystem) : Bool × FileSystem :=
  match fs.files source with
  | some file => if fails then (false, fs) else (true, (fs.set source none).set target (some file))
  | none => (false, fs)

/-- `std::fs::remove_file`. -/
def removeFile (fails : Bool) (path : FilePath) (fs : FileSystem) : Bool × FileSystem :=
  match fs.files path with
  | some _ => if fails then (false, fs) else (true, fs.set path none)
  | none => (false, fs)

/-- `std::fs::set_permissions`. -/
def setPermissions (fails : Bool) (path : FilePath) (mode : UInt32) (fs : FileSystem) : Bool × FileSystem :=
  match fs.files path with
  | some file => if fails then (false, fs) else (true, fs.set path (some { file with mode }))
  | none => (false, fs)

/-- The mode of `std::fs::metadata`. -/
def metadataMode (fails : Bool) (path : FilePath) (fs : FileSystem) : Option UInt32 :=
  if fails then none else (fs.files path).map StoredFile.mode

variable {fs : FileSystem} {path other : FilePath}

@[simp] theorem files_set_self (file : Option StoredFile) : (fs.set path file).files path = file := if_pos rfl

theorem files_set_of_ne (h : other ≠ path) (file : Option StoredFile) : (fs.set path file).files other = fs.files other :=
  if_neg h

@[simp] theorem read_put_self (bytes : List UInt8) : (fs.put path bytes).read path = some bytes := by
  rw [read, put, files_set_self, Option.map_some]

/-- A write is seen at its own path only. -/
theorem read_writeFile_of_ne (fs : FileSystem) (h : other ≠ path) (fault : Option WriteFault) (bytes : List UInt8) :
    (fs.writeFile fault path bytes).2.read other = fs.read other := by
  have kept : ∀ bytes, (fs.put path bytes).read other = fs.read other := by
    intro bytes
    rw [read, put, files_set_of_ne h, read]
  cases fault with
  | none => exact kept bytes
  | some fault =>
    cases fault with
    | opening => rfl
    | full written =>
      rw [writeFile]
      split
      · exact kept _
      · exact kept _

/-- A write that succeeds leaves all the bytes. -/
theorem read_writeFile_of_ok {fault : Option WriteFault} {bytes : List UInt8} {after : FileSystem}
    (h : fs.writeFile fault path bytes = (true, after)) : after.read path = some bytes := by
  cases fault with
  | none =>
    cases h
    exact read_put_self bytes
  | some fault =>
    cases fault with
    | opening => cases h
    | full written =>
      rw [writeFile] at h
      split at h
      · cases h
      · cases h
        exact read_put_self bytes

/-- An empty file has nothing to lose to an empty write. -/
theorem read_writeFile_nil (h : fs.read path = some []) (fault : Option WriteFault) :
    (fs.writeFile fault path []).2.read path = some [] := by
  cases fault with
  | none => exact read_put_self []
  | some fault =>
    cases fault with
    | opening => exact h
    | full written => exact read_put_self []

/-- Permissions are no contents. -/
theorem read_setPermissions (fs : FileSystem) (fails : Bool) (path : FilePath) (mode : UInt32) (other : FilePath) :
    (fs.setPermissions fails path mode).2.read other = fs.read other := by
  rw [setPermissions]
  split
  next file hfile =>
    split
    · rfl
    · by_cases same : other = path
      · rw [same, read, files_set_self, read, hfile]
        rfl
      · rw [read, files_set_of_ne same, read]
  next => rfl

theorem createNew_cases {fails : Bool} {ok : Bool} {after : FileSystem} (h : fs.createNew fails path = (ok, after)) :
    (ok = true ∧ fails = false ∧ fs.files path = none ∧ after = fs.set path (some ⟨[], fs.createMode⟩)) ∨
      (ok = false ∧ after = fs) := by
  rw [createNew] at h
  split at h
  next =>
    cases h
    exact .inr ⟨rfl, rfl⟩
  next free =>
    split at h
    next =>
      cases h
      exact .inr ⟨rfl, rfl⟩
    next allowed =>
      cases h
      exact .inl ⟨rfl, Bool.not_eq_true _ ▸ allowed, free, rfl⟩

/-- What was written stays in front of what is appended. -/
theorem read_append {before : List UInt8} (h : fs.read path = some before) (bytes : List UInt8) :
    (fs.append path bytes).read path = some (before ++ bytes) := by
  obtain ⟨file, hfile, rfl⟩ := Option.map_eq_some_iff.mp h
  rw [append, hfile, read, files_set_self, Option.map_some]

theorem files_append_of_ne (h : other ≠ path) (bytes : List UInt8) : (fs.append path bytes).files other = fs.files other := by
  rw [append]
  split
  next => exact files_set_of_ne h _
  next => rfl

theorem rename_cases {fails : Bool} {source target : FilePath} {ok : Bool} {after : FileSystem}
    (h : fs.rename fails source target = (ok, after)) :
    (ok = true ∧ fails = false ∧ ∃ file, fs.files source = some file ∧ after = (fs.set source none).set target (some file)) ∨
      (ok = false ∧ (fails = true ∨ fs.files source = none) ∧ after = fs) := by
  rw [rename] at h
  split at h
  next file hfile =>
    split at h
    next refused =>
      cases h
      exact .inr ⟨rfl, .inl refused, rfl⟩
    next allowed =>
      cases h
      exact .inl ⟨rfl, Bool.not_eq_true _ ▸ allowed, file, hfile, rfl⟩
  next missing =>
    cases h
    exact .inr ⟨rfl, .inr missing, rfl⟩

theorem read_rename_of_ok {fails : Bool} {source target : FilePath} {after : FileSystem}
    (h : fs.rename fails source target = (true, after)) : after.read target = fs.read source := by
  rcases rename_cases h with ⟨-, -, file, stored, rfl⟩ | ⟨no, -⟩
  · rw [read, files_set_self, read, stored]
  · cases no

theorem read_rename_of_ne {source target : FilePath} (hsource : other ≠ source) (htarget : other ≠ target)
    (fails : Bool) : (fs.rename fails source target).2.read other = fs.read other := by
  rw [rename]
  split
  next =>
    split
    · rfl
    · rw [read, files_set_of_ne htarget, files_set_of_ne hsource, read]
  next => rfl

theorem rename_of_failed {fails : Bool} {source target : FilePath} {after : FileSystem}
    (h : fs.rename fails source target = (false, after)) : after = fs := by
  rcases rename_cases h with ⟨no, -⟩ | ⟨-, -, same⟩
  · cases no
  · exact same

theorem files_removeFile_of_ne (h : other ≠ path) (fails : Bool) : (fs.removeFile fails path).2.files other = fs.files other := by
  rw [removeFile]
  split
  next =>
    split
    · rfl
    · exact files_set_of_ne h _
  next => rfl

theorem files_removeFile_self (fs : FileSystem) (path : FilePath) : (fs.removeFile false path).2.files path = none := by
  rw [removeFile]
  split
  next => exact files_set_self none
  next missing => exact missing

end FileSystem

end AnneDeBreuil
