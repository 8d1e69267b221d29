import AnneDeBreuil.FileSystem
import AnneDeBreuil.Runs
import AnneDeBreuil.UuidText
import Mathlib.Logic.Function.Basic

namespace AnneDeBreuil

/-- What the writer reports, or passes on from the operating system. -/
inductive IoError
  | invalidInput (message : String)
  | alreadyExists
  | notFound
  | writeZero
  | os (code : Nat)
deriving DecidableEq, Repr

/-- A `write_fn`: the bytes it offers next and what it does with the answer, or its result. -/
inductive WriteFn
  | finish (result : Except IoError Unit)
  | write (bytes : List UInt8) (next : Except IoError Nat → WriteFn)

def writeAllFrom : Nat → List UInt8 → WriteFn
  | _, [] => .finish (.ok ())
  | 0, _ => .finish (.ok ())
  | fuel + 1, bytes =>
    .write bytes fun
      | .error e => .finish (.error e)
      | .ok n => if n = 0 then .finish (.error .writeZero) else writeAllFrom fuel (bytes.drop n)

/-- `Write::write_all`; a write that is interrupted is made again, and is one with that here. -/
def writeAll (bytes : List UInt8) : WriteFn := writeAllFrom bytes.length bytes

def tempPathFor (uuid : Uuid) (path : FilePath) : Except IoError FilePath :=
  match path.getLast? with
  | none => .error (.invalidInput "/ has no file name component")
  | some name => .ok (path.dropLast ++ ["." ++ name ++ "." ++ uuidText uuid ++ ".tmp"])

/-- Where a call of `write_atomically_with` stands: what it asks the operating system next. -/
inductive WritePhase
  | called
  | creating (tmp : FilePath)
  | writing (tmp : FilePath) (bytes : List UInt8) (next : Except IoError Nat → WriteFn)
  | syncing (tmp : FilePath)
  | renaming (tmp : FilePath)
  | removing (tmp : FilePath) (error : IoError)
  | returned (result : Except IoError Unit)

/-- What it is answered. -/
inductive WriteAnswer
  | named
  | created (refusal : Option IoError)
  | wrote (answer : Except IoError Nat)
  | synced (refusal : Option IoError)
  | renamed (refusal : Option IoError)
  | removed (fails : Bool)
deriving DecidableEq

def afterWrite (tmp : FilePath) : WriteFn → WritePhase
  | .finish (.ok ()) => .syncing tmp
  | .finish (.error e) => .removing tmp e
  | .write bytes next => .writing tmp bytes next

/-- The name a call draws for its temporary file, and what it writes. -/
structure AtomicWrite where
  uuid : Uuid
  writeFn : WriteFn

/-- `write_atomically_with` and `write_new_file`, up to the next answer. -/
def AtomicWrite.step (call : AtomicWrite) (path : FilePath) (disk : FileSystem) :
    WritePhase → WriteAnswer → Option (WritePhase × FileSystem)
  | .called, .named =>
    match tempPathFor call.uuid path with
    | .error e => some (.returned (.error e), disk)
    | .ok tmp => some (.creating tmp, disk)
  | .creating tmp, .created refusal =>
    match disk.createNew refusal.isSome tmp with
    | (true, disk) => some (afterWrite tmp call.writeFn, disk)
    | (false, disk) => some (.removing tmp (refusal.getD .alreadyExists), disk)
  | .writing tmp bytes next, .wrote (.ok n) =>
    if n ≤ bytes.length then some (afterWrite tmp (next (.ok n)), disk.append tmp (bytes.take n)) else none
  | .writing tmp _ next, .wrote (.error e) => some (afterWrite tmp (next (.error e)), disk)
  | .syncing tmp, .synced refusal =>
    match refusal with
    | none => some (.renaming tmp, disk)
    | some e => some (.removing tmp e, disk)
  | .removing tmp e, .removed fails => some (.returned (.error e), (disk.removeFile fails tmp).2)
  | .renaming tmp, .renamed refusal =>
    match disk.rename refusal.isSome tmp path with
    | (true, disk) => some (.returned (.ok ()), disk)
    | (false, disk) => some (.returned (.error (refusal.getD .notFound)), disk)
  | _, _ => none

/-- A call that is answered in turn until it returns. -/
def AtomicWrite.run (call : AtomicWrite) (path : FilePath) :
    List WriteAnswer → WritePhase → FileSystem → Option (Except IoError Unit × FileSystem)
  | [], .returned result, disk => some (result, disk)
  | [], _, _ => none
  | answer :: answers, phase, disk =>
    (call.step path disk phase answer).bind fun next => call.run path answers next.1 next.2

/-- `write_atomically`, with nothing else on the disk at work. -/
def writeAtomically (uuid : Uuid) (answers : List WriteAnswer) (path : FilePath) (bytes : List UInt8) (disk : FileSystem) :
    Option (Except IoError Unit × FileSystem) :=
  AtomicWrite.run ⟨uuid, writeAll bytes⟩ path answers .called disk

/-- Calls on one disk. -/
structure WritersState (ι : Type) where
  disk : FileSystem
  phase : ι → WritePhase

def WritersState.initial (ι : Type) (disk : FileSystem) : WritersState ι := ⟨disk, fun _ => .called⟩

/-- One step of one call; the label is the call and its answer. -/
def writersStep {ι : Type} [DecidableEq ι] (path : FilePath) (calls : ι → AtomicWrite) (s : WritersState ι)
    (label : ι × WriteAnswer) : Option (WritersState ι) :=
  ((calls label.1).step path s.disk (s.phase label.1) label.2).map fun next =>
    ⟨next.2, Function.update s.phase label.1 next.1⟩

/-- What the writer has had written, and what is left of it. -/
inductive WriteFn.Reaches (writeFn : WriteFn) : List UInt8 → WriteFn → Prop
  | start : Reaches writeFn [] writeFn
  | wrote {written bytes : List UInt8} {next : Except IoError Nat → WriteFn} {n : Nat}
      (before : Reaches writeFn written (.write bytes next)) (taken : n ≤ bytes.length) :
      Reaches writeFn (written ++ bytes.take n) (next (.ok n))
  | refused {written bytes : List UInt8} {next : Except IoError Nat → WriteFn} {e : IoError}
      (before : Reaches writeFn written (.write bytes next)) : Reaches writeFn written (next (.error e))

/-- A complete output: all that the writer had written when it returned `Ok`. -/
def WriteFn.Outputs (writeFn : WriteFn) (output : List UInt8) : Prop := writeFn.Reaches output (.finish (.ok ()))

/-- The states of a run. -/
def moments {ι : Type} (trace : List (WritersState ι × (ι × WriteAnswer))) (s : WritersState ι) : List (WritersState ι) :=
  trace.map Prod.fst ++ [s]

/-- What the calls promise of the path and of their temporary files. -/
structure WriteLaw {ι : Type} [DecidableEq ι] (path : FilePath) (calls : ι → AtomicWrite) (disk : FileSystem)
    (trace : List (WritersState ι × (ι × WriteAnswer))) (s : WritersState ι) : Prop where
  whole : ∀ m ∈ moments trace s, m.disk.read path = disk.read path ∨
    ∃ i output, (calls i).writeFn.Outputs output ∧ m.disk.read path = some output
  wrote : ∀ i, s.phase i = .returned (.ok ()) →
    ∃ output, (calls i).writeFn.Outputs output ∧ ∃ m ∈ moments trace s, m.disk.read path = some output
  unchanged : ∀ i e, s.phase i = .returned (.error e) → ∀ p ∈ trace, p.2.1 = i →
    ∀ after, writersStep path calls p.1 p.2 = some after → after.disk.files path = p.1.disk.files path
  clean : ∀ i e, s.phase i = .returned (.error e) → ∀ tmp, tempPathFor (calls i).uuid path = .ok tmp →
    s.disk.files tmp = none

theorem writeAllFrom_reaches {fuel : Nat} {bytes written : List UInt8} {rest : WriteFn} (enough : bytes.length ≤ fuel)
    (h : (writeAllFrom fuel bytes).Reaches written rest) :
    (∃ fuel' left, rest = writeAllFrom fuel' left ∧ left.length ≤ fuel' ∧ written ++ left = bytes) ∨
      ∃ e, rest = .finish (.error e) := by
  induction h with
  | start => exact .inl ⟨fuel, bytes, rfl, enough, rfl⟩
  | @wrote written offered next n before taken ih =>
    rcases ih with ⟨fuel', left, same, enough', whole⟩ | ⟨e, same⟩
    · cases left with
      | nil => cases fuel' <;> cases same
      | cons b left =>
        cases fuel' with
        | zero => cases enough'
        | succ fuel' =>
          cases same
          by_cases none : n = 0
          · exact .inr ⟨.writeZero, if_pos none⟩
          · refine .inl ⟨fuel', (b :: left).drop n, if_neg none, ?_, ?_⟩
            · rw [List.length_drop]
              omega
            · rw [List.append_assoc, List.take_append_drop, whole]
    · cases same
  | @refused written offered next e before ih =>
    rcases ih with ⟨fuel', left, same, enough', whole⟩ | ⟨e', same⟩
    · cases left with
      | nil => cases fuel' <;> cases same
      | cons b left =>
        cases fuel' with
        | zero => cases enough'
        | succ fuel' =>
          cases same
          exact .inr ⟨e, rfl⟩
    · cases same

/-- What `write_all` completes is the bytes it was given. -/
theorem writeAll_outputs {bytes output : List UInt8} (h : (writeAll bytes).Outputs output) : output = bytes := by
  rcases writeAllFrom_reaches (Nat.le_refl _) h with ⟨fuel, left, same, enough, whole⟩ | ⟨e, same⟩
  · cases left with
    | nil => rwa [List.append_nil] at whole
    | cons b left =>
      cases fuel with
      | zero => cases enough
      | succ fuel => cases same
  · cases same

end AnneDeBreuil
