import AnneDeBreuil.ReportWriter

namespace AnneDeBreuil

theorem tempPathFor_ok {uuid : Uuid} {path tmp : FilePath} : tempPathFor uuid path = .ok tmp ↔
    ∃ dir name, path = dir ++ [name] ∧ tmp = dir ++ ["." ++ name ++ "." ++ uuidText uuid ++ ".tmp"] := by
  unfold tempPathFor
  constructor
  · intro h
    cases hlast : path.getLast? with
    | none =>
      rw [hlast] at h
      cases h
    | some name =>
      rw [hlast] at h
      obtain ⟨dir, rfl⟩ := List.getLast?_eq_some_iff.mp hlast
      rw [List.dropLast_concat] at h
      exact ⟨dir, name, rfl, (Except.ok.inj h).symm⟩
  · rintro ⟨dir, name, rfl, rfl⟩
    rw [List.getLast?_concat, List.dropLast_concat]

theorem tempPathFor_inj {a b : Uuid} {path tmp : FilePath} (ha : tempPathFor a path = .ok tmp)
    (hb : tempPathFor b path = .ok tmp) : a = b := by
  obtain ⟨dir, name, rfl, rfl⟩ := tempPathFor_ok.mp ha
  obtain ⟨dir', name', hpath, htmp⟩ := tempPathFor_ok.mp hb
  obtain ⟨rfl, hname⟩ := List.append_inj' hpath rfl
  obtain rfl := (List.cons.inj hname).1
  have texts := (List.cons.inj (List.append_cancel_left htmp)).1
  have chars := congrArg String.toList texts
  simp only [String.toList_append, List.append_cancel_left_eq, List.append_cancel_right_eq] at chars
  exact uuidText_injective (String.toList_inj.mp chars)

/-- A temporary file has a longer name than the file. -/
theorem tempPathFor_ne {uuid : Uuid} {path tmp : FilePath} (h : tempPathFor uuid path = .ok tmp) : tmp ≠ path := by
  obtain ⟨dir, name, rfl, rfl⟩ := tempPathFor_ok.mp h
  intro same
  have texts := (List.cons.inj (List.append_cancel_left same)).1
  have lengths := congrArg (fun text => text.toList.length) texts
  simp only [String.toList_append, List.length_append] at lengths
  have dots : ".tmp".toList.length = 4 := rfl
  omega

/-- What one step of a call can do. -/
inductive WriteMove (call : AtomicWrite) (path : FilePath) (disk : FileSystem) :
    WritePhase → WriteAnswer → WritePhase → FileSystem → Prop
  | unnamed {e : IoError} (nameless : tempPathFor call.uuid path = .error e) :
      WriteMove call path disk .called .named (.returned (.error e)) disk
  | named {tmp : FilePath} (temp : tempPathFor call.uuid path = .ok tmp) :
      WriteMove call path disk .called .named (.creating tmp) disk
  | created {tmp : FilePath} (free : disk.files tmp = none) :
      WriteMove call path disk (.creating tmp) (.created none) (afterWrite tmp call.writeFn)
        (disk.set tmp (some ⟨[], disk.createMode⟩))
  | uncreated {tmp : FilePath} {refusal : Option IoError} {e : IoError} :
      WriteMove call path disk (.creating tmp) (.created refusal) (.removing tmp e) disk
  | wrote {tmp : FilePath} {bytes : List UInt8} {next : Except IoError Nat → WriteFn} {n : Nat} (taken : n ≤ bytes.length) :
      WriteMove call path disk (.writing tmp bytes next) (.wrote (.ok n)) (afterWrite tmp (next (.ok n)))
        (disk.append tmp (bytes.take n))
  | unwritten {tmp : FilePath} {bytes : List UInt8} {next : Except IoError Nat → WriteFn} {e : IoError} :
      WriteMove call path disk (.writing tmp bytes next) (.wrote (.error e)) (afterWrite tmp (next (.error e))) disk
  | synced {tmp : FilePath} : WriteMove call path disk (.syncing tmp) (.synced none) (.renaming tmp) disk
  | unsynced {tmp : FilePath} {e : IoError} :
      WriteMove call path disk (.syncing tmp) (.synced (some e)) (.removing tmp e) disk
  | removed {tmp : FilePath} {e : IoError} {fails : Bool} :
      WriteMove call path disk (.removing tmp e) (.removed fails) (.returned (.error e)) (disk.removeFile fails tmp).2
  | renamed {tmp : FilePath} {file : StoredFile} (stored : disk.files tmp = some file) :
      WriteMove call path disk (.renaming tmp) (.renamed none) (.returned (.ok ())) ((disk.set tmp none).set path (some file))
  | unrenamed {tmp : FilePath} {refusal : Option IoError} {e : IoError}
      (refused : refusal.isSome = true ∨ disk.files tmp = none) :
      WriteMove call path disk (.renaming tmp) (.renamed refusal) (.returned (.error e)) disk

theorem AtomicWrite.step_moves {call : AtomicWrite} {path : FilePath} {disk after : FileSystem} {phase phase' : WritePhase}
    {answer : WriteAnswer} (h : call.step path disk phase answer = some (phase', after)) :
    WriteMove call path disk phase answer phase' after := by
  unfold AtomicWrite.step at h
  split at h
  next =>
    split at h
    next nameless => cases h; exact .unnamed nameless
    next temp => cases h; exact .named temp
  next tmp refusal =>
    split at h
    next made =>
      cases h
      rcases FileSystem.createNew_cases made with ⟨-, allowed, free, rfl⟩ | ⟨no, -⟩
      · obtain rfl : refusal = none := by simpa using allowed
        exact .created free
      · cases no
    next made =>
      cases h
      rcases FileSystem.createNew_cases made with ⟨no, -⟩ | ⟨-, rfl⟩
      · cases no
      · exact .uncreated
  next tmp bytes next n =>
    split at h
    next taken => cases h; exact .wrote taken
    next => cases h
  next => cases h; exact .unwritten
  next tmp refusal =>
    split at h
    next => cases h; exact .synced
    next => cases h; exact .unsynced
  next => cases h; exact .removed
  next tmp refusal =>
    split at h
    next done =>
      cases h
      rcases FileSystem.rename_cases done with ⟨-, allowed, file, stored, rfl⟩ | ⟨no, -⟩
      · obtain rfl : refusal = none := by simpa using allowed
        exact .renamed stored
      · cases no
    next done =>
      cases h
      rcases FileSystem.rename_cases done with ⟨no, -⟩ | ⟨-, refused, rfl⟩
      · cases no
      · exact .unrenamed refused
  next => cases h

section

variable {call : AtomicWrite} {path : FilePath} {disk after : FileSystem} {phase phase' : WritePhase} {answer : WriteAnswer}
  {stuck : Prop}

/-- How a call and its temporary file stand; `stuck` says that its rename was refused. -/
inductive CallStands (call : AtomicWrite) (path : FilePath) (disk : FileSystem) (stuck : Prop) : WritePhase → Prop
  | called (moves : ¬stuck) : CallStands call path disk stuck .called
  | creating {tmp : FilePath} (temp : tempPathFor call.uuid path = .ok tmp) (moves : ¬stuck) :
      CallStands call path disk stuck (.creating tmp)
  | writing {tmp : FilePath} {written bytes : List UInt8} {next : Except IoError Nat → WriteFn}
      (temp : tempPathFor call.uuid path = .ok tmp) (held : disk.read tmp = some written)
      (reached : call.writeFn.Reaches written (.write bytes next)) (moves : ¬stuck) :
      CallStands call path disk stuck (.writing tmp bytes next)
  | written {tmp : FilePath} {output : List UInt8} (temp : tempPathFor call.uuid path = .ok tmp)
      (held : disk.read tmp = some output) (outputs : call.writeFn.Outputs output) (moves : ¬stuck) :
      CallStands call path disk stuck (.syncing tmp)
  | synced {tmp : FilePath} {output : List UInt8} (temp : tempPathFor call.uuid path = .ok tmp)
      (held : disk.read tmp = some output) (outputs : call.writeFn.Outputs output) (moves : ¬stuck) :
      CallStands call path disk stuck (.renaming tmp)
  | removing {tmp : FilePath} {e : IoError} (temp : tempPathFor call.uuid path = .ok tmp) (moves : ¬stuck) :
      CallStands call path disk stuck (.removing tmp e)
  | done (moves : ¬stuck) : CallStands call path disk stuck (.returned (.ok ()))
  | failed {e : IoError} (left : stuck → ∃ tmp, tempPathFor call.uuid path = .ok tmp ∧ disk.files tmp ≠ none)
      (clean : ¬stuck → ∀ tmp, tempPathFor call.uuid path = .ok tmp → disk.files tmp = none) :
      CallStands call path disk stuck (.returned (.error e))

/-- Only its own temporary file matters to a call. -/
theorem CallStands.congr (h : CallStands call path disk stuck phase)
    (same : ∀ tmp, tempPathFor call.uuid path = .ok tmp → after.files tmp = disk.files tmp) :
    CallStands call path after stuck phase := by
  have read : ∀ tmp, tempPathFor call.uuid path = .ok tmp → after.read tmp = disk.read tmp := by
    intro tmp temp
    rw [FileSystem.read, FileSystem.read, same tmp temp]
  cases h with
  | called moves => exact .called moves
  | creating temp moves => exact .creating temp moves
  | writing temp held reached moves => exact .writing temp ((read _ temp).trans held) reached moves
  | written temp held outputs moves => exact .written temp ((read _ temp).trans held) outputs moves
  | synced temp held outputs moves => exact .synced temp ((read _ temp).trans held) outputs moves
  | removing temp moves => exact .removing temp moves
  | done moves => exact .done moves
  | failed left clean =>
    refine .failed (fun stays => ?_) fun moves tmp temp => (same tmp temp).trans (clean moves tmp temp)
    obtain ⟨tmp, temp, present⟩ := left stays
    exact ⟨tmp, temp, by rwa [same tmp temp]⟩

theorem CallStands.afterWrite {tmp : FilePath} {written : List UInt8} {rest : WriteFn}
    (temp : tempPathFor call.uuid path = .ok tmp) (held : disk.read tmp = some written)
    (reached : call.writeFn.Reaches written rest) (moves : ¬stuck) :
    CallStands call path disk stuck (afterWrite tmp rest) := by
  cases rest with
  | write bytes next => exact .writing temp held reached moves
  | finish result =>
    cases result with
    | ok _ => exact .written temp held reached moves
    | error e => exact .removing temp moves

/-- A step keeps it, where the clean-up succeeds. -/
theorem WriteMove.stands (move : WriteMove call path disk phase answer phase' after)
    (h : CallStands call path disk stuck phase) (cleans : answer ≠ .removed true) :
    CallStands call path after (stuck ∨ ∃ e, answer = .renamed (some e)) phase' := by
  have other : ¬stuck → (∀ e, answer ≠ .renamed (some e)) → ¬(stuck ∨ ∃ e, answer = .renamed (some e)) := by
    rintro moves smooth (stays | ⟨e, refused⟩)
    · exact moves stays
    · exact smooth e refused
  cases move with
  | unnamed nameless =>
    cases h with
    | called moves =>
      refine .failed (fun stays => absurd stays (other moves (by simp))) fun _ tmp temp => ?_
      rw [nameless] at temp
      cases temp
  | named temp =>
    cases h with
    | called moves => exact .creating temp (other moves (by simp))
  | created free =>
    cases h with
    | creating temp moves =>
      refine .afterWrite temp ?_ .start (other moves (by simp))
      rw [FileSystem.read, FileSystem.files_set_self, Option.map_some]
  | uncreated =>
    cases h with
    | creating temp moves => exact .removing temp (other moves (by simp))
  | wrote taken =>
    cases h with
    | writing temp held reached moves =>
      exact .afterWrite temp (FileSystem.read_append held _) (.wrote reached taken) (other moves (by simp))
  | unwritten =>
    cases h with
    | writing temp held reached moves => exact .afterWrite temp held (.refused reached) (other moves (by simp))
  | synced =>
    cases h with
    | written temp held outputs moves => exact .synced temp held outputs (other moves (by simp))
  | unsynced =>
    cases h with
    | written temp held outputs moves => exact .removing temp (other moves (by simp))
  | @removed tmp e fails =>
    cases h with
    | removing temp moves =>
      obtain rfl : fails = false := by simpa using cleans
      refine .failed (fun stays => absurd stays (other moves (by simp))) fun _ tmp' temp' => ?_
      obtain rfl := Except.ok.inj (temp.symm.trans temp')
      exact FileSystem.files_removeFile_self disk tmp
  | renamed stored =>
    cases h with
    | synced temp held outputs moves => exact .done (other moves (by simp))
  | @unrenamed tmp refusal e refused =>
    cases h with
    | synced temp held outputs moves =>
      have present : disk.files tmp ≠ none := by
        rintro missing
        rw [FileSystem.read, missing] at held
        cases held
      obtain ⟨reason, rfl⟩ := Option.isSome_iff_exists.mp (refused.resolve_right present)
      exact .failed (fun _ => ⟨tmp, temp, present⟩) fun moves => absurd (.inr ⟨reason, rfl⟩) moves

/-- The path gets a complete output when a call returns `Ok`, and nothing before. -/
theorem WriteMove.target (move : WriteMove call path disk phase answer phase' after)
    (h : CallStands call path disk stuck phase) :
    phase' ≠ .returned (.ok ()) ∧ after.files path = disk.files path ∨
      phase' = .returned (.ok ()) ∧ ∃ output, call.writeFn.Outputs output ∧ after.read path = some output := by
  have writing : ∀ tmp rest, afterWrite tmp rest ≠ .returned (.ok ()) := by
    rintro tmp (⟨_ | _⟩ | _) same <;> cases same
  cases move with
  | unnamed | named | uncreated | unsynced | synced | unrenamed => exact .inl ⟨nofun, rfl⟩
  | unwritten => exact .inl ⟨writing _ _, rfl⟩
  | created free =>
    cases h with
    | creating temp moves => exact .inl ⟨writing _ _, FileSystem.files_set_of_ne (tempPathFor_ne temp).symm _⟩
  | wrote taken =>
    cases h with
    | writing temp held reached moves =>
      exact .inl ⟨writing _ _, FileSystem.files_append_of_ne (tempPathFor_ne temp).symm _⟩
  | removed =>
    cases h with
    | removing temp moves => exact .inl ⟨nofun, FileSystem.files_removeFile_of_ne (tempPathFor_ne temp).symm _⟩
  | @renamed tmp file stored =>
    cases h with
    | synced temp held outputs moves =>
      refine .inr ⟨rfl, _, outputs, ?_⟩
      rw [FileSystem.read, stored] at held
      rw [FileSystem.read, FileSystem.files_set_self]
      exact held

/-- Other files are let alone. -/
theorem WriteMove.others (move : WriteMove call path disk phase answer phase' after)
    (h : CallStands call path disk stuck phase) {other : FilePath} (outside : other ≠ path)
    (foreign : ∀ tmp, tempPathFor call.uuid path = .ok tmp → other ≠ tmp) : after.files other = disk.files other := by
  cases move with
  | unnamed | named | uncreated | unsynced | synced | unrenamed | unwritten => rfl
  | created free =>
    cases h with
    | creating temp moves => exact FileSystem.files_set_of_ne (foreign _ temp) _
  | wrote taken =>
    cases h with
    | writing temp held reached moves => exact FileSystem.files_append_of_ne (foreign _ temp) _
  | removed =>
    cases h with
    | removing temp moves => exact FileSystem.files_removeFile_of_ne (foreign _ temp) _
  | renamed stored =>
    cases h with
    | synced temp held outputs moves =>
      rw [FileSystem.files_set_of_ne outside, FileSystem.files_set_of_ne (foreign _ temp)]

theorem AtomicWrite.run_returned {answers : List WriteAnswer} {result result' : Except IoError Unit}
    (h : call.run path answers (.returned result) disk = some (result', after)) : result = result' ∧ disk = after := by
  cases answers with
  | nil =>
    cases h
    exact ⟨rfl, rfl⟩
  | cons answer answers => cases h

/-- A call that runs alone and returns `Ok` leaves a complete output at the path, and every file
but its own as it was. -/
theorem AtomicWrite.run_ok {answers : List WriteAnswer} (h : call.run path answers phase disk = some (.ok (), after))
    (stands : CallStands call path disk False phase) (running : ∀ result, phase ≠ .returned result) :
    (∃ output, call.writeFn.Outputs output ∧ after.read path = some output) ∧
      ∀ other, other ≠ path → (∀ tmp, tempPathFor call.uuid path = .ok tmp → other ≠ tmp) →
        after.files other = disk.files other := by
  induction answers generalizing phase disk with
  | nil =>
    cases phase with
    | returned result => exact absurd rfl (running result)
    | called | creating _ | writing _ _ _ | syncing _ | «renaming» _ | removing _ _ => cases h
  | cons answer answers ih =>
    obtain ⟨⟨phase', disk'⟩, next, rest⟩ := Option.bind_eq_some_iff.mp h
    have move := AtomicWrite.step_moves next
    have others : ∀ other, other ≠ path → (∀ tmp, tempPathFor call.uuid path = .ok tmp → other ≠ tmp) →
        disk'.files other = disk.files other := fun _ outside foreign => move.others stands outside foreign
    by_cases ended : ∃ result, phase' = .returned result
    · obtain ⟨result, rfl⟩ := ended
      obtain ⟨rfl, rfl⟩ := AtomicWrite.run_returned rest
      rcases move.target stands with ⟨unfinished, -⟩ | ⟨-, complete⟩
      · exact absurd rfl unfinished
      · exact ⟨complete, others⟩
    · have cleans : answer ≠ .removed true := by
        rintro rfl
        cases move
        exact ended ⟨_, rfl⟩
      have smooth : (False ∨ ∃ e, answer = .renamed (some e)) ↔ False := by
        refine iff_false_intro ?_
        rintro (never | ⟨e, rfl⟩)
        · exact never
        · cases move
          exact ended ⟨_, rfl⟩
      have stands' := move.stands stands cleans
      rw [propext smooth] at stands'
      obtain ⟨complete, later⟩ := ih rest stands' fun result same => ended ⟨result, same⟩
      exact ⟨complete, fun other outside foreign => (later other outside foreign).trans (others other outside foreign)⟩

theorem writeAtomically_ok {uuid : Uuid} {answers : List WriteAnswer} {bytes : List UInt8}
    (h : writeAtomically uuid answers path bytes disk = some (.ok (), after)) :
    after.read path = some bytes ∧ ∀ other, other ≠ path → (∀ tmp, tempPathFor uuid path = .ok tmp → other ≠ tmp) →
      after.files other = disk.files other := by
  obtain ⟨⟨output, outputs, read⟩, others⟩ := AtomicWrite.run_ok h (.called id) nofun
  rw [writeAll_outputs outputs] at read
  exact ⟨read, others⟩

end

/-- All the bytes are written at once, and every call succeeds. -/
def smoothAnswers (bytes : List UInt8) : List WriteAnswer :=
  [.named, .created none, .wrote (.ok bytes.length), .synced none, .renamed none]

/-- What `write_all` offers, and what it does when all of it is taken. -/
theorem writeAll_cons (b : UInt8) (bytes : List UInt8) :
    ∃ next, writeAll (b :: bytes) = .write (b :: bytes) next ∧ next (.ok (b :: bytes).length) = .finish (.ok ()) := by
  refine ⟨_, rfl, ?_⟩
  dsimp only
  rw [if_neg (by simp), List.drop_length, writeAllFrom]

/-- A write whose calls all succeed, and that has its temporary name to itself, succeeds and touches no other file. -/
theorem writeAtomically_smooth {uuid : Uuid} {dir : FilePath} {name : String} {bytes : List UInt8} {disk : FileSystem}
    (content : bytes ≠ []) (free : ∀ tmp, tempPathFor uuid (dir.join name) = .ok tmp → disk.files tmp = none) :
    ∃ after, writeAtomically uuid (smoothAnswers bytes) (dir.join name) bytes disk = some (.ok (), after) ∧
      ∀ other, other ≠ dir.join name → after.files other = disk.files other := by
  obtain ⟨b, bytes, rfl⟩ := List.exists_cons_of_ne_nil content
  obtain ⟨next, offers, done⟩ := writeAll_cons b bytes
  obtain ⟨tmp, temp⟩ : ∃ tmp, tempPathFor uuid (dir.join name) = .ok tmp := ⟨_, tempPathFor_ok.mpr ⟨dir, name, rfl, rfl⟩⟩
  let empty := disk.set tmp (some ⟨[], disk.createMode⟩)
  have created : disk.createNew false tmp = (true, empty) := by
    rw [FileSystem.createNew, free tmp temp]
    rfl
  have stored : (empty.append tmp (b :: bytes)).files tmp = some ⟨b :: bytes, disk.createMode⟩ := by
    rw [FileSystem.append, FileSystem.files_set_self]
    exact FileSystem.files_set_self _
  have renamed : (empty.append tmp (b :: bytes)).rename false tmp (dir.join name) = (true,
      ((empty.append tmp (b :: bytes)).set tmp none).set (dir.join name) (some ⟨b :: bytes, disk.createMode⟩)) := by
    rw [FileSystem.rename, stored]
    rfl
  refine ⟨((empty.append tmp (b :: bytes)).set tmp none).set (dir.join name) (some ⟨b :: bytes, disk.createMode⟩), ?_,
    fun other off => ?_⟩
  · simp only [writeAtomically, smoothAnswers, AtomicWrite.run, AtomicWrite.step, temp, Option.bind_some, Option.isSome_none,
      created, afterWrite, offers, done, Nat.le_refl, if_true, List.take_length, renamed]
  · rw [FileSystem.files_set_of_ne off]
    by_cases same : other = tmp
    · rw [same, FileSystem.files_set_self, free tmp temp]
    · rw [FileSystem.files_set_of_ne same, FileSystem.files_append_of_ne same, FileSystem.files_set_of_ne same]

/-- A rename of the call was refused. -/
def Stuck {ι : Type} (trace : List (WritersState ι × (ι × WriteAnswer))) (i : ι) : Prop :=
  ∃ p ∈ trace, ∃ e, p.2 = (i, .renamed (some e))

/-- What holds along a run: of each call and its file, of the path, and of what the calls did to it. -/
structure WritersInv {ι : Type} [DecidableEq ι] (path : FilePath) (calls : ι → AtomicWrite) (disk : FileSystem)
    (trace : List (WritersState ι × (ι × WriteAnswer))) (s : WritersState ι) : Prop where
  stands : ∀ i, CallStands (calls i) path s.disk (Stuck trace i) (s.phase i)
  whole : ∀ m ∈ moments trace s, m.disk.read path = disk.read path ∨
    ∃ i output, (calls i).writeFn.Outputs output ∧ m.disk.read path = some output
  wrote : ∀ i, s.phase i = .returned (.ok ()) →
    ∃ output, (calls i).writeFn.Outputs output ∧ ∃ m ∈ moments trace s, m.disk.read path = some output
  unchanged : ∀ i, s.phase i ≠ .returned (.ok ()) → ∀ p ∈ trace, p.2.1 = i →
    ∀ after, writersStep path calls p.1 p.2 = some after → after.disk.files path = p.1.disk.files path

section

variable {ι : Type} {trace : List (WritersState ι × (ι × WriteAnswer))} {s t : WritersState ι}

theorem moments_snoc (p : WritersState ι × (ι × WriteAnswer)) (hp : p.1 = s) :
    moments (trace ++ [p]) t = moments trace s ++ [t] := by
  simp [moments, hp]

theorem stuck_snoc {i : ι} (s : WritersState ι) (j : ι) (answer : WriteAnswer) :
    Stuck (trace ++ [(s, (i, answer))]) j ↔ Stuck trace j ∨ i = j ∧ ∃ e, answer = .renamed (some e) := by
  simp only [Stuck, List.mem_append, List.mem_singleton]
  constructor
  · rintro ⟨p, hp | rfl, e, h⟩
    · exact .inl ⟨p, hp, e, h⟩
    · cases h
      exact .inr ⟨rfl, e, rfl⟩
  · rintro (⟨p, hp, e, h⟩ | ⟨rfl, e, rfl⟩)
    · exact ⟨p, .inl hp, e, h⟩
    · exact ⟨_, .inr rfl, e, rfl⟩

end

section

variable {ι : Type} [DecidableEq ι] {path : FilePath} {calls : ι → AtomicWrite} {disk : FileSystem}
  {trace : List (WritersState ι × (ι × WriteAnswer))} {s t : WritersState ι}

theorem WritersInv.initial (path : FilePath) (calls : ι → AtomicWrite) (disk : FileSystem) :
    WritersInv path calls disk [] (.initial ι disk) where
  stands i := .called (by rintro ⟨p, hp, -⟩; cases hp)
  whole m hm := by
    rw [List.mem_singleton.mp hm]
    exact .inl rfl
  wrote i h := by cases h
  unchanged i _ p hp := by cases hp

/-- A step of one call is a move of that call, and the others stand still. -/
theorem writersStep_move {i : ι} {answer : WriteAnswer} (h : writersStep path calls s (i, answer) = some t) :
    ∃ phase', WriteMove (calls i) path s.disk (s.phase i) answer phase' t.disk ∧ t.phase = Function.update s.phase i phase' := by
  obtain ⟨⟨phase', after⟩, moved, rfl⟩ := Option.map_eq_some_iff.mp h
  exact ⟨phase', AtomicWrite.step_moves moved, rfl⟩

theorem WritersInv.step (unique : ∀ i j, (calls i).uuid = (calls j).uuid → i = j) (inv : WritersInv path calls disk trace s) {i : ι}
    {answer : WriteAnswer} (cleans : answer ≠ .removed true) (h : writersStep path calls s (i, answer) = some t) :
    WritersInv path calls disk (trace ++ [(s, (i, answer))]) t := by
  obtain ⟨phase', move, phases⟩ := writersStep_move h
  have own : t.phase i = phase' := by rw [phases, Function.update_self]
  have other : ∀ j, j ≠ i → t.phase j = s.phase j := by
    intro j hj
    rw [phases, Function.update_of_ne hj]
  have target := move.target (inv.stands i)
  refine ⟨fun j => ?_, fun m hm => ?_, fun j hj => ?_, fun j hj p hp hcall after hafter => ?_⟩
  · rw [propext (stuck_snoc s j answer)]
    by_cases same : j = i
    · subst same
      rw [own]
      simpa only [true_and] using move.stands (inv.stands j) cleans
    · rw [other j same]
      have apart : (i = j ∧ ∃ e, answer = .renamed (some e)) ↔ False := iff_false_intro fun h => same h.1.symm
      rw [propext apart, or_false]
      refine (inv.stands j).congr fun tmp temp => move.others (inv.stands i) (tempPathFor_ne temp) fun tmp' temp' collide => ?_
      exact same (unique j i (tempPathFor_inj temp (collide ▸ temp')))
  · rw [moments_snoc _ rfl] at hm
    rcases List.mem_append.mp hm with earlier | last
    · exact inv.whole m earlier
    · rw [List.mem_singleton.mp last]
      rcases target with ⟨-, kept⟩ | ⟨-, output, outputs, read⟩
      · rw [FileSystem.read, kept]
        exact inv.whole s (by simp [moments])
      · exact .inr ⟨i, output, outputs, read⟩
  · rw [moments_snoc _ rfl]
    by_cases same : j = i
    · subst same
      rcases target with ⟨unfinished, -⟩ | ⟨-, output, outputs, read⟩
      · exact absurd (own.symm.trans hj) unfinished
      · exact ⟨output, outputs, t, by simp, read⟩
    · obtain ⟨output, outputs, m, hm, read⟩ := inv.wrote j ((other j same).symm.trans hj)
      exact ⟨output, outputs, m, List.mem_append_left _ hm, read⟩
  · rcases List.mem_append.mp hp with earlier | last
    · refine inv.unchanged j ?_ p earlier hcall after hafter
      by_cases same : j = i
      · subst same
        intro returned
        rw [returned] at move
        cases move
      · rwa [← other j same]
    · rw [List.mem_singleton.mp last] at hcall hafter ⊢
      obtain rfl : i = j := hcall
      obtain rfl := Option.some.inj (h.symm.trans hafter)
      rcases target with ⟨-, kept⟩ | ⟨finished, -⟩
      · exact kept
      · exact absurd (own.trans finished) hj

/-- A call whose rename is refused has its temporary file left behind. -/
theorem CallStands.stuck {call : AtomicWrite} {phase : WritePhase} {stuck : Prop} (h : CallStands call path disk stuck phase)
    (stays : stuck) : ∃ e, phase = .returned (.error e) ∧ ∃ tmp, tempPathFor call.uuid path = .ok tmp ∧ disk.files tmp ≠ none := by
  cases h with
  | failed left clean => exact ⟨_, rfl, left stays⟩
  | called moves | creating _ moves | writing _ _ _ moves | written _ _ _ moves | synced _ _ _ moves | removing _ moves
    | done moves => exact absurd stays moves

theorem WritersInv.of_run (unique : ∀ i j, (calls i).uuid = (calls j).uuid → i = j)
    (run : Run (writersStep path calls) (.initial ι disk) trace s) (cleans : ∀ p ∈ trace, p.2.2 ≠ .removed true) :
    WritersInv path calls disk trace s :=
  run.trace_invariant (WritersInv path calls disk) (fun _ label => label.2 ≠ .removed true)
    (WritersInv.initial path calls disk) (fun _ _ _ _ inv ok next => inv.step unique ok next) cleans

theorem WritersInv.not_writeLaw (inv : WritersInv path calls disk trace s) {i : ι} (stays : Stuck trace i) :
    ¬WriteLaw path calls disk trace s := by
  intro law
  obtain ⟨e, returned, tmp, temp, present⟩ := (inv.stands i).stuck stays
  exact present (law.clean i e returned tmp temp)

/-- Where clean-ups succeed, the calls keep what they promise exactly if no rename is refused. -/
theorem writeLaw_iff (unique : ∀ i j, (calls i).uuid = (calls j).uuid → i = j)
    (run : Run (writersStep path calls) (.initial ι disk) trace s) (cleans : ∀ p ∈ trace, p.2.2 ≠ .removed true) :
    WriteLaw path calls disk trace s ↔ ∀ p ∈ trace, ∀ e, p.2.2 ≠ .renamed (some e) := by
  have inv := WritersInv.of_run unique run cleans
  constructor
  · rintro law ⟨before, i, answer⟩ hp e rfl
    exact inv.not_writeLaw ⟨_, hp, e, rfl⟩ law
  · intro smooth
    refine ⟨inv.whole, inv.wrote, fun i e returned => inv.unchanged i (by rw [returned]; nofun), fun i e returned => ?_⟩
    have stands := inv.stands i
    rw [returned] at stands
    cases stands with
    | failed left clean =>
      refine clean ?_
      rintro ⟨p, hp, e', refused⟩
      exact smooth p hp e' (congrArg Prod.snd refused)

end

/-- Two calls that write to one path at once, on an empty disk. -/
def rivalWrites (second : Bool) : AtomicWrite := if second then ⟨2, writeAll [0x5B, 0x5D]⟩ else ⟨1, writeAll [0x7B, 0x7D]⟩

def emptyDisk : FileSystem := ⟨fun _ => none, 0o644⟩

theorem rivalWrites_distinct : ∀ i j, (rivalWrites i).uuid = (rivalWrites j).uuid → i = j := by decide

def rivalLabels : List (Bool × WriteAnswer) :=
  [(false, .named), (true, .named), (false, .created none), (true, .created none), (false, .wrote (.ok 1)),
    (true, .wrote (.ok 2)), (false, .wrote (.ok 1)), (true, .synced none), (false, .synced none), (true, .renamed none),
    (false, .renamed none)]

theorem writeLaw_rivals : ∃ trace s, Run (writersStep ["report.json"] rivalWrites) (.initial Bool emptyDisk) trace s ∧
    WriteLaw ["report.json"] rivalWrites emptyDisk trace s := by
  obtain ⟨s, hs⟩ := Option.isSome_iff_exists.mp (by decide +kernel :
    (runList (writersStep ["report.json"] rivalWrites) (.initial Bool emptyDisk) rivalLabels).isSome = true)
  have cleans : ∀ label ∈ rivalLabels, label.2 ≠ .removed true := by decide
  have smooth : ∀ label ∈ rivalLabels, ∀ e, label.2 ≠ .renamed (some e) := by simp [rivalLabels]
  exact ⟨_, s, .of_stepsOf hs, (writeLaw_iff rivalWrites_distinct (.of_stepsOf hs) fun p hp => cleans p.2 (mem_stepsOf hp)).mpr
    fun p hp => smooth p.2 (mem_stepsOf hp)⟩

def refusedLabels : List (Bool × WriteAnswer) :=
  [(false, .named), (false, .created none), (false, .wrote (.ok 2)), (false, .synced none), (false, .renamed (some (.os 13)))]

/-- A call whose rename is refused leaves its temporary file. -/
theorem writeLaw_refused : ∃ trace s, Run (writersStep ["report.json"] rivalWrites) (.initial Bool emptyDisk) trace s ∧
    (∀ p ∈ trace, p.2.2 ≠ .removed true) ∧ ¬WriteLaw ["report.json"] rivalWrites emptyDisk trace s := by
  obtain ⟨s, hs⟩ := Option.isSome_iff_exists.mp (by decide +kernel :
    (runList (writersStep ["report.json"] rivalWrites) (.initial Bool emptyDisk) refusedLabels).isSome = true)
  have kept : ∀ label ∈ refusedLabels, label.2 ≠ .removed true := by decide
  have cleans : ∀ p ∈ stepsOf (writersStep ["report.json"] rivalWrites) (.initial Bool emptyDisk) refusedLabels,
      p.2.2 ≠ .removed true := fun p hp => kept p.2 (mem_stepsOf hp)
  have refused : (false, WriteAnswer.renamed (some (.os 13))) ∈
      (stepsOf (writersStep ["report.json"] rivalWrites) (.initial Bool emptyDisk) refusedLabels).map Prod.snd := by
    rw [stepsOf_labels hs]
    decide
  obtain ⟨p, hp, label⟩ := List.mem_map.mp refused
  have inv := WritersInv.of_run rivalWrites_distinct (.of_stepsOf hs) cleans
  exact ⟨_, s, .of_stepsOf hs, cleans, inv.not_writeLaw ⟨p, hp, _, label⟩⟩

end AnneDeBreuil
