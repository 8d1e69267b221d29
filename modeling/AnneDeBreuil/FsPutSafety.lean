import AnneDeBreuil.FsPutFiles

namespace AnneDeBreuil

/-- The call holds the lock file. -/
def PutPhase.locked {β : Type} : PutPhase β → Bool
  | .entering => false
  | .acquiring => false
  | .leaving _ => false
  | .returned _ => false
  | .crashed => false
  | _ => true

/-- Once synced, the temporary file holds all the bytes. -/
def Staged {β : Type} (tmpName : String) (bytes : β) (dir : StoreDir β) (stage : WriteStage) : Prop :=
  stage = .syncing ∨ stage = .renaming → dir.files tmpName = some bytes

def Recorded (entries : List IndexEntry) (key : IdempotencyKey) (id : ScanId) : Prop :=
  ∃ entry ∈ entries, entry.idempotencyKey = key ∧ entry.scanId = id

def Unused (entries : List IndexEntry) (key : IdempotencyKey) : Prop :=
  ∀ entry ∈ entries, entry.idempotencyKey ≠ key

/-- What the locals of a call say of the directory, as long as it holds the
lock; of a call that answered, its entry. -/
def PutPhase.Holds {β : Type} (libs : StoreLibs β) (put : Put) (dir : StoreDir β) (entries : List IndexEntry) :
    PutPhase β → Prop
  | .entering => True
  | .acquiring => True
  | .crashed => True
  | .checkingIndex => True
  | .readingIndex => (dir.files indexName).isSome
  | .checkingContent index bytes =>
    index.entries = entries ∧ Unused entries put.key ∧ libs.toVec put.snapshot = .ok bytes
  | .writingContent stage index bytes =>
    index.entries = entries ∧ Unused entries put.key ∧ libs.toVec put.snapshot = .ok bytes ∧
      Staged contentTmpName bytes dir stage
  | .writingIndex stage index bytes =>
    ∃ entry, index.entries = entries ++ [entry] ∧ entry.idempotencyKey = put.key ∧
      entry.scanId = put.snapshot.scanId ∧ Unused entries put.key ∧ HasContent libs dir entry ∧
      libs.indexToVec index = .ok bytes ∧ Staged indexTmpName bytes dir stage
  | .unlocking result => ∀ id, result = .ok id → Recorded entries put.key id
  | .leaving result => ∀ id, result = .ok id → Recorded entries put.key id
  | .returned result => ∀ id, result = .ok id → Recorded entries put.key id

def ReadPhase.Holds {β : Type} (libs : StoreLibs β) (dir : StoreDir β) : ReadPhase → Prop
  | .checkingIndex => True
  | .readingIndex => (dir.files indexName).isSome
  | .readingContent entry => HasContent libs dir entry
  | .returned _ => True

section

variable {ι β : Type} {libs : StoreLibs β} {empty : β} {puts : ι → Put} {dir dir' : StoreDir β}
  {entries : List IndexEntry} {call : ι}

/-- A call of `write_atomic` touches the temporary file only, or is the rename
of all the bytes. -/
theorem writeAtomicStep_cases {tmpName finalName : String} {bytes : β} {stage : WriteStage} {event : FileEvent β}
    {result : Except StoreError (Option WriteStage)} (staged : Staged tmpName bytes dir stage)
    (h : writeAtomicStep empty tmpName finalName bytes dir stage event = some (result, dir')) :
    (result = .ok none ∧
        dir'.files = Function.update (Function.update dir.files finalName (some bytes)) tmpName none) ∨
      ((∀ name, name ≠ tmpName → dir'.files name = dir.files name) ∧
        ((∃ error, result = .error error) ∨ ∃ next, result = .ok (some next) ∧ Staged tmpName bytes dir' next)) := by
  have touch : ∀ (part : β) (name : String), name ≠ tmpName →
      Function.update dir.files tmpName (some part) name = dir.files name := fun part name hne =>
    Function.update_of_ne hne _ _
  unfold writeAtomicStep at h
  split at h
  next =>
    cases h
    exact .inr ⟨touch empty, .inr ⟨.locking, rfl, by simp [Staged]⟩⟩
  next message =>
    cases h
    exact .inr ⟨fun _ _ => rfl, .inl ⟨.io message, rfl⟩⟩
  next =>
    cases h
    exact .inr ⟨fun _ _ => rfl, .inr ⟨.writing, rfl, by simp [Staged]⟩⟩
  next =>
    cases h
    exact .inr ⟨fun _ _ => rfl, .inl ⟨.locked, rfl⟩⟩
  next part =>
    cases h
    exact .inr ⟨touch part, .inr ⟨.writing, rfl, by simp [Staged]⟩⟩
  next =>
    cases h
    exact .inr ⟨touch bytes, .inr ⟨.syncing, rfl, by simp [Staged]⟩⟩
  next message =>
    cases h
    exact .inr ⟨fun _ _ => rfl, .inl ⟨.io message, rfl⟩⟩
  next =>
    cases h
    exact .inr ⟨fun _ _ => rfl, .inr ⟨.renaming, rfl, fun _ => staged (.inl rfl)⟩⟩
  next message =>
    cases h
    exact .inr ⟨fun _ _ => rfl, .inl ⟨.io message, rfl⟩⟩
  next =>
    rw [staged (.inr rfl)] at h
    cases h
    exact .inl ⟨rfl, rfl⟩
  next message =>
    cases h
    exact .inr ⟨fun _ _ => rfl, .inl ⟨.io message, rfl⟩⟩
  next => cases h

theorem searchIndex_holds (lawful : LawfulPuts libs puts) (dir : StoreDir β) (entries : List IndexEntry)
    (call : ι) :
    (searchIndex libs (puts call) ⟨entries⟩).Holds libs (puts call) dir entries ∧
      (searchIndex libs (puts call) ⟨entries⟩).locked = true := by
  obtain ⟨bytes, hvec, -⟩ := lawful.body call
  unfold searchIndex
  cases hf : entries.find? (fun entry => entry.idempotencyKey = (puts call).key) with
  | some existing =>
    have hkey : existing.idempotencyKey = (puts call).key := by simpa using List.find?_some hf
    refine ⟨fun id hid => ?_, rfl⟩
    cases hid
    exact ⟨existing, List.mem_of_find?_eq_some hf, hkey, rfl⟩
  | none =>
    have unused : Unused entries (puts call).key := fun entry he => by
      simpa using List.find?_eq_none.mp hf entry he
    simp only [hvec]
    exact ⟨⟨rfl, unused, hvec⟩, rfl⟩

theorem pushEntry_holds (lawful : LawfulPuts libs puts) {bytes : β} (unused : Unused entries (puts call).key)
    (body : libs.toVec (puts call).snapshot = .ok bytes)
    (stored : dir.files (contentName (libs.blake3 bytes)) = some bytes) :
    (pushEntry libs (puts call) ⟨entries⟩ bytes).Holds libs (puts call) dir entries ∧
      (pushEntry libs (puts call) ⟨entries⟩ bytes).locked = true := by
  obtain ⟨bytes', hvec, hslice⟩ := lawful.body call
  cases body.symm.trans hvec
  let entry : IndexEntry :=
    ⟨(puts call).snapshot.scanId, (puts call).snapshot.hostId, (puts call).key, libs.blake3 bytes⟩
  obtain ⟨indexBytes, hindex, -⟩ := lawful.indexRoundTrip ⟨entries ++ [entry]⟩
  have pushed : pushEntry libs (puts call) ⟨entries⟩ bytes = .writingIndex .opening ⟨entries ++ [entry]⟩ indexBytes := by
    unfold pushEntry
    simp only [entry] at hindex
    simp only [hindex, entry]
  rw [pushed]
  refine ⟨⟨entry, rfl, rfl, rfl, unused, ?_, hindex, by simp [Staged]⟩, rfl⟩
  exact ⟨bytes, (puts call).snapshot, stored, rfl, hslice, rfl, rfl⟩

/-- A call between its locks keeps the store intact, adds entries only, and
leaves locals that are true of the directory. The one exception is an index
that exists and is not seen. -/
theorem putBlockingStep_intact (lawful : LawfulPuts libs puts) (h : Intact libs puts dir entries)
    {phase phase' : PutPhase β} {event : FileEvent β} (holds : phase.Holds libs (puts call) dir entries)
    (seen : ∀ message, phase = .checkingIndex → event = .failed message → (dir.files indexName).isSome = false)
    (step : putBlockingStep libs empty (puts call) dir phase event = some (phase', dir')) :
    ∃ later, Intact libs puts dir' (entries ++ later) ∧ Keeps libs dir dir' ∧
      phase'.Holds libs (puts call) dir' (entries ++ later) ∧ phase'.locked = true := by
  have still : ∀ {phase' : PutPhase β}, phase'.Holds libs (puts call) dir entries ∧ phase'.locked = true →
      ∃ later, Intact libs puts dir (entries ++ later) ∧ Keeps libs dir dir ∧
        phase'.Holds libs (puts call) dir (entries ++ later) ∧ phase'.locked = true := by
    intro phase' hphase
    refine ⟨[], ?_⟩
    rw [List.append_nil]
    exact ⟨h, .refl libs dir, hphase⟩
  have failing : ∀ error : StoreError, ((PutPhase.unlocking (.error error) : PutPhase β).Holds libs (puts call) dir
      entries) ∧ (PutPhase.unlocking (.error error) : PutPhase β).locked = true :=
    fun error => ⟨fun id hid => (by cases hid), rfl⟩
  have searched := searchIndex_holds lawful dir entries call
  unfold putBlockingStep at step
  split at step
  next =>
    split at step
    next present =>
      cases step
      exact still ⟨present, rfl⟩
    next absent =>
      cases step
      obtain rfl := h.entries_nil (by simpa using absent)
      exact still searched
  next message =>
    cases step
    obtain rfl := h.entries_nil (seen message rfl rfl)
    exact still searched
  next =>
    rw [h.readIndexFile holds] at step
    cases step
    exact still searched
  next message =>
    cases step
    exact still (failing (.io message))
  next index bytes =>
    obtain ⟨rfl, unused, body⟩ := holds
    split at step
    next present =>
      cases step
      obtain ⟨stored, hstored⟩ := Option.isSome_iff_exists.mp present
      obtain ⟨hash, j, hj⟩ := h.own bytes stored hstored
      rw [lawful.body_unique hj body hash] at hstored
      exact still (pushEntry_holds lawful unused body hstored)
    next =>
      cases step
      exact still ⟨⟨rfl, unused, body, by simp [Staged]⟩, rfl⟩
  next index bytes message =>
    obtain ⟨rfl, unused, body⟩ := holds
    cases step
    exact still ⟨⟨rfl, unused, body, by simp [Staged]⟩, rfl⟩
  next stage index bytes event =>
    obtain ⟨rfl, unused, body, staged⟩ := holds
    obtain ⟨⟨result, written⟩, hwrite, hnext⟩ := Option.map_eq_some_iff.mp step
    rcases writeAtomicStep_cases staged hwrite with ⟨rfl, files⟩ | ⟨same, ⟨error, rfl⟩ | ⟨next, rfl, hstaged⟩⟩
    · cases hnext
      obtain ⟨intact, keeps, stored⟩ := h.rename_content lawful body files
      obtain ⟨hholds, hlocked⟩ := pushEntry_holds lawful unused body stored
      exact ⟨[], by simpa using intact, keeps, by simpa using hholds, hlocked⟩
    · cases hnext
      obtain ⟨intact, keeps⟩ := h.same_files dir' (fun name _ htmp => same name htmp)
      exact ⟨[], by simpa using intact, keeps, fun id hok => (by cases hok), rfl⟩
    · cases hnext
      obtain ⟨intact, keeps⟩ := h.same_files dir' (fun name _ htmp => same name htmp)
      exact ⟨[], by simpa using intact, keeps, by simpa [PutPhase.Holds] using ⟨unused, body, hstaged⟩, rfl⟩
  next stage index bytes event =>
    obtain ⟨entry, hentries, hkey, hid, unused, content, serialized, staged⟩ := holds
    obtain ⟨⟨result, written⟩, hwrite, hnext⟩ := Option.map_eq_some_iff.mp step
    rcases writeAtomicStep_cases staged hwrite with ⟨rfl, files⟩ | ⟨same, ⟨error, rfl⟩ | ⟨next, rfl, hstaged⟩⟩
    · cases hnext
      obtain ⟨intact, keeps⟩ := h.rename_index lawful content (fun other ho => hkey ▸ unused other ho)
        (hentries ▸ serialized) files
      refine ⟨[entry], intact, keeps, fun id hok => ?_, rfl⟩
      cases hok
      exact ⟨entry, by simp, hkey, hid⟩
    · cases hnext
      obtain ⟨intact, keeps⟩ := h.same_files dir' (fun name htmp _ => same name htmp)
      exact ⟨[], by simpa using intact, keeps, fun id hok => (by cases hok), rfl⟩
    · cases hnext
      obtain ⟨intact, keeps⟩ := h.same_files dir' (fun name htmp _ => same name htmp)
      refine ⟨[], by simpa using intact, keeps, ?_, rfl⟩
      rw [List.append_nil]
      exact ⟨entry, hentries, hkey, hid, unused, keeps.content entry content, serialized, hstaged⟩
  next => cases step

theorem PutPhase.Holds.of_unlocked {put : Put} {later : List IndexEntry} {phase : PutPhase β}
    (unlocked : phase.locked = false) (h : phase.Holds libs put dir entries) :
    phase.Holds libs put dir' (entries ++ later) := by
  have grown : ∀ id, Recorded entries put.key id → Recorded (entries ++ later) put.key id := by
    rintro id ⟨entry, he, hentry⟩
    exact ⟨entry, List.mem_append_left _ he, hentry⟩
  cases phase with
  | entering => trivial
  | acquiring => trivial
  | crashed => trivial
  | leaving result => exact fun id hid => grown id (h id hid)
  | returned result => exact fun id hid => grown id (h id hid)
  | checkingIndex => cases unlocked
  | readingIndex => cases unlocked
  | checkingContent index bytes => cases unlocked
  | writingContent stage index bytes => cases unlocked
  | writingIndex stage index bytes => cases unlocked
  | unlocking result => cases unlocked

theorem PutPhase.Holds.killed {put : Put} {phase : PutPhase β}
    (h : phase.Holds libs put dir entries) : phase.killed.Holds libs put dir entries := by
  cases phase with
  | returned result => exact h
  | _ => trivial

theorem PutPhase.killed_unlocked (phase : PutPhase β) : phase.killed.locked = false := by
  cases phase <;> rfl

theorem ReadPhase.Holds.keep (keeps : Keeps libs dir dir')
    {phase : ReadPhase} (h : phase.Holds libs dir) : phase.Holds libs dir' := by
  cases phase with
  | checkingIndex => trivial
  | readingIndex => exact keeps.index h
  | readingContent entry => exact keeps.content entry h
  | returned answer => trivial

theorem answerFromIndex_holds (content : ∀ entry ∈ entries, HasContent libs dir entry) (call : ReadCall) :
    (answerFromIndex ⟨entries⟩ call).Holds libs dir := by
  cases call with
  | list host => trivial
  | get id =>
    simp only [answerFromIndex]
    cases hf : entries.find? (fun entry => entry.scanId = id) with
    | none => trivial
    | some entry => exact content entry (List.mem_of_find?_eq_some hf)

theorem answerError_holds (error : StoreError) (call : ReadCall) :
    (answerError error call).Holds libs dir := by
  cases call <;> trivial

/-- A reader goes on only to files that are there. -/
theorem readStep_holds (h : Intact libs puts dir entries)
    {call : ReadCall} {phase phase' : ReadPhase} {event : FileEvent β} (holds : phase.Holds libs dir)
    (step : readStep libs call dir phase event = some phase') : phase'.Holds libs dir := by
  have answered := answerFromIndex_holds h.content call
  have empty : (answerFromIndex ⟨[]⟩ call).Holds libs dir := answerFromIndex_holds (by simp) call
  unfold readStep at step
  split at step
  next =>
    split at step
    next present =>
      cases step
      exact present
    next =>
      cases step
      exact empty
  next =>
    cases step
    exact empty
  next =>
    rw [h.readIndexFile holds] at step
    cases step
    exact answered
  next message =>
    cases step
    exact answerError_holds _ call
  next entry =>
    obtain ⟨bytes, snapshot, hfile, -, hslice, -⟩ := holds
    rw [hfile] at step
    simp only [hslice] at step
    cases step
    trivial
  next message =>
    cases step
    exact answerError_holds _ call
  next => cases step

theorem getBlocking_recorded (h : Intact libs puts dir entries) {key : IdempotencyKey} {id : ScanId}
    (recorded : Recorded entries key id) :
    ∃ snapshot, getBlocking libs dir id = .ok (some snapshot) ∧ snapshot.scanId = id := by
  obtain ⟨entry, he, -, hid⟩ := recorded
  unfold getBlocking
  rw [h.index]
  cases hf : entries.find? (fun entry => entry.scanId = id) with
  | none => exact absurd hid (by simpa using List.find?_eq_none.mp hf entry he)
  | some first =>
    have hfirst : first.scanId = id := by simpa using List.find?_some hf
    obtain ⟨bytes, snapshot, hfile, -, hslice, hscan, -⟩ := h.content first (List.mem_of_find?_eq_some hf)
    refine ⟨snapshot, ?_, hscan.trans hfirst⟩
    simp only [hf, hfile, hslice]
    rfl

end

end AnneDeBreuil
