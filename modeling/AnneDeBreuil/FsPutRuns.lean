import AnneDeBreuil.FsPutSafety
import AnneDeBreuil.FsPutContract

namespace AnneDeBreuil

section

variable {ι π ρ β : Type}

structure StoreSystem.Inv (sys : StoreSystem ι π ρ β) (s : StoreState ι π ρ β) (entries : List IndexEntry) :
    Prop where
  intact : Intact sys.libs sys.put s.dir entries
  exclusive : ∀ call, (s.phase call).locked = true → s.flock = some call
  calls : ∀ call, (s.phase call).Holds sys.libs (sys.put call) s.dir entries
  readers : ∀ call, (s.reader call).Holds sys.libs s.dir

/-- The step is not one in which `put` fails to see an index that exists. -/
def IndexSeen (s : StoreState ι π ρ β) : StoreAction ι π ρ β → Prop
  | .put call (.failed _) => s.phase call = .checkingIndex → (s.dir.files indexName).isSome = false
  | _ => True

/-- The store as its users need it: the index reads, its entries name complete
content files, no key is there twice, every put that answered is recorded and
readable, and no reader is about to miss a file. -/
structure StoreSystem.Sound (sys : StoreSystem ι π ρ β) (s : StoreState ι π ρ β) : Prop where
  index : ∃ index, readIndex sys.libs s.dir = .ok index ∧
    (index.entries.map IndexEntry.idempotencyKey).Nodup ∧
    (∀ entry ∈ index.entries, HasContent sys.libs s.dir entry) ∧
    ∀ call id, s.phase call = .returned (.ok id) → Recorded index.entries (sys.put call).key id
  readable : ∀ call id, s.phase call = .returned (.ok id) →
    ∃ snapshot, getBlocking sys.libs s.dir id = .ok (some snapshot) ∧ snapshot.scanId = id
  readers : ∀ call, (s.reader call).Holds sys.libs s.dir

variable {sys : StoreSystem ι π ρ β} {s t : StoreState ι π ρ β} {entries later : List IndexEntry}

theorem StoreSystem.Inv.sound (h : sys.Inv s entries) : sys.Sound s := by
  have recorded : ∀ call id, s.phase call = .returned (.ok id) → Recorded entries (sys.put call).key id := by
    intro call id hphase
    have holds := h.calls call
    rw [hphase] at holds
    exact holds id rfl
  refine ⟨⟨⟨entries⟩, h.intact.index, h.intact.keys, h.intact.content, recorded⟩, ?_, h.readers⟩
  exact fun call id hphase => getBlocking_recorded h.intact (recorded call id hphase)

/-- A step of one call: the others keep what they know, since only the holder
of the lock writes. -/
theorem StoreSystem.Inv.moved (h : sys.Inv s entries) (call : ι)
    (intact : Intact sys.libs sys.put t.dir (entries ++ later)) (keeps : Keeps sys.libs s.dir t.dir)
    (others : ∀ other, other ≠ call → t.phase other = s.phase other)
    (moved : (t.phase call).Holds sys.libs (sys.put call) t.dir (entries ++ later))
    (exclusive : ∀ other, (t.phase other).locked = true → t.flock = some other)
    (writers : ∀ other, other ≠ call → (s.phase other).locked = true →
      (s.phase other).Holds sys.libs (sys.put other) t.dir (entries ++ later))
    (readers : t.reader = s.reader) : sys.Inv t (entries ++ later) where
  intact := intact
  exclusive := exclusive
  calls := by
    intro other
    by_cases hcall : other = call
    · rw [hcall]
      exact moved
    · rw [others other hcall]
      cases hlocked : (s.phase other).locked with
      | true => exact writers other hcall hlocked
      | false => exact (h.calls other).of_unlocked hlocked
  readers := by
    intro reader
    rw [readers]
    exact (h.readers reader).keep keeps

variable [DecidableEq ι]

theorem setPhase_other {call other : ι} (phase : PutPhase β) (h : other ≠ call) :
    (s.setPhase call phase).phase other = s.phase other :=
  Function.update_of_ne h _ _

theorem setPhase_self (call : ι) (phase : PutPhase β) : (s.setPhase call phase).phase call = phase :=
  Function.update_self _ _ _

/-- A step that moves a call outside its lock and leaves the files alone. -/
theorem StoreSystem.Inv.outside (h : sys.Inv s entries) {call : ι} {phase : PutPhase β}
    (phases : t.phase = (s.setPhase call phase).phase) (files : t.dir.files = s.dir.files)
    (readers : t.reader = s.reader) (unlocked : phase.locked = false)
    (moved : phase.Holds sys.libs (sys.put call) s.dir entries)
    (flock : ∀ other, other ≠ call → s.flock = some other → t.flock = some other) : sys.Inv t entries := by
  have intact := h.intact.same_files t.dir (fun name _ _ => congrFun files name)
  have settled : sys.Inv t (entries ++ []) := h.moved call (by simpa using intact.1) intact.2
    (fun other hne => by rw [phases, setPhase_other phase hne]) (by
      rw [phases, setPhase_self]
      exact moved.of_unlocked unlocked) (by
      intro other hlocked
      by_cases hcall : other = call
      · rw [phases, hcall, setPhase_self, unlocked] at hlocked
        cases hlocked
      · rw [phases, setPhase_other phase hcall] at hlocked
        exact flock other hcall (h.exclusive other hlocked)) (by
      intro other _ _
      have holds := h.calls other
      rw [List.append_nil]
      have same : s.dir.files = t.dir.files := files.symm
      revert holds
      cases s.phase other <;> simp only [PutPhase.Holds, HasContent, Staged, same] <;> exact id) readers
  rwa [List.append_nil] at settled

variable [DecidableEq π] [DecidableEq ρ]

theorem StoreSystem.Inv.put_step (lawful : LawfulPuts sys.libs sys.put) (h : sys.Inv s entries) {call : ι}
    {event : FileEvent β} (seen : IndexSeen s (.put call event)) (step : sys.step s (.put call event) = some t) :
    ∃ later, sys.Inv t (entries ++ later) := by
  have settled : sys.Inv t entries → ∃ later, sys.Inv t (entries ++ later) := fun hinv => ⟨[], by simpa using hinv⟩
  unfold StoreSystem.step at step
  simp only at step
  split at step
  next =>
    split at step
    next =>
      cases step
      exact settled (h.outside rfl rfl rfl rfl trivial (fun _ _ => id))
    next => cases step
  next hphase =>
    split at step
    next hfree =>
      cases step
      have nobody : ∀ other, (s.phase other).locked = false := by
        intro other
        by_contra hlocked
        have held := h.exclusive other (by simpa using hlocked)
        rw [hfree] at held
        cases held
      obtain ⟨intact, keeps⟩ := h.intact.same_files (acquireStoreLock s.dir) (fun _ _ _ => rfl)
      refine ⟨[], h.moved call (by simpa using intact) keeps
        (fun other hne => setPhase_other .checkingIndex hne) ?_ ?_
        (fun other _ hother => absurd hother (by simp [nobody other])) rfl⟩
      · show ((s.setPhase call .checkingIndex).phase call).Holds _ _ _ _
        rw [setPhase_self]
        trivial
      · intro other hother
        by_cases hcall : other = call
        · rw [hcall]
        · have kept := setPhase_other (s := s) .checkingIndex hcall
          exact absurd (kept ▸ hother) (by simp [nobody other])
    next =>
      cases step
      exact settled (h.outside rfl rfl rfl rfl (fun id hid => by cases hid) (fun _ _ => id))
  next hphase =>
    cases step
    exact settled (h.outside rfl rfl rfl rfl (fun id hid => by cases hid) (fun _ _ => id))
  next result hphase =>
    cases step
    have holds := h.calls call
    have holder := h.exclusive call
    rw [hphase] at holds holder
    refine settled (h.outside rfl rfl rfl rfl (fun id hid => holds id hid) (fun other hne held => ?_))
    rw [holder rfl] at held
    exact absurd (Option.some.inj held).symm hne
  next result hphase =>
    cases step
    have holds := h.calls call
    rw [hphase] at holds
    exact settled (h.outside rfl rfl rfl rfl (fun id hid => holds id hid) (fun _ _ => id))
  next phase event _ _ _ _ _ =>
    obtain ⟨⟨phase', dir'⟩, hstep, rfl⟩ := Option.map_eq_some_iff.mp step
    have hlocked : (s.phase call).locked = true := by
      revert hstep
      cases s.phase call <;> simp [putBlockingStep, PutPhase.locked]
    obtain ⟨later, intact, keeps, holds, locked⟩ := putBlockingStep_intact lawful h.intact (h.calls call)
      (fun message hp he => by
        rw [he] at seen
        exact seen hp) hstep
    have holder := h.exclusive call hlocked
    have alone : ∀ other, other ≠ call → (s.phase other).locked ≠ true := by
      intro other hne hother
      have held := h.exclusive other hother
      rw [holder] at held
      exact hne (Option.some.inj held).symm
    refine ⟨later, h.moved call intact keeps (fun other hne => setPhase_other phase' hne) ?_ ?_
      (fun other hne hother => absurd hother (alone other hne)) rfl⟩
    · show ((s.setPhase call phase').phase call).Holds _ _ _ _
      rw [setPhase_self]
      exact holds
    · intro other hother
      by_cases hcall : other = call
      · rw [hcall]
        exact holder
      · have kept := setPhase_other (s := s) phase' hcall
        exact absurd (kept ▸ hother) (alone other hcall)

theorem StoreSystem.Inv.crash (h : sys.Inv s entries) (process : π) (step : sys.step s (.crash process) = some t) :
    sys.Inv t entries := by
  cases step
  refine ⟨h.intact, fun call hlocked => ?_, fun call => ?_, h.readers⟩
  · simp only at hlocked ⊢
    split at hlocked
    next => cases hlocked.symm.trans (PutPhase.killed_unlocked _)
    next hprocess =>
      rw [h.exclusive call hlocked]
      simpa using hprocess
  · simp only
    split
    · exact (h.calls call).killed
    · exact h.calls call

theorem StoreSystem.Inv.step (lawful : LawfulPuts sys.libs sys.put) (h : ∃ entries, sys.Inv s entries)
    (action : StoreAction ι π ρ β) (seen : IndexSeen s action) (step : sys.step s action = some t) :
    ∃ entries, sys.Inv t entries := by
  obtain ⟨entries, hinv⟩ := h
  cases action with
  | put call event =>
    obtain ⟨later, hlater⟩ := hinv.put_step lawful seen step
    exact ⟨entries ++ later, hlater⟩
  | crash process => exact ⟨entries, hinv.crash process step⟩
  | read call event =>
    obtain ⟨phase, hread, rfl⟩ := Option.map_eq_some_iff.mp step
    refine ⟨entries, hinv.intact, hinv.exclusive, hinv.calls, fun reader => ?_⟩
    by_cases hcall : reader = call
    · simp only [hcall, Function.update_self]
      exact readStep_holds hinv.intact (hinv.readers call) hread
    · simp only [Function.update_of_ne hcall]
      exact hinv.readers reader

/-- Every state of every run is sound: any puts in any processes, any readers,
any order of steps, failures and crashes, as long as no `put` overlooks an
index that exists. -/
theorem fsStore_sound (lawful : LawfulPuts sys.libs sys.put) {trace : List (StoreState ι π ρ β × StoreAction ι π ρ β)}
    (run : Run sys.step (.initial ι π ρ β) trace s) (seen : ∀ p ∈ trace, IndexSeen p.1 p.2) : sys.Sound s := by
  have start : sys.Inv (.initial ι π ρ β) [] :=
    ⟨fresh_intact sys.libs sys.put, fun _ hlocked => (by cases hlocked), fun _ => trivial, fun _ => trivial⟩
  have kept := run.invariant (fun s => ∃ entries, sys.Inv s entries) IndexSeen ⟨[], start⟩
    (fun _ action _ hinv hseen hstep => StoreSystem.Inv.step lawful hinv action hseen hstep) seen
  obtain ⟨entries, hinv⟩ := kept
  exact hinv.sound

end

/-- Two puts in one process, and a reader of the first scan. -/
def twoPuts : StoreSystem Bool Unit Unit (ScanSnapshot ⊕ Index) where
  libs := taggedLibs
  empty := .inr ⟨[]⟩
  put second := if second then ⟨⟨2⟩, emptyScan ⟨8⟩ 1⟩ else ⟨⟨1⟩, emptyScan ⟨7⟩ 0⟩
  process _ := ()
  read _ := .get ⟨7⟩

theorem twoPuts_lawful : LawfulPuts twoPuts.libs twoPuts.put := by
  have distinct : ∀ i j : Bool,
      taggedLibs.blake3 (.inl (twoPuts.put i).snapshot) = taggedLibs.blake3 (.inl (twoPuts.put j).snapshot) →
        (twoPuts.put i).snapshot = (twoPuts.put j).snapshot := by decide
  intro calls
  refine taggedLibs_lawful fun s hs t ht hash => ?_
  obtain ⟨i, -, rfl⟩ := List.mem_map.mp hs
  obtain ⟨j, -, rfl⟩ := List.mem_map.mp ht
  exact distinct i j hash

/-- A put that runs to its end, its check for the index answering `check`. -/
def wholePut (call : Bool) (check : FileEvent (ScanSnapshot ⊕ Index)) :
    List (StoreAction Bool Unit Unit (ScanSnapshot ⊕ Index)) :=
  .put call .done :: .put call .done :: .put call check :: List.replicate 13 (.put call .done)

theorem fsStore_sound_crash : ∃ trace s, Run twoPuts.step (.initial Bool Unit Unit _) trace s ∧
    s.phase false = .returned (.ok ⟨7⟩) ∧ s.phase true = .crashed ∧ twoPuts.Sound s := by
  let actions := wholePut false .done ++ List.replicate 13 (.put true .done) ++ [.crash ()]
  have ends : (runList twoPuts.step (.initial Bool Unit Unit _) actions).isSome = true := rfl
  obtain ⟨s, hs⟩ := Option.isSome_iff_exists.mp ends
  obtain ⟨trace, run, labels⟩ := Run.of_runList hs
  have seen : ∀ p ∈ trace, IndexSeen p.1 p.2 := by
    intro p hp
    have hlabel : p.2 ∈ actions := labels ▸ List.mem_map_of_mem hp
    have done : ∀ action ∈ actions, action = .put false .done ∨ action = .put true .done ∨ action = .crash () := by
      simp [actions, wholePut]
    rcases done p.2 hlabel with h | h | h <;> rw [h] <;> trivial
  have first : (runList twoPuts.step (.initial Bool Unit Unit _) actions).map (fun s => s.phase false) =
    some (.returned (.ok ⟨7⟩)) := rfl
  have second : (runList twoPuts.step (.initial Bool Unit Unit _) actions).map (fun s => s.phase true) =
    some .crashed := rfl
  rw [hs] at first second
  exact ⟨trace, s, run, Option.some.inj first, Option.some.inj second, fsStore_sound twoPuts_lawful run seen⟩

/-- A second put whose check for the index fails writes an index of its own
entry alone, and the first put is lost. -/
theorem fsStore_counterexample : LawfulPuts twoPuts.libs twoPuts.put ∧
    ∃ trace s, Run twoPuts.step (.initial Bool Unit Unit _) trace s ∧
      s.phase false = .returned (.ok ⟨7⟩) ∧ s.phase true = .returned (.ok ⟨8⟩) ∧
      getBlocking twoPuts.libs s.dir ⟨7⟩ = .ok none ∧ ¬twoPuts.Sound s := by
  let actions := wholePut false .done ++ wholePut true (.failed "Input/output error")
  have ends : (runList twoPuts.step (.initial Bool Unit Unit _) actions).isSome = true := rfl
  obtain ⟨s, hs⟩ := Option.isSome_iff_exists.mp ends
  obtain ⟨trace, run, -⟩ := Run.of_runList hs
  have first : (runList twoPuts.step (.initial Bool Unit Unit _) actions).map (fun s => s.phase false) =
    some (.returned (.ok ⟨7⟩)) := rfl
  have second : (runList twoPuts.step (.initial Bool Unit Unit _) actions).map (fun s => s.phase true) =
    some (.returned (.ok ⟨8⟩)) := rfl
  have read : (runList twoPuts.step (.initial Bool Unit Unit _) actions).map
    (fun s => getBlocking twoPuts.libs s.dir ⟨7⟩) = some (.ok none) := rfl
  rw [hs] at first second read
  refine ⟨twoPuts_lawful, trace, s, run, Option.some.inj first, Option.some.inj second, Option.some.inj read, ?_⟩
  intro sound
  obtain ⟨snapshot, hget, -⟩ := sound.readable false ⟨7⟩ (Option.some.inj first)
  cases (Option.some.inj read).symm.trans hget

end AnneDeBreuil
