import AnneDeBreuil.KnownHostsRuns
import AnneDeBreuil.Runs

namespace AnneDeBreuil

/-- Where a concurrent `verify_host_key` stands: before `lookup`, before
`record`, or done. -/
inductive VerifyPhase
  | called
  | recording
  | returned (answer : Except TransportError Unit)

/-- Calls that share one book. -/
structure TofuState (ι : Type) where
  book : KnownHosts
  phase : ι → VerifyPhase

def TofuState.initial (ι : Type) (book : KnownHosts) : TofuState ι := ⟨book, fun _ => .called⟩

section

variable {ι : Type} (crates : SshCrates) (calls : ι → HostKeyCall)

/-- One hold of the lock: `lookup` and what its status asks for, or `record`. -/
def verifyStep (book : KnownHosts) (call : HostKeyCall) : VerifyPhase → Option (VerifyPhase × KnownHosts)
  | .called =>
    match book.lookup crates call.host call.key with
    | .known => some (.returned (.ok ()), book)
    | .unknown =>
      if call.acceptNew then some (.recording, book)
      else some (.returned (.error (.unknownHostKey (crates.fingerprint call.key))), book)
    | .changed => some (.returned (.error .hostKeyChanged), book)
  | .recording => some (.returned (.ok ()), book.record call.host call.key)
  | .returned _ => none

/-- One step of one call; the label is the call. -/
def tofuStep [DecidableEq ι] (s : TofuState ι) (i : ι) : Option (TofuState ι) :=
  (verifyStep crates s.book (calls i) (s.phase i)).map fun next =>
    ⟨next.2, Function.update s.phase i next.1⟩

/-- A call that finds its host unknown, and may accept it, does so while no
call with another key for the host is between its two steps. -/
def NoRival (s : TofuState ι) (i : ι) : Prop :=
  s.phase i = .called → s.book.lookup crates (calls i).host (calls i).key = .unknown →
    (calls i).acceptNew = true →
    ∀ j, s.phase j = .recording → (calls j).host = (calls i).host →
      (calls j).key.keyData = (calls i).key.keyData

/-- All calls for the host that returned `Ok` presented one key. -/
def OneKey (host : String) (s : TofuState ι) : Prop :=
  ∀ i j, (calls i).host = host → (calls j).host = host → s.phase i = .returned (.ok ()) →
    s.phase j = .returned (.ok ()) → (calls i).key.keyData = (calls j).key.keyData

end

section

variable {ι : Type} {crates : SshCrates} {calls : ι → HostKeyCall} {host : String} {s t : TofuState ι}

/-- A call whose steps nothing comes between is the sequential one. -/
theorem verifyStep_alone (book : KnownHosts) (call : HostKeyCall) {phase : VerifyPhase} {book' : KnownHosts}
    (h : verifyStep crates book call .called = some (phase, book')) :
    (∃ answer, phase = .returned answer ∧ call.run crates book = (answer, book')) ∨
      phase = .recording ∧ verifyStep crates book' call phase =
        some (.returned (call.run crates book).1, (call.run crates book).2) := by
  simp only [verifyStep] at h
  unfold HostKeyCall.run verifyHostKey
  cases hstatus : book.lookup crates call.host call.key with
  | known =>
    simp only [hstatus] at h
    cases h
    exact .inl ⟨.ok (), rfl, rfl⟩
  | changed =>
    simp only [hstatus] at h
    cases h
    exact .inl ⟨.error .hostKeyChanged, rfl, rfl⟩
  | unknown =>
    simp only [hstatus] at h
    split at h
    next hnew =>
      cases h
      exact .inr ⟨rfl, by simp [verifyStep, hnew]⟩
    next hnew =>
      cases h
      exact .inl ⟨.error (.unknownHostKey (crates.fingerprint call.key)), rfl, by simp [hnew]⟩

/-- One key for the host: among its entries, the calls about to record it, and
the calls that were let in, which all left it in the book. -/
structure Agreed (crates : SshCrates) (calls : ι → HostKeyCall) (host : String) (s : TofuState ι) : Prop where
  entries : ∀ key ∈ s.book.keysFor crates host, ∀ other ∈ s.book.keysFor crates host, key.keyData = other.keyData
  pending : ∀ i, (calls i).host = host → s.phase i = .recording →
    ∀ key ∈ s.book.keysFor crates host, key.keyData = (calls i).key.keyData
  rivals : ∀ i j, (calls i).host = host → (calls j).host = host → s.phase i = .recording →
    s.phase j = .recording → (calls i).key.keyData = (calls j).key.keyData
  admitted : ∀ i, (calls i).host = host → s.phase i = .returned (.ok ()) →
    Carries (s.book.keysFor crates host) (calls i).key

theorem Agreed.oneKey (h : Agreed crates calls host s) : OneKey calls host s := by
  intro i j hi hj hoki hokj
  obtain ⟨key, hkey, hdata⟩ := h.admitted i hi hoki
  obtain ⟨other, hother, hdata'⟩ := h.admitted j hj hokj
  rw [← hdata, ← hdata']
  exact h.entries key hkey other hother

variable [DecidableEq ι]

/-- A call that returns leaves the calls about to record as they are. -/
theorem still_recording {i j : ι} {answer : Except TransportError Unit}
    (h : Function.update s.phase i (.returned answer) j = .recording) : s.phase j = .recording := by
  by_cases hji : j = i
  · rw [hji, Function.update_self] at h
    cases h
  · rwa [Function.update_of_ne hji] at h

/-- A step that leaves the book alone and lets a call in only for a key the
book has. -/
theorem Agreed.answered (h : Agreed crates calls host s) {i : ι} {answer : Except TransportError Unit}
    (known : answer = .ok () → Carries (s.book.keysFor crates (calls i).host) (calls i).key) :
    Agreed crates calls host ⟨s.book, Function.update s.phase i (.returned answer)⟩ := by
  refine ⟨h.entries, fun j hhost hj => h.pending j hhost (still_recording hj),
    fun j k hj hk hjr hkr => h.rivals j k hj hk (still_recording hjr) (still_recording hkr), fun j hhost hj => ?_⟩
  by_cases hji : j = i
  · subst hji
    simp only [Function.update_self] at hj
    injection hj with hok
    rw [← hhost]
    exact known hok
  · simp only [Function.update_of_ne hji] at hj
    exact h.admitted j hhost hj

theorem Agreed.pend (h : Agreed crates calls host s) {i : ι} (unknown : s.book.keysFor crates (calls i).host = [])
    (noRival : ∀ j, s.phase j = .recording → (calls j).host = (calls i).host →
      (calls j).key.keyData = (calls i).key.keyData) :
    Agreed crates calls host ⟨s.book, Function.update s.phase i .recording⟩ := by
  refine ⟨h.entries, fun j hhost hj => ?_, fun j k hj hk hjr hkr => ?_, fun j hhost hj => ?_⟩
  · by_cases hji : j = i
    · subst hji
      rw [← hhost, unknown]
      simp
    · simp only [Function.update_of_ne hji] at hj
      exact h.pending j hhost hj
  · by_cases hji : j = i
    · by_cases hki : k = i
      · rw [hji, hki]
      · simp only [Function.update_of_ne hki] at hkr
        rw [hji, noRival k hkr (by rw [hk, ← hj, hji])]
    · simp only [Function.update_of_ne hji] at hjr
      by_cases hki : k = i
      · rw [hki, noRival j hjr (by rw [hj, ← hk, hki])]
      · simp only [Function.update_of_ne hki] at hkr
        exact h.rivals j k hj hk hjr hkr
  · by_cases hji : j = i
    · subst hji
      simp only [Function.update_self] at hj
      cases hj
    · simp only [Function.update_of_ne hji] at hj
      exact h.admitted j hhost hj

theorem Agreed.record (h : Agreed crates calls host s) {i : ι} (recording : s.phase i = .recording) :
    Agreed crates calls host
      ⟨s.book.record (calls i).host (calls i).key, Function.update s.phase i (.returned (.ok ()))⟩ := by
  have grown : ∀ key, key ∈ (s.book.record (calls i).host (calls i).key).keysFor crates host →
      key ∈ s.book.keysFor crates host ∨ (calls i).host = host ∧ key = (calls i).key := by
    intro key hkey
    rw [keysFor_record] at hkey
    split at hkey
    next hhost =>
      rcases List.mem_append.mp hkey with hkey | hkey
      · exact .inl hkey
      · exact .inr ⟨hhost, List.mem_singleton.mp hkey⟩
    next => exact .inl hkey
  refine ⟨?_, ?_, fun j k hj hk hjr hkr => h.rivals j k hj hk (still_recording hjr) (still_recording hkr),
    fun j hhost hj => ?_⟩
  · intro key hkey other hother
    rcases grown key hkey with hkey | ⟨hhost, rfl⟩
    · rcases grown other hother with hother | ⟨hhost, rfl⟩
      · exact h.entries key hkey other hother
      · exact h.pending i hhost recording key hkey
    · rcases grown other hother with hother | ⟨-, rfl⟩
      · exact (h.pending i hhost recording other hother).symm
      · rfl
  · intro j hhost hj key hkey
    rcases grown key hkey with hkey | ⟨hi, rfl⟩
    · exact h.pending j hhost (still_recording hj) key hkey
    · exact h.rivals i j hi hhost recording (still_recording hj)
  · simp only [keysFor_record]
    by_cases hji : j = i
    · subst hji
      rw [if_pos hhost]
      simp
    · simp only [Function.update_of_ne hji] at hj
      have carried := h.admitted j hhost hj
      split
      · exact carries_append.mpr (.inl carried)
      · exact carried

theorem Agreed.step (h : Agreed crates calls host s) (i : ι) (noRival : NoRival crates calls s i)
    (step : tofuStep crates calls s i = some t) : Agreed crates calls host t := by
  obtain ⟨⟨phase, book⟩, hstep, rfl⟩ := Option.map_eq_some_iff.mp step
  unfold verifyStep at hstep
  split at hstep
  next hphase =>
    split at hstep
    next hstatus =>
      cases hstep
      refine h.answered fun _ => ?_
      rw [lookup_spec] at hstatus
      by_contra hcarries
      rw [if_neg hcarries] at hstatus
      split at hstatus <;> cases hstatus
    next hstatus =>
      have unknown : s.book.keysFor crates (calls i).host = [] := by
        rw [lookup_spec] at hstatus
        split at hstatus
        next => cases hstatus
        next =>
          split at hstatus
          next hnil => exact hnil
          next => cases hstatus
      split at hstep
      next hnew =>
        cases hstep
        exact h.pend unknown (noRival hphase hstatus hnew)
      next =>
        cases hstep
        exact h.answered (fun hok => by cases hok)
    next =>
      cases hstep
      exact h.answered (fun hok => by cases hok)
  next hphase =>
    cases hstep
    exact h.record hphase
  next => cases hstep

/-- From a book with no entry for the host, every order of the steps lets in
one key only, as long as no call finds the host unknown while a rival is about
to record. -/
theorem trustOnFirstUse {book : KnownHosts} (noEntry : book.keysFor crates host = [])
    {trace : List (TofuState ι × ι)} (run : Run (tofuStep crates calls) (.initial ι book) trace s)
    (noRival : ∀ p ∈ trace, NoRival crates calls p.1 p.2) : OneKey calls host s := by
  have start : Agreed crates calls host (.initial ι book) := by
    refine ⟨?_, ?_, ?_, ?_⟩
    · intro key hkey
      simp only [TofuState.initial, noEntry] at hkey
      cases hkey
    · intro i _ hi
      cases hi
    · intro i j _ _ hi
      cases hi
    · intro i _ hi
      cases hi
  exact (run.invariant (Agreed crates calls host) (NoRival crates calls) start
    (fun _ i _ h hrival hstep => h.step i hrival hstep) noRival).oneKey

/-- A step that does not meet the condition is all it takes: the two calls go on
and are both let in. -/
theorem rivals_both_let_in {book : KnownHosts} {trace : List (TofuState ι × ι)} {i : ι}
    (run : Run (tofuStep crates calls) (.initial ι book) trace s) (rival : ¬NoRival crates calls s i) :
    ∃ later t, Run (tofuStep crates calls) (.initial ι book) (trace ++ later) t ∧ ¬OneKey calls (calls i).host t := by
  simp only [NoRival, not_forall] at rival
  obtain ⟨hphase, hstatus, hnew, j, hj, hhost, hkey⟩ := rival
  have hne : j ≠ i := by
    intro h
    rw [h, hphase] at hj
    cases hj
  let pending : TofuState ι := ⟨s.book, Function.update s.phase i .recording⟩
  let recorded : TofuState ι :=
    ⟨s.book.record (calls i).host (calls i).key, Function.update pending.phase i (.returned (.ok ()))⟩
  let both : TofuState ι :=
    ⟨recorded.book.record (calls j).host (calls j).key, Function.update recorded.phase j (.returned (.ok ()))⟩
  have looked : tofuStep crates calls s i = some pending := by
    simp [tofuStep, verifyStep, hphase, hstatus, hnew, pending]
  have first : tofuStep crates calls pending i = some recorded := by
    simp [tofuStep, verifyStep, pending, recorded]
  have second : tofuStep crates calls recorded j = some both := by
    simp [tofuStep, verifyStep, recorded, pending, both, hne, hj]
  refine ⟨_, both, by simpa using ((run.snoc looked).snoc first).snoc second, fun oneKey => hkey ?_⟩
  exact (oneKey j i hhost rfl (by simp [both]) (by simp [both, recorded, hne.symm]))

end

/-- Two calls for one new host, each with its own key. -/
def rivalCalls (second : Bool) : HostKeyCall := ⟨"10.0.0.9", if second then secondKey else firstKey, true⟩

theorem trustOnFirstUse_in_turn : ∃ trace s,
    Run (tofuStep blankCrates rivalCalls) (.initial Bool (.parse blankCrates "")) trace s ∧
      s.phase false = .returned (.ok ()) ∧ s.phase true = .returned (.error .hostKeyChanged) ∧
      OneKey rivalCalls "10.0.0.9" s := by
  let start : TofuState Bool := .initial Bool (.parse blankCrates "")
  let looked : TofuState Bool := ⟨start.book, Function.update start.phase false .recording⟩
  let recorded : TofuState Bool :=
    ⟨start.book.record "10.0.0.9" firstKey, Function.update looked.phase false (.returned (.ok ()))⟩
  let refused : TofuState Bool :=
    ⟨recorded.book, Function.update recorded.phase true (.returned (.error .hostKeyChanged))⟩
  have first : tofuStep blankCrates rivalCalls start false = some looked := rfl
  have second : tofuStep blankCrates rivalCalls looked false = some recorded := rfl
  have third : tofuStep blankCrates rivalCalls recorded true = some refused := rfl
  have run := ((Run.refl.snoc first).snoc second).snoc third
  refine ⟨_, refused, run, rfl, rfl, trustOnFirstUse (by decide) run ?_⟩
  have idle : NoRival blankCrates rivalCalls start false := by
    intro _ _ _ j hj
    cases hj
  have busy : NoRival blankCrates rivalCalls looked false := by
    intro hcalled
    cases hcalled
  have known : NoRival blankCrates rivalCalls recorded true := by
    intro _ hstatus
    have changed : recorded.book.lookup blankCrates "10.0.0.9" secondKey = .changed := by decide
    cases hstatus.symm.trans changed
  simp [idle, busy, known]

/-- Both look before either records: two keys are let in for one host. -/
theorem trustOnFirstUse_counterexample :
    (KnownHosts.parse blankCrates "").keysFor blankCrates "10.0.0.9" = [] ∧
    ∃ trace s, Run (tofuStep blankCrates rivalCalls) (.initial Bool (.parse blankCrates "")) trace s ∧
      ¬OneKey rivalCalls "10.0.0.9" s := by
  have ends : runList (tofuStep blankCrates rivalCalls) (.initial Bool (.parse blankCrates ""))
    [false, true, false, true] = some _ := rfl
  obtain ⟨trace, run, -⟩ := Run.of_runList ends
  refine ⟨by decide, trace, _, run, fun oneKey => ?_⟩
  have same := oneKey false true rfl rfl rfl rfl
  revert same
  decide

end AnneDeBreuil
