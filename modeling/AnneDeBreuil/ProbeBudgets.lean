import AnneDeBreuil.ProbeCalls
import Mathlib.Data.List.Perm.Subperm

namespace AnneDeBreuil

section

variable {ι : Type} {l : List ι} {i : ι} {p q : ι → Bool}

/-- A count over distinct members where one of them may change. -/
theorem countP_change [DecidableEq ι] (nodup : l.Nodup) (mem : i ∈ l) (same : ∀ j, j ≠ i → q j = p j) :
    l.countP q + (p i).toNat = l.countP p + (q i).toNat := by
  have rest : (l.erase i).countP q = (l.erase i).countP p := by
    apply List.countP_congr
    intro j hj
    rw [same j]
    rintro rfl
    exact nodup.not_mem_erase hj
  have own : ∀ r : ι → Bool, l.countP r = (l.erase i).countP r + (r i).toNat := by
    intro r
    rw [(List.perm_cons_erase mem).countP_eq r, List.countP_cons]
    cases r i <;> rfl
  rw [own p, own q, rest]
  omega

theorem length_le_countP {sub : List ι} (nodup : sub.Nodup) (h : ∀ j ∈ sub, j ∈ l ∧ p j = true) :
    sub.length ≤ l.countP p := by
  rw [List.countP_eq_length_filter]
  exact (List.subperm_of_subset nodup fun j hj => List.mem_filter.mpr (h j hj)).length_le

end

namespace ProberState

variable {ν : Type} {nets : IpNetLib ν} {config : ProbeConfig ν} {s t : ProberState} {ip : IpAddr} {port : UInt16}

/-- The permits and the budget of a host, which has both unspent until it is entered. -/
def account (s : ProberState) (config : ProbeConfig ν) (ip : IpAddr) : HostState :=
  (s.hostState ip).getD ⟨config.maxConcurrentPerHost, 0⟩

theorem account_update {state : HostState} {gate : RateGate Nat} (other : IpAddr) :
    account ⟨Function.update s.hostState ip (some state), gate⟩ config other =
      if other = ip then state else s.account config other := by
  by_cases h : other = ip
  · simp [account, h]
  · simp [account, h]

theorem enter_granted (h : s.enter nets config ip port = some (t, .ok ())) :
    config.exclude.excludes nets ip port = false ∧ (s.account config ip).issued < config.maxProbesPerHost ∧
      t = ⟨Function.update s.hostState ip
        (some { s.account config ip with issued := (s.account config ip).issued + 1 }), s.rateGate⟩ := by
  refine ⟨enter_ok h, ?_⟩
  unfold enter reserve at h
  split at h
  next => cases h
  next =>
    split at h
    next => cases h
    next =>
      dsimp only at h
      split at h
      next => cases h
      next within =>
        cases h
        exact ⟨Nat.lt_of_not_le within, rfl⟩

theorem enter_refused {error : ProbeError} (h : s.enter nets config ip port = some (t, .error error)) (other : IpAddr) :
    t.account config other = s.account config other ∧ (s.hostState other ≠ none → t.hostState other ≠ none) := by
  unfold enter reserve at h
  split at h
  next => cases h; exact ⟨rfl, id⟩
  next =>
    split at h
    next => cases h
    next =>
      dsimp only at h
      split at h
      next =>
        cases h
        refine ⟨?_, ?_⟩
        · rw [account_update]
          split
          next same => rw [same]; rfl
          next => rfl
        · intro known
          by_cases same : other = ip
          · simp [same]
          · simpa [Function.update_of_ne same] using known
      next => cases h

/-- An excluded call leaves the prober as it is. -/
theorem enter_excluded (h : config.exclude.excludes nets ip port = true) :
    s.enter nets config ip port = some (s, .error .excluded) := by
  rw [enter, if_pos h]

theorem acquire_eq_some : s.acquire ip = some t ↔ ∃ state, s.hostState ip = some state ∧ 0 < state.permits ∧
    t = ⟨Function.update s.hostState ip (some { state with permits := state.permits - 1 }), s.rateGate⟩ := by
  unfold acquire
  constructor
  · intro h
    split at h
    next state hstate =>
      split at h
      next free => cases h; exact ⟨state, hstate, free, rfl⟩
      next => cases h
    next => cases h
  · rintro ⟨state, hstate, free, rfl⟩
    rw [hstate]
    dsimp only
    rw [if_pos free]

theorem release_eq {state : HostState} (h : s.hostState ip = some state) :
    s.release ip = ⟨Function.update s.hostState ip (some { state with permits := state.permits + 1 }), s.rateGate⟩ := by
  rw [release, h]
  rfl

/-- A host's books after one of its permits is taken or given back. -/
theorem account_permits (config : ProbeConfig ν) {state : HostState} {gate : RateGate Nat} {permits : Nat} (hstate : s.hostState ip = some state)
    (ht : t = ⟨Function.update s.hostState ip (some { state with permits := permits }), gate⟩) :
    (∀ other, s.hostState other ≠ none → t.hostState other ≠ none) ∧
    (∀ other, (t.account config other).issued = (s.account config other).issued) ∧
    (∀ other ≠ ip, (t.account config other).permits = (s.account config other).permits) ∧
    (t.account config ip).permits = permits ∧ (s.account config ip).permits = state.permits := by
  have own : s.account config ip = state := by rw [account, hstate, Option.getD_some]
  subst ht
  refine ⟨?_, ?_, ?_, ?_, by rw [own]⟩
  · intro other known
    by_cases same : other = ip
    · simp [same]
    · simpa [Function.update_of_ne same] using known
  · intro other
    rw [account_update]
    split
    next same => rw [same, own]
    next => rfl
  · intro other same
    rw [account_update, if_neg same]
  · rw [account_update, if_pos rfl]

/-- What a step of a call does to its host's permits: it takes one, gives its
own back, or neither. -/
theorem callStep_hosts {now call requests : Nat} {phase : CallPhase} {action : CallAction} {after : Option CallPhase}
    (h : s.callStep config now call ip requests phase action = some (t, after)) :
    (phase = .acquiring ∧ s.acquire ip = some t ∧ after = some (.throttling 0)) ∨
    (phase.holds = true ∧ action ≠ .acquire ∧ t = s.release ip ∧ after = none) ∨
    (phase.holds = true ∧ action ≠ .acquire ∧ t.hostState = s.hostState ∧ ∃ later, after = some later ∧ later.holds = true) := by
  unfold callStep at h
  split at h
  next =>
    obtain ⟨taken, htaken, hafter⟩ := Option.map_eq_some_iff.mp h
    cases hafter
    exact .inl ⟨rfl, htaken, rfl⟩
  next =>
    split at h
    next => cases h; exact .inr (.inr ⟨rfl, nofun, rfl, _, rfl, rfl⟩)
    next => cases h
  next =>
    split at h
    next => cases h; exact .inr (.inr ⟨rfl, nofun, rfl, _, rfl, rfl⟩)
    next => cases h
  next =>
    split at h
    next => cases h; exact .inr (.inr ⟨rfl, nofun, rfl, _, rfl, rfl⟩)
    next => cases h; exact .inr (.inl ⟨rfl, nofun, rfl, rfl⟩)
  next => cases h

theorem abandon_hosts (s : ProberState) (ip : IpAddr) (phase : CallPhase) :
    (s.abandon ip phase).hostState = if phase.holds then (s.release ip).hostState else s.hostState := by
  cases phase <;> rfl

end ProberState

namespace ProbeCalls

variable {ν : Type} (sys : ProbeCalls ν)

/-- Whether a call holds a permit of this host. -/
def heldAt (s : CallsState) (ip : IpAddr) (call : Nat) : Bool := sys.ip call = ip && (s.status call).holds

/-- What the prober's books say of the calls that a host's budget paid for. -/
structure Accounts (trace : List (CallsState × CallsAction)) (s : CallsState) (paid : List Nat) : Prop where
  nodup : paid.Nodup
  started : ∀ call ∈ paid, s.status call ≠ .idle
  running : ∀ call phase, s.status call = .running phase → call ∈ paid ∧ s.prober.hostState (sys.ip call) ≠ none
  past : ∀ u call, (u, CallsAction.call call .acquire) ∈ trace → call ∈ paid
  allowed : ∀ call ∈ paid, sys.config.exclude.excludes sys.nets (sys.ip call) (sys.target call).2 = false
  issued : ∀ ip, (s.prober.account sys.config ip).issued = paid.countP fun call => sys.ip call = ip
  within : ∀ ip, (s.prober.account sys.config ip).issued ≤ sys.config.maxProbesPerHost
  permits : ∀ ip, (s.prober.account sys.config ip).permits + paid.countP (sys.heldAt s ip) = sys.config.maxConcurrentPerHost

variable {sys} {s t : CallsState} {trace : List (CallsState × CallsAction)} {paid : List Nat} {action : CallsAction}

theorem accounts_initial : sys.Accounts [] .initial [] where
  nodup := List.nodup_nil
  started := nofun
  running := nofun
  past := nofun
  allowed := nofun
  issued := fun _ => rfl
  within := fun _ => Nat.zero_le _
  permits := fun _ => rfl

theorem heldAt_moved_of_ne {call other : Nat} {prober : ProberState} {status : CallStatus} {ip : IpAddr}
    (h : other ≠ call) : sys.heldAt (s.moved call prober status) ip other = sys.heldAt s ip other := by
  simp [heldAt, Function.update_of_ne h]

theorem heldAt_moved_self {call : Nat} {prober : ProberState} {status : CallStatus} {ip : IpAddr} :
    sys.heldAt (s.moved call prober status) ip call = (decide (sys.ip call = ip) && status.holds) := by
  simp [heldAt]

theorem past_append {call : Nat} (past : ∀ u call, (u, CallsAction.call call .acquire) ∈ trace → call ∈ paid)
    (last : action = .call call .acquire → call ∈ paid) (only : ∀ other, action = .call other .acquire → other = call) :
    ∀ u call, (u, CallsAction.call call .acquire) ∈ trace ++ [(s, action)] → call ∈ paid := by
  intro u other h
  rcases List.mem_append.mp h with h | h
  · exact past u other h
  · have own : action = .call other .acquire := (congrArg Prod.snd (List.mem_singleton.mp h)).symm
    have same := only other own
    subst same
    exact last own

/-- A call that is not paid for moves, and holds nothing before or after. -/
theorem Accounts.moved_unpaid {call : Nat} {prober : ProberState} {status : CallStatus} (acc : sys.Accounts trace s paid)
    (idle : s.status call = .idle) (after : ∀ phase, status ≠ .running phase)
    (same : ∀ ip, prober.account sys.config ip = s.prober.account sys.config ip)
    (known : ∀ ip, s.prober.hostState ip ≠ none → prober.hostState ip ≠ none)
    (quiet : ∀ other, action ≠ .call other .acquire) :
    sys.Accounts (trace ++ [(s, action)]) (s.moved call prober status) paid := by
  have unpaid : ∀ other ∈ paid, other ≠ call := by
    rintro other hother rfl
    exact acc.started other hother idle
  refine ⟨acc.nodup, ?_, ?_, past_append acc.past (fun h => absurd h (quiet call)) (fun other h => absurd h (quiet other)),
    acc.allowed, ?_, ?_, ?_⟩
  · intro other hother
    rw [CallsState.status_moved, Function.update_of_ne (unpaid other hother)]
    exact acc.started other hother
  · intro other phase hother
    rw [CallsState.status_moved] at hother
    by_cases own : other = call
    · rw [own, Function.update_self] at hother
      exact absurd hother (after phase)
    · rw [Function.update_of_ne own] at hother
      exact ⟨(acc.running other phase hother).1, known _ (acc.running other phase hother).2⟩
  · intro ip
    rw [CallsState.prober_moved, same, acc.issued]
  · intro ip
    rw [CallsState.prober_moved, same]
    exact acc.within ip
  · intro ip
    have count : paid.countP (sys.heldAt (s.moved call prober status) ip) = paid.countP (sys.heldAt s ip) :=
      List.countP_congr fun other hother => by rw [heldAt_moved_of_ne (unpaid other hother)]
    rw [CallsState.prober_moved, same, count, acc.permits]

/-- A call that is paid for moves: its host has the permits that it gives back
or takes. -/
theorem Accounts.moved_paid {call : Nat} {phase : CallPhase} {prober : ProberState} {status : CallStatus}
    (acc : sys.Accounts trace s paid) (running : s.status call = .running phase) (after : status ≠ .idle)
    (known : ∀ ip, s.prober.hostState ip ≠ none → prober.hostState ip ≠ none)
    (issued : ∀ ip, (prober.account sys.config ip).issued = (s.prober.account sys.config ip).issued)
    (others : ∀ ip ≠ sys.ip call, (prober.account sys.config ip).permits = (s.prober.account sys.config ip).permits)
    (own : (prober.account sys.config (sys.ip call)).permits + status.holds.toNat =
      (s.prober.account sys.config (sys.ip call)).permits + phase.holds.toNat)
    (only : ∀ other, action = .call other .acquire → other = call) :
    sys.Accounts (trace ++ [(s, action)]) (s.moved call prober status) paid := by
  obtain ⟨mem, -⟩ := acc.running call phase running
  refine ⟨acc.nodup, ?_, ?_, past_append acc.past (fun _ => mem) only, acc.allowed, ?_, ?_, ?_⟩
  · intro other hother
    rw [CallsState.status_moved]
    by_cases same : other = call
    · rwa [same, Function.update_self]
    · rw [Function.update_of_ne same]
      exact acc.started other hother
  · intro other later hother
    rw [CallsState.status_moved] at hother
    by_cases same : other = call
    · rw [same]
      exact ⟨mem, known _ (acc.running call phase running).2⟩
    · rw [Function.update_of_ne same] at hother
      exact ⟨(acc.running other later hother).1, known _ (acc.running other later hother).2⟩
  · intro ip
    rw [CallsState.prober_moved, issued, acc.issued]
  · intro ip
    rw [CallsState.prober_moved, issued]
    exact acc.within ip
  · intro ip
    have count := countP_change (q := sys.heldAt (s.moved call prober status) ip) acc.nodup mem
      fun other hother => heldAt_moved_of_ne hother
    have before : sys.heldAt s ip call = (decide (sys.ip call = ip) && phase.holds) := by
      rw [heldAt, running]
      rfl
    rw [heldAt_moved_self, before] at count
    have books := acc.permits ip
    rw [CallsState.prober_moved]
    by_cases host : sys.ip call = ip
    · subst host
      simp only [decide_true, Bool.true_and] at count
      omega
    · rw [others ip (Ne.symm host)]
      simp only [host, decide_false, Bool.false_and, Bool.toNat_false, Nat.add_zero] at count
      omega

/-- A call is let in. -/
theorem Accounts.granted {call : Nat} {prober : ProberState} (acc : sys.Accounts trace s paid)
    (idle : s.status call = .idle) (enter : sys.enterOf s call = some (prober, .ok ())) :
    sys.Accounts (trace ++ [(s, .enter call)]) (s.moved call prober (.running .acquiring)) (call :: paid) := by
  obtain ⟨allowed, within, rfl⟩ := ProberState.enter_granted enter
  have unpaid : ∀ other ∈ paid, other ≠ call := by
    rintro other hother rfl
    exact acc.started other hother idle
  refine ⟨List.nodup_cons.mpr ⟨fun h => unpaid call h rfl, acc.nodup⟩, ?_, ?_, ?_, List.forall_mem_cons.mpr ⟨allowed, acc.allowed⟩,
    ?_, ?_, ?_⟩
  · intro other hother
    rw [CallsState.status_moved]
    by_cases same : other = call
    · rw [same, Function.update_self]
      exact nofun
    · rw [Function.update_of_ne same]
      exact acc.started other ((List.mem_cons.mp hother).resolve_left same)
  · intro other phase hother
    rw [CallsState.status_moved] at hother
    by_cases same : other = call
    · rw [same]
      exact ⟨List.mem_cons_self, by simp [ip]⟩
    · rw [Function.update_of_ne same] at hother
      obtain ⟨mem, known⟩ := acc.running other phase hother
      refine ⟨List.mem_cons_of_mem _ mem, ?_⟩
      by_cases host : sys.ip other = sys.ip call
      · simp [host]
      · simpa [Function.update_of_ne host] using known
  · intro u other h
    rcases List.mem_append.mp h with h | h
    · exact List.mem_cons_of_mem _ (acc.past u other h)
    · cases congrArg Prod.snd (List.mem_singleton.mp h)
  · intro ip
    have books := acc.issued ip
    rw [CallsState.prober_moved, ProberState.account_update, List.countP_cons]
    by_cases host : ip = sys.ip call
    · have own : decide (sys.ip call = ip) = true := decide_eq_true host.symm
      rw [if_pos host, if_pos own, ← host, ← books]
    · have own : ¬decide (sys.ip call = ip) = true := fun h => host (of_decide_eq_true h).symm
      rw [if_neg host, if_neg own, books]
      rfl
  · intro ip
    rw [CallsState.prober_moved, ProberState.account_update]
    split
    next => exact within
    next => exact acc.within ip
  · intro ip
    have count : ∀ prober, paid.countP (sys.heldAt (s.moved call prober (.running .acquiring)) ip) =
        paid.countP (sys.heldAt s ip) :=
      fun prober => List.countP_congr fun other hother => by rw [heldAt_moved_of_ne (unpaid other hother)]
    have own : ∀ prober, sys.heldAt (s.moved call prober (.running .acquiring)) ip call = false := by
      intro prober
      rw [heldAt_moved_self]
      exact Bool.and_false _
    rw [CallsState.prober_moved, ProberState.account_update, List.countP_cons_of_neg (by rw [own]; decide), count]
    have books := acc.permits ip
    split
    next host => rw [host] at books; exact host ▸ books
    next => exact books

/-- A call that runs gives its permit back. -/
theorem Accounts.released {call : Nat} {phase : CallPhase} {prober : ProberState} {status : CallStatus}
    (acc : sys.Accounts trace s paid) (running : s.status call = .running phase) (holds : phase.holds = true)
    (hosts : prober.hostState = (s.prober.release (sys.ip call)).hostState) (after : status ≠ .idle)
    (free : status.holds = false) (only : ∀ other, action = .call other .acquire → other = call) :
    sys.Accounts (trace ++ [(s, action)]) (s.moved call prober status) paid := by
  obtain ⟨state, hstate⟩ := Option.ne_none_iff_exists'.mp (acc.running call phase running).2
  rw [ProberState.release_eq hstate] at hosts
  have hprober : prober = ⟨Function.update s.prober.hostState (sys.ip call)
      (some { state with permits := state.permits + 1 }), prober.rateGate⟩ :=
    congrArg (fun hosts => ProberState.mk hosts prober.rateGate) hosts
  obtain ⟨known, issued, others, own, before⟩ := ProberState.account_permits sys.config hstate hprober
  refine acc.moved_paid running after known issued others ?_ only
  rw [own, before, free, holds]
  rfl

theorem Accounts.step (acc : sys.Accounts trace s paid) (h : sys.step s action = some t) :
    ∃ paid', sys.Accounts (trace ++ [(s, action)]) t paid' := by
  cases (sys.step_iff).mp h with
  | tick elapsed =>
    refine ⟨paid, acc.nodup, acc.started, acc.running, ?_, acc.allowed, acc.issued, acc.within, acc.permits⟩
    intro u call hmem
    rcases List.mem_append.mp hmem with hmem | hmem
    · exact acc.past u call hmem
    · cases congrArg Prod.snd (List.mem_singleton.mp hmem)
  | panicked idle panic => exact ⟨paid, acc.moved_unpaid idle nofun (fun _ => rfl) (fun _ => id) nofun⟩
  | @entered call prober result idle enter =>
    cases result with
    | ok paidFor => exact ⟨call :: paid, acc.granted idle enter⟩
    | error error =>
      exact ⟨paid, acc.moved_unpaid idle nofun (fun ip => (ProberState.enter_refused enter ip).1)
        (fun ip => (ProberState.enter_refused enter ip).2) nofun⟩
  | @called call action phase prober after running step =>
    have only : ∀ other, CallsAction.call call action = .call other .acquire → other = call := by
      intro other same
      cases same
      rfl
    rcases ProberState.callStep_hosts step with ⟨rfl, acquired, rfl⟩ | ⟨holds, -, rfl, rfl⟩ | ⟨holds, -, hosts, later, rfl, kept⟩
    · obtain ⟨state, hstate, free, hprober⟩ := ProberState.acquire_eq_some.mp acquired
      obtain ⟨known, issued, others, own, before⟩ := ProberState.account_permits sys.config hstate hprober
      refine ⟨paid, acc.moved_paid running nofun known issued others ?_ only⟩
      rw [own, before]
      exact Nat.sub_add_cancel free
    · exact ⟨paid, acc.released running holds rfl nofun rfl only⟩
    · have same : ∀ ip, prober.account sys.config ip = s.prober.account sys.config ip := by
        intro ip
        rw [ProberState.account, hosts]
        rfl
      refine ⟨paid, acc.moved_paid running nofun (fun ip => by rw [hosts]; exact id) (fun ip => by rw [same])
        (fun ip _ => by rw [same]) ?_ only⟩
      rw [same, holds, CallStatus.ofStep, CallStatus.holds, kept]
  | @dropped call phase running =>
    have hosts := ProberState.abandon_hosts s.prober (sys.ip call) phase
    by_cases holds : phase.holds = true
    · rw [if_pos holds] at hosts
      exact ⟨paid, acc.released running holds hosts nofun rfl nofun⟩
    · rw [if_neg holds] at hosts
      have same : ∀ ip, (s.prober.abandon (sys.ip call) phase).account sys.config ip = s.prober.account sys.config ip := by
        intro ip
        rw [ProberState.account, hosts]
        rfl
      refine ⟨paid, acc.moved_paid running nofun (fun ip => by rw [hosts]; exact id) (fun ip => by rw [same])
        (fun ip _ => by rw [same]) ?_ nofun⟩
      rw [same, Bool.eq_false_iff.mpr holds]
      rfl

theorem accounts (run : Run sys.step .initial trace s) : ∃ paid, sys.Accounts trace s paid :=
  run.always_traced (fun trace s => ∃ paid, sys.Accounts trace s paid) ⟨[], accounts_initial⟩
    fun _ _ _ _ ⟨_, acc⟩ h => acc.step h

/-- At most so many calls of a host ever get past the budget. -/
theorem past_le (run : Run sys.step .initial trace s) {ip : IpAddr} {calls : List Nat} (nodup : calls.Nodup)
    (past : ∀ call ∈ calls, sys.ip call = ip ∧ ∃ u, (u, CallsAction.call call .acquire) ∈ trace) :
    calls.length ≤ sys.config.maxProbesPerHost := by
  obtain ⟨paid, acc⟩ := accounts run
  calc calls.length ≤ paid.countP fun call => sys.ip call = ip :=
        length_le_countP nodup fun call hcall => by
          obtain ⟨host, u, hmem⟩ := past call hcall
          exact ⟨acc.past u call hmem, decide_eq_true host⟩
    _ = (s.prober.account sys.config ip).issued := (acc.issued ip).symm
    _ ≤ sys.config.maxProbesPerHost := acc.within ip

/-- At most so many calls of a host hold a permit at once. -/
theorem holders_le (run : Run sys.step .initial trace s) {ip : IpAddr} {calls : List Nat} (nodup : calls.Nodup)
    (holders : ∀ call ∈ calls, sys.ip call = ip ∧ (s.status call).holds = true) :
    calls.length ≤ sys.config.maxConcurrentPerHost := by
  obtain ⟨paid, acc⟩ := accounts run
  have books := acc.permits ip
  have counted : calls.length ≤ paid.countP (sys.heldAt s ip) := by
    refine length_le_countP nodup fun call hcall => ?_
    obtain ⟨host, holds⟩ := holders call hcall
    refine ⟨?_, by simp [heldAt, host, holds]⟩
    cases hstatus : s.status call with
    | running phase => exact (acc.running call phase hstatus).1
    | idle => simp [hstatus, CallStatus.holds] at holds
    | refused => simp [hstatus, CallStatus.holds] at holds
    | answered => simp [hstatus, CallStatus.holds] at holds
    | dropped => simp [hstatus, CallStatus.holds] at holds
  omega

end ProbeCalls

end AnneDeBreuil
