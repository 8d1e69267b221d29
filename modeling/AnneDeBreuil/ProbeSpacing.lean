import AnneDeBreuil.ProbeTier
import AnneDeBreuil.Runs

namespace AnneDeBreuil

/-- Between any two attempts, up to the later one, something passes the gate; and they are let through at least
the interval apart, as the doc of `min_probe_interval` says. -/
structure GateSeparated (gate : ProberKind) (interval : Nat) (attempts : List Attempt) : Prop where
  passed : ∀ i j, i < j → j < attempts.length → ∃ k pass, i < k ∧ k ≤ j ∧ attempts[k]? = some pass ∧ pass.kind.gate = some gate
  spaced : attempts.Pairwise fun a b => a.letThrough + interval ≤ b.letThrough

/-- An attempt behind the run's first passes the gate, and the second no sooner than an interval after the first. -/
def ProbeTier.ThroughGate {ν : Type} (tier : ProbeTier ν) (gate : ProberKind) (s : TierState) (action : TierAction) : Prop :=
  ∀ attempt, tier.attemptOf s action = some attempt → ∀ first later, s.attempts = first :: later →
    attempt.kind.gate = some gate ∧ (later = [] → first.letThrough + tier.config.minProbeInterval ≤ s.now)

def ProbePhase.sleepsAt (prober : ProberKind) : ProbePhase → Option Nat
  | .inCall _ _ _ called call => if called = prober then call.wake else none
  | _ => none

namespace TierState

/-- The tasks asleep at a prober's gate, and when each wakes. -/
def sleeping (s : TierState) (prober : ProberKind) (task : Nat) : Option Nat := (s.phase task).sleepsAt prober

def passes (s : TierState) (prober : ProberKind) : List Nat :=
  (s.attempts.filter (fun attempt => attempt.kind.gate = some prober)).map Attempt.letThrough

@[simp] theorem sleeping_setPhase (s : TierState) (task : Nat) (phase : ProbePhase) (prober : ProberKind) :
    (s.setPhase task phase).sleeping prober = Function.update (s.sleeping prober) task (phase.sleepsAt prober) := by
  funext other
  unfold sleeping
  rw [phase_setPhase]
  by_cases h : other = task
  · rw [h, Function.update_self, Function.update_self]
  · rw [Function.update_of_ne h, Function.update_of_ne h]

@[simp] theorem sleeping_setProber (s : TierState) (changed : ProberKind) (state : ProberState) (prober : ProberKind) :
    (s.setProber changed state).sleeping prober = s.sleeping prober := rfl

@[simp] theorem sleeping_afterCall (s : TierState) (task : Nat) (ip : IpAddr) (port : Port) (rest : List UInt16)
    (called prober : ProberKind) :
    (s.afterCall task ip port rest called).sleeping prober = Function.update (s.sleeping prober) task none := by
  cases called
  · exact sleeping_setPhase s task _ prober
  · exact sleeping_setPhase s task _ prober

theorem rateGate_setProber {s : TierState} {changed : ProberKind} {state : ProberState}
    (h : state.rateGate = (s.prober changed).rateGate) (prober : ProberKind) :
    ((s.setProber changed state).prober prober).rateGate = (s.prober prober).rateGate := by
  rw [prober_setProber]
  by_cases same : prober = changed
  · rw [same, Function.update_self, h]
  · rw [Function.update_of_ne same]

end TierState

theorem update_of_eq {ι α : Type} [DecidableEq ι] {f : ι → α} {i : ι} {x : α} (h : f i = x) : Function.update f i x = f :=
  h ▸ Function.update_eq_self i f

section

variable {ν : Type} {tier : ProbeTier ν} {s t : TierState} {action : TierAction}

/-- What a step does at a prober's gate. -/
inductive GateStep (tier : ProbeTier ν) (prober : ProberKind) (s : TierState) (action : TierAction) (t : TierState) : Prop
  | quiet (silent : ∀ a, tier.attemptOf s action = some a → a.kind.gate ≠ some prober)
      (gate : (t.prober prober).rateGate = (s.prober prober).rateGate) (asleep : t.sleeping prober = s.sleeping prober)
  | locked (task : Nat) (silent : tier.attemptOf s action = none) (free : (s.prober prober).rateGate.holder = none)
      (gate : (t.prober prober).rateGate = (s.prober prober).rateGate.lock task)
      (asleep : t.sleeping prober =
        Function.update (s.sleeping prober) task (some ((s.prober prober).rateGate.wakeAt s.now)))
  | passed (task wake : Nat) (attempt : Attempt) (made : tier.attemptOf s action = some attempt)
      (own : attempt.kind.gate = some prober) (time : attempt.letThrough = s.now)
      (slept : s.sleeping prober task = some wake) (awake : wake ≤ s.now)
      (gate : (t.prober prober).rateGate = (s.prober prober).rateGate.pass tier.config.minProbeInterval s.now)
      (asleep : t.sleeping prober = Function.update (s.sleeping prober) task none)
  | unlocked (task wake : Nat) (silent : tier.attemptOf s action = none) (slept : s.sleeping prober task = some wake)
      (gate : (t.prober prober).rateGate = (s.prober prober).rateGate.unlock)
      (asleep : t.sleeping prober = Function.update (s.sleeping prober) task none)

/-- Only a request that passes a gate is let through by it. -/
theorem attemptOf_gate {attempt : Attempt} {prober : ProberKind} (h : tier.attemptOf s action = some attempt)
    (own : attempt.kind.gate = some prober) : ∃ task ip port rest request wake,
      action = .call task .pass ∧ s.phase task = .inCall ip port rest prober (.sleeping request wake) := by
  obtain ⟨task, ip, rawPort, rest, port, -, -, -, rfl⟩ | ⟨task, ip, port, rest, called, request, wake, rfl, before, rfl⟩ :=
    tier.attemptOf_cases h
  · cases own
  · obtain rfl : called = prober := Option.some.inj own
    exact ⟨task, ip, port, rest, request, wake, rfl, before⟩

theorem silent_of_other {prober : ProberKind} (other : ∀ task, action ≠ .call task .pass) :
    ∀ a, tier.attemptOf s action = some a → a.kind.gate ≠ some prober := by
  intro a made own
  obtain ⟨task, ip, port, rest, request, wake, same, -⟩ := attemptOf_gate made own
  exact other task same

theorem GateStep.of_awake {prober : ProberKind} {task : Nat} {before after : ProbePhase}
    (other : ∀ task, action ≠ .call task .pass) (hphase : s.phase task = before)
    (awake : before.sleepsAt prober = none) (awake' : after.sleepsAt prober = none) :
    GateStep tier prober s action (s.setPhase task after) := by
  refine .quiet (silent_of_other other) rfl ?_
  rw [TierState.sleeping_setPhase, awake']
  exact update_of_eq (by rw [TierState.sleeping, hphase, awake])

/-- A step of a call is its prober's, and the task sleeps as the call does. -/
theorem GateStep.of_call {task : Nat} {call : CallAction} {ip : IpAddr} {port : Port} {rest : List UInt16}
    {called : ProberKind} {phase : CallPhase} {state : ProberState} {after : Option CallPhase}
    (before : s.phase task = .inCall ip port rest called phase)
    (stepped : (s.prober called).callStep tier.config s.now task ip called.requests phase call = some (state, after))
    (hprober : t.prober = Function.update s.prober called state)
    (hsleep : ∀ prober, t.sleeping prober =
      Function.update (s.sleeping prober) task (if called = prober then after.bind CallPhase.wake else none))
    (prober : ProberKind) : GateStep tier prober s (.call task call) t := by
  have slept : s.sleeping prober task = if called = prober then phase.wake else none := by
    rw [TierState.sleeping, before]
    rfl
  by_cases own : called = prober
  · subst own
    rw [if_pos rfl] at slept
    have asleep := hsleep called
    rw [if_pos rfl] at asleep
    have gate : (t.prober called).rateGate = state.rateGate := by rw [hprober, Function.update_self]
    rcases ProberState.callStep_cases stepped with ⟨hcall, hgate, hawake, hafter⟩ |
      ⟨request, rfl, rfl, free, hgate, rfl⟩ | ⟨request, wake, rfl, rfl, awake, hgate, rfl⟩
    · rw [hafter, update_of_eq (slept.trans hawake)] at asleep
      refine .quiet (silent_of_other fun other same => ?_) (gate.trans hgate) asleep
      cases same
      exact hcall rfl
    · exact .locked task rfl free (gate.trans hgate) asleep
    · refine .passed task wake ⟨task, ip, port.get, .request called request, s.now⟩ ?_ rfl rfl slept awake
        (gate.trans hgate) asleep
      rw [ProbeTier.attemptOf, before]
  · rw [if_neg own] at slept
    have asleep := hsleep prober
    rw [if_neg own, update_of_eq slept] at asleep
    refine .quiet ?_ (by rw [hprober, Function.update_of_ne (Ne.symm own)]) asleep
    intro a made hgate
    obtain ⟨other, ip', port', rest', request, wake, same, passing⟩ := attemptOf_gate made hgate
    cases same
    rw [before] at passing
    cases passing
    exact own rfl

theorem GateStep.of_abandon {task : Nat} {ip : IpAddr} {port : Port} {rest : List UInt16} {called : ProberKind}
    {call : CallPhase} (before : s.phase task = .inCall ip port rest called call) (prober : ProberKind) :
    GateStep tier prober s (.drop task) ((s.setProber called ((s.prober called).abandon ip call)).setPhase task .dropped) := by
  have slept : s.sleeping prober task = if called = prober then call.wake else none := by
    rw [TierState.sleeping, before]
    rfl
  have silent : ∀ a, tier.attemptOf s (.drop task) = some a → a.kind.gate ≠ some prober := silent_of_other (by simp)
  have gate := ProberState.abandon_rateGate (s.prober called) ip call
  cases hwake : call.wake with
  | none =>
    rw [hwake] at gate slept
    rw [ite_self] at slept
    refine .quiet silent (TierState.rateGate_setProber gate prober) ?_
    simp [ProbePhase.sleepsAt, update_of_eq slept]
  | some wake =>
    rw [hwake] at gate slept
    by_cases own : called = prober
    · subst own
      rw [if_pos rfl] at slept
      refine .unlocked task wake rfl slept ?_ (by simp [ProbePhase.sleepsAt])
      rw [TierState.prober_setPhase, TierState.prober_setProber, Function.update_self, gate]
      rfl
    · rw [if_neg own] at slept
      refine .quiet silent ?_ (by simp [ProbePhase.sleepsAt, update_of_eq slept])
      rw [TierState.prober_setPhase, TierState.prober_setProber, Function.update_of_ne (Ne.symm own)]

theorem TierMove.gateStep (move : TierMove tier s action t) (prober : ProberKind) : GateStep tier prober s action t := by
  cases move with
  | waits => exact .quiet (silent_of_other (by simp)) rfl rfl
  | resolves before | unresolved before | finishes before | connects before | skips before | opens before | closed before
    | panics before => exact .of_awake (by simp) before rfl rfl
  | enters before reserved =>
    refine .quiet (silent_of_other (by simp)) (TierState.rateGate_setProber (ProberState.enter_rateGate reserved) prober) ?_
    simp [ProbePhase.sleepsAt, CallPhase.wake, TierState.sleeping, before]
  | refused before refusal =>
    refine .quiet (silent_of_other (by simp)) ?_ ?_
    · rw [TierState.prober_afterCall]
      exact TierState.rateGate_setProber (ProberState.enter_rateGate refusal) prober
    · rw [TierState.sleeping_afterCall, TierState.sleeping_setProber]
      exact update_of_eq (by rw [TierState.sleeping, before]; rfl)
  | calls before stepped => exact .of_call before stepped rfl (fun _ => by simp [ProbePhase.sleepsAt]) prober
  | answered before stepped => exact .of_call before stepped (by simp) (fun _ => by simp) prober
  | abandons before => exact .of_abandon before prober
  | @drops task _ outside =>
    refine .of_awake (by simp) rfl ?_ rfl
    unfold ProbePhase.sleepsAt
    split
    next ip port rest called call before => exact absurd before (outside ip port rest called call)
    next => rfl

/-- Each prober's gate spaces what it lets through. -/
def Gated (tier : ProbeTier ν) (s : TierState) : Prop :=
  ∀ prober, (s.prober prober).rateGate.Spaces tier.config.minProbeInterval (s.sleeping prober) (s.passes prober)

theorem gated_initial (tier : ProbeTier ν) : Gated tier .initial := fun _ => RateGate.spaces_new

theorem passes_of_own {attempt : Attempt} {prober : ProberKind} (own : attempt.kind.gate = some prober)
    (hs : t.attempts = s.attempts ++ [attempt]) : t.passes prober = s.passes prober ++ [attempt.letThrough] := by
  unfold TierState.passes
  rw [hs, List.filter_append, List.map_append]
  simp [own]

theorem passes_of_silent {prober : ProberKind} {made : Option Attempt}
    (silent : ∀ a, made = some a → a.kind.gate ≠ some prober) (hs : t.attempts = s.attempts ++ made.toList) :
    t.passes prober = s.passes prober := by
  unfold TierState.passes
  rw [hs, List.filter_append, List.map_append]
  cases made with
  | none => simp
  | some a => simp [silent a rfl]

theorem Gated.step (gated : Gated tier s) (h : tier.step s action = some t) : Gated tier t := by
  obtain ⟨u, hu, rfl⟩ := Option.map_eq_some_iff.mp h
  intro prober
  have spaces := gated prober
  cases (tier.advance_moves hu).gateStep prober with
  | quiet silent gate asleep =>
    rw [passes_of_silent silent rfl]
    exact gate ▸ asleep ▸ spaces
  | locked task silent free gate asleep =>
    rw [passes_of_silent (by simp [silent]) rfl]
    exact gate ▸ asleep ▸ spaces.lock free task s.now
  | passed task wake attempt made own time slept awake gate asleep =>
    have logged := passes_of_own (s := s) (t := { u with attempts := s.attempts ++ (tier.attemptOf s action).toList }) own
      (by rw [made]; rfl)
    rw [logged, time]
    exact gate ▸ asleep ▸ spaces.pass slept awake
  | unlocked task wake silent slept gate asleep =>
    rw [passes_of_silent (by simp [silent]) rfl]
    exact gate ▸ asleep ▸ spaces.unlock slept

/-- An attempt is let through an interval after the earlier ones of its own gate. -/
theorem Gated.own_spaced (gated : Gated tier s) (h : tier.advance s action = some t) {attempt earlier : Attempt}
    (made : tier.attemptOf s action = some attempt) (hearlier : earlier ∈ s.attempts) {prober : ProberKind}
    (own : attempt.kind.gate = some prober) (same : earlier.kind.gate = some prober) :
    earlier.letThrough + tier.config.minProbeInterval ≤ s.now := by
  have passed : earlier.letThrough ∈ s.passes prober :=
    List.mem_map_of_mem (List.mem_filter.mpr ⟨hearlier, by simp [same]⟩)
  cases (tier.advance_moves h).gateStep prober with
  | quiet silent => exact absurd own (silent attempt made)
  | locked _ silent => simp [silent] at made
  | passed task wake _ _ _ _ slept awake => exact (gated prober).spaced slept awake _ passed
  | unlocked _ _ silent => simp [silent] at made

/-- No attempt is let through before its time. -/
def Timed (s : TierState) : Prop := ∀ attempt ∈ s.attempts, attempt.letThrough ≤ s.now

theorem TierMove.now_le (move : TierMove tier s action t) : s.now ≤ t.now := by
  cases move with
  | waits => exact Nat.le_add_right _ _
  | refused | answered => rw [TierState.now_afterCall]; exact Nat.le_refl _
  | _ => exact Nat.le_refl _

theorem Timed.step (timed : Timed s) (h : tier.step s action = some t) : Timed t := by
  obtain ⟨u, hu, rfl⟩ := Option.map_eq_some_iff.mp h
  have later := (tier.advance_moves hu).now_le
  intro attempt hattempt
  rcases List.mem_append.mp hattempt with earlier | made
  · exact Nat.le_trans (timed attempt earlier) later
  · exact tier.attemptOf_letThrough (Option.mem_toList.mp made) ▸ later

section

variable {gate : ProberKind} {interval : Nat} {attempts : List Attempt} {attempt first : Attempt} {later : List Attempt}

/-- One attempt more is separated from all before it if it passes the gate and keeps the interval to each. -/
theorem gateSeparated_snoc_iff : GateSeparated gate interval (attempts ++ [attempt]) ↔ GateSeparated gate interval attempts ∧
    (attempts ≠ [] → attempt.kind.gate = some gate) ∧ ∀ earlier ∈ attempts, earlier.letThrough + interval ≤ attempt.letThrough := by
  have last : (attempts ++ [attempt])[attempts.length]? = some attempt := by simp
  constructor
  · intro h
    obtain ⟨old, -, spaced⟩ := List.pairwise_append.mp h.spaced
    refine ⟨⟨fun i j hij hj => ?_, old⟩, fun some_before => ?_, fun earlier he => spaced earlier he attempt List.mem_cons_self⟩
    · obtain ⟨k, pass, hik, hkj, hpass, own⟩ := h.passed i j hij (by simp; omega)
      rw [List.getElem?_append_left (by omega)] at hpass
      exact ⟨k, pass, hik, hkj, hpass, own⟩
    · have bound := List.length_pos_iff.mpr some_before
      obtain ⟨k, pass, hik, hkj, hpass, own⟩ := h.passed (attempts.length - 1) attempts.length (by omega) (by simp)
      obtain rfl : k = attempts.length := by omega
      rw [last] at hpass
      cases hpass
      exact own
  · rintro ⟨old, own, spaced⟩
    refine ⟨fun i j hij hj => ?_, List.pairwise_append.mpr ⟨old.spaced, List.pairwise_singleton _ _, fun earlier he b hb => ?_⟩⟩
    · rw [List.length_append, List.length_singleton] at hj
      by_cases new : j = attempts.length
      · subst new
        exact ⟨attempts.length, attempt, hij, Nat.le_refl _, last, own (List.length_pos_iff.mp (by omega))⟩
      · obtain ⟨k, pass, hik, hkj, hpass, passed⟩ := old.passed i j hij (by omega)
        exact ⟨k, pass, hik, hkj, by rw [List.getElem?_append_left (by omega), hpass], passed⟩
    · rw [List.mem_singleton.mp hb]
      exact spaced earlier he

/-- All attempts but the first pass the gate. -/
theorem GateSeparated.own (h : GateSeparated gate interval (first :: later)) (hlater : attempt ∈ later) :
    attempt.kind.gate = some gate := by
  obtain ⟨front, back, rfl⟩ := List.append_of_mem hlater
  have prefixed : ∀ {xs} ys, GateSeparated gate interval (xs ++ ys) → GateSeparated gate interval xs := by
    intro xs ys separated
    induction ys using List.reverseRecOn with
    | nil => rwa [List.append_nil] at separated
    | append_singleton ys y ih =>
      rw [← List.append_assoc] at separated
      exact ih (gateSeparated_snoc_iff.mp separated).1
  have upTo : GateSeparated gate interval ((first :: front) ++ [attempt]) := by
    refine prefixed back ?_
    simpa using h
  exact (gateSeparated_snoc_iff.mp upTo).2.1 (List.cons_ne_nil _ _)

end

/-- A step keeps the attempts separated exactly when what it lets through goes through the gate. -/
theorem Gated.separated_step_iff (gated : Gated tier s) (timed : Timed s) (h : tier.step s action = some t) (gate : ProberKind) :
    GateSeparated gate tier.config.minProbeInterval t.attempts ↔
      GateSeparated gate tier.config.minProbeInterval s.attempts ∧ tier.ThroughGate gate s action := by
  obtain ⟨u, hu, rfl⟩ := Option.map_eq_some_iff.mp h
  unfold ProbeTier.ThroughGate
  cases made : tier.attemptOf s action with
  | none => simp
  | some attempt =>
    have time := tier.attemptOf_letThrough made
    show GateSeparated gate _ (s.attempts ++ [attempt]) ↔ _
    rw [gateSeparated_snoc_iff]
    refine and_congr_right fun separated => ?_
    constructor
    · rintro ⟨own, spaced⟩ _ ⟨⟩ first later hfirst
      rw [hfirst] at own spaced
      exact ⟨own (List.cons_ne_nil _ _), fun _ => time ▸ spaced first List.mem_cons_self⟩
    · intro through
      cases hattempts : s.attempts with
      | nil => simp
      | cons first later =>
        obtain ⟨own, second⟩ := through attempt rfl first later hattempts
        refine ⟨fun _ => own, fun earlier hearlier => ?_⟩
        rw [time]
        rw [hattempts] at separated
        rcases List.mem_cons.mp hearlier with rfl | hlater
        · -- what the first attempt keeps to the second it keeps to all
          cases later with
          | nil => exact second rfl
          | cons next rest =>
            have apart := (List.pairwise_cons.mp separated.spaced).1 next List.mem_cons_self
            have before := timed next (by simp [hattempts])
            omega
        · exact gated.own_spaced hu made (by simp [hattempts, hlater]) own (separated.own hlater)

/-- In every run the gate separates the attempts exactly when they go through it: the first of a run, a raw connect,
is the only one that does not. -/
theorem gateSeparated_iff {trace : List (TierState × TierAction)} (run : Run tier.step .initial trace s) (gate : ProberKind) :
    GateSeparated gate tier.config.minProbeInterval s.attempts ↔ ∀ p ∈ trace, tier.ThroughGate gate p.1 p.2 := by
  refine (run.always_traced
    (fun trace s => Gated tier s ∧ Timed s ∧
      (GateSeparated gate tier.config.minProbeInterval s.attempts ↔ ∀ p ∈ trace, tier.ThroughGate gate p.1 p.2))
    ⟨gated_initial tier, nofun, ?_⟩ ?_).2.2
  · simp only [TierState.initial, List.not_mem_nil, false_imp_iff, implies_true, iff_true]
    exact ⟨fun i j _ hj => absurd hj (Nat.not_lt_zero j), List.Pairwise.nil⟩
  · rintro trace s action t ⟨gated, timed, ih⟩ h
    refine ⟨gated.step h, timed.step h, ?_⟩
    rw [gated.separated_step_iff timed h, ih]
    simp [or_imp, forall_and]

end

def hostNets : IpNetLib IpAddr where
  fromStr s :=
    match splitOnce '/' s.toList with
    | some (addr, ['3', '2']) => IpAddr.fromStr (String.ofList addr)
    | _ => none
  contains net addr := net = addr

def twoHostTier : ProbeTier IpAddr where
  nets := hostNets
  config := .default hostNets
  address task := if task = 0 then "10.0.0.1" else "10.0.0.2"

theorem gateSeparated_iff_one_port :
    ∃ trace s, Run twoHostTier.step .initial trace s ∧
      s.attempts.map (fun attempt => (attempt.kind, attempt.letThrough)) =
        [(.raw, 0), (.request .http 0, 200000000), (.request .http 1, 400000000)] ∧
      GateSeparated .http twoHostTier.config.minProbeInterval s.attempts ∧
      ∀ p ∈ trace, twoHostTier.ThroughGate .http p.1 p.2 := by
  have runs : (runList twoHostTier.step .initial [.resolve 0 none, .next 0, .connected 0 true, .tick 200000000, .enter 0,
      .call 0 .acquire, .call 0 .lock, .call 0 .pass, .call 0 .answer, .call 0 .lock, .tick 200000000,
      .call 0 .pass]).map TierState.attempts =
        some [⟨0, .v4 0x0a000001, 21, .raw, 0⟩, ⟨0, .v4 0x0a000001, 21, .request .http 0, 200000000⟩,
          ⟨0, .v4 0x0a000001, 21, .request .http 1, 400000000⟩] := by decide +kernel
  obtain ⟨s, hs, hattempts⟩ := Option.map_eq_some_iff.mp runs
  obtain ⟨trace, run, -⟩ := Run.of_runList hs
  have separated : GateSeparated .http twoHostTier.config.minProbeInterval s.attempts := by
    rw [hattempts]
    refine ⟨fun i j hij hj => ?_, by decide⟩
    match j, hj with
    | 1, _ => exact ⟨1, _, hij, Nat.le_refl _, rfl, rfl⟩
    | 2, _ => exact ⟨2, _, hij, Nat.le_refl _, rfl, rfl⟩
  exact ⟨trace, s, run, by rw [hattempts]; rfl, separated, (gateSeparated_iff run .http).mp separated⟩

/-- Two hosts are dialled at once behind no gate, and the first request on an open port
follows its raw connect at once. -/
theorem gateSeparated_counterexample :
    ∃ trace s, Run twoHostTier.step .initial trace s ∧
      ∀ gate, ¬GateSeparated gate twoHostTier.config.minProbeInterval s.attempts := by
  have runs : (runList twoHostTier.step .initial [.resolve 0 none, .resolve 1 none, .next 0, .next 1,
      .connected 0 true, .enter 0, .call 0 .acquire, .call 0 .lock, .call 0 .pass]).map TierState.attempts =
        some [⟨0, .v4 0x0a000001, 21, .raw, 0⟩, ⟨1, .v4 0x0a000002, 21, .raw, 0⟩,
          ⟨0, .v4 0x0a000001, 21, .request .http 0, 0⟩] := by decide +kernel
  obtain ⟨s, hs, hattempts⟩ := Option.map_eq_some_iff.mp runs
  obtain ⟨trace, run, -⟩ := Run.of_runList hs
  refine ⟨trace, s, run, fun gate separated => ?_⟩
  rw [hattempts] at separated
  cases separated.own List.mem_cons_self

end AnneDeBreuil
