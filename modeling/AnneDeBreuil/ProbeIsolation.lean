import AnneDeBreuil.ProbeBudgets
import AnneDeBreuil.ProbeSpacing

namespace AnneDeBreuil

/-- The time of a step that passes the gate. -/
def passTime : CallsState × CallsAction → Option Nat
  | (s, .call _ .pass) => some s.now
  | _ => none

/-- When the gate was passed in a run. -/
def passTimes (trace : List (CallsState × CallsAction)) : List Nat := trace.filterMap passTime

/-- A phase, but for a sleep that ends no later. -/
inductive CallPhase.Sooner : CallPhase → CallPhase → Prop
  | same (phase : CallPhase) : Sooner phase phase
  | sleeping (request : Nat) {wake later : Nat} (h : wake ≤ later) :
    Sooner (.sleeping request wake) (.sleeping request later)

inductive CallStatus.Sooner : CallStatus → CallStatus → Prop
  | same (status : CallStatus) : Sooner status status
  | running {phase later : CallPhase} (h : phase.Sooner later) : Sooner (.running phase) (.running later)

theorem CallStatus.Sooner.idle {status : CallStatus} (h : status.Sooner .idle) : status = .idle := by
  cases h
  rfl

theorem CallStatus.Sooner.of_running {status : CallStatus} {later : CallPhase} (h : status.Sooner (.running later)) :
    ∃ phase, status = .running phase ∧ phase.Sooner later := by
  cases h with
  | same => exact ⟨later, rfl, .same _⟩
  | running h => exact ⟨_, rfl, h⟩

namespace ProbeCalls

variable {ν : Type} (sys : ProbeCalls ν)

/-- An action of the calls for one address, or of the clock. -/
def concerns (ip : IpAddr) : CallsAction → Bool
  | .tick _ => true
  | .enter call => sys.ip call = ip
  | .call call _ => sys.ip call = ip
  | .drop call => sys.ip call = ip

/-- What the calls for an address may wait for: time, and the other calls. -/
def WaitsFor (ip : IpAddr) (action : CallsAction) : Prop := (∃ elapsed, action = .tick elapsed) ∨ sys.concerns ip action = false

/-- What a move does at the gate. -/
inductive GateMove (s : CallsState) (action : CallsAction) (t : CallsState) : Prop
  | quiet (silent : passTime (s, action) = none) (gate : t.prober.rateGate = s.prober.rateGate)
      (asleep : t.sleeping = s.sleeping) (time : s.now ≤ t.now)
  | locked (call : Nat) (silent : passTime (s, action) = none) (free : s.prober.rateGate.holder = none)
      (gate : t.prober.rateGate = s.prober.rateGate.lock call)
      (asleep : t.sleeping = Function.update s.sleeping call (some (s.prober.rateGate.wakeAt s.now))) (time : t.now = s.now)
  | passed (call wake : Nat) (made : passTime (s, action) = some s.now) (slept : s.sleeping call = some wake)
      (awake : wake ≤ s.now) (own : sys.concerns (sys.ip call) action = true)
      (gate : t.prober.rateGate = s.prober.rateGate.pass sys.config.minProbeInterval s.now)
      (asleep : t.sleeping = Function.update s.sleeping call none) (time : t.now = s.now)
  | unlocked (call wake : Nat) (silent : passTime (s, action) = none) (slept : s.sleeping call = some wake)
      (own : sys.concerns (sys.ip call) action = true) (gate : t.prober.rateGate = s.prober.rateGate.unlock)
      (asleep : t.sleeping = Function.update s.sleeping call none) (time : t.now = s.now)

/-- The gate spaces its passes and is held by the sleeper alone. -/
structure Gated (trace : List (CallsState × CallsAction)) (s : CallsState) : Prop where
  spaces : s.prober.rateGate.Spaces sys.config.minProbeInterval s.sleeping (passTimes trace)
  awaited : s.prober.rateGate.Awaited sys.config.minProbeInterval s.now s.sleeping
  spaced : (passTimes trace).Pairwise fun a b => a + sys.config.minProbeInterval ≤ b

variable {sys} {s t : CallsState} {trace : List (CallsState × CallsAction)} {action : CallsAction} {ip : IpAddr}

theorem gateMove (move : sys.Move s action t) : sys.GateMove s action t := by
  cases move with
  | tick elapsed => exact .quiet rfl rfl rfl (Nat.le_add_right ..)
  | @panicked call idle panic =>
    refine .quiet rfl rfl ?_ (Nat.le_refl _)
    rw [CallsState.sleeping_moved]
    exact update_of_eq (by rw [CallsState.sleeping, idle]; rfl)
  | @entered call prober result idle enter =>
    refine .quiet rfl (ProberState.enter_rateGate enter) ?_ (Nat.le_refl _)
    rw [CallsState.sleeping_moved, CallStatus.wake_ofEnter]
    exact update_of_eq (by rw [CallsState.sleeping, idle]; rfl)
  | @called call action phase prober after running step =>
    have slept : s.sleeping call = phase.wake := by
      rw [CallsState.sleeping, running]
      rfl
    rcases ProberState.callStep_cases step with ⟨hcall, hgate, hawake, hafter⟩ |
      ⟨request, rfl, rfl, free, hgate, rfl⟩ | ⟨request, wake, rfl, rfl, awake, hgate, rfl⟩
    · refine .quiet ?_ hgate ?_ (Nat.le_refl _)
      · cases action with
        | pass => exact absurd rfl hcall
        | acquire => rfl
        | lock => rfl
        | answer => rfl
      · rw [CallsState.sleeping_moved, CallStatus.wake_ofStep, hafter]
        exact update_of_eq (slept.trans hawake)
    · exact .locked call rfl free hgate (CallsState.sleeping_moved ..) rfl
    · exact .passed call wake rfl slept awake (by simp [concerns]) hgate (CallsState.sleeping_moved ..) rfl
  | @dropped call phase running =>
    have slept : s.sleeping call = phase.wake := by
      rw [CallsState.sleeping, running]
      rfl
    have gate := ProberState.abandon_rateGate s.prober (sys.ip call) phase
    cases hwake : phase.wake with
    | none =>
      rw [hwake] at gate slept
      refine .quiet rfl gate ?_ (Nat.le_refl _)
      rw [CallsState.sleeping_moved]
      exact update_of_eq slept
    | some wake =>
      rw [hwake] at gate slept
      exact .unlocked call wake rfl slept (by simp [concerns]) gate (CallsState.sleeping_moved ..) rfl

theorem gated_initial : sys.Gated [] .initial := ⟨RateGate.spaces_new, RateGate.awaited_new, List.Pairwise.nil⟩

theorem passTimes_append (trace : List (CallsState × CallsAction)) (last : CallsState × CallsAction) :
    passTimes (trace ++ [last]) = passTimes trace ++ (passTime last).toList := by
  rw [passTimes, List.filterMap_append]
  cases h : passTime last with
  | none => simp [passTimes, h]
  | some time => simp [passTimes, h]

theorem Gated.step (gated : sys.Gated trace s) (h : sys.step s action = some t) : sys.Gated (trace ++ [(s, action)]) t := by
  obtain ⟨spaces, awaited, spaced⟩ := gated
  have silently : passTime (s, action) = none → passTimes (trace ++ [(s, action)]) = passTimes trace := by
    intro silent
    rw [passTimes_append, silent, Option.toList_none, List.append_nil]
  cases gateMove ((sys.step_iff).mp h) with
  | quiet silent gate asleep time =>
    refine ⟨?_, ?_, by rwa [silently silent]⟩
    · rw [silently silent, gate, asleep]
      exact spaces
    · rw [gate, asleep]
      exact awaited.later time
  | locked call silent free gate asleep time =>
    refine ⟨?_, ?_, by rwa [silently silent]⟩
    · rw [silently silent, gate, asleep]
      exact spaces.lock free call s.now
    · rw [gate, asleep, time]
      exact awaited.lock call
  | passed call wake made slept awake own gate asleep time =>
    have logged : passTimes (trace ++ [(s, action)]) = passTimes trace ++ [s.now] := by
      rw [passTimes_append, made, Option.toList_some]
    refine ⟨?_, ?_, ?_⟩
    · rw [logged, gate, asleep]
      exact spaces.pass slept awake
    · rw [gate, asleep, time]
      exact RateGate.awaited_pass call
    · rw [logged, List.pairwise_append]
      refine ⟨spaced, List.pairwise_singleton .., ?_⟩
      intro earlier hearlier now hnow
      rw [List.mem_singleton.mp hnow]
      exact spaces.spaced slept awake earlier hearlier
  | unlocked call wake silent slept own gate asleep time =>
    refine ⟨?_, ?_, by rwa [silently silent]⟩
    · rw [silently silent, gate, asleep]
      exact spaces.unlock slept
    · rw [gate, asleep, time]
      exact awaited.unlock call

theorem gated (run : Run sys.step .initial trace s) : sys.Gated trace s :=
  run.always_traced sys.Gated gated_initial fun _ _ _ _ gated h => gated.step h

end ProbeCalls

namespace ProberState

variable {ν : Type} {nets : IpNetLib ν} {config : ProbeConfig ν} {s t u : ProberState} {ip : IpAddr} {port : UInt16}

/-- The start of a call reads and writes its own host alone. -/
theorem enter_local (h : u.hostState ip = s.hostState ip) : u.enter nets config ip port =
    (s.enter nets config ip port).map fun entered =>
      (⟨Function.update u.hostState ip (entered.1.hostState ip), u.rateGate⟩, entered.2) := by
  unfold enter reserve
  rw [h]
  split
  next => simp [← h]
  next =>
    split
    next => rfl
    next =>
      dsimp only
      split
      next => simp
      next => simp

theorem enter_frame {result : Except ProbeError Unit} (h : s.enter nets config ip port = some (t, result))
    {other : IpAddr} (hne : other ≠ ip) : t.hostState other = s.hostState other := by
  unfold enter reserve at h
  split at h
  next => cases h; rfl
  next =>
    split at h
    next => cases h
    next =>
      dsimp only at h
      split at h
      next => cases h; exact Function.update_of_ne hne ..
      next => cases h; exact Function.update_of_ne hne ..

theorem release_frame {other : IpAddr} (hne : other ≠ ip) : (s.release ip).hostState other = s.hostState other :=
  Function.update_of_ne hne ..

theorem release_local (h : u.hostState ip = s.hostState ip) : (u.release ip).hostState ip = (s.release ip).hostState ip := by
  simp [release, h]

theorem callStep_frame {now call requests : Nat} {phase : CallPhase} {action : CallAction} {after : Option CallPhase}
    (h : s.callStep config now call ip requests phase action = some (t, after)) {other : IpAddr} (hne : other ≠ ip) :
    t.hostState other = s.hostState other := by
  rcases callStep_hosts h with ⟨-, acquired, -⟩ | ⟨-, -, rfl, -⟩ | ⟨-, -, hosts, -⟩
  · obtain ⟨state, -, -, rfl⟩ := acquire_eq_some.mp acquired
    exact Function.update_of_ne hne ..
  · exact release_frame hne
  · rw [hosts]

theorem abandon_frame {phase : CallPhase} {other : IpAddr} (hne : other ≠ ip) :
    (s.abandon ip phase).hostState other = s.hostState other := by
  rw [abandon_hosts]
  split
  next => exact release_frame hne
  next => rfl

/-- A call that a prober takes a step of takes it too where its own host is the
same, the gate is ahead and it wakes no later. -/
theorem callStep_sooner {now call requests : Nat} {phase later : CallPhase} {action : CallAction} {after : Option CallPhase}
    (host : u.hostState ip = s.hostState ip) (ahead : u.rateGate.Ahead s.rateGate) (sooner : phase.Sooner later)
    (h : s.callStep config now call ip requests later action = some (t, after)) :
    ∃ v next, u.callStep config now call ip requests phase action = some (v, next) ∧ v.hostState ip = t.hostState ip ∧
      v.rateGate.Ahead t.rateGate ∧ (∀ i, v.rateGate.holder = some i → u.rateGate.holder = some i ∨ i = call) ∧
      (CallStatus.ofStep next).Sooner (CallStatus.ofStep after) := by
  unfold callStep at h
  split at h
  next =>
    obtain ⟨taken, htaken, hafter⟩ := Option.map_eq_some_iff.mp h
    cases hafter
    cases sooner
    obtain ⟨state, hstate, free, rfl⟩ := acquire_eq_some.mp htaken
    have own := acquire_eq_some.mpr ⟨state, host.trans hstate, free, rfl⟩
    have stepped := congrArg (Option.map fun taken => (taken, some (CallPhase.throttling 0))) own
    exact ⟨_, _, stepped, by simp, ahead, fun i => .inl, .same _⟩
  next request =>
    split at h
    next free =>
      cases h
      cases sooner
      have stepped : u.callStep config now call ip requests (.throttling request) .lock =
          some ({ u with rateGate := u.rateGate.lock call }, some (.sleeping request (u.rateGate.wakeAt now))) := by
        rw [callStep, if_pos (ahead.free free)]
      refine ⟨_, _, stepped, host, ahead.lock call, ?_, .running (.sleeping _ (ahead.wakeAt_le now))⟩
      rintro i hi
      cases hi
      exact .inr rfl
    next => cases h
  next request wakeAt =>
    split at h
    next awake =>
      cases h
      obtain ⟨wake, rfl, hle⟩ : ∃ wake, phase = .sleeping request wake ∧ wake ≤ wakeAt := by
        cases sooner with
        | same => exact ⟨wakeAt, rfl, Nat.le_refl _⟩
        | sleeping _ hle => exact ⟨_, rfl, hle⟩
      have stepped : u.callStep config now call ip requests (.sleeping request wake) .pass =
          some ({ u with rateGate := u.rateGate.pass config.minProbeInterval now }, some (.requesting request)) := by
        rw [callStep, if_pos (hle.trans awake)]
      exact ⟨_, _, stepped, host, RateGate.ahead_pass u.rateGate s.rateGate, nofun, .same _⟩
    next => cases h
  next request =>
    cases sooner
    split at h
    next more =>
      cases h
      have stepped : u.callStep config now call ip requests (.requesting request) .answer =
          some (u, some (.throttling (request + 1))) := by
        rw [callStep, if_pos more]
      exact ⟨_, _, stepped, host, ahead, fun i => .inl, .same _⟩
    next last =>
      cases h
      have stepped : u.callStep config now call ip requests (.requesting request) .answer = some (u.release ip, none) := by
        rw [callStep, if_neg last]
      exact ⟨_, _, stepped, release_local host, ahead, fun i => .inl, .same _⟩
  next => cases h

theorem abandon_sooner {phase later : CallPhase} (host : u.hostState ip = s.hostState ip)
    (ahead : u.rateGate.Ahead s.rateGate) (sooner : phase.Sooner later) :
    (u.abandon ip phase).hostState ip = (s.abandon ip later).hostState ip ∧
      (u.abandon ip phase).rateGate.Ahead (s.abandon ip later).rateGate ∧
      ∀ i, (u.abandon ip phase).rateGate.holder = some i → u.rateGate.holder = some i := by
  have released := release_local host
  cases sooner with
  | same =>
    cases phase with
    | acquiring => exact ⟨host, ahead, fun i => id⟩
    | throttling => exact ⟨released, ahead, fun i => id⟩
    | sleeping => exact ⟨released, ahead.unlock, nofun⟩
    | requesting => exact ⟨released, ahead, fun i => id⟩
  | sleeping => exact ⟨released, ahead.unlock, nofun⟩

end ProberState

namespace ProbeCalls

variable {ν : Type} (sys : ProbeCalls ν)

/-- The calls for an address stand as in a run without the others, where they
wake no later. -/
structure Agrees (ip : IpAddr) (s alone : CallsState) : Prop where
  now : alone.now = s.now
  host : alone.prober.hostState ip = s.prober.hostState ip
  own : ∀ call, sys.ip call = ip → (alone.status call).Sooner (s.status call)
  ahead : alone.prober.rateGate.Ahead s.prober.rateGate
  holder : ∀ call, alone.prober.rateGate.holder = some call → sys.ip call = ip

variable {sys} {s t alone : CallsState} {trace : List (CallsState × CallsAction)} {action : CallsAction} {ip : IpAddr}

theorem agrees_initial : sys.Agrees ip .initial .initial := ⟨rfl, rfl, fun _ _ => .same _, .refl _, nofun⟩

theorem Agrees.enterOf (agrees : sys.Agrees ip s alone) {call : Nat} (h : sys.ip call = ip) :
    sys.enterOf alone call = (sys.enterOf s call).map fun entered =>
      (⟨Function.update alone.prober.hostState ip (entered.1.hostState ip), alone.prober.rateGate⟩, entered.2) := by
  subst h
  exact ProberState.enter_local agrees.host

theorem Agrees.status_moved (agrees : sys.Agrees ip s alone) {call : Nat} {prober prober' : ProberState}
    {status status' : CallStatus} (sooner : status'.Sooner status) :
    ∀ other, sys.ip other = ip →
      ((alone.moved call prober' status').status other).Sooner ((s.moved call prober status).status other) := by
  intro other hother
  rw [CallsState.status_moved, CallsState.status_moved]
  by_cases same : other = call
  · rw [same, Function.update_self, Function.update_self]
    exact sooner
  · rw [Function.update_of_ne same, Function.update_of_ne same]
    exact agrees.own other hother

theorem Agrees.hostOf (agrees : sys.Agrees ip s alone) {call : Nat} (h : sys.ip call = ip) :
    alone.prober.hostState (sys.ip call) = s.prober.hostState (sys.ip call) := by
  rw [h, agrees.host]

/-- An own step is taken alone too. -/
theorem Agrees.own_step (agrees : sys.Agrees ip s alone) (own : sys.concerns ip action = true)
    (h : sys.step s action = some t) : ∃ u, sys.step alone action = some u ∧ sys.Agrees ip t u := by
  cases (sys.step_iff).mp h with
  | tick elapsed =>
    exact ⟨_, rfl, by rw [agrees.now], agrees.host, agrees.own, agrees.ahead, agrees.holder⟩
  | @panicked call idle panic =>
    have host : sys.ip call = ip := of_decide_eq_true own
    have same := agrees.own call host
    rw [idle] at same
    have enter := agrees.enterOf host
    rw [panic] at enter
    exact ⟨_, (sys.step_iff).mpr (.panicked same.idle enter), agrees.now, agrees.host,
      agrees.status_moved (.same _), agrees.ahead, agrees.holder⟩
  | @entered call prober result idle entered =>
    have host : sys.ip call = ip := of_decide_eq_true own
    have same := agrees.own call host
    rw [idle] at same
    have enter := agrees.enterOf host
    rw [entered] at enter
    have gate := ProberState.enter_rateGate entered
    refine ⟨_, (sys.step_iff).mpr (.entered same.idle enter), agrees.now, ?_, agrees.status_moved (.same _), ?_, agrees.holder⟩
    · exact Function.update_self ..
    · rw [CallsState.prober_moved, CallsState.prober_moved, gate]
      exact agrees.ahead
  | @called call action later prober after running step =>
    have host : sys.ip call = ip := of_decide_eq_true own
    have same := agrees.own call host
    rw [running] at same
    obtain ⟨phase, hphase, sooner⟩ := same.of_running
    obtain ⟨v, next, hstep, hhost, hahead, hholder, hstatus⟩ := ProberState.callStep_sooner
      (agrees.hostOf host) agrees.ahead sooner step
    rw [← agrees.now] at hstep
    refine ⟨_, (sys.step_iff).mpr (.called hphase hstep), agrees.now, host ▸ hhost, agrees.status_moved hstatus, hahead, ?_⟩
    intro other hother
    rcases hholder other hother with before | rfl
    · exact agrees.holder other before
    · exact host
  | @dropped call later running =>
    have host : sys.ip call = ip := of_decide_eq_true own
    have same := agrees.own call host
    rw [running] at same
    obtain ⟨phase, hphase, sooner⟩ := same.of_running
    obtain ⟨hhost, hahead, hholder⟩ := ProberState.abandon_sooner
      (agrees.hostOf host) agrees.ahead sooner
    exact ⟨_, (sys.step_iff).mpr (.dropped hphase), agrees.now, host ▸ hhost, agrees.status_moved (.same _), hahead,
      fun other hother => agrees.holder other (hholder other hother)⟩

/-- A step of another address's call moves that call and touches its own host alone. -/
theorem other_moved (move : sys.Move s action t) (other : sys.concerns ip action = false) :
    ∃ call prober status, t = s.moved call prober status ∧ sys.ip call ≠ ip ∧
      prober.hostState ip = s.prober.hostState ip := by
  cases move with
  | tick => cases other
  | @panicked call =>
    have host : sys.ip call ≠ ip := of_decide_eq_false other
    exact ⟨call, _, _, rfl, host, rfl⟩
  | @entered call prober result idle enter =>
    have host : sys.ip call ≠ ip := of_decide_eq_false other
    exact ⟨call, _, _, rfl, host, ProberState.enter_frame enter (Ne.symm host)⟩
  | @called call action phase prober after running step =>
    have host : sys.ip call ≠ ip := of_decide_eq_false other
    exact ⟨call, _, _, rfl, host, ProberState.callStep_frame step (Ne.symm host)⟩
  | @dropped call =>
    have host : sys.ip call ≠ ip := of_decide_eq_false other
    exact ⟨call, _, _, rfl, host, ProberState.abandon_frame (Ne.symm host)⟩

/-- A step of another address's call leaves the run alone as it is. -/
theorem Agrees.other_step (agrees : sys.Agrees ip s alone) {own : List (CallsState × CallsAction)}
    (gated : sys.Gated trace s) (gatedAlone : sys.Gated own alone) (other : sys.concerns ip action = false)
    (h : sys.step s action = some t) : sys.Agrees ip t alone := by
  have move := (sys.step_iff).mp h
  have outside : ∀ call, sys.concerns (sys.ip call) action = true → alone.prober.rateGate.holder ≠ some call := by
    intro call hcall holds
    rw [agrees.holder call holds, other] at hcall
    cases hcall
  have ahead : alone.prober.rateGate.Ahead t.prober.rateGate := by
    cases gateMove move with
    | quiet silent gate asleep time =>
      rw [gate]
      exact agrees.ahead
    | locked call silent free gate asleep time =>
      rw [gate]
      exact agrees.ahead.other_lock free call
    | passed call wake made slept awake concerned gate asleep time =>
      rw [gate]
      have soon := gatedAlone.awaited.soon
      rw [agrees.now] at soon
      exact agrees.ahead.other_pass (gated.spaces.held call wake slept).1 (outside call concerned) soon
    | unlocked call wake silent slept concerned gate asleep time =>
      rw [gate]
      exact agrees.ahead.other_unlock (gated.spaces.held call wake slept).1 (outside call concerned)
  obtain ⟨call, prober, status, rfl, hcall, host⟩ := other_moved move other
  refine ⟨agrees.now, agrees.host.trans host.symm, ?_, ahead, agrees.holder⟩
  intro own hown
  have differ : own ≠ call := by
    rintro rfl
    exact hcall hown
  rw [CallsState.status_moved, Function.update_of_ne differ]
  exact agrees.own own hown

/-- Without the other addresses' calls the calls for one address take the same
steps, and stand as they did. -/
theorem run_alone (run : Run sys.step .initial trace s) (ip : IpAddr) :
    ∃ own alone, Run sys.step .initial own alone ∧
      own.map Prod.snd = (trace.map Prod.snd).filter (sys.concerns ip) ∧ sys.Agrees ip s alone := by
  induction run with
  | refl => exact ⟨[], _, .refl, rfl, agrees_initial⟩
  | @snoc trace s t action before next ih =>
    obtain ⟨own, alone, runAlone, labels, agrees⟩ := ih
    rw [List.map_append, List.filter_append, List.map_singleton]
    cases concerned : sys.concerns ip action with
    | true =>
      obtain ⟨u, hu, later⟩ := agrees.own_step concerned next
      refine ⟨own ++ [(alone, action)], u, runAlone.snoc hu, ?_, later⟩
      rw [List.map_append, labels, List.filter_cons_of_pos concerned]
      rfl
    | false =>
      refine ⟨own, alone, runAlone, ?_, agrees.other_step (gated before) (gated runAlone) concerned next⟩
      rw [labels, List.filter_cons_of_neg (by rw [concerned]; decide), List.filter_nil, List.append_nil]

/-- A state from which an action may be taken once others have been waited for. -/
def Awaits (sys : ProbeCalls ν) (ip : IpAddr) (s : CallsState) (action : CallsAction) : Prop :=
  ∃ waits, (∀ wait ∈ waits, sys.WaitsFor ip wait) ∧
    ∃ u, runList sys.step s waits = some u ∧ (sys.step u action).isSome = true

theorem awaits_now (h : (sys.step s action).isSome = true) : sys.Awaits ip s action := ⟨[], nofun, s, rfl, h⟩

theorem step_call_isSome {call : Nat} {phase : CallPhase} {act : CallAction} (running : s.status call = .running phase)
    (h : (sys.stepOf s call phase act).isSome = true) : (sys.step s (.call call act)).isSome = true := by
  simp only [step, running, Option.isSome_map, h]

/-- A sleeper passes once it has slept long enough. -/
theorem awaits_pass (sys : ProbeCalls ν) {call request wake : Nat} (running : s.status call = .running (.sleeping request wake)) :
    (sys.step { s with now := s.now + (wake - s.now) } (.call call .pass)).isSome = true := by
  refine step_call_isSome running ?_
  have awake : wake ≤ s.now + (wake - s.now) := by omega
  simp [stepOf, ProberState.callStep, awake]

theorem wake_running {status : CallStatus} {wake : Nat} (h : status.wake = some wake) :
    ∃ request, status = .running (.sleeping request wake) := by
  cases status with
  | running phase =>
    cases phase with
    | sleeping request later =>
      cases h
      exact ⟨request, rfl⟩
    | acquiring => cases h
    | throttling => cases h
    | requesting => cases h
  | idle => cases h
  | refused => cases h
  | answered => cases h
  | dropped => cases h

/-- A call that may lock the gate alone may lock it once the sleeper there, which
is another address's, has passed. -/
theorem Agrees.awaits_lock (agrees : sys.Agrees ip s alone) {own : List (CallsState × CallsAction)}
    (gated : sys.Gated trace s) (gatedAlone : sys.Gated own alone) {call request : Nat} (hcall : sys.ip call = ip)
    (running : s.status call = .running (.throttling request)) (free : alone.prober.rateGate.holder = none) :
    sys.Awaits ip s (.call call .lock) := by
  have locks : ∀ u : CallsState, u.status call = .running (.throttling request) → u.prober.rateGate.holder = none →
      (sys.step u (.call call .lock)).isSome = true := by
    intro u hstatus unheld
    refine step_call_isSome hstatus ?_
    simp [stepOf, ProberState.callStep, unheld]
  cases holder : s.prober.rateGate.holder with
  | none => exact awaits_now (locks s running holder)
  | some sleeper =>
    obtain ⟨wake, slept⟩ := gated.awaited.asleep sleeper holder
    obtain ⟨asked, hsleeper⟩ := wake_running slept
    have other : sys.ip sleeper ≠ ip := by
      intro host
      have same := agrees.own sleeper host
      rw [hsleeper] at same
      obtain ⟨phase, hphase, sooner⟩ := same.of_running
      have asleep : ∃ earlier, alone.sleeping sleeper = some earlier := by
        rw [CallsState.sleeping, hphase]
        cases sooner with
        | same => exact ⟨_, rfl⟩
        | sleeping => exact ⟨_, rfl⟩
      obtain ⟨earlier, hearlier⟩ := asleep
      have holds := (gatedAlone.spaces.held sleeper earlier hearlier).1
      rw [free] at holds
      cases holds
    have passes := awaits_pass sys hsleeper
    obtain ⟨t, ht⟩ := Option.isSome_iff_exists.mp passes
    have moved := (sys.step_iff).mp ht
    have unheld : t.prober.rateGate.holder = none := by
      cases gateMove moved with
      | quiet silent => cases silent
      | locked _ silent => cases silent
      | passed _ _ _ _ _ _ gate => rw [gate]; rfl
      | unlocked _ _ silent => cases silent
    have stays : t.status call = .running (.throttling request) := by
      cases moved with
      | called =>
        rw [CallsState.status_moved, Function.update_of_ne]
        · exact running
        · rintro rfl
          exact other hcall
    refine ⟨[.tick (wake - s.now), .call sleeper .pass], ?_, t, ?_, locks t stays unheld⟩
    · simp only [List.forall_mem_cons]
      exact ⟨.inl ⟨_, rfl⟩, .inr (decide_eq_false other), nofun⟩
    · simp [runList, show sys.step s (.tick (wake - s.now)) = some { s with now := s.now + (wake - s.now) } from rfl, ht]

/-- What a call may do alone, it may do among the others once it has waited. -/
theorem Agrees.awaits (agrees : sys.Agrees ip s alone) {own : List (CallsState × CallsAction)} (gated : sys.Gated trace s)
    (gatedAlone : sys.Gated own alone) (concerned : sys.concerns ip action = true)
    (h : (sys.step alone action).isSome = true) : sys.Awaits ip s action := by
  obtain ⟨u, hu⟩ := Option.isSome_iff_exists.mp h
  have later : ∀ {call : Nat} {phase : CallPhase}, sys.ip call = ip → alone.status call = .running phase →
      ∃ now, s.status call = .running now ∧ phase.Sooner now := by
    intro call phase host running
    have same := agrees.own call host
    rw [running] at same
    generalize s.status call = status at same
    cases same with
    | same => exact ⟨phase, rfl, .same _⟩
    | running h => exact ⟨_, rfl, h⟩
  cases action with
  | tick elapsed => exact awaits_now rfl
  | enter call =>
    have host : sys.ip call = ip := of_decide_eq_true concerned
    have idle : s.status call = .idle := by
      have same := agrees.own call host
      have aloneIdle : alone.status call = .idle := by
        cases (sys.step_iff).mp hu with
        | panicked idle => exact idle
        | entered idle => exact idle
      rw [aloneIdle] at same
      generalize s.status call = status at same
      cases same
      rfl
    refine awaits_now ?_
    simp only [step, idle, if_true]
    split
    next => rfl
    next => rfl
  | call call act =>
    have host : sys.ip call = ip := of_decide_eq_true concerned
    cases (sys.step_iff).mp hu with
    | @called _ _ phase prober after running hstep =>
      obtain ⟨now, hnow, sooner⟩ := later host running
      unfold stepOf ProberState.callStep at hstep
      split at hstep
      next =>
        cases sooner
        obtain ⟨taken, htaken, -⟩ := Option.map_eq_some_iff.mp hstep
        obtain ⟨state, hstate, free, -⟩ := ProberState.acquire_eq_some.mp htaken
        have own := ProberState.acquire_eq_some.mpr ⟨state, (agrees.hostOf host).symm.trans hstate, free, rfl⟩
        refine awaits_now (step_call_isSome hnow ?_)
        simp [stepOf, ProberState.callStep, own]
      next request =>
        cases sooner
        split at hstep
        next free => exact agrees.awaits_lock gated gatedAlone host hnow free
        next => cases hstep
      next request wakeAt =>
        obtain ⟨wake, rfl⟩ : ∃ wake, now = .sleeping request wake := by
          cases sooner with
          | same => exact ⟨_, rfl⟩
          | sleeping => exact ⟨_, rfl⟩
        exact ⟨[.tick (wake - s.now)], by simp [WaitsFor], _, rfl, awaits_pass sys hnow⟩
      next request =>
        cases sooner
        refine awaits_now (step_call_isSome hnow ?_)
        simp only [stepOf, ProberState.callStep]
        split
        next => rfl
        next => rfl
      next => cases hstep
  | drop call =>
    have host : sys.ip call = ip := of_decide_eq_true concerned
    cases (sys.step_iff).mp hu with
    | dropped running =>
      obtain ⟨now, hnow, -⟩ := later host running
      refine awaits_now ?_
      simp only [step, hnow]
      rfl

/-- In every run of the calls on one prober: a host's budget and its permits
bound its calls, an excluded call takes nothing, the calls for an address take
the steps they take without the others, each of which is at most put off, and
the passes of the gate are spaced. -/
theorem probe_bounds (run : Run sys.step .initial trace s) :
    (∀ ip (calls : List Nat), calls.Nodup →
      (∀ call ∈ calls, sys.ip call = ip ∧ ∃ u, (u, CallsAction.call call .acquire) ∈ trace) →
      calls.length ≤ sys.config.maxProbesPerHost) ∧
    (∀ call, sys.config.exclude.excludes sys.nets (sys.ip call) (sys.target call).2 = true →
      (∀ u, (u, CallsAction.call call .acquire) ∉ trace) ∧
      ∀ t, sys.step s (.enter call) = some t → t.prober = s.prober ∧ t.status call = .refused .excluded) ∧
    (∀ ip (calls : List Nat), calls.Nodup → (∀ call ∈ calls, sys.ip call = ip ∧ (s.status call).holds = true) →
      calls.length ≤ sys.config.maxConcurrentPerHost) ∧
    (∀ ip, ∃ own alone, Run sys.step .initial own alone ∧
      own.map Prod.snd = (trace.map Prod.snd).filter (sys.concerns ip) ∧
      (∀ call, sys.ip call = ip → (alone.status call).Sooner (s.status call)) ∧
      ∀ action, sys.concerns ip action = true → (sys.step alone action).isSome = true → sys.Awaits ip s action) ∧
    (passTimes trace).Pairwise fun a b => a + sys.config.minProbeInterval ≤ b := by
  refine ⟨fun _ _ => past_le run, ?_, fun _ _ => holders_le run, ?_, (gated run).spaced⟩
  · intro call excluded
    obtain ⟨paid, acc⟩ := accounts run
    refine ⟨?_, ?_⟩
    · intro u hmem
      have allowed := acc.allowed call (acc.past u call hmem)
      rw [excluded] at allowed
      cases allowed
    · intro t h
      have refused : sys.enterOf s call = some (s.prober, .error .excluded) := ProberState.enter_excluded excluded
      cases (sys.step_iff).mp h with
      | panicked idle panic =>
        rw [refused] at panic
        cases panic
      | entered idle enter =>
        rw [refused] at enter
        cases enter
        exact ⟨rfl, Function.update_self ..⟩
  · intro ip
    obtain ⟨own, alone, runAlone, labels, agrees⟩ := run_alone run ip
    exact ⟨own, alone, runAlone, labels, agrees.own, fun action concerned => agrees.awaits (gated run) (gated runAlone) concerned⟩

def twoCalls : ProbeCalls IpAddr where
  nets := hostNets
  config := .default hostNets
  target call := (.v4 (BitVec.ofNat 32 (0x0a000001 + call)), 80)

theorem probe_bounds_two_calls : ∃ trace s, Run twoCalls.step .initial trace s ∧
    trace.map Prod.snd = [.enter 0, .enter 1, .call 0 .acquire, .call 1 .acquire, .call 0 .lock, .call 0 .pass,
      .call 1 .lock, .tick 200000000, .call 1 .pass] ∧
    (∀ ip (calls : List Nat), calls.Nodup → (∀ call ∈ calls, twoCalls.ip call = ip ∧ (s.status call).holds = true) →
      calls.length ≤ twoCalls.config.maxConcurrentPerHost) ∧
    (passTimes trace).Pairwise fun a b => a + twoCalls.config.minProbeInterval ≤ b := by
  have runs : (runList twoCalls.step .initial [.enter 0, .enter 1, .call 0 .acquire, .call 1 .acquire, .call 0 .lock,
      .call 0 .pass, .call 1 .lock, .tick 200000000, .call 1 .pass]).isSome = true := by decide +kernel
  obtain ⟨s, hs⟩ := Option.isSome_iff_exists.mp runs
  obtain ⟨trace, run, labels⟩ := Run.of_runList hs
  exact ⟨trace, s, run, labels, (probe_bounds run).2.2.1, (probe_bounds run).2.2.2.2⟩

end ProbeCalls

end AnneDeBreuil
