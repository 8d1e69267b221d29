import AnneDeBreuil.ProbeTier
import AnneDeBreuil.Runs

namespace AnneDeBreuil

/-- One `HttpProber`, and the endpoint that each of its calls probes. -/
structure ProbeCalls (ν : Type) where
  nets : IpNetLib ν
  config : ProbeConfig ν
  target : Nat → IpAddr × UInt16

inductive CallStatus
  | idle
  | refused (error : ProbeError)
  | running (phase : CallPhase)
  | answered
  | dropped
deriving DecidableEq, Repr

/-- A prober and its calls on one clock. -/
structure CallsState where
  now : Nat
  prober : ProberState
  status : Nat → CallStatus

inductive CallsAction
  | tick (elapsed : Nat)
  | enter (call : Nat)
  | call (call : Nat) (action : CallAction)
  | drop (call : Nat)
deriving DecidableEq, Repr

/-- Whether a call holds a permit of its host where it stands. -/
def CallPhase.holds : CallPhase → Bool
  | .acquiring => false
  | _ => true

namespace CallStatus

def holds : CallStatus → Bool
  | .running phase => phase.holds
  | _ => false

def wake : CallStatus → Option Nat
  | .running phase => phase.wake
  | _ => none

/-- Where a call stands after its start. -/
def ofEnter : Except ProbeError Unit → CallStatus
  | .ok () => .running .acquiring
  | .error error => .refused error

/-- Where it stands after a step of its own. -/
def ofStep : Option CallPhase → CallStatus
  | some phase => .running phase
  | none => .answered

@[simp] theorem wake_ofEnter (result : Except ProbeError Unit) : (ofEnter result).wake = none := by
  cases result <;> rfl

@[simp] theorem wake_ofStep (after : Option CallPhase) : (ofStep after).wake = after.bind CallPhase.wake := by
  cases after <;> rfl

end CallStatus

namespace CallsState

def initial : CallsState := ⟨0, .new, fun _ => .idle⟩

/-- A call has moved, and the prober with it. -/
def moved (s : CallsState) (call : Nat) (prober : ProberState) (status : CallStatus) : CallsState :=
  ⟨s.now, prober, Function.update s.status call status⟩

/-- The calls asleep at the gate, and when each wakes. -/
def sleeping (s : CallsState) (call : Nat) : Option Nat := (s.status call).wake

@[simp] theorem prober_moved (s : CallsState) (call : Nat) (prober : ProberState) (status : CallStatus) :
    (s.moved call prober status).prober = prober := rfl

@[simp] theorem status_moved (s : CallsState) (call : Nat) (prober : ProberState) (status : CallStatus) :
    (s.moved call prober status).status = Function.update s.status call status := rfl

@[simp] theorem sleeping_moved (s : CallsState) (call : Nat) (prober : ProberState) (status : CallStatus) :
    (s.moved call prober status).sleeping = Function.update s.sleeping call status.wake := by
  funext other
  unfold sleeping
  rw [status_moved]
  by_cases h : other = call
  · rw [h, Function.update_self, Function.update_self]
  · rw [Function.update_of_ne h, Function.update_of_ne h]

end CallsState

namespace ProbeCalls

variable {ν : Type} (sys : ProbeCalls ν)

def ip (call : Nat) : IpAddr := (sys.target call).1

def enterOf (s : CallsState) (call : Nat) : Option (ProberState × Except ProbeError Unit) :=
  s.prober.enter sys.nets sys.config (sys.ip call) (sys.target call).2

def stepOf (s : CallsState) (call : Nat) (phase : CallPhase) (action : CallAction) :
    Option (ProberState × Option CallPhase) :=
  s.prober.callStep sys.config s.now call (sys.ip call) ProberKind.http.requests phase action

def step (s : CallsState) : CallsAction → Option CallsState
  | .tick elapsed => some { s with now := s.now + elapsed }
  | .enter call =>
    if s.status call = .idle then
      match sys.enterOf s call with
      -- the panic ends the call
      | none => some (s.moved call s.prober .dropped)
      | some (prober, result) => some (s.moved call prober (.ofEnter result))
    else none
  | .call call action =>
    match s.status call with
    | .running phase => (sys.stepOf s call phase action).map fun (prober, after) => s.moved call prober (.ofStep after)
    | _ => none
  | .drop call =>
    match s.status call with
    | .running phase => some (s.moved call (s.prober.abandon (sys.ip call) phase) .dropped)
    | _ => none

/-- What a step does. -/
inductive Move (s : CallsState) : CallsAction → CallsState → Prop
  | tick (elapsed : Nat) : Move s (.tick elapsed) { s with now := s.now + elapsed }
  | panicked {call : Nat} (idle : s.status call = .idle) (panic : sys.enterOf s call = none) :
    Move s (.enter call) (s.moved call s.prober .dropped)
  | entered {call : Nat} {prober : ProberState} {result : Except ProbeError Unit} (idle : s.status call = .idle)
    (enter : sys.enterOf s call = some (prober, result)) : Move s (.enter call) (s.moved call prober (.ofEnter result))
  | called {call : Nat} {action : CallAction} {phase : CallPhase} {prober : ProberState} {after : Option CallPhase}
    (running : s.status call = .running phase) (step : sys.stepOf s call phase action = some (prober, after)) :
    Move s (.call call action) (s.moved call prober (.ofStep after))
  | dropped {call : Nat} {phase : CallPhase} (running : s.status call = .running phase) :
    Move s (.drop call) (s.moved call (s.prober.abandon (sys.ip call) phase) .dropped)

theorem step_iff {s t : CallsState} {action : CallsAction} : sys.step s action = some t ↔ sys.Move s action t := by
  constructor
  · intro h
    cases action with
    | tick elapsed =>
      cases h
      exact .tick elapsed
    | enter call =>
      simp only [step] at h
      split at h
      next idle =>
        split at h
        next panic => cases h; exact .panicked idle panic
        next prober result enter => cases h; exact .entered idle enter
      next => cases h
    | call call action =>
      simp only [step] at h
      split at h
      next phase running =>
        obtain ⟨⟨prober, after⟩, hstep, hmoved⟩ := Option.map_eq_some_iff.mp h
        cases hmoved
        exact .called running hstep
      next => cases h
    | drop call =>
      simp only [step] at h
      split at h
      next phase running => cases h; exact .dropped running
      next => cases h
  · intro move
    cases move with
    | tick elapsed => rfl
    | panicked idle panic => simp only [step, idle, if_true, panic]
    | entered idle enter => simp only [step, idle, if_true, enter]
    | called running hstep => simp only [step, running, hstep, Option.map_some]
    | dropped running => simp only [step, running]

end ProbeCalls

end AnneDeBreuil
