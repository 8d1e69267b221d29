import AnneDeBreuil.Prober

namespace AnneDeBreuil

def candidatePorts : List UInt16 :=
  [21, 22, 23, 25, 53, 80, 110, 143, 443, 465, 587, 993, 995, 3000, 3306, 3389, 5432, 5900, 6379, 8000, 8080, 8443, 9200]

def candidatePaths : List String := ["/", "/status", "/health", "/metrics"]

/-- A scanner's two probers; each has hosts and a rate gate of its own. -/
inductive ProberKind
  | http
  | tls
deriving DecidableEq, Repr

/-- The requests of one call: the paths and one over HTTPS, or one handshake. -/
def ProberKind.requests : ProberKind → Nat
  | .http => candidatePaths.length + 1
  | .tls => 1

/-- Where one run of `probe_host` stands: at the ports still to try, waiting for
a raw connect to one, or with one found open and a prober called on it. -/
inductive ProbePhase
  | unstarted
  | candidates (ip : IpAddr) (ports : List UInt16)
  | connecting (ip : IpAddr) (port : Port) (rest : List UInt16)
  | calling (ip : IpAddr) (port : Port) (rest : List UInt16) (prober : ProberKind)
  | inCall (ip : IpAddr) (port : Port) (rest : List UInt16) (prober : ProberKind) (call : CallPhase)
  | returned
  | dropped
deriving DecidableEq, Repr

inductive AttemptKind
  | raw
  | request (prober : ProberKind) (index : Nat)
deriving DecidableEq, Repr

/-- The gate that lets an attempt through; a raw connect passes none. -/
def AttemptKind.gate : AttemptKind → Option ProberKind
  | .raw => none
  | .request prober _ => some prober

/-- An outbound connection attempt, and when it was let through. -/
structure Attempt where
  task : Nat
  ip : IpAddr
  port : UInt16
  kind : AttemptKind
  letThrough : Nat
deriving DecidableEq, Repr

/-- The probe tier of one scanner; `address` is the host of each of its tasks. -/
structure ProbeTier (ν : Type) where
  nets : IpNetLib ν
  config : ProbeConfig ν
  address : Nat → String

/-- The tasks on one clock. `attempts` logs their connection attempts in the
order in which they were let through. -/
structure TierState where
  now : Nat
  prober : ProberKind → ProberState
  phase : Nat → ProbePhase
  endpoints : Nat → List Endpoint
  attempts : List Attempt

/-- What can happen next: time passes, a task goes on with what the network
answered, or is dropped. -/
inductive TierAction
  | tick (elapsed : Nat)
  | resolve (task : Nat) (lookup : Option IpAddr)
  | next (task : Nat)
  | connected (task : Nat) (opened : Bool)
  | enter (task : Nat)
  | call (task : Nat) (action : CallAction)
  | drop (task : Nat)
deriving DecidableEq, Repr

/-- The address itself, or the first one its name resolves to. -/
def resolveIp (address : String) (lookup : Option IpAddr) : Option IpAddr :=
  match IpAddr.fromStr address with
  | some ip => some ip
  | none => lookup

def candidateEndpoint (ip : IpAddr) (port : Port) : Endpoint :=
  .new .tcp ⟨ip⟩ port none none [] .unknown none

namespace TierState

def initial : TierState where
  now := 0
  prober _ := .new
  phase _ := .unstarted
  endpoints _ := []
  attempts := []

def setPhase (s : TierState) (task : Nat) (phase : ProbePhase) : TierState :=
  { s with phase := Function.update s.phase task phase }

def setProber (s : TierState) (prober : ProberKind) (state : ProberState) : TierState :=
  { s with prober := Function.update s.prober prober state }

@[simp] theorem phase_setPhase (s : TierState) (task : Nat) (phase : ProbePhase) :
    (s.setPhase task phase).phase = Function.update s.phase task phase := rfl

@[simp] theorem prober_setPhase (s : TierState) (task : Nat) (phase : ProbePhase) :
    (s.setPhase task phase).prober = s.prober := rfl

@[simp] theorem phase_setProber (s : TierState) (prober : ProberKind) (state : ProberState) :
    (s.setProber prober state).phase = s.phase := rfl

@[simp] theorem prober_setProber (s : TierState) (prober : ProberKind) (state : ProberState) :
    (s.setProber prober state).prober = Function.update s.prober prober state := rfl

/-- What follows a prober's call, whatever it came to: the other prober, or the
next port once the endpoint is kept. -/
def afterCall (s : TierState) (task : Nat) (ip : IpAddr) (port : Port) (rest : List UInt16) : ProberKind → TierState
  | .http => s.setPhase task (.calling ip port rest .tls)
  | .tls =>
    { s.setPhase task (.candidates ip rest) with
      endpoints := Function.update s.endpoints task (s.endpoints task ++ [candidateEndpoint ip port]) }

@[simp] theorem prober_afterCall (s : TierState) (task : Nat) (ip : IpAddr) (port : Port) (rest : List UInt16)
    (called : ProberKind) : (s.afterCall task ip port rest called).prober = s.prober := by
  cases called <;> rfl

@[simp] theorem now_afterCall (s : TierState) (task : Nat) (ip : IpAddr) (port : Port) (rest : List UInt16)
    (called : ProberKind) : (s.afterCall task ip port rest called).now = s.now := by
  cases called <;> rfl

end TierState

namespace ProbeTier

variable {ν : Type} (tier : ProbeTier ν)

/-- The port a raw connect goes to, where the candidate is not passed over. -/
def connectTo (ip : IpAddr) (rawPort : UInt16) : Option Port :=
  match Port.tryFrom rawPort with
  | .error _ => none
  | .ok port => if tier.config.exclude.excludes tier.nets ip rawPort then none else some port

def attemptOf (s : TierState) : TierAction → Option Attempt
  | .next task =>
    match s.phase task with
    | .candidates ip (rawPort :: _) =>
      (tier.connectTo ip rawPort).map fun _ => ⟨task, ip, rawPort, .raw, s.now⟩
    | _ => none
  | .call task .pass =>
    match s.phase task with
    | .inCall ip port _ prober (.sleeping request _) => some ⟨task, ip, port.get, .request prober request, s.now⟩
    | _ => none
  | _ => none

/-- One step, but for the log. -/
def advance (s : TierState) : TierAction → Option TierState
  | .tick elapsed => some { s with now := s.now + elapsed }
  | .resolve task lookup =>
    match s.phase task with
    | .unstarted =>
      match resolveIp (tier.address task) lookup with
      | some ip => some (s.setPhase task (.candidates ip candidatePorts))
      | none => some (s.setPhase task .returned)
    | _ => none
  | .next task =>
    match s.phase task with
    | .candidates _ [] => some (s.setPhase task .returned)
    | .candidates ip (rawPort :: rest) =>
      match tier.connectTo ip rawPort with
      | some port => some (s.setPhase task (.connecting ip port rest))
      | none => some (s.setPhase task (.candidates ip rest))
    | _ => none
  | .connected task opened =>
    match s.phase task with
    | .connecting ip port rest =>
      if opened then some (s.setPhase task (.calling ip port rest .http))
      else some (s.setPhase task (.candidates ip rest))
    | _ => none
  | .enter task =>
    match s.phase task with
    | .calling ip port rest prober =>
      match (s.prober prober).enter tier.nets tier.config ip port.get with
      -- the panic ends the task
      | none => some (s.setPhase task .dropped)
      | some (state, .ok ()) =>
        some ((s.setProber prober state).setPhase task (.inCall ip port rest prober .acquiring))
      | some (state, .error _) => some ((s.setProber prober state).afterCall task ip port rest prober)
    | _ => none
  | .call task action =>
    match s.phase task with
    | .inCall ip port rest prober call =>
      match (s.prober prober).callStep tier.config s.now task ip prober.requests call action with
      | none => none
      | some (state, some call) =>
        some ((s.setProber prober state).setPhase task (.inCall ip port rest prober call))
      | some (state, none) => some ((s.setProber prober state).afterCall task ip port rest prober)
    | _ => none
  | .drop task =>
    match s.phase task with
    | .returned => none
    | .dropped => none
    | .inCall ip _ _ prober call =>
      some ((s.setProber prober ((s.prober prober).abandon ip call)).setPhase task .dropped)
    | _ => some (s.setPhase task .dropped)

/-- One step of the tier, with its attempt logged. -/
def step (s : TierState) (action : TierAction) : Option TierState :=
  (tier.advance s action).map fun t => { t with attempts := s.attempts ++ (tier.attemptOf s action).toList }

end ProbeTier

section

variable {ν : Type}

/-- What a step of the tier can do. -/
inductive TierMove (tier : ProbeTier ν) (s : TierState) : TierAction → TierState → Prop
  | waits {elapsed : Nat} : TierMove tier s (.tick elapsed) { s with now := s.now + elapsed }
  | resolves {task : Nat} {lookup : Option IpAddr} {ip : IpAddr} (before : s.phase task = .unstarted)
      (found : resolveIp (tier.address task) lookup = some ip) :
      TierMove tier s (.resolve task lookup) (s.setPhase task (.candidates ip candidatePorts))
  | unresolved {task : Nat} {lookup : Option IpAddr} (before : s.phase task = .unstarted)
      (unknown : resolveIp (tier.address task) lookup = none) :
      TierMove tier s (.resolve task lookup) (s.setPhase task .returned)
  | finishes {task : Nat} {ip : IpAddr} (before : s.phase task = .candidates ip []) :
      TierMove tier s (.next task) (s.setPhase task .returned)
  | connects {task : Nat} {ip : IpAddr} {rawPort : UInt16} {rest : List UInt16} {port : Port}
      (before : s.phase task = .candidates ip (rawPort :: rest)) (allowed : tier.connectTo ip rawPort = some port) :
      TierMove tier s (.next task) (s.setPhase task (.connecting ip port rest))
  | skips {task : Nat} {ip : IpAddr} {rawPort : UInt16} {rest : List UInt16}
      (before : s.phase task = .candidates ip (rawPort :: rest)) (passedOver : tier.connectTo ip rawPort = none) :
      TierMove tier s (.next task) (s.setPhase task (.candidates ip rest))
  | opens {task : Nat} {ip : IpAddr} {port : Port} {rest : List UInt16} (before : s.phase task = .connecting ip port rest) :
      TierMove tier s (.connected task true) (s.setPhase task (.calling ip port rest .http))
  | closed {task : Nat} {ip : IpAddr} {port : Port} {rest : List UInt16} (before : s.phase task = .connecting ip port rest) :
      TierMove tier s (.connected task false) (s.setPhase task (.candidates ip rest))
  | panics {task : Nat} {ip : IpAddr} {port : Port} {rest : List UInt16} {called : ProberKind}
      (before : s.phase task = .calling ip port rest called)
      (panic : (s.prober called).enter tier.nets tier.config ip port.get = none) :
      TierMove tier s (.enter task) (s.setPhase task .dropped)
  | enters {task : Nat} {ip : IpAddr} {port : Port} {rest : List UInt16} {called : ProberKind} {state : ProberState}
      (before : s.phase task = .calling ip port rest called)
      (reserved : (s.prober called).enter tier.nets tier.config ip port.get = some (state, .ok ())) :
      TierMove tier s (.enter task) ((s.setProber called state).setPhase task (.inCall ip port rest called .acquiring))
  | refused {task : Nat} {ip : IpAddr} {port : Port} {rest : List UInt16} {called : ProberKind} {state : ProberState}
      {e : ProbeError} (before : s.phase task = .calling ip port rest called)
      (refusal : (s.prober called).enter tier.nets tier.config ip port.get = some (state, .error e)) :
      TierMove tier s (.enter task) ((s.setProber called state).afterCall task ip port rest called)
  | calls {task : Nat} {action : CallAction} {ip : IpAddr} {port : Port} {rest : List UInt16} {called : ProberKind}
      {call next : CallPhase} {state : ProberState} (before : s.phase task = .inCall ip port rest called call)
      (stepped : (s.prober called).callStep tier.config s.now task ip called.requests call action = some (state, some next)) :
      TierMove tier s (.call task action) ((s.setProber called state).setPhase task (.inCall ip port rest called next))
  | answered {task : Nat} {action : CallAction} {ip : IpAddr} {port : Port} {rest : List UInt16} {called : ProberKind}
      {call : CallPhase} {state : ProberState} (before : s.phase task = .inCall ip port rest called call)
      (stepped : (s.prober called).callStep tier.config s.now task ip called.requests call action = some (state, none)) :
      TierMove tier s (.call task action) ((s.setProber called state).afterCall task ip port rest called)
  | abandons {task : Nat} {ip : IpAddr} {port : Port} {rest : List UInt16} {called : ProberKind} {call : CallPhase}
      (before : s.phase task = .inCall ip port rest called call) :
      TierMove tier s (.drop task)
        ((s.setProber called ((s.prober called).abandon ip call)).setPhase task .dropped)
  | drops {task : Nat} (waits : s.phase task ≠ .returned ∧ s.phase task ≠ .dropped)
      (outside : ∀ ip port rest called call, s.phase task ≠ .inCall ip port rest called call) :
      TierMove tier s (.drop task) (s.setPhase task .dropped)

variable {tier : ProbeTier ν} {s t : TierState} {action : TierAction}

theorem ProbeTier.advance_moves (h : tier.advance s action = some t) : TierMove tier s action t := by
  unfold advance at h
  split at h
  next => cases h; exact .waits
  next =>
    split at h
    next before =>
      split at h
      next found => cases h; exact .resolves before found
      next unknown => cases h; exact .unresolved before unknown
    next => cases h
  next =>
    split at h
    next before => cases h; exact .finishes before
    next before =>
      split at h
      next allowed => cases h; exact .connects before allowed
      next passedOver => cases h; exact .skips before passedOver
    next => cases h
  next opened =>
    split at h
    next before =>
      cases opened with
      | true => cases h; exact .opens before
      | false => cases h; exact .closed before
    next => cases h
  next =>
    split at h
    next before =>
      split at h
      next panic => cases h; exact .panics before panic
      next reserved => cases h; exact .enters before reserved
      next refusal => cases h; exact .refused before refusal
    next => cases h
  next =>
    split at h
    next before =>
      split at h
      next => cases h
      next stepped => cases h; exact .calls before stepped
      next stepped => cases h; exact .answered before stepped
    next => cases h
  next =>
    split at h
    next => cases h
    next => cases h
    next before => cases h; exact .abandons before
    next returned dropped outside => cases h; exact .drops ⟨returned, dropped⟩ outside

/-- An attempt is a raw connect to the next port that is not passed over, or the request of a call that passes its gate. -/
theorem ProbeTier.attemptOf_cases {attempt : Attempt} (h : tier.attemptOf s action = some attempt) :
    (∃ task ip rawPort rest port, action = .next task ∧ s.phase task = .candidates ip (rawPort :: rest) ∧
      tier.connectTo ip rawPort = some port ∧ attempt = ⟨task, ip, rawPort, .raw, s.now⟩) ∨
    ∃ task ip port rest called request wake, action = .call task .pass ∧
      s.phase task = .inCall ip port rest called (.sleeping request wake) ∧
      attempt = ⟨task, ip, port.get, .request called request, s.now⟩ := by
  unfold attemptOf at h
  split at h
  next task =>
    split at h
    next ip rawPort rest before =>
      obtain ⟨port, allowed, rfl⟩ := Option.map_eq_some_iff.mp h
      exact .inl ⟨task, ip, rawPort, rest, port, rfl, before, allowed, rfl⟩
    next => cases h
  next task =>
    split at h
    next ip port rest called request wake before =>
      cases h
      exact .inr ⟨task, ip, port, rest, called, request, wake, rfl, before, rfl⟩
    next => cases h
  next => cases h

theorem ProbeTier.attemptOf_letThrough {attempt : Attempt} (h : tier.attemptOf s action = some attempt) :
    attempt.letThrough = s.now := by
  obtain ⟨task, ip, rawPort, rest, port, -, -, -, rfl⟩ | ⟨task, ip, port, rest, called, request, wake, -, -, rfl⟩ :=
    tier.attemptOf_cases h
  · rfl
  · rfl

end

end AnneDeBreuil
