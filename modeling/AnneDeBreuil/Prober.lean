import AnneDeBreuil.Fanout
import AnneDeBreuil.IpText
import AnneDeBreuil.RateGate

namespace AnneDeBreuil

/-- What `ipnet` does with its networks. -/
structure IpNetLib (ν : Type) where
  fromStr : String → Option ν
  contains : ν → IpAddr → Bool

structure ProbeExclusions (ν : Type) where
  ports : List UInt16
  cidrs : List ν

/-- The instance-metadata addresses of cloud providers. -/
def defaultExcludedCidrs : List String := ["169.254.169.254/32", "169.254.170.2/32"]

section

variable {ν : Type} (nets : IpNetLib ν)

def ProbeExclusions.new (ports : List UInt16) (cidrs : List ν) : ProbeExclusions ν where
  ports := ports
  cidrs := defaultExcludedCidrs.filterMap nets.fromStr ++ cidrs

def ProbeExclusions.excludes (exclude : ProbeExclusions ν) (addr : IpAddr) (port : UInt16) : Bool :=
  port ∈ exclude.ports || exclude.cidrs.any (nets.contains · addr)

end

/-- The bounds of a probe run that decide which connections it makes and when;
the interval is in nanoseconds. -/
structure ProbeConfig (ν : Type) where
  maxConcurrentPerHost : Nat
  maxProbesPerHost : Nat
  minProbeInterval : Nat
  exclude : ProbeExclusions ν

def ProbeConfig.default {ν : Type} (nets : IpNetLib ν) : ProbeConfig ν where
  maxConcurrentPerHost := 1
  maxProbesPerHost := 50
  minProbeInterval := 200000000
  exclude := .new nets [] []

inductive ProbeError
  | excluded
  | hostBudgetExhausted
deriving DecidableEq, Repr

/-- The free permits of a host's semaphore, and the calls its budget paid for. -/
structure HostState where
  permits : Nat
  issued : Nat
deriving DecidableEq, Repr

/-- The bookkeeping that `HttpProber` and `TlsProber` each have one of; the
calls that lock the gate are numbered. -/
structure ProberState where
  hostState : IpAddr → Option HostState
  rateGate : RateGate Nat

def ProberState.new : ProberState := ⟨fun _ => none, .new⟩

/-- Where a call of `probe` stands that its host's budget has paid for: it waits
for a permit, for the gate, or at the gate until a time, or its request is out. -/
inductive CallPhase
  | acquiring
  | throttling (request : Nat)
  | sleeping (request wakeAt : Nat)
  | requesting (request : Nat)
deriving DecidableEq, Repr

inductive CallAction
  | acquire
  | lock
  | pass
  | answer
deriving DecidableEq, Repr

namespace ProberState

/-- The part of `reserve_host_budget` under the lock of the hosts; nothing where
`Semaphore::new` panics. -/
def reserve {ν : Type} (config : ProbeConfig ν) (s : ProberState) (ip : IpAddr) :
    Option (ProberState × Except ProbeError Unit) :=
  if s.hostState ip = none ∧ maxPermits < config.maxConcurrentPerHost then none
  else
    let state := (s.hostState ip).getD ⟨config.maxConcurrentPerHost, 0⟩
    if config.maxProbesPerHost ≤ state.issued then
      some ({ s with hostState := Function.update s.hostState ip (some state) }, .error .hostBudgetExhausted)
    else
      some ({ s with hostState := Function.update s.hostState ip (some { state with issued := state.issued + 1 }) },
        .ok ())

/-- The start of `probe`, up to its first wait. -/
def enter {ν : Type} (nets : IpNetLib ν) (config : ProbeConfig ν) (s : ProberState) (ip : IpAddr) (port : UInt16) :
    Option (ProberState × Except ProbeError Unit) :=
  if config.exclude.excludes nets ip port then some (s, .error .excluded) else s.reserve config ip

def acquire (s : ProberState) (ip : IpAddr) : Option ProberState :=
  match s.hostState ip with
  | some state =>
    if 0 < state.permits then
      some { s with hostState := Function.update s.hostState ip (some { state with permits := state.permits - 1 }) }
    else none
  | none => none

def release (s : ProberState) (ip : IpAddr) : ProberState :=
  { s with
    hostState := Function.update s.hostState ip
      ((s.hostState ip).map fun state => { state with permits := state.permits + 1 }) }

/-- One step of a call that makes so many requests: the prober and the call
after it, which is over where there is none. -/
def callStep {ν : Type} (config : ProbeConfig ν) (now call : Nat) (ip : IpAddr) (requests : Nat) (s : ProberState) :
    CallPhase → CallAction → Option (ProberState × Option CallPhase)
  | .acquiring, .acquire => (s.acquire ip).map fun taken => (taken, some (.throttling 0))
  | .throttling request, .lock =>
    if s.rateGate.holder = none then
      some ({ s with rateGate := s.rateGate.lock call }, some (.sleeping request (s.rateGate.wakeAt now)))
    else none
  | .sleeping request wakeAt, .pass =>
    if wakeAt ≤ now then
      some ({ s with rateGate := s.rateGate.pass config.minProbeInterval now }, some (.requesting request))
    else none
  | .requesting request, .answer =>
    if request + 1 < requests then some (s, some (.throttling (request + 1))) else some (s.release ip, none)
  | _, _ => none

/-- A call that is dropped where it stands gives back what it holds. -/
def abandon (s : ProberState) (ip : IpAddr) : CallPhase → ProberState
  | .acquiring => s
  | .throttling _ => s.release ip
  | .sleeping _ _ => { s.release ip with rateGate := s.rateGate.unlock }
  | .requesting _ => s.release ip

end ProberState

def CallPhase.wake : CallPhase → Option Nat
  | .sleeping _ wakeAt => some wakeAt
  | _ => none

namespace ProberState

variable {ν : Type} {nets : IpNetLib ν} {config : ProbeConfig ν} {s t : ProberState} {ip : IpAddr} {port : UInt16}

theorem enter_rateGate {result : Except ProbeError Unit} (h : s.enter nets config ip port = some (t, result)) :
    t.rateGate = s.rateGate := by
  unfold enter reserve at h
  split at h
  next => cases h; rfl
  next =>
    split at h
    next => cases h
    next =>
      dsimp only at h
      split at h
      next => cases h; rfl
      next => cases h; rfl

theorem enter_ok (h : s.enter nets config ip port = some (t, .ok ())) : config.exclude.excludes nets ip port = false := by
  unfold enter at h
  split at h
  next => cases h
  next allowed => simpa using allowed

/-- What a step of a call does at the gate: nothing, or it locks or passes it. -/
theorem callStep_cases {now call requests : Nat} {phase : CallPhase} {action : CallAction} {after : Option CallPhase}
    (h : s.callStep config now call ip requests phase action = some (t, after)) :
    (action ≠ .pass ∧ t.rateGate = s.rateGate ∧ phase.wake = none ∧ after.bind CallPhase.wake = none) ∨
    (∃ request, phase = .throttling request ∧ action = .lock ∧ s.rateGate.holder = none ∧
      t.rateGate = s.rateGate.lock call ∧ after = some (.sleeping request (s.rateGate.wakeAt now))) ∨
    (∃ request wakeAt, phase = .sleeping request wakeAt ∧ action = .pass ∧ wakeAt ≤ now ∧
      t.rateGate = s.rateGate.pass config.minProbeInterval now ∧ after = some (.requesting request)) := by
  unfold callStep at h
  split at h
  next =>
    obtain ⟨taken, htaken, hafter⟩ := Option.map_eq_some_iff.mp h
    cases hafter
    unfold acquire at htaken
    split at htaken
    next =>
      split at htaken
      next => cases htaken; exact .inl ⟨nofun, rfl, rfl, rfl⟩
      next => cases htaken
    next => cases htaken
  next request =>
    split at h
    next free => cases h; exact .inr (.inl ⟨request, rfl, rfl, free, rfl, rfl⟩)
    next => cases h
  next request wakeAt =>
    split at h
    next awake => cases h; exact .inr (.inr ⟨request, wakeAt, rfl, rfl, awake, rfl, rfl⟩)
    next => cases h
  next =>
    split at h
    next => cases h; exact .inl ⟨nofun, rfl, rfl, rfl⟩
    next => cases h; exact .inl ⟨nofun, rfl, rfl, rfl⟩
  next => cases h

theorem abandon_rateGate (s : ProberState) (ip : IpAddr) (phase : CallPhase) :
    (s.abandon ip phase).rateGate = if phase.wake.isSome then s.rateGate.unlock else s.rateGate := by
  cases phase <;> rfl

end ProberState

end AnneDeBreuil
