import AnneDeBreuil.Endpoint
import AnneDeBreuil.IpText

namespace AnneDeBreuil

def BindAddress.fromStr (s : String) : Except DomainError BindAddress :=
  match IpAddr.fromStr (trim s) with
  | some ip => .ok ⟨ip⟩
  | none => .error (.invalidBindAddress s)

/-- A process id, unless it is zero; the caller drops the error. -/
def ProcessId.tryFrom (value : UInt32) : Option ProcessId := if value = 0 then none else some ⟨value⟩

/-- One observed listening socket, in the platform's own text. -/
structure RawEndpoint where
  protocol : String
  localAddress : String
  localPort : UInt16
  owningPid : Option UInt32
deriving DecidableEq, Repr

structure RawProcess where
  pid : UInt32
  path : Option String
  commandLine : Option String
deriving DecidableEq, Repr

structure RawService where
  name : String
  displayName : String
deriving DecidableEq, Repr

/-- A parse failure is a domain error here, whose text the source keeps. -/
inductive CollectError
  | spawn (text : String)
  | timeout (nanos : Nat)
  | parse (source : DomainError)
  | policyUnavailable (text : String)
  | unsupportedPlatform
deriving DecidableEq, Repr

inductive ProcessAttribution
  | resolved (pid : ProcessId) (path : Option ProcessPath) (hostedServices : List ServiceName)
      (signature : SignatureStatus) (commandLine : Option String)
  | processGone
  | unresolved
deriving DecidableEq, Repr

structure CollectedEndpoint where
  protocol : Protocol
  bindAddress : BindAddress
  port : Port
  owningProcess : ProcessAttribution
deriving DecidableEq, Repr

/-- What the process resolver and the signature verifier answer. -/
structure Lookups where
  describe : ProcessId → Except CollectError (Option RawProcess)
  hostedServices : ProcessId → Except CollectError (List RawService)
  verify : ProcessPath → Except CollectError SignatureStatus

/-- The `?` on a domain parse. -/
def fromDomain {α : Type} (x : Except DomainError α) : Except CollectError α := x.mapError .parse

def resolveProcess (lookups : Lookups) (owningPid : Option UInt32) : Except CollectError ProcessAttribution :=
  match owningPid.bind ProcessId.tryFrom with
  | none => .ok .unresolved
  | some pid => do
    match ← lookups.describe pid with
    | none => .ok .processGone
    | some rawProcess =>
      let path ← match rawProcess.path with
        | none => pure none
        | some path => (fromDomain (ProcessPath.tryFrom path)).map some
      let signature ← match path with
        | some path => lookups.verify path
        | none => pure .unknown
      let rawServices ← lookups.hostedServices pid
      let hostedServices ← rawServices.mapM fun rawService => fromDomain (ServiceName.tryFrom rawService.name)
      .ok (.resolved pid path (sortByKey ServiceName.asStr hostedServices) signature rawProcess.commandLine)

/-- One round of the loop of `collect_endpoints`. -/
def collectEndpoint (lookups : Lookups) (raw : RawEndpoint) : Except CollectError CollectedEndpoint := do
  let protocol ← fromDomain (Protocol.fromStr raw.protocol)
  let bindAddress ← fromDomain (BindAddress.fromStr raw.localAddress)
  let port ← fromDomain (Port.tryFrom raw.localPort)
  let owningProcess ← resolveProcess lookups raw.owningPid
  .ok ⟨protocol, bindAddress, port, owningProcess⟩

def endpointFromCollected (collected : CollectedEndpoint) : Endpoint :=
  match collected.owningProcess with
  | .resolved pid path hostedServices signature commandLine =>
    .new collected.protocol collected.bindAddress collected.port (some pid) path hostedServices signature
      (commandLine.map utf8)
  | .processGone | .unresolved =>
    .new collected.protocol collected.bindAddress collected.port none none [] .unknown none

theorem collectEndpoint_eq_ok_iff {lookups : Lookups} {raw : RawEndpoint} {endpoint : CollectedEndpoint} :
    collectEndpoint lookups raw = .ok endpoint ↔ Protocol.fromStr raw.protocol = .ok endpoint.protocol ∧
      BindAddress.fromStr raw.localAddress = .ok endpoint.bindAddress ∧ Port.tryFrom raw.localPort = .ok endpoint.port ∧
      resolveProcess lookups raw.owningPid = .ok endpoint.owningProcess := by
  have parsed : ∀ {α : Type} {x : Except DomainError α} {a : α}, fromDomain x = .ok a ↔ x = .ok a := by
    intro α x a
    cases x <;> simp [fromDomain, Except.mapError]
  constructor
  · intro h
    obtain ⟨protocol, hprotocol, h⟩ := bind_eq_ok h
    obtain ⟨bindAddress, hbind, h⟩ := bind_eq_ok h
    obtain ⟨port, hport, h⟩ := bind_eq_ok h
    obtain ⟨owningProcess, howning, h⟩ := bind_eq_ok h
    cases h
    exact ⟨parsed.mp hprotocol, parsed.mp hbind, parsed.mp hport, howning⟩
  · rintro ⟨hprotocol, hbind, hport, howning⟩
    rw [collectEndpoint, parsed.mpr hprotocol, parsed.mpr hbind, parsed.mpr hport, howning]
    rfl

end AnneDeBreuil
