import AnneDeBreuil.Reachability
import AnneDeBreuil.TrustOnFirstUse

namespace AnneDeBreuil

/-- How to authenticate; there is no password among the methods. -/
inductive AuthMethod
  | agent
  | keyFile (path : String)
  | keyFromKeyring (name : String)
deriving DecidableEq, Repr

/-- What a server presents: a bare key, or a certificate around one. -/
inductive ServerKey
  | publicKey (key : PublicKey)
  | certificate (key : PublicKey)
deriving DecidableEq, Repr

/-- What there is to authenticate with: identities of the agent, or a private key. -/
inductive Credential (κ : Type)
  | agentKey (key : PublicKey)
  | agentCertificate (key : PublicKey)
  | privateKey (key : κ)
deriving DecidableEq, Repr

/-- A public key authentication that was sent, with the hash for RSA signatures. -/
structure Offer (κ α : Type) where
  user : String
  credential : Credential κ
  hashAlg : Option α
deriving DecidableEq, Repr

/-- A lookup in the keyring: its task panicked, or the lookup failed. -/
inductive KeyringError
  | panicked (message : String)
  | lookup (message : String)
deriving DecidableEq, Repr

/-- The arguments of `SshTransport::connect`, and what is met on the way: the server, this machine's
credentials, and the answers to the offers in their order. Errors of other crates are their texts. -/
structure SshConnect (κ α : Type) where
  host : String
  port : UInt16
  user : String
  auth : AuthMethod
  acceptNew : Bool
  handshake : Except String ServerKey
  established : Except String Unit
  connectAgent : Except String Unit
  requestIdentities : Except String (List (Credential κ))
  loadSecretKey : String → Except String κ
  keyringPassword : String → Except KeyringError String
  decodeSecretKey : String → Except String κ
  bestSupportedRsaHash : Nat → Except String (Option (Option α))
  publickey : Nat → Except String Bool

def hostLabel (host : String) (port : UInt16) : String :=
  if port = 22 then host else "[" ++ host ++ "]:" ++ toString port.toNat

namespace SshConnect

variable {κ α : Type} (target : Target) (debug : DebugText) (connect : SshConnect κ α)

def label : String := hostLabel connect.host connect.port

/-- The call of `verify_host_key` for a bare key. -/
def keyCall (key : PublicKey) : HostKeyCall := ⟨connect.label, key, connect.acceptNew⟩

/-- The identities of `authenticate_via_agent`. -/
def agentIdentities : Except TransportError (List (Credential κ)) := do
  let ambient := match target with
    | .windows => "connecting to Pageant ssh-agent: "
    | .other => "connecting to ssh-agent: "
  connect.connectAgent.mapError fun err => .connect (ambient ++ err)
  connect.requestIdentities.mapError fun err => .connect ("listing ssh-agent identities: " ++ err)

/-- The key of `authenticate_via_key_material`. -/
def keyMaterial (path : String) : Except TransportError (List (Credential κ)) := do
  let key ← (connect.loadSecretKey path).mapError fun err => .connect ("loading key file " ++ path ++ ": " ++ err)
  .ok [.privateKey key]

/-- The key of `authenticate_via_keyring`. -/
def keyringKey (entryName : String) : Except TransportError (List (Credential κ)) := do
  let secret ← (connect.keyringPassword entryName).mapError fun err =>
    match err with
    | .panicked message => TransportError.connect ("OS keyring lookup task panicked: " ++ message)
    | .lookup message => .connect ("reading OS keyring entry " ++ debug.text entryName ++ ": " ++ message)
  let key ← (connect.decodeSecretKey secret).mapError fun err =>
    .connect ("decoding key from keyring entry " ++ debug.text entryName ++ ": " ++ err)
  .ok [.privateKey key]

/-- What the method of `authenticate` names. -/
def credentials : Except TransportError (List (Credential κ)) :=
  match connect.auth with
  | .agent => connect.agentIdentities target
  | .keyFile path => connect.keyMaterial path
  | .keyFromKeyring name => connect.keyringKey debug name

def authDebug : String :=
  match connect.auth with
  | .agent => "Agent"
  | .keyFile path => "KeyFile(" ++ debug.text path ++ ")"
  | .keyFromKeyring name => "KeyFromKeyring(" ++ debug.text name ++ ")"

def rejected : TransportError :=
  .connect ("server rejected " ++ connect.authDebug debug ++ " authentication for user " ++ debug.text connect.user)

end SshConnect

/-- A failed signature names the agent where the agent signs. -/
def Credential.failed {κ : Type} (credential : Credential κ) (err : String) : TransportError :=
  match credential with
  | .agentKey _ | .agentCertificate _ => .connect ("ssh-agent signing failed: " ++ err)
  | .privateKey _ => .ssh err

/-- Where a connection stands; one that is dropped stays there. -/
inductive ConnectPhase (κ : Type)
  | connecting
  | verifying (key : PublicKey) (phase : VerifyPhase)
  | authenticating (pending : List (Credential κ))
  | finished (answer : Except TransportError Unit)

section

variable {κ α : Type} (crates : SshCrates) (target : Target) (debug : DebugText)

/-- One turn of the offers, with the answer that ends them, and the offers then. -/
def SshConnect.turn (connect : SshConnect κ α) (credential : Credential κ) (offers : List (Offer κ α)) :
    Option (Except TransportError Unit) × List (Offer κ α) :=
  match connect.bestSupportedRsaHash offers.length with
  | .error err => (some (.error (.ssh err)), offers)
  | .ok hash =>
    let sent := offers ++ [⟨connect.user, credential, hash.join⟩]
    match connect.publickey offers.length with
    | .error err => (some (.error (credential.failed err)), sent)
    | .ok true => (some (.ok ()), sent)
    | .ok false => (none, sent)

/-- One step of `SshTransport::connect`, on the shared book and the offers that it made. -/
def SshConnect.step (connect : SshConnect κ α) (book : KnownHosts) (offers : List (Offer κ α)) :
    ConnectPhase κ → Option (ConnectPhase κ × KnownHosts × List (Offer κ α))
  | .connecting =>
    match connect.handshake with
    | .error err => some (.finished (.error (.ssh err)), book, offers)
    | .ok (.certificate _) => some (.finished (.error .hostKeyCertificateUnsupported), book, offers)
    | .ok (.publicKey key) => some (.verifying key .called, book, offers)
  | .verifying _ (.returned (.error err)) => some (.finished (.error err), book, offers)
  | .verifying _ (.returned (.ok ())) =>
    match connect.established with
    | .error err => some (.finished (.error (.ssh err)), book, offers)
    | .ok () =>
      match connect.credentials target debug with
      | .error err => some (.finished (.error err), book, offers)
      | .ok pending => some (.authenticating pending, book, offers)
  | .verifying key phase =>
    (verifyStep crates book (connect.keyCall key) phase).map fun next => (.verifying key next.1, next.2, offers)
  | .authenticating [] => some (.finished (.error (connect.rejected debug)), book, offers)
  | .authenticating (.agentCertificate _ :: pending) => some (.authenticating pending, book, offers)
  | .authenticating (credential :: pending) =>
    match connect.turn credential offers with
    | (some answer, sent) => some (.finished answer, book, sent)
    | (none, sent) => some (.authenticating pending, book, sent)
  | .finished _ => none

/-- Connections that share one book. -/
structure SshState (ι κ α : Type) where
  book : KnownHosts
  phase : ι → ConnectPhase κ
  offers : ι → List (Offer κ α)

def SshState.initial (ι κ α : Type) (book : KnownHosts) : SshState ι κ α := ⟨book, fun _ => .connecting, fun _ => []⟩

/-- One step of one connection; the label is the connection. -/
def sshStep {ι : Type} [DecidableEq ι] (connects : ι → SshConnect κ α) (s : SshState ι κ α) (i : ι) : Option (SshState ι κ α) :=
  ((connects i).step crates target debug s.book (s.offers i) (s.phase i)).map fun next =>
    ⟨next.2.1, Function.update s.phase i next.1, Function.update s.offers i next.2.2⟩

end

/-- What a step of `verify_host_key` does: it looks up, and lets in only what it found or may
accept, or it records. -/
theorem verifyStep_cases {crates : SshCrates} {book book' : KnownHosts} {call : HostKeyCall} {phase phase' : VerifyPhase}
    (h : verifyStep crates book call phase = some (phase', book')) :
    (book' = book ∧ (phase' = .returned (.ok ()) → Carries (book.keysFor crates call.host) call.key) ∧
      (phase' = .recording → call.acceptNew = true)) ∨
    (phase = .recording ∧ phase' = .returned (.ok ()) ∧ book' = book.record call.host call.key) := by
  cases phase with
  | called =>
    simp only [verifyStep] at h
    cases hstatus : book.lookup crates call.host call.key with
    | known =>
      simp only [hstatus] at h
      cases h
      refine .inl ⟨rfl, fun _ => ?_, by simp⟩
      rw [lookup_spec] at hstatus
      by_contra hcarries
      rw [if_neg hcarries] at hstatus
      split at hstatus <;> cases hstatus
    | unknown =>
      simp only [hstatus] at h
      split at h
      next hnew =>
        cases h
        exact .inl ⟨rfl, by simp, fun _ => hnew⟩
      next =>
        cases h
        exact .inl ⟨rfl, by simp, by simp⟩
    | changed =>
      simp only [hstatus] at h
      cases h
      exact .inl ⟨rfl, by simp, by simp⟩
  | recording =>
    cases h
    exact .inr ⟨rfl, rfl, rfl⟩
  | returned => cases h

/-- Certificates of the agent are passed over. -/
def Credential.offerable {κ : Type} : Credential κ → Bool
  | .agentCertificate _ => false
  | .agentKey _ | .privateKey _ => true

section

variable {κ α : Type}

namespace SshConnect

variable (target : Target) (debug : DebugText) (connect : SshConnect κ α)

/-- The server presented a bare key that is vouched for. -/
def Met (vouched : PublicKey → Prop) : Prop := ∃ key, connect.handshake = .ok (.publicKey key) ∧ vouched key

/-- The offers are of what was tried, as the configured user. -/
structure Sent (tried : List (Credential κ)) (offers : List (Offer κ α)) : Prop where
  credentials : offers.map Offer.credential = tried.filter Credential.offerable
  user : ∀ offer ∈ offers, offer.user = connect.user

/-- The first answers were all refusals. -/
def Refused (n : Nat) : Prop := ∀ k < n, connect.publickey k = .ok false

/-- What each phase knows of the server and of the offers so far. -/
def Keeps (vouched : PublicKey → Prop) (offers : List (Offer κ α)) : ConnectPhase κ → Prop
  | .connecting => offers = []
  | .verifying key phase => connect.handshake = .ok (.publicKey key) ∧ offers = [] ∧
      (phase = .recording → connect.acceptNew = true) ∧ (phase = .returned (.ok ()) → vouched key)
  | .authenticating pending => connect.Met vouched ∧ ∃ tried, connect.credentials target debug = .ok (tried ++ pending) ∧
      connect.Sent tried offers ∧ connect.Refused offers.length
  | .finished answer => (offers = [] ∧ answer ≠ .ok ()) ∨
      (connect.Met vouched ∧ ∃ tried pending, connect.credentials target debug = .ok (tried ++ pending) ∧
        connect.Sent tried offers ∧ connect.Refused (offers.length - 1) ∧
        (answer = .ok () → offers ≠ [] ∧ connect.publickey (offers.length - 1) = .ok true))

variable {target debug connect} {crates : SshCrates} {vouched vouched' : PublicKey → Prop} {book book' : KnownHosts}
  {offers offers' : List (Offer κ α)} {phase phase' : ConnectPhase κ}

theorem Met.mono (mono : ∀ key, vouched key → vouched' key) (h : connect.Met vouched) : connect.Met vouched' :=
  h.imp fun key met => ⟨met.1, mono key met.2⟩

theorem Keeps.mono (mono : ∀ key, vouched key → vouched' key) (h : connect.Keeps target debug vouched offers phase) :
    connect.Keeps target debug vouched' offers phase := by
  cases phase with
  | connecting => exact h
  | verifying key phase => exact ⟨h.1, h.2.1, h.2.2.1, fun ok => mono key (h.2.2.2 ok)⟩
  | authenticating pending => exact ⟨h.1.mono mono, h.2⟩
  | finished answer => exact h.imp_right fun met => ⟨met.1.mono mono, met.2⟩

theorem Sent.snoc {tried : List (Credential κ)} (h : connect.Sent tried offers) {credential : Credential κ}
    (offerable : credential.offerable = true) (hash : Option α) :
    connect.Sent (tried ++ [credential]) (offers ++ [⟨connect.user, credential, hash⟩]) := by
  refine ⟨?_, fun offer hoffer => ?_⟩
  · rw [List.map_append, h.credentials, List.filter_append, List.filter_cons_of_pos offerable]
    rfl
  · rcases List.mem_append.mp hoffer with earlier | last
    · exact h.user offer earlier
    · rw [List.mem_singleton.mp last]

theorem Refused.succ {n : Nat} (h : connect.Refused n) (refused : connect.publickey n = .ok false) : connect.Refused (n + 1) := by
  intro k hk
  rcases Nat.lt_succ_iff_lt_or_eq.mp hk with earlier | rfl
  · exact h k earlier
  · exact refused

/-- A turn offers its credential, and ends the offers on an error or an acceptance. -/
theorem turn_cases {credential : Credential κ} {ended : Option (Except TransportError Unit)}
    (h : connect.turn credential offers = (ended, offers')) :
    (offers' = offers ∧ ∃ err, ended = some (.error err)) ∨ ∃ hash, offers' = offers ++ [⟨connect.user, credential, hash⟩] ∧
      ((∃ err, ended = some (.error err)) ∨ (ended = some (.ok ()) ∧ connect.publickey offers.length = .ok true) ∨
        (ended = none ∧ connect.publickey offers.length = .ok false)) := by
  simp only [turn] at h
  split at h
  next err _ =>
    cases h
    exact .inl ⟨rfl, _, rfl⟩
  next hash _ =>
    split at h
    next err _ =>
      cases h
      exact .inr ⟨hash.join, rfl, .inl ⟨_, rfl⟩⟩
    next accepted =>
      cases h
      exact .inr ⟨hash.join, rfl, .inr (.inl ⟨rfl, accepted⟩)⟩
    next refused =>
      cases h
      exact .inr ⟨hash.join, rfl, .inr (.inr ⟨rfl, refused⟩)⟩

theorem Keeps.offer {credential : Credential κ} {pending : List (Credential κ)} (offerable : credential.offerable = true)
    (kept : connect.Keeps target debug vouched offers (.authenticating (credential :: pending)))
    {ended : Option (Except TransportError Unit)} (h : connect.turn credential offers = (ended, offers')) :
    connect.Keeps target debug vouched offers' (ended.elim (.authenticating pending) .finished) := by
  obtain ⟨met, tried, named, sent, refused⟩ := kept
  rcases turn_cases h with ⟨rfl, err, rfl⟩ | ⟨hash, rfl, answered⟩
  · exact .inr ⟨met, tried, credential :: pending, named, sent, fun k hk => refused k (by omega), nofun⟩
  · have sent' := sent.snoc offerable hash
    have length : (offers ++ [(⟨connect.user, credential, hash⟩ : Offer κ α)]).length = offers.length + 1 := by simp
    have named' : connect.credentials target debug = .ok (tried ++ [credential] ++ pending) := by
      rw [named, List.append_assoc, List.singleton_append]
    rcases answered with ⟨err, rfl⟩ | ⟨rfl, accepted⟩ | ⟨rfl, no⟩
    · exact .inr ⟨met, _, pending, named', sent', by rwa [length, Nat.add_sub_cancel], nofun⟩
    · refine .inr ⟨met, _, pending, named', sent', by rwa [length, Nat.add_sub_cancel], fun _ => ⟨by simp, ?_⟩⟩
      rwa [length, Nat.add_sub_cancel]
    · exact ⟨met, _, named', sent', length ▸ refused.succ no⟩

/-- What a step does to the book, and that it keeps what the phases know. -/
theorem step_keeps (h : connect.step crates target debug book offers phase = some (phase', book', offers'))
    (kept : connect.Keeps target debug (Carries (book.keysFor crates connect.label)) offers phase) :
    connect.Keeps target debug (Carries (book'.keysFor crates connect.label)) offers' phase' ∧
      (book' = book ∨ ∃ key, connect.handshake = .ok (.publicKey key) ∧ connect.acceptNew = true ∧
        book' = book.record connect.label key) := by
  cases phase with
  | connecting =>
    simp only [step] at h
    split at h
    next =>
      cases h
      exact ⟨.inl ⟨kept, nofun⟩, .inl rfl⟩
    next =>
      cases h
      exact ⟨.inl ⟨kept, nofun⟩, .inl rfl⟩
    next key hkey =>
      cases h
      exact ⟨⟨hkey, kept, nofun, nofun⟩, .inl rfl⟩
  | verifying key phase =>
    obtain ⟨presented, none, accepts, vouched⟩ := kept
    have verifies : (verifyStep crates book (connect.keyCall key) phase).map
        (fun next => (ConnectPhase.verifying key next.1, next.2, offers)) = some (phase', book', offers') →
        connect.Keeps target debug (Carries (book'.keysFor crates connect.label)) offers' phase' ∧
          (book' = book ∨ ∃ key, connect.handshake = .ok (.publicKey key) ∧ connect.acceptNew = true ∧
            book' = book.record connect.label key) := by
      intro h
      obtain ⟨next, hnext, same⟩ := Option.map_eq_some_iff.mp h
      cases same
      rcases verifyStep_cases hnext with ⟨same, carries, records⟩ | ⟨recording, returned, recorded⟩
      · rw [same]
        exact ⟨⟨presented, none, records, carries⟩, .inl rfl⟩
      · rw [returned, recorded]
        refine ⟨⟨presented, none, nofun, fun _ => ?_⟩, .inr ⟨key, presented, accepts recording, rfl⟩⟩
        exact ⟨key, by simp [keyCall, keysFor_record], rfl⟩
    cases phase with
    | called => exact verifies h
    | recording => exact verifies h
    | returned answer =>
      cases answer with
      | error err =>
        cases h
        exact ⟨.inl ⟨none, nofun⟩, .inl rfl⟩
      | ok _ =>
        simp only [step] at h
        split at h
        next =>
          cases h
          exact ⟨.inl ⟨none, nofun⟩, .inl rfl⟩
        next =>
          split at h
          next =>
            cases h
            exact ⟨.inl ⟨none, nofun⟩, .inl rfl⟩
          next pending named =>
            cases h
            refine ⟨⟨⟨key, presented, vouched rfl⟩, [], named, ⟨by rw [none]; rfl, by simp [none]⟩, ?_⟩, .inl rfl⟩
            simp [Refused, none]
  | authenticating pending =>
    have turns : ∀ credential rest, credential.offerable = true → pending = credential :: rest →
        (match connect.turn credential offers with
          | (some answer, sent) => some (.finished answer, book, sent)
          | (none, sent) => some (.authenticating rest, book, sent)) = some (phase', book', offers') →
        connect.Keeps target debug (Carries (book'.keysFor crates connect.label)) offers' phase' ∧
          (book' = book ∨ ∃ key, connect.handshake = .ok (.publicKey key) ∧ connect.acceptNew = true ∧
            book' = book.record connect.label key) := by
      rintro credential rest offerable rfl h
      cases hturn : connect.turn credential offers with
      | mk ended sent =>
        have after := kept.offer offerable hturn
        rw [hturn] at h
        cases ended with
        | none =>
          cases h
          exact ⟨after, .inl rfl⟩
        | some answer =>
          cases h
          exact ⟨after, .inl rfl⟩
    cases pending with
    | nil =>
      cases h
      obtain ⟨met, tried, named, sent, refused⟩ := kept
      exact ⟨.inr ⟨met, tried, [], named, sent, fun k hk => refused k (by omega), nofun⟩, .inl rfl⟩
    | cons credential rest =>
      cases credential with
      | agentCertificate key =>
        cases h
        obtain ⟨met, tried, named, sent, refused⟩ := kept
        refine ⟨⟨met, tried ++ [.agentCertificate key], ?_, ⟨?_, sent.user⟩, refused⟩, .inl rfl⟩
        · rw [named, List.append_assoc, List.singleton_append]
        · rw [sent.credentials, List.filter_append]
          simp [Credential.offerable]
      | agentKey key => exact turns _ rest rfl rfl h
      | privateKey key => exact turns _ rest rfl rfl h
  | finished answer => cases h

end SshConnect

variable {ι : Type} [DecidableEq ι] {crates : SshCrates} {target : Target} {debug : DebugText}
  {connects : ι → SshConnect κ α} {book : KnownHosts} {s t : SshState ι κ α} {trace : List (SshState ι κ α × ι)}

/-- The key was in the book for the host, or a connection that may accept new keys met it there. -/
def Trusted (crates : SshCrates) (connects : ι → SshConnect κ α) (book : KnownHosts) (host : String) (key : PublicKey) : Prop :=
  Carries (book.keysFor crates host) key ∨ ∃ (j : ι) (met : PublicKey), (connects j).acceptNew = true ∧
    (connects j).label = host ∧ (connects j).handshake = .ok (.publicKey met) ∧ met.keyData = key.keyData

/-- Every connection keeps to its phase, and the book holds trusted keys only. -/
structure SshState.Vetted (crates : SshCrates) (target : Target) (debug : DebugText) (connects : ι → SshConnect κ α)
    (book : KnownHosts) (s : SshState ι κ α) : Prop where
  kept : ∀ i, (connects i).Keeps target debug (Carries (s.book.keysFor crates (connects i).label)) (s.offers i) (s.phase i)
  trusted : ∀ host key, Carries (s.book.keysFor crates host) key → Trusted crates connects book host key

theorem carries_record (host other : String) (recorded key : PublicKey) :
    Carries ((book.record host recorded).keysFor crates other) key ↔
      Carries (book.keysFor crates other) key ∨ host = other ∧ recorded.keyData = key.keyData := by
  rw [keysFor_record]
  split
  next same => simp [same]
  next other => simp [other]

theorem SshState.Vetted.step (h : s.Vetted crates target debug connects book) {i : ι}
    (hstep : sshStep crates target debug connects s i = some t) : t.Vetted crates target debug connects book := by
  obtain ⟨⟨phase, book', offers⟩, hnext, rfl⟩ := Option.map_eq_some_iff.mp hstep
  obtain ⟨kept, grown⟩ := SshConnect.step_keeps hnext (h.kept i)
  have mono : ∀ host key, Carries (s.book.keysFor crates host) key → Carries (book'.keysFor crates host) key := by
    intro host key carries
    rcases grown with rfl | ⟨recorded, -, -, rfl⟩
    · exact carries
    · exact (carries_record _ _ _ _).mpr (.inl carries)
  refine ⟨fun j => ?_, fun host key carries => ?_⟩
  · by_cases same : j = i
    · subst same
      simpa using kept
    · simpa [same] using (h.kept j).mono (mono _)
  · rcases grown with rfl | ⟨recorded, presented, accepts, rfl⟩
    · exact h.trusted host key carries
    · rcases (carries_record _ _ _ _).mp carries with before | ⟨same, new⟩
      · exact h.trusted host key before
      · exact .inr ⟨i, recorded, accepts, same, presented, new⟩

theorem ssh_vetted (run : Run (sshStep crates target debug connects) (.initial ι κ α book) trace s) :
    s.Vetted crates target debug connects book := by
  have start : (SshState.initial ι κ α book).Vetted crates target debug connects book :=
    ⟨fun i => (rfl : (SshState.initial ι κ α book).offers i = []), fun _ _ carries => .inl carries⟩
  exact run.always (SshState.Vetted crates target debug connects book) start fun _ _ _ h hstep => h.step hstep

/-- A credential is offered, and a session opened, only where the server presented a bare key
that the book holds for it, which was there before or which a connection was to accept. -/
theorem ssh_vouched (run : Run (sshStep crates target debug connects) (.initial ι κ α book) trace s) (i : ι)
    (used : s.offers i ≠ [] ∨ s.phase i = .finished (.ok ())) :
    ∃ key, (connects i).handshake = .ok (.publicKey key) ∧ Carries (s.book.keysFor crates (connects i).label) key ∧
      Trusted crates connects book (connects i).label key := by
  have vetted := ssh_vetted run
  have met : (connects i).Met (Carries (s.book.keysFor crates (connects i).label)) := by
    have kept := vetted.kept i
    cases hphase : s.phase i with
    | connecting =>
      rw [hphase] at kept used
      simp [show s.offers i = [] from kept] at used
    | verifying key phase =>
      rw [hphase] at kept used
      simp [kept.2.1] at used
    | authenticating pending =>
      rw [hphase] at kept
      exact kept.1
    | finished answer =>
      rw [hphase] at kept used
      rcases kept with ⟨none, failed⟩ | met
      · simp [none, failed] at used
      · exact met.1
  obtain ⟨key, presented, carries⟩ := met
  exact ⟨key, presented, carries, vetted.trusted _ key carries⟩

/-- The offers of a connection: what its own method names, in order, as its own user, until one is accepted. -/
structure SshConnect.Disciplined (target : Target) (debug : DebugText) (connect : SshConnect κ α) (offers : List (Offer κ α))
    (phase : ConnectPhase κ) : Prop where
  named : offers ≠ [] → ∃ named, connect.credentials target debug = .ok named ∧
    offers.map Offer.credential <+: named.filter Credential.offerable
  user : ∀ offer ∈ offers, offer.user = connect.user
  refused : ∀ k, k + 1 < offers.length → connect.publickey k = .ok false
  accepted : phase = .finished (.ok ()) → offers ≠ [] ∧ connect.publickey (offers.length - 1) = .ok true

theorem SshConnect.Sent.begins {connect : SshConnect κ α} {tried : List (Credential κ)} {offers : List (Offer κ α)}
    (h : connect.Sent tried offers) (pending : List (Credential κ)) :
    offers.map Offer.credential <+: (tried ++ pending).filter Credential.offerable := by
  rw [h.credentials, List.filter_append]
  exact List.prefix_append _ _

theorem ssh_offers (run : Run (sshStep crates target debug connects) (.initial ι κ α book) trace s) (i : ι) :
    (connects i).Disciplined target debug (s.offers i) (s.phase i) := by
  have kept := (ssh_vetted run).kept i
  have quiet : s.offers i = [] → s.phase i ≠ .finished (.ok ()) →
      (connects i).Disciplined target debug (s.offers i) (s.phase i) := by
    intro none unfinished
    rw [none]
    exact ⟨fun h => absurd rfl h, nofun, nofun, fun h => absurd h unfinished⟩
  cases hphase : s.phase i with
  | connecting =>
    rw [hphase] at kept quiet
    exact quiet kept nofun
  | verifying key phase =>
    rw [hphase] at kept quiet
    exact quiet kept.2.1 nofun
  | authenticating pending =>
    rw [hphase] at kept
    obtain ⟨-, tried, named, sent, refused⟩ := kept
    exact ⟨fun _ => ⟨_, named, sent.begins pending⟩, sent.user, fun k hk => refused k (by omega), nofun⟩
  | finished answer =>
    rw [hphase] at kept quiet
    rcases kept with ⟨none, failed⟩ | ⟨-, tried, pending, named, sent, refused, accepted⟩
    · exact quiet none fun h => failed (ConnectPhase.finished.inj h)
    · exact ⟨fun _ => ⟨_, named, sent.begins pending⟩, sent.user, fun k hk => refused k (by omega),
        fun h => accepted (ConnectPhase.finished.inj h)⟩

end

/-- Two connections to one new address, which is answered with another key the second time. -/
def impostor (second : Bool) : SshConnect String Unit where
  host := "10.0.0.9"
  port := 22
  user := "anne"
  auth := .agent
  acceptNew := true
  handshake := .ok (.publicKey (if second then secondKey else firstKey))
  established := .ok ()
  connectAgent := .ok ()
  requestIdentities := .ok [.agentCertificate secondKey, .agentKey firstKey, .agentKey secondKey]
  loadSecretKey _ := .error "no such file"
  keyringPassword _ := .error (.lookup "no entry")
  decodeSecretKey _ := .error "no key"
  bestSupportedRsaHash _ := .ok none
  publickey n := .ok (n = 1)

/-- The first connection gets in with the second identity, and the second is refused without an offer. -/
theorem impostor_run : ∃ trace s, Run (sshStep blankCrates .other ⟨fun _ => "", id⟩ impostor)
    (.initial Bool String Unit (.parse blankCrates "")) trace s ∧ s.phase false = .finished (.ok ()) ∧
    (s.offers false).map Offer.credential = [.agentKey firstKey, .agentKey secondKey] ∧
    s.phase true = .finished (.error .hostKeyChanged) ∧ s.offers true = [] := by
  have ends : runList (sshStep blankCrates .other ⟨fun _ => "", id⟩ impostor)
    (.initial Bool String Unit (.parse blankCrates ""))
    [false, false, false, false, false, false, false, true, true, true] = some _ := rfl
  obtain ⟨trace, run, -⟩ := Run.of_runList ends
  exact ⟨trace, _, run, rfl, rfl, rfl, rfl⟩

theorem ssh_vouched_impostor : ∃ s : SshState Bool String Unit, s.phase true = .finished (.error .hostKeyChanged) ∧
    ∃ key, (impostor false).handshake = .ok (.publicKey key) ∧ Carries (s.book.keysFor blankCrates "10.0.0.9") key ∧
      Trusted blankCrates impostor (.parse blankCrates "") "10.0.0.9" key := by
  obtain ⟨trace, s, run, opened, -, refused, -⟩ := impostor_run
  exact ⟨s, refused, ssh_vouched run false (.inr opened)⟩

theorem ssh_offers_impostor : ∃ s : SshState Bool String Unit,
    (s.offers false).map Offer.credential = [.agentKey firstKey, .agentKey secondKey] ∧
    (impostor false).Disciplined .other ⟨fun _ => "", id⟩ (s.offers false) (s.phase false) := by
  obtain ⟨trace, s, run, -, offered, -⟩ := impostor_run
  exact ⟨s, offered, ssh_offers run false⟩

end AnneDeBreuil
