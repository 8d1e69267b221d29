import AnneDeBreuil.RemoteTransport

namespace AnneDeBreuil

/-- A public key: the encoded key material, and the comment a file may carry. -/
structure PublicKey where
  keyData : List UInt8
  comment : String
deriving DecidableEq, Repr

inductive Marker
  | certAuthority
  | revoked
deriving DecidableEq, Repr

inductive HostPatterns
  | patterns (list : List String)
  | hashedName (salt hash : List UInt8)
deriving DecidableEq, Repr

/-- A line of a `known_hosts` file. -/
structure Entry where
  marker : Option Marker
  hostPatterns : HostPatterns
  publicKey : PublicKey
deriving DecidableEq, Repr

/-- The crates host keys are read and compared with: the `known_hosts` reader,
line by line, HMAC-SHA1 under a key, and SHA-256 fingerprints. -/
structure SshCrates where
  knownHosts : String → List (Except String Entry)
  hmacSha1 : List UInt8 → Utf8 → Option (List UInt8)
  fingerprint : PublicKey → String

inductive HostKeyStatus
  | known
  | unknown
  | changed
deriving DecidableEq, Repr

/-- A book of host keys; `accepted` is what the lock guards. -/
structure KnownHosts where
  fileEntries : List Entry
  accepted : List (String × PublicKey)
deriving DecidableEq, Repr

/-- The `*` of a glob: what follows it may match at any later place. -/
def globStar (rest : Utf8 → Bool) : Utf8 → Bool
  | [] => rest []
  | c :: text => rest (c :: text) || globStar rest text

/-- `*` is 42 and `?` is 63. -/
def globMatchBytes : Utf8 → Utf8 → Bool
  | [], text => text.isEmpty
  | p :: pattern, text =>
    if p = 42 then globStar (globMatchBytes pattern) text
    else match text with
      | [] => false
      | c :: text => (p = 63 || p = c) && globMatchBytes pattern text

/-- The recursion of the source on a `*`. -/
theorem globMatchBytes_star (pattern text : Utf8) :
    globMatchBytes (42 :: pattern) text =
      (globMatchBytes pattern text || (!text.isEmpty && globMatchBytes (42 :: pattern) text.tail)) := by
  cases text with
  | nil => simp [globMatchBytes, globStar]
  | cons c text => simp [globMatchBytes, globStar]

def globMatch (pattern text : String) : Bool := globMatchBytes (utf8 pattern) (utf8 text)

example : globMatch "10.0.?.*" "10.0.7.22" = true := by decide

/-- The loop over one line's patterns; a negated match ends it. -/
def patternListMatches (host : String) : List String → Bool → Bool
  | [], matched => matched
  | raw :: rest, matched =>
    let (negate, pattern) := match raw.toList with
      | '!' :: chars => (true, String.ofList chars)
      | _ => (false, raw)
    if globMatch pattern host then
      if negate then false else patternListMatches host rest true
    else patternListMatches host rest matched

section

variable (crates : SshCrates)

def hashedMatch (salt hash : List UInt8) (host : String) : Bool :=
  match crates.hmacSha1 salt (utf8 host) with
  | none => false
  | some digest => digest = hash

def hostPatternMatches (patterns : HostPatterns) (host : String) : Bool :=
  match patterns with
  | .patterns list => patternListMatches host list false
  | .hashedName salt hash => hashedMatch crates salt hash host

def KnownHosts.parse (contents : String) : KnownHosts where
  fileEntries := (crates.knownHosts contents).filterMap Except.toOption
  accepted := []

/-- One loop of `lookup`: an early return of `Known`, or whether the host has
any entry so far. -/
def scanEntries {α : Type} (isFor : α → Bool) (keyOf : α → PublicKey) (key : PublicKey) :
    List α → Bool → Except HostKeyStatus Bool
  | [], hostHasAnyEntry => .ok hostHasAnyEntry
  | entry :: rest, hostHasAnyEntry =>
    if isFor entry then
      if (keyOf entry).keyData = key.keyData then .error .known else scanEntries isFor keyOf key rest true
    else scanEntries isFor keyOf key rest hostHasAnyEntry

def KnownHosts.lookup (book : KnownHosts) (host : String) (key : PublicKey) : HostKeyStatus :=
  match scanEntries (fun entry => hostPatternMatches crates entry.hostPatterns host) Entry.publicKey key
      book.fileEntries false with
  | .error status => status
  | .ok hostHasAnyEntry =>
    match scanEntries (fun entry => entry.1 = host) Prod.snd key book.accepted hostHasAnyEntry with
    | .error status => status
    | .ok hostHasAnyEntry => if hostHasAnyEntry then .changed else .unknown

def KnownHosts.record (book : KnownHosts) (host : String) (key : PublicKey) : KnownHosts :=
  { book with accepted := book.accepted ++ [(host, key)] }

/-- One call that runs alone: its answer, and the book it leaves. -/
def verifyHostKey (book : KnownHosts) (host : String) (key : PublicKey) (acceptNew : Bool) :
    Except TransportError Unit × KnownHosts :=
  match book.lookup crates host key with
  | .known => (.ok (), book)
  | .unknown =>
    if acceptNew then (.ok (), book.record host key)
    else (.error (.unknownHostKey (crates.fingerprint key)), book)
  | .changed => (.error .hostKeyChanged, book)

/-- The keys of the entries that match a host, from the file and accepted. -/
def KnownHosts.keysFor (book : KnownHosts) (host : String) : List PublicKey :=
  (book.fileEntries.filter (fun entry => hostPatternMatches crates entry.hostPatterns host)).map Entry.publicKey ++
    (book.accepted.filter (fun entry => entry.1 = host)).map Prod.snd

end

/-- Some key of the list has the material of `key`. -/
def Carries (keys : List PublicKey) (key : PublicKey) : Prop := ∃ other ∈ keys, other.keyData = key.keyData

instance (keys : List PublicKey) (key : PublicKey) : Decidable (Carries keys key) :=
  inferInstanceAs (Decidable (∃ other ∈ keys, other.keyData = key.keyData))

section

variable {crates : SshCrates} {book : KnownHosts} {host : String} {key : PublicKey}

@[simp] theorem not_carries_nil : ¬Carries [] key := by simp [Carries]

@[simp] theorem carries_cons {other : PublicKey} {keys : List PublicKey} :
    Carries (other :: keys) key ↔ other.keyData = key.keyData ∨ Carries keys key := by
  simp [Carries]

@[simp] theorem carries_append {keys keys' : List PublicKey} :
    Carries (keys ++ keys') key ↔ Carries keys key ∨ Carries keys' key := by
  simp only [Carries, List.mem_append, or_and_right, exists_or]

theorem scanEntries_spec {α : Type} (isFor : α → Bool) (keyOf : α → PublicKey) (key : PublicKey)
    (entries : List α) (hasAny : Bool) :
    scanEntries isFor keyOf key entries hasAny =
      if Carries ((entries.filter isFor).map keyOf) key then .error .known
      else .ok (hasAny || (entries.filter isFor) ≠ []) := by
  induction entries generalizing hasAny with
  | nil => simp [scanEntries]
  | cons entry entries ih =>
    unfold scanEntries
    by_cases hfor : isFor entry = true
    · by_cases hkey : (keyOf entry).keyData = key.keyData
      · simp [hfor, hkey]
      · simp [hfor, hkey, ih]
    · simp [hfor, ih]

/-- `lookup` by the keys that match: one of them is offered, there are others,
or there is none. -/
theorem lookup_spec : book.lookup crates host key =
    if Carries (book.keysFor crates host) key then .known
    else if book.keysFor crates host = [] then .unknown else .changed := by
  unfold KnownHosts.lookup KnownHosts.keysFor
  rw [scanEntries_spec]
  generalize book.fileEntries.filter (fun entry => hostPatternMatches crates entry.hostPatterns host) = lines
  by_cases hfile : Carries (lines.map Entry.publicKey) key
  · simp [hfile]
  · simp only [if_neg hfile, scanEntries_spec]
    generalize book.accepted.filter (fun entry => entry.1 = host) = accepted
    by_cases haccepted : Carries (accepted.map Prod.snd) key
    · simp [haccepted]
    · cases lines with
      | nil => cases accepted <;> simp_all
      | cons line lines => simp_all

theorem verifyHostKey_ok_iff {acceptNew : Bool} : (verifyHostKey crates book host key acceptNew).1 = .ok () ↔
    Carries (book.keysFor crates host) key ∨ acceptNew = true ∧ book.keysFor crates host = [] := by
  unfold verifyHostKey
  rw [lookup_spec]
  by_cases hcarries : Carries (book.keysFor crates host) key
  · simp [hcarries]
  · by_cases hnone : book.keysFor crates host = []
    · cases acceptNew <;> simp [hnone]
    · simp [hcarries, hnone]

end

end AnneDeBreuil
