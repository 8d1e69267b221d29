import AnneDeBreuil.NftWire

namespace AnneDeBreuil

def recvBufferSize : Nat := 8192

/-- `std::io::ErrorKind`, as far as the collector tells kinds apart. -/
inductive IoErrorKind
  | permissionDenied
  | other
deriving DecidableEq, Repr

def classifyIoError : IoErrorKind → RulesetQueryError
  | .permissionDenied => .permissionDenied
  | .other => .unreachable

/-- The netlink socket of one query: how each step of opening it and sending the
request goes, and then the datagrams that come in, or why one cannot be read. -/
structure NetlinkSocket where
  new : Except IoErrorKind Unit
  bindAuto : Except IoErrorKind Unit
  connect : Except IoErrorKind Unit
  send : Except IoErrorKind Unit
  incoming : List (Except IoErrorKind ByteSlice)

/-- What `recv` puts into the buffer: a datagram that is too long is cut. -/
def recv (datagram : ByteSlice) : ByteSlice :=
  ⟨datagram.bytes.take recvBufferSize, Nat.lt_of_le_of_lt (List.length_take_le' _ _) datagram.fits⟩

/-- The loop over what `recv` returns, after the chains of earlier rounds;
nothing while it still waits for a datagram. -/
def recvLoop : List (Except IoErrorKind ByteSlice) → List NftChain →
    Except Fault (Option (Except RulesetQueryError (List NftChain)))
  | [], _ => .ok none
  | .error err :: _, _ => .ok (some (.error (classifyIoError err)))
  | .ok received :: later, chains => do
    let outcome ← parseNlBuffer received
    match outcome.error with
    | some err => return some (.error err)
    | none =>
      if outcome.done then return some (.ok (chains ++ outcome.chains))
      else recvLoop later (chains ++ outcome.chains)

def queryChains (socket : NetlinkSocket) : Except Fault (Option (Except RulesetQueryError (List NftChain))) :=
  match socket.new, socket.bindAuto, socket.connect, socket.send with
  | .error err, _, _, _ | .ok (), .error err, _, _ | .ok (), .ok (), .error err, _
  | .ok (), .ok (), .ok (), .error err => .ok (some (.error (classifyIoError err)))
  | .ok (), .ok (), .ok (), .ok () => recvLoop (socket.incoming.map (·.map recv)) []

theorem recv_of_le {datagram : ByteSlice} (h : datagram.length ≤ recvBufferSize) : recv datagram = datagram := by
  cases datagram with
  | mk bytes fits =>
    have whole : bytes.take recvBufferSize = bytes := List.take_of_length_le h
    simp only [recv, whole]

end AnneDeBreuil
