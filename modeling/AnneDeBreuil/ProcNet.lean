import AnneDeBreuil.ByteOrder
import AnneDeBreuil.Collect
import AnneDeBreuil.RadixText

namespace AnneDeBreuil

/-- `Iterator::nth`: the item so many places on, and what is left behind it. -/
def nth {α : Type} (n : Nat) (fields : List α) : Option (α × List α) :=
  match fields.drop n with
  | [] => none
  | field :: rest => some (field, rest)

/-- The octets of so many words of eight hexadecimal digits. -/
def decodeWords : Nat → Utf8 → Option (List UInt8)
  | 0, _ => some []
  | words + 1, bytes => do
    let chunk ← fromUtf8 (bytes.take 8)
    let word ← fromStrRadix 16 4294967296 chunk.toList
    let rest ← decodeWords words (bytes.drop 8)
    return toLeBytes 4 word ++ rest

def decodeHexAddr (hex : String) : Option String := do
  let bytes := utf8 hex
  let words := bytes.length / 8
  if words = 0 || bytes.length % 8 ≠ 0 then none
  else
    let octets ← decodeWords words bytes
    if octets.length = 4 then some (IpAddr.v4 (BitVec.ofNat 32 (ofBeBytes octets))).display
    else if octets.length = 16 then some (IpAddr.v6 (BitVec.ofNat 128 (ofBeBytes octets))).display
    else none

/-- The state of a TCP socket that listens. -/
def tcpListen : String := "0A"

section

variable (inodeToPid : Nat → Option UInt32)

def parseFields (line : List Char) (protocol : String) (wantState : Option String) : Option RawEndpoint := do
  let (localField, fields) ← nth 1 (splitWhitespace line)
  let (state, fields) ← nth 1 fields
  if wantState.any (fun want => !eqIgnoreAsciiCase (String.ofList state) want) then none
  else
    let (inodeField, _) ← nth 5 fields
    let inode ← fromStrRadix 10 18446744073709551616 inodeField
    let (addr, port) ← splitOnce ':' localField
    let localAddress ← decodeHexAddr (String.ofList addr)
    let localPort ← fromStrRadix 16 65536 port
    return ⟨protocol, localAddress, UInt16.ofNat localPort, inodeToPid inode⟩

def parseProcNetLine (line : List Char) : Option RawEndpoint := parseFields inodeToPid line "tcp" (some tcpListen)

/-- `/proc/net/tcp` and `tcp6`, behind the header. -/
def parseProcNetTcp (contents : String) : List RawEndpoint :=
  ((lines contents.toList).drop 1).filterMap (parseProcNetLine inodeToPid)

/-- `/proc/net/udp` and `udp6`. -/
def parseProcNetUdp (contents : String) : List RawEndpoint :=
  ((lines contents.toList).drop 1).filterMap fun line => parseFields inodeToPid line "udp" none

end

example : parseProcNetTcp (fun _ => none) "  sl  local_address\n   0: 0100007F:1F90 00000000:0000 0A 0:0 0:0 0 0 0 21223 1\n" =
    [⟨"tcp", "127.0.0.1", 8080, none⟩] := by decide +kernel

end AnneDeBreuil
