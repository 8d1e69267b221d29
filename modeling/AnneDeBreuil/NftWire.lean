import AnneDeBreuil.ByteOrder
import AnneDeBreuil.FirewallMapping

namespace AnneDeBreuil

def nfnlSubsysNftables : UInt16 := 10
def nftMsgNewchain : UInt16 := 3
def newchainMsgType : UInt16 := (nfnlSubsysNftables <<< 8) ||| nftMsgNewchain

def nlmsgError : UInt16 := 0x0002
def nlmsgDone : UInt16 := 0x0003

def nftaChainTable : UInt16 := 1
def nftaChainName : UInt16 := 3
def nftaChainHook : UInt16 := 4
def nftaChainPolicy : UInt16 := 5
def nftaHookHooknum : UInt16 := 1
def nlaTypeMask : UInt16 := 0x3FFF

def nfInetLocalIn : UInt32 := 1
def nfDrop : UInt32 := 0

/-- The attributes of one chain of a dump. -/
structure NftChain where
  table : Option String
  name : Option String
  hooknum : Option UInt32
  policy : Option UInt32
deriving DecidableEq, Repr

def NftChain.default : NftChain := ⟨none, none, none, none⟩

inductive RulesetQueryError
  | permissionDenied
  | unreachable
deriving DecidableEq, Repr

structure BufferOutcome where
  chains : List NftChain
  done : Bool
  error : Option RulesetQueryError
deriving DecidableEq, Repr

def BufferOutcome.default : BufferOutcome := ⟨[], false, none⟩

/-- How a run of the parser could go wrong: a sum that does not fit a `usize`,
or a loop that is still going after as many rounds as it is given. -/
inductive Fault
  | overflow
  | outOfRounds
deriving DecidableEq, Repr

/-- `&[u8]`; no slice is longer than `isize::MAX` bytes. -/
structure ByteSlice where
  bytes : List UInt8
  fits : bytes.length < 2 ^ 63

def ByteSlice.length (buf : ByteSlice) : Nat := buf.bytes.length

/-- `<[u8]>::get` of a range: nothing where it is not in bounds. -/
def ByteSlice.get (buf : ByteSlice) (start stop : Nat) : Option ByteSlice :=
  if start ≤ stop ∧ stop ≤ buf.length then
    some ⟨(buf.bytes.drop start).take (stop - start), by have := buf.fits; simp; omega⟩
  else none

/-- The sum of two `usize` of 64 bits. -/
def usizeAdd (a b : Nat) : Except Fault Nat := if a + b < 2 ^ 64 then .ok (a + b) else .error .overflow

/-- `usize::next_multiple_of`. -/
def nextMultipleOf (n k : Nat) : Except Fault Nat :=
  if n % k = 0 then .ok n else usizeAdd n (k - n % k)

/-- The shared body of `read_u16_le`, `read_u32_le` and `read_i32_le`. -/
def readLe (width : Nat) (buf : ByteSlice) (offset : Nat) : Except Fault (Option Nat) := do
  let stop ← usizeAdd offset width
  return (buf.get offset stop).map (fun slice => ofLeBytes slice.bytes)

def readU16Le (buf : ByteSlice) (offset : Nat) : Except Fault (Option UInt16) := do
  return (← readLe 2 buf offset).map UInt16.ofNat

def readU32Le (buf : ByteSlice) (offset : Nat) : Except Fault (Option UInt32) := do
  return (← readLe 4 buf offset).map UInt32.ofNat

def readI32Le (buf : ByteSlice) (offset : Nat) : Except Fault (Option Int) := do
  return (← readLe 4 buf offset).map (fun n => (BitVec.ofNat 32 n).toInt)

/-- A value without its closing NUL; nothing for an empty one. -/
def decodeNlaString (value : List UInt8) : Option String :=
  let trimmed := if value.getLast? = some 0 then value.take (value.length - 1) else value
  if trimmed.isEmpty then none else fromUtf8 trimmed

def decodeNlaU32Be (value : List UInt8) : Option UInt32 :=
  if 4 ≤ value.length then some (UInt32.ofNat (ofBeBytes (value.take 4))) else none

/-- What a round of `iter_nlattrs`'s loop reads at its offset, the type, the
length and the value of an attribute, or nothing where the loop ends. -/
def readNlattr (buf : ByteSlice) (offset : Nat) : Except Fault (Option (UInt16 × Nat × ByteSlice)) := do
  if (← usizeAdd offset 4) ≤ buf.length then
    match ← readU16Le buf offset with
    | none => return none
    | some nlaLen =>
      match ← readU16Le buf (← usizeAdd offset 2) with
      | none => return none
      | some nlaType =>
        if nlaLen < 4 then return none
        else
          match buf.get (← usizeAdd offset 4) (← usizeAdd offset nlaLen.toNat) with
          | none => return none
          | some value => return some (nlaType, nlaLen.toNat, value)
  else return none

/-- The rounds of the loop from an offset on, after some attributes. -/
def iterNlattrsLoop (buf : ByteSlice) : Nat → Nat → List (UInt16 × ByteSlice) →
    Except Fault (List (UInt16 × ByteSlice))
  | 0, _, _ => .error .outOfRounds
  | rounds + 1, offset, out => do
    match ← readNlattr buf offset with
    | none => return out
    | some (nlaType, nlaLen, value) =>
      let next ← usizeAdd offset (← nextMultipleOf nlaLen 4)
      iterNlattrsLoop buf rounds next (out ++ [(nlaType, value)])

/-- Each round but the last moves four bytes on, so these are more than enough. -/
def iterNlattrs (buf : ByteSlice) : Except Fault (List (UInt16 × ByteSlice)) :=
  iterNlattrsLoop buf (buf.length + 4) 0 []

/-- The loop over the attributes nested in a hook attribute. -/
def readHook (hooknum : Option UInt32) (attrs : List (UInt16 × List UInt8)) : Option UInt32 :=
  attrs.foldl (fun hooknum attr =>
    if attr.1 &&& nlaTypeMask = nftaHookHooknum then decodeNlaU32Be attr.2 else hooknum) hooknum

/-- One round of the loop over a chain's attributes. -/
def applyNlattr (chain : NftChain) (attr : UInt16 × ByteSlice) : Except Fault NftChain :=
  if attr.1 &&& nlaTypeMask = nftaChainTable then .ok { chain with table := decodeNlaString attr.2.bytes }
  else if attr.1 &&& nlaTypeMask = nftaChainName then .ok { chain with name := decodeNlaString attr.2.bytes }
  else if attr.1 &&& nlaTypeMask = nftaChainHook then do
    let hooks ← iterNlattrs attr.2
    return { chain with hooknum := readHook chain.hooknum (hooks.map (fun hook => (hook.1, hook.2.bytes))) }
  else if attr.1 &&& nlaTypeMask = nftaChainPolicy then .ok { chain with policy := decodeNlaU32Be attr.2.bytes }
  else .ok chain

def parseChainPayload (payload : ByteSlice) : Except Fault (Option NftChain) :=
  match payload.get 4 payload.length with
  | none => .ok none
  | some attrs => do
    let chain ← (← iterNlattrs attrs).foldlM applyNlattr NftChain.default
    return some chain

def classifyErrno (errno : Int) : RulesetQueryError :=
  if errno = -1 ∨ errno = -13 then .permissionDenied else .unreachable

/-- The type, the length and the payload of the message at an offset. -/
def readNlMessage (buf : ByteSlice) (offset : Nat) : Except Fault (Option (UInt16 × Nat × ByteSlice)) := do
  match ← readU32Le buf offset with
  | none => return none
  | some len =>
    match ← readU16Le buf (← usizeAdd offset 4) with
    | none => return none
    | some msgType =>
      if len < 16 then return none
      else
        match buf.get (← usizeAdd offset 16) (← usizeAdd offset len.toNat) with
        | none => return none
        | some payload => return some (msgType, len.toNat, payload)

/-- What a message that does not end the dump yields. -/
def parseMessage (msgType : UInt16) (payload : ByteSlice) : Except Fault (Option NftChain) :=
  if msgType = newchainMsgType then parseChainPayload payload else .ok none

/-- The rounds of `parse_nl_buffer`'s loop from an offset on, with what came
before it. -/
def parseNlBufferLoop (buf : ByteSlice) : Nat → Nat → BufferOutcome → Except Fault BufferOutcome
  | 0, _, _ => .error .outOfRounds
  | rounds + 1, offset, outcome => do
    match ← readNlMessage buf offset with
    | none => return outcome
    | some (msgType, msgLen, payload) =>
      if msgType = nlmsgDone then return { outcome with done := true }
      else if msgType = nlmsgError then
        let errno := (← readI32Le payload 0).getD 0
        return { outcome with error := some (classifyErrno errno), done := true }
      else
        let chain ← parseMessage msgType payload
        let next ← usizeAdd offset (← nextMultipleOf msgLen 4)
        parseNlBufferLoop buf rounds next { outcome with chains := outcome.chains ++ chain.toList }

def parseNlBuffer (buf : ByteSlice) : Except Fault BufferOutcome :=
  parseNlBufferLoop buf (buf.length + 4) 0 BufferOutcome.default

/-- A base chain on the inbound hook as a rule; nothing for any other chain. -/
def nftChainToRawRule (chain : NftChain) : Option RawRule :=
  if chain.hooknum ≠ some nfInetLocalIn then none
  else
    let table := chain.table.getD "?"
    let name := chain.name.getD "?"
    some {
      ruleId := "nftables/" ++ table ++ "/" ++ name
      displayName := table ++ "/" ++ name ++ " (nftables input chain policy)"
      direction := "Inbound"
      action := if chain.policy = some nfDrop then "Block" else "Allow"
      protocol := none
      localPortSpec := none
      programFilter := none
      serviceFilter := none
      enabled := true
      policyStore := "nftables" }

/-- Whether there was a policy to read; an empty list of rules is one. -/
inductive FirewallSource
  | nftables (rules : List RawRule)
  | noPolicySource
deriving DecidableEq, Repr

def classifyRuleset (query : Except RulesetQueryError (List NftChain)) (legacyIptablesActive : Bool) :
    FirewallSource :=
  match query with
  | .error _ => .noPolicySource
  | .ok chains =>
    let rules := chains.filterMap nftChainToRawRule
    if rules.isEmpty && legacyIptablesActive then .noPolicySource else .nftables rules

end AnneDeBreuil
