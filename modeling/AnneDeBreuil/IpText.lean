import AnneDeBreuil.Address

namespace AnneDeBreuil

/-- `char::to_digit` for the radixes of addresses. -/
def toDigit (radix : Nat) (c : Char) : Option Nat :=
  let digit :=
    if '0' ≤ c ∧ c ≤ '9' then c.toNat - '0'.toNat
    else if 'a' ≤ c ∧ c ≤ 'f' then c.toNat - 'a'.toNat + 10
    else if 'A' ≤ c ∧ c ≤ 'F' then c.toNat - 'A'.toNat + 10
    else radix
  if digit < radix then some digit else none

/-- The digits at the front, as a number and how many there are; nothing when
the number or their count is too large. -/
def readDigits (radix maxDigits max : Nat) (result count : Nat) : List Char → Option (Nat × Nat × List Char)
  | [] => some (result, count, [])
  | c :: cs =>
    match toDigit radix c with
    | none => some (result, count, c :: cs)
    | some digit =>
      if max < result * radix + digit ∨ maxDigits < count + 1 then none
      else readDigits radix maxDigits max (result * radix + digit) (count + 1) cs

/-- A number of the address parser of `core::net`. -/
def readNumber (radix maxDigits max : Nat) (allowZeroPrefix : Bool) (cs : List Char) : Option (Nat × List Char) := do
  let (result, count, rest) ← readDigits radix maxDigits max 0 0 cs
  if count = 0 then none
  else if !allowZeroPrefix && cs.head? = some '0' && 1 < count then none
  else some (result, rest)

/-- What stands behind a separator, which is left out before the first item. -/
def readSeparator {α : Type} (sep : Char) (index : Nat) (inner : List Char → Option (α × List Char))
    (cs : List Char) : Option (α × List Char) :=
  if index = 0 then inner cs
  else
    match cs with
    | c :: rest => if c = sep then inner rest else none
    | [] => none

def readIpv4Addr (cs : List Char) : Option (BitVec 32 × List Char) := do
  let octet := readNumber 10 3 255 false
  let (a, cs) ← readSeparator '.' 0 octet cs
  let (b, cs) ← readSeparator '.' 1 octet cs
  let (c, cs) ← readSeparator '.' 2 octet cs
  let (d, cs) ← readSeparator '.' 3 octet cs
  return (BitVec.ofNat 32 (((a * 256 + b) * 256 + c) * 256 + d), cs)

/-- Up to so many groups from an index on, and whether they end in an IPv4 address. -/
def readGroups (index : Nat) (cs : List Char) : Nat → List Nat × Bool × List Char
  | 0 => ([], false, cs)
  | remaining + 1 =>
    -- an IPv4 address stands for two groups
    match if 0 < remaining then readSeparator ':' index readIpv4Addr cs else none with
    | some (ipv4, rest) => ([ipv4.toNat / 65536, ipv4.toNat % 65536], true, rest)
    | none =>
      match readSeparator ':' index (readNumber 16 4 65535 true) cs with
      | some (group, rest) =>
        let (groups, endsInIpv4, rest) := readGroups (index + 1) rest remaining
        (group :: groups, endsInIpv4, rest)
      | none => ([], false, cs)

def ofGroups (groups : List Nat) : BitVec 128 :=
  BitVec.ofNat 128 (groups.foldl (fun bits group => bits * 65536 + group) 0)

def readIpv6Addr (cs : List Char) : Option (BitVec 128 × List Char) :=
  let (head, headIpv4, rest) := readGroups 0 cs 8
  if head.length = 8 then some (ofGroups head, rest)
  else if headIpv4 then none
  else
    match rest with
    | ':' :: ':' :: rest =>
      -- the colons stand for one group of zeros or more
      let (tail, _, rest) := readGroups 0 rest (8 - (head.length + 1))
      some (ofGroups (head ++ List.replicate (8 - head.length - tail.length) 0 ++ tail), rest)
    | _ => none

/-- `IpAddr::from_str`, which wants the whole text. -/
def IpAddr.fromStr (s : String) : Option IpAddr :=
  let read : Option (IpAddr × List Char) := match readIpv4Addr s.toList with
    | some (bits, rest) => some (.v4 bits, rest)
    | none => (readIpv6Addr s.toList).map (fun (bits, rest) => (.v6 bits, rest))
  match read with
  | some (ip, []) => some ip
  | _ => none

example : IpAddr.fromStr "::ffff:10.0.0.1" = some (.v6 0xffff0a000001) := by decide +kernel
example : IpAddr.fromStr "127.0.0.01" = none := by decide +kernel

end AnneDeBreuil
