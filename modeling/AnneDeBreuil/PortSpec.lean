import AnneDeBreuil.Values

namespace AnneDeBreuil

/-- An inclusive port range; its private bounds are set by `tryFrom` alone. -/
structure PortRange where
  start : UInt16
  stop : UInt16
  start_ne : start ≠ 0
  stop_ne : stop ≠ 0
  start_le : start ≤ stop
deriving DecidableEq, Repr

def PortRange.contains (range : PortRange) (port : Port) : Bool :=
  range.start ≤ port.get && port.get ≤ range.stop

def PortRange.tryFrom (start stop : UInt16) : Except DomainError PortRange :=
  if h : start ≠ 0 ∧ stop ≠ 0 ∧ start ≤ stop then .ok ⟨start, stop, h.1, h.2.1, h.2.2⟩
  else .error (.malformedPortSpec (toString start ++ "-" ++ toString stop))

/-- A firewall keyword whose port range the platform resolves at runtime. -/
inductive DynamicKeyword
  | rpc
  | rpcEpMap
  | ipHttpsIn
  | mdns
  | teredo
  | playToDiscovery
deriving DecidableEq, Repr

def DynamicKeyword.fromName (name : String) : Option DynamicKeyword :=
  match toAsciiLowercase name with
  | "rpc" => some .rpc
  | "rpcepmap" => some .rpcEpMap
  | "iphttpsin" => some .ipHttpsIn
  | "mdns" => some .mdns
  | "teredo" => some .teredo
  | "playtodiscovery" => some .playToDiscovery
  | _ => none

def DynamicKeyword.canonicalName : DynamicKeyword → String
  | .rpc => "RPC"
  | .rpcEpMap => "RPCEPMap"
  | .ipHttpsIn => "IPHTTPSIn"
  | .mdns => "mDNS"
  | .teredo => "Teredo"
  | .playToDiscovery => "PlayToDiscovery"

/-- A parsed firewall local-port specification. -/
inductive PortSpec
  | any
  | single (port : Port)
  | range (bounds : PortRange)
  | list (specs : List PortSpec)
  | dynamic (keyword : DynamicKeyword)
deriving Repr

mutual

def PortSpec.decEq : (a b : PortSpec) → Decidable (a = b)
  | .any, .any => isTrue rfl
  | .single p, .single q => decidable_of_iff (p = q) (by simp)
  | .range r, .range s => decidable_of_iff (r = s) (by simp)
  | .list xs, .list ys =>
    match PortSpec.decEqList xs ys with
    | isTrue h => isTrue (h ▸ rfl)
    | isFalse h => isFalse (fun e => h (PortSpec.list.inj e))
  | .dynamic k, .dynamic l => decidable_of_iff (k = l) (by simp)
  | .any, .single _ | .any, .range _ | .any, .list _ | .any, .dynamic _
  | .single _, .any | .single _, .range _ | .single _, .list _ | .single _, .dynamic _
  | .range _, .any | .range _, .single _ | .range _, .list _ | .range _, .dynamic _
  | .list _, .any | .list _, .single _ | .list _, .range _ | .list _, .dynamic _
  | .dynamic _, .any | .dynamic _, .single _ | .dynamic _, .range _ | .dynamic _, .list _ =>
    isFalse nofun

def PortSpec.decEqList : (xs ys : List PortSpec) → Decidable (xs = ys)
  | [], [] => isTrue rfl
  | [], _ :: _ => isFalse nofun
  | _ :: _, [] => isFalse nofun
  | x :: xs, y :: ys =>
    match PortSpec.decEq x y, PortSpec.decEqList xs ys with
    | isTrue h, isTrue t => isTrue (h ▸ t ▸ rfl)
    | isFalse h, _ => isFalse (fun e => h (List.cons.inj e).1)
    | _, isFalse t => isFalse (fun e => t (List.cons.inj e).2)

end

instance : DecidableEq PortSpec := PortSpec.decEq

mutual

/-- Whether the spec covers `port`; a dynamic keyword always reports `true`. -/
def PortSpec.matches : PortSpec → Port → Bool
  | .single p, port => p == port
  | .range r, port => r.contains port
  | .list specs, port => PortSpec.anyMatches specs port
  | .any, _ => true
  | .dynamic _, _ => true

def PortSpec.anyMatches : List PortSpec → Port → Bool
  | [], _ => false
  | spec :: specs, port => spec.matches port || PortSpec.anyMatches specs port

end

mutual

def PortSpec.displayLabel : PortSpec → String
  | .any => "any port"
  | .single port => toString port.get
  | .range r => toString r.start ++ "-" ++ toString r.stop
  | .list specs =>
    if 4 < specs.length then toString specs.length ++ " ports (list)"
    else String.intercalate ", " (PortSpec.displayLabels specs)
  | .dynamic keyword => keyword.canonicalName ++ " (dynamic)"

def PortSpec.displayLabels : List PortSpec → List String
  | [] => []
  | spec :: specs => spec.displayLabel :: PortSpec.displayLabels specs

end

def parseRange (start stop original : List Char) : Except DomainError PortSpec :=
  match parseU16 (trimChars start), parseU16 (trimChars stop) with
  | some a, some b => (PortRange.tryFrom a b).map .range
  | _, _ => .error (.malformedPortSpec (String.ofList original))

/-- `PortSpec::from_str` on a text without a comma. -/
def PortSpec.fromScalar (input : String) : Except DomainError PortSpec :=
  let s := trim input
  if s = "" then .error (.malformedPortSpec input)
  else if s = "*" || eqIgnoreAsciiCase s "any" then .ok .any
  else match splitOnce '-' s.toList with
    | some (start, stop) => parseRange start stop s.toList
    | none =>
      match DynamicKeyword.fromName s with
      | some keyword => .ok (.dynamic keyword)
      | none =>
        match parseU16 s.toList with
        | some value => (Port.tryFrom value).map .single
        | none => .error (.malformedPortSpec s)

/-- `PortSpec::from_str`. The members of a comma list hold no comma, so the
source's recursive call on a member stops after one level. -/
def PortSpec.fromStr (input : String) : Except DomainError PortSpec :=
  if ',' ∈ (trim input).toList then
    (((trim input).toList.splitOn ',').mapM fun part => fromScalar (trim (String.ofList part))).map .list
  else fromScalar input

end AnneDeBreuil
