import AnneDeBreuil.Text
import Mathlib.Data.List.Forall2
import Mathlib.Order.Basic
import Mathlib.Data.Prod.Lex

namespace AnneDeBreuil

/-- Failure parsing untrusted host data into a domain value object. -/
inductive DomainError
  | invalidPort (value : UInt16)
  | malformedPortSpec (text : String)
  | invalidBindAddress (text : String)
  | invalidProtocol (text : String)
  | emptyField (field : String)
  | unknownPolicyStore (text : String)
  | invalidDirection (text : String)
  | invalidRuleAction (text : String)
  | invalidFirewallProfileKind (text : String)
deriving DecidableEq, Repr

@[simp] theorem ok_bind {ε α β : Type} (a : α) (f : α → Except ε β) : (Except.ok a >>= f) = f a := rfl

theorem bind_eq_ok {ε α β : Type} {x : Except ε α} {f : α → Except ε β} {b : β}
    (h : x >>= f = .ok b) : ∃ a, x = .ok a ∧ f a = .ok b := by
  cases x with
  | error e => cases h
  | ok a => exact ⟨a, rfl, h⟩

/-- A fallible map succeeds exactly when it does on each element. -/
theorem mapM_eq_ok_iff {ε α β : Type} {f : α → Except ε β} {xs : List α} {ys : List β} :
    xs.mapM f = .ok ys ↔ List.Forall₂ (fun x y => f x = .ok y) xs ys := by
  induction xs generalizing ys with
  | nil =>
    rw [List.forall₂_nil_left_iff, List.mapM_nil]
    exact ⟨fun h => (Except.ok.inj h).symm, fun h => h ▸ rfl⟩
  | cons x xs ih =>
    rw [List.mapM_cons, List.forall₂_cons_left_iff]
    constructor
    · intro h
      obtain ⟨y, hy, h⟩ := bind_eq_ok h
      obtain ⟨ys', hys, h⟩ := bind_eq_ok h
      exact ⟨y, ys', hy, ih.mp hys, (Except.ok.inj h).symm⟩
    · rintro ⟨y, ys', hy, hys, rfl⟩
      rw [hy, ih.mpr hys]
      rfl

theorem mapM_ok_iff {ε α β : Type} {f : α → Except ε β} {xs : List α} :
    (∃ ys, xs.mapM f = .ok ys) ↔ ∀ x ∈ xs, ∃ y, f x = .ok y := by
  simp only [mapM_eq_ok_iff]
  induction xs with
  | nil => simp
  | cons x xs ih =>
    simp only [List.forall₂_cons_left_iff, List.forall_mem_cons, ← ih]
    constructor
    · rintro ⟨_, y, ys, hy, hys, rfl⟩
      exact ⟨⟨y, hy⟩, ys, hys⟩
    · rintro ⟨⟨y, hy⟩, ys, hys⟩
      exact ⟨_, y, ys, hy, hys, rfl⟩

/-- The shared body of the keyword enumerations' `from_str`: trim, then take
the first name that agrees up to ASCII case. -/
def parseKeyword {α : Type} (names : List (String × α)) (err : String → DomainError) (s : String) :
    Except DomainError α :=
  match names.find? (fun entry => eqIgnoreAsciiCase (trim s) entry.1) with
  | some entry => .ok entry.2
  | none => .error (err s)

/-- The shared body of the trimmed text newtypes' `try_from`. -/
def tryFromText {α : Type} (field : String) (mk : String → α) (value : String) : Except DomainError α :=
  if trim value = "" then .error (.emptyField field) else .ok (mk (trim value))

/-- A UUID, its sixteen bytes read big-endian. -/
abbrev Uuid := BitVec 128

structure ScanId where
  uuid : Uuid
deriving DecidableEq, Repr

structure HostId where
  uuid : Uuid
deriving DecidableEq, Repr

structure IdempotencyKey where
  uuid : Uuid
deriving DecidableEq, Repr

structure RuleId where
  uuid : Uuid
deriving DecidableEq, Repr

/-- A port number. `Deserialize` is derived, so zero is ruled out by
`tryFrom` only and not by the type. -/
structure Port where
  get : UInt16
deriving DecidableEq, Repr

def Port.tryFrom (value : UInt16) : Except DomainError Port :=
  if value = 0 then .error (.invalidPort value) else .ok ⟨value⟩

structure ProcessId where
  get : UInt32
deriving DecidableEq, Repr

inductive Protocol
  | tcp
  | udp
deriving DecidableEq, Repr

def Protocol.fromStr : String → Except DomainError Protocol :=
  parseKeyword [("tcp", .tcp), ("udp", .udp)] .invalidProtocol

structure ProcessPath where
  asStr : String
deriving DecidableEq, Repr

def ProcessPath.tryFrom : String → Except DomainError ProcessPath := tryFromText "ProcessPath" .mk

structure ServiceName where
  asStr : String
deriving DecidableEq, Repr

def ServiceName.tryFrom : String → Except DomainError ServiceName := tryFromText "ServiceName" .mk

structure PublisherName where
  asStr : String
deriving DecidableEq, Repr

inductive SignatureStatus
  | signed (publisher : PublisherName)
  | unsigned
  | unknown
  | notApplicable
deriving DecidableEq, Repr

/-- Where a firewall rule's definition originates. -/
inductive PolicyStore
  | local
  | groupPolicy
  | dynamic
  | static
deriving DecidableEq, Repr

def PolicyStore.fromStr : String → Except DomainError PolicyStore :=
  parseKeyword [("local", .local), ("nftables", .local), ("grouppolicy", .groupPolicy),
    ("gpo", .groupPolicy), ("dynamic", .dynamic), ("static", .static), ("persistentstore", .static)]
    .unknownPolicyStore

/-- Which collection tier produced a snapshot. -/
inductive TargetStrategy
  | execute
  | probe
  | localOnly
deriving DecidableEq, Repr

end AnneDeBreuil
