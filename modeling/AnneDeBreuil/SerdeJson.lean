import Mathlib.Data.List.Forall2

namespace AnneDeBreuil

variable {α : Type}

/-- A JSON value as its reader hands it on; an object keeps all its members,
and a number that is no integer is kept as no more than that. -/
inductive Json
  | null
  | bool (value : Bool)
  | int (value : Int)
  | float
  | str (text : String)
  | arr (items : List Json)
  | obj (members : List (String × Json))

/-- A field of a derived record; one of an optional type may be left out. -/
structure Field where
  name : String
  optional : Bool

namespace Json

def asBool : Json → Option Bool
  | .bool value => some value
  | _ => none

def asStr : Json → Option String
  | .str text => some text
  | _ => none

def asU16 : Json → Option UInt16
  | .int value => if 0 ≤ value ∧ value < 65536 then some (UInt16.ofNat value.toNat) else none
  | _ => none

def asU32 : Json → Option UInt32
  | .int value => if 0 ≤ value ∧ value < 4294967296 then some (UInt32.ofNat value.toNat) else none
  | _ => none

def items : Json → List Json
  | .arr items => items
  | _ => []

def optional (read : Json → Option α) : Json → Option (Option α)
  | .null => some none
  | v => (read v).map some

def listOf (read : Json → Option α) : Json → Option (List α)
  | .arr items => items.mapM read
  | _ => none

/-- The name of a variant that carries no data. -/
def unitVariant : Json → Option String
  | .str name => some name
  | .obj [(name, .null)] => some name
  | _ => none

/-- A derived enumeration, by the names of its variants. -/
def enumOf (variants : List (String × α)) (v : Json) : Option α := v.unitVariant.bind (variants.lookup ·)

/-- A derived record that denies unknown fields: an object with each field once,
or an array of the fields' values in their order. -/
def record (schema : List Field) : Json → Option (String → Json)
  | .obj members =>
    let names := members.map Prod.fst
    if names.Nodup ∧ (∀ name ∈ names, name ∈ schema.map Field.name) ∧
        ∀ field ∈ schema, field.optional = true ∨ field.name ∈ names then
      some (fun name => (members.lookup name).getD .null)
    else none
  | .arr items =>
    if items.length = schema.length then
      some (fun name => (((schema.map Field.name).zip items).lookup name).getD .null)
    else none
  | _ => none

def field (schema : List Field) (v : Json) (name : String) : Json :=
  match v.record schema with
  | some fields => fields name
  | none => .null

theorem record_eq_field {schema : List Field} {v : Json} {fields : String → Json} (h : v.record schema = some fields) :
    v.field schema = fields := by
  funext name
  rw [field, h]

theorem asStr_eq_some {v : Json} {text : String} : v.asStr = some text ↔ v = .str text := by
  cases v <;> simp [asStr]

theorem asU16_eq_zero {v : Json} {value : UInt16} (h : v.asU16 = some value) : v = .int 0 ↔ value = 0 := by
  unfold asU16 at h
  split at h
  next n =>
    split at h
    next hn =>
      cases h
      rw [Json.int.injEq, ← UInt16.toNat_inj, UInt16.toNat_ofNat', UInt16.toNat_zero]
      omega
    next => cases h
  next => cases h

theorem asU32_eq_zero {v : Json} {value : UInt32} (h : v.asU32 = some value) : v = .int 0 ↔ value = 0 := by
  unfold asU32 at h
  split at h
  next n =>
    split at h
    next hn =>
      cases h
      rw [Json.int.injEq, ← UInt32.toNat_inj, UInt32.toNat_ofNat', UInt32.toNat_zero]
      omega
    next => cases h
  next => cases h

theorem mapM_eq_some_iff {read : Json → Option α} {items : List Json} {xs : List α} :
    items.mapM read = some xs ↔ List.Forall₂ (fun item x => read item = some x) items xs := by
  induction items generalizing xs with
  | nil => simp [eq_comm]
  | cons item items ih =>
    rw [List.mapM_cons, List.forall₂_cons_left_iff]
    simp only [Option.bind_eq_bind, Option.bind_eq_some_iff, Option.pure_def, Option.some.injEq, ih]
    constructor
    · rintro ⟨x, hx, rest, hrest, rfl⟩
      exact ⟨x, rest, hx, hrest, rfl⟩
    · rintro ⟨x, rest, hx, hrest, rfl⟩
      exact ⟨x, hx, rest, hrest, rfl⟩

theorem listOf_items {read : Json → Option α} {v : Json} {xs : List α} (h : v.listOf read = some xs) :
    List.Forall₂ (fun item x => read item = some x) v.items xs := by
  unfold listOf at h
  split at h
  next items => exact mapM_eq_some_iff.mp h
  next => cases h

theorem forall_iff_of_forall₂ {γ : Type} {r : γ → α → Prop} {p : γ → Prop} {q : α → Prop} {items : List γ} {xs : List α}
    (h : List.Forall₂ r items xs) (each : ∀ item x, r item x → (p item ↔ q x)) :
    (∀ item ∈ items, p item) ↔ ∀ x ∈ xs, q x := by
  induction h with
  | nil => simp
  | cons hr _ ih => rw [List.forall_mem_cons, List.forall_mem_cons, each _ _ hr, ih]

theorem pairwise_iff_of_forall₂ {γ κ : Type} {r : γ → α → Prop} {f : γ → κ} {g : α → κ} {q : κ → κ → Prop}
    {items : List γ} {xs : List α} (h : List.Forall₂ r items xs) (each : ∀ item x, r item x → f item = g x) :
    items.Pairwise (fun a b => q (f a) (f b)) ↔ xs.Pairwise (fun a b => q (g a) (g b)) := by
  have same : items.map f = xs.map g := by
    rw [← List.forall₂_eq_eq_eq, List.forall₂_map_left_iff, List.forall₂_map_right_iff]
    exact h.imp each
  rw [← List.pairwise_map, same, List.pairwise_map]

theorem optional_forall_iff {read : Json → Option α} {v : Json} {value : Option α} {p : Json → Prop} {q : α → Prop}
    (h : v.optional read = some value) (null : p .null) (each : ∀ x, read v = some x → (p v ↔ q x)) :
    p v ↔ ∀ x ∈ value, q x := by
  unfold optional at h
  split at h
  next =>
    cases h
    simp [null]
  next =>
    obtain ⟨x, hx, rfl⟩ := Option.map_eq_some_iff.mp h
    rw [each x hx]
    simp

theorem enumOf_eq_some {variants : List (String × α)} {v : Json} {x : α} (h : v.enumOf variants = some x) :
    ∃ name, v.unitVariant = some name ∧ variants.lookup name = some x :=
  Option.bind_eq_some_iff.mp h

end Json

end AnneDeBreuil
