import Mathlib.Data.List.Basic

namespace AnneDeBreuil

variable {α : Type}

/-- The least multiple of `k` that is no smaller than `n`. -/
def roundUp (n k : Nat) : Nat := if n % k = 0 then n else n + (k - n % k)

theorem le_roundUp (n k : Nat) : n ≤ roundUp n k := by
  unfold roundUp
  split
  next => exact Nat.le_refl n
  next => exact Nat.le_add_right n _

theorem roundUp_lt {k : Nat} (h : 0 < k) (n : Nat) : roundUp n k < n + k := by
  have hlt := Nat.mod_lt n h
  unfold roundUp
  split
  next => omega
  next => omega

structure Record (α : Type) where
  header : List α
  body : List α

def Record.size (r : Record α) : Nat := r.header.length + r.body.length

/-- A stream of records one after another: a header of fixed size that tells how
long its record is, a body, and filling up to a multiple of `align`. -/
structure Framing (α : Type) where
  headerSize : Nat
  align : Nat
  total : List α → Nat
  headerSize_pos : 0 < headerSize

namespace Framing

variable (F : Framing α)

def declared (xs : List α) : Nat := F.total (xs.take F.headerSize)

/-- The record at the front of the stream, when all of it is there. -/
def front (xs : List α) : Option (Record α) :=
  if F.headerSize ≤ xs.length ∧ F.headerSize ≤ F.declared xs ∧ F.declared xs ≤ xs.length then
    some ⟨xs.take F.headerSize, (xs.take (F.declared xs)).drop F.headerSize⟩
  else none

def advance (r : Record α) : Nat := roundUp r.size F.align

/-- The header tells the record's own length. -/
structure WellFormed (r : Record α) : Prop where
  header : r.header.length = F.headerSize
  total : F.total r.header = r.size

variable {F}

theorem front_eq_some_iff {xs : List α} {r : Record α} :
    F.front xs = some r ↔ F.WellFormed r ∧ ∃ tail, xs = r.header ++ r.body ++ tail := by
  constructor
  · intro h
    unfold front at h
    split at h
    next complete =>
      obtain ⟨hheader, hmin, hlen⟩ := complete
      cases Option.some.inj h
      refine ⟨⟨?_, ?_⟩, xs.drop (F.declared xs), ?_⟩
      · simp [hheader]
      · change F.declared xs = _
        simp only [Record.size, List.length_take, List.length_drop]
        omega
      · have whole := List.take_append_drop F.headerSize (xs.take (F.declared xs))
        rw [List.take_take, Nat.min_eq_left hmin] at whole
        rw [whole, List.take_append_drop]
    next => cases h
  · rintro ⟨wf, tail, rfl⟩
    have htake : (r.header ++ r.body ++ tail).take F.headerSize = r.header := by
      rw [← wf.header, List.append_assoc, List.take_left]
    have hsize : r.size = (r.header ++ r.body).length := by simp [Record.size]
    have hbody : ((r.header ++ r.body ++ tail).take r.size).drop F.headerSize = r.body := by
      rw [hsize, List.take_left, ← wf.header, List.drop_left]
    have hheader := wf.header
    unfold front
    simp only [declared, htake, wf.total, hbody]
    rw [if_pos]
    simp only [Record.size, List.length_append]
    omega

theorem front_complete {xs : List α} (header : F.headerSize ≤ xs.length) (least : F.headerSize ≤ F.declared xs)
    (whole : F.declared xs ≤ xs.length) :
    F.front xs = some ⟨xs.take F.headerSize, (xs.take (F.declared xs)).drop F.headerSize⟩ :=
  if_pos ⟨header, least, whole⟩

theorem front_incomplete {xs : List α}
    (h : xs.length < F.headerSize ∨ F.declared xs < F.headerSize ∨ xs.length < F.declared xs) :
    F.front xs = none :=
  if_neg (by omega)

theorem front_size {xs : List α} {r : Record α} (h : F.front xs = some r) : r.size = F.declared xs := by
  obtain ⟨wf, tail, rfl⟩ := front_eq_some_iff.mp h
  rw [← wf.total, declared, ← wf.header, List.append_assoc, List.take_left]

theorem front_nil : F.front [] = none := by
  have h := F.headerSize_pos
  exact front_incomplete (.inl h)

theorem advance_pos {xs : List α} {r : Record α} (h : F.front xs = some r) : 0 < F.advance r := by
  have wf := (front_eq_some_iff.mp h).1
  have le := le_roundUp r.size F.align
  have hheader := wf.header
  have hpos := F.headerSize_pos
  unfold advance Record.size at *
  omega

theorem front_length {xs : List α} {r : Record α} (h : F.front xs = some r) : r.size ≤ xs.length := by
  obtain ⟨-, tail, rfl⟩ := front_eq_some_iff.mp h
  simp [Record.size]

theorem drop_advance_lt {xs : List α} {r : Record α} (h : F.front xs = some r) :
    (xs.drop (F.advance r)).length < xs.length := by
  have pos := advance_pos h
  have hne : xs ≠ [] := by
    rintro rfl
    rw [front_nil] at h
    cases h
  have hlen := List.length_pos_iff.mpr hne
  rw [List.length_drop]
  omega

variable (F)

/-- Every complete record of the stream, up to the first place where none stands. -/
def records (xs : List α) : List (Record α) :=
  match _h : F.front xs with
  | none => []
  | some r => r :: records (xs.drop (F.advance r))
termination_by xs.length
decreasing_by exact drop_advance_lt _h

/-- Reading some records off the front of a stream, one after another. -/
inductive Walk : List α → List (Record α) → List α → Prop
  | nil (xs : List α) : Walk xs [] xs
  | cons {xs rest : List α} {r : Record α} {rs : List (Record α)} (first : F.front xs = some r)
      (later : Walk (xs.drop (F.advance r)) rs rest) : Walk xs (r :: rs) rest

variable {F}

theorem records_none {xs : List α} (h : F.front xs = none) : F.records xs = [] := by
  rw [records]
  split
  next => rfl
  next hr => rw [h] at hr; cases hr

theorem records_some {xs : List α} {r : Record α} (h : F.front xs = some r) :
    F.records xs = r :: F.records (xs.drop (F.advance r)) := by
  rw [records]
  split
  next hn => rw [h] at hn; cases hn
  next hr => rw [h] at hr; cases Option.some.inj hr; rfl

theorem Walk.records_append {xs rest : List α} {rs : List (Record α)} (h : F.Walk xs rs rest) :
    F.records xs = rs ++ F.records rest := by
  induction h with
  | nil xs => rfl
  | cons first _ ih => rw [records_some first, ih, List.cons_append]

theorem Walk.wellFormed {xs rest : List α} {rs : List (Record α)} (h : F.Walk xs rs rest) :
    ∀ r ∈ rs, F.WellFormed r := by
  induction h with
  | nil xs => simp
  | cons first _ ih =>
    rintro r (_ | ⟨_, hr⟩)
    · exact (front_eq_some_iff.mp first).1
    · exact ih r hr

theorem Walk.trans {xs ys zs : List α} {rs ss : List (Record α)} (h : F.Walk xs rs ys) (h' : F.Walk ys ss zs) :
    F.Walk xs (rs ++ ss) zs := by
  induction h with
  | nil xs => exact h'
  | cons first _ ih => exact .cons first (ih h')

/-- A reader that stops at the first record of some kind, or where none stands,
stops at one place only. -/
theorem Walk.unique {stop : Record α → Prop} {xs ys zs : List α} {rs ss : List (Record α)} (h : F.Walk xs rs ys)
    (going : ∀ r ∈ rs, ¬stop r) (ends : ∀ r, F.front ys = some r → stop r) (h' : F.Walk xs ss zs)
    (going' : ∀ r ∈ ss, ¬stop r) (ends' : ∀ r, F.front zs = some r → stop r) : rs = ss ∧ ys = zs := by
  induction h generalizing ss with
  | nil xs =>
    cases h' with
    | nil => exact ⟨rfl, rfl⟩
    | cons first _ => exact absurd (ends _ first) (going' _ List.mem_cons_self)
  | cons first _ ih =>
    cases h' with
    | nil => exact absurd (ends' _ first) (going _ List.mem_cons_self)
    | cons first' later' =>
      cases Option.some.inj (first.symm.trans first')
      obtain ⟨rfl, rfl⟩ := ih (fun r hr => going r (List.mem_cons_of_mem _ hr)) ends later'
        (fun r hr => going' r (List.mem_cons_of_mem _ hr))
      exact ⟨rfl, rfl⟩

/-- What is read before some bytes does not depend on them. -/
theorem Walk.swap_rest {xs rest : List α} {rs : List (Record α)} (h : F.Walk xs rs rest) (hne : rest ≠ []) :
    ∃ read, xs = read ++ rest ∧ ∀ other, F.Walk (read ++ other) rs other := by
  induction h with
  | nil xs => exact ⟨[], rfl, fun other => .nil other⟩
  | @cons xs rest r rs first _ ih =>
    obtain ⟨read, hdrop, swap⟩ := ih hne
    obtain ⟨wf, tail, hxs⟩ := front_eq_some_iff.mp first
    have hlt : F.advance r ≤ xs.length := by
      by_contra hlt
      rw [List.drop_eq_nil_of_le (by omega)] at hdrop
      exact hne (List.append_eq_nil_iff.mp hdrop.symm).2
    refine ⟨xs.take (F.advance r) ++ read, ?_, fun other => ?_⟩
    · rw [List.append_assoc, ← hdrop, List.take_append_drop]
    · have size : (r.header ++ r.body).length ≤ F.advance r := by
        have le := le_roundUp r.size F.align
        simpa [advance, Record.size] using le
      have kept : xs.take (F.advance r) = r.header ++ r.body ++ tail.take (F.advance r - (r.header ++ r.body).length) := by
        rw [hxs, List.take_append, List.take_of_length_le size]
      have first' : F.front (xs.take (F.advance r) ++ read ++ other) = some r := by
        rw [kept, List.append_assoc, List.append_assoc (r.header ++ r.body)]
        exact front_eq_some_iff.mpr ⟨wf, _, rfl⟩
      refine .cons first' ?_
      have dropped : (xs.take (F.advance r) ++ read ++ other).drop (F.advance r) = read ++ other := by
        rw [List.append_assoc, List.drop_left' (List.length_take_of_le hlt)]
      rw [dropped]
      exact swap other

structure Written (F : Framing α) (r : Record α) (bytes : List α) : Prop where
  wf : F.WellFormed r
  layout : ∃ padding, bytes = r.header ++ r.body ++ padding
  length : bytes.length = F.advance r

theorem Written.walk {r : Record α} {bytes : List α} (h : F.Written r bytes) (rest : List α) :
    F.Walk (bytes ++ rest) [r] rest := by
  obtain ⟨padding, layout⟩ := h.layout
  have first : F.front (bytes ++ rest) = some r :=
    front_eq_some_iff.mpr ⟨h.wf, padding ++ rest, by rw [layout]; simp only [List.append_assoc]⟩
  refine .cons first ?_
  rw [List.drop_left' h.length]
  exact .nil rest

theorem walk_written {rs : List (Record α)} {pieces : List (List α)} (h : List.Forall₂ F.Written rs pieces)
    (rest : List α) : F.Walk (pieces.flatten ++ rest) rs rest := by
  induction h with
  | nil => exact .nil rest
  | cons first _ ih =>
    rw [List.flatten_cons, List.append_assoc]
    exact (first.walk _).trans ih

theorem records_written {rs : List (Record α)} {pieces : List (List α)} (h : List.Forall₂ F.Written rs pieces) :
    F.records pieces.flatten = rs := by
  have read := (walk_written h []).records_append
  rwa [records_none front_nil, List.append_nil, List.append_nil] at read

end Framing

end AnneDeBreuil
