import Mathlib.Data.List.Infix

namespace AnneDeBreuil

/-- `str::find`: the byte offset of the first place where a text stands. -/
def strFind (needle : List Char) : List Char → Option Nat
  | [] => if needle = [] then some 0 else none
  | c :: cs => if needle <+: c :: cs then some 0 else (strFind needle cs).map (· + c.utf8Size)

/-- `str::contains`. -/
def strContains (cs needle : List Char) : Bool := (strFind needle cs).isSome

theorem strContains_iff {cs needle : List Char} : strContains cs needle = true ↔ needle <:+: cs := by
  rw [strContains]
  induction cs with
  | nil =>
    rw [strFind, List.infix_nil]
    split
    next h => simp [h]
    next h => simp [h]
  | cons c cs ih =>
    rw [strFind, List.infix_cons_iff]
    split
    next h => simp [h]
    next h =>
      rw [Option.isSome_map, ih]
      simp [h]

section

variable {α : Type} {first : α} {rest : List α}

/-- A text whose first letter is missing stands nowhere. -/
theorem not_infix_of_not_mem {xs : List α} (h : first ∉ xs) : ¬ first :: rest <:+: xs :=
  fun stands => h (stands.subset List.mem_cons_self)

/-- A text never runs over the end of a piece when it cannot begin in the piece or
the piece ends in a letter that it does not have. -/
theorem infix_append_of_closed {xs ys : List α}
    (closed : first ∉ xs ∨ ∃ body last, xs = body ++ [last] ∧ last ∉ first :: rest) :
    first :: rest <:+: xs ++ ys ↔ first :: rest <:+: xs ∨ first :: rest <:+: ys := by
  rw [List.infix_append_iff_ne_nil]
  refine ⟨?_, fun h => h.elim .inl fun h => .inr (.inl h)⟩
  rintro (h | h | ⟨before, after, hbefore, _, split, hsuffix, _⟩)
  · exact .inl h
  · exact .inr h
  · obtain ⟨head, tail, rfl⟩ := List.exists_cons_of_ne_nil hbefore
    have begins : first = head := (List.cons.inj split).1
    rcases closed with missing | ⟨body, last, rfl, missing⟩
    · have found : first ∈ xs := hsuffix.subset (begins ▸ List.mem_cons_self)
      exact absurd found missing
    · have ends : last ∈ head :: tail := by
        obtain ⟨front, hfront, _⟩ := (List.suffix_concat_iff.mp hsuffix).resolve_left hbefore
        exact hfront ▸ List.mem_append_right front List.mem_cons_self
      have found : last ∈ first :: rest := split ▸ List.mem_append_left after ends
      exact absurd found missing

theorem infix_flatMap_of_closed {γ : Type} {text : γ → List α} {pieces : List γ}
    (closed : ∀ piece ∈ pieces, first ∉ text piece ∨ ∃ body last, text piece = body ++ [last] ∧ last ∉ first :: rest) :
    first :: rest <:+: pieces.flatMap text ↔ ∃ piece ∈ pieces, first :: rest <:+: text piece := by
  induction pieces with
  | nil => simp
  | cons piece pieces ih =>
    rw [List.flatMap_cons, infix_append_of_closed (closed piece List.mem_cons_self),
      ih fun other hother => closed other (List.mem_cons_of_mem _ hother), List.exists_mem_cons_iff]

/-- Every letter is written as itself, or is none of a text's and written by an
escape whose mark is none of them either, and in which the text cannot begin. -/
def EscapesApart (escape : α → List α) (first : α) (rest : List α) : Prop :=
  ∀ c, escape c = [c] ∨
    c ∉ first :: rest ∧ ∃ mark more, escape c = mark :: more ∧ mark ∉ first :: rest ∧ first ∉ mark :: more

variable {escape : α → List α}

theorem prefix_flatMap_iff (apart : EscapesApart escape first rest) {needle : List α} (part : needle ⊆ first :: rest)
    {cs : List α} : needle <+: cs.flatMap escape ↔ needle <+: cs := by
  induction cs generalizing needle with
  | nil => rw [List.flatMap_nil]
  | cons c cs ih =>
    cases needle with
    | nil => simp
    | cons head tail =>
      have hhead : head ∈ first :: rest := part List.mem_cons_self
      have htail : tail ⊆ first :: rest := fun x hx => part (List.mem_cons_of_mem _ hx)
      rw [List.flatMap_cons, List.cons_prefix_cons]
      rcases apart c with plain | ⟨hc, mark, more, hescape, hmark, _⟩
      · rw [plain, List.singleton_append, List.cons_prefix_cons, ih htail]
      · rw [hescape, List.cons_append, List.cons_prefix_cons]
        have notMark : head ≠ mark := fun h => hmark (h ▸ hhead)
        have notLetter : head ≠ c := fun h => hc (h ▸ hhead)
        simp [notMark, notLetter]

/-- A text stands in what is written for another exactly where it stands in it. -/
theorem infix_flatMap_iff (apart : EscapesApart escape first rest) {cs : List α} :
    first :: rest <:+: cs.flatMap escape ↔ first :: rest <:+: cs := by
  induction cs with
  | nil => rw [List.flatMap_nil]
  | cons c cs ih =>
    rcases apart c with plain | ⟨hc, mark, more, hescape, _, hfirst⟩
    · have starts : first :: rest <+: (c :: cs).flatMap escape ↔ first :: rest <+: c :: cs :=
        prefix_flatMap_iff apart (List.Subset.refl _)
      rw [List.infix_cons_iff, ← ih, ← starts, List.flatMap_cons, plain, List.singleton_append, List.infix_cons_iff]
    · have nowhere : ¬ first :: rest <:+: mark :: more := not_infix_of_not_mem hfirst
      have notHere : ¬ first :: rest <+: c :: cs := fun h => hc ((List.cons_prefix_cons.mp h).1 ▸ List.mem_cons_self)
      rw [List.flatMap_cons, hescape, infix_append_of_closed (.inl hfirst), or_iff_right nowhere, ih, List.infix_cons_iff,
        or_iff_right notHere]

end

end AnneDeBreuil
