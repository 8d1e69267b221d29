import Mathlib.Data.List.Basic
import Mathlib.Data.List.Induction

namespace AnneDeBreuil

inductive BracketToken (α : Type)
  | opens
  | closes
  | atom (a : α)
deriving DecidableEq, Repr

/-- What stands between two brackets that close one another: a row of atoms and
of groups. -/
inductive Nest (α : Type)
  | nil
  | atom (a : α) (rest : Nest α)
  | group (inner rest : Nest α)

variable {α σ : Type}

namespace Nest

def tokens : Nest α → List (BracketToken α)
  | nil => []
  | atom a rest => .atom a :: rest.tokens
  | group inner rest => .opens :: (inner.tokens ++ .closes :: rest.tokens)

/-- The atoms of the row itself. -/
def level : Nest α → List α
  | nil => []
  | atom a rest => a :: rest.level
  | group _ rest => rest.level

/-- The groups of the row. -/
def groups : Nest α → List (Nest α)
  | nil => []
  | atom _ rest => rest.groups
  | group inner rest => inner :: rest.groups

/-- The atoms at every depth. -/
def atoms : Nest α → List α
  | nil => []
  | atom a rest => a :: rest.atoms
  | group inner rest => inner.atoms ++ rest.atoms

def append : Nest α → Nest α → Nest α
  | nil, later => later
  | atom a rest, later => atom a (rest.append later)
  | group inner rest, later => group inner (rest.append later)

@[simp] theorem tokens_append (nest later : Nest α) : (nest.append later).tokens = nest.tokens ++ later.tokens := by
  induction nest with
  | nil => rfl
  | atom a rest ih => rw [append, tokens, ih, tokens, List.cons_append]
  | group inner rest _ ih => simp only [append, tokens, ih, List.cons_append, List.append_assoc]

@[simp] theorem level_append (nest later : Nest α) : (nest.append later).level = nest.level ++ later.level := by
  induction nest with
  | nil => rfl
  | atom a rest ih => rw [append, level, ih, level, List.cons_append]
  | group inner rest _ ih => exact ih

/-- An atom stands in the row or in one of its groups. -/
theorem mem_atoms_iff {a : α} {nest : Nest α} :
    a ∈ nest.atoms ↔ a ∈ nest.level ∨ ∃ inner ∈ nest.groups, a ∈ inner.atoms := by
  induction nest with
  | nil => simp [atoms, level, groups]
  | atom b rest ih => simp only [atoms, level, groups, List.mem_cons, ih, or_assoc]
  | group inner rest _ ih =>
    simp only [atoms, level, groups, List.mem_append, List.exists_mem_cons_iff, ih]
    exact or_left_comm

end Nest

section

variable (f : σ → α → σ) (initial : σ)

/-- One token, read with a stack that keeps a value for each group that is open:
an atom is for the innermost one, and a bracket that closes nothing is passed over. -/
def bracketStep (stack : List σ) : BracketToken α → List σ
  | .opens => initial :: stack
  | .closes => stack.tail
  | .atom a =>
    match stack with
    | [] => []
    | top :: below => f top a :: below

def bracketWalk (stack : List σ) (tokens : List (BracketToken α)) : List σ := tokens.foldl (bracketStep f initial) stack

/-- The stack after a text, each of its values with the group that it is for. -/
inductive Unclosed : List (BracketToken α) → List σ → Prop
  | outside (tokens) : Unclosed tokens []
  | level {before stack} (nest : Nest α) (outer : Unclosed before stack) :
      Unclosed (before ++ .opens :: nest.tokens) (nest.level.foldl f initial :: stack)

end

section

variable {f : σ → α → σ} {initial : σ}

/-- What closes its own brackets is for the innermost open group, and only by the
atoms of its row. -/
theorem bracketWalk_nest (nest : Nest α) (top : σ) (below : List σ) :
    bracketWalk f initial (top :: below) nest.tokens = nest.level.foldl f top :: below := by
  induction nest generalizing top below with
  | nil => rfl
  | atom a rest ih => exact ih (f top a) below
  | group inner rest ihInner ih =>
    have walked := ihInner initial (top :: below)
    simp only [bracketWalk] at walked ih ⊢
    rw [Nest.tokens, List.foldl_cons, List.foldl_append, bracketStep, walked, List.foldl_cons]
    exact ih top below

theorem Unclosed.step {read : List (BracketToken α)} {stack : List σ} (h : Unclosed f initial read stack)
    (token : BracketToken α) : Unclosed f initial (read ++ [token]) (bracketStep f initial stack token) := by
  cases h with
  | outside =>
    cases token with
    | opens => exact .level .nil (.outside read)
    | closes => exact .outside _
    | atom a => exact .outside _
  | @level before below nest outer =>
    cases token with
    | opens => exact .level .nil (.level nest outer)
    | closes =>
      cases outer with
      | outside => exact .outside _
      | @level before' below' nest' outer' =>
        have closed : Unclosed f initial _ _ := .level (nest'.append (.group nest .nil)) outer'
        simpa [Nest.tokens, Nest.level, bracketStep] using closed
    | atom a =>
      have longer : Unclosed f initial _ _ := .level (nest.append (.atom a .nil)) outer
      simpa [Nest.tokens, Nest.level, bracketStep] using longer

theorem unclosed_bracketWalk (tokens : List (BracketToken α)) :
    Unclosed f initial tokens (bracketWalk f initial [] tokens) := by
  induction tokens using List.reverseRecOn with
  | nil => exact .outside []
  | append_singleton read token ih =>
    rw [bracketWalk, List.foldl_append]
    exact ih.step token

/-- The value on top is that of the row behind the innermost bracket still open. -/
theorem bracketWalk_head?_iff {tokens : List (BracketToken α)} {value : σ} :
    (bracketWalk f initial [] tokens).head? = some value ↔
      ∃ (before : List (BracketToken α)) (nest : Nest α),
        tokens = before ++ .opens :: nest.tokens ∧ nest.level.foldl f initial = value := by
  constructor
  · intro htop
    have reached : Unclosed f initial tokens (bracketWalk f initial [] tokens) := unclosed_bracketWalk tokens
    generalize bracketWalk f initial [] tokens = stack at htop reached
    cases reached with
    | outside => cases htop
    | @level before below nest outer => exact ⟨before, nest, rfl, Option.some.inj htop⟩
  · rintro ⟨before, nest, rfl, rfl⟩
    rw [bracketWalk, List.foldl_append, List.foldl_cons]
    exact congrArg List.head? (bracketWalk_nest nest initial (bracketWalk f initial [] before))

end

end AnneDeBreuil
