import Mathlib.Logic.Function.Basic

namespace AnneDeBreuil

/-- A lock over the time from which its next holder may pass. -/
structure RateGate (ι : Type) where
  holder : Option ι
  nextAllowed : Option Nat
deriving DecidableEq, Repr

namespace RateGate

variable {ι : Type}

def new : RateGate ι := ⟨none, none⟩

def lock (gate : RateGate ι) (i : ι) : RateGate ι := { gate with holder := some i }

def unlock (gate : RateGate ι) : RateGate ι := { gate with holder := none }

/-- When one that locks the gate now may pass: it sleeps off what is left. -/
def wakeAt (gate : RateGate ι) (now : Nat) : Nat :=
  match gate.nextAllowed with
  | some next => if now < next then now + (next - now) else now
  | none => now

def pass (gate : RateGate ι) (interval now : Nat) : RateGate ι :=
  { gate with nextAllowed := some (now + interval), holder := none }

theorem le_wakeAt {gate : RateGate ι} {now next : Nat} (h : gate.nextAllowed = some next) : next ≤ gate.wakeAt now := by
  unfold wakeAt
  rw [h]
  dsimp only
  split
  next => omega
  next hpast => exact Nat.le_of_not_lt hpast

/-- The gate spaces its passes: what sleeps holds it and wakes no sooner than it
allows, which is an interval after each pass so far. -/
structure Spaces (gate : RateGate ι) (interval : Nat) (sleeping : ι → Option Nat) (passes : List Nat) : Prop where
  held : ∀ i wake, sleeping i = some wake → gate.holder = some i ∧ ∀ next, gate.nextAllowed = some next → next ≤ wake
  armed : ∀ p ∈ passes, ∃ next, gate.nextAllowed = some next ∧ p + interval ≤ next

/-- Only who sleeps at the gate holds it, and it allows a pass within an interval. -/
structure Awaited (gate : RateGate ι) (interval now : Nat) (sleeping : ι → Option Nat) : Prop where
  asleep : ∀ i, gate.holder = some i → ∃ wake, sleeping i = some wake
  soon : ∀ next, gate.nextAllowed = some next → next ≤ now + interval

/-- A gate is ahead of another: who holds it holds the other, and it allows a
pass no later. -/
structure Ahead (gate other : RateGate ι) : Prop where
  holder : ∀ i, gate.holder = some i → other.holder = some i
  next : ∀ next, gate.nextAllowed = some next → ∃ later, other.nextAllowed = some later ∧ next ≤ later

variable {gate : RateGate ι} {interval now wake : Nat} {sleeping : ι → Option Nat} {passes : List Nat} {i : ι}

theorem spaces_new : (new : RateGate ι).Spaces interval (fun _ => none) [] where
  held := nofun
  armed := nofun

theorem Spaces.alone (h : gate.Spaces interval sleeping passes) (hi : sleeping i = some wake) {j : ι} {later : Nat}
    (hj : sleeping j = some later) : j = i := by
  have holds := (h.held i wake hi).1
  rw [(h.held j later hj).1] at holds
  exact Option.some.inj holds

/-- Who has slept long enough passes an interval after every earlier pass. -/
theorem Spaces.spaced (h : gate.Spaces interval sleeping passes) (hi : sleeping i = some wake) (awake : wake ≤ now) :
    ∀ p ∈ passes, p + interval ≤ now := by
  intro p hp
  obtain ⟨next, hnext, hle⟩ := h.armed p hp
  have hwake := (h.held i wake hi).2 next hnext
  omega

theorem awaited_new : (new : RateGate ι).Awaited interval now (fun _ => none) where
  asleep := nofun
  soon := nofun

theorem Awaited.later (h : gate.Awaited interval now sleeping) {later : Nat} (hle : now ≤ later) :
    gate.Awaited interval later sleeping :=
  ⟨h.asleep, fun next hnext => Nat.le_trans (h.soon next hnext) (Nat.add_le_add_right hle _)⟩

section

variable {other : RateGate ι}

theorem Ahead.refl (gate : RateGate ι) : gate.Ahead gate := ⟨fun _ => id, fun next hnext => ⟨next, hnext, Nat.le_refl _⟩⟩

theorem Ahead.free (h : gate.Ahead other) (free : other.holder = none) : gate.holder = none := by
  rw [Option.eq_none_iff_forall_ne_some]
  intro i hi
  rw [h.holder i hi] at free
  cases free

theorem Ahead.wakeAt_le (h : gate.Ahead other) (now : Nat) : gate.wakeAt now ≤ other.wakeAt now := by
  unfold wakeAt
  split
  next next hnext =>
    obtain ⟨later, hlater, hle⟩ := h.next next hnext
    rw [hlater]
    dsimp only
    split
    next =>
      rw [if_pos (by omega)]
      omega
    next =>
      split
      next => omega
      next => exact Nat.le_refl _
  next =>
    split
    next =>
      split
      next => omega
      next => exact Nat.le_refl _
    next => exact Nat.le_refl _

theorem Ahead.lock (h : gate.Ahead other) (i : ι) : (gate.lock i).Ahead (other.lock i) := ⟨fun _ => id, h.next⟩

theorem Ahead.unlock (h : gate.Ahead other) : gate.unlock.Ahead other.unlock := ⟨nofun, h.next⟩

theorem ahead_pass (gate other : RateGate ι) : (gate.pass interval now).Ahead (other.pass interval now) :=
  ⟨nofun, fun next hnext => ⟨next, hnext, Nat.le_refl _⟩⟩

/-- Who does not hold the gate ahead may lock the other, pass it or give it up. -/
theorem Ahead.other_lock (h : gate.Ahead other) (free : other.holder = none) (i : ι) : gate.Ahead (other.lock i) := by
  refine ⟨?_, h.next⟩
  intro j hj
  rw [h.free free] at hj
  cases hj

theorem Ahead.other_unlock (h : gate.Ahead other) {i : ι} (held : other.holder = some i) (outside : gate.holder ≠ some i) :
    gate.Ahead other.unlock := by
  refine ⟨?_, h.next⟩
  intro j hj
  rw [h.holder j hj] at held
  rw [held] at hj
  exact absurd hj outside

theorem Ahead.other_pass (h : gate.Ahead other) {i : ι} (held : other.holder = some i) (outside : gate.holder ≠ some i)
    (soon : ∀ next, gate.nextAllowed = some next → next ≤ now + interval) : gate.Ahead (other.pass interval now) :=
  ⟨(h.other_unlock held outside).holder, fun next hnext => ⟨_, rfl, soon next hnext⟩⟩

end

variable [DecidableEq ι]

theorem Awaited.lock (h : gate.Awaited interval now sleeping) (i : ι) :
    (gate.lock i).Awaited interval now (Function.update sleeping i (some (gate.wakeAt now))) := by
  refine ⟨?_, h.soon⟩
  intro j hj
  cases hj
  exact ⟨_, Function.update_self ..⟩

theorem Awaited.unlock (h : gate.Awaited interval now sleeping) (i : ι) :
    gate.unlock.Awaited interval now (Function.update sleeping i none) := ⟨nofun, h.soon⟩

theorem awaited_pass (i : ι) : (gate.pass interval now).Awaited interval now (Function.update sleeping i none) := by
  refine ⟨nofun, ?_⟩
  intro next hnext
  cases hnext
  exact Nat.le_refl _

theorem Spaces.lock (h : gate.Spaces interval sleeping passes) (free : gate.holder = none) (i : ι) (now : Nat) :
    (gate.lock i).Spaces interval (Function.update sleeping i (some (gate.wakeAt now))) passes := by
  refine ⟨?_, h.armed⟩
  intro j wake hj
  by_cases hji : j = i
  · subst hji
    rw [Function.update_self] at hj
    cases hj
    exact ⟨rfl, fun next hnext => le_wakeAt hnext⟩
  · rw [Function.update_of_ne hji] at hj
    have holds := (h.held j wake hj).1
    rw [free] at holds
    cases holds

theorem Spaces.unlock (h : gate.Spaces interval sleeping passes) (hi : sleeping i = some wake) :
    gate.unlock.Spaces interval (Function.update sleeping i none) passes := by
  refine ⟨?_, h.armed⟩
  intro j later hj
  by_cases hji : j = i
  · rw [hji, Function.update_self] at hj
    cases hj
  · rw [Function.update_of_ne hji] at hj
    exact absurd (h.alone hi hj) hji

theorem Spaces.pass (h : gate.Spaces interval sleeping passes) (hi : sleeping i = some wake) (awake : wake ≤ now) :
    (gate.pass interval now).Spaces interval (Function.update sleeping i none) (passes ++ [now]) := by
  refine ⟨?_, ?_⟩
  · intro j later hj
    by_cases hji : j = i
    · rw [hji, Function.update_self] at hj
      cases hj
    · rw [Function.update_of_ne hji] at hj
      exact absurd (h.alone hi hj) hji
  · intro p hp
    refine ⟨now + interval, rfl, ?_⟩
    rcases List.mem_append.mp hp with hp | hp
    · have earlier := h.spaced hi awake p hp
      omega
    · cases List.mem_singleton.mp hp
      exact Nat.le_refl _

end RateGate

end AnneDeBreuil
