import Mathlib.Data.List.Pairwise
import Mathlib.Logic.Function.Basic

namespace AnneDeBreuil

section

variable {σ α β : Type}

/-- The replies of a machine that is asked one thing after another. -/
def replies (step : σ → α → σ × β) : σ → List α → List β
  | _, [] => []
  | s, a :: as => (step s a).2 :: replies step (step s a).1 as

/-- Where a machine stands afterwards. -/
def stateAfter (step : σ → α → σ × β) (s : σ) (as : List α) : σ := as.foldl (fun s a => (step s a).1) s

variable {step : σ → α → σ × β}

theorem replies_append (s : σ) (before after : List α) :
    replies step s (before ++ after) = replies step s before ++ replies step (stateAfter step s before) after := by
  induction before generalizing s with
  | nil => rfl
  | cons a before ih => rw [List.cons_append, replies, ih, replies, List.cons_append, stateAfter, stateAfter, List.foldl_cons]

variable {κ : Type} [DecidableEq κ]

/-- A machine of its own for each key, started when the key is first asked for. -/
def keyed (step : Option σ → α → σ × β) (s : κ → Option σ) (call : κ × α) : (κ → Option σ) × β :=
  (Function.update s call.1 (some (step (s call.1) call.2).1), (step (s call.1) call.2).2)

/-- One key's machine alone. -/
def alone (step : Option σ → α → σ × β) (s : Option σ) (a : α) : Option σ × β := (some (step s a).1, (step s a).2)

/-- The calls for a key get the replies of its own machine. -/
theorem replies_own (step : Option σ → α → σ × β) (s : κ → Option σ) (key : κ) (calls : List (κ × α)) :
    (calls.zip (replies (keyed step) s calls)).filter (·.1.1 = key) =
      (calls.filter (·.1 = key)).zip (replies (alone step) (s key) ((calls.filter (·.1 = key)).map Prod.snd)) := by
  induction calls generalizing s with
  | nil => rfl
  | cons call calls ih =>
    have later := ih (keyed step s call).1
    rw [replies, List.zip_cons_cons]
    by_cases own : call.1 = key
    · have moved : (keyed step s call).1 key = (alone step (s key) call.2).1 := by
        rw [← own]
        exact Function.update_self ..
      rw [moved] at later
      rw [List.filter_cons_of_pos (by simpa using own), List.filter_cons_of_pos (by simpa using own), List.map_cons,
        replies, List.zip_cons_cons, later, ← own]
      rfl
    · have kept : (keyed step s call).1 key = s key := Function.update_of_ne (Ne.symm own) ..
      rw [kept] at later
      rw [List.filter_cons_of_neg (by simpa using own), List.filter_cons_of_neg (by simpa using own), later]

/-- They get them without the calls for other keys too. -/
theorem replies_filter (step : Option σ → α → σ × β) (s : κ → Option σ) (key : κ) (calls : List (κ × α)) :
    (calls.zip (replies (keyed step) s calls)).filter (·.1.1 = key) =
      (calls.filter (·.1 = key)).zip (replies (keyed step) s (calls.filter (·.1 = key))) := by
  have every : ((calls.filter (·.1 = key)).zip (replies (keyed step) s (calls.filter (·.1 = key)))).filter (·.1.1 = key) =
      (calls.filter (·.1 = key)).zip (replies (keyed step) s (calls.filter (·.1 = key))) := by
    rw [List.filter_eq_self]
    intro answered hanswered
    exact (List.mem_filter.mp (List.of_mem_zip hanswered).1).2
  rw [← every, replies_own, replies_own, List.filter_filter]
  simp only [Bool.and_self]

end

/-- Something that was let through, and the start of the window it was counted in. -/
structure WindowHit where
  time : Nat
  start : Nat

/-- Each hit falls in its window, windows do not overlap, and each has so many. -/
structure Windowed (width budget : Nat) (hits : List WindowHit) : Prop where
  inside : ∀ hit ∈ hits, hit.start ≤ hit.time ∧ hit.time < hit.start + width
  apart : hits.Pairwise fun hit later => later.start = hit.start ∨ hit.start + width ≤ later.start
  within : ∀ start, hits.countP (·.start = start) ≤ budget

theorem Windowed.separate {width budget : Nat} {hits : List WindowHit} (h : Windowed width budget hits) {a b : WindowHit}
    (ha : a ∈ hits) (hb : b ∈ hits) : a.start = b.start ∨ a.start + width ≤ b.start ∨ b.start + width ≤ a.start := by
  have both : hits.Pairwise fun a b => a.start = b.start ∨ a.start + width ≤ b.start ∨ b.start + width ≤ a.start :=
    h.apart.imp fun hab => by omega
  have flipped : hits.Pairwise (flip fun a b => a.start = b.start ∨ a.start + width ≤ b.start ∨ b.start + width ≤ a.start) :=
    h.apart.imp fun hab => by
      unfold flip
      omega
  exact both.forall_of_forall_of_flip (fun _ _ => .inl rfl) flipped ha hb

/-- A span as long as a window meets two windows at most. -/
theorem Windowed.span_le {width budget : Nat} {hits : List WindowHit} (h : Windowed width budget hits) (t : Nat) :
    hits.countP (fun hit => t ≤ hit.time ∧ hit.time < t + width) ≤ 2 * budget := by
  by_cases none : ∀ hit ∈ hits, ¬(t ≤ hit.time ∧ hit.time < t + width)
  · rw [List.countP_eq_zero.mpr (by simpa using none)]
    exact Nat.zero_le _
  · simp only [not_forall, not_not, exists_prop] at none
    obtain ⟨a, ha, hspan⟩ := none
    -- a window of the span other than the first hit's is the only other one
    by_cases one : ∀ hit ∈ hits, t ≤ hit.time ∧ hit.time < t + width → hit.start = a.start
    · calc hits.countP (fun hit => t ≤ hit.time ∧ hit.time < t + width)
          ≤ hits.countP (·.start = a.start) := List.countP_mono_left fun hit hhit hin => by
            simpa using one hit hhit (by simpa using hin)
        _ ≤ budget := h.within _
        _ ≤ 2 * budget := by omega
    · simp only [not_forall, exists_prop] at one
      obtain ⟨b, hb, hbspan, hne⟩ := one
      have two : ∀ hit ∈ hits, t ≤ hit.time ∧ hit.time < t + width → hit.start = a.start ∨ hit.start = b.start := by
        intro c hc hcspan
        have insideA := h.inside a ha
        have insideB := h.inside b hb
        have insideC := h.inside c hc
        have ab := h.separate ha hb
        have ac := h.separate ha hc
        have bc := h.separate hb hc
        omega
      have split : ∀ l : List WindowHit, l.countP (fun hit => hit.start = a.start ∨ hit.start = b.start) ≤
          l.countP (·.start = a.start) + l.countP (·.start = b.start) := by
        intro l
        induction l with
        | nil => exact Nat.le_refl _
        | cons hit l ih =>
          simp only [List.countP_cons, decide_eq_true_eq]
          by_cases ofA : hit.start = a.start
          · rw [if_pos ofA, if_pos (.inl ofA)]
            omega
          · rw [if_neg ofA]
            by_cases ofB : hit.start = b.start
            · rw [if_pos ofB, if_pos (.inr ofB)]
              omega
            · rw [if_neg ofB, if_neg (not_or.mpr ⟨ofA, ofB⟩)]
              omega
      calc hits.countP (fun hit => t ≤ hit.time ∧ hit.time < t + width)
          ≤ hits.countP (fun hit => hit.start = a.start ∨ hit.start = b.start) :=
            List.countP_mono_left fun hit hhit hin => by simpa using two hit hhit (by simpa using hin)
        _ ≤ hits.countP (·.start = a.start) + hits.countP (·.start = b.start) := split hits
        _ ≤ 2 * budget := by
          have ofA := h.within a.start
          have ofB := h.within b.start
          omega

/-- A counter that starts over when it is charged a width after its start. -/
structure FixedWindow where
  start : Nat
  count : Nat
deriving DecidableEq, Repr

namespace FixedWindow

/-- The window that a charge counts in. -/
def current (width now : Nat) (window : Option FixedWindow) : FixedWindow :=
  let window := window.getD ⟨now, 0⟩
  if width ≤ now - window.start then ⟨now, 0⟩ else window

/-- A charge, and whether it is within the budget. -/
def charge (width budget : Nat) (window : Option FixedWindow) (now : Nat) : FixedWindow × Bool :=
  let window := current width now window
  if budget ≤ window.count then (window, false) else ({ window with count := window.count + 1 }, true)

/-- The charges that are within the budget. -/
def hits (width budget : Nat) : Option FixedWindow → List Nat → List WindowHit
  | _, [] => []
  | window, now :: times =>
    let charged := charge width budget window now
    if charged.2 then ⟨now, charged.1.start⟩ :: hits width budget (some charged.1) times
    else hits width budget (some charged.1) times

variable {width budget now : Nat} {window : Option FixedWindow} {times : List Nat}

theorem charge_start (width budget : Nat) (window : Option FixedWindow) (now : Nat) :
    (charge width budget window now).1.start = (current width now window).start := by
  unfold charge
  dsimp only
  split
  next => rfl
  next => rfl

/-- The current window is the one there is, still open, or one that starts now. -/
theorem current_cases (width now : Nat) (window : Option FixedWindow) :
    (window = some (current width now window) ∧ now - (current width now window).start < width) ∨
      (current width now window = ⟨now, 0⟩ ∧ ∀ old, window = some old → width ≤ now - old.start) := by
  cases window with
  | none =>
    refine .inr ⟨?_, nofun⟩
    unfold current
    dsimp only [Option.getD_none]
    exact ite_self _
  | some old =>
    by_cases elapsed : width ≤ now - old.start
    · refine .inr ⟨by simp [current, elapsed], ?_⟩
      intro other hother
      cases hother
      exact elapsed
    · have kept : current width now (some old) = old := by simp [current, elapsed]
      rw [kept]
      exact .inl ⟨rfl, Nat.lt_of_not_le elapsed⟩

theorem current_count_le (h : ∀ old, window = some old → old.count ≤ budget) :
    (current width now window).count ≤ budget := by
  rcases current_cases width now window with ⟨kept, -⟩ | ⟨fresh, -⟩
  · exact h _ kept
  · rw [fresh]
    exact Nat.zero_le _

/-- No count passes the budget. -/
theorem charge_count_le (h : ∀ old, window = some old → old.count ≤ budget) :
    (charge width budget window now).1.count ≤ budget := by
  have before : (current width now window).count ≤ budget := current_count_le h
  unfold charge
  dsimp only
  split
  next => exact before
  next below => exact Nat.lt_of_not_le below

/-- A charge that is denied leaves the next charges' replies as they are. -/
theorem charge_denied (h : (charge width budget window now).2 = false) :
    budget = 0 ∨ some (charge width budget window now).1 = window := by
  unfold charge at h ⊢
  dsimp only at h ⊢
  split
  next full =>
    rcases current_cases width now window with ⟨kept, -⟩ | ⟨fresh, -⟩
    · exact .inr kept.symm
    · rw [fresh] at full
      exact .inl (Nat.le_zero.mp full)
  next below =>
    rw [if_neg below] at h
    cases h

/-- What a window has counted, if it is the one of that start. -/
def countAt (window : Option FixedWindow) (start : Nat) : Nat :=
  match window with
  | some window => if window.start = start then window.count else 0
  | none => 0

theorem charge_count (width budget : Nat) (window : Option FixedWindow) (now : Nat) :
    (charge width budget window now).1.count =
      (current width now window).count + (charge width budget window now).2.toNat := by
  unfold charge
  dsimp only
  split
  next => rfl
  next => rfl

/-- A charge counts in the window there is, or in one past it. -/
theorem charge_countAt (width : Nat) (behind : ∀ old, window = some old → old.count ≤ budget ∧ old.start ≤ now)
    (start : Nat) :
    countAt window start + (if (charge width budget window now).1.start = start then
        (charge width budget window now).2.toNat else 0) ≤ countAt (some (charge width budget window now).1) start ∨
      (start + width ≤ (charge width budget window now).1.start ∧ countAt window start ≤ budget) := by
  rw [countAt, charge_start, charge_count]
  rcases current_cases width now window with ⟨kept, -⟩ | ⟨fresh, elapsed⟩
  · rw [kept, countAt, ← kept]
    split
    next => exact .inl (Nat.le_refl _)
    next => exact .inl (Nat.le_refl _)
  · rw [fresh]
    cases window with
    | none =>
      rw [countAt]
      split
      next => exact .inl (by omega)
      next => exact .inl (Nat.le_refl _)
    | some old =>
      have past := elapsed old rfl
      obtain ⟨counted, started⟩ := behind old rfl
      rw [countAt]
      by_cases own : old.start = start
      · rw [if_pos own]
        exact .inr ⟨by simp only; omega, counted⟩
      · rw [if_neg own]
        split
        next => exact .inl (by omega)
        next => exact .inl (Nat.le_refl _)

theorem charge_start_moves (behind : ∀ old, window = some old → old.start ≤ now) {old : FixedWindow} (h : window = some old) :
    (charge width budget window now).1.start = old.start ∨ old.start + width ≤ (charge width budget window now).1.start := by
  rw [charge_start]
  rcases current_cases width now window with ⟨kept, -⟩ | ⟨fresh, elapsed⟩
  · exact .inl (Option.some.inj (kept.symm.trans h) ▸ rfl)
  · have past := elapsed old h
    have started := behind old h
    rw [fresh]
    exact .inr (by simp only; omega)

/-- The hits of charges in the order of time, from a window that is not ahead. -/
theorem hits_windowed (hwidth : 0 < width) (sorted : times.Pairwise (· ≤ ·))
    (behind : ∀ old, window = some old → old.count ≤ budget ∧ ∀ time ∈ times, old.start ≤ time) :
    (∀ hit ∈ hits width budget window times, hit.start ≤ hit.time ∧ hit.time < hit.start + width) ∧
    (hits width budget window times).Pairwise (fun hit later => later.start = hit.start ∨ hit.start + width ≤ later.start) ∧
    (∀ old, window = some old → ∀ hit ∈ hits width budget window times,
      hit.start = old.start ∨ old.start + width ≤ hit.start) ∧
    ∀ start, (hits width budget window times).countP (·.start = start) + countAt window start ≤ budget := by
  induction times generalizing window with
  | nil =>
    refine ⟨nofun, .nil, nofun, fun start => ?_⟩
    rw [hits, List.countP_nil, Nat.zero_add]
    cases window with
    | none => exact Nat.zero_le _
    | some old =>
      rw [countAt]
      split
      next => exact (behind old rfl).1
      next => exact Nat.zero_le _
  | cons now times ih =>
    obtain ⟨later, sorted⟩ := List.pairwise_cons.mp sorted
    have started : (charge width budget window now).1.start ≤ now ∧ now < (charge width budget window now).1.start + width := by
      rw [charge_start]
      rcases current_cases width now window with ⟨kept, still⟩ | ⟨fresh, -⟩
      · have start := (behind _ kept).2 now List.mem_cons_self
        omega
      · rw [fresh]
        exact ⟨Nat.le_refl _, Nat.lt_add_of_pos_right hwidth⟩
    have counted : (charge width budget window now).1.count ≤ budget := charge_count_le fun old hold => (behind old hold).1
    have ahead : ∀ old, some (charge width budget window now).1 = some old →
        old.count ≤ budget ∧ ∀ time ∈ times, old.start ≤ time := by
      intro old hold
      cases hold
      exact ⟨counted, fun time htime => Nat.le_trans started.1 (later time htime)⟩
    obtain ⟨inside, apart, after, within⟩ := ih sorted ahead
    have moves : ∀ old, window = some old → (charge width budget window now).1.start = old.start ∨
        old.start + width ≤ (charge width budget window now).1.start :=
      fun old hold => charge_start_moves (fun other hother => (behind other hother).2 now List.mem_cons_self) hold
    have follows : ∀ hit ∈ hits width budget (some (charge width budget window now).1) times,
        hit.start = (charge width budget window now).1.start ∨ (charge width budget window now).1.start + width ≤ hit.start :=
      after _ rfl
    have turns := charge_countAt width fun old hold => ⟨(behind old hold).1, (behind old hold).2 now List.mem_cons_self⟩
    have own : hits width budget window (now :: times) =
        (if (charge width budget window now).2 then [⟨now, (charge width budget window now).1.start⟩] else []) ++
          hits width budget (some (charge width budget window now).1) times := by
      rw [hits]
      split
      next => rfl
      next => rfl
    rw [own]
    generalize hits width budget (some (charge width budget window now).1) times = rest at inside apart follows within ⊢
    generalize charge width budget window now = charged at started counted moves follows within turns ⊢
    have heads : ∀ hit ∈ (if charged.2 then [⟨now, charged.1.start⟩] else [] : List WindowHit),
        hit = ⟨now, charged.1.start⟩ := by
      intro hit hhit
      split at hhit
      next => exact List.mem_singleton.mp hhit
      next => cases hhit
    refine ⟨?_, ?_, ?_, ?_⟩
    · intro hit hhit
      rcases List.mem_append.mp hhit with hhit | hhit
      · rw [heads hit hhit]
        exact started
      · exact inside hit hhit
    · rw [List.pairwise_append]
      refine ⟨?_, apart, ?_⟩
      · split
        next => exact List.pairwise_singleton ..
        next => exact .nil
      · intro hit hhit later hlater
        rw [heads hit hhit]
        exact follows later hlater
    · intro old hold hit hhit
      have moved := moves old hold
      rcases List.mem_append.mp hhit with hhit | hhit
      · rw [heads hit hhit]
        exact moved
      · have followed := follows hit hhit
        omega
    · intro start
      have first : (if charged.2 then [⟨now, charged.1.start⟩] else [] : List WindowHit).countP (·.start = start) =
          if charged.1.start = start then charged.2.toNat else 0 := by
        cases charged.2 with
        | true => simp [List.countP_cons]
        | false => simp
      rw [List.countP_append, first]
      have room := within start
      rcases turns start with turn | ⟨past, old⟩
      · omega
      · have gone : rest.countP (·.start = start) = 0 := by
          rw [List.countP_eq_zero]
          intro hit hhit
          have followed := follows hit hhit
          rw [decide_eq_true_iff]
          omega
        rw [if_neg (by omega), gone]
        omega

theorem windowed_hits (hwidth : 0 < width) (sorted : times.Pairwise (· ≤ ·)) :
    Windowed width budget (hits width budget none times) := by
  have closed : ∀ old, (none : Option FixedWindow) = some old → old.count ≤ budget ∧ ∀ time ∈ times, old.start ≤ time :=
    fun _ hold => by cases hold
  obtain ⟨inside, apart, -, within⟩ := hits_windowed hwidth sorted closed
  exact ⟨inside, apart, within⟩

/-- The hits are the charges that are answered so. -/
theorem hits_times (width budget : Nat) (window : Option FixedWindow) (times : List Nat) :
    (hits width budget window times).map WindowHit.time =
      ((times.zip (replies (alone (charge width budget)) window times)).filter Prod.snd).map Prod.fst := by
  induction times generalizing window with
  | nil => rfl
  | cons now times ih =>
    rw [hits, replies, List.zip_cons_cons]
    cases ok : (charge width budget window now).2 with
    | true =>
      rw [if_pos rfl, List.filter_cons_of_pos (by exact ok), List.map_cons, List.map_cons, ih]
      rfl
    | false =>
      rw [if_neg (by decide), List.filter_cons_of_neg (by rw [show (alone (charge width budget) window now).2 = false from ok]; decide), ih]
      rfl

section

variable {κ : Type} [DecidableEq κ]

theorem replies_without_budget (s : κ → Option FixedWindow) (calls : List (κ × Nat)) :
    replies (keyed (charge width 0)) s calls = calls.map fun _ => false := by
  induction calls generalizing s with
  | nil => rfl
  | cons call calls ih =>
    rw [replies, ih, List.map_cons]
    simp [keyed, charge]

/-- The calls after a denied one are answered as without it. -/
theorem replies_after_denied {s : κ → Option FixedWindow} {call : κ × Nat}
    (h : (keyed (charge width budget) s call).2 = false) (calls : List (κ × Nat)) :
    replies (keyed (charge width budget)) (keyed (charge width budget) s call).1 calls =
      replies (keyed (charge width budget)) s calls := by
  rcases charge_denied h with rfl | same
  · rw [replies_without_budget, replies_without_budget]
  · have unmoved : (keyed (charge width budget) s call).1 = s := by
      rw [keyed, same]
      exact Function.update_eq_self ..
    rw [unmoved]

theorem keyed_count_le {s : κ → Option FixedWindow} (h : ∀ key window, s key = some window → window.count ≤ budget)
    (calls : List (κ × Nat)) {key : κ} {window : FixedWindow}
    (after : stateAfter (keyed (charge width budget)) s calls key = some window) : window.count ≤ budget := by
  induction calls generalizing s with
  | nil => exact h key window after
  | cons call calls ih =>
    have next : ∀ other charged, (keyed (charge width budget) s call).1 other = some charged → charged.count ≤ budget := by
      intro other charged hother
      simp only [keyed] at hother
      by_cases own : other = call.1
      · rw [own, Function.update_self] at hother
        cases hother
        exact charge_count_le fun old hold => h call.1 old hold
      · rw [Function.update_of_ne own] at hother
        exact h other charged hother
    exact ih next after

end

end FixedWindow

end AnneDeBreuil
