import Mathlib.Data.List.Basic
import Mathlib.Logic.Function.Basic

namespace AnneDeBreuil

variable {α β γ δ κ ε ε' : Type}

/-- Two results with one observation: the same error, or values that the
observation does not tell apart. -/
theorem observed_cases {x y : Except ε α} {g : α → β} (h : x.map g = y.map g) :
    (∃ e, x = .error e ∧ y = .error e) ∨ ∃ a b, x = .ok a ∧ y = .ok b ∧ g a = g b := by
  cases x with
  | error e =>
    cases y with
    | error e' => cases h; exact .inl ⟨e, rfl, rfl⟩
    | ok b => cases h
  | ok a =>
    cases y with
    | error e' => cases h
    | ok b => exact .inr ⟨a, b, rfl, rfl, Except.ok.inj h⟩

theorem observed_bind {x y : Except ε α} {g : α → β} {k : α → Except ε γ} (h : x.map g = y.map g)
    (hk : k.FactorsThrough g) : x >>= k = y >>= k := by
  obtain ⟨e, rfl, rfl⟩ | ⟨a, b, rfl, rfl, hab⟩ := observed_cases h
  · rfl
  · exact hk hab

theorem observed_bind_map {x y : Except ε α} {g : α → β} {k : α → Except ε γ} {d : γ → δ}
    (h : x.map g = y.map g) (hk : Function.FactorsThrough (fun a => (k a).map d) g) :
    (x >>= k).map d = (y >>= k).map d := by
  obtain ⟨e, rfl, rfl⟩ | ⟨a, b, rfl, rfl, hab⟩ := observed_cases h
  · rfl
  · exact hk hab

theorem observed_map_map {x y : Except ε α} {g : α → β} {f : α → γ} {d : γ → δ} (h : x.map g = y.map g)
    (hf : Function.FactorsThrough (fun a => d (f a)) g) : (x.map f).map d = (y.map f).map d := by
  obtain ⟨e, rfl, rfl⟩ | ⟨a, b, rfl, rfl, hab⟩ := observed_cases h
  · rfl
  · exact congrArg Except.ok (hf hab)

theorem observed_mapError {x y : Except ε α} {g : α → β} {f : ε → ε'} (h : x.map g = y.map g) :
    (x.mapError f).map g = (y.mapError f).map g := by
  obtain ⟨e, rfl, rfl⟩ | ⟨a, b, rfl, rfl, hab⟩ := observed_cases h
  · rfl
  · exact congrArg Except.ok hab

theorem observed_mapM {f f' : κ → Except ε α} {g : α → β} (h : ∀ k, (f k).map g = (f' k).map g)
    (ks : List κ) : (ks.mapM f).map (List.map g) = (ks.mapM f').map (List.map g) := by
  induction ks with
  | nil => rfl
  | cons k ks ih =>
    simp only [List.mapM_cons]
    obtain ⟨e, hx, hy⟩ | ⟨a, b, hx, hy, hab⟩ := observed_cases (h k) <;> rw [hx, hy]
    · rfl
    · obtain ⟨e, hx, hy⟩ | ⟨as, bs, hx, hy, hrest⟩ := observed_cases ih <;> rw [hx, hy]
      · rfl
      · exact congrArg Except.ok (by simp [hab, hrest])

theorem factorsThrough_map {f : α → γ} {g : α → β} (hf : f.FactorsThrough g) :
    (List.map f).FactorsThrough (List.map g) := by
  intro xs ys h
  induction xs generalizing ys with
  | nil => rw [List.map_eq_nil_iff.mp h.symm]
  | cons x xs ih =>
    cases ys with
    | nil => simp at h
    | cons y ys =>
      obtain ⟨hx, hxs⟩ := List.cons.inj h
      exact congrArg₂ List.cons (hf hx) (ih hxs)

end AnneDeBreuil
