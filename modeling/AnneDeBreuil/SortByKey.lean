import Mathlib.Data.List.Sort

namespace AnneDeBreuil

variable {α β κ : Type}

/-- `slice::sort_by_key`, a stable sort. -/
def sortByKey [LE κ] [DecidableLE κ] (key : α → κ) (xs : List α) : List α :=
  xs.insertionSort (fun a b => key a ≤ key b)

theorem sortByKey_perm [LE κ] [DecidableLE κ] (key : α → κ) (xs : List α) :
    (sortByKey key xs).Perm xs :=
  List.perm_insertionSort _ xs

@[simp] theorem mem_sortByKey [LE κ] [DecidableLE κ] {key : α → κ} {xs : List α} {x : α} :
    x ∈ sortByKey key xs ↔ x ∈ xs :=
  (sortByKey_perm key xs).mem_iff

theorem sortByKey_sorted [LinearOrder κ] (key : α → κ) (xs : List α) :
    (sortByKey key xs).Pairwise (fun a b => key a ≤ key b) :=
  have : Std.Total (fun a b : α => key a ≤ key b) := ⟨fun a b => le_total (key a) (key b)⟩
  have : IsTrans α (fun a b => key a ≤ key b) := ⟨fun _ _ _ => le_trans⟩
  List.pairwise_insertionSort _ xs

/-- Keys that compare alike sort alike. -/
theorem sortByKey_congr {κ' : Type} [LE κ] [DecidableLE κ] [LE κ'] [DecidableLE κ'] {key : α → κ} {key' : α → κ'}
    (h : ∀ a b, key a ≤ key b ↔ key' a ≤ key' b) : sortByKey key = sortByKey key' := by
  funext xs
  have same := List.map_insertionSort (r := fun a b => key a ≤ key b) (s := fun a b => key' a ≤ key' b) id xs
    (fun a _ b _ => h a b)
  simpa [sortByKey] using same

theorem sortByKey_map [LE κ] [DecidableLE κ] (key : β → κ) (g : α → β) (xs : List α) :
    (sortByKey (fun x => key (g x)) xs).map g = sortByKey key (xs.map g) :=
  List.map_insertionSort _ _ g xs (fun _ _ _ _ => Iff.rfl)

/-- Elements that tie keep the order they came in. -/
theorem sortByKey_stable [LinearOrder κ] (key : α → κ) (xs : List α) (k : κ) :
    (sortByKey key xs).filter (fun x => key x = k) = xs.filter (fun x => key x = k) := by
  have ties : (xs.filter (fun x => key x = k)).Pairwise (fun a b => key a ≤ key b) := by
    apply List.pairwise_of_forall_mem_list
    intro a ha b hb
    simp only [List.mem_filter, decide_eq_true_eq] at ha hb
    rw [ha.2, hb.2]
  have total : Std.Total (fun a b : α => key a ≤ key b) := ⟨fun a b => le_total (key a) (key b)⟩
  have trans : IsTrans α (fun a b => key a ≤ key b) := ⟨fun _ _ _ => le_trans⟩
  have kept := (List.sublist_insertionSort ties List.filter_sublist).filter (fun x => key x = k)
  rw [List.filter_filter] at kept
  simp only [Bool.and_self] at kept
  exact (kept.eq_of_length ((sortByKey_perm key xs).filter _).length_eq.symm).symm

/-- The keys tell the elements of the list apart. -/
def Separates (key : α → κ) (xs : List α) : Prop := ∀ a ∈ xs, ∀ b ∈ xs, key a = key b → a = b

theorem sortByKey_of_separates [LinearOrder κ] {key : α → κ} {xs ys : List α} (h : Separates key xs)
    (hp : xs.Perm ys) : sortByKey key ys = sortByKey key xs := by
  have sorted := ((sortByKey_perm key ys).trans hp.symm).trans (sortByKey_perm key xs).symm
  refine sorted.eq_of_pairwise ?_ (sortByKey_sorted key ys) (sortByKey_sorted key xs)
  intro a b ha hb hab hba
  rw [mem_sortByKey] at ha hb
  exact h a (hp.mem_iff.mpr ha) b hb (le_antisymm hab hba)

/-- A sort forgets the input order exactly when no two of its elements tie. -/
theorem sortByKey_order_free_iff [LinearOrder κ] {key : α → κ} {xs : List α} :
    (∀ ys, xs.Perm ys → sortByKey key ys = sortByKey key xs) ↔ Separates key xs := by
  classical
  constructor
  · intro free a ha b hb tie
    by_contra hne
    have hb' : b ∈ xs.erase a := (List.mem_erase_of_ne (Ne.symm hne)).mpr hb
    have hp : xs.Perm (a :: b :: (xs.erase a).erase b) :=
      (List.perm_cons_erase ha).trans ((List.perm_cons_erase hb').cons a)
    have same := (free _ hp).trans (free _ (hp.trans (List.Perm.swap b a _))).symm
    have ties := congrArg (List.filter (fun x => key x = key b)) same
    simp only [sortByKey_stable, List.filter_cons, tie, decide_true, ↓reduceIte, List.cons.injEq] at ties
    exact hne ties.1
  · intro h ys hp
    exact sortByKey_of_separates h hp

end AnneDeBreuil
