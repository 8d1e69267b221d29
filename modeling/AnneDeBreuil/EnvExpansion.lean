import AnneDeBreuil.Paired
import AnneDeBreuil.Reachability

namespace AnneDeBreuil

/-- What becomes of a pair of percent signs: the value of a known name, and else what was written. -/
def expandPair (lookup : String → Option String) (pair : List Char × List Char) : List Char :=
  pair.1 ++
    match if pair.2 = [] then none else lookup (String.ofList pair.2) with
    | some value => value.toList
    | none => '%' :: pair.2 ++ ['%']

section

variable {lookup : String → Option String} {cs : List Char}

theorem expandChars_gap {gap : List Char} (h : '%' ∉ gap) :
    expandChars lookup (gap ++ cs) none = gap ++ expandChars lookup cs none := by
  induction gap with
  | nil => rfl
  | cons c gap ih =>
    obtain ⟨other, h⟩ := not_or.mp (List.mem_cons.not.mp h)
    rw [List.cons_append, expandChars, if_neg (Ne.symm other), ih h, List.cons_append]

theorem expandChars_name {name : List Char} (read : List Char) (h : '%' ∉ name) :
    expandChars lookup (name ++ cs) (some read) = expandChars lookup cs (some (name.reverse ++ read)) := by
  induction name generalizing read with
  | nil => rfl
  | cons c name ih =>
    obtain ⟨other, h⟩ := not_or.mp (List.mem_cons.not.mp h)
    rw [List.cons_append, expandChars, if_neg (Ne.symm other), ih _ h, List.reverse_cons, List.append_assoc,
      List.singleton_append]

theorem expandChars_pair {pair : List Char × List Char} (gap : '%' ∉ pair.1) (name : '%' ∉ pair.2) :
    expandChars lookup (pairText '%' pair ++ cs) none = expandPair lookup pair ++ expandChars lookup cs none := by
  rw [pairText_append, expandChars_gap gap, expandChars, if_pos rfl, expandChars_name [] name, expandChars, if_pos rfl,
    expandPair, List.append_nil, List.reverse_reverse, List.append_assoc]
  cases hname : pair.2 with
  | nil => rfl
  | cons c rest =>
    have known : (c :: rest).reverse.isEmpty = false := by simp
    rw [known, if_neg (List.cons_ne_nil c rest)]
    rfl

/-- An unpaired percent sign is kept. -/
theorem expandChars_rest {rest : List Char} (h : rest.count '%' ≤ 1) : expandChars lookup rest none = rest := by
  by_cases unpaired : '%' ∈ rest
  · obtain ⟨gap, behind, rfl, hgap⟩ := List.eq_append_cons_of_mem unpaired
    rw [List.count_append, List.count_cons_self] at h
    have single : '%' ∉ behind := List.count_eq_zero.mp (by omega)
    have stop := @expandChars_name lookup [] behind [] single
    rw [List.append_nil, List.append_nil, expandChars, List.reverse_reverse] at stop
    rw [expandChars_gap hgap, expandChars, if_pos rfl, stop]
  · have whole := @expandChars_gap lookup [] rest unpaired
    rwa [List.append_nil, expandChars, List.append_nil] at whole

theorem expandChars_paired {pairs : List (List Char × List Char)} {rest : List Char} (h : Paired '%' cs pairs rest) :
    expandChars lookup cs none = pairs.flatMap (expandPair lookup) ++ rest := by
  induction pairs generalizing cs with
  | nil =>
    rw [h.joined, List.flatMap_nil]
    exact expandChars_rest h.last
  | cons pair pairs ih =>
    obtain ⟨⟨gap, name⟩, apart⟩ := List.forall_mem_cons.mp h.apart
    rw [h.joined, List.flatMap_cons, List.flatMap_cons, List.append_assoc, List.append_assoc, expandChars_pair gap name,
      ih ⟨rfl, apart, h.last⟩]

end

/-- With no variable known the text is kept. With any, the percent signs are paired from the left, each
pair with a known name in it is replaced, and the rest is as it was. -/
theorem expandEnvVars_paired (lookup : String → Option String) (input : String) :
    expandEnvVars (fun _ => none) input = input ∧ ∃ pairs rest, Paired '%' input.toList pairs rest ∧
      (∀ pairs' rest', Paired '%' input.toList pairs' rest' → pairs' = pairs ∧ rest' = rest) ∧
      expandEnvVars lookup input = String.ofList (pairs.flatMap (expandPair lookup) ++ rest) := by
  obtain ⟨pairs, rest, paired⟩ := exists_paired '%' input.toList
  refine ⟨expandEnvVars_none input, pairs, rest, paired, fun pairs' rest' other => other.unique paired, ?_⟩
  rw [expandEnvVars, expandChars_paired paired]

end AnneDeBreuil
