import AnneDeBreuil.PortLists
import Mathlib.Data.List.Induction
import Mathlib.Data.Nat.Digits.Defs
import Mathlib.Order.Interval.Set.Defs
import Mathlib.Tactic.Choose

namespace AnneDeBreuil

/-- ASCII digits, and the number they are in decimal. -/
structure Decimal (cs : List Char) (n : Nat) : Prop where
  nonempty : cs ≠ []
  digits : ∀ c ∈ cs, c.isDigit = true
  value : n = Nat.ofDigits 10 (cs.reverse.map fun c => c.toNat - 48)

/-- The same, with at most one plus sign in front. -/
def PlusDecimal (cs : List Char) (n : Nat) : Prop := Decimal cs n ∨ ∃ digits, cs = '+' :: digits ∧ Decimal digits n

/-- What may stand between the commas of a port text, and the ports it denotes;
`numeral` says how a number is written. -/
inductive MemberDenotes (numeral : List Char → Nat → Prop) : List Char → Set Nat → Prop
  | star : MemberDenotes numeral ['*'] Set.univ
  | any {cs : List Char} (h : cs.map Char.toLower = "any".toList) : MemberDenotes numeral cs Set.univ
  | port {cs : List Char} {n : Nat} (hn : numeral cs n) (hpos : 1 ≤ n) (hmax : n ≤ 65535) : MemberDenotes numeral cs {n}
  | range {before after : List Char} {a b : Nat} (ha : numeral (trimChars before) a) (hb : numeral (trimChars after) b)
      (hpos : 1 ≤ a) (hle : a ≤ b) (hmax : b ≤ 65535) : MemberDenotes numeral (before ++ '-' :: after) (Set.Icc a b)
  | dynamic {cs : List Char} (keyword : DynamicKeyword)
      (h : cs.map Char.toLower = keyword.canonicalName.toList.map Char.toLower) : MemberDenotes numeral cs Set.univ

/-- A port text is one member or several between commas, and denotes what any of
them does; blanks around it and around its members do not count. -/
def TextDenotes (numeral : List Char → Nat → Prop) (text : String) (ports : Set Nat) : Prop :=
  ∃ parts : List (List Char × Set Nat), parts ≠ [] ∧
    trimChars text.toList = [','].intercalate (parts.map Prod.fst) ∧
    (∀ part ∈ parts, MemberDenotes numeral (trimChars part.1) part.2) ∧
    ports = {n | ∃ part ∈ parts, n ∈ part.2}

/-- No list stands inside a list. -/
def PortSpec.Flat : PortSpec → Prop
  | .list specs => ∀ spec ∈ specs, ∀ inner, spec ≠ .list inner
  | _ => True

theorem foldl_digits (cs : List Char) :
    cs.foldl (fun n c => 10 * n + (c.toNat - 48)) 0 = Nat.ofDigits 10 (cs.reverse.map fun c => c.toNat - 48) := by
  induction cs using List.reverseRecOn with
  | nil => rfl
  | append_singleton cs c ih =>
    rw [List.foldl_append, List.foldl_cons, List.foldl_nil, ih, List.reverse_append, List.map_append]
    simp [Nat.ofDigits_cons, Nat.add_comm]

/-- What `parseUnsigned` does with the digits. -/
theorem digits_iff {bound n : Nat} {digits : List Char} :
    (if digits.isEmpty || !digits.all Char.isDigit then none
      else
        let value := digits.foldl (fun n c => 10 * n + (c.toNat - 48)) 0
        if value < bound then some value else none) = some n ↔ Decimal digits n ∧ n < bound := by
  rw [foldl_digits]
  constructor
  · intro h
    split at h
    next => cases h
    next hdigits =>
      simp only [Bool.or_eq_true, List.isEmpty_iff, Bool.not_eq_true', not_or, Bool.not_eq_false, List.all_eq_true] at hdigits
      dsimp only at h
      split at h
      next hmax =>
        cases h
        exact ⟨⟨hdigits.1, hdigits.2, rfl⟩, hmax⟩
      next => cases h
  · rintro ⟨⟨hne, hdigits, hvalue⟩, hmax⟩
    rw [if_neg (by simp [hne]; exact hdigits), ← hvalue]
    exact if_pos hmax

theorem parseUnsigned_iff {bound n : Nat} {cs : List Char} :
    parseUnsigned bound cs = some n ↔ PlusDecimal cs n ∧ n < bound := by
  unfold parseUnsigned PlusDecimal
  split
  next rest =>
    rw [digits_iff]
    constructor
    · exact fun h => ⟨.inr ⟨rest, rfl, h.1⟩, h.2⟩
    · rintro ⟨h | ⟨digits, hdigits, h⟩, hmax⟩
      · exact absurd (h.digits '+' List.mem_cons_self) (by decide)
      · cases hdigits
        exact ⟨h, hmax⟩
  next hplus =>
    rw [digits_iff]
    constructor
    · exact fun h => ⟨.inl h.1, h.2⟩
    · rintro ⟨h | ⟨digits, rfl, -⟩, hmax⟩
      · exact ⟨h, hmax⟩
      · exact absurd rfl (hplus digits)

theorem parseU16_iff {cs : List Char} {value : UInt16} : parseU16 cs = some value ↔ PlusDecimal cs value.toNat := by
  rw [parseU16, Option.map_eq_some_iff]
  constructor
  · rintro ⟨n, hn, rfl⟩
    obtain ⟨h, hmax⟩ := parseUnsigned_iff.mp hn
    rwa [UInt16.toNat_ofNat', Nat.mod_eq_of_lt hmax]
  · intro h
    exact ⟨value.toNat, parseUnsigned_iff.mpr ⟨h, value.toNat_lt⟩, UInt16.ofNat_toNat⟩

theorem fromName_iff {s : String} {keyword : DynamicKeyword} :
    DynamicKeyword.fromName s = some keyword ↔
      s.toList.map Char.toLower = keyword.canonicalName.toList.map Char.toLower := by
  have lowered : (toAsciiLowercase s).toList = s.toList.map Char.toLower := String.toList_ofList
  rw [← lowered]
  unfold DynamicKeyword.fromName
  constructor
  · intro h
    split at h
    next heq => cases h; rw [heq]; rfl
    next heq => cases h; rw [heq]; rfl
    next heq => cases h; rw [heq]; rfl
    next heq => cases h; rw [heq]; rfl
    next heq => cases h; rw [heq]; rfl
    next heq => cases h; rw [heq]; rfl
    next => cases h
  · intro h
    have same : toAsciiLowercase s = String.ofList (keyword.canonicalName.toList.map Char.toLower) := by
      rw [← h, String.ofList_toList]
    rw [same]
    cases keyword <;> rfl

theorem mem_trimChars {cs : List Char} {c : Char} (hc : isWhitespace c = false) (h : c ∈ cs) : c ∈ trimChars cs := by
  obtain ⟨before, after, hsplit, hbefore, hafter⟩ := trimChars_split cs
  rw [hsplit] at h
  rcases List.mem_append.mp h with h | h
  · rcases List.mem_append.mp h with h | h
    · simp [hbefore c h] at hc
    · exact h
  · simp [hafter c h] at hc

theorem PlusDecimal.ne_nil {cs : List Char} {n : Nat} (h : PlusDecimal cs n) : cs ≠ [] := by
  rcases h with h | ⟨digits, rfl, -⟩
  · exact h.nonempty
  · exact List.cons_ne_nil _ _

theorem PlusDecimal.mem {cs : List Char} {n : Nat} (h : PlusDecimal cs n) : ∀ c ∈ cs, c.isDigit = true ∨ c = '+' := by
  rcases h with h | ⟨digits, rfl, h⟩
  · exact fun c hc => .inl (h.digits c hc)
  · intro c hc
    rcases List.mem_cons.mp hc with rfl | hc
    · exact .inr rfl
    · exact .inl (h.digits c hc)

theorem PlusDecimal.not_mem {cs : List Char} {n : Nat} (h : PlusDecimal cs n) {c : Char} (hdigit : c.isDigit = false)
    (hplus : c ≠ '+') : c ∉ cs := by
  intro hc
  rcases h.mem c hc with hd | hp
  · simp [hd] at hdigit
  · exact hplus hp

/-- A text with a sign or a digit in it is not a word. -/
theorem lowered_ne {cs word : List Char} {c : Char} (hc : c ∈ cs) (low : c.toNat < 65)
    (letters : ∀ w ∈ word, 97 ≤ w.toNat) : cs.map Char.toLower ≠ word := by
  rintro rfl
  have kept : c.toLower = c := by
    unfold Char.toLower
    rw [dif_neg]
    rintro ⟨hcapital, -⟩
    have : 65 ≤ c.toNat := UInt32.le_iff_toNat_le.mp hcapital
    omega
  have high := letters c.toLower (List.mem_map_of_mem hc)
  rw [kept] at high
  omega

theorem letters_any : ∀ w ∈ "any".toList, 97 ≤ w.toNat := by simp

theorem letters_canonicalName (keyword : DynamicKeyword) :
    ∀ w ∈ keyword.canonicalName.toList.map Char.toLower, 97 ≤ w.toNat := by
  cases keyword <;> simp [DynamicKeyword.canonicalName]

theorem parseRange_ok_iff {start stop original : List Char} {spec : PortSpec} :
    parseRange start stop original = .ok spec ↔
      ∃ bounds : PortRange, spec = .range bounds ∧ PlusDecimal (trimChars start) bounds.start.toNat ∧
        PlusDecimal (trimChars stop) bounds.stop.toNat := by
  simp only [← parseU16_iff, parseRange]
  constructor
  · intro h
    split at h
    next a b ha hb =>
      unfold PortRange.tryFrom at h
      split at h
      next valid =>
        cases h
        exact ⟨⟨a, b, valid.1, valid.2.1, valid.2.2⟩, rfl, ha, hb⟩
      next => cases h
    next => cases h
  · rintro ⟨bounds, rfl, ha, hb⟩
    simp only [ha, hb, PortRange.tryFrom]
    rw [dif_pos ⟨bounds.start_ne, bounds.stop_ne, bounds.start_le⟩]
    rfl

theorem PortRange.denotes (bounds : PortRange) {before after : List Char}
    (ha : PlusDecimal (trimChars before) bounds.start.toNat) (hb : PlusDecimal (trimChars after) bounds.stop.toNat) :
    MemberDenotes PlusDecimal (before ++ '-' :: after) (Set.Icc bounds.start.toNat bounds.stop.toNat) := by
  have positive : bounds.start.toNat ≠ 0 := fun h => bounds.start_ne (UInt16.toNat_inj.mp h)
  have below := bounds.stop.toNat_lt
  exact .range ha hb (Nat.one_le_iff_ne_zero.mpr positive) (UInt16.le_iff_toNat_le.mp bounds.start_le) (by omega)

theorem PortRange.matches_iff (bounds : PortRange) (port : Port) :
    (PortSpec.range bounds).matches port = true ↔ port.get.toNat ∈ Set.Icc bounds.start.toNat bounds.stop.toNat := by
  simp only [PortSpec.matches, PortRange.contains, Bool.and_eq_true, decide_eq_true_eq, UInt16.le_iff_toNat_le, Set.mem_Icc]

theorem Port.matches_iff (own port : Port) :
    (PortSpec.single own).matches port = true ↔ port.get.toNat ∈ ({own.get.toNat} : Set Nat) := by
  rw [PortSpec.matches, beq_iff_eq, Set.mem_singleton_iff, eq_comm, UInt16.toNat_inj]
  cases own
  cases port
  simp

/-- What a member parses to covers what it denotes, and is no list. -/
theorem fromScalar_denotes {text : String} {spec : PortSpec} (h : PortSpec.fromScalar text = .ok spec) :
    ∃ ports, MemberDenotes PlusDecimal (trimChars text.toList) ports ∧
      (∀ port, spec.matches port = true ↔ port.get.toNat ∈ ports) ∧ ∀ inner, spec ≠ .list inner := by
  have trimmed : (trim text).toList = trimChars text.toList := String.toList_ofList
  unfold PortSpec.fromScalar at h
  dsimp only at h
  split at h
  next => cases h
  next hne =>
  split at h
  next hany =>
    cases h
    refine ⟨Set.univ, ?_, fun port => iff_of_true rfl trivial, nofun⟩
    simp only [Bool.or_eq_true, decide_eq_true_eq, eqIgnoreAsciiCase_iff, trimmed] at hany
    rcases hany with hstar | hany
    · rw [← trimmed, hstar]
      exact .star
    · exact .any hany
  next =>
  split at h
  next before after hsplit =>
    obtain ⟨hparts, -⟩ := splitOnce_eq_some.mp hsplit
    obtain ⟨bounds, rfl, ha, hb⟩ := parseRange_ok_iff.mp h
    rw [← trimmed, hparts]
    exact ⟨_, bounds.denotes ha hb, bounds.matches_iff, nofun⟩
  next =>
  split at h
  next keyword hkeyword =>
    cases h
    rw [fromName_iff, trimmed] at hkeyword
    exact ⟨Set.univ, .dynamic keyword hkeyword, fun port => iff_of_true rfl trivial, nofun⟩
  next =>
  split at h
  next value hvalue =>
    rw [parseU16_iff, trimmed] at hvalue
    unfold Port.tryFrom at h
    split at h
    next => cases h
    next hzero =>
      cases h
      have positive : value.toNat ≠ 0 := fun h => hzero (UInt16.toNat_inj.mp h)
      have below := value.toNat_lt
      exact ⟨{value.toNat}, .port hvalue (Nat.one_le_iff_ne_zero.mpr positive) (by omega), Port.matches_iff ⟨value⟩, nofun⟩
  next => cases h

theorem toNat_ofNat_u16 {n : Nat} (h : n ≤ 65535) : (UInt16.ofNat n).toNat = n := by
  rw [UInt16.toNat_ofNat', Nat.mod_eq_of_lt (by omega)]

theorem ofNat_u16_ne_zero {n : Nat} (hpos : 1 ≤ n) (hmax : n ≤ 65535) : UInt16.ofNat n ≠ 0 := by
  intro h
  have fits := toNat_ofNat_u16 hmax
  rw [h] at fits
  simp at fits
  omega

section

variable {text : String} {cs : List Char} (hcs : trimChars text.toList = cs)

include hcs

/-- A text that is not empty, a star or the word goes on to the dash. -/
theorem trim_plain (hne : cs ≠ []) (hstar : cs ≠ ['*']) (hany : cs.map Char.toLower ≠ "any".toList) :
    trim text ≠ "" ∧ trim text ≠ "*" ∧ eqIgnoreAsciiCase (trim text) "any" = false := by
  have trimmed : (trim text).toList = cs := by rw [← hcs, trim, String.toList_ofList]
  refine ⟨fun h => hne (by rw [← trimmed, h]; rfl), fun h => hstar (by rw [← trimmed, h]; rfl), ?_⟩
  rw [← Bool.not_eq_true, eqIgnoreAsciiCase_iff, trimmed]
  exact hany

theorem fromScalar_port {n : Nat} (hn : PlusDecimal cs n) (hpos : 1 ≤ n) (hmax : n ≤ 65535) :
    PortSpec.fromScalar text = .ok (.single ⟨UInt16.ofNat n⟩) := by
  have trimmed : (trim text).toList = cs := by rw [← hcs, trim, String.toList_ofList]
  obtain ⟨c, hc, low⟩ : ∃ c ∈ cs, c.toNat < 65 := by
    obtain ⟨c, hc⟩ := List.exists_mem_of_ne_nil cs hn.ne_nil
    refine ⟨c, hc, ?_⟩
    rcases hn.mem c hc with hdigit | rfl
    · simp only [Char.isDigit, Bool.and_eq_true, decide_eq_true_eq] at hdigit
      have : c.toNat ≤ 57 := UInt32.le_iff_toNat_le.mp hdigit.2
      omega
    · decide
  have noStar : cs ≠ ['*'] := by
    rintro rfl
    exact hn.not_mem (c := '*') (by decide) (by decide) List.mem_cons_self
  have noDash : splitOnce '-' cs = none := by
    rw [splitOnce, if_neg (hn.not_mem (by decide) (by decide))]
  have noKeyword : DynamicKeyword.fromName (trim text) = none := by
    rw [Option.eq_none_iff_forall_ne_some]
    intro keyword hkeyword
    rw [fromName_iff, trimmed] at hkeyword
    exact lowered_ne hc low (letters_canonicalName keyword) hkeyword
  have value : parseU16 cs = some (UInt16.ofNat n) := parseU16_iff.mpr ((toNat_ofNat_u16 hmax).symm ▸ hn)
  obtain ⟨nonempty, star, any⟩ := trim_plain hcs hn.ne_nil noStar (lowered_ne hc low letters_any)
  simp only [PortSpec.fromScalar, nonempty, star, any, trimmed, noDash, noKeyword, value, Port.tryFrom,
    ofNat_u16_ne_zero hpos hmax, decide_false, Bool.or_self, if_false, Bool.false_eq_true]
  rfl

theorem fromScalar_range {before after : List Char} {spec : PortSpec} (hparts : cs = before ++ '-' :: after)
    (outside : '-' ∉ before) (read : parseRange before after cs = .ok spec) : PortSpec.fromScalar text = .ok spec := by
  have trimmed : (trim text).toList = cs := by rw [← hcs, trim, String.toList_ofList]
  have dash : '-' ∈ cs := by simp [hparts]
  have noStar : cs ≠ ['*'] := by
    rintro rfl
    simp at dash
  have split : splitOnce '-' cs = some (before, after) := splitOnce_eq_some.mpr ⟨hparts, outside⟩
  obtain ⟨nonempty, star, any⟩ :=
    trim_plain hcs (List.ne_nil_of_mem dash) noStar (lowered_ne dash (by decide) letters_any)
  simp only [PortSpec.fromScalar, nonempty, star, any, trimmed, split, read, decide_false, Bool.or_self, if_false,
    Bool.false_eq_true]

theorem fromScalar_dynamic (keyword : DynamicKeyword)
    (hkeyword : cs.map Char.toLower = keyword.canonicalName.toList.map Char.toLower) :
    PortSpec.fromScalar text = .ok (.dynamic keyword) := by
  have trimmed : (trim text).toList = cs := by rw [← hcs, trim, String.toList_ofList]
  have letters : ∀ c ∈ cs, 97 ≤ c.toLower.toNat := by
    intro c hc
    exact letters_canonicalName keyword _ (hkeyword ▸ List.mem_map_of_mem hc)
  have noStar : cs ≠ ['*'] := by
    rintro rfl
    exact absurd (letters '*' (by simp)) (by decide)
  have hne : cs ≠ [] := by
    rintro rfl
    cases keyword <;> cases hkeyword
  have noAny : cs.map Char.toLower ≠ "any".toList := by
    rw [hkeyword]
    cases keyword <;> simp [DynamicKeyword.canonicalName]
  have noDash : splitOnce '-' cs = none := by
    rw [splitOnce, if_neg fun hmem => absurd (letters '-' hmem) (by decide)]
  have word : DynamicKeyword.fromName (trim text) = some keyword := by rw [fromName_iff, trimmed, hkeyword]
  obtain ⟨nonempty, star, any⟩ := trim_plain hcs hne noStar noAny
  simp only [PortSpec.fromScalar, nonempty, star, any, trimmed, noDash, word, decide_false, Bool.or_self, if_false,
    Bool.false_eq_true]

end

/-- What a member denotes, it parses to. -/
theorem MemberDenotes.fromScalar {text : String} {ports : Set Nat}
    (h : MemberDenotes PlusDecimal (trimChars text.toList) ports) :
    ∃ spec, PortSpec.fromScalar text = .ok spec ∧ ∀ port, spec.matches port = true ↔ port.get.toNat ∈ ports := by
  have trimmed : (trim text).toList = trimChars text.toList := String.toList_ofList
  generalize hcs : trimChars text.toList = cs at h
  cases h with
  | star =>
    have word : trim text = "*" := by rw [← String.ofList_toList (s := trim text), trimmed, hcs]
    exact ⟨.any, by simp [PortSpec.fromScalar, word], fun port => iff_of_true rfl trivial⟩
  | any hany =>
    have word : eqIgnoreAsciiCase (trim text) "any" = true := by
      rw [eqIgnoreAsciiCase_iff, trimmed, hcs, hany]
      rfl
    have nonempty : trim text ≠ "" := by
      intro hempty
      simp [hempty, eqIgnoreAsciiCase] at word
    exact ⟨.any, by simp [PortSpec.fromScalar, word, nonempty], fun port => iff_of_true rfl trivial⟩
  | port hn hpos hmax =>
    refine ⟨_, fromScalar_port hcs hn hpos hmax, fun port => ?_⟩
    rw [Port.matches_iff, toNat_ofNat_u16 hmax]
  | @range before after a b ha hb hpos hle hmax =>
    have outside : '-' ∉ before := fun hmem => ha.not_mem (by decide) (by decide) (mem_trimChars (by decide) hmem)
    have fitsA := toNat_ofNat_u16 (hle.trans hmax)
    have fitsB := toNat_ofNat_u16 hmax
    have ordered : UInt16.ofNat a ≤ UInt16.ofNat b := by
      rw [UInt16.le_iff_toNat_le, fitsA, fitsB]
      exact hle
    let bounds : PortRange := ⟨.ofNat a, .ofNat b, ofNat_u16_ne_zero hpos (hle.trans hmax),
      ofNat_u16_ne_zero (hpos.trans hle) hmax, ordered⟩
    have read : parseRange before after (before ++ '-' :: after) = .ok (.range bounds) :=
      parseRange_ok_iff.mpr ⟨bounds, rfl, by rwa [fitsA], by rwa [fitsB]⟩
    refine ⟨_, fromScalar_range hcs rfl outside read, fun port => ?_⟩
    rw [bounds.matches_iff, fitsA, fitsB]
  | dynamic keyword hkeyword =>
    exact ⟨_, fromScalar_dynamic hcs keyword hkeyword, fun port => iff_of_true rfl trivial⟩

/-- A member holds no comma. -/
theorem MemberDenotes.no_comma {part : List Char} {ports : Set Nat}
    (h : MemberDenotes PlusDecimal (trimChars part) ports) : ',' ∉ part := by
  intro hmem
  have inside := mem_trimChars (by decide) hmem
  generalize trimChars part = cs at h inside
  cases h with
  | star => simp at inside
  | any hany => exact lowered_ne inside (by decide) letters_any hany
  | port hn => exact hn.not_mem (by decide) (by decide) inside
  | range ha hb =>
    rcases List.mem_append.mp inside with hbefore | hafter
    · exact ha.not_mem (by decide) (by decide) (mem_trimChars (by decide) hbefore)
    · rcases List.mem_cons.mp hafter with hdash | hafter
      · cases hdash
      · exact hb.not_mem (by decide) (by decide) (mem_trimChars (by decide) hafter)
  | dynamic keyword hkeyword => exact lowered_ne inside (by decide) (letters_canonicalName keyword) hkeyword

theorem PortSpec.members_eq (text : String) :
    PortSpec.members text = ((trimChars text.toList).splitOn ',').map fun part => String.ofList (trimChars part) := by
  rw [← PortSpec.members_trim]
  simp [PortSpec.members, trim, Function.comp_def]

theorem TextDenotes.members {text : String} {parts : List (List Char × Set Nat)} (hne : parts ≠ [])
    (htext : trimChars text.toList = [','].intercalate (parts.map Prod.fst))
    (each : ∀ part ∈ parts, MemberDenotes PlusDecimal (trimChars part.1) part.2) :
    PortSpec.members text = parts.map fun part => String.ofList (trimChars part.1) := by
  have apart : ∀ piece ∈ parts.map Prod.fst, ',' ∉ piece := by
    intro piece hpiece
    obtain ⟨part, hpart, rfl⟩ := List.mem_map.mp hpiece
    exact (each part hpart).no_comma
  rw [PortSpec.members_eq, htext, List.splitOn_intercalate ',' apart (by simpa using hne), List.map_map]
  rfl

section

variable {text : String} {spec : PortSpec} {ports : Set Nat}

/-- A member, cut out and trimmed, denotes what it does in the text. -/
theorem fromScalar_part {part : List Char} (h : MemberDenotes PlusDecimal (trimChars part) ports) :
    ∃ spec, PortSpec.fromScalar (String.ofList (trimChars part)) = .ok spec ∧
      ∀ port, spec.matches port = true ↔ port.get.toNat ∈ ports :=
  MemberDenotes.fromScalar (by rwa [String.toList_ofList, trimChars_trimChars])

theorem TextDenotes.parses (h : TextDenotes PlusDecimal text ports) : ∃ spec, PortSpec.fromStr text = .ok spec := by
  obtain ⟨parts, hne, htext, each, -⟩ := h
  rw [fromStr_parses, TextDenotes.members hne htext each]
  intro member hmember
  obtain ⟨part, hpart, rfl⟩ := List.mem_map.mp hmember
  obtain ⟨spec, hspec, -⟩ := fromScalar_part (each part hpart)
  exact ⟨spec, hspec⟩

theorem TextDenotes.matches_iff (h : TextDenotes PlusDecimal text ports) (hspec : PortSpec.fromStr text = .ok spec)
    (port : Port) : spec.matches port = true ↔ port.get.toNat ∈ ports := by
  obtain ⟨parts, hne, htext, each, rfl⟩ := h
  rw [fromStr_matches hspec, TextDenotes.members hne htext each]
  constructor
  · rintro ⟨member, hmember, s, hs, hmatches⟩
    obtain ⟨part, hpart, rfl⟩ := List.mem_map.mp hmember
    obtain ⟨own, hown, hports⟩ := fromScalar_part (each part hpart)
    cases Except.ok.inj (hown.symm.trans hs)
    exact ⟨part, hpart, (hports port).mp hmatches⟩
  · rintro ⟨part, hpart, hmem⟩
    obtain ⟨own, hown, hports⟩ := fromScalar_part (each part hpart)
    exact ⟨_, List.mem_map_of_mem hpart, own, hown, (hports port).mpr hmem⟩

/-- What parses is written in the grammar. -/
theorem textDenotes_of_parses (h : PortSpec.fromStr text = .ok spec) : ∃ ports, TextDenotes PlusDecimal text ports := by
  have each : ∀ part ∈ (trimChars text.toList).splitOn ',', ∃ ports, MemberDenotes PlusDecimal (trimChars part) ports := by
    intro part hpart
    have member : String.ofList (trimChars part) ∈ PortSpec.members text := by
      rw [PortSpec.members_eq]
      exact List.mem_map_of_mem hpart
    obtain ⟨own, hown⟩ := fromStr_parses.mp ⟨spec, h⟩ _ member
    obtain ⟨ports, hports, -⟩ := fromScalar_denotes hown
    rw [String.toList_ofList, trimChars_trimChars] at hports
    exact ⟨ports, hports⟩
  choose! denoted hdenoted using each
  refine ⟨_, ((trimChars text.toList).splitOn ',').map fun part => (part, denoted part), ?_, ?_, ?_, rfl⟩
  · simp
  · rw [List.map_map]
    simp [Function.comp_def, List.intercalate_splitOn]
  · intro part hpart
    obtain ⟨piece, hpiece, rfl⟩ := List.mem_map.mp hpart
    exact hdenoted piece hpiece

theorem fromStr_flat (h : PortSpec.fromStr text = .ok spec) : spec.Flat := by
  unfold PortSpec.fromStr at h
  split at h
  next =>
    cases hspecs : ((trim text).toList.splitOn ',').mapM fun part => PortSpec.fromScalar (trim (String.ofList part)) with
    | error e => simp [hspecs, Except.map] at h
    | ok specs =>
      rw [hspecs] at h
      cases h
      have scalars := (mapM_eq_ok_iff.mp hspecs).flip.imp fun own part hpart =>
        (⟨(fromScalar_denotes hpart).choose_spec.2.2, hpart⟩ : (∀ inner, own ≠ .list inner) ∧ _)
      exact ((List.forall₂_and_left _ _).mp scalars).1
  next =>
    obtain ⟨_, _, _, scalar⟩ := fromScalar_denotes h
    cases spec with
    | list specs => exact absurd rfl (scalar specs)
    | any => trivial
    | single => trivial
    | range => trivial
    | dynamic => trivial

end

/-- The reader accepts the grammar and nothing else, never nests a list, and
covers exactly the ports that a text denotes. -/
theorem fromStr_grammar (text : String) :
    ((∃ spec, PortSpec.fromStr text = .ok spec) ↔ ∃ ports, TextDenotes PlusDecimal text ports) ∧
    ∀ spec, PortSpec.fromStr text = .ok spec → spec.Flat ∧
      ∀ ports, TextDenotes PlusDecimal text ports → ∀ port, spec.matches port = true ↔ port.get.toNat ∈ ports :=
  ⟨⟨fun ⟨_, h⟩ => textDenotes_of_parses h, fun ⟨_, h⟩ => h.parses⟩,
    fun _ hspec => ⟨fromStr_flat hspec, fun _ h => h.matches_iff hspec⟩⟩

theorem MemberDenotes.mono {p q : List Char → Nat → Prop} (h : ∀ cs n, p cs n → q cs n) {cs : List Char}
    {ports : Set Nat} (denotes : MemberDenotes p cs ports) : MemberDenotes q cs ports := by
  cases denotes with
  | star => exact .star
  | any hany => exact .any hany
  | port hn hpos hmax => exact .port (h _ _ hn) hpos hmax
  | range ha hb hpos hle hmax => exact .range (h _ _ ha) (h _ _ hb) hpos hle hmax
  | dynamic keyword hkeyword => exact .dynamic keyword hkeyword

/-- A sign in front of a port is accepted, though a port of digits alone has none. -/
theorem fromStr_grammar_counterexample :
    PortSpec.fromStr "+80" = .ok (.single ⟨80⟩) ∧ ¬∃ ports, TextDenotes Decimal "+80" ports := by
  refine ⟨by decide +kernel, ?_⟩
  rintro ⟨_, parts, hne, htext, each, rfl⟩
  have members := TextDenotes.members hne htext fun part hpart => (each part hpart).mono fun _ _ => .inl
  rw [show PortSpec.members "+80" = [String.ofList ['+', '8', '0']] by decide +kernel] at members
  match parts with
  | [] => exact hne rfl
  | part :: parts =>
    have own : ['+', '8', '0'] = trimChars part.1 := String.ofList_injective (List.cons.inj members).1
    have denotes := each part List.mem_cons_self
    rw [← own] at denotes
    generalize hcs : ['+', '8', '0'] = cs at denotes
    generalize part.2 = ports at denotes
    have plus : '+' ∈ cs := hcs ▸ List.mem_cons_self
    cases denotes with
    | star => cases hcs
    | any hany => exact lowered_ne plus (by decide) letters_any hany
    | port hn => exact absurd (hn.digits '+' plus) (by decide)
    | @range before after _ _ ha =>
      have dash : '-' ∈ ['+', '8', '0'] := hcs ▸ by simp
      exact absurd dash (by decide)
    | dynamic keyword hkeyword => exact lowered_ne plus (by decide) (letters_canonicalName keyword) hkeyword

end AnneDeBreuil
