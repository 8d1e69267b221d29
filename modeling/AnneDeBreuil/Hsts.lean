import AnneDeBreuil.Paired
import AnneDeBreuil.PortGrammar
import AnneDeBreuil.ProbeEvidence

namespace AnneDeBreuil

/-- A directive, with a value or without, by its name in any letter case. -/
def DirectiveNamed (name : String) (part : List Char) : Prop :=
  ∃ written, (part = written ∨ ∃ value, part = written ++ '=' :: value) ∧
    (trimChars written).map Char.toLower = name.toList

/-- A `max-age` directive, whose number may stand between quotes. -/
def MaxAge (part : List Char) (seconds : Nat) : Prop :=
  ∃ written value digits, part = written ++ '=' :: value ∧ (trimChars written).map Char.toLower = "max-age".toList ∧
    (trimChars value = digits ∨ trimChars value = '"' :: digits ++ ['"']) ∧ Decimal digits seconds

def IncludesSubDomains (value : String) : Prop := ∃ part ∈ value.toList.splitOn ';', DirectiveNamed "includesubdomains" part

def LongMaxAge (value : String) : Prop :=
  ∃ part ∈ value.toList.splitOn ';', ∃ seconds, MaxAge part seconds ∧ weakMaxAgeThresholdSeconds ≤ seconds

/-- What a header has to say not to be weak. -/
def HstsStrong (value : String) : Prop := IncludesSubDomains value ∧ LongMaxAge value

/-- The first part that begins with `max-age=`, in these letters, and what stands behind that. -/
def FirstSpelt (value : String) (text : List Char) : Prop :=
  ∃ before part after, value.toList.splitOn ';' = before ++ part :: after ∧ trimChars part = "max-age=".toList ++ text ∧
    ∀ earlier ∈ before, ¬"max-age=".toList <+: trimChars earlier

/-- The text is a number below the threshold, as `parse` reads numbers. -/
def ReadsShort (text : List Char) : Prop := ∃ n, PlusDecimal (trimChars text) n ∧ n < weakMaxAgeThresholdSeconds

/-- The headers that are judged wrongly. -/
inductive HstsMisread (value : String) : Prop
  /-- `includeSubDomains` stands in another directive. -/
  | mentioned {text : List Char} (mention : "includesubdomains".toList <:+: value.toList.map Char.toLower)
      (missing : ¬IncludesSubDomains value) (first : FirstSpelt value text) (passes : ¬ReadsShort text)
  /-- A `max-age` that is no number or a number between quotes. -/
  | unreadable {text : List Char} (directive : IncludesSubDomains value) (short : ¬LongMaxAge value)
      (first : FirstSpelt value text) (passes : ¬ReadsShort text)
  /-- A long `max-age` in capitals, or with a blank in front of the sign. -/
  | otherSpelling (directive : IncludesSubDomains value) (long : LongMaxAge value) (unspelt : ∀ text, ¬FirstSpelt value text)
  /-- A long `max-age` behind a short one. -/
  | later {text : List Char} (directive : IncludesSubDomains value) (long : LongMaxAge value) (first : FirstSpelt value text)
      (short : ReadsShort text)

section

variable {value : String} {text : List Char}

theorem stripPrefix_eq_some {cs front rest : List Char} : cs.dropPrefix? front = some rest ↔ cs = front ++ rest := by
  simp [List.dropPrefix?_eq_some_iff]

theorem findSome?_maxAge :
    ((value.toList.splitOn ';').findSome? fun part => (trimChars part).dropPrefix? "max-age=".toList) = some text ↔
      FirstSpelt value text := by
  have missing : ∀ part : List Char, (trimChars part).dropPrefix? "max-age=".toList = none ↔
      ¬"max-age=".toList <+: trimChars part := by
    intro part
    rw [Option.eq_none_iff_forall_ne_some]
    constructor
    · rintro none ⟨rest, whole⟩
      exact none rest (stripPrefix_eq_some.mpr whole.symm)
    · intro none rest found
      exact none ⟨rest, (stripPrefix_eq_some.mp found).symm⟩
  simp only [List.findSome?_eq_some_iff, missing, stripPrefix_eq_some, FirstSpelt]

theorem FirstSpelt.unique {text' : List Char} (h : FirstSpelt value text) (h' : FirstSpelt value text') : text = text' :=
  Option.some.inj ((findSome?_maxAge.mpr h).symm.trans (findSome?_maxAge.mpr h'))

/-- A number too large to be read is not a short one. -/
theorem readsShort_iff : ReadsShort text ↔
    ∃ age, parseUnsigned UInt64.size (trimChars text) = some age ∧ age < weakMaxAgeThresholdSeconds := by
  have threshold : weakMaxAgeThresholdSeconds < UInt64.size := by decide
  constructor
  · rintro ⟨n, numeral, short⟩
    exact ⟨n, parseUnsigned_iff.mpr ⟨numeral, short.trans threshold⟩, short⟩
  · rintro ⟨age, parsed, short⟩
    exact ⟨age, (parseUnsigned_iff.mp parsed).1, short⟩

theorem infix_intercalate {sep : Char} {part : List Char} {parts : List (List Char)} (h : part ∈ parts) :
    part <:+: [sep].intercalate parts := by
  induction parts with
  | nil => cases h
  | cons first parts ih =>
    cases parts with
    | nil =>
      rw [List.mem_singleton.mp h]
      simp
    | cons next rest =>
      rw [List.intercalate_cons_cons, List.append_assoc]
      rcases List.mem_cons.mp h with rfl | later
      · exact (List.prefix_append _ _).isInfix
      · exact ((ih later).trans (List.suffix_append _ _).isInfix).trans (List.suffix_append _ _).isInfix

theorem infix_of_mem_splitOn {sep : Char} {cs part : List Char} (h : part ∈ cs.splitOn sep) : part <:+: cs := by
  have within := @infix_intercalate sep _ _ h
  rwa [List.intercalate_splitOn] at within

theorem infix_trimChars (cs : List Char) : trimChars cs <:+: cs := by
  obtain ⟨before, after, hsplit, -, -⟩ := trimChars_split cs
  exact ⟨before, after, hsplit.symm⟩

/-- Where there is the directive there is the word. -/
theorem IncludesSubDomains.mention (h : IncludesSubDomains value) :
    "includesubdomains".toList <:+: value.toList.map Char.toLower := by
  obtain ⟨part, hpart, written, whole, name⟩ := h
  have within : written <:+: part := by
    rcases whole with rfl | ⟨rest, rfl⟩
    · exact List.infix_refl _
    · exact (List.prefix_append _ _).isInfix
  rw [← name]
  exact (((infix_trimChars written).trans within).trans (infix_of_mem_splitOn hpart)).map _

theorem hstsIsWeak_eq_false : hstsIsWeak value = false ↔
    "includesubdomains".toList <:+: value.toList.map Char.toLower ∧ ∃ text, FirstSpelt value text ∧ ¬ReadsShort text := by
  have lowered : (toAsciiLowercase value).toList = value.toList.map Char.toLower := String.toList_ofList
  rw [hstsIsWeak, lowered, ← strContains_iff]
  cases strContains (value.toList.map Char.toLower) "includesubdomains".toList with
  | false => simp
  | true =>
    rw [if_neg (by simp)]
    cases first : (value.toList.splitOn ';').findSome? fun part => (trimChars part).dropPrefix? "max-age=".toList with
    | none =>
      refine iff_of_false nofun ?_
      rintro ⟨-, text, spelt, -⟩
      rw [findSome?_maxAge.mpr spelt] at first
      cases first
    | some text =>
      have spelt := findSome?_maxAge.mp first
      have only : (∃ text, FirstSpelt value text ∧ ¬ReadsShort text) ↔ ¬ReadsShort text := by
        constructor
        · rintro ⟨other, same, passes⟩
          rwa [spelt.unique same]
        · exact fun passes => ⟨text, spelt, passes⟩
      rw [only, readsShort_iff]
      dsimp only
      cases parseUnsigned UInt64.size (trimChars text) with
      | none => simp
      | some age => simp

end

/-- A header is judged as it should be, unless it is of one of four kinds. -/
theorem hstsIsWeak_iff (value : String) : (hstsIsWeak value = false ↔ HstsStrong value) ↔ ¬HstsMisread value := by
  rw [hstsIsWeak_eq_false]
  constructor
  · rintro right (⟨mention, missing, first, passes⟩ | ⟨directive, short, first, passes⟩ | ⟨directive, long, unspelt⟩ |
      ⟨directive, long, first, short⟩)
    · exact missing (right.mp ⟨mention, _, first, passes⟩).1
    · exact short (right.mp ⟨directive.mention, _, first, passes⟩).2
    · obtain ⟨-, text, first, -⟩ := right.mpr ⟨directive, long⟩
      exact unspelt text first
    · obtain ⟨-, text, spelt, passes⟩ := right.mpr ⟨directive, long⟩
      exact passes (spelt.unique first ▸ short)
  · intro right
    constructor
    · rintro ⟨mention, text, first, passes⟩
      by_contra weak
      by_cases directive : IncludesSubDomains value
      · exact right (.unreadable directive (fun long => weak ⟨directive, long⟩) first passes)
      · exact right (.mentioned mention directive first passes)
    · rintro ⟨directive, long⟩
      by_cases spelt : ∃ text, FirstSpelt value text
      · obtain ⟨text, first⟩ := spelt
        exact ⟨directive.mention, text, first, fun short => right (.later directive long first short)⟩
      · exact absurd (.otherSpelling directive long fun text first => spelt ⟨text, first⟩) right

/-- No time at all, between quotes, passes for a strong header. -/
theorem hstsIsWeak_quoted :
    ¬(hstsIsWeak "max-age=\"0\"; includeSubDomains" = false ↔ HstsStrong "max-age=\"0\"; includeSubDomains") := by
  intro right
  have parts : "max-age=\"0\"; includeSubDomains".toList.splitOn ';' =
      ["max-age=\"0\"".toList, " includeSubDomains".toList] := by decide
  obtain ⟨-, part, hpart, seconds, ⟨written, text, digits, hsplit, name, quoted, number⟩, long⟩ := right.mp (by decide)
  rw [parts] at hpart
  simp only [List.mem_cons, List.not_mem_nil, or_false] at hpart
  have sign : '=' ∈ part := by
    rw [hsplit]
    simp
  rcases hpart with rfl | rfl
  · have outside : '=' ∉ written := by
      intro within
      have kept := List.mem_map_of_mem (f := Char.toLower) (mem_trimChars (by decide) within)
      rw [name] at kept
      revert kept
      decide
    obtain ⟨-, rfl⟩ := first_mark_unique outside (by decide : '=' ∉ "max-age".toList)
      (hsplit.symm.trans (by decide : "max-age=\"0\"".toList = "max-age".toList ++ '=' :: "\"0\"".toList))
    rcases quoted with rfl | inner
    · exact absurd (number.digits '"' (by decide)) (by decide)
    · have zero : digits = ['0'] := by
        have kept : trimChars "\"0\"".toList = '"' :: ['0'] ++ ['"'] := by decide
        rw [kept] at inner
        have tails := (List.cons.inj inner).2
        exact (List.append_cancel_right tails).symm
      rw [number.value, zero] at long
      revert long
      decide
  · revert sign
    decide

end AnneDeBreuil
