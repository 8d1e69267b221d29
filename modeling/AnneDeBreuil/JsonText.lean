import AnneDeBreuil.SerdeJson
import AnneDeBreuil.Substring
import Mathlib.Data.Nat.Digits.Defs

namespace AnneDeBreuil

/-- A piece of printed JSON. -/
inductive JsonToken where
  | null
  | bool (value : Bool)
  | int (value : Int)
  | float
  | str (text : String)
  | beginArray
  | endArray
  | beginObject
  | endObject
  | comma
  | colon

def lowerHexDigit (n : Nat) : Char := Nat.digitChar (n % 16)

/-- A character between the quotes of a JSON string. -/
def escapeChar (c : Char) : List Char :=
  if c = '"' then ['\\', '"']
  else if c = '\\' then ['\\', '\\']
  else if c = Char.ofNat 8 then ['\\', 'b']
  else if c = Char.ofNat 12 then ['\\', 'f']
  else if c = '\n' then ['\\', 'n']
  else if c = '\r' then ['\\', 'r']
  else if c = '\t' then ['\\', 't']
  else if c.toNat < 32 then ['\\', 'u', '0', '0', lowerHexDigit (c.toNat / 16), lowerHexDigit c.toNat]
  else [c]

/-- The text of a piece. The digits of a float are not kept, and stand here as zero. -/
def JsonToken.text : JsonToken → List Char
  | null => ['n', 'u', 'l', 'l']
  | bool true => ['t', 'r', 'u', 'e']
  | bool false => ['f', 'a', 'l', 's', 'e']
  | int (.ofNat n) => Nat.toDigits 10 n
  | int (.negSucc n) => '-' :: Nat.toDigits 10 (n + 1)
  | float => ['0', '.', '0']
  | str text => '"' :: text.toList.flatMap escapeChar ++ ['"']
  | beginArray => ['[']
  | endArray => [']']
  | beginObject => ['{']
  | endObject => ['}']
  | comma => [',']
  | colon => [':']

mutual

/-- What `serde_json` writes for a value, without blanks. -/
def Json.tokens : Json → List JsonToken
  | .null => [.null]
  | .bool value => [.bool value]
  | .int value => [.int value]
  | .float => [.float]
  | .str text => [.str text]
  | .arr items => .beginArray :: Json.itemTokens true items ++ [.endArray]
  | .obj members => .beginObject :: Json.memberTokens true members ++ [.endObject]

def Json.itemTokens (first : Bool) : List Json → List JsonToken
  | [] => []
  | item :: items => (if first then [] else [.comma]) ++ item.tokens ++ Json.itemTokens false items

def Json.memberTokens (first : Bool) : List (String × Json) → List JsonToken
  | [] => []
  | (name, value) :: members =>
    (if first then [] else [.comma]) ++ .str name :: .colon :: value.tokens ++ Json.memberTokens false members

end

def Json.print (v : Json) : String := String.ofList (v.tokens.flatMap JsonToken.text)

/-- The strings of a value: its members' names and its texts. -/
def Json.strings (v : Json) : List String :=
  v.tokens.filterMap fun
    | .str text => some text
    | _ => none

example : (Json.obj [("a", .arr [.int (-5), .null]), ("b\n", .str "\"x")]).print = "\x7b\"a\":[-5,null],\"b\\n\":\"\\\"x\"\x7d" := by
  decide

/-- A text that printing keeps: it begins with a capital letter, and no character
of it is written by an escape. -/
structure Printable (first : Char) (rest : List Char) : Prop where
  begins : first.isUpper = true
  plain : ∀ c ∈ first :: rest, c ≠ '"' ∧ c ≠ '\\' ∧ 32 ≤ c.toNat

theorem Printable.of_all {first : Char} {rest : List Char} (begins : first.isUpper = true)
    (plain : (first :: rest).all (fun c => c ≠ '"' && c ≠ '\\' && 32 ≤ c.toNat) = true) : Printable first rest := by
  refine ⟨begins, fun c hc => ?_⟩
  have own := List.all_eq_true.mp plain c hc
  simp only [Bool.and_eq_true, decide_eq_true_eq] at own
  exact ⟨own.1.1, own.1.2, own.2⟩

theorem lowerHexDigit_not_upper (n : Nat) : (lowerHexDigit n).isUpper = false := by
  have digits : ∀ k < 16, (Nat.digitChar k).isUpper = false := by decide
  exact digits (n % 16) (Nat.mod_lt n (by decide))

theorem escapeChar_cases (c : Char) : escapeChar c = [c] ∨
    (c = '"' ∨ c = '\\' ∨ c.toNat < 32) ∧ ∃ more, escapeChar c = '\\' :: more ∧ ∀ d ∈ more, d.isUpper = false := by
  by_cases quote : c = '"'
  · exact .inr ⟨.inl quote, ['"'], by rw [quote]; rfl, by simp⟩
  by_cases backslash : c = '\\'
  · exact .inr ⟨.inr (.inl backslash), ['\\'], by rw [backslash]; rfl, by simp⟩
  by_cases control : c.toNat < 32
  · refine .inr ⟨.inr (.inr control), ?_⟩
    rw [escapeChar, if_neg quote, if_neg backslash]
    split
    next => exact ⟨['b'], rfl, by simp⟩
    next =>
    split
    next => exact ⟨['f'], rfl, by simp⟩
    next =>
    split
    next => exact ⟨['n'], rfl, by simp⟩
    next =>
    split
    next => exact ⟨['r'], rfl, by simp⟩
    next =>
    split
    next => exact ⟨['t'], rfl, by simp⟩
    next =>
    refine ⟨['u', '0', '0', lowerHexDigit (c.toNat / 16), lowerHexDigit c.toNat], rfl, ?_⟩
    intro d hd
    simp only [List.mem_cons, List.not_mem_nil, or_false] at hd
    rcases hd with rfl | rfl | rfl | rfl | rfl
    · decide
    · decide
    · decide
    · exact lowerHexDigit_not_upper _
    · exact lowerHexDigit_not_upper _
  · refine .inl ?_
    have above : ∀ d : Char, d.toNat < 32 → c ≠ d := fun d hd h => control (h ▸ hd)
    rw [escapeChar, if_neg quote, if_neg backslash, if_neg (above _ (by decide)), if_neg (above _ (by decide)),
      if_neg (above _ (by decide)), if_neg (above _ (by decide)), if_neg (above _ (by decide)), if_neg control]

section

variable {first : Char} {rest : List Char}

theorem escapesApart (printable : Printable first rest) : EscapesApart escapeChar first rest := by
  intro c
  refine (escapeChar_cases c).imp_right ?_
  rintro ⟨special, more, hescape, lower⟩
  have hc : c ∉ first :: rest := by
    intro h
    obtain ⟨quote, backslash, visible⟩ := printable.plain c h
    rcases special with hquote | hbackslash | hcontrol
    · exact quote hquote
    · exact backslash hbackslash
    · omega
  have hmark : '\\' ∉ first :: rest := fun h => (printable.plain _ h).2.1 rfl
  refine ⟨hc, '\\', more, hescape, hmark, ?_⟩
  intro h
  rcases List.mem_cons.mp h with rfl | h
  · exact hmark List.mem_cons_self
  · have upper := printable.begins
    rw [lower first h] at upper
    cases upper

/-- Outside its strings, printed JSON has no capital letter. -/
theorem JsonToken.text_cases (printable : Printable first rest) (token : JsonToken) :
    (∃ text, token = .str text) ∨ first ∉ token.text := by
  have missing : ∀ text : List Char, (∀ d ∈ text, d.isUpper = false) → first ∉ text := by
    intro text lower h
    have upper := printable.begins
    rw [lower first h] at upper
    cases upper
  have digits : ∀ n, ∀ d ∈ Nat.toDigits 10 n, d.isUpper = false := by
    intro n d hd
    have digit := Nat.isDigit_of_mem_toDigits (by decide) (by decide) hd
    rw [Char.isDigit, Bool.and_eq_true, decide_eq_true_eq, decide_eq_true_eq] at digit
    have below : ¬ d.val ≥ 65 := UInt32.not_le.mpr (UInt32.lt_of_le_of_lt digit.2 (by decide))
    exact decide_eq_false fun upper => below upper.1
  cases token with
  | null => exact .inr (missing _ (by simp [text]))
  | bool value =>
    cases value with
    | true => exact .inr (missing _ (by simp [text]))
    | false => exact .inr (missing _ (by simp [text]))
  | int value =>
    cases value with
    | ofNat n => exact .inr (missing _ (digits n))
    | negSucc n => exact .inr (missing _ (List.forall_mem_cons.mpr ⟨by decide, digits (n + 1)⟩))
  | float => exact .inr (missing _ (by simp [text]))
  | str text => exact .inl ⟨text, rfl⟩
  | beginArray => exact .inr (missing _ (by simp [text]))
  | endArray => exact .inr (missing _ (by simp [text]))
  | beginObject => exact .inr (missing _ (by simp [text]))
  | endObject => exact .inr (missing _ (by simp [text]))
  | comma => exact .inr (missing _ (by simp [text]))
  | colon => exact .inr (missing _ (by simp [text]))

/-- A printable text stands in a printed string exactly where it stands in the string. -/
theorem infix_str_iff (printable : Printable first rest) (text : String) :
    first :: rest <:+: (JsonToken.str text).text ↔ first :: rest <:+: text.toList := by
  have quote : '"' ∉ first :: rest := fun h => (printable.plain _ h).1 rfl
  have opened : first ∉ ['"'] := fun h => quote (List.mem_singleton.mp h ▸ List.mem_cons_self)
  have ends : ¬ first :: rest <:+ text.toList.flatMap escapeChar ++ ['"'] := by
    intro h
    obtain ⟨front, hfront, _⟩ := (List.suffix_concat_iff.mp h).resolve_left (List.cons_ne_nil first rest)
    exact quote (hfront ▸ List.mem_append_right front List.mem_cons_self)
  show first :: rest <:+: ['"'] ++ (text.toList.flatMap escapeChar ++ ['"']) ↔ _
  rw [infix_append_of_closed (.inl opened), or_iff_right (not_infix_of_not_mem opened), List.infix_concat_iff,
    or_iff_right ends, infix_flatMap_iff (escapesApart printable)]

/-- A printable text stands in printed JSON exactly where it stands in one of the
strings. -/
theorem Json.infix_print_iff (printable : Printable first rest) (v : Json) :
    first :: rest <:+: v.print.toList ↔ ∃ text ∈ v.strings, first :: rest <:+: text.toList := by
  have closed : ∀ token ∈ v.tokens, first ∉ token.text ∨
      ∃ body last, token.text = body ++ [last] ∧ last ∉ first :: rest := by
    intro token _
    rcases token.text_cases printable with ⟨text, rfl⟩ | missing
    · exact .inr ⟨'"' :: text.toList.flatMap escapeChar, '"', rfl, fun h => (printable.plain _ h).1 rfl⟩
    · exact .inl missing
  rw [print, String.toList_ofList, infix_flatMap_of_closed closed]
  constructor
  · rintro ⟨token, htoken, stands⟩
    rcases token.text_cases printable with ⟨text, rfl⟩ | missing
    · exact ⟨text, List.mem_filterMap.mpr ⟨_, htoken, rfl⟩, (infix_str_iff printable text).mp stands⟩
    · exact absurd stands (not_infix_of_not_mem missing)
  · rintro ⟨text, htext, stands⟩
    obtain ⟨token, htoken, hstr⟩ := List.mem_filterMap.mp htext
    have same : token = .str text := by
      cases token with
      | str other => exact congrArg JsonToken.str (Option.some.inj hstr)
      | _ => cases hstr
    rw [same] at htoken
    exact ⟨_, htoken, (infix_str_iff printable text).mpr stands⟩

end

end AnneDeBreuil
