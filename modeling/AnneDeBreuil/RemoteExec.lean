import AnneDeBreuil.ShellWords

namespace AnneDeBreuil

def shellQuote (arg : String) : String :=
  (arg.toList.foldl (fun quoted ch => if ch = '\'' then quoted ++ "'\\''" else quoted.push ch) "'").push '\''

def commandLine (argv : List String) : String := " ".intercalate (argv.map shellQuote)

example : commandLine ["anne-collector", "--emit-json"] = "'anne-collector' '--emit-json'" := by decide

/-- What stands between the quotes for a character. -/
def quoteChar (ch : Char) : List Char := if ch = '\'' then ['\'', '\\', '\'', '\''] else [ch]

theorem toList_shellQuote (arg : String) :
    (shellQuote arg).toList = '\'' :: (arg.toList.flatMap quoteChar ++ ['\'']) := by
  have pushed : ∀ (chars : List Char) (quoted : String),
      (chars.foldl (fun quoted ch => if ch = '\'' then quoted ++ "'\\''" else quoted.push ch) quoted).toList =
        quoted.toList ++ chars.flatMap quoteChar := by
    intro chars
    induction chars with
    | nil => simp
    | cons ch chars ih =>
      intro quoted
      rw [List.foldl_cons, ih, List.flatMap_cons, ← List.append_assoc]
      congr 1
      unfold quoteChar
      split
      next => rw [String.toList_append]; rfl
      next => exact String.toList_push ch
  rw [shellQuote, String.toList_push, pushed]
  rfl

open LexState

/-- The quoting of one character is read back as that character. -/
theorem reads_quoteChar (w : ShellWord) {ch : Char} (text : ch ≠ '\x00') :
    Reads (singleQuoted w) (quoteChar ch) [] (singleQuoted (⟨ch, true⟩ :: w)) := by
  unfold quoteChar
  split
  next quote =>
    cases quote
    have close : Reads (singleQuoted w) ['\''] [] (.unquoted (.word w)) := .char rfl
    have escape : Reads (.unquoted (.word w)) ['\\'] [] (.escaped (.word w)) := .char rfl
    have kept : Reads (.escaped (.word w)) ['\''] [] (.unquoted (.word (⟨'\'', true⟩ :: w))) := .char rfl
    exact ((close.append escape).append kept).append (.char (step_openQuote rfl))
  next other => exact .char (step_singleQuoted w other text)

theorem reads_flatMap_quoteChar (w : ShellWord) {text : List Char} (valid : '\x00' ∉ text) :
    Reads (singleQuoted w) (text.flatMap quoteChar) [] (singleQuoted ((quotedChars text).reverse ++ w)) := by
  induction text generalizing w with
  | nil => exact Reads.nil _
  | cons ch text ih =>
    have first := reads_quoteChar w (List.ne_of_not_mem_cons valid).symm
    have rest := ih (⟨ch, true⟩ :: w) (List.not_mem_of_not_mem_cons valid)
    have word : (quotedChars (ch :: text)).reverse ++ w = (quotedChars text).reverse ++ ⟨ch, true⟩ :: w := by
      rw [quotedChars, List.map_cons, List.reverse_cons, List.append_assoc]
      rfl
    rw [List.flatMap_cons, word]
    exact first.append rest

/-- A quoted argument is read as one word, every character of it quoted. -/
theorem reads_shellQuote {arg : String} (valid : '\x00' ∉ arg.toList) :
    Reads (.unquoted .none) (shellQuote arg).toList [] (.unquoted (.word (quotedChars arg.toList).reverse)) := by
  have opened : Reads (.unquoted .none) ['\''] [] (singleQuoted []) := .char (step_openQuote rfl)
  have inside := reads_flatMap_quoteChar [] valid
  rw [List.append_nil] at inside
  have closed : Reads (singleQuoted (quotedChars arg.toList).reverse) ['\''] []
      (.unquoted (.word (quotedChars arg.toList).reverse)) := .char rfl
  rw [toList_shellQuote]
  exact opened.append (inside.append closed)

/-- A blank ends the word before it. -/
theorem reads_separator (w : ShellWord) : Reads (.unquoted (.word w)) [' '] [.word w.reverse] (.unquoted .none) := .char rfl

theorem shellTokens_quoted {argv : List String} (valid : ∀ arg ∈ argv, '\x00' ∉ arg.toList) :
    shellTokens ([' '].intercalate (argv.map fun arg => (shellQuote arg).toList)) =
      .ok ((argv.map fun arg => quotedChars arg.toList).map .word) := by
  induction argv with
  | nil => rfl
  | cons arg rest ih =>
    have word := reads_shellQuote (valid arg List.mem_cons_self)
    cases rest with
    | nil =>
      have last := word []
      rw [List.append_nil] at last
      rw [List.map_singleton, List.intercalate_singleton, shellTokens, last]
      show Except.ok [ShellToken.word (quotedChars arg.toList).reverse.reverse] = _
      rw [List.reverse_reverse]
      rfl
    | cons next rest =>
      have later := ih fun other hother => valid other (List.mem_cons_of_mem _ hother)
      have separated := word.append (reads_separator (quotedChars arg.toList).reverse)
      rw [List.reverse_reverse] at separated
      rw [List.map_cons, List.map_cons, List.intercalate_cons_cons, shellTokens, separated]
      show (shellTokens ([' '].intercalate ((next :: rest).map fun arg => (shellQuote arg).toList))).map _ = _
      rw [later]
      rfl

/-- The remote shell reads back the argument vector, as one simple command whose
every character is quoted. -/
theorem commandLine_simple (aliases : String → Bool) (argv : List String) (nonempty : argv ≠ [])
    (valid : ∀ arg ∈ argv, '\x00' ∉ arg.toList) :
    shellTokens (commandLine argv).toList = .ok (argv.map fun arg => .word (arg.toList.map fun c => ⟨c, true⟩)) ∧
    simpleCommand aliases (commandLine argv).toList = some argv := by
  have tokens : shellTokens (commandLine argv).toList = .ok ((argv.map fun arg => quotedChars arg.toList).map .word) := by
    rw [commandLine, String.toList_intercalate, List.map_map]
    exact shellTokens_quoted valid
  have texts : (argv.map String.toList).map String.ofList = argv := by
    rw [List.map_map]
    exact (List.map_congr_left fun arg _ => String.ofList_toList).trans (List.map_id _)
  have words : (argv.map fun arg => quotedChars arg.toList) = (argv.map String.toList).map quotedChars := by
    rw [List.map_map]
    rfl
  refine ⟨?_, ?_⟩
  · rw [tokens, List.map_map]
    rfl
  · rw [words] at tokens
    rw [simpleCommand_quoted (by simpa using nonempty) tokens, texts]

/-- An argument that would end the quotes, an empty one and one with an expansion. -/
theorem commandLine_simple_hostile :
    commandLine ["'; rm -rf /; echo '", "", "$(id)"] = "''\\''; rm -rf /; echo '\\''' '' '$(id)'" ∧
    simpleCommand (fun _ => false) (commandLine ["'; rm -rf /; echo '", "", "$(id)"]).toList =
      some ["'; rm -rf /; echo '", "", "$(id)"] :=
  ⟨by decide, (commandLine_simple (fun _ => false) _ (by decide) (by decide)).2⟩

end AnneDeBreuil
