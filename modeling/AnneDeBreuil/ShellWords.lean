import Mathlib.Data.List.Basic

namespace AnneDeBreuil

/-- A character of a shell word, and whether quoting keeps it as it is. -/
structure WordChar where
  char : Char
  quoted : Bool
  deriving DecidableEq, Repr

abbrev ShellWord := List WordChar

inductive ShellToken where
  | word (word : ShellWord)
  | operator (text : List Char)
  deriving DecidableEq, Repr

/-- Why the reading of a command line ends early: at an expansion that is not
quoted, at a NUL, or within quotes. -/
inductive ShellStop where
  | expansion
  | nul
  | unterminated
  deriving DecidableEq, Repr

/-- The token under way outside quotes; the characters of a word stand last
first. -/
inductive Pending where
  | none
  | word (word : ShellWord)
  | operator (text : List Char)
  deriving DecidableEq, Repr

inductive LexState where
  | unquoted (pending : Pending)
  | escaped (pending : Pending)
  | singleQuoted (word : ShellWord)
  | doubleQuoted (word : ShellWord)
  | doubleEscaped (word : ShellWord)
  | comment
  deriving DecidableEq, Repr

/-- The operators of more than one character. -/
def longOperators : List (List Char) :=
  [['&', '&'], ['|', '|'], [';', ';'], [';', '&'], ['<', '<'], ['<', '<', '-'], ['>', '>'], ['<', '&'], ['>', '&'],
    ['<', '>'], ['>', '|']]

def startsOperator (c : Char) : Bool := c ∈ ['&', '|', ';', '<', '>', '(', ')']

def startsExpansion (c : Char) : Bool := c ∈ ['$', Char.ofNat 0x60]

namespace Pending

def finish : Pending → List ShellToken
  | none => []
  | word w => [.word w.reverse]
  | operator text => [.operator text]

/-- The word that a quoted character goes to. -/
def current : Pending → ShellWord
  | word w => w
  | _ => []

/-- The tokens that end where a word goes on or begins. -/
def closed : Pending → List ShellToken
  | operator text => [.operator text]
  | _ => []

end Pending

/-- A character outside quotes that is neither part of an operator nor a blank. -/
def LexState.inWord (w : ShellWord) (c : Char) : Except ShellStop LexState :=
  if c = '\'' then .ok (.singleQuoted w)
  else if c = '"' then .ok (.doubleQuoted w)
  else if startsExpansion c then .error .expansion
  else .ok (.unquoted (.word (⟨c, false⟩ :: w)))

/-- A character outside quotes. -/
def LexState.outside (pending : Pending) (c : Char) : Except ShellStop (List ShellToken × LexState) :=
  if c = '\\' then .ok ([], .escaped pending)
  else if c = '\n' then .ok (pending.finish ++ [.operator [c]], .unquoted .none)
  else if c = ' ' ∨ c = '\t' then .ok (pending.finish, .unquoted .none)
  else if startsOperator c then
    match pending with
    | .operator text =>
      if text ++ [c] ∈ longOperators then .ok ([], .unquoted (.operator (text ++ [c])))
      else .ok (pending.finish, .unquoted (.operator [c]))
    | _ => .ok (pending.finish, .unquoted (.operator [c]))
  else
    match pending with
    | .word w => (LexState.inWord w c).map ([], ·)
    | .operator text =>
      if text ++ [c] ∈ longOperators then .ok ([], .unquoted (.operator (text ++ [c])))
      else if c = '#' then .ok (pending.finish, .comment)
      else (LexState.inWord [] c).map (pending.finish, ·)
    | .none => if c = '#' then .ok ([], .comment) else (LexState.inWord [] c).map ([], ·)

/-- What one character does: the tokens that it ends, and the state behind it. -/
def LexState.step (s : LexState) (c : Char) : Except ShellStop (List ShellToken × LexState) :=
  if c = '\x00' then .error .nul
  else match s with
  | unquoted pending => LexState.outside pending c
  | escaped pending =>
    if c = '\n' then .ok ([], .unquoted pending)
    else .ok (pending.closed, .unquoted (.word (⟨c, true⟩ :: pending.current)))
  | singleQuoted w => if c = '\'' then .ok ([], .unquoted (.word w)) else .ok ([], .singleQuoted (⟨c, true⟩ :: w))
  | doubleQuoted w =>
    if c = '"' then .ok ([], .unquoted (.word w))
    else if c = '\\' then .ok ([], .doubleEscaped w)
    else if startsExpansion c then .error .expansion
    else .ok ([], .doubleQuoted (⟨c, true⟩ :: w))
  | doubleEscaped w =>
    if c = '\n' then .ok ([], .doubleQuoted w)
    else if c ∈ ['"', '\\'] ∨ startsExpansion c then .ok ([], .doubleQuoted (⟨c, true⟩ :: w))
    else .ok ([], .doubleQuoted (⟨c, true⟩ :: ⟨'\\', true⟩ :: w))
  | comment => if c = '\n' then .ok ([.operator [c]], .unquoted .none) else .ok ([], .comment)

def LexState.finish : LexState → Except ShellStop (List ShellToken)
  | unquoted pending => .ok pending.finish
  | comment => .ok []
  | _ => .error .unterminated

def LexState.tokens : LexState → List Char → Except ShellStop (List ShellToken)
  | s, [] => s.finish
  | s, c :: cs => do
    let (ended, next) ← s.step c
    return ended ++ (← next.tokens cs)

/-- The tokens of a command line. -/
def shellTokens (line : List Char) : Except ShellStop (List ShellToken) := (LexState.unquoted .none).tokens line

namespace ShellWord

/-- Quote removal. -/
def text (w : ShellWord) : String := String.ofList (w.map WordChar.char)

/-- A word without pattern, tilde, assignment and brace characters outside quotes. -/
def plain (w : ShellWord) : Bool := w.all fun c => c.quoted || c.char ∉ ['*', '?', '[', '~', '=', '{', '}']

def unquoted (w : ShellWord) : Bool := w ≠ [] && w.all (!·.quoted)

end ShellWord

def reservedWords : List String :=
  ["!", "\x7b", "\x7d", "case", "do", "done", "elif", "else", "esac", "fi", "for", "if", "in", "then", "until", "while"]

def ShellToken.word? : ShellToken → Option ShellWord
  | .word w => some w
  | .operator _ => none

/-- The fields of a simple command's words: none of them is expanded, and the
first is neither reserved nor one of the shell's aliases. -/
def commandFields (aliases : String → Bool) : List ShellWord → Option (List String)
  | [] => none
  | name :: args =>
    if (name :: args).all ShellWord.plain && !(name.unquoted && (name.text ∈ reservedWords || aliases name.text)) then
      some ((name :: args).map ShellWord.text)
    else none

/-- The fields of a line that is one simple command and no more. -/
def simpleCommand (aliases : String → Bool) (line : List Char) : Option (List String) :=
  ((shellTokens line).toOption.bind (List.mapM ShellToken.word?)).bind (commandFields aliases)

/-- The characters of a text, all of them kept by quoting. -/
def quotedChars (text : List Char) : ShellWord := text.map fun c => ⟨c, true⟩

namespace LexState

/-- Reading `cs` ends some tokens and leads to a state, whatever follows. -/
def Reads (s : LexState) (cs : List Char) (ended : List ShellToken) (next : LexState) : Prop :=
  ∀ rest, s.tokens (cs ++ rest) = (next.tokens rest).map (ended ++ ·)

theorem Reads.char {s next : LexState} {c : Char} {ended : List ShellToken} (h : s.step c = .ok (ended, next)) :
    Reads s [c] ended next := by
  intro rest
  rw [List.cons_append, List.nil_append, tokens, h]
  show (do return ended ++ (← next.tokens rest)) = _
  cases next.tokens rest with
  | error stop => rfl
  | ok later => rfl

theorem Reads.nil (s : LexState) : Reads s [] [] s := by
  intro rest
  rw [List.nil_append]
  cases s.tokens rest with
  | error stop => rfl
  | ok later => rfl

theorem Reads.append {s middle next : LexState} {cs ds : List Char} {ended later : List ShellToken}
    (first : Reads s cs ended middle) (second : Reads middle ds later next) : Reads s (cs ++ ds) (ended ++ later) next := by
  intro rest
  rw [List.append_assoc, first, second]
  cases next.tokens rest with
  | error stop => rfl
  | ok last =>
    show Except.ok (ended ++ (later ++ last)) = Except.ok (ended ++ later ++ last)
    rw [List.append_assoc]

/-- A single quote opens in the word under way, or begins a word. -/
theorem step_openQuote {pending : Pending} (idle : pending.closed = []) :
    (unquoted pending).step '\'' = .ok ([], .singleQuoted pending.current) := by
  cases pending with
  | none => rfl
  | word w => rfl
  | operator text => cases idle

/-- Between single quotes every other character but NUL is kept. -/
theorem step_singleQuoted (w : ShellWord) {c : Char} (inside : c ≠ '\'') (text : c ≠ '\x00') :
    (singleQuoted w).step c = .ok ([], .singleQuoted (⟨c, true⟩ :: w)) := by
  rw [step, if_neg text]
  exact if_neg inside

end LexState

theorem text_quotedChars (text : List Char) : (quotedChars text).text = String.ofList text := by
  rw [ShellWord.text, quotedChars, List.map_map]
  exact congrArg String.ofList (List.map_id' text)

theorem quotedChars_plain (text : List Char) : (quotedChars text).plain = true := by
  apply List.all_eq_true.mpr
  intro c hc
  obtain ⟨_, _, rfl⟩ := List.mem_map.mp hc
  rfl

theorem quotedChars_unquoted (text : List Char) : (quotedChars text).unquoted = false := by
  cases text with
  | nil => rfl
  | cons c text => rfl

/-- A line of words that are quoted throughout is a simple command. -/
theorem simpleCommand_quoted {aliases : String → Bool} {line : List Char} {texts : List (List Char)} (nonempty : texts ≠ [])
    (tokens : shellTokens line = .ok ((texts.map quotedChars).map .word)) :
    simpleCommand aliases line = some (texts.map String.ofList) := by
  obtain ⟨name, args, rfl⟩ := List.exists_cons_of_ne_nil nonempty
  have words : (((name :: args).map quotedChars).map .word).mapM ShellToken.word? = some ((name :: args).map quotedChars) := by
    rw [List.mapM_map]
    exact List.mapM_pure.trans (congrArg some (List.map_id _))
  have plain : ((name :: args).map quotedChars).all ShellWord.plain = true := by
    apply List.all_eq_true.mpr
    intro w hw
    obtain ⟨text, _, rfl⟩ := List.mem_map.mp hw
    exact quotedChars_plain text
  have fields : ((name :: args).map quotedChars).map ShellWord.text = (name :: args).map String.ofList := by
    rw [List.map_map]
    exact List.map_congr_left fun text _ => text_quotedChars text
  rw [simpleCommand, tokens, Except.toOption, Option.bind_some, words, Option.bind_some, List.map_cons, commandFields,
    ← List.map_cons, plain, quotedChars_unquoted, fields]
  rfl

end AnneDeBreuil
