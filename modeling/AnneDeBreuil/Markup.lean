import Mathlib.Data.List.Basic

namespace AnneDeBreuil

/-- The names and the values of a tag's attributes, in order. -/
abbrev MarkupAttrs := List (List Char × List Char)

/-- Character data, or an element with its attributes and what stands in it. -/
inductive Markup
  | text (chars : List Char)
  | element (name : List Char) (attrs : MarkupAttrs) (children : List Markup)

/-- The entities that every document has. -/
def entities : List (List Char × Char) :=
  [(['a', 'm', 'p'], '&'), (['l', 't'], '<'), (['g', 't'], '>'), (['q', 'u', 'o', 't'], '"'), (['a', 'p', 'o', 's'], '\'')]

def isNameChar (c : Char) : Bool := c.isAlphanum || c = '-' || c = '_' || c = ':' || c = '.'

/-- Where the reader stands: in character data, in a tag, in a value between
quotes, or in an entity of one of the two. -/
inductive MarkupMode
  | data (chars : List Char)
  | dataEntity (chars entity : List Char)
  | opened
  | startName (name : List Char)
  | inTag (name : List Char) (attrs : MarkupAttrs)
  | attrName (name : List Char) (attrs : MarkupAttrs) (attr : List Char)
  | attrEquals (name : List Char) (attrs : MarkupAttrs) (attr : List Char)
  | value (name : List Char) (attrs : MarkupAttrs) (attr : List Char) (quote : Char) (chars : List Char)
  | valueEntity (name : List Char) (attrs : MarkupAttrs) (attr : List Char) (quote : Char)
      (chars entity : List Char)
  | afterValue (name : List Char) (attrs : MarkupAttrs)
  | selfClosing (name : List Char) (attrs : MarkupAttrs)
  | endName (name : List Char)

/-- An element whose end is still to come, and its elder siblings. -/
structure OpenElement where
  name : List Char
  attrs : MarkupAttrs
  before : List Markup

structure MarkupReader where
  mode : MarkupMode
  frames : List OpenElement
  siblings : List Markup

def dataNodes (chars : List Char) : List Markup := if chars = [] then [] else [.text chars]

namespace MarkupReader

/-- The end of a start tag's blank or name. -/
def stepTag (r : MarkupReader) (name : List Char) (attrs : MarkupAttrs) (c : Char) :
    Option MarkupReader :=
  if c = ' ' then some { r with mode := .inTag name attrs }
  else if c = '/' then some { r with mode := .selfClosing name attrs }
  else if c = '>' then some ⟨.data [], ⟨name, attrs, r.siblings⟩ :: r.frames, []⟩
  else none

/-- An end tag is for the element opened last. -/
def stepEnd (r : MarkupReader) (name : List Char) : Option MarkupReader :=
  match r.frames with
  | [] => none
  | frame :: frames =>
    if frame.name = name then some ⟨.data [], frames, frame.before ++ [.element name frame.attrs r.siblings]⟩ else none

def step (r : MarkupReader) (c : Char) : Option MarkupReader :=
  match r.mode with
  | .data chars =>
    if c = '<' then some { r with mode := .opened, siblings := r.siblings ++ dataNodes chars }
    else if c = '&' then some { r with mode := .dataEntity chars [] }
    else some { r with mode := .data (chars ++ [c]) }
  | .dataEntity chars entity =>
    if c = ';' then (entities.lookup entity).map fun decoded => { r with mode := .data (chars ++ [decoded]) }
    else some { r with mode := .dataEntity chars (entity ++ [c]) }
  | .opened =>
    if c = '/' then some { r with mode := .endName [] }
    else if c.isAlpha then some { r with mode := .startName [c] }
    else none
  | .startName name => if isNameChar c then some { r with mode := .startName (name ++ [c]) } else r.stepTag name [] c
  | .inTag name attrs => if c.isAlpha then some { r with mode := .attrName name attrs [c] } else r.stepTag name attrs c
  | .attrName name attrs attr =>
    if isNameChar c then some { r with mode := .attrName name attrs (attr ++ [c]) }
    else if c = '=' ∧ ∀ other ∈ attrs, other.1 ≠ attr then some { r with mode := .attrEquals name attrs attr }
    else none
  | .attrEquals name attrs attr =>
    if c = '"' ∨ c = '\'' then some { r with mode := .value name attrs attr c [] } else none
  | .value name attrs attr quote chars =>
    if c = quote then some { r with mode := .afterValue name (attrs ++ [(attr, chars)]) }
    else if c = '&' then some { r with mode := .valueEntity name attrs attr quote chars [] }
    else if c = '<' then none
    else some { r with mode := .value name attrs attr quote (chars ++ [c]) }
  | .valueEntity name attrs attr quote chars entity =>
    if c = ';' then
      (entities.lookup entity).map fun decoded => { r with mode := .value name attrs attr quote (chars ++ [decoded]) }
    else some { r with mode := .valueEntity name attrs attr quote chars (entity ++ [c]) }
  | .afterValue name attrs => r.stepTag name attrs c
  | .selfClosing name attrs =>
    if c = '>' then some { r with mode := .data [], siblings := r.siblings ++ [.element name attrs []] } else none
  | .endName name => if isNameChar c then some { r with mode := .endName (name ++ [c]) }
    else if c = '>' then r.stepEnd name else none

/-- Nothing is left open at the end. -/
def finish (r : MarkupReader) : Option (List Markup) :=
  match r.mode, r.frames with
  | .data chars, [] => some (r.siblings ++ dataNodes chars)
  | _, _ => none

end MarkupReader

/-- What a text of tags, quoted attributes, character data and entities holds. -/
def readMarkup (text : List Char) : Option (List Markup) :=
  (text.foldlM MarkupReader.step ⟨.data [], [], []⟩).bind MarkupReader.finish

/-- A piece of text that is read as one character, wherever character data or a
value goes on. -/
def Encodes (piece : List Char) (c : Char) : Prop :=
  (piece = [c] ∧ c ∉ ['<', '&', '"', '\'']) ∨
    ∃ entity, piece = '&' :: (entity ++ [';']) ∧ ';' ∉ entity ∧ entities.lookup entity = some c

def isName : List Char → Bool
  | [] => false
  | first :: rest => first.isAlpha && rest.all isNameChar

theorem isName_iff {name : List Char} : isName name = true ↔
    ∃ first rest, name = first :: rest ∧ first.isAlpha = true ∧ ∀ c ∈ rest, isNameChar c = true := by
  cases name with
  | nil => simp [isName]
  | cons first rest => simp [isName]

/-- A blank and a quoted value for each attribute. -/
def attrsText (escape : Char → List Char) (attrs : MarkupAttrs) : List Char :=
  attrs.flatMap fun attr => ' ' :: (attr.1 ++ ('=' :: '"' :: (attr.2.flatMap escape ++ ['"'])))

namespace MarkupReader

def Reads (r : MarkupReader) (text : List Char) (r' : MarkupReader) : Prop := text.foldlM step r = some r'

section

variable {r r' r'' : MarkupReader} {text later : List Char} {c : Char} {frames : List OpenElement} {siblings : List Markup}

theorem Reads.nil : r.Reads [] r := rfl

theorem Reads.char (h : r.step c = some r') : r.Reads [c] r' := by
  rw [Reads, List.foldlM_cons, h]
  rfl

theorem Reads.append (first : r.Reads text r') (second : r'.Reads later r'') : r.Reads (text ++ later) r'' := by
  rw [Reads, List.foldlM_append, first]
  exact second

theorem Reads.cons (first : r.step c = some r') (second : r'.Reads text r'') : r.Reads (c :: text) r'' :=
  (Reads.char first).append second

/-- A mode that gathers characters gathers those of a whole text. -/
theorem reads_gathered (mode : List Char → MarkupMode) (frames : List OpenElement) (siblings : List Markup)
    {piece : Char → List Char} {chars : List Char}
    (each : ∀ sofar, ∀ c ∈ chars, Reads ⟨mode sofar, frames, siblings⟩ (piece c) ⟨mode (sofar ++ [c]), frames, siblings⟩)
    (sofar : List Char) :
    Reads ⟨mode sofar, frames, siblings⟩ (chars.flatMap piece) ⟨mode (sofar ++ chars), frames, siblings⟩ := by
  induction chars generalizing sofar with
  | nil =>
    rw [List.append_nil]
    exact .nil
  | cons c chars ih =>
    have rest := ih (fun sofar d hd => each sofar d (List.mem_cons_of_mem _ hd)) (sofar ++ [c])
    rw [List.append_assoc, List.singleton_append] at rest
    rw [List.flatMap_cons]
    exact (each sofar c List.mem_cons_self).append rest

theorem reads_run (mode : List Char → MarkupMode) (frames : List OpenElement) (siblings : List Markup) {chars : List Char}
    (each : ∀ sofar, ∀ c ∈ chars, step ⟨mode sofar, frames, siblings⟩ c = some ⟨mode (sofar ++ [c]), frames, siblings⟩)
    (sofar : List Char) : Reads ⟨mode sofar, frames, siblings⟩ chars ⟨mode (sofar ++ chars), frames, siblings⟩ := by
  have gathered := reads_gathered mode frames siblings (fun sofar c hc => Reads.char (each sofar c hc)) sofar
  rwa [List.flatMap_singleton'] at gathered

/-- A piece is read as its character where a plain one goes on and an ampersand begins an entity. -/
theorem reads_encoded {piece : List Char} (h : Encodes piece c) {before after : MarkupMode} (entityMode : List Char → MarkupMode)
    (plain : c ∉ ['<', '&', '"', '\''] → step ⟨before, frames, siblings⟩ c = some ⟨after, frames, siblings⟩)
    (begins : step ⟨before, frames, siblings⟩ '&' = some ⟨entityMode [], frames, siblings⟩)
    (goesOn : ∀ seen d, d ≠ ';' →
      step ⟨entityMode seen, frames, siblings⟩ d = some ⟨entityMode (seen ++ [d]), frames, siblings⟩)
    (ends : ∀ entity, entities.lookup entity = some c →
      step ⟨entityMode entity, frames, siblings⟩ ';' = some ⟨after, frames, siblings⟩) :
    Reads ⟨before, frames, siblings⟩ piece ⟨after, frames, siblings⟩ := by
  rcases h with ⟨rfl, other⟩ | ⟨entity, rfl, closed, known⟩
  · exact .char (plain other)
  · have named := reads_run entityMode frames siblings (fun seen d (hd : d ∈ entity) =>
      goesOn seen d fun h => closed (h ▸ hd)) []
    exact .cons begins (named.append (.char (ends entity known)))

theorem reads_data {piece : List Char} (h : Encodes piece c) (sofar : List Char) :
    Reads ⟨.data sofar, frames, siblings⟩ piece ⟨.data (sofar ++ [c]), frames, siblings⟩ := by
  refine reads_encoded h (.dataEntity sofar) (fun plain => ?_) (by simp [step]) (fun seen d hd => by simp [step, hd])
    fun entity known => by simp [step, known]
  simp only [List.mem_cons, not_or] at plain
  simp [step, plain]

theorem reads_value {piece name attr : List Char} {attrs : MarkupAttrs} (h : Encodes piece c) (sofar : List Char) :
    Reads ⟨.value name attrs attr '"' sofar, frames, siblings⟩ piece
      ⟨.value name attrs attr '"' (sofar ++ [c]), frames, siblings⟩ := by
  refine reads_encoded h (.valueEntity name attrs attr '"' sofar) (fun plain => ?_) (by simp [step])
    (fun seen d hd => by simp [step, hd]) fun entity known => by simp [step, known]
  simp only [List.mem_cons, not_or] at plain
  simp [step, plain]

/-- What ends a name or a value there, ends the tag's part with these attributes. -/
def Behind (mode : MarkupMode) (name : List Char) (attrs : MarkupAttrs) : Prop :=
  ∀ frames siblings, ∀ c ∈ [' ', '/', '>'],
    step ⟨mode, frames, siblings⟩ c = stepTag ⟨mode, frames, siblings⟩ name attrs c

theorem behind_startName (name : List Char) : Behind (.startName name) name [] := by
  intro frames siblings c hc
  simp only [List.mem_cons, List.not_mem_nil, or_false] at hc
  rcases hc with rfl | rfl | rfl <;> rfl

theorem behind_afterValue (name : List Char) (attrs : MarkupAttrs) :
    Behind (.afterValue name attrs) name attrs := fun _ _ _ _ => rfl

theorem reads_attr (frames : List OpenElement) (siblings : List Markup) {mode : MarkupMode}
    {name attr value : List Char} {attrs : MarkupAttrs} {escape : Char → List Char} (behind : Behind mode name attrs)
    (named : isName attr = true) (fresh : attr ∉ attrs.map Prod.fst) (escaped : ∀ c ∈ value, Encodes (escape c) c) :
    Reads ⟨mode, frames, siblings⟩ (' ' :: (attr ++ ('=' :: '"' :: (value.flatMap escape ++ ['"']))))
      ⟨.afterValue name (attrs ++ [(attr, value)]), frames, siblings⟩ := by
  obtain ⟨first, rest, rfl, begins, nameChars⟩ := isName_iff.mp named
  have blank : step ⟨mode, frames, siblings⟩ ' ' = some ⟨.inTag name attrs, frames, siblings⟩ :=
    (behind frames siblings ' ' List.mem_cons_self).trans rfl
  have letter : step ⟨.inTag name attrs, frames, siblings⟩ first = some ⟨.attrName name attrs [first], frames, siblings⟩ := by
    simp [step, begins]
  have letters := reads_run (.attrName name attrs) frames siblings
    (fun seen c (hc : c ∈ rest) => by simp [step, nameChars c hc]) [first]
  have equals : step ⟨.attrName name attrs (first :: rest), frames, siblings⟩ '=' =
      some ⟨.attrEquals name attrs (first :: rest), frames, siblings⟩ := by
    have unused : ∀ other ∈ attrs, other.1 ≠ first :: rest :=
      fun other hother same => fresh (List.mem_map.mpr ⟨other, hother, same⟩)
    simp only [step]
    rw [if_neg (by decide), if_pos ⟨trivial, unused⟩]
  have valued := reads_gathered (.value name attrs (first :: rest) '"') frames siblings
    (fun sofar c hc => reads_value (escaped c hc) sofar) []
  refine .cons blank (.cons letter (letters.append (.cons equals (.cons rfl (valued.append (.char ?_))))))
  simp [step]

/-- Attributes of distinct names, each with its own value. -/
theorem reads_attrs (frames : List OpenElement) (siblings : List Markup) {mode : MarkupMode} {name : List Char}
    {attrs more : MarkupAttrs} {escape : Char → List Char} (behind : Behind mode name attrs)
    (named : ∀ attr ∈ more, isName attr.1 = true) (distinct : ((attrs ++ more).map Prod.fst).Nodup)
    (escaped : ∀ attr ∈ more, ∀ c ∈ attr.2, Encodes (escape c) c) :
    ∃ last, Reads ⟨mode, frames, siblings⟩ (attrsText escape more) ⟨last, frames, siblings⟩ ∧
      Behind last name (attrs ++ more) := by
  induction more generalizing mode attrs with
  | nil => exact ⟨mode, .nil, by rwa [List.append_nil]⟩
  | cons attr more ih =>
    obtain ⟨attr, value⟩ := attr
    have fresh : attr ∉ attrs.map Prod.fst := by
      intro hmem
      rw [List.map_append, List.nodup_append] at distinct
      exact distinct.2.2 attr hmem attr (by simp) rfl
    have first := reads_attr frames siblings behind (named _ List.mem_cons_self) fresh
      (escaped _ List.mem_cons_self)
    obtain ⟨last, rest, ends⟩ := ih (behind_afterValue name (attrs ++ [(attr, value)]))
      (fun other hother => named other (List.mem_cons_of_mem _ hother)) (by rwa [List.append_assoc, List.singleton_append])
      (fun other hother => escaped other (List.mem_cons_of_mem _ hother))
    rw [List.append_assoc, List.singleton_append] at ends
    exact ⟨last, first.append rest, ends⟩

end

end MarkupReader

/-- What a start tag needs so that it is read as it is meant. -/
structure TagText (escape : Char → List Char) (name : List Char) (attrs : MarkupAttrs) : Prop where
  named : isName name = true
  attrsNamed : ∀ attr ∈ attrs, isName attr.1 = true
  distinct : (attrs.map Prod.fst).Nodup
  escaped : ∀ attr ∈ attrs, ∀ c ∈ attr.2, Encodes (escape c) c

namespace MarkupReader

variable {escape : Char → List Char} {name : List Char} {attrs : MarkupAttrs} {frames : List OpenElement}
  {siblings : List Markup}

theorem reads_startTag (frames : List OpenElement) (siblings : List Markup) (tag : TagText escape name attrs)
    (chars : List Char) :
    ∃ last, Reads ⟨.data chars, frames, siblings⟩ ('<' :: (name ++ attrsText escape attrs))
      ⟨last, frames, siblings ++ dataNodes chars⟩ ∧ Behind last name attrs := by
  obtain ⟨first, rest, rfl, begins, nameChars⟩ := isName_iff.mp tag.named
  have letters := reads_run .startName frames (siblings ++ dataNodes chars)
    (fun seen c (hc : c ∈ rest) => by simp [step, nameChars c hc]) [first]
  obtain ⟨last, read, ends⟩ := reads_attrs frames (siblings ++ dataNodes chars)
    (behind_startName (first :: rest)) tag.attrsNamed (by simpa using tag.distinct) tag.escaped
  have slash : first ≠ '/' := by
    rintro rfl
    cases begins
  refine ⟨last, .cons rfl (.cons (by simp [step, begins, slash]) (letters.append read)), ends⟩

theorem reads_empty (frames : List OpenElement) (siblings : List Markup) (tag : TagText escape name attrs)
    (chars : List Char) :
    Reads ⟨.data chars, frames, siblings⟩ ('<' :: (name ++ attrsText escape attrs ++ ['/', '>']))
      ⟨.data [], frames, siblings ++ dataNodes chars ++ [.element name attrs []]⟩ := by
  obtain ⟨last, read, behind⟩ := reads_startTag frames siblings tag chars
  have slash := behind frames (siblings ++ dataNodes chars) '/' (by simp)
  exact read.append (.cons (slash.trans rfl) (.char rfl))

theorem reads_element (frames : List OpenElement) (siblings : List Markup) {body after : List Char} {kids : List Markup}
    (tag : TagText escape name attrs) (chars : List Char)
    (within : ∀ frame : OpenElement, Reads ⟨.data [], frame :: frames, []⟩ body ⟨.data after, frame :: frames, kids⟩) :
    Reads ⟨.data chars, frames, siblings⟩
      ('<' :: (name ++ attrsText escape attrs ++ ('>' :: (body ++ ('<' :: '/' :: (name ++ ['>']))))))
      ⟨.data [], frames, siblings ++ dataNodes chars ++ [.element name attrs (kids ++ dataNodes after)]⟩ := by
  obtain ⟨last, read, behind⟩ := reads_startTag frames siblings tag chars
  have opens : step ⟨last, frames, siblings ++ dataNodes chars⟩ '>' =
      some ⟨.data [], ⟨name, attrs, siblings ++ dataNodes chars⟩ :: frames, []⟩ :=
    (behind frames (siblings ++ dataNodes chars) '>' (by simp)).trans rfl
  have nameChars : ∀ c ∈ name, isNameChar c = true := by
    obtain ⟨first, rest, rfl, begins, later⟩ := isName_iff.mp tag.named
    intro c hc
    rcases List.mem_cons.mp hc with rfl | hc
    · simp [isNameChar, Char.isAlphanum, begins]
    · exact later c hc
  have ending := reads_run .endName (⟨name, attrs, siblings ++ dataNodes chars⟩ :: frames) (kids ++ dataNodes after)
    (fun seen c (hc : c ∈ name) => by simp [step, nameChars c hc]) []
  have closes : step ⟨.endName name, ⟨name, attrs, siblings ++ dataNodes chars⟩ :: frames, kids ++ dataNodes after⟩ '>' =
      some ⟨.data [], frames, siblings ++ dataNodes chars ++ [.element name attrs (kids ++ dataNodes after)]⟩ := by
    simp [step, isNameChar, stepEnd]
  exact read.append (.cons opens ((within _).append (.cons rfl (.cons rfl (ending.append (.char closes))))))

theorem readMarkup_of_reads {text : List Char} {nodes : List Markup}
    (h : Reads ⟨.data [], [], []⟩ text ⟨.data [], [], nodes⟩) : readMarkup text = some nodes := by
  have read : text.foldlM step ⟨.data [], [], []⟩ = some ⟨.data [], [], nodes⟩ := h
  simp [readMarkup, read, finish, dataNodes]

end MarkupReader

end AnneDeBreuil
