import AnneDeBreuil.Markup

namespace AnneDeBreuil

/-- A coordinate or length on the grid. -/
structure Grid4 where
  get : Int
  multiple : 4 ∣ get

/-- Division toward zero; no product leaves the range of `i32`. -/
def Grid4.snap (value : Int) : Grid4 := ⟨value.tdiv 4 * 4, Int.dvd_mul_left ..⟩

def escapeSvgChar (ch : Char) : List Char :=
  if ch = '&' then "&amp;".toList
  else if ch = '<' then "&lt;".toList
  else if ch = '>' then "&gt;".toList
  else if ch = '"' then "&quot;".toList
  else if ch = '\'' then "&apos;".toList
  else [ch]

def escapeSvgText (input : String) : String := String.ofList (input.toList.flatMap escapeSvgChar)

example : escapeSvgText "a<b>&'" = "a&lt;b&gt;&amp;&apos;" := by decide

structure SvgCanvas where
  width : Grid4
  height : Grid4
  elements : List String

def SvgCanvas.new (width height : Int) : SvgCanvas := ⟨.snap width, .snap height, []⟩

def Grid4.display (value : Grid4) : String := toString value.get

def SvgCanvas.rect (canvas : SvgCanvas) (x y w h : Int) (className : String) : SvgCanvas :=
  { canvas with elements := canvas.elements ++
    ["<rect x=\"" ++ (Grid4.snap x).display ++ "\" y=\"" ++ (Grid4.snap y).display ++ "\" width=\"" ++
      (Grid4.snap w).display ++ "\" height=\"" ++ (Grid4.snap h).display ++ "\" rx=\"10\" class=\"" ++
      escapeSvgText className ++ "\"/>"] }

def SvgCanvas.text (canvas : SvgCanvas) (x y : Int) (content className : String) : SvgCanvas :=
  { canvas with elements := canvas.elements ++
    ["<text x=\"" ++ (Grid4.snap x).display ++ "\" y=\"" ++ (Grid4.snap y).display ++ "\" class=\"" ++
      escapeSvgText className ++ "\">" ++ escapeSvgText content ++ "</text>"] }

def SvgCanvas.line (canvas : SvgCanvas) (x1 y1 x2 y2 : Int) (className : String) : SvgCanvas :=
  { canvas with elements := canvas.elements ++
    ["<line x1=\"" ++ (Grid4.snap x1).display ++ "\" y1=\"" ++ (Grid4.snap y1).display ++ "\" x2=\"" ++
      (Grid4.snap x2).display ++ "\" y2=\"" ++ (Grid4.snap y2).display ++ "\" class=\"" ++
      escapeSvgText className ++ "\"/>"] }

def svgNamespace : String := "http://www.w3.org/2000/svg"

def SvgCanvas.render (canvas : SvgCanvas) (title desc : String) : String :=
  "<svg role=\"img\" aria-label=\"" ++ escapeSvgText title ++ "\" width=\"" ++ canvas.width.display ++ "\" height=\"" ++
    canvas.height.display ++ "\" xmlns=\"" ++ svgNamespace ++ "\"><title>" ++ escapeSvgText title ++
    "</title><desc>" ++ escapeSvgText desc ++ "</desc>" ++ String.join canvas.elements ++ "</svg>"

/-- One drawing call. -/
inductive SvgCall
  | rect (x y w h : Int) (className : String)
  | text (x y : Int) (content className : String)
  | line (x1 y1 x2 y2 : Int) (className : String)
deriving DecidableEq, Repr

def SvgCanvas.draw (canvas : SvgCanvas) : SvgCall → SvgCanvas
  | .rect x y w h className => canvas.rect x y w h className
  | .text x y content className => canvas.text x y content className
  | .line x1 y1 x2 y2 className => canvas.line x1 y1 x2 y2 className

/-- An attribute that holds a coordinate or a length. -/
def gridAttr (name : String) (value : Grid4) : List Char × List Char := (name.toList, value.display.toList)

def textAttr (name value : String) : List Char × List Char := (name.toList, value.toList)

/-- The element that a call stands for. -/
def SvgCall.element : SvgCall → Markup
  | .rect x y w h className =>
    .element "rect".toList [gridAttr "x" (.snap x), gridAttr "y" (.snap y), gridAttr "width" (.snap w),
      gridAttr "height" (.snap h), textAttr "rx" "10", textAttr "class" className] []
  | .text x y content className =>
    .element "text".toList [gridAttr "x" (.snap x), gridAttr "y" (.snap y), textAttr "class" className]
      (dataNodes content.toList)
  | .line x1 y1 x2 y2 className =>
    .element "line".toList [gridAttr "x1" (.snap x1), gridAttr "y1" (.snap y1), gridAttr "x2" (.snap x2),
      gridAttr "y2" (.snap y2), textAttr "class" className] []

/-- The attributes of the document. -/
def svgAttrs (title : String) (width height : Grid4) : MarkupAttrs :=
  [textAttr "role" "img", textAttr "aria-label" title, gridAttr "width" width, gridAttr "height" height,
    textAttr "xmlns" svgNamespace]

/-- The document of a canvas with these calls. -/
def svgDocument (width height : Int) (calls : List SvgCall) (title desc : String) : Markup :=
  .element "svg".toList (svgAttrs title (.snap width) (.snap height))
    (.element "title".toList [] (dataNodes title.toList) :: .element "desc".toList [] (dataNodes desc.toList) ::
      calls.map SvgCall.element)

theorem encodes_escapeSvgChar (c : Char) : Encodes (escapeSvgChar c) c := by
  unfold escapeSvgChar
  split
  next h => exact .inr ⟨['a', 'm', 'p'], rfl, by decide, h ▸ rfl⟩
  next amp =>
  split
  next h => exact .inr ⟨['l', 't'], rfl, by decide, h ▸ rfl⟩
  next lt =>
  split
  next h => exact .inr ⟨['g', 't'], rfl, by decide, h ▸ rfl⟩
  next gt =>
  split
  next h => exact .inr ⟨['q', 'u', 'o', 't'], rfl, by decide, h ▸ rfl⟩
  next quot =>
  split
  next h => exact .inr ⟨['a', 'p', 'o', 's'], rfl, by decide, h ▸ rfl⟩
  next apos => exact .inl ⟨rfl, by simp [lt, amp, quot, apos]⟩

theorem escapeSvgChar_digit {c : Char} (h : c.isDigit = true ∨ c = '-') : escapeSvgChar c = [c] := by
  have other : ∀ special ∈ ['&', '<', '>', '"', '\''], c ≠ special := by
    rintro special hspecial rfl
    simp only [List.mem_cons, List.not_mem_nil, or_false] at hspecial
    rcases hspecial with rfl | rfl | rfl | rfl | rfl <;> rcases h with h | h <;> cases h
  simp only [List.forall_mem_cons] at other
  simp [escapeSvgChar, other]

theorem digit_or_sign_display (value : Grid4) : ∀ c ∈ value.display.toList, c.isDigit = true ∨ c = '-' := by
  have digits : ∀ n : Nat, ∀ c ∈ (Nat.repr n).toList, c.isDigit = true ∨ c = '-' := by
    intro n c hc
    rw [Nat.toList_repr] at hc
    exact .inl (Nat.isDigit_of_mem_toDigits (by decide) (by decide) hc)
  obtain ⟨get, -⟩ := value
  cases get with
  | ofNat n => exact digits n
  | negSucc n =>
    intro c hc
    rcases List.mem_cons.mp (show c ∈ '-' :: (Nat.repr (n + 1)).toList by simpa [Grid4.display, Int.repr] using hc) with rfl | hc
    · exact .inr rfl
    · exact digits (n + 1) c hc

/-- Numbers are written as they are. -/
@[simp] theorem escape_display (value : Grid4) : value.display.toList.flatMap escapeSvgChar = value.display.toList := by
  have each := List.flatMap_congr fun c hc => escapeSvgChar_digit (digit_or_sign_display value c hc)
  rw [each, List.flatMap_singleton']

open MarkupReader

theorem tagText {name : List Char} {attrs : MarkupAttrs} (names : List String)
    (hnames : attrs.map Prod.fst = names.map String.toList)
    (valid : (name :: names.map String.toList).all isName = true) (distinct : (names.map String.toList).Nodup) :
    TagText escapeSvgChar name attrs := by
  rw [← hnames] at valid distinct
  rw [List.all_cons, Bool.and_eq_true, List.all_map, List.all_eq_true] at valid
  exact ⟨valid.1, valid.2, distinct, fun _ _ c _ => encodes_escapeSvgChar c⟩

section

variable {frames : List OpenElement} {siblings : List Markup}

/-- An element without attributes around a text. -/
theorem reads_textElement (frames : List OpenElement) (siblings : List Markup) {name : List Char} {attrs : MarkupAttrs}
    (tag : TagText escapeSvgChar name attrs) (content : String) :
    Reads ⟨.data [], frames, siblings⟩
      ('<' :: (name ++ attrsText escapeSvgChar attrs ++
        ('>' :: ((escapeSvgText content).toList ++ ('<' :: '/' :: (name ++ ['>']))))))
      ⟨.data [], frames, siblings ++ [.element name attrs (dataNodes content.toList)]⟩ := by
  have within : ∀ frame : OpenElement, Reads ⟨.data [], frame :: frames, []⟩ (escapeSvgText content).toList
      ⟨.data content.toList, frame :: frames, []⟩ := by
    intro frame
    rw [escapeSvgText, String.toList_ofList]
    exact reads_gathered .data _ _ (fun sofar c _ => reads_data (encodes_escapeSvgChar c) sofar) []
  have read := reads_element _ siblings tag [] within
  simpa [dataNodes] using read

/-- A call adds the text of its own element. -/
theorem reads_call (canvas : SvgCanvas) (call : SvgCall) : ∃ element, canvas.draw call =
    { canvas with elements := canvas.elements ++ [element] } ∧ ∀ frames siblings,
      Reads ⟨.data [], frames, siblings⟩ element.toList ⟨.data [], frames, siblings ++ [call.element]⟩ := by
  cases call with
  | rect x y w h className =>
    refine ⟨_, rfl, fun frames siblings => ?_⟩
    have tag : TagText escapeSvgChar "rect".toList [gridAttr "x" (.snap x), gridAttr "y" (.snap y),
        gridAttr "width" (.snap w), gridAttr "height" (.snap h), textAttr "rx" "10", textAttr "class" className] :=
      tagText ["x", "y", "width", "height", "rx", "class"] rfl (by decide) (by decide)
    have read := reads_empty frames siblings tag []
    simpa [attrsText, gridAttr, textAttr, escapeSvgText, escapeSvgChar, dataNodes, SvgCall.element] using read
  | text x y content className =>
    refine ⟨_, rfl, fun frames siblings => ?_⟩
    have tag : TagText escapeSvgChar "text".toList
        [gridAttr "x" (.snap x), gridAttr "y" (.snap y), textAttr "class" className] :=
      tagText ["x", "y", "class"] rfl (by decide) (by decide)
    have read := reads_textElement frames siblings tag content
    simpa [attrsText, gridAttr, textAttr, escapeSvgText, SvgCall.element] using read
  | line x1 y1 x2 y2 className =>
    refine ⟨_, rfl, fun frames siblings => ?_⟩
    have tag : TagText escapeSvgChar "line".toList [gridAttr "x1" (.snap x1), gridAttr "y1" (.snap y1),
        gridAttr "x2" (.snap x2), gridAttr "y2" (.snap y2), textAttr "class" className] :=
      tagText ["x1", "y1", "x2", "y2", "class"] rfl (by decide) (by decide)
    have read := reads_empty frames siblings tag []
    simpa [attrsText, gridAttr, textAttr, escapeSvgText, dataNodes, SvgCall.element] using read

/-- Calls add their elements in order, and leave the size. -/
theorem reads_calls (calls : List SvgCall) (canvas : SvgCanvas) : ∃ added, calls.foldl SvgCanvas.draw canvas =
    { canvas with elements := canvas.elements ++ added } ∧ ∀ frames siblings,
      Reads ⟨.data [], frames, siblings⟩ (added.flatMap String.toList)
        ⟨.data [], frames, siblings ++ calls.map SvgCall.element⟩ := by
  induction calls generalizing canvas with
  | nil =>
    refine ⟨[], by simp, fun frames siblings => ?_⟩
    rw [List.map_nil, List.append_nil]
    exact .nil
  | cons call calls ih =>
    obtain ⟨element, hdraw, read⟩ := reads_call canvas call
    obtain ⟨added, hfold, later⟩ := ih (canvas.draw call)
    refine ⟨element :: added, ?_, fun frames siblings => ?_⟩
    · rw [List.foldl_cons, hfold, hdraw]
      simp
    · rw [List.flatMap_cons, List.map_cons, List.append_cons]
      exact (read frames siblings).append (later frames _)

end

/-- The attributes that hold coordinates and lengths. -/
def gridNames : List String := ["x", "y", "width", "height", "x1", "y1", "x2", "y2"]

/-- If the attribute is a coordinate or a length, it is on the grid. -/
def AttrOnGrid (attr : List Char × List Char) : Prop :=
  String.ofList attr.1 ∈ gridNames → ∃ n : Int, 4 ∣ n ∧ attr.2 = (toString n).toList

def OnGrid : Markup → Prop
  | .text _ => True
  | .element _ attrs _ => ∀ attr ∈ attrs, AttrOnGrid attr

theorem gridAttr_onGrid (name : String) (value : Grid4) : AttrOnGrid (gridAttr name value) :=
  fun _ => ⟨value.get, value.multiple, rfl⟩

theorem textAttr_onGrid (name : String) (h : name ∉ gridNames) (value : String) : AttrOnGrid (textAttr name value) := by
  intro hname
  rw [textAttr, String.ofList_toList] at hname
  exact absurd hname h

theorem onGrid_call (call : SvgCall) : OnGrid call.element := by
  have onClass := textAttr_onGrid "class" (by decide)
  cases call with
  | rect =>
    have onRadius := textAttr_onGrid "rx" (by decide)
    simp [SvgCall.element, OnGrid, gridAttr_onGrid, onClass, onRadius]
  | text | line => simp [SvgCall.element, OnGrid, gridAttr_onGrid, onClass]

theorem onGrid_document (width height : Int) (calls : List SvgCall) (title desc : String) :
    OnGrid (svgDocument width height calls title desc) := by
  have onRole := textAttr_onGrid "role" (by decide)
  have onLabel := textAttr_onGrid "aria-label" (by decide)
  have onSpace := textAttr_onGrid "xmlns" (by decide)
  simp [svgDocument, svgAttrs, OnGrid, gridAttr_onGrid, onRole, onLabel, onSpace]

/-- An element without attributes, around a text. -/
def textElementText (name : String) (content : String) : List Char :=
  '<' :: (name.toList ++ attrsText escapeSvgChar [] ++
    ('>' :: ((escapeSvgText content).toList ++ ('<' :: '/' :: (name.toList ++ ['>'])))))

@[simp] theorem escape_svgNamespace : svgNamespace.toList.flatMap escapeSvgChar = svgNamespace.toList := by decide

theorem toList_render (canvas : SvgCanvas) (title desc : String) : (canvas.render title desc).toList =
    '<' :: ("svg".toList ++ attrsText escapeSvgChar (svgAttrs title canvas.width canvas.height) ++
      ('>' :: ((textElementText "title" title ++ textElementText "desc" desc ++ canvas.elements.flatMap String.toList) ++
        ('<' :: '/' :: ("svg".toList ++ ['>']))))) := by
  unfold SvgCanvas.render
  simp [attrsText, svgAttrs, gridAttr, textAttr, textElementText, escapeSvgText, escapeSvgChar]

theorem render_reads (width height : Int) (calls : List SvgCall) (title desc : String) :
    readMarkup ((calls.foldl SvgCanvas.draw (.new width height)).render title desc).toList =
      some [svgDocument width height calls title desc] := by
  refine readMarkup_of_reads ?_
  obtain ⟨added, hcanvas, drawn⟩ := reads_calls calls (.new width height)
  have svg : TagText escapeSvgChar "svg".toList (svgAttrs title (.snap width) (.snap height)) :=
    tagText ["role", "aria-label", "width", "height", "xmlns"] rfl (by decide) (by decide)
  have titled : TagText escapeSvgChar "title".toList [] := tagText [] rfl (by decide) (by decide)
  have described : TagText escapeSvgChar "desc".toList [] := tagText [] rfl (by decide) (by decide)
  have within := fun frame : OpenElement =>
    ((reads_textElement [frame] [] titled title).append
      (reads_textElement _ _ described desc)).append (drawn _ _)
  have read := reads_element [] [] svg [] within
  have ended : dataNodes [] = [] := rfl
  rw [ended, List.append_nil, List.append_nil] at read
  rw [hcanvas, toList_render]
  exact read

/-- What is rendered is one document, in which every string stands where it was
meant to and nothing else does. -/
theorem render_document (width height : Int) (calls : List SvgCall) (title desc : String) :
    readMarkup ((calls.foldl SvgCanvas.draw (.new width height)).render title desc).toList =
      some [svgDocument width height calls title desc] ∧
    OnGrid (svgDocument width height calls title desc) ∧ ∀ call ∈ calls, OnGrid call.element :=
  ⟨render_reads width height calls title desc, onGrid_document width height calls title desc,
    fun call _ => onGrid_call call⟩

end AnneDeBreuil
