import AnneDeBreuil.Diagrams
import Mathlib.Data.Fintype.Prod

namespace AnneDeBreuil

namespace TrustQuadrant

def cellSize : Int32 := 160
def originX : Int32 := 40
def originY : Int32 := 40
def markerSize : Int32 := 8
def markersPerRow : Int32 := 12

def isExposed : Exposure → Bool
  | .allInterfaces => true
  | _ => false

def isUnconfirmedSigned : SignatureStatus → Bool
  | .signed _ => false
  | _ => true

/-- Exposed or not, and risky or not. -/
def quadrant (endpoint : EndpointView) : Bool × Bool :=
  (isExposed endpoint.exposure, isUnconfirmedSigned endpoint.signatureStatus)

def cellX (quadrant : Bool × Bool) : Int32 := if quadrant.1 then originX + cellSize else originX

def cellY (quadrant : Bool × Bool) : Int32 := if quadrant.2 then originY + cellSize else originY

def markerClass (quadrant : Bool × Bool) : String :=
  if quadrant.1 && quadrant.2 then "svg-fill-accent" else "svg-fill-muted"

/-- `SvgCanvas.rect` at these words. -/
def rect (x y w h : Int32) (className : String) : SvgCall := .rect x.toInt y.toInt w.toInt h.toInt className

def text (x y : Int32) (content className : String) : SvgCall := .text x.toInt y.toInt content className

def frameCalls : List SvgCall :=
  [rect originX originY cellSize cellSize "svg-node",
    rect (originX + cellSize) originY cellSize cellSize "svg-node",
    rect originX (originY + cellSize) cellSize cellSize "svg-node",
    rect (originX + cellSize) (originY + cellSize) cellSize cellSize "svg-fill-accent-weak",
    text originX (originY - 8) "contained" "svg-text-muted",
    text (originX + cellSize) (originY - 8) "all interfaces" "svg-text-muted",
    text originX (originY + cellSize * 2 + 16) "signed" "svg-text-muted",
    text (originX + cellSize) (originY + cellSize * 2 + 16) "unsigned/unknown" "svg-text-muted"]

/-- The loop's state: the four counters, and the calls so far. -/
structure Sketch where
  counter : Bool × Bool → Int32
  calls : List SvgCall

/-- One turn of the loop; its sums wrap, as the release build has them. -/
def Sketch.mark (sketch : Sketch) (endpoint : EndpointView) : Sketch :=
  let index := sketch.counter (quadrant endpoint)
  let col := index % markersPerRow
  let row := index / markersPerRow
  { counter := Function.update sketch.counter (quadrant endpoint) (index + 1)
    calls := sketch.calls ++
      [rect (cellX (quadrant endpoint) + 12 + col * (markerSize + 4))
        (cellY (quadrant endpoint) + 12 + row * (markerSize + 4)) markerSize markerSize
        (markerClass (quadrant endpoint))] }

def sketch (host : HostSection) : Sketch := host.endpoints.foldl Sketch.mark ⟨fun _ => 0, frameCalls⟩

def render (host : HostSection) : Diagram where
  width := (originX * 2 + cellSize * 2).toInt
  height := (originY * 2 + cellSize * 2 + 20).toInt
  calls := (sketch host).calls
  title := "Trust quadrant for host " ++ host.shortHostId
  desc := toString ((sketch host).counter (true, true)) ++
    " endpoint(s) unsigned or unconfirmed-signed on all interfaces -- the focal quadrant, out of " ++
    toString (geometryI32 host.endpoints.length) ++ " total."

/-- Exposed endpoints on the right, risky ones below. -/
def cell (quadrant : Bool × Bool) : Box := ⟨if quadrant.1 then 200 else 40, if quadrant.2 then 200 else 40, 160, 160⟩

def cells : List Box := [cell (false, false), cell (true, false), cell (false, true), cell (true, true)]

/-- The place of the marker with this index in its quadrant. -/
def slot (quadrant : Bool × Bool) (index : Nat) : Box :=
  ⟨(cell quadrant).x + 12 + (index % 12 : Nat) * 12, (cell quadrant).y + 12 + (index / 12 : Nat) * 12, 8, 8⟩

/-- How many of these endpoints are in a quadrant. -/
def population (endpoints : List EndpointView) (q : Bool × Bool) : Nat :=
  endpoints.countP (fun endpoint => quadrant endpoint = q)

/-- The marker of an endpoint, from the endpoints before it. -/
def marker (before : List EndpointView) (endpoint : EndpointView) : Box :=
  slot (quadrant endpoint) (population before (quadrant endpoint))

theorem population_concat (before : List EndpointView) (endpoint : EndpointView) (q : Bool × Bool) :
    population (before ++ [endpoint]) q = population before q + if quadrant endpoint = q then 1 else 0 := by
  simp [population, List.countP_append, List.countP_singleton]

theorem quadrant_cases (q : Bool × Bool) :
    ((cellX q).toInt = (cell q).x ∧ (cellY q).toInt = (cell q).y) ∧
    ((cell q).x = 40 ∨ (cell q).x = 200) ∧ ((cell q).y = 40 ∨ (cell q).y = 200) := by
  obtain ⟨exposed, risky⟩ := q
  cases exposed <;> cases risky <;> decide

/-- A slot is in its own cell up to the twelfth row. -/
theorem slot_inside_iff (q : Bool × Bool) (index : Nat) : (slot q index).Inside (cell q) ↔ index < 144 := by
  constructor
  · intro h
    have bottom : (cell q).y + 12 + (index / 12 : Nat) * 12 + 8 ≤ (cell q).y + 160 := h.bottom
    omega
  · intro h
    have col : index % 12 < 12 := Nat.mod_lt _ (by decide)
    refine ⟨?_, ?_, ?_, ?_⟩
    · show (cell q).x ≤ (cell q).x + 12 + (index % 12 : Nat) * 12
      omega
    · show (cell q).x + 12 + (index % 12 : Nat) * 12 + 8 ≤ (cell q).x + 160
      omega
    · show (cell q).y ≤ (cell q).y + 12 + (index / 12 : Nat) * 12
      omega
    · show (cell q).y + 12 + (index / 12 : Nat) * 12 + 8 ≤ (cell q).y + 160
      omega

theorem slots_apart (q : Bool × Bool) {a b : Nat} (h : a ≠ b) : (slot q a).Apart (slot q b) := by
  simp only [Box.Apart, slot]
  omega

theorem cells_apart {q r : Bool × Bool} (h : q ≠ r) : (cell q).Apart (cell r) := by
  have apart : ∀ q r : Bool × Bool, q ≠ r → (cell q).x + 160 ≤ (cell r).x ∨ (cell r).x + 160 ≤ (cell q).x ∨
      (cell q).y + 160 ≤ (cell r).y ∨ (cell r).y + 160 ≤ (cell q).y := by decide
  exact apart q r h

theorem Box.Inside.apart {a b c d : Box} (ha : a.Inside c) (hb : b.Inside d) (h : c.Apart d) : a.Apart b := by
  obtain ⟨left, right, top, bottom⟩ := ha
  obtain ⟨left', right', top', bottom'⟩ := hb
  simp only [Box.Apart] at h ⊢
  omega

/-- So many markers fit before a coordinate would leave the range of `i32`. -/
def capacity : Nat := 2 ^ 31 - 212

theorem toInt_add_of_fits {a b : Int32} (low : 0 ≤ a.toInt + b.toInt) (high : a.toInt + b.toInt < 2 ^ 31) :
    (a + b).toInt = a.toInt + b.toInt := by
  rw [Int32.toInt_add]
  exact Int.bmod_eq_of_le (by omega) (by omega)

/-- A row or a column of markers, at its pitch. -/
theorem toInt_offset {corner place : Int32} (within : corner.toInt = 40 ∨ corner.toInt = 200)
    (low : 0 ≤ place.toInt) (high : place.toInt * 12 < 2 ^ 31 - 212) :
    (corner + 12 + place * (markerSize + 4)).toInt = corner.toInt + 12 + place.toInt * 12 := by
  have pitch : (place * (markerSize + 4)).toInt = place.toInt * 12 := by
    rw [Int32.toInt_mul, show (markerSize + 4).toInt = 12 by decide]
    exact Int.bmod_eq_of_le (by omega) (by omega)
  have twelve : (12 : Int32).toInt = 12 := by decide
  have start : (corner + 12).toInt = corner.toInt + 12 := by
    rw [toInt_add_of_fits (by omega) (by omega), twelve]
  rw [toInt_add_of_fits (by omega) (by omega), start, pitch]

theorem slot_box {q : Bool × Bool} {index : Int32} {n : Nat} (counted : index.toInt = n) (fits : n < capacity)
    (className : String) :
    (rect (cellX q + 12 + index % markersPerRow * (markerSize + 4))
      (cellY q + 12 + index / markersPerRow * (markerSize + 4)) markerSize markerSize className).box =
      some (slot q n) := by
  have bound : capacity = 2 ^ 31 - 212 := rfl
  have perRow : markersPerRow.toInt = 12 := by decide
  have col : (index % markersPerRow).toInt = (n % 12 : Nat) := by
    rw [Int32.toInt_mod, counted, perRow]
    exact (Int.ofNat_tmod n 12).symm
  have row : (index / markersPerRow).toInt = (n / 12 : Nat) := by
    rw [Int32.toInt_div_of_ne_right _ _ (by decide), counted, perRow]
    exact (Int.ofNat_tdiv n 12).symm
  obtain ⟨⟨x, y⟩, left, top⟩ := quadrant_cases q
  rw [← x] at left
  rw [← y] at top
  have placedX : (cellX q + 12 + index % markersPerRow * (markerSize + 4)).toInt = _ :=
    toInt_offset left (by omega) (by omega)
  have placedY : (cellY q + 12 + index / markersPerRow * (markerSize + 4)).toInt = _ :=
    toInt_offset top (by omega) (by omega)
  rw [rect, placedX, placedY, show markerSize.toInt = 8 by decide, col, row,
    box_rect (by omega) (by omega) (by decide) (by decide), x, y]
  rfl

/-- What the loop has drawn of the endpoints it has seen. -/
structure Marked (endpoints : List EndpointView) (sketch : Sketch) : Prop where
  counter : ∀ q, (sketch.counter q).toInt = population endpoints q
  boxes : sketch.calls.filterMap SvgCall.box =
    cells ++ endpoints.mapIdx (fun i endpoint => marker (endpoints.take i) endpoint)

theorem Marked.step {before : List EndpointView} {sketch : Sketch} (h : Marked before sketch)
    (fits : before.length < capacity) (endpoint : EndpointView) :
    Marked (before ++ [endpoint]) (sketch.mark endpoint) := by
  have index := h.counter (quadrant endpoint)
  have few : population before (quadrant endpoint) < capacity :=
    Nat.lt_of_le_of_lt List.countP_le_length fits
  refine ⟨fun q => ?_, ?_⟩
  · have bound : capacity = 2 ^ 31 - 212 := rfl
    have one : (1 : Int32).toInt = 1 := by decide
    rw [population_concat]
    show (Function.update sketch.counter (quadrant endpoint) (sketch.counter (quadrant endpoint) + 1) q).toInt = _
    by_cases same : q = quadrant endpoint
    · subst same
      rw [Function.update_self, if_pos rfl, toInt_add_of_fits (by omega) (by omega), index, one]
      push_cast
      rfl
    · rw [Function.update_of_ne same, if_neg (Ne.symm same)]
      exact h.counter q
  · have drawn : (sketch.mark endpoint).calls.filterMap SvgCall.box =
        sketch.calls.filterMap SvgCall.box ++ [marker before endpoint] := by
      simp only [Sketch.mark, List.filterMap_append]
      rw [List.filterMap_cons_some (slot_box index few _)]
      rfl
    have earlier : before.mapIdx (fun i endpoint => marker (before.take i) endpoint) =
        before.mapIdx (fun i other => marker ((before ++ [endpoint]).take i) other) := by
      apply List.mapIdx_eq_mapIdx_iff.mpr
      intro i hi
      rw [List.take_append_of_le_length (Nat.le_of_lt hi)]
    rw [drawn, h.boxes, List.append_assoc, List.mapIdx_concat, List.take_left, earlier]

theorem sketch_marked {host : HostSection} (fits : host.endpoints.length ≤ capacity) :
    Marked host.endpoints (sketch host) := by
  have from_start : ∀ before after start, Marked before start → (before ++ after).length ≤ capacity →
      Marked (before ++ after) (after.foldl Sketch.mark start) := by
    intro before after
    induction after generalizing before with
    | nil => exact fun start h _ => (List.append_nil before).symm ▸ h
    | cons endpoint after ih =>
      intro start h fits
      have room : before.length < capacity := by
        rw [List.length_append, List.length_cons] at fits
        omega
      have next := ih (before ++ [endpoint]) (start.mark endpoint) (h.step room endpoint)
      rw [List.append_assoc] at next
      exact next fits
  have start : Marked [] ⟨fun _ => 0, frameCalls⟩ := ⟨fun _ => rfl, by decide⟩
  exact from_start [] host.endpoints _ start fits

/-- The markers of a host, in the order of its endpoints. -/
def markers (endpoints : List EndpointView) : List Box :=
  endpoints.mapIdx fun i endpoint => marker (endpoints.take i) endpoint

theorem markers_getElem {endpoints : List EndpointView} {i : Nat} (h : i < (markers endpoints).length) :
    ∃ h' : i < endpoints.length, (markers endpoints)[i] = marker (endpoints.take i) endpoints[i] := by
  have h' : i < endpoints.length := by rwa [markers, List.length_mapIdx] at h
  exact ⟨h', by simp [markers]⟩

theorem population_take_lt {endpoints : List EndpointView} {i j : Nat} (hij : i < j) (hi : i < endpoints.length) :
    population (endpoints.take i) (quadrant endpoints[i]) < population (endpoints.take j) (quadrant endpoints[i]) := by
  have counted : population (endpoints.take (i + 1)) (quadrant endpoints[i]) =
      population (endpoints.take i) (quadrant endpoints[i]) + 1 := by
    rw [← List.take_concat_get' endpoints i hi, population_concat, if_pos rfl]
  have more : population (endpoints.take (i + 1)) (quadrant endpoints[i]) ≤
      population (endpoints.take j) (quadrant endpoints[i]) :=
    (List.take_sublist_take_left hij).countP_le
  omega

/-- Every endpoint has its marker, which is in the cell of its own quadrant
exactly when fewer than 144 earlier endpoints are there too; where no quadrant
has more, no marker is on another. The description counts the quadrant of the
exposed and risky. -/
theorem trustQuadrant_sorts {host : HostSection} (fits : host.endpoints.length ≤ capacity) :
    readMarkup (render host).svg.toList = some [(render host).document] ∧
    (render host).boxes = cells ++ markers host.endpoints ∧
    (markers host.endpoints).length = host.endpoints.length ∧
    (∀ (i : Nat) (h : i < host.endpoints.length) (box : Box), (markers host.endpoints)[i]? = some box →
      (box.Inside (cell (quadrant host.endpoints[i])) ↔
        population (host.endpoints.take i) (quadrant host.endpoints[i]) < 144)) ∧
    ((∀ q, population host.endpoints q ≤ 144) → (markers host.endpoints).Pairwise Box.Apart) ∧
    (render host).desc = toString (population host.endpoints (true, true)) ++
      " endpoint(s) unsigned or unconfirmed-signed on all interfaces -- the focal quadrant, out of " ++
      toString host.endpoints.length ++ " total." := by
  have marked := sketch_marked fits
  have bound : capacity = 2 ^ 31 - 212 := rfl
  refine ⟨(render host).svg_reads, marked.boxes, List.length_mapIdx, ?_, ?_, ?_⟩
  · intro i h box hbox
    obtain ⟨hi, rfl⟩ := List.getElem?_eq_some_iff.mp hbox
    obtain ⟨_, placed⟩ := markers_getElem hi
    rw [placed]
    exact slot_inside_iff ..
  · intro few
    refine List.pairwise_iff_getElem.mpr fun i j hi hj hij => ?_
    obtain ⟨hi', first⟩ := markers_getElem hi
    obtain ⟨hj', second⟩ := markers_getElem hj
    rw [first, second]
    have early : ∀ k (hk : k < host.endpoints.length),
        population (host.endpoints.take k) (quadrant host.endpoints[k]) < 144 := by
      intro k hk
      have before := population_take_lt hk hk
      rw [List.take_length] at before
      exact Nat.lt_of_lt_of_le before (few _)
    by_cases same : quadrant host.endpoints[i] = quadrant host.endpoints[j]
    · have before := population_take_lt hij hi'
      rw [marker, marker, ← same]
      exact slots_apart _ (Nat.ne_of_lt before)
    · have inside := (slot_inside_iff (quadrant host.endpoints[i]) _).mpr (early i hi')
      have inside' := (slot_inside_iff (quadrant host.endpoints[j]) _).mpr (early j hj')
      exact Box.Inside.apart inside inside' (cells_apart same)
  · have counted : toString ((sketch host).counter (true, true)) = toString (population host.endpoints (true, true)) :=
      congrArg toString (marked.counter (true, true))
    have total : geometryI32 host.endpoints.length = host.endpoints.length := if_pos (by omega)
    rw [render, counted, total]
    rfl

theorem trustQuadrant_sorts_listeners :
    (markers listeningHost.endpoints).Pairwise Box.Apart ∧
    (render listeningHost).desc = "1 endpoint(s) unsigned or unconfirmed-signed on all interfaces -- " ++
      "the focal quadrant, out of 2 total." := by
  have fits : listeningHost.endpoints.length ≤ capacity := by decide
  have few : ∀ q, population listeningHost.endpoints q ≤ 144 := by decide
  obtain ⟨-, -, -, -, apart, desc⟩ := trustQuadrant_sorts fits
  exact ⟨apart few, desc.trans (by decide)⟩

end TrustQuadrant

end AnneDeBreuil
