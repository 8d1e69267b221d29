import AnneDeBreuil.Diagrams
import AnneDeBreuil.GroupedSort
import AnneDeBreuil.IpDisplay
import Mathlib.Data.List.Dedup
import Mathlib.Data.String.Basic

namespace AnneDeBreuil

namespace ExposureMap

def canvasWidth : Int := 800
def rowHeight : Int := 24
def topMargin : Int := 20
def leftMargin : Int := 20
def hostWidth : Int := 200
def interfaceIndent : Int := 24
def interfaceWidth : Int := 180
def portIndent : Int := 48
def portWidth : Int := 160
def processGap : Int := 172

/-- The map from the text of a bind address to its endpoints. -/
def byInterface (host : HostSection) : List (String × List EndpointView) :=
  (sortByKey id (host.endpoints.map (fun endpoint => endpoint.bindAddress.ip.display)).dedup).map fun interface =>
    (interface, host.endpoints.filter (fun endpoint => endpoint.bindAddress.ip.display = interface))

/-- The order of `(reachability_rank, port)`, as one number. -/
def sortKey (endpoint : EndpointView) : Nat :=
  reachabilityRank endpoint.reachability * 2 ^ 16 + endpoint.port.get.toNat

/-- The loops' state: the next row's `y`, and the calls so far. `render` draws
at most 121 rows, so no sum leaves the range of `i32`. -/
structure Pen where
  y : Int
  calls : List SvgCall

def Pen.row (pen : Pen) (calls : List SvgCall) : Pen := ⟨pen.y + rowHeight, pen.calls ++ calls⟩

def hostCalls (host : HostSection) (y : Int) : List SvgCall :=
  [.rect leftMargin y hostWidth 20 "svg-node",
    .text (leftMargin + 8) (y + 14) ("host " ++ host.shortHostId) "svg-text"]

def interfaceCalls (hostAnchorY y : Int) (interface : String) : List SvgCall :=
  [.line (leftMargin + 8) hostAnchorY (leftMargin + interfaceIndent + 8) (y + 10) "svg-stroke-hairline",
    .rect (leftMargin + interfaceIndent) y interfaceWidth 20 "svg-node",
    .text (leftMargin + interfaceIndent + 8) (y + 14) interface "svg-text-mono"]

def portLabel (endpoint : EndpointView) : String :=
  endpoint.protocol.display ++ "/" ++ toString endpoint.port.get.toNat

def portCalls (interfaceAnchorY y : Int) (endpoint : EndpointView) : List SvgCall :=
  [.line (leftMargin + interfaceIndent + 8) interfaceAnchorY (leftMargin + portIndent + 8) (y + 10)
      "svg-stroke-hairline",
    .rect (leftMargin + portIndent) y portWidth 20 (reachabilityFillClass endpoint.reachability),
    .text (leftMargin + portIndent + 8) (y + 14) (portLabel endpoint) "svg-text-mono"] ++
  match endpoint.processPath with
  | some path => [.text (leftMargin + portIndent + processGap) (y + 14) path.asStr "svg-text-muted"]
  | none => []

/-- One turn of the inner loop. -/
def Pen.port (interfaceAnchorY : Int) (pen : Pen) (endpoint : EndpointView) : Pen :=
  pen.row (portCalls interfaceAnchorY pen.y endpoint)

/-- One turn of the outer loop. -/
def Pen.interface (hostAnchorY : Int) (pen : Pen) (group : String × List EndpointView) : Pen :=
  (sortByKey sortKey group.2).foldl (Pen.port (pen.y + 10)) (pen.row (interfaceCalls hostAnchorY pen.y group.1))

def pen (host : HostSection) : Pen :=
  (byInterface host).foldl (Pen.interface (topMargin + 10)) ((⟨topMargin, []⟩ : Pen).row (hostCalls host topMargin))

def summary (host : HostSection) : Diagram where
  width := canvasWidth
  height := 60
  calls := [.rect leftMargin topMargin 400 24 "svg-node",
    .text (leftMargin + 8) (topMargin + 16) (toString host.endpoints.length ++ " ports, see table for detail")
      "svg-text"]
  title := "Exposure map for host " ++ host.shortHostId ++ " (summarized)"
  desc := toString host.endpoints.length ++ " endpoints exceeds the " ++ toString nodeDensityThreshold ++
    "-node density threshold; rendered as a summary, full detail in the endpoint table"

def render (host : HostSection) : Diagram :=
  if host.endpoints.length > nodeDensityThreshold then summary host
  else
    { width := canvasWidth
      height := topMargin + geometryI32 (1 + (byInterface host).length + host.endpoints.length) * rowHeight + topMargin
      calls := (pen host).calls
      title := "Exposure map for host " ++ host.shortHostId
      desc := toString host.endpoints.length ++ " endpoint(s) across " ++ toString (byInterface host).length ++
        " interface(s), grouped by reachability within each interface" }

/-- What the rows of the map stand for. -/
inductive MapRow
  | host
  | interface (address : String)
  | port (endpoint : EndpointView)

def MapRow.endpoint : MapRow → Option EndpointView
  | .port endpoint => some endpoint
  | _ => none

def MapRow.address : MapRow → Option String
  | .interface address => some address
  | _ => none

def MapRow.label (host : HostSection) : MapRow → String
  | .host => "host " ++ host.shortHostId
  | .interface address => address
  | .port endpoint => portLabel endpoint

/-- A row's box, narrower the deeper it is. -/
def MapRow.box (y : Int) : MapRow → Box
  | .host => ⟨20, y, 200, 20⟩
  | .interface _ => ⟨44, y, 180, 20⟩
  | .port _ => ⟨68, y, 160, 20⟩

def groupRows (group : String × List EndpointView) : List MapRow :=
  .interface group.1 :: (sortByKey sortKey group.2).map .port

/-- The rows from top to bottom. -/
def rows (host : HostSection) : List MapRow := .host :: (byInterface host).flatMap groupRows

@[simp] theorem MapRow.box_y (row : MapRow) (y : Int) : (row.box y).y = y := by
  cases row <;> rfl

@[simp] theorem MapRow.box_h (row : MapRow) (y : Int) : (row.box y).h = 20 := by
  cases row <;> rfl

/-- Every endpoint's row is under the row of its own interface. -/
def UnderInterface : Option String → List MapRow → Prop
  | _, [] => True
  | _, .host :: rows => UnderInterface none rows
  | _, .interface address :: rows => UnderInterface (some address) rows
  | current, .port endpoint :: rows =>
    current = some endpoint.bindAddress.ip.display ∧ UnderInterface current rows

/-- Rows one below the other, from `y` on. -/
def placeRows : Int → List MapRow → List (MapRow × Int)
  | _, [] => []
  | y, row :: rows => (row, y) :: placeRows (y + rowHeight) rows

theorem placeRows_append (above below : List MapRow) (y : Int) :
    placeRows y (above ++ below) = placeRows y above ++ placeRows (y + above.length * rowHeight) below := by
  induction above generalizing y with
  | nil => simp [placeRows]
  | cons row above ih =>
    have next : y + rowHeight + above.length * rowHeight = y + (above.length + 1 : Int) * rowHeight := by
      simp only [rowHeight]
      omega
    simp [placeRows, ih, next]

theorem placeRows_y {rows : List MapRow} {y : Int} {placed : MapRow × Int} (h : placed ∈ placeRows y rows) :
    y ≤ placed.2 ∧ placed.2 + rowHeight ≤ y + rows.length * rowHeight ∧ placed.1 ∈ rows := by
  induction rows generalizing y with
  | nil => cases h
  | cons row rows ih =>
    simp only [rowHeight, List.length_cons] at ih ⊢
    obtain rfl | h := List.mem_cons.mp h
    · refine ⟨Int.le_refl _, ?_, List.mem_cons_self⟩
      push_cast
      omega
    · obtain ⟨low, high, mem⟩ := ih h
      push_cast
      simp only [rowHeight] at low high
      exact ⟨by omega, by omega, List.mem_cons_of_mem _ mem⟩

theorem placeRows_below (rows : List MapRow) (y : Int) :
    (placeRows y rows).Pairwise (fun above below => above.2 + rowHeight ≤ below.2) := by
  induction rows generalizing y with
  | nil => exact .nil
  | cons row rows ih => exact .cons (fun _ h => (placeRows_y h).1) (ih _)

/-- What drawing these rows adds to a pen. -/
structure Draws (host : HostSection) (pen pen' : Pen) (rows : List MapRow) : Prop where
  y : pen'.y = pen.y + rows.length * rowHeight
  kept : pen.calls ⊆ pen'.calls
  boxes : pen'.calls.filterMap SvgCall.box =
    pen.calls.filterMap SvgCall.box ++ (placeRows pen.y rows).map (fun placed => placed.1.box placed.2)
  labels : ∀ placed ∈ placeRows pen.y rows, ∃ className,
    .text ((placed.1.box placed.2).x + 8) (placed.2 + 14) (placed.1.label host) className ∈ pen'.calls

section

variable {host : HostSection} {pen pen' pen'' : Pen}

theorem Draws.nil : Draws host pen pen [] :=
  ⟨by simp, fun _ h => h, by simp [placeRows], fun _ h => absurd h List.not_mem_nil⟩

theorem Draws.append {above below : List MapRow} (first : Draws host pen pen' above)
    (second : Draws host pen' pen'' below) : Draws host pen pen'' (above ++ below) where
  y := by
    rw [second.y, first.y, List.length_append]
    simp only [rowHeight]
    push_cast
    omega
  kept := fun _ h => second.kept (first.kept h)
  boxes := by rw [second.boxes, first.boxes, placeRows_append, first.y, List.map_append, List.append_assoc]
  labels := by
    intro placed h
    rw [placeRows_append, List.mem_append, ← first.y] at h
    cases h with
    | inl h =>
      obtain ⟨className, mem⟩ := first.labels placed h
      exact ⟨className, second.kept mem⟩
    | inr h => exact second.labels placed h

theorem Pen.row_draws {calls : List SvgCall} {row : MapRow} (box : calls.filterMap SvgCall.box = [row.box pen.y])
    (label : ∃ className, .text ((row.box pen.y).x + 8) (pen.y + 14) (row.label host) className ∈ calls) :
    Draws host pen (pen.row calls) [row] where
  y := by simp [Pen.row]
  kept := List.subset_append_left ..
  boxes := by rw [Pen.row, List.filterMap_append, box]; rfl
  labels := by
    intro placed h
    obtain rfl := List.mem_singleton.mp h
    obtain ⟨className, mem⟩ := label
    exact ⟨className, List.mem_append_right _ mem⟩

theorem Pen.port_draws (aligned : 4 ∣ pen.y) (interfaceAnchorY : Int) (endpoint : EndpointView) :
    Draws host pen (pen.port interfaceAnchorY endpoint) [.port endpoint] := by
  apply Pen.row_draws
  · have path : ∀ path : Option ProcessPath, (match path with
        | some path => [SvgCall.text (leftMargin + portIndent + processGap) (pen.y + 14) path.asStr "svg-text-muted"]
        | none => []).filterMap SvgCall.box = [] := by
      intro path
      cases path with
      | none => rfl
      | some path => rfl
    rw [portCalls, List.filterMap_append, path, List.filterMap_cons_none rfl,
      List.filterMap_cons_some (box_rect (by decide) aligned (by decide) (by decide) _), List.filterMap_cons_none rfl]
    rfl
  · exact ⟨"svg-text-mono", by simp [portCalls, MapRow.box, MapRow.label, leftMargin, portIndent]⟩

theorem Pen.ports_draws (interfaceAnchorY : Int) (endpoints : List EndpointView) (aligned : 4 ∣ pen.y) :
    Draws host pen (endpoints.foldl (Pen.port interfaceAnchorY) pen) (endpoints.map .port) := by
  induction endpoints generalizing pen with
  | nil => exact .nil
  | cons endpoint endpoints ih =>
    have first : Draws host pen (pen.port interfaceAnchorY endpoint) [.port endpoint] :=
      Pen.port_draws aligned interfaceAnchorY endpoint
    have aligned' : 4 ∣ (pen.port interfaceAnchorY endpoint).y := by
      simp only [first.y, rowHeight]
      omega
    exact first.append (ih aligned')

theorem Pen.interface_draws (hostAnchorY : Int) (group : String × List EndpointView) (aligned : 4 ∣ pen.y) :
    Draws host pen (pen.interface hostAnchorY group) (groupRows group) := by
  have heading : Draws host pen (pen.row (interfaceCalls hostAnchorY pen.y group.1)) [.interface group.1] := by
    apply Pen.row_draws
    · rw [interfaceCalls, List.filterMap_cons_none rfl,
        List.filterMap_cons_some (box_rect (by decide) aligned (by decide) (by decide) _), List.filterMap_cons_none rfl]
      rfl
    · exact ⟨"svg-text-mono", by simp [interfaceCalls, MapRow.box, MapRow.label, leftMargin, interfaceIndent]⟩
  have aligned' : 4 ∣ (pen.row (interfaceCalls hostAnchorY pen.y group.1)).y := by
    simp only [heading.y, rowHeight]
    omega
  exact heading.append (Pen.ports_draws (pen.y + 10) _ aligned')

theorem Pen.interfaces_draws (hostAnchorY : Int) (groups : List (String × List EndpointView)) (aligned : 4 ∣ pen.y) :
    Draws host pen (groups.foldl (Pen.interface hostAnchorY) pen) (groups.flatMap groupRows) := by
  induction groups generalizing pen with
  | nil => exact .nil
  | cons group groups ih =>
    have first : Draws host pen (pen.interface hostAnchorY group) (groupRows group) :=
      Pen.interface_draws hostAnchorY group aligned
    have aligned' : 4 ∣ (pen.interface hostAnchorY group).y := by
      simp only [first.y, rowHeight]
      omega
    exact first.append (ih aligned')

end

/-- The map draws its rows, from the top margin on. -/
theorem pen_draws (host : HostSection) : Draws host ⟨topMargin, []⟩ (pen host) (rows host) := by
  have top : Draws host ⟨topMargin, []⟩ ((⟨topMargin, []⟩ : Pen).row (hostCalls host topMargin)) [.host] := by
    apply Pen.row_draws
    · rfl
    · exact ⟨"svg-text", by simp [hostCalls, MapRow.box, MapRow.label, leftMargin]⟩
  have aligned : 4 ∣ ((⟨topMargin, []⟩ : Pen).row (hostCalls host topMargin)).y := by
    simp only [Pen.row, topMargin, rowHeight]
    omega
  exact top.append (Pen.interfaces_draws _ _ aligned)

theorem interfaces_sorted (host : HostSection) : ((byInterface host).map Prod.fst).Pairwise (· < ·) := by
  have texts : (byInterface host).map Prod.fst =
      sortByKey id (host.endpoints.map (fun endpoint => endpoint.bindAddress.ip.display)).dedup := by
    simp [byInterface, Function.comp_def]
  have distinct := (sortByKey_perm id (host.endpoints.map (fun endpoint =>
    endpoint.bindAddress.ip.display)).dedup).nodup_iff.mpr (List.nodup_dedup _)
  rw [texts]
  exact ((sortByKey_sorted id _).and distinct).imp fun h => lt_of_le_of_ne h.1 h.2

theorem mem_addresses {host : HostSection} {address : String} : address ∈ (byInterface host).map Prod.fst ↔
    ∃ endpoint ∈ host.endpoints, endpoint.bindAddress.ip.display = address := by
  simp [byInterface, Function.comp_def]

theorem groupRows_addresses (group : String × List EndpointView) :
    (groupRows group).filterMap MapRow.address = [group.1] := by
  have ports : ((sortByKey sortKey group.2).map MapRow.port).filterMap MapRow.address = [] := by
    rw [List.filterMap_map]
    exact List.filterMap_eq_nil_iff.mpr fun _ _ => rfl
  show group.1 :: ((sortByKey sortKey group.2).map MapRow.port).filterMap MapRow.address = [group.1]
  rw [ports]

theorem rows_addresses (host : HostSection) :
    (rows host).filterMap MapRow.address = (byInterface host).map Prod.fst := by
  rw [rows, List.filterMap_cons_none rfl, List.filterMap_flatMap, List.map_eq_flatMap]
  exact List.flatMap_congr fun group _ => groupRows_addresses group

/-- Only the first row is the host's. -/
theorem rows_host (host : HostSection) : ∃ below, rows host = .host :: below ∧ ∀ row ∈ below, row ≠ .host := by
  refine ⟨_, rfl, fun row hrow => ?_⟩
  obtain ⟨group, -, hrow⟩ := List.mem_flatMap.mp hrow
  obtain rfl | hrow := List.mem_cons.mp hrow
  · simp
  · obtain ⟨endpoint, -, rfl⟩ := List.mem_map.mp hrow
    simp

theorem groupRows_endpoints (group : String × List EndpointView) :
    (groupRows group).filterMap MapRow.endpoint = sortByKey sortKey group.2 := by
  rw [groupRows, List.filterMap_cons_none rfl, List.filterMap_map]
  exact List.filterMap_some

/-- The map shows every endpoint once, by its interface, then by its
reachability, then by its port; what ties keeps the report's order. -/
theorem rows_endpoints (host : HostSection) : (rows host).filterMap MapRow.endpoint =
    sortByKey (fun endpoint => toLex (endpoint.bindAddress.ip.display, sortKey endpoint)) host.endpoints := by
  have complete : ∀ endpoint ∈ host.endpoints, endpoint.bindAddress.ip.display ∈ (byInterface host).map Prod.fst :=
    fun endpoint h => mem_addresses.mpr ⟨endpoint, h, rfl⟩
  have grouped : ((byInterface host).map Prod.fst).flatMap (fun interface => sortByKey sortKey
      (host.endpoints.filter (fun endpoint => endpoint.bindAddress.ip.display = interface))) = _ :=
    flatMap_groups_eq_sortByKey (interfaces_sorted host) complete
  rw [rows, List.filterMap_cons_none rfl, List.filterMap_flatMap, ← grouped, List.flatMap_map]
  refine List.flatMap_congr fun group hgroup => ?_
  obtain ⟨interface, -, rfl⟩ := List.mem_map.mp hgroup
  rw [groupRows_endpoints]

theorem rows_length (host : HostSection) :
    (rows host).length = 1 + (byInterface host).length + host.endpoints.length := by
  have ports : ((byInterface host).flatMap groupRows).length =
      (byInterface host).length + (((byInterface host).flatMap groupRows).filterMap MapRow.endpoint).length := by
    induction byInterface host with
    | nil => rfl
    | cons group groups ih =>
      rw [List.flatMap_cons, List.filterMap_append, List.length_append, List.length_append, ih, groupRows_endpoints]
      simp [groupRows]
      omega
  have shown := congrArg List.length (rows_endpoints host)
  rw [rows, List.filterMap_cons_none rfl, (sortByKey_perm _ _).length_eq] at shown
  rw [rows, List.length_cons, ports, shown]
  omega

theorem mem_byInterface {host : HostSection} {group : String × List EndpointView} (h : group ∈ byInterface host) :
    ∀ endpoint ∈ group.2, endpoint.bindAddress.ip.display = group.1 := by
  obtain ⟨interface, -, rfl⟩ := List.mem_map.mp h
  intro endpoint hendpoint
  exact of_decide_eq_true (List.mem_filter.mp hendpoint).2

theorem underInterface_ports (interface : String) (rest : List MapRow) (endpoints : List EndpointView)
    (own : ∀ endpoint ∈ endpoints, endpoint.bindAddress.ip.display = interface)
    (later : ∀ current, UnderInterface current rest) :
    UnderInterface (some interface) (endpoints.map .port ++ rest) := by
  induction endpoints with
  | nil => exact later _
  | cons endpoint endpoints ih =>
    obtain ⟨first, own⟩ := List.forall_mem_cons.mp own
    exact ⟨congrArg some first.symm, ih own⟩

theorem rows_nested (host : HostSection) : UnderInterface none (rows host) := by
  have groups : ∀ groups : List (String × List EndpointView),
      (∀ group ∈ groups, ∀ endpoint ∈ group.2, endpoint.bindAddress.ip.display = group.1) →
      ∀ current, UnderInterface current (groups.flatMap groupRows) := by
    intro groups own
    induction groups with
    | nil => exact fun _ => trivial
    | cons group groups ih =>
      intro current
      obtain ⟨first, own⟩ := List.forall_mem_cons.mp own
      exact underInterface_ports group.1 _ _ (fun endpoint h => first endpoint (mem_sortByKey.mp h)) (ih own)
  exact groups _ (fun group h => mem_byInterface h) none

theorem byInterface_length_le (host : HostSection) : (byInterface host).length ≤ host.endpoints.length := by
  rw [byInterface, List.length_map, (sortByKey_perm _ _).length_eq]
  have shorter := (List.dedup_sublist (host.endpoints.map fun endpoint => endpoint.bindAddress.ip.display)).length_le
  rwa [List.length_map] at shorter

section

variable {host : HostSection} (few : host.endpoints.length ≤ nodeDensityThreshold)
include few

theorem render_calls : (render host).calls = (pen host).calls := by
  rw [render, if_neg (Nat.not_lt.mpr few)]

theorem render_boxes :
    (render host).boxes = (placeRows 20 (rows host)).map (fun placed => placed.1.box placed.2) := by
  rw [Diagram.boxes, render_calls few]
  exact (pen_draws host).boxes

/-- The canvas is as high as its rows. -/
theorem render_frame : (render host).frame = ⟨0, 0, 800, 20 + ((rows host).length : Int) * 24 + 20⟩ := by
  have short : 1 + (byInterface host).length + host.endpoints.length ≤ 2147483647 := by
    have interfaces := byInterface_length_le host
    have threshold : nodeDensityThreshold = 60 := rfl
    omega
  rw [render, if_neg (Nat.not_lt.mpr few), Diagram.frame, geometryI32, if_pos short, rows_length]
  rfl

theorem boxes_apart : (render host).boxes.Pairwise Box.Apart := by
  rw [render_boxes few]
  refine List.pairwise_map.mpr ((placeRows_below _ _).imp ?_)
  intro above below apart
  have lower : above.2 + 24 ≤ below.2 := apart
  refine .inr (.inr (.inl ?_))
  rw [MapRow.box_y, MapRow.box_y, MapRow.box_h]
  omega

theorem boxes_inside : ∀ box ∈ (render host).boxes, box.Inside (render host).frame := by
  intro box hbox
  rw [render_boxes few] at hbox
  obtain ⟨⟨row, y⟩, hplaced, rfl⟩ := List.mem_map.mp hbox
  obtain ⟨low, high, -⟩ := placeRows_y hplaced
  simp only [rowHeight] at low high
  have within : 20 ≤ (row.box y).x ∧ (row.box y).x + (row.box y).w ≤ 228 := by
    cases row <;> simp [MapRow.box]
  rw [render_frame few]
  refine ⟨?_, ?_, ?_, ?_⟩
  · show 0 ≤ (row.box y).x
    omega
  · show (row.box y).x + (row.box y).w ≤ 0 + 800
    omega
  · show 0 ≤ (row.box y).y
    rw [MapRow.box_y]
    omega
  · show (row.box y).y + (row.box y).h ≤ 0 + (20 + ((rows host).length : Int) * 24 + 20)
    rw [MapRow.box_y, MapRow.box_h]
    omega

end

/-- Up to the density threshold the map has one labelled box for the host, one
for each address that an endpoint is bound to and one for each endpoint, none on
another and none outside of the canvas, each address above its own endpoints. -/
theorem exposureMap_shows {host : HostSection} (few : host.endpoints.length ≤ nodeDensityThreshold) :
    readMarkup (render host).svg.toList = some [(render host).document] ∧
    (render host).boxes = (placeRows 20 (rows host)).map (fun placed => placed.1.box placed.2) ∧
    (∀ placed ∈ placeRows 20 (rows host), ∃ className,
      .text ((placed.1.box placed.2).x + 8) (placed.2 + 14) (placed.1.label host) className ∈ (render host).calls) ∧
    (∃ below, rows host = .host :: below ∧ ∀ row ∈ below, row ≠ .host) ∧
    ((rows host).filterMap MapRow.address).Pairwise (· < ·) ∧
    (∀ address, address ∈ (rows host).filterMap MapRow.address ↔
      ∃ endpoint ∈ host.endpoints, endpoint.bindAddress.ip.display = address) ∧
    (rows host).filterMap MapRow.endpoint =
      sortByKey (fun endpoint => toLex (endpoint.bindAddress.ip.display, sortKey endpoint)) host.endpoints ∧
    UnderInterface none (rows host) ∧
    (render host).boxes.Pairwise Box.Apart ∧ ∀ box ∈ (render host).boxes, box.Inside (render host).frame := by
  refine ⟨(render host).svg_reads, render_boxes few, ?_, rows_host host, ?_, ?_, rows_endpoints host, rows_nested host,
    boxes_apart few, boxes_inside few⟩
  · rw [render_calls few]
    exact (pen_draws host).labels
  · rw [rows_addresses]
    exact interfaces_sorted host
  · intro address
    rw [rows_addresses]
    exact mem_addresses

theorem exposureMap_shows_listeners :
    listeningHost.endpoints.length = 2 ∧ (render listeningHost).boxes.Pairwise Box.Apart ∧
    ∀ box ∈ (render listeningHost).boxes, box.Inside (render listeningHost).frame := by
  have two : listeningHost.endpoints.length = 2 := by decide
  have few : listeningHost.endpoints.length ≤ nodeDensityThreshold := by
    rw [two]
    decide
  exact ⟨two, (exposureMap_shows few).2.2.2.2.2.2.2.2⟩

end ExposureMap

end AnneDeBreuil
