import AnneDeBreuil.DriftSelf
import AnneDeBreuil.HtmlReport
import AnneDeBreuil.Svg

namespace AnneDeBreuil

/-- Where a rectangle stands in its document. -/
structure Box where
  x : Int
  y : Int
  w : Int
  h : Int
deriving DecidableEq, Repr

def SvgCall.box : SvgCall → Option Box
  | .rect x y w h _ => some ⟨(Grid4.snap x).get, (Grid4.snap y).get, (Grid4.snap w).get, (Grid4.snap h).get⟩
  | _ => none

structure Box.Inside (box frame : Box) : Prop where
  left : frame.x ≤ box.x
  right : box.x + box.w ≤ frame.x + frame.w
  top : frame.y ≤ box.y
  bottom : box.y + box.h ≤ frame.y + frame.h

def Box.Apart (a b : Box) : Prop := a.x + a.w ≤ b.x ∨ b.x + b.w ≤ a.x ∨ a.y + a.h ≤ b.y ∨ b.y + b.h ≤ a.y

/-- A canvas before it is rendered. -/
structure Diagram where
  width : Int
  height : Int
  calls : List SvgCall
  title : String
  desc : String

def Diagram.svg (diagram : Diagram) : String :=
  (diagram.calls.foldl SvgCanvas.draw (.new diagram.width diagram.height)).render diagram.title diagram.desc

/-- The document with these calls, and nothing else in it. -/
def Diagram.document (diagram : Diagram) : Markup :=
  svgDocument diagram.width diagram.height diagram.calls diagram.title diagram.desc

theorem Diagram.svg_reads (diagram : Diagram) : readMarkup diagram.svg.toList = some [diagram.document] :=
  render_reads ..

def Diagram.boxes (diagram : Diagram) : List Box := diagram.calls.filterMap SvgCall.box

def Diagram.frame (diagram : Diagram) : Box := ⟨0, 0, diagram.width, diagram.height⟩

theorem snap_of_dvd {value : Int} (h : 4 ∣ value) : (Grid4.snap value).get = value := Int.tdiv_mul_cancel h

theorem box_rect {x y w h : Int} (hx : 4 ∣ x) (hy : 4 ∣ y) (hw : 4 ∣ w) (hh : 4 ∣ h) (className : String) :
    (SvgCall.rect x y w h className).box = some ⟨x, y, w, h⟩ := by
  rw [SvgCall.box, snap_of_dvd hx, snap_of_dvd hy, snap_of_dvd hw, snap_of_dvd hh]

def nodeDensityThreshold : Nat := 60

def reachabilityFillClass : Reachability → String
  | .localOnly => "svg-fill-local-only"
  | .blocked => "svg-fill-blocked"
  | .allowed => "svg-fill-allowed"
  | .defaultAction => "svg-fill-default-action"
  | .indeterminate => "svg-fill-indeterminate"

def reachabilityRank : Reachability → Nat
  | .allowed => 0
  | .defaultAction => 1
  | .indeterminate => 2
  | .blocked => 3
  | .localOnly => 4

def HostSection.shortHostId (host : HostSection) : String := shortId (uuidText host.hostId.uuid)

/-- `i32::try_from`, or `i32::MAX`. -/
def geometryI32 (value : Nat) : Int := if value ≤ 2147483647 then value else 2147483647

/-- A web server open to all, and a database on loopback. -/
def listeningHost : HostSection :=
  buildHostSection .other (fun _ => none)
    (sampleSnapshot [wildcardListener 443, .new .tcp ⟨.v4 0x7f000001⟩ ⟨5432⟩ none none [] .unknown none] [] [])

end AnneDeBreuil
