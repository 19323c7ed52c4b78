import CardPress.Style.Path
import CardPress.Style.Text

/-! Layouts: the size of a card and the elements on it, all in pixels from the top left corner. -/
namespace CardPress

/-- Distances from the four sides. -/
structure Insets (α : Type) where
  top : α
  right : α
  bottom : α
  left : α

structure Frame (α : Type) where
  x : α
  y : α
  width : α
  height : α

/-- `cut` is trimmed off the finished card; `dpi` is the resolution. -/
structure Geometry (α : Type) where
  width : α
  height : α
  cut : Insets α
  safe : Insets α
  dpi : α

inductive ScaleMode where
  | fit
  | fill
  | stretch
  | none
  deriving DecidableEq, Repr

inductive Element (α : Type) where
  | background (styles : List (PathStyle α))
  | rectangle (frame : Frame α) (styles : List (PathStyle α))
  | text (contents : CardText) (frame : Frame α) (style : Option String) (styles : List (TextStyle α))
  | image (name : CardText) (frame : Frame α) (scale : ScaleMode)
  | box (frame : Frame α) (children : List (Element α))

structure Layout (α : Type) where
  name : String
  geometry : Geometry α
  basePathStyles : List (PathStyle α)
  baseTextStyles : List (TextStyle α)
  elements : List (Element α)

namespace ScaleMode

def all : List ScaleMode := [fit, fill, stretch, none]

def name : ScaleMode → String
  | fit => "fit"
  | fill => "fill"
  | stretch => "stretch"
  | none => "none"

def ofName? (s : String) : Option ScaleMode := all.find? (·.name = s)

end ScaleMode

variable {α : Type} [Scalar α]

namespace Insets

def zero : Insets α := ⟨Scalar.zero, Scalar.zero, Scalar.zero, Scalar.zero⟩

/-- One value for all sides, two for the vertical and horizontal ones, or four from the top on. -/
def ofList (what : String) : List α → Except Failure (Insets α)
  | [a] => .ok ⟨a, a, a, a⟩
  | [v, h] => .ok ⟨v, h, v, h⟩
  | [t, r, b, l] => .ok ⟨t, r, b, l⟩
  | values => .error (.parse (.sideCount what values.length))

def scaled (i : Insets α) (factor : α) : Insets α :=
  ⟨i.top * factor, i.right * factor, i.bottom * factor, i.left * factor⟩

end Insets

namespace Geometry

def contentWidth (g : Geometry α) : α := g.width - g.cut.left - g.cut.right

def contentHeight (g : Geometry α) : α := g.height - g.cut.top - g.cut.bottom

end Geometry

namespace Frame

def center (f : Frame α) : α × α :=
  (f.x + f.width / Scalar.ofNat 2, f.y + f.height / Scalar.ofNat 2)

end Frame

/-- Pixels at a resolution as points; there are 72 to the inch. -/
def pointsOfPixels (value dpi : α) : Except Failure α :=
  (Scalar.divide (value * Scalar.ofNat 72) dpi).mapError .arithmetic

end CardPress
