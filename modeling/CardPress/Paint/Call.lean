import CardPress.Layout
import CardPress.Typeset

/-! What is painted, in pixels from the top left corner, where text stands in its frame, and what a page is
asked to do for it. -/
namespace CardPress

inductive PaintCall (α : Type) where
  | save
  | restore
  | translate (x y : α)
  | clip (frame : Frame α)
  | fill (frame : Frame α) (color : Color)
  | stroke (frame : Frame α) (width : α) (color : Color) (dashes : Option (List α))
  | line (x0 y0 x1 y1 width : α) (color : Color)
  | image (picture : Picture) (frame : Frame α)
  | text (runs : List (TextRun α)) (frame : Frame α) (align : Alignment)

/-- A rectangle is stroked or filled, an image fills a rectangle at the origin, and text starts at
the origin. -/
inductive CanvasCall (α : Type) where
  | setTitle (s : String)
  | setAuthor (s : String)
  | setSubject (s : String)
  | setKeywords (s : String)
  | setCreator (s : String)
  | saveState
  | restoreState
  | translate (x y : α)
  | scale (x y : α)
  | clip (frame : Frame α)
  | setFillColor (color : Color)
  | setStrokeColor (color : Color)
  | setStrokeBlack
  | setLineWidth (width : α)
  | setDash (lengths : List α)
  | rect (frame : Frame α) (filled : Bool)
  | line (x0 y0 x1 y1 : α)
  | drawImage (picture : Picture) (width height : α)
  | setFont (name : String) (size : α)
  | drawString (s : String)
  | showPage
  | save

/-- A page, its size in points, and what it was asked to do. -/
structure Canvas (α : Type) where
  width : α
  height : α
  calls : List (CanvasCall α)

/-- A fragment with the place of its left end on the base line and the width that it takes. -/
structure Placed (α : Type) where
  fragment : Fragment α
  x : α
  baseline : α
  width : α

namespace Placed

variable {α : Type} [Scalar α]

/-- How far content is moved to the right; it never starts left of its frame. -/
def alignOffset (available used : α) : Alignment → α
  | .right => Scalar.larger Scalar.zero (available - used)
  | .center => Scalar.larger Scalar.zero ((available - used) / Scalar.ofNat 2)
  | .left | .justify => Scalar.zero

/-- What each blank of a line gains by justification. -/
def blankStretch (frame : Frame α) (align : Alignment) (isLast : Bool) (l : TextLine α) : α :=
  let blanks := (l.fragments.filter (·.isBlank)).length
  if align = .justify && 0 < blanks && !l.isHard && !isLast then
    Scalar.larger Scalar.zero (frame.width - l.width) / Scalar.ofNat blanks
  else Scalar.zero

/-- Fragments side by side from `x` on. -/
def row (stretch baseline : α) (x : α) : List (Fragment α) → List (Placed α)
  | [] => []
  | f :: rest =>
    let width := f.width + (if f.isBlank then stretch else Scalar.zero)
    ⟨f, x, baseline, width⟩ :: row stretch baseline (x + width) rest

def line (frame : Frame α) (align : Alignment) (isLast : Bool) (y : α) (l : TextLine α) :
    List (Placed α) :=
  row (blankStretch frame align isLast l) (y + l.ascent)
    (frame.x + alignOffset frame.width l.width align) l.fragments

/-- Lines one below the other from `y` on. -/
def lines (frame : Frame α) (align : Alignment) (y : α) : List (TextLine α) → List (Placed α)
  | [] => []
  | l :: rest => line frame align rest.isEmpty y l ++ lines frame align (y + l.height) rest

/-- Everything in its place. -/
def text (runs : List (TextRun α)) (frame : Frame α) (align : Alignment) : List (Placed α) :=
  lines frame align frame.y (Typeset.lines runs frame.width)

end Placed

end CardPress
