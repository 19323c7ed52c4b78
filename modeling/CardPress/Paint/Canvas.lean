import CardPress.Font.Registry
import CardPress.Paint.Call

/-! Painting on a page: its points grow upward from the bottom left corner, and what is painted is
turned over to stand upright. -/
namespace CardPress

variable {α : Type} [Scalar α]

namespace PaintCall

def fillCalls (frame : Frame α) (color : Color) : List (CanvasCall α) :=
  if color.isTransparent then [] else [.setFillColor color, .rect frame true]

def imageCalls (picture : Picture) (frame : Frame α) : List (CanvasCall α) :=
  [.saveState, .translate frame.x (frame.y + frame.height),
    .scale (Scalar.ofNat 1) (-Scalar.ofNat 1), .drawImage picture frame.width frame.height,
    .restoreState]

def stringCalls (s : String) (x baseline : α) (run : TextRun α) : List (CanvasCall α) :=
  [.saveState, .translate x baseline, .scale (Scalar.ofNat 1) (-Scalar.ofNat 1),
    .setFont run.font run.size, .setFillColor run.color, .drawString s, .restoreState]

/-- A fragment in its place, over its background; blanks and transparent text leave no string. -/
def placedCalls (p : Placed α) : List (CanvasCall α) :=
  let run := p.fragment.run
  let behind :=
    match run.background with
    | none => []
    | some color =>
      let (above, below) := Typeset.runHeights run
      fillCalls ⟨p.x, p.baseline - above, p.width, above + below⟩ color
  let front :=
    match run.icon with
    | some picture => imageCalls picture ⟨p.x, p.baseline - run.size, p.width, run.size⟩
    | none =>
      if p.fragment.isBlank || run.color.isTransparent then []
      else stringCalls p.fragment.text p.x p.baseline run
  behind ++ front

/-- What a page is asked to do for a call. -/
def canvasCalls : PaintCall α → List (CanvasCall α)
  | save => [.saveState]
  | restore => [.restoreState]
  | translate x y => [.translate x y]
  | clip frame => [.clip frame]
  | fill frame color => fillCalls frame color
  | stroke frame width color dashes =>
    if color.isTransparent then []
    else [.setLineWidth width, .setStrokeColor color, .setDash (dashes.getD []), .rect frame false]
  | line x0 y0 x1 y1 width color =>
    [.setLineWidth width, .setStrokeColor color, .setDash [], .line x0 y0 x1 y1]
  | image picture frame => imageCalls picture frame
  | text runs frame align => (Placed.text runs frame align).flatMap placedCalls

/-- The fonts that a page takes into use for a call. -/
def fontsUsed : PaintCall α → List String
  | text runs frame _ => Typeset.fontsUsed runs (Typeset.lines runs frame.width)
  | _ => []

end PaintCall

namespace CanvasCall

/-- Turns the page over, so that pixels count from the top of a card that is `height` pixels high. -/
def turnOver (height dpi : α) : Except Failure (List (CanvasCall α)) := do
  let scale ← (Scalar.divide (Scalar.ofNat 72) dpi).mapError .arithmetic
  return [.translate Scalar.zero (height * scale), .scale scale (-scale)]

end CanvasCall

end CardPress
