import CardPress.Failure
import CardPress.Number.Scalar

/-! Sheets: pages with slots for cards and marks for the cutter, in points from the top left corner. -/
namespace CardPress

inductive Axis where
  | horizontal
  | vertical
  deriving DecidableEq, Repr

namespace Axis

def name : Axis → String
  | horizontal => "horizontal"
  | vertical => "vertical"

def ofName? (s : String) : Option Axis := [horizontal, vertical].find? (·.name = s)

end Axis

/-- A line across the page, `offset` from its top or left side. -/
structure CropLine (α : Type) where
  axis : Axis
  offset : α
  length : α

/-- A place for a card; it is turned clockwise by `rotate` degrees and mirrored along `reflect`. -/
structure Slot (α : Type) where
  x : α
  y : α
  rotate : Option α := none
  reflect : Option Axis := none

structure Sheet (α : Type) where
  pageWidth : α
  pageHeight : α
  cardWidth : α
  cardHeight : α
  cropLines : List (CropLine α)
  slots : List (Slot α)

/-- A line from one point to another, in points from the bottom left corner. -/
structure Segment (α : Type) where
  x0 : α
  y0 : α
  x1 : α
  y1 : α

namespace CropLine

variable {α : Type} [Scalar α]

/-- A line longer than half the page crosses it; any other leaves a mark at both edges. -/
def segments (pageWidth pageHeight : α) (line : CropLine α) : List (Segment α) :=
  match line.axis with
  | .horizontal =>
    let y := pageHeight - line.offset
    if pageWidth / Scalar.ofNat 2 < line.length then [⟨Scalar.zero, y, pageWidth, y⟩]
    else [⟨Scalar.zero, y, line.length, y⟩, ⟨pageWidth - line.length, y, pageWidth, y⟩]
  | .vertical =>
    let x := line.offset
    if pageHeight / Scalar.ofNat 2 < line.length then [⟨x, Scalar.zero, x, pageHeight⟩]
    else [⟨x, pageHeight, x, pageHeight - line.length⟩, ⟨x, line.length, x, Scalar.zero⟩]

end CropLine

def Sheet.segments {α : Type} [Scalar α] (sheet : Sheet α) : List (Segment α) :=
  sheet.cropLines.flatMap (CropLine.segments sheet.pageWidth sheet.pageHeight)

end CardPress
