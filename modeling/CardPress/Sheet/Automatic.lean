import CardPress.Layout
import CardPress.Sheet
import CardPress.Sheet.Size

/-! Automatic placement: a grid that fills the page inside its margins. -/
namespace CardPress

inductive GridAlignment where
  | left
  | center
  | right
  deriving DecidableEq, Repr

namespace GridAlignment

def name : GridAlignment → String
  | left => "left"
  | center => "center"
  | right => "right"

def ofName (s : String) : Except Failure GridAlignment :=
  match [left, center, right].find? (·.name = s) with
  | some a => .ok a
  | none => .error (.configuration (.badAlignment s))

end GridAlignment

/-- How far crop lines reach: over the margins or over the whole page. -/
inductive CropLength where
  | margin
  | full
  deriving DecidableEq, Repr

namespace CropLength

def name : CropLength → String
  | margin => "margin"
  | full => "full"

def ofName? (s : String) : Option CropLength := [margin, full].find? (·.name = s)

end CropLength

/-- Distances between rows and between columns. -/
structure Gutter (α : Type) where
  vertical : α
  horizontal : α

structure AutomaticPlacement (α : Type) where
  margins : Insets α
  gutter : Gutter α
  align : GridAlignment
  crop : Option CropLength

variable {α : Type} [Scalar α]

namespace Gutter

def zero : Gutter α := ⟨Scalar.zero, Scalar.zero⟩

def ofList : List α → Except Failure (Gutter α)
  | [g] => .ok ⟨g, g⟩
  | [v, h] => .ok ⟨v, h⟩
  | values => .error (.configuration (.badGutter values.length))

def scaled (g : Gutter α) (factor : α) : Gutter α := ⟨g.vertical * factor, g.horizontal * factor⟩

end Gutter

/-- Margins from one, two or four values. -/
def Insets.marginsOfList (values : List α) : Except Failure (Insets α) :=
  (Insets.ofList "margins" values).mapError fun _ => .configuration (.badMargins values.length)

/-- How many items fit with gaps between them. -/
def fitCount (available item gap : α) : Except Failure Nat :=
  if item ≤ Scalar.zero then .ok 0
  else
    match Scalar.floorDivide (available + gap) (item + gap) with
    | .ok n => .ok n.toNat
    | .error f => .error (.arithmetic f)

/-- Columns and rows by the offsets of their left and top sides. -/
structure Grid (α : Type) where
  xs : List α
  ys : List α

namespace Grid

/-- The offsets of `count` items from `start` on. -/
def offsets (start step : α) (count : Nat) : List α :=
  (List.range count).map fun k => start + Scalar.ofNat k * step

/-- Slots column by column, each from the top down. -/
def slots (g : Grid α) : List (Slot α) := g.xs.flatMap fun x => g.ys.map fun y => { x, y }

/-- The edges that are cut: both sides of each item, where neighbours touch only one of them. -/
def edges (offsets : List α) (item gap : α) : List α :=
  match offsets with
  | [] => []
  | [x] => [x, x + item]
  | x :: more => (if Scalar.zero < gap then [x, x + item] else [x]) ++ edges more item gap

end Grid

namespace AutomaticPlacement

/-- The grid on a page; margins and gutter are in points. -/
def grid (align : GridAlignment) (margins : Insets α) (gutter : Gutter α) (page card : Size α) :
    Except Failure (Grid α) := do
  let contentWidth := page.width - margins.left - margins.right
  let contentHeight := page.height - margins.top - margins.bottom
  let columns ← fitCount contentWidth card.width gutter.horizontal
  let rows ← fitCount contentHeight card.height gutter.vertical
  if columns = 0 || rows = 0 then return ⟨[], []⟩
  let used := Scalar.ofNat columns * card.width + Scalar.ofNat (columns - 1) * gutter.horizontal
  let leftover := contentWidth - used
  let left :=
    match align with
    | .left => margins.left
    | .center => margins.left + leftover / Scalar.ofNat 2
    | .right => margins.left + leftover
  return ⟨Grid.offsets left (card.width + gutter.horizontal) columns,
    Grid.offsets margins.top (card.height + gutter.vertical) rows⟩

/-- Crop lines along the edges of a grid; lines of no length are left out. -/
def cropLines (crop : CropLength) (margins : Insets α) (gutter : Gutter α) (page card : Size α)
    (g : Grid α) : List (CropLine α) :=
  let (down, across) :=
    match crop with
    | .full => (page.height, page.width)
    | .margin => (Scalar.smaller margins.top margins.bottom, Scalar.smaller margins.left margins.right)
  let vertical := (Grid.edges g.xs card.width gutter.horizontal).map fun x => ⟨.vertical, x, down⟩
  let horizontal := (Grid.edges g.ys card.height gutter.vertical).map fun y => ⟨.horizontal, y, across⟩
  (vertical ++ horizontal).filter fun line => Scalar.zero < line.length

/-- Slots and crop lines on a page; `scale` is the size of the unit of margins and gutter. -/
def compile (p : AutomaticPlacement α) (page card : Size α) (scale : α) :
    Except Failure (List (Slot α) × List (CropLine α)) := do
  let margins := p.margins.scaled scale
  let gutter := p.gutter.scaled scale
  let g ← grid p.align margins gutter page card
  let lines :=
    match p.crop with
    | none => []
    | some crop => cropLines crop margins gutter page card g
  return (g.slots, lines)

end AutomaticPlacement

end CardPress
