import CardPress.Color
import CardPress.Condition
import CardPress.Style.Dash

/-! Styles of shapes: how they are filled and stroked, and when they are seen. -/
namespace CardPress

inductive PathStyle (α : Type) where
  | stroke (width : α) (color : ColorRef) (pattern : DashPattern)
  | solid (color : ColorRef)
  | onlyIf (condition : Condition)

/-- What a list of styles comes to for one card. -/
structure ShapeStyle (α : Type) where
  fill : Option Color
  strokeColor : Option Color
  strokeWidth : α
  dashes : Option (List α)

/-- The colour that a reference stands for on the card at hand. -/
abbrev ColorResolver := ColorRef → Except Failure Color

namespace PathStyle

variable {α : Type}

def condition? : PathStyle α → Option Condition
  | onlyIf c => some c
  | _ => none

def solid? : PathStyle α → Option ColorRef
  | solid c => some c
  | _ => none

def stroke? : PathStyle α → Option (α × ColorRef × DashPattern)
  | stroke w c p => some (w, c, p)
  | _ => none

end PathStyle

namespace ShapeStyle

variable {α : Type} [Scalar α]

def plain : ShapeStyle α := ⟨none, none, Scalar.zero, none⟩

def hasStroke (s : ShapeStyle α) : Bool := s.strokeColor.isSome && decide (Scalar.zero < s.strokeWidth)

/-- The style of a shape that is seen; the last filling and the last stroke win. -/
def ofVisible (styles : List (PathStyle α)) (resolve : ColorResolver) :
    Except Failure (ShapeStyle α) := do
  let filled : ShapeStyle α ←
    match (styles.filterMap PathStyle.solid?).getLast? with
    | none => pure plain
    | some color => do
      let c ← resolve color
      pure { plain with fill := some c }
  match (styles.filterMap PathStyle.stroke?).getLast? with
  | none => return filled
  | some (width, color, pattern) => do
    let c ← resolve color
    let dashes ← pattern.scaled width
    return { filled with strokeColor := some c, strokeWidth := width, dashes }

/-- The style of a shape on a card; a shape with a condition that fails has none. -/
def resolve (styles : List (PathStyle α)) (card : Card) (resolve : ColorResolver) :
    Except Failure (Option (ShapeStyle α)) := do
  if ← Condition.allHold card (styles.filterMap PathStyle.condition?) then
    return some (← ofVisible styles resolve)
  else return none

end ShapeStyle

end CardPress
