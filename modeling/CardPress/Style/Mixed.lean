import CardPress.Style.Path
import CardPress.Style.Text

/-! Lists in which styles of shapes and of text stand together, and are refused where they do not
belong. -/
namespace CardPress

inductive Style (α : Type) where
  | path (s : PathStyle α)
  | text (s : TextStyle α)

namespace Style

variable {α : Type}

def condition? : Style α → Option Condition
  | path (.onlyIf c) => some c
  | text (.onlyIf c) => some c
  | _ => none

/-- A condition belongs to both kinds. -/
def asPath : Style α → Except Failure (PathStyle α)
  | path s => .ok s
  | text (.onlyIf c) => .ok (.onlyIf c)
  | text _ => .error (.fault .misplacedStyle)

def asText : Style α → Except Failure (TextStyle α)
  | text s => .ok s
  | path (.onlyIf c) => .ok (.onlyIf c)
  | path _ => .error (.fault .misplacedStyle)

variable [Scalar α]

/-- The style of a shape; conditions are asked before a misplaced style is refused. -/
def shape (styles : List (Style α)) (card : Card) (resolve : ColorResolver) :
    Except Failure (Option (ShapeStyle α)) := do
  if ← Condition.allHold card (styles.filterMap condition?) then
    let paths ← styles.mapM asPath
    return some (← ShapeStyle.ofVisible paths resolve)
  else return none

def cascade (s : FlatTextStyle α) (styles : List (Style α)) : Except Failure (FlatTextStyle α) := do
  let texts ← styles.mapM asText
  return s.apply texts

end Style

end CardPress
