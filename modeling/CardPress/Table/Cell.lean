import CardPress.Number.FloatShape
import CardPress.Number.Shortest
import CardPress.Text.Blank

/-! Cells of a table and their text. -/
namespace CardPress

inductive Cell where
  | empty
  | text (s : String)
  | bool (b : Bool)
  | whole (n : Int)
  | real (x : Float)

namespace Cell

/-- A number without a fraction is written as a whole number. -/
def realText (x : Float) : String :=
  match FloatDivision.toWhole x with
  | .ok n => if Float.floor x == x then toString n else Shortest.text x
  | .error _ => Shortest.text x

/-- What a cell says, without the blanks around it. -/
def content : Cell → String
  | empty => ""
  | text s => Text.trim s
  | bool true => "True"
  | bool false => "False"
  | whole n => toString n
  | real x => realText x

/-- What is stored in a workbook for a cell: a formula is stored without a value. -/
def stored : Cell → Cell
  | text s => if s.toList.head? = some '=' then empty else text s
  | c => c

end Cell

end CardPress
