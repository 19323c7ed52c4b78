import CardPress.CardText
import CardPress.Report
import CardPress.Text.Case

/-! Conditions that show or hide what they stand with, card by card. -/
namespace CardPress

/-- `other` is an operator without a meaning; applying it is a fault. -/
inductive Operator where
  | equal
  | unequal
  | among
  | notAmong
  | other (text : String)
  deriving DecidableEq, Repr

namespace Operator

def text : Operator → String
  | equal => "="
  | unequal => "!="
  | among => "in"
  | notAmong => "not in"
  | other text => text

def ofText (s : String) : Operator :=
  ([equal, unequal, among, notAmong].find? (·.text = s)).getD (.other s)

/-- Reads an operator; blank text stands for none. -/
def ofString? (s : String) : Except Failure (Option Operator) :=
  let name := Text.lower (String.intercalate " " (Text.words s))
  if name = "" then .ok none
  else
    match ofText (if name = "==" then "=" else name) with
    | .other _ => .error (.parse (.badOperator s))
    | op => .ok (some op)

def comparesOne : Operator → Bool
  | equal | unequal => true
  | _ => false

/-- Whether the operator holds between a text and the texts at its right. -/
def holds (op : Operator) (left : String) (right : List String) : Except Failure Bool :=
  match op with
  | equal => .ok (right.head? = some left)
  | unequal =>
    match right with
    | [] => .ok false
    | first :: _ => .ok (left != first)
  | among => .ok (right.contains left)
  | notAmong => .ok (!right.contains left)
  | other text => .error (.fault (.unknownOperator text))

end Operator

/-- Without an operator the left text alone counts: it holds unless it is empty. -/
structure Condition where
  left : CardText
  operator : Option Operator
  right : List CardText

namespace Condition

/-- Makes a condition and warns where right values will not count. -/
def make (left : CardText) (operator : Option Operator) (right : List CardText) :
    Report Condition := do
  match operator with
  | some op =>
    if op.comparesOne && 1 < right.length then
      warn (.onlyFirstCompared left.source op.text right.length)
  | none => pure ()
  return ⟨left, operator, right⟩

def holds (c : Condition) (card : Card) : Except Failure Bool := do
  let left ← c.left.render card
  let right ← c.right.mapM (·.render card)
  match c.operator with
  | none => return left != ""
  | some op => op.holds left right

/-- Whether all conditions hold, up to the first that does not. -/
def allHold (card : Card) : List Condition → Except Failure Bool
  | [] => .ok true
  | c :: rest => do
    if ← c.holds card then allHold card rest else return false

end Condition

end CardPress
