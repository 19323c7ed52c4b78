import CardPress.Layout
import CardPress.Xml.Element

/-! The numbers that elements of a document carry in their fields. -/
namespace CardPress

variable {α : Type} [Scalar α]

/-- The value of number text, if it is one that the scalars have. -/
def number? (s : String) : Option α := (Numeral.ofString? s).bind Scalar.ofNumeral?

/-- Numbers apart by blanks or commas. -/
def numbers (what s : String) : Except Failure (List α) :=
  (Text.words (String.ofList (s.toList.map fun c => if c = ',' then ' ' else c))).mapM fun word =>
    match number? word with
    | some x => .ok x
    | none => .error (.parse (.notNumber what word))

/-- Distances from the sides; blank text stands for none. -/
def Insets.ofField (what : String) : Option String → Except Failure (Insets α)
  | none => .ok .zero
  | some s => do
    if Text.trim s = "" then return .zero
    Insets.ofList what (← numbers what s)

namespace Xml.Element

def field (e : Element) (name : String) : Except Failure String :=
  match e.get? name with
  | some s => .ok s
  | none => .error (.parse (.missingField e.tag name))

/-- The number under the first of several spellings that is there. -/
def numberField? (e : Element) : List String → Except Failure (Option α)
  | [] => .ok none
  | name :: more =>
    match e.get? name with
    | none => numberField? e more
    | some s =>
      match number? s with
      | some x => .ok (some x)
      | none => .error (.parse (.fieldNotNumber e.tag name s))

def numberField (e : Element) (names : List String) : Except Failure α := do
  match ← e.numberField? names with
  | some x => return x
  | none => throw (.parse (.missingField e.tag (names.headD "")))

def numberFieldOr (e : Element) (name : String) (default : α) : Except Failure α := do
  return (← e.numberField? [name]).getD default

/-- A field that holds one number, if it is there. -/
def singleNumber? (e : Element) (name : String) : Except Failure (Option α) :=
  match e.get? name with
  | none => .ok none
  | some s => do
    match ← numbers s!"<{e.tag}> {name}" s with
    | [x] => return some x
    | _ => throw (.parse (.notOneNumber e.tag name))

end Xml.Element

end CardPress
