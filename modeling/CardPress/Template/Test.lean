import CardPress.Template.Method
import CardPress.Template.Percent

/-! Tests of values by name. -/
namespace CardPress.Template

/-- A filter or a test. `outside` says that what surrounds the template comes before the value. -/
structure Named where
  module : String
  outside : Bool := false
  signature : Signature

namespace Named

/-- How messages call it. -/
def path (n : Named) : String :=
  let within (name : String) : String := if n.module = "" then name else n.module ++ "." ++ name
  match n.signature with
  | .routine name _ _ => within name
  | .options name _ => within name
  | .nothing path => path
  | .single path => path
  | .places path _ _ _ => path
  | .spread name _ _ => within name

/-- The value and its arguments, one for each parameter. -/
def bind (n : Named) (v : Value) (a : Arguments) : Run (List Value) := do
  if n.outside then return (← n.signature.bind { a with args := .none :: v :: a.args }).drop 1
  else n.signature.bind { a with args := v :: a.args }

end Named

namespace Test

open Value

def plain (id : String) : String × Named :=
  (id, ⟨"jinja2.tests", false, .routine ("test_" ++ id) 0 [⟨"value", Option.none⟩]⟩)

def pair (id second : String) : String × Named :=
  (id, ⟨"jinja2.tests", false,
    .routine ("test_" ++ id) 0 [⟨"value", Option.none⟩, ⟨second, Option.none⟩]⟩)

def listed (id : String) : String × Named :=
  (id, ⟨"jinja2.tests", true,
    .routine ("test_" ++ id) 0 [⟨"env", Option.none⟩, ⟨"value", Option.none⟩]⟩)

def operator (id name : String) : String × Named :=
  (id, ⟨"", false, .places ("_operator." ++ name) name 2 2⟩)

def all : List (String × Named) :=
  ["odd", "even", "defined", "undefined", "none", "boolean", "false", "true", "integer", "float",
    "lower", "upper", "string", "mapping", "number", "sequence", "iterable", "escaped"].map plain ++
  [pair "divisibleby" "num", pair "sameas" "other", pair "in" "seq", listed "filter", listed "test",
   ("callable", ⟨"", false, .single "callable"⟩),
   operator "==" "eq", operator "eq" "eq", operator "equalto" "eq", operator "!=" "ne",
   operator "ne" "ne", operator ">" "gt", operator "gt" "gt", operator "greaterthan" "gt",
   operator "ge" "ge", operator ">=" "ge", operator "<" "lt", operator "lt" "lt",
   operator "lessthan" "lt", operator "<=" "le", operator "le" "le"]

def find? (id : String) : Option Named := all.lookup id

def isRemainder (v : Value) (n r : Int) : Run Bool := do same (← mod v (whole n)) (whole r)

/-- Whether two values are one; each name without a value stands for a new undefined one. -/
def identical (a b : Value) : Run Bool := do
  match a, b with
  | undefined _, _ => return false
  | absent .., _ => return false
  | object i, object j => return i == j
  | real .., real .. => if isSelf a b then return true else same a b
  | tuple .., tuple .. => same a b
  | a, b => if (← a.typeName) == (← b.typeName) then same a b else return false

def canIterate (v : Value) : Run Bool := do
  match ← Run.attempt v.iterate with
  | .ok _ => return true
  | .error t => if t.kind = .type then return false else throw t

def isSequence (v : Value) : Run Bool := do
  match v with
  | object n =>
    return match ← Run.thing? n with
      | some (.list _) => true
      | some (.dict _) => true
      | _ => false
  | v => return (← Run.attempt v.size).isOk

def isCallable (v : Value) : Run Bool := do
  match v with
  | method .. => return true
  | type _ => return true
  | object n =>
    return match ← Run.thing? n with
      | some (.routine _) => true
      | some (.loop _) => true
      | some (.joiner ..) => true
      | some (.block ..) => true
      | _ => false
  | v => return v.isUndefined

def isDict (v : Value) : Run Bool := do
  match v with
  | object n =>
    return match ← Run.thing? n with
      | some (.dict _) => true
      | _ => false
  | _ => return false

def isListed (ids : List String) (v : Value) : Run Bool := do
  hashable v
  return (v.text?.map ids.contains).getD false

def simple (id : String) (v : Value) : Run Bool := do
  match id with
  | "defined" => return !v.isUndefined
  | "undefined" => return v.isUndefined
  | "none" => return match v with | Value.none => true | _ => false
  | "number" => return v.isNumber
  | "string" => return v.text?.isSome
  | "odd" => isRemainder v 2 1
  | "even" => isRemainder v 2 0
  | "boolean" => return match v with | Value.bool _ => true | _ => false
  | "true" => return match v with | Value.bool b => b | _ => false
  | "false" => return match v with | Value.bool b => !b | _ => false
  | "integer" => return match v with | whole _ => true | _ => false
  | "float" => return match v with | real .. => true | _ => false
  | "iterable" => canIterate v
  | "mapping" => isDict v
  | "sequence" => isSequence v
  | "callable" => isCallable v
  | "lower" => return Text.allLower (← v.toText).toList
  | "upper" => return Text.allUpper (← v.toText).toList
  | "escaped" => return v.isSafe
  | "test" => isListed (all.map (·.1)) v
  | _ => return false

def double (id : String) (v w : Value) : Run Bool := do
  match id with
  | "divisibleby" => same (← mod v w) (whole 0)
  | "sameas" => identical v w
  | "in" => compared .member v w
  | "==" => compared .eq v w
  | "eq" => compared .eq v w
  | "equalto" => compared .eq v w
  | "!=" => compared .ne v w
  | "ne" => compared .ne v w
  | "<" => compared .lt v w
  | "lt" => compared .lt v w
  | "lessthan" => compared .lt v w
  | ">" => compared .gt v w
  | "gt" => compared .gt v w
  | "greaterthan" => compared .gt v w
  | "<=" => compared .le v w
  | "le" => compared .le v w
  | ">=" => compared .ge v w
  | "ge" => compared .ge v w
  | _ => return false

/-- Applies a test to a value and arguments; `filters` are the names of all filters. -/
def run (filters : List String) (id : String) (n : Named) (v : Value) (a : Arguments) : Run Bool := do
  match ← n.bind v a with
  | [v] => if id = "filter" then isListed filters v else simple id v
  | [v, w] => double id v w
  | _ => return false

end Test

end CardPress.Template
