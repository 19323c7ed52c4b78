import CardPress.Number.FloatShape
import CardPress.Template.Scope
import CardPress.Template.Problem

/-! Values of template expressions, and the store for those that can change. -/
namespace CardPress.Template

/-- `absent` is undefined as well: an element that its owner does not have. `safe` text was escaped
before. The mark of a number that is none tells it from others like it. -/
inductive Value where
  | undefined (why : String)
  | absent (owner : String) (key : Value)
  | none
  | bool (b : Bool)
  | whole (n : Int)
  | real (x : Float) (mark : Nat)
  | complex (re im : Float)
  | text (s : String)
  | safe (s : String)
  | tuple (items : List Value)
  | range (start stop step : Int)
  | slice (start stop step : Value)
  | object (id : Nat)
  | type (id : String)
  | method (owner : Value) (id : String)

/-- Where the values of a frame are kept: each depth from `level` on has its cell. -/
structure Home where
  level : Nat
  cell : Nat

/-- The names of a frame, where their values are, and the names outside of the template. `captured` is
the text of the body around a filter; what is assigned at the top is known outside too. -/
structure Frame where
  scope : Scope
  homes : List Home
  context : Nat
  captured : Value := .text ""
  top : Bool := false

/-- What an iterator has still to give. `given` ends in a failure if there is one. -/
inductive Supply where
  | given (rest : List Value) (failure : Option Trouble)
  | list (id next : Nat)
  | listBack (id left : Nat)
  | count (next step : Int) (left : Nat)
  | sifted (source : Nat) (target : Target) (condition : Expr) (frame : Frame) (entered : Bool)

/-- A part of the template that takes arguments. -/
structure Routine where
  id : Option String
  params : List Param
  extras : Extras
  scope : Scope
  homes : List Home
  context : Nat
  body : List Step

/-- How to run a loop again for other items. -/
structure Rerun where
  target : Target
  condition : Option Expr
  testing : Scope
  looping : Scope
  other : Scope
  homes : List Home
  context : Nat
  body : List Step
  otherwise : List Step

/-- A loop at work: `ahead` is an item taken in advance, `place` counts from -1. -/
structure Loop where
  values : Value
  source : Nat
  place : Int := -1
  length : Option Nat := none
  ahead : Option Value := none
  current : Option Value := none
  before : Option Value := none
  last : Option (List Value) := none
  depth : Nat := 0
  rerun : Option Rerun := none

/-- Things that can change. -/
inductive Thing where
  | list (items : Array Value)
  | dict (entries : List (Value × Value))
  | view (kind : String) (id : Nat)
  | iterator (kind : String) (supply : Supply)
  | space (entries : List (Value × Value))
  | loop (l : Loop)
  | routine (r : Routine)
  | cycler (items : List Value) (place : Nat)
  | joiner (separator : Value) (used : Bool)
  | blocks (context : Nat)
  | block (id : String) (context : Nat)

/-- The names that a template finds outside: those it has assigned at its top, and those given to it. -/
structure Outside where
  assigned : List (String × Value) := []
  given : List (String × Value) := []

/-- `out` is what was put out so far in `said` pieces; `stray` is the first piece that is no text, and
its place. -/
structure Store where
  things : Array Thing := #[]
  cells : Array (List (Slot × Value)) := #[]
  contexts : Array Outside := #[]
  blocks : List Block := []
  out : String := ""
  said : Nat := 0
  stray : Option (Nat × Value) := none
  marks : Nat := 0
  escapes : Bool := false

/-- Arguments of a call. -/
structure Arguments where
  args : List Value := []
  named : List (String × Value) := []

abbrev Base := StateT Store (Except Trouble)

/-- What the statements of a template do for its values: run a macro, run a loop once more, and find
the next item that a condition lets through. -/
structure Agents where
  call : Routine → Arguments → Base Value
  rerun : Rerun → Value → Nat → Base Value
  block : String → Nat → Base Value
  sift : Nat → Base (Option Value)

abbrev Run := ReaderT Agents Base

namespace Value

/-- Empty text and the like. -/
def blank : Value := text ""

def isUndefined : Value → Bool
  | undefined _ => true
  | absent .. => true
  | _ => false

/-- The characters of text, marked as safe or not. -/
def text? : Value → Option String
  | text s => some s
  | safe s => some s
  | _ => Option.none

/-- Whole numbers and truth values. -/
def whole? : Value → Option Int
  | whole n => some n
  | bool b => some (if b then 1 else 0)
  | _ => Option.none

def isNumber : Value → Bool
  | real .. => true
  | complex .. => true
  | v => v.whole?.isSome

def missing (id : String) : Value := undefined (Text.quote id ++ " is undefined")

end Value

namespace Run

def trouble {α : Type} (kind : TroubleKind) (text : String) : Run α := throw ⟨kind, text⟩

def typeTrouble {α : Type} (text : String) : Run α := throw (.type text)

def valueTrouble {α : Type} (text : String) : Run α := throw (.value text)

/-- Puts a new thing into the store. -/
def keep (t : Thing) : Run Value := do
  let s ← get
  set { s with things := s.things.push t }
  return .object s.things.size

def thing? (id : Nat) : Run (Option Thing) := do return (← get).things[id]?

def change (id : Nat) (t : Thing) : Run Unit :=
  modify fun s => { s with things := s.things.setIfInBounds id t }

def newList (items : List Value) : Run Value := keep (.list items.toArray)

def newDict (entries : List (Value × Value)) : Run Value := keep (.dict entries)

/-- A number that is none is new each time. -/
def real (x : Float) : Run Value := do
  if x.isNaN then
    let s ← get
    set { s with marks := s.marks + 1 }
    return .real x (s.marks + 1)
  else return .real x 0

/-- An iterator over values that are known. -/
def iterator (kind : String) (rest : List Value) : Run Value := keep (.iterator kind (.given rest none))

/-- The result of an action, or the failure that stopped it. -/
def attempt {α : Type} (act : Run α) : Run (Except Trouble α) := do
  try return .ok (← act)
  catch t => return .error t

end Run

def Thing.kind : Thing → String
  | list _ => "list"
  | dict _ => "dict"
  | view kind _ => kind
  | iterator kind _ => kind
  | space _ => "Namespace"
  | loop _ => "LoopContext"
  | routine _ => "Macro"
  | cycler .. => "Cycler"
  | joiner .. => "Joiner"
  | blocks _ => "TemplateReference"
  | block .. => "BlockReference"

/-- Where the kinds of things come from that are not built in. -/
def Thing.family? : Thing → Option String
  | space _ => some "jinja2.utils"
  | loop _ => some "jinja2.runtime"
  | routine _ => some "jinja2.runtime"
  | cycler .. => some "jinja2.utils"
  | joiner .. => some "jinja2.utils"
  | blocks _ => some "jinja2.runtime"
  | block .. => some "jinja2.runtime"
  | _ => none

namespace Value

def typeName (v : Value) : Run String := do
  match v with
  | undefined _ => return "Undefined"
  | absent .. => return "Undefined"
  | none => return "NoneType"
  | bool _ => return "bool"
  | whole _ => return "int"
  | real .. => return "float"
  | complex .. => return "complex"
  | text _ => return "str"
  | safe _ => return "Markup"
  | tuple _ => return "tuple"
  | range .. => return "range"
  | slice .. => return "slice"
  | type _ => return "type"
  | method owner id =>
    match owner with
    | safe _ =>
      return if ["count", "encode", "endswith", "find", "index", "maketrans", "rfind", "rindex",
        "startswith"].contains id || "is".toList.isPrefixOf id.toList then "builtin_function_or_method"
        else "method"
    | object id =>
      return match ← Run.thing? id with
        | some t => if t.family?.isSome then "method" else "builtin_function_or_method"
        | Option.none => "method"
    | _ => return "builtin_function_or_method"
  | object id => return ((← Run.thing? id).map Thing.kind).getD "object"

/-- How messages call the owner of a missing attribute. -/
def ownerName (v : Value) : Run String := do
  match v with
  | none => return "None"
  | safe _ => return "markupsafe.Markup object"
  | object id =>
    return match ← Run.thing? id with
      | some t => ((t.family?.map (· ++ ".")).getD "") ++ t.kind ++ " object"
      | Option.none => "object"
  | v => return (← v.typeName) ++ " object"

end Value

end CardPress.Template
