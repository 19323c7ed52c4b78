import CardPress.Template.Filter
import CardPress.Template.Frame

/-! Calling values. -/
namespace CardPress.Template

namespace Value

/-- The things that every template knows by name. -/
def everywhere : List (String × Value) :=
  ["range", "dict", "lipsum", "cycler", "joiner", "namespace"].map fun id => (id, type id)

def bound (v : Value) : Run Int := do
  match v.whole? with
  | some n => return n
  | Option.none => notAWhole v

def makeRange (a : Arguments) : Run Value := do
  match ← (Signature.places "range" "range" 1 3).bind a with
  | [stop] => return range 0 (← bound stop) 1
  | [start, stop] => return range (← bound start) (← bound stop) 1
  | [start, stop, step] =>
    let start ← bound start
    let stop ← bound stop
    let step ← bound step
    if step = 0 then Run.valueTrouble "range() arg 3 must not be zero" else return range start stop step
  | _ => return none

def makeJoiner (a : Arguments) : Run Value := do
  let signature := Signature.routine "Joiner.__init__" 0
    [⟨"self", Option.none⟩, ⟨"sep", some (text ", ")⟩]
  match ← signature.bind { a with args := none :: a.args } with
  | [_, separator] => Run.keep (.joiner separator false)
  | _ => return none

def makeCycler (a : Arguments) : Run Value := do
  match a.named with
  | (id, _) :: _ => Run.typeTrouble s!"Cycler.__init__() got an unexpected keyword argument '{id}'"
  | [] =>
    if a.args.isEmpty then Run.trouble .runtime "at least one item has to be provided"
    else Run.keep (.cycler a.args 0)

/-- Makes a value of a type. -/
def make (id : String) (a : Arguments) : Run Value := do
  match id with
  | "range" => makeRange a
  | "dict" => Run.newDict (← updated "dict" [] a)
  | "namespace" => Run.keep (.space (← updated "dict" [] a))
  | "cycler" => makeCycler a
  | "joiner" => makeJoiner a
  | "str" => return text (← (a.args.head?.getD blank).toText)
  | "list" => Run.newList (← (a.args.head?.getD (tuple [])).items)
  | "tuple" => return tuple (← (a.args.head?.getD (tuple [])).items)
  | "bool" => return bool (← (a.args.head?.getD none).truth)
  | _ => return none

/-- A loop that was marked for it runs again for other items, one level deeper. -/
def callLoop (l : Loop) (a : Arguments) : Run Value := do
  let signature := Signature.routine "LoopContext.__call__" 0
    [⟨"self", Option.none⟩, ⟨"iterable", Option.none⟩]
  match ← signature.bind { a with args := none :: a.args } with
  | [_, v] =>
    match l.rerun with
    | some r => (← read).rerun r v (l.depth + 1)
    | Option.none =>
      Run.typeTrouble "The loop must have the 'recursive' marker to be called recursively."
  | _ => return none

def callBare (name : String) (a : Arguments) : Run Unit := do
  let _ ← (Signature.routine name 0 [⟨"self", Option.none⟩]).bind { a with args := none :: a.args }

/-- Calls a value. -/
def call (v : Value) (a : Arguments) : Run Value := do
  v.defined
  let refuse : Run Value := do
    Run.typeTrouble ("'" ++ (← v.typeName) ++ "' object is not callable")
  match v with
  | type id => make id a
  | method owner id => callMethod owner id a
  | object n =>
    match ← Run.thing? n with
    | some (.routine r) => (← read).call r a
    | some (.loop l) => callLoop l a
    | some (.joiner separator used) =>
      callBare "Joiner.__call__" a
      Run.change n (.joiner separator true)
      return if used then separator else blank
    | some (.block id context) =>
      callBare "BlockReference.__call__" a
      (← read).block id context
    | _ => refuse
  | _ => refuse

end Value

end CardPress.Template
