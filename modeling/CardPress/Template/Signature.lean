import CardPress.Template.Written

/-! Matching the arguments of a call with what is called. -/
namespace CardPress.Template

structure Parameter where
  id : String
  standard : Option Value := none

/-- How something takes its arguments. `routine` has parameters with names, the first `hidden` of which
can be given by place only; `options` has parameters that may all be left out; `nothing` and `single`
take none and one; `places` and `spread` take a number of them, by place only. -/
inductive Signature where
  | routine (name : String) (hidden : Nat) (params : List Parameter)
  | options (name : String) (params : List (String × Value))
  | nothing (path : String)
  | single (path : String)
  | places (path name : String) (low high : Nat)
  | spread (name : String) (low high : Nat)

namespace Signature

def plural (n : Nat) : String := if n = 1 then "" else "s"

def series : List String → String
  | [] => ""
  | [a] => a
  | [a, b] => a ++ " and " ++ b
  | names => String.intercalate ", " names.dropLast ++ ", and " ++ names.getLastD ""

def tooMany (name : String) (params : List Parameter) (given : Nat) : Trouble :=
  let high := params.length
  let low := (params.filter (·.standard.isNone)).length
  let takes := if low = high then s!"takes {high} positional argument{plural high}"
    else s!"takes from {low} to {high} positional arguments"
  let verb := if given = 1 then "was" else "were"
  .type s!"{name}() {takes} but {given} {verb} given"

def missing (name : String) (ids : List String) : Trouble :=
  let n := ids.length
  .type s!"{name}() missing {n} required positional argument{plural n}: {series (ids.map Text.quote)}"

/-- Values for the parameters that are left once the arguments by place are used up. -/
def fillNamed (named : List (String × Value)) : List Parameter → List (Option Value)
  | [] => []
  | p :: params =>
    (match named.lookup p.id with
      | some v => some v
      | none => p.standard) :: fillNamed named params

/-- The first argument by name that no parameter can take. -/
def strayName (name : String) (hidden : Nat) (params : List Parameter) (count : Nat)
    (named : List (String × Value)) : Option Trouble :=
  let ids := (params.drop hidden).map (·.id)
  let hiddenIds := (params.take hidden).map (·.id)
  named.findSome? fun (id, _) =>
    if !ids.contains id then
      let misplaced := hiddenIds.filter fun h => named.any (·.1 = h)
      if misplaced.isEmpty then some (.type s!"{name}() got an unexpected keyword argument '{id}'")
      else
        let shown := String.intercalate ", " misplaced
        some (.type (s!"{name}() got some positional-only arguments passed as keyword arguments: "
          ++ s!"'{shown}'"))
    else if ((params.take count).map (·.id)).contains id then
      some (.type s!"{name}() got multiple values for argument '{id}'")
    else none

def bindRoutine (name : String) (hidden : Nat) (params : List Parameter) (a : Arguments) :
    Run (List Value) := do
  match strayName name hidden params a.args.length a.named with
  | some t => throw t
  | none =>
    if params.length < a.args.length then throw (tooMany name params a.args.length)
    let rest := params.drop a.args.length
    let values := fillNamed a.named rest
    let lost := (rest.zip values).filter (·.2.isNone)
    if !lost.isEmpty then throw (missing name (lost.map (·.1.id)))
    return a.args ++ values.filterMap id

def bindOptions (name : String) (params : List (String × Value)) (a : Arguments) : Run (List Value) := do
  let given := a.args.length + a.named.length
  if params.length < given then
    Run.typeTrouble (s!"{name}() takes at most {params.length} argument{plural params.length} "
      ++ s!"({given} given)")
  else
    match a.named.find? fun (id, _) => !(params.map (·.1)).contains id with
    | some (id, _) => Run.typeTrouble s!"'{id}' is an invalid keyword argument for {name}()"
    | none =>
      match ((params.take a.args.length).map (·.1)).zipIdx.find? fun (id, _) => a.named.any (·.1 = id) with
      | some (id, i) =>
        Run.typeTrouble s!"argument for {name}() given by name ('{id}') and position ({i + 1})"
      | none =>
        return a.args ++ (params.drop a.args.length).map fun (id, standard) =>
          (a.named.lookup id).getD standard

/-- The values of the parameters. Where they have no names there are as many values as were given. -/
def bind (s : Signature) (a : Arguments) : Run (List Value) := do
  let n := a.args.length
  match s with
  | routine name hidden params => bindRoutine name hidden params a
  | options name params => bindOptions name params a
  | nothing path =>
    if !a.named.isEmpty then Run.typeTrouble (path ++ "() takes no keyword arguments")
    else if n != 0 then Run.typeTrouble s!"{path}() takes no arguments ({n} given)"
    else return []
  | single path =>
    if !a.named.isEmpty then Run.typeTrouble (path ++ "() takes no keyword arguments")
    else if n != 1 then Run.typeTrouble s!"{path}() takes exactly one argument ({n} given)"
    else return a.args
  | places path name low high =>
    if !a.named.isEmpty then Run.typeTrouble (path ++ "() takes no keyword arguments")
    else if low = high && n != low then
      Run.typeTrouble s!"{name} expected {low} argument{plural low}, got {n}"
    else if n < low then Run.typeTrouble s!"{name} expected at least {low} argument{plural low}, got {n}"
    else if high < n then Run.typeTrouble s!"{name} expected at most {high} argument{plural high}, got {n}"
    else return a.args
  | spread name low high =>
    if !a.named.isEmpty then Run.typeTrouble (name ++ "() takes no keyword arguments")
    else if n < low then
      Run.typeTrouble s!"{name}() takes at least {low} argument{plural low} ({n} given)"
    else if high < n then
      Run.typeTrouble s!"{name}() takes at most {high} argument{plural high} ({n} given)"
    else return a.args

end Signature

end CardPress.Template
