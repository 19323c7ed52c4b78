import CardPress.Template.Call
import CardPress.Template.Fold

/-! What expressions give in a frame. -/
namespace CardPress.Template

namespace Arguments

/-- Further arguments by place. -/
def spread (v : Value) : Run (List Value) := do
  match ← Run.attempt v.items with
  | .ok vs => return vs
  | .error t =>
    if t.kind = .type && (← Run.attempt v.iterate).toOption.isNone then
      Run.typeTrouble ("Value after * must be an iterable, not " ++ (← v.typeName))
    else throw t

/-- Arguments by name, all different, and those out of mappings. -/
def mergeNamed (path : String) (named : List (String × Value)) : List Value → Run (List (String × Value))
  | [] => return named
  | v :: vs => do
    let more ← Value.namedFrom path v
    match more.find? fun (k, _) => named.any (·.1 = k) with
    | some (k, _) =>
      Run.typeTrouble (path ++ s!"() got multiple values for keyword argument '{k}'")
    | none => mergeNamed path (named ++ more) vs

/-- Works out the arguments of what messages call by its path, in the order in which they are asked
for: by place, by name, and each kind once more out of other values. -/
def gather (path : String) (args : Run (List Value)) (names : List String)
    (named more moreNamed : Run (List Value)) : Run Arguments := do
  let args ← args
  let more := ((← (← more).mapM spread)).flatten
  let named := names.zip (← named)
  return ⟨args ++ more, ← mergeNamed path named (← moreNamed)⟩

end Arguments

namespace Value

/-- Texts of values, one after the other. -/
def concatenated (vs : List Value) : Run Value := do
  if (← get).escapes && vs.any isSafe then
    return safe (String.join (← vs.mapM safeTextOf))
  else return text (String.join (← vs.mapM toText))

/-- Each comparison of a chain is worked out only if those before it hold. -/
def compareChain (left : Value) : List (CompareOp × Run Value) → Run Value
  | [] => return bool true
  | (op, right) :: rest => do
    let right ← right
    if ← compared op left right then compareChain right rest else return bool false

/-- Keys and values by turns. -/
def evalEntries : List (Run Value × Run Value) → Run (List (Value × Value))
  | [] => return []
  | (key, value) :: rest => do
    let k ← key
    let v ← value
    return (k, v) :: (← evalEntries rest)

end Value

namespace Expr

def callPath : String := "jinja2.runtime.Context.call"

mutual

/-- The value of an expression in a frame. -/
def eval (f : Frame) : Expr → Run Value
  | .const c => c.value
  | .name id => f.find id
  | .captured => return f.captured
  | .absent line =>
    return .undefined (s!"the inline if-expression on line {line} evaluated to false and no else section "
      ++ "was defined.")
  | .list items => do Run.newList (← evalAll f items)
  | .tuple items => do return .tuple (← evalAll f items)
  | .dict keys values => do
    let entries ← Value.evalEntries ((actions f keys).zip (actions f values))
    Run.newDict (← Value.entriesFrom [] entries)
  | .field owner id => do (← eval f owner).field id
  | .item owner key => do
    let v ← eval f owner
    let k ← eval f key
    match k with
    | .slice .. => v.part k
    | k => v.item k
  | .slice a b c => do
    let a ← eval f a
    let b ← eval f b
    return .slice a b (← eval f c)
  | .call callee args names named more moreNamed => do
    let v ← eval f callee
    v.call (← Arguments.gather callPath (evalAll f args) names (evalAll f named) (evalAll f more)
      (evalAll f moreNamed))
  | .filter operand _ id args names named more moreNamed => do
    let v ← eval f operand
    let a ← Arguments.gather (Filter.pathOf id) (evalAll f args) names (evalAll f named)
      (evalAll f more) (evalAll f moreNamed)
    if Filter.names.contains id then Filter.run id v a
    else throw (.plain s!"No filter named {Text.quote id} found.")
  | .test operand _ id args names named more moreNamed => do
    let v ← eval f operand
    let path := ((Test.find? id).map (·.path)).getD ""
    let a ← Arguments.gather path (evalAll f args) names (evalAll f named) (evalAll f more)
      (evalAll f moreNamed)
    match Test.find? id with
    | some n => return .bool (← Test.run Filter.names id n v a)
    | none => throw (.plain s!"No test named {Text.quote id} found.")
  | .unary op e => do Value.unary op (← eval f e)
  | .binary op a b => do
    let v ← eval f a
    Value.binary op v (← eval f b)
  | .both a b => do
    let v ← eval f a
    if ← v.truth then eval f b else return v
  | .either a b => do
    let v ← eval f a
    if ← v.truth then return v else eval f b
  | .concat parts => do Value.concatenated (← evalAll f parts)
  | .compare first ops others => do
    let v ← eval f first
    v.compareChain (ops.zip (actions f others))
  | .choose condition yes no => do
    if ← (← eval f condition).truth then eval f yes else eval f no

def evalAll (f : Frame) : List Expr → Run (List Value)
  | [] => return []
  | e :: es => do
    let v ← eval f e
    return v :: (← evalAll f es)

/-- How to work out each of several expressions. -/
def actions (f : Frame) : List Expr → List (Run Value)
  | [] => []
  | e :: es => eval f e :: actions f es

end

end Expr

end CardPress.Template
