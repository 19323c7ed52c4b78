import CardPress.Template.Same

/-! Sorting values by keys, with as few comparisons as the order at hand allows. -/
namespace CardPress.Template

/-- An item and what it is sorted by. -/
structure Keyed where
  key : Value
  value : Value

namespace Keyed

def less (a b : Keyed) : Run Bool := Value.ordered .less a.key b.key

/-- The items at the front that go the same way as the first two: down, or not down. -/
def runFrom (down : Bool) (last : Keyed) : List Keyed → Run (List Keyed × List Keyed)
  | [] => return ([], [])
  | x :: xs => do
    if (← less x last) == down then
      let (same, rest) ← runFrom down x xs
      return (x :: same, rest)
    else return ([], x :: xs)

/-- The sorted items at the front, and the others. -/
def firstRun : List Keyed → Run (List Keyed × List Keyed)
  | x :: y :: rest => do
    let down ← less y x
    let (same, rest) ← runFrom down y rest
    return (if down then (x :: y :: same).reverse else x :: y :: same, rest)
  | xs => return (xs, [])

/-- The place behind all items that are not greater, found by halving; fuel bounds the halvings. -/
def placeOf (x : Keyed) (sorted : Array Keyed) : Nat → Nat → Nat → Run Nat
  | 0, low, _ => return low
  | fuel + 1, low, high => do
    if high ≤ low then return low
    else
      let middle := low + (high - low) / 2
      match sorted[middle]? with
      | some y => if ← less x y then placeOf x sorted fuel low middle else placeOf x sorted fuel (middle + 1) high
      | none => return low

def insertAll (sorted : Array Keyed) : List Keyed → Run (Array Keyed)
  | [] => return sorted
  | x :: xs => do
    let i ← placeOf x sorted (sorted.size + 1) 0 sorted.size
    insertAll (sorted.insertIdxIfInBounds i x) xs

def merge : Nat → List Keyed → List Keyed → Run (List Keyed)
  | 0, xs, ys => return xs ++ ys
  | fuel + 1, x :: xs, y :: ys => do
    if ← less y x then return y :: (← merge fuel (x :: xs) ys) else return x :: (← merge fuel xs (y :: ys))
  | _, xs, ys => return xs ++ ys

def sortedFrom : Nat → List Keyed → Run (List Keyed)
  | 0, xs => return xs
  | fuel + 1, xs => do
    if xs.length < 64 then
      let (run, rest) ← firstRun xs
      return (← insertAll run.toArray rest).toList
    else
      let half := xs.length / 2
      let left ← sortedFrom fuel (xs.take half)
      let right ← sortedFrom fuel (xs.drop half)
      merge (xs.length + 1) left right

/-- The values in the order of their keys; equal keys keep the order that their values have. -/
def sorted (down : Bool) (xs : List Keyed) : Run (List Value) := do
  if down then return ((← sortedFrom 64 xs.reverse).reverse).map (·.value)
  else return (← sortedFrom 64 xs).map (·.value)

end Keyed

/-- Whether a value asks for the order from the greatest to the least. -/
def Value.isDown (v : Value) : Run Bool := do
  match v.whole? with
  | some n =>
    if n < -(Nat.pow 2 31 : Int) || (Nat.pow 2 31 : Int) ≤ n then
      Run.trouble .overflow "Python int too large to convert to C int"
    else return n != 0
  | Option.none => Run.typeTrouble ("'" ++ (← v.typeName) ++ "' object cannot be interpreted as an integer")

end CardPress.Template
