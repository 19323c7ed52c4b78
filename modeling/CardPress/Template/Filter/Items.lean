import CardPress.Template.Access
import CardPress.Template.Method.Text
import CardPress.Template.Sort

/-! What filters do with the items of a value. -/
namespace CardPress.Template.Value

/-- One step of an attribute path; digits are an index. -/
def stepOf (s : String) : Run Value := do
  if !s.isEmpty && s.toList.all Text.isDigit then
    match wholeOfList? s.toList with
    | some (n, count) =>
      if Literal.digitLimit < count then throw (Literal.tooManyDigits count) else return whole n
    | Option.none =>
      Run.valueTrouble ("invalid literal for int() with base 10: " ++ Text.cut (Text.quote s))
  else return text s

/-- The steps of an attribute path: names and indices between points, or a single key. -/
def stepsOf (path : Value) : Run (List Value) := do
  match path with
  | none => return []
  | path =>
    match path.text? with
    | some s => (s.splitOn ".").mapM stepOf
    | Option.none => return [path]

/-- What lies at the end of a path; an undefined value on the way counts as `standard`. -/
def follow (standard : Value) : List Value → Value → Run Value
  | [], v => return v
  | key :: keys, v => do
    let w ← item v key
    match standard with
    | none => follow standard keys w
    | standard => follow standard keys (if w.isUndefined then standard else w)

def foldCase (v : Value) : Value :=
  match v with
  | text s => text (Text.lower s)
  | safe s => safe (Text.lower s)
  | v => v

/-- How an item is looked at: along a path, perhaps without regard to case. -/
structure View where
  steps : List Value
  caseSensitive : Bool := true
  standard : Value := none

def View.see (w : View) (v : Value) : Run Value := do
  let seen ← follow w.standard w.steps v
  return if w.caseSensitive then seen else foldCase seen

def viewOf (path caseSensitive : Value) : Run View := do
  return { steps := ← stepsOf path, caseSensitive := ← caseSensitive.truth }

/-- The paths that a list of them with commas names. -/
def pathsOf (path : Value) : Run (List (List Value)) := do
  match path.text? with
  | some s => (s.splitOn ",").mapM fun part => stepsOf (text part)
  | Option.none => return [← stepsOf path]

/-- A new list with all that is seen of an item. -/
def seenList (views : List View) (v : Value) : Run Value := do
  Run.newList (← views.mapM (·.see v))

def sortItems (v down caseSensitive path : Value) : Run Value := do
  let sensitive ← caseSensitive.truth
  let views := (← pathsOf path).map fun steps => ({ steps, caseSensitive := sensitive } : View)
  let items ← v.items
  let down ← down.isDown
  let keyed ← items.mapM fun w => do return (⟨← seenList views w, w⟩ : Keyed)
  Run.newList (← Keyed.sorted down keyed)

/-- The item with the least key, or with the greatest. -/
def extreme (greatest : Bool) (v caseSensitive path : Value) : Run Value := do
  let id ← v.iterate
  match ← Walk.advance id with
  | Option.none => return undefined "No aggregated item, sequence was empty."
  | some first =>
    let view ← viewOf path caseSensitive
    let better (k l : Value) : Run Bool := if greatest then ordered .greater k l else ordered .less k l
    let start : Keyed := ⟨← view.see first, first⟩
    let best ← (← Walk.drain id).foldlM (fun (best : Keyed) w => do
      let k ← view.see w
      return if ← better k best.key then ⟨k, w⟩ else best) start
    return best.value

/-- Items that are worked out one after the other up to the first failure. -/
def collected (f : Value → Run (Option Value)) : List Value → Run (List Value × Option Trouble)
  | [] => return ([], Option.none)
  | v :: vs => do
    match ← Run.attempt (f v) with
    | .ok found =>
      let (rest, failure) ← collected f vs
      return (found.toList ++ rest, failure)
    | .error t => return ([], some t)

/-- An iterator over what is made of items, in which a failure shows when it is reached. -/
def generated (v : Value) (f : Value → Run (Option Value)) : Run Value := do
  match ← Run.attempt v.items with
  | .ok items =>
    let (found, failure) ← collected f items
    Run.keep (.iterator "generator" (.given found failure))
  | .error t => Run.keep (.iterator "generator" (.given [] (some t)))

/-- An iterator for which all items are known, or why there are none. -/
def generatedAll (act : Run (List Value)) : Run Value := do
  match ← Run.attempt act with
  | .ok items => Run.keep (.iterator "generator" (.given items Option.none))
  | .error t => Run.keep (.iterator "generator" (.given [] (some t)))

/-- The items whose keys were not seen before. -/
def distinct (view : View) (seen : List Value) : List Value → Run (List Value)
  | [] => return []
  | v :: vs => do
    let key ← view.see v
    hashable key
    if ← anyAlike key seen then distinct view seen vs
    else return v :: (← distinct view (key :: seen) vs)

def total (v path start : Value) : Run Value := do
  let steps ← stepsOf path
  let items ← v.items
  match start.text? with
  | some _ => Run.typeTrouble "sum() can't sum strings [use ''.join(seq) instead]"
  | Option.none => items.foldlM (fun sum w => do add sum (← follow none steps w)) start

def joined (v sep path : Value) : Run Value := do
  let steps ← stepsOf path
  let sep ← sep.toText
  let parts ← (← v.items).mapM fun w => do toText (← follow none steps w)
  return text (String.intercalate sep parts)

/-- The first item, or the last. -/
def firstOf (id : Nat) (which : String) : Run Value := do
  match ← Walk.advance id with
  | some v => return v
  | Option.none => return undefined s!"No {which} item, sequence was empty."

def reversed (v : Value) : Run Value := do
  match v with
  | text s => return ofList s.toList.reverse
  | safe s => return safe (String.ofList s.toList.reverse)
  | v =>
    match ← Run.attempt v.backwards with
    | .ok id => return object id
    | .error t =>
      if t.kind != .type then throw t
      else
        match ← Run.attempt v.items with
        | .ok items => Run.newList items.reverse
        | .error t =>
          if t.kind = .type then throw (.plain "argument must be iterable") else throw t

/-- Items in rows of a size; the last row is filled up. -/
def rows (size : Nat) (filler : Value) : Nat → List Value → Run (List Value)
  | 0, _ => return []
  | _, [] => return []
  | fuel + 1, items => do
    let row := items.take size
    let missing := size - row.length
    let row := match filler with
      | none => row
      | filler => row ++ List.replicate missing filler
    let row ← Run.newList row
    return row :: (← rows size filler fuel (items.drop size))

/-- Items in a number of columns of nearly equal length. -/
def columns (count size extra : Nat) (filler : Value) (items : List Value) (i : Nat) :
    Nat → Run (List Value)
  | 0 => return []
  | left + 1 => do
    let n := if i < extra then size + 1 else size
    let filled := match filler with
      | none => []
      | filler => if extra ≤ i then [filler] else []
    let column ← Run.newList (items.take n ++ filled)
    return column :: (← columns count size extra filler (items.drop n) (i + 1) left)

def isBy (by_ : Value) (word : String) : Bool := by_.text? == some word

def sortEntries (v caseSensitive by_ down : Value) : Run Value := do
  let byKey := isBy by_ "key"
  if !byKey && !isBy by_ "value" then
    throw (.plain "You can only sort by either \"key\" or \"value\"")
  v.defined
  let sensitive ← caseSensitive.truth
  match v with
  | object n =>
    match ← Run.thing? n with
    | some (.dict entries) =>
      let keyed := entries.map fun (k, w) =>
        let key := if byKey then k else w
        (⟨if sensitive then key else foldCase key, tuple [k, w]⟩ : Keyed)
      Run.newList (← Keyed.sorted (← down.isDown) keyed)
    | _ => Run.trouble .field ("'" ++ (← v.typeName) ++ "' object has no attribute 'items'")
  | v => Run.trouble .field ("'" ++ (← v.typeName) ++ "' object has no attribute 'items'")

/-- Neighbours with equal keys, each group with its key. -/
def grouped : List Keyed → Run (List (Value × List Value))
  | [] => return []
  | x :: xs => do
    match ← grouped xs with
    | [] => return [(x.key, [x.value])]
    | (k, vs) :: rest =>
      if ← alike x.key k then return (x.key, x.value :: vs) :: rest
      else return (x.key, [x.value]) :: (k, vs) :: rest

def groupItems (v path standard caseSensitive : Value) : Run Value := do
  let view := { ← viewOf path caseSensitive with standard }
  let keyed ← (← v.items).mapM fun w => do return (⟨← view.see w, w⟩ : Keyed)
  let sorted ← Keyed.sorted false keyed
  let again ← sorted.mapM fun w => do return (⟨← view.see w, w⟩ : Keyed)
  let groups ← (← grouped again).mapM fun (k, vs) => do
    let key ← match vs with
      | w :: _ => View.see { view with caseSensitive := true } w
      | [] => pure k
    return tuple [key, ← Run.newList vs]
  Run.newList groups

end CardPress.Template.Value
