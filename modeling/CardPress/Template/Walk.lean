import CardPress.Template.Value

/-! Going through the items of values one after the other. -/
namespace CardPress.Template

namespace Value

def characters (s : String) : List Value := s.toList.map fun c => text (String.singleton c)

/-- How many numbers a range has. -/
def rangeSize (start stop step : Int) : Nat :=
  if 0 < step then ((stop - start + step - 1) / step).toNat
  else ((start - stop - step - 1) / (-step)).toNat

def rangeItems (start step : Int) : Nat → List Value
  | 0 => []
  | n + 1 => whole start :: rangeItems (start + step) step n

/-- The greatest size that a sequence can have. -/
def sizeLimit : Nat := Nat.pow 2 63 - 1

/-- More items than this cannot be kept at once. -/
def memoryLimit : Nat := Nat.pow 2 32

def checkedSize (n : Nat) : Run Nat := do
  if sizeLimit < n then Run.trouble .overflow "Python int too large to convert to C ssize_t"
  else return n

def entriesOf (id : Nat) : Run (List (Value × Value)) := do
  match ← Run.thing? id with
  | some (.dict entries) => return entries
  | _ => return []

/-- The entries of a mapping. -/
def dictEntries? (v : Value) : Run (Option (List (Value × Value))) := do
  match v with
  | object id =>
    return match ← Run.thing? id with
      | some (.dict entries) => some entries
      | _ => Option.none
  | _ => return Option.none

def viewItems (kind : String) (entries : List (Value × Value)) : List Value :=
  entries.map fun (k, v) =>
    if kind = "dict_keys" then k else if kind = "dict_values" then v else tuple [k, v]

end Value

namespace Walk

/-- The next item of an iterator; a loop at work gives its item together with itself. Fuel bounds how
many loops stand behind each other. -/
def advanceFrom : Nat → Nat → Run (Option Value)
  | 0, _ => return none
  | fuel + 1, id => do
    match ← Run.thing? id with
    | some (.iterator kind supply) =>
      match supply with
      | .given (v :: rest) failure =>
        Run.change id (.iterator kind (.given rest failure))
        return some v
      | .given [] (some t) =>
        Run.change id (.iterator kind (.given [] none))
        throw t
      | .given [] none => return none
      | .list source next =>
        match ← Run.thing? source with
        | some (.list items) =>
          match items[next]? with
          | some v =>
            Run.change id (.iterator kind (.list source (next + 1)))
            return some v
          | none =>
            Run.change id (.iterator kind (.given [] none))
            return none
        | _ => return none
      | .listBack source left =>
        match ← Run.thing? source with
        | some (.list items) =>
          match left with
          | 0 => return none
          | left + 1 =>
            match items[left]? with
            | some v =>
              Run.change id (.iterator kind (.listBack source left))
              return some v
            | none =>
              Run.change id (.iterator kind (.given [] none))
              return none
        | _ => return none
      | .count next step left =>
        match left with
        | 0 => return none
        | left + 1 =>
          Run.change id (.iterator kind (.count (next + step) step left))
          return some (.whole next)
      | .sifted .. => (← read).sift id
    | some (.loop l) =>
      let item ←
        match l.ahead with
        | some v => pure (some v)
        | none => advanceFrom fuel l.source
      match item, ← Run.thing? id with
      | some v, some (.loop l) =>
        Run.change id (.loop { l with
          ahead := none, place := l.place + 1, before := l.current, current := some v })
        return some (.tuple [v, .object id])
      | _, _ => return none
    | _ => return none

def advance (id : Nat) : Run (Option Value) := advanceFrom 64 id

def drainFrom : Nat → Nat → List Value → Run (List Value)
  | 0, _, out => return out.reverse
  | fuel + 1, id, out => do
    match ← advance id with
    | some v => drainFrom fuel id (v :: out)
    | none => return out.reverse

/-- All items that an iterator has still to give. -/
def drain (id : Nat) : Run (List Value) := do
  match ← Run.thing? id with
  | some (.iterator kind (.given rest none)) =>
    Run.change id (.iterator kind (.given [] none))
    return rest
  | _ => drainFrom Value.memoryLimit id []

end Walk

namespace Value

def notIterable {α : Type} (v : Value) : Run α := do
  Run.typeTrouble ("'" ++ (← v.typeName) ++ "' object is not iterable")

def started (kind : String) (supply : Supply) : Run Nat := do
  let s ← get
  set { s with things := s.things.push (.iterator kind supply) }
  return s.things.size

def isWord (n : Int) : Bool := -(Nat.pow 2 63 : Int) ≤ n && n < (Nat.pow 2 63 : Int)

def rangeWalk (start stop step : Int) : String :=
  if isWord start && isWord stop && isWord step then "range_iterator" else "longrange_iterator"

def textWalk (s : String) : String :=
  if s.toList.all fun c => c.toNat < 128 then "str_ascii_iterator" else "str_iterator"

/-- An iterator over a value; an iterator is its own. -/
def iterate (v : Value) : Run Nat := do
  match v with
  | undefined _ => started "generator" (.given [] Option.none)
  | absent .. => started "generator" (.given [] Option.none)
  | text s => started (textWalk s) (.given (characters s) Option.none)
  | safe s => started (textWalk s) (.given (characters s) Option.none)
  | tuple items => started "tuple_iterator" (.given items Option.none)
  | range start stop step =>
    started (rangeWalk start stop step) (.count start step (rangeSize start stop step))
  | object id =>
    match ← Run.thing? id with
    | some (.list _) => started "list_iterator" (.list id 0)
    | some (.dict entries) => started "dict_keyiterator" (.given (entries.map (·.1)) Option.none)
    | some (.view kind source) =>
      let name :=
        if kind = "dict_keys" then "dict_keyiterator"
        else if kind = "dict_values" then "dict_valueiterator"
        else "dict_itemiterator"
      started name (.given (viewItems kind (← entriesOf source)) Option.none)
    | some (.iterator ..) => return id
    | some (.loop _) => return id
    | _ => notIterable v
  | _ => notIterable v

def kept (n : Nat) : Run Unit :=
  if memoryLimit < n then Run.trouble .memory "" else pure ()

/-- The items of a value that can be walked through. -/
def items (v : Value) : Run (List Value) := do
  match v with
  | tuple items => return items
  | range start stop step =>
    let n ← checkedSize (rangeSize start stop step)
    kept n
    return rangeItems start step n
  | object id =>
    match ← Run.thing? id with
    | some (.list items) => return items.toList
    | _ => Walk.drain (← v.iterate)
  | v => Walk.drain (← v.iterate)

/-- The items from the end to the start, as an iterator of the value's own kind. -/
def backwards (v : Value) : Run Nat := do
  let refuse : Run Nat := do
    Run.typeTrouble ("'" ++ (← v.typeName) ++ "' object is not reversible")
  match v with
  | undefined _ => started "reversed" (.given [] Option.none)
  | absent .. => started "reversed" (.given [] Option.none)
  | text s => started "reversed" (.given (characters s).reverse Option.none)
  | safe s =>
    started "reversed" (.given (s.toList.reverse.map fun c => safe (String.singleton c)) Option.none)
  | tuple items => started "reversed" (.given items.reverse Option.none)
  | range start stop step =>
    let n := rangeSize start stop step
    started (rangeWalk start stop step) (.count (start + step * ((n : Int) - 1)) (-step) n)
  | object id =>
    match ← Run.thing? id with
    | some (.list items) => started "list_reverseiterator" (.listBack id items.size)
    | some (.dict entries) =>
      started "dict_reversekeyiterator" (.given (entries.map (·.1)).reverse Option.none)
    | some (.view kind source) =>
      let name :=
        if kind = "dict_keys" then "dict_reversekeyiterator"
        else if kind = "dict_values" then "dict_reversevalueiterator"
        else "dict_reverseitemiterator"
      started name (.given (viewItems kind (← entriesOf source)).reverse Option.none)
    | _ => refuse
  | _ => refuse

/-- As many items as there are to be names for. -/
def unpacked (n : Nat) (v : Value) : Run (List Value) := do
  let rec take (id : Nat) : Nat → List Value → Run (List Value)
    | 0, out => return out.reverse
    | fuel + 1, out => do
      match ← Walk.advance id with
      | some w => take id fuel (w :: out)
      | Option.none => return out.reverse
  let id ←
    match ← Run.attempt v.iterate with
    | .ok id => pure id
    | .error t =>
      if t.kind = .type then
        Run.typeTrouble ("cannot unpack non-iterable " ++ (← v.typeName) ++ " object")
      else throw t
  let items ← take id (n + 1) []
  if n < items.length then Run.valueTrouble s!"too many values to unpack (expected {n})"
  else if items.length < n then
    Run.valueTrouble s!"not enough values to unpack (expected {n}, got {items.length})"
  else return items

end Value

namespace Loop

/-- The item behind the one at hand, taken in advance. -/
def peek (id : Nat) : Run (Option Value) := do
  match ← Run.thing? id with
  | some (.loop l) =>
    match l.ahead with
    | some v => return some v
    | none =>
      match ← Walk.advance l.source with
      | some v =>
        match ← Run.thing? id with
        | some (.loop l) => Run.change id (.loop { l with ahead := some v })
        | _ => pure ()
        return some v
      | none => return none
  | _ => return none

end Loop

namespace Value

def sizeFrom : Nat → Value → Run Nat
  | 0, _ => return 0
  | fuel + 1, v => do
    let refuse : Run Nat := do
      Run.typeTrouble ("object of type '" ++ (← v.typeName) ++ "' has no len()")
    match v with
    | undefined _ => return 0
    | absent .. => return 0
    | text s => return s.length
    | safe s => return s.length
    | tuple items => return items.length
    | range start stop step => checkedSize (rangeSize start stop step)
    | object id =>
      match ← Run.thing? id with
      | some (.list items) => return items.size
      | some (.dict entries) => return entries.length
      | some (.view _ source) => return (← entriesOf source).length
      | some (.loop l) =>
        match l.length with
        | some n => return n
        | Option.none =>
          let n ←
            match ← Run.attempt (sizeFrom fuel l.values) with
            | .ok n => pure n
            | .error t =>
              if t.kind = .type then
                let rest ← Walk.drain l.source
                let source ← started "list_iterator" (.given rest Option.none)
                match ← Run.thing? id with
                | some (.loop l) => Run.change id (.loop { l with source })
                | _ => pure ()
                pure (rest.length + (l.place + 1).toNat + (if l.ahead.isSome then 1 else 0))
              else throw t
          match ← Run.thing? id with
          | some (.loop l) => Run.change id (.loop { l with length := some n })
          | _ => pure ()
          return n
      | _ => refuse
    | _ => refuse

/-- The number of items of a value that has one. A loop over items that cannot be counted has to take
them all at once. -/
def size (v : Value) : Run Nat := sizeFrom 64 v

/-- Whether a value counts as true. -/
def truth (v : Value) : Run Bool := do
  match v with
  | undefined _ => return false
  | absent .. => return false
  | none => return false
  | bool b => return b
  | whole n => return n != 0
  | real x _ => return x != 0.0
  | complex re im => return re != 0.0 || im != 0.0
  | text s => return !s.isEmpty
  | safe s => return !s.isEmpty
  | tuple items => return !items.isEmpty
  | range start stop step => return rangeSize start stop step != 0
  | slice .. => return true
  | type _ => return true
  | method .. => return true
  | object id =>
    match ← Run.thing? id with
    | some (.list items) => return !items.isEmpty
    | some (.dict entries) => return !entries.isEmpty
    | some (.view ..) => return (← v.size) != 0
    | some (.loop _) => return (← v.size) != 0
    | _ => return true

end Value

end CardPress.Template
