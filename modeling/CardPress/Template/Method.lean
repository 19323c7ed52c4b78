import CardPress.Template.Access
import CardPress.Template.Braces
import CardPress.Template.Method.Text
import CardPress.Template.Sort

/-! Methods of all values that have some. -/
namespace CardPress.Template.Value

def listSignature (kind id : String) : Signature :=
  let path := kind ++ "." ++ id
  match id with
  | "append" | "count" | "extend" | "remove" => .single path
  | "index" => .places path id 1 3
  | "insert" => .places path id 2 2
  | "pop" => .places path id 0 1
  | "sort" => .options id [("key", none), ("reverse", bool false)]
  | _ => .nothing path

def dictSignature (id : String) : Signature :=
  let path := "dict." ++ id
  match id with
  | "fromkeys" | "get" | "pop" | "setdefault" => .places path id 1 2
  | _ => .nothing path

/-- The place of an item that is equal, among those between two bounds. -/
def indexIn (v : Value) (complaint : Run Int) : Nat → List Value → Run Int
  | _, [] => complaint
  | i, w :: ws => do if ← alike w v then return i else indexIn v complaint (i + 1) ws

/-- The items between two bounds, and where they start. -/
def between (items : List Value) (bounds : List Value) : Run (Nat × List Value) := do
  let size : Int := items.length
  let bound (v : Option Value) (standard : Int) : Run Int := do
    match v with
    | Option.none => return standard
    | some v =>
      match v.whole? with
      | some n => return if n < 0 then max 0 (n + size) else n
      | Option.none => Run.typeTrouble "slice indices must be integers or have an __index__ method"
  let first ← bound bounds[0]? 0
  let last ← bound bounds[1]? size
  return (first.toNat, (items.drop first.toNat).take (last - first).toNat)

def countIn (v : Value) (items : List Value) : Run Value := do
  return whole ((← items.filterM fun w => alike w v).length : Nat)

def listMethod (n : Nat) (items : Array Value) (id : String) (args : List Value) : Run Value := do
  let put (items : List Value) : Run Value := do
    Run.change n (.list items.toArray)
    return none
  let vs := items.toList
  match id, args with
  | "append", [v] =>
    Run.change n (.list (items.push v))
    return none
  | "clear", _ => put []
  | "copy", _ => Run.keep (.list items)
  | "count", [v] => countIn v vs
  | "extend", [v] => put (vs ++ (← v.items))
  | "index", v :: bounds =>
    let (first, inside) ← between vs bounds
    return whole (← indexIn v (do Run.valueTrouble ((← v.inner) ++ " is not in list")) first inside)
  | "insert", [place, v] =>
    let i ← countOf place
    let i := (max 0 (if i < 0 then i + items.size else i)).toNat
    put (vs.take i ++ v :: vs.drop i)
  | "pop", args =>
    let i ← countOf (args.head?.getD (whole (-1)))
    if items.isEmpty then Run.trouble .index "pop from empty list"
    else
      match position? items.size i with
      | some i =>
        let _ ← put (vs.eraseIdx i)
        return items.getD i none
      | Option.none => Run.trouble .index "pop index out of range"
  | "remove", [v] =>
    let i ← indexIn v (Run.valueTrouble "list.remove(x): x not in list") 0 vs
    put (vs.eraseIdx i.toNat)
  | "reverse", _ => put vs.reverse
  | "sort", [_, down] => put (← Keyed.sorted (← down.isDown) (vs.map fun v => ⟨v, v⟩))
  | _, _ => return none

def dictMethod (n : Nat) (entries : List (Value × Value)) (id : String) (args : List Value) :
    Run Value := do
  let put (entries : List (Value × Value)) : Run Unit := Run.change n (.dict entries)
  match id, args with
  | "clear", _ =>
    put []
    return none
  | "copy", _ => Run.newDict entries
  | "items", _ => Run.keep (.view "dict_items" n)
  | "keys", _ => Run.keep (.view "dict_keys" n)
  | "values", _ => Run.keep (.view "dict_values" n)
  | "get", key :: rest =>
    hashable key
    return (← lookUp key entries).getD (rest.head?.getD none)
  | "setdefault", key :: rest =>
    hashable key
    match ← lookUp key entries with
    | some v => return v
    | Option.none =>
      let v := rest.head?.getD none
      put (entries ++ [(key, v)])
      return v
  | "pop", key :: rest =>
    hashable key
    match ← lookUp key entries, rest.head? with
    | some v, _ =>
      put (← entries.filterM fun (k, _) => do return !(← alike k key))
      return v
    | Option.none, some v => return v
    | Option.none, Option.none => keyTrouble key
  | "popitem", _ =>
    match entries.getLast? with
    | some (k, v) =>
      put entries.dropLast
      return tuple [k, v]
    | Option.none => Run.trouble .key "'popitem(): dictionary is empty'"
  | "fromkeys", keys :: rest =>
    Run.newDict (← entriesFrom [] ((← keys.items).map fun k => (k, rest.head?.getD none)))
  | _, _ => return none

/-- Two items of a sequence for an entry of a mapping. -/
def pairOf (i : Nat) (v : Value) : Run (Value × Value) := do
  match ← Run.attempt v.items with
  | .ok [k, w] => return (k, w)
  | .ok vs =>
    Run.valueTrouble s!"dictionary update sequence element #{i} has length {vs.length}; 2 is required"
  | .error t =>
    if t.kind = .type then
      Run.typeTrouble s!"cannot convert dictionary update sequence element #{i} to a sequence"
    else throw t

/-- The entries of a mapping, or of a sequence of pairs. -/
def entriesIn (v : Value) : Run (List (Value × Value)) := do
  v.defined
  let fromPairs : Run (List (Value × Value)) := do (← v.items).zipIdx.mapM fun (w, i) => pairOf i w
  match v with
  | object n =>
    match ← Run.thing? n with
    | some (.dict entries) => return entries
    | _ => fromPairs
  | _ => fromPairs

def namedEntries (named : List (String × Value)) : List (Value × Value) :=
  named.map fun (k, v) => (text k, v)

/-- The entries of at most one value and of named arguments, after those that are there. -/
def updated (name : String) (entries : List (Value × Value)) (a : Arguments) :
    Run (List (Value × Value)) := do
  match a.args with
  | [] => entriesFrom entries (namedEntries a.named)
  | [v] =>
    let entries ← entriesFrom entries (← entriesIn v)
    entriesFrom entries (namedEntries a.named)
  | vs => Run.typeTrouble s!"{name} expected at most 1 argument, got {vs.length}"

def numberMethod (v : Value) (id : String) : Run Value := do
  let ratio (n d : Int) : Value := tuple [whole n, whole d]
  match v, id with
  | real x _, "is_integer" => return bool (x.isFinite && x == x.floor)
  | real x _, "as_integer_ratio" =>
    match FloatShape.ofFloat x with
    | .nan => Run.valueTrouble "cannot convert NaN to integer ratio"
    | .infinite _ => Run.trouble .overflow "cannot convert Infinity to integer ratio"
    | .finite negative m q =>
      let n : Nat := m * Nat.pow 2 q.toNat
      let d : Nat := Nat.pow 2 (-q).toNat
      let g := Nat.gcd n d
      return ratio (if negative then -((n / g : Nat) : Int) else (n / g : Nat)) (d / g : Nat)
  | complex re im, "conjugate" => return complex re (-im)
  | real .., _ => return v
  | v, id =>
    let n := (v.whole?).getD 0
    match id with
    | "bit_length" => return whole (if n = 0 then 0 else n.natAbs.log2 + 1 : Nat)
    | "bit_count" => return whole ((Nat.toDigits 2 n.natAbs).count '1' : Nat)
    | "as_integer_ratio" => return ratio n 1
    | _ => return whole n

def rangeMethod (start stop step : Int) (id : String) (v : Value) : Run Value := do
  let inside ← isMember v (range start stop step)
  if id = "count" then return whole (if inside then 1 else 0)
  else if !inside then
    match v.whole? with
    | some n => Run.valueTrouble s!"{n} is not in range"
    | Option.none => Run.valueTrouble "sequence.index(x): x not in sequence"
  else
    let n := ((v.whole?).orElse fun _ => match v with
      | real x _ => (FloatDivision.toWhole x).toOption
      | _ => Option.none).getD start
    return whole ((n - start) / step)

def loopMethod (n : Nat) (l : Loop) (id : String) (a : Arguments) : Run Value := do
  match id with
  | "cycle" =>
    if !a.named.isEmpty then
      let id := (a.named.map (·.1)).headD ""
      Run.typeTrouble s!"LoopContext.cycle() got an unexpected keyword argument '{id}'"
    else
      match a.args[(l.place % max 1 a.args.length).toNat]? with
      | some v => return v
      | Option.none => Run.typeTrouble "no items for cycling given"
  | "changed" =>
    if !a.named.isEmpty then
      let id := (a.named.map (·.1)).headD ""
      Run.typeTrouble s!"LoopContext.changed() got an unexpected keyword argument '{id}'"
    else
      let isSame ←
        match l.last with
        | some before => same (tuple before) (tuple a.args)
        | Option.none => pure false
      if isSame then return bool false
      else
        Run.change n (.loop { l with last := some a.args })
        return bool true
  | _ => return none

/-- Calls a method of a value. -/
def callMethod (owner : Value) (id : String) (a : Arguments) : Run Value := do
  match owner with
  | text s =>
    if id = "format" then Braces.format owner (.arguments a)
    else
      match id, ← (textSignature "str" id).bind a with
      | "format_map", [v] => Braces.format owner (.entries v)
      | id, args => textMethod s id args
  | safe s =>
    if id = "format" then Braces.format owner (.arguments a)
    else
      match safeSignature? id with
      | some signature =>
        match id, (← signature.bind { a with args := none :: a.args }).drop 1 with
        | "format_map", [v] => Braces.format owner (.entries v)
        | id, args => safeMethod s id args
      | Option.none => safeMethod s id (← (textSignature "Markup" id).bind a)
  | tuple items =>
    match id, ← (listSignature "tuple" id).bind a with
    | "count", [v] => countIn v items
    | "index", v :: bounds =>
      let (first, inside) ← between items bounds
      return whole (← indexIn v (Run.valueTrouble "tuple.index(x): x not in tuple") first inside)
    | _, _ => return none
  | range start stop step =>
    match ← (Signature.single ("range." ++ id)).bind a with
    | [v] => rangeMethod start stop step id v
    | _ => return none
  | object n =>
    match ← Run.thing? n with
    | some (.list items) =>
      if id = "sort" && !a.args.isEmpty then Run.typeTrouble "sort() takes no positional arguments"
      else listMethod n items id (← (listSignature "list" id).bind a)
    | some (.dict entries) =>
      if id = "update" then
        Run.change n (.dict (← updated "update" entries a))
        return none
      else dictMethod n entries id (← (dictSignature id).bind a)
    | some (.loop l) => loopMethod n l id a
    | some (.cycler items place) =>
      let self : Parameter := ⟨"self", Option.none⟩
      let _ ← (Signature.routine ("Cycler." ++ id) 0 [self]).bind { a with args := none :: a.args }
      if id = "reset" then
        Run.change n (.cycler items 0)
        return none
      else
        Run.change n (.cycler items ((place + 1) % max 1 items.length))
        return (items[place]?).getD none
    | _ => return none
  | v =>
    let _ ← (Signature.nothing ((← v.typeName) ++ "." ++ id)).bind a
    numberMethod v id

end CardPress.Template.Value
