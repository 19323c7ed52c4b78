import CardPress.Template.Written

/-! When values are equal, which comes first, and which can be keys. -/
namespace CardPress.Template.Value

/-- The order of a float and a whole number, exactly; nothing for no number. -/
def orderOfReal (x : Float) (n : Int) : Option Ordering :=
  match FloatShape.ofFloat x with
  | .nan => Option.none
  | .infinite negative => some (if negative then .lt else .gt)
  | .finite negative m q =>
    let scaled : Int := (m * Nat.pow 2 q.toNat : Nat)
    let left := if negative then -scaled else scaled
    some (compare left (n * (Nat.pow 2 (-q).toNat : Nat)))

/-- The order of two numbers; nothing if one of them is no number. -/
def orderOfNumbers : Value → Value → Option (Option Ordering)
  | real x _, real y _ => some (if x < y then some .lt else if y < x then some .gt
      else if x == y then some .eq else Option.none)
  | real x _, b => b.whole?.map (orderOfReal x)
  | a, real y _ => a.whole?.map fun n => (orderOfReal y n).map Ordering.swap
  | a, b =>
    match a.whole?, b.whole? with
    | some m, some n => some (some (compare m n))
    | _, _ => Option.none

/-- Whether two values are one and the same thing. -/
def isSelf : Value → Value → Bool
  | object i, object j => i == j
  | real _ m, real _ n => m != 0 && m == n
  | _, _ => false

/-- The two parts of a number as a complex one. -/
def complex? : Value → Option (Value × Float)
  | complex re im => some (real re 0, im)
  | v => if v.isNumber then some (v, 0.0) else Option.none

def sameNumbers (a b : Value) : Bool :=
  match complex? a, complex? b with
  | some (x, p), some (y, q) => p == q && orderOfNumbers x y == some (some .eq)
  | _, _ => false

def sameRanges (a s p b t q : Int) : Bool :=
  let n := rangeSize a s p
  n == rangeSize b t q && (n == 0 || (a == b && (n == 1 || p == q)))

/-- Equality; numbers compare by value and undefined values are all equal. Inside of other values a
thing is always equal to itself. -/
def sameFrom : Nat → Value → Value → Run Bool
  | 0, _, _ => Run.trouble .recursion "maximum recursion depth exceeded in comparison"
  | fuel + 1, a, b => do
    let alike (v w : Value) : Run Bool := do if isSelf v w then return true else sameFrom fuel v w
    let rec inOrder (vs ws : List Value) : Run Bool := do
      match vs, ws with
      | [], [] => return true
      | v :: vs, w :: ws => if ← alike v w then inOrder vs ws else return false
      | _, _ => return false
    let rec find (key : Value) (entries : List (Value × Value)) : Run (Option Value) := do
      match entries with
      | [] => return Option.none
      | (k, v) :: rest => if ← alike k key then return some v else find key rest
    let rec within (entries others : List (Value × Value)) : Run Bool := do
      match entries with
      | [] => return true
      | (k, v) :: rest =>
        match ← find k others with
        | some w => if ← alike v w then within rest others else return false
        | Option.none => return false
    if a.isUndefined || b.isUndefined then return a.isUndefined && b.isUndefined
    else
      match a, b with
      | none, none => return true
      | tuple vs, tuple ws => inOrder vs ws
      | range a s p, range b t q => return sameRanges a s p b t q
      | slice a b c, slice d e f => inOrder [a, b, c] [d, e, f]
      | type i, type j => return i == j
      | method v i, method w j => if i == j then alike v w else return false
      | object i, object j =>
        match ← Run.thing? i, ← Run.thing? j with
        | some (.list vs), some (.list ws) =>
          if vs.size != ws.size then return false else inOrder vs.toList ws.toList
        | some (.dict es), some (.dict fs) => if es.length != fs.length then return false else within es fs
        | some (.view "dict_keys" p), some (.view "dict_keys" q) =>
          let es ← entriesOf p
          let fs ← entriesOf q
          if es.length != fs.length then return false
          else within (es.map fun e => (e.1, none)) (fs.map fun e => (e.1, none))
        | some (.view "dict_items" p), some (.view "dict_items" q) =>
          let es ← entriesOf p
          let fs ← entriesOf q
          if es.length != fs.length then return false else within es fs
        | _, _ => return i == j
      | a, b =>
        match a.text?, b.text? with
        | some s, some t => return s == t
        | _, _ => return sameNumbers a b

def same (a b : Value) : Run Bool := sameFrom depthLimit a b

/-- Equality as it counts inside of other values. -/
def alike (a b : Value) : Run Bool := do if isSelf a b then return true else same a b

def lookUp (key : Value) : List (Value × Value) → Run (Option Value)
  | [] => return Option.none
  | (k, v) :: rest => do if ← alike k key then return some v else lookUp key rest

/-- The kind of value that keeps a value from being a key. -/
def unhashableFrom : Nat → Value → Run (Option String)
  | 0, _ => return Option.none
  | fuel + 1, v => do
    let rec first (vs : List Value) : Run (Option String) := do
      match vs with
      | [] => return Option.none
      | v :: vs =>
        match ← unhashableFrom fuel v with
        | some kind => return some kind
        | Option.none => first vs
    match v with
    | slice .. => return some "slice"
    | tuple items => first items
    | object id =>
      return match ← Run.thing? id with
        | some (.list _) => some "list"
        | some (.dict _) => some "dict"
        | some (.view "dict_keys" _) => some "dict_keys"
        | some (.view "dict_items" _) => some "dict_items"
        | _ => Option.none
    | _ => return Option.none

/-- Fails for a value that cannot be a key. -/
def hashable (v : Value) : Run Unit := do
  match ← unhashableFrom depthLimit v with
  | some kind => Run.typeTrouble ("unhashable type: '" ++ kind ++ "'")
  | Option.none => pure ()

/-- Entries with a value put under a key; a key that is there keeps its place. -/
def putEntry (key value : Value) : List (Value × Value) → Run (List (Value × Value))
  | [] => return [(key, value)]
  | (k, v) :: rest => do
    if ← alike k key then return (k, value) :: rest
    else return (k, v) :: (← putEntry key value rest)

/-- Entries put one after the other. -/
def entriesFrom (entries : List (Value × Value)) : List (Value × Value) → Run (List (Value × Value))
  | [] => return entries
  | (k, v) :: rest => do
    hashable k
    entriesFrom (← putEntry k v entries) rest

/-- The four ways to ask for an order. -/
inductive Relation where
  | less
  | atMost
  | greater
  | atLeast
  deriving DecidableEq, Repr

namespace Relation

def sign : Relation → String
  | less => "<"
  | atMost => "<="
  | greater => ">"
  | atLeast => ">="

/-- Nothing holds of a number and no number. -/
def holds (r : Relation) : Option Ordering → Bool
  | Option.none => false
  | some o =>
    match r with
    | less => o == .lt
    | atMost => o != .gt
    | greater => o == .gt
    | atLeast => o != .lt

end Relation

/-- Order of texts by code point. -/
def orderOfTexts (s t : String) : Ordering :=
  if s == t then .eq else if s.toList < t.toList then .lt else .gt

/-- Whether a relation holds; sequences compare by the first items that differ. -/
def orderedFrom : Nat → Relation → Value → Value → Run Bool
  | 0, _, _, _ => Run.trouble .recursion "maximum recursion depth exceeded in comparison"
  | fuel + 1, r, a, b => do
    let rec inOrder (vs ws : List Value) : Run Bool := do
      match vs, ws with
      | v :: vs, w :: ws => if ← alike v w then inOrder vs ws else orderedFrom fuel r v w
      | vs, ws => return r.holds (some (compare vs.length ws.length))
    let refuse : Run Bool := do
      Run.typeTrouble (s!"'{r.sign}' not supported between instances of '{← a.typeName}' and "
        ++ s!"'{← b.typeName}'")
    a.defined
    b.defined
    match a, b with
    | tuple vs, tuple ws => inOrder vs ws
    | object i, object j =>
      match ← Run.thing? i, ← Run.thing? j with
      | some (.list vs), some (.list ws) => inOrder vs.toList ws.toList
      | _, _ => refuse
    | a, b =>
      match a.text?, b.text? with
      | some s, some t => return r.holds (some (orderOfTexts s t))
      | _, _ =>
        match orderOfNumbers a b with
        | some o => return r.holds o
        | Option.none => refuse

def ordered (r : Relation) (a b : Value) : Run Bool := orderedFrom depthLimit r a b

/-- Whether `part` stands somewhere in the text. -/
def holds (part : List Char) : List Char → Bool
  | [] => part.isEmpty
  | c :: cs => part.isPrefixOf (c :: cs) || holds part cs

def anyAlike (a : Value) : List Value → Run Bool
  | [] => return false
  | v :: vs => do if ← alike v a then return true else anyAlike a vs

/-- Takes items from an iterator until one is equal. -/
def meets (a : Value) (id : Nat) : Nat → Run Bool
  | 0 => return false
  | fuel + 1 => do
    match ← Walk.advance id with
    | some v => if ← alike v a then return true else meets a id fuel
    | Option.none => return false

/-- Whether a whole number is one of those in a range. -/
def inRange (n start stop step : Int) : Bool :=
  (if 0 < step then start ≤ n && n < stop else stop < n && n ≤ start) && (n - start) % step == 0

/-- Whether a value is one of the items of another, or a part of a text. -/
def isMember (a b : Value) : Run Bool := do
  let refuse : Run Bool := do
    Run.typeTrouble ("argument of type '" ++ (← b.typeName) ++ "' is not iterable")
  match b with
  | tuple items => anyAlike a items
  | range start stop step =>
    match a with
    | real x _ =>
      match FloatShape.ofFloat x with
      | .finite negative m q =>
        let n := m * Nat.pow 2 q.toNat / Nat.pow 2 (-q).toNat
        return n * Nat.pow 2 (-q).toNat == m * Nat.pow 2 q.toNat
          && inRange (if negative then -(n : Int) else n) start stop step
      | _ => return false
    | a => return (a.whole?.map fun n => inRange n start stop step).getD false
  | object id =>
    match ← Run.thing? id with
    | some (.list items) => anyAlike a items.toList
    | some (.dict entries) =>
      hashable a
      return (← lookUp a entries).isSome
    | some (.view kind source) =>
      let entries ← entriesOf source
      if kind = "dict_keys" then
        hashable a
        return (← lookUp a entries).isSome
      else if kind = "dict_values" then anyAlike a (entries.map (·.2))
      else
        match a with
        | tuple [k, v] =>
          hashable k
          match ← lookUp k entries with
          | some w => alike w v
          | Option.none => return false
        | _ => return false
    | some (.iterator ..) => meets a id memoryLimit
    | some (.loop _) => meets a id memoryLimit
    | _ => refuse
  | b =>
    if b.isUndefined then return false
    else
      match b.text?, a.text? with
      | some t, some s => return holds s.toList t.toList
      | some _, Option.none =>
        Run.typeTrouble ("'in <string>' requires string as left operand, not " ++ (← a.typeName))
      | Option.none, _ => refuse

def compared (op : CompareOp) (a b : Value) : Run Bool := do
  match op with
  | .eq => same a b
  | .ne => return !(← same a b)
  | .lt => ordered .less a b
  | .le => ordered .atMost a b
  | .gt => ordered .greater a b
  | .ge => ordered .atLeast a b
  | .member => isMember a b
  | .notMember => return !(← isMember a b)

end CardPress.Template.Value
