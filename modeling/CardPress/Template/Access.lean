import CardPress.Template.Operation

/-! Attributes and items of values. -/
namespace CardPress.Template.Value

def textMethods : List String :=
  ["capitalize", "casefold", "center", "count", "encode", "endswith", "expandtabs", "find", "format",
   "format_map", "index", "isalnum", "isalpha", "isascii", "isdecimal", "isdigit", "isidentifier",
   "islower", "isnumeric", "isprintable", "isspace", "istitle", "isupper", "join", "ljust", "lower",
   "lstrip", "maketrans", "partition", "removeprefix", "removesuffix", "replace", "rfind", "rindex",
   "rjust", "rpartition", "rsplit", "rstrip", "split", "splitlines", "startswith", "strip", "swapcase",
   "title", "translate", "upper", "zfill"]

def dictMethods : List String :=
  ["clear", "copy", "fromkeys", "get", "items", "keys", "pop", "popitem", "setdefault", "update", "values"]

def listMethods : List String :=
  ["append", "clear", "copy", "count", "extend", "index", "insert", "pop", "remove", "reverse", "sort"]

def tupleMethods : List String := ["count", "index"]

def wholeMethods : List String :=
  ["as_integer_ratio", "bit_count", "bit_length", "conjugate", "from_bytes", "to_bytes"]

def realMethods : List String := ["as_integer_ratio", "conjugate", "fromhex", "hex", "is_integer"]

/-- What a loop tells about itself. -/
def loopField? (id : Nat) (l : Loop) (field : String) : Run (Option Value) := do
  let count : Run Int := do return (← (object id).size : Nat)
  match field with
  | "index" => return some (whole (l.place + 1))
  | "index0" => return some (whole l.place)
  | "length" => return some (whole (← count))
  | "revindex" => return some (whole ((← count) - l.place))
  | "revindex0" => return some (whole ((← count) - l.place - 1))
  | "first" => return some (bool (l.place == 0))
  | "last" => return some (bool (← Loop.peek id).isNone)
  | "depth" => return some (whole (l.depth + 1))
  | "depth0" => return some (whole l.depth)
  | "previtem" =>
    if l.place == 0 then return some (undefined "there is no previous item") else return l.before
  | "nextitem" => return some ((← Loop.peek id).getD (undefined "there is no next item"))
  | "cycle" => return some (method (object id) field)
  | "changed" => return some (method (object id) field)
  | _ => return Option.none

def routineField? (r : Routine) (field : String) : Option Value :=
  match field with
  | "name" => some ((r.id.map text).getD none)
  | "arguments" => some (tuple (r.params.map fun p => text p.id))
  | "caller" => some (bool r.extras.caller)
  | "catch_kwargs" => some (bool r.extras.named)
  | "catch_varargs" => some (bool r.extras.more)
  | "explicit_caller" => some (bool (r.params.any (·.id = "caller")))
  | _ => Option.none

/-- The type of a value, as a value. -/
def typeOf (v : Value) : Run Value := do
  let id ← v.typeName
  return type (if id = "Namespace" then "namespace" else if id = "Cycler" then "cycler"
    else if id = "Joiner" then "joiner" else id)

/-- An attribute that the value itself has, apart from its entries. -/
def ownField? (v : Value) (id : String) : Run (Option Value) := do
  let has (ids : List String) : Option Value := if ids.contains id then some (method v id) else Option.none
  let parts (ids : List (String × Value)) (methods : List String) : Option Value :=
    (ids.lookup id).orElse fun _ => has methods
  if id = "__class__" then return some (← v.typeOf)
  else
    match v with
    | text _ => return has textMethods
    | safe _ => return has (["striptags", "unescape", "escape"] ++ textMethods)
    | tuple _ => return has tupleMethods
    | whole n =>
      return parts [("real", v), ("imag", whole 0), ("numerator", whole n), ("denominator", whole 1)] wholeMethods
    | bool b =>
      let n := whole (if b then 1 else 0)
      return parts [("real", n), ("imag", whole 0), ("numerator", n), ("denominator", whole 1)] wholeMethods
    | real .. => return parts [("real", v), ("imag", real 0.0 0)] realMethods
    | complex re im => return parts [("real", real re 0), ("imag", real im 0)] ["conjugate"]
    | range start stop step =>
      return parts [("start", whole start), ("stop", whole stop), ("step", whole step)] tupleMethods
    | slice start stop step =>
      return parts [("start", start), ("stop", stop), ("step", step)] ["indices"]
    | type name => return if id = "__name__" then some (text (((typePath name).splitOn ".").getLastD name)) else Option.none
    | object n =>
      match ← Run.thing? n with
      | some (.list _) => return has listMethods
      | some (.dict _) => return has dictMethods
      | some (.space entries) => lookUp (text id) entries
      | some (.loop l) => loopField? n l id
      | some (.routine r) => return routineField? r id
      | some (.cycler items place) =>
        match id with
        | "items" => return some (tuple items)
        | "pos" => return some (whole place)
        | "current" => return items[place]?
        | _ => return has ["next", "reset"]
      | some (.joiner separator used) => return parts [("sep", separator), ("used", bool used)] []
      | some (.block name _) =>
        return parts [("name", text name),
          ("super", undefined s!"there is no parent block called {Text.quote name}.")] []
      | _ => return Option.none
    | _ => return Option.none

/-- The item of a sequence at an index, or why there is none. -/
def indexed {α : Type} (sequence range : String) (size : Nat) (key : Value) (found : Nat → α) : Run α := do
  match key.whole? with
  | some n =>
    match position? size n with
    | some i => return found i
    | Option.none =>
      if !isWord n && sequence != "range" then
        Run.trouble .index "cannot fit 'int' into an index-sized integer"
      else Run.trouble .index (range ++ " index out of range")
  | Option.none =>
    if sequence = "string" then
      Run.typeTrouble ("string indices must be integers, not '" ++ (← key.typeName) ++ "'")
    else Run.typeTrouble (sequence ++ " indices must be integers or slices, not " ++ (← key.typeName))

def keyTrouble {α : Type} (key : Value) : Run α := do Run.trouble .key (← key.inner)

/-- The part of a value that stands under a key. -/
def part (v key : Value) : Run Value := do
  v.defined
  let refuse : Run Value := do
    Run.typeTrouble ("'" ++ (← v.typeName) ++ "' object is not subscriptable")
  let ofText (s : String) (make : String → Value) : Run Value := do
    match key with
    | slice a b c => return make (String.ofList (← sliced s.toList.toArray a b c))
    | key =>
      let cs := s.toList.toArray
      indexed "string" "string" cs.size key fun i => make (String.singleton (cs.getD i ' '))
  match v with
  | text s => ofText s text
  | safe s => ofText s safe
  | tuple items =>
    match key with
    | slice a b c => return tuple (← sliced items.toArray a b c)
    | key => indexed "tuple" "tuple" items.length key fun i => (items[i]?).getD none
  | range start stop step =>
    let n := rangeSize start stop step
    match key with
    | slice a b c =>
      let (first, last, by_) ← boundsOf n a b c
      return range (start + first * step) (start + last * step) (by_ * step)
    | key => indexed "range" "range object" n key fun i => whole (start + i * step)
  | type id => Run.typeTrouble ("type '" ++ typePath id ++ "' is not subscriptable")
  | object id =>
    match ← Run.thing? id with
    | some (.list items) =>
      match key with
      | slice a b c => Run.newList (← sliced items a b c)
      | key => indexed "list" "list" items.size key fun i => items.getD i none
    | some (.dict entries) =>
      hashable key
      match ← lookUp key entries with
      | some w => return w
      | Option.none => keyTrouble key
    | some (.blocks context) =>
      match key with
      | text name =>
        if (← get).blocks.any (·.id = name) then Run.keep (.block name context) else keyTrouble key
      | _ => keyTrouble key
    | _ => refuse
  | _ => refuse

/-- Failures that only mean that there is no such part. -/
def isAbsence (t : Trouble) : Bool := [TroubleKind.type, .key, .index, .field].contains t.kind

def noField (v : Value) (id : Value) : Run Value := do
  return undefined (Text.quote (← v.ownerName) ++ " has no attribute " ++ (← id.inner))

/-- The attribute of a value, or else its part of that name. -/
def field (v : Value) (id : String) : Run Value := do
  match ← v.ownField? id with
  | some w => return w
  | Option.none =>
    match ← Run.attempt (v.part (text id)) with
    | .ok w => return w
    | .error t => if isAbsence t then noField v (text id) else throw t

/-- The part of a value under a key, or else its attribute of that name. -/
def item (v key : Value) : Run Value := do
  match ← Run.attempt (v.part key) with
  | .ok w => return w
  | .error t =>
    if !isAbsence t then throw t
    else
      match key.text? with
      | some id =>
        match ← v.ownField? id with
        | some w => return w
        | Option.none => noField v key
      | Option.none => return absent (← v.ownerName) key

end CardPress.Template.Value
