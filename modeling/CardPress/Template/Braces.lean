import CardPress.Template.Shape

/-! Filling braces in a text with values. -/
namespace CardPress.Template.Braces

/-- What stands between braces: which value, how it becomes text first, and its shape, which may hold
braces again. -/
structure Field where
  path : List Char
  conversion : Option Char := none
  shape : List Char := []
  nested : Bool := false
  deriving DecidableEq, Repr

/-- The path of a field, the mark that ends it, and what follows. A bracket hides marks until it is
closed. -/
def takePath (bracket : Bool) (before : List Char) : List Char → Run (List Char × Char × List Char)
  | [] => Run.valueTrouble "expected '\x7d' before end of string"
  | c :: cs =>
    if bracket then takePath (c ≠ ']') (c :: before) cs
    else if c = '{' then Run.valueTrouble "unexpected '\x7b' in field name"
    else if ['}', ':', '!'].contains c then return (before.reverse, c, cs)
    else takePath (c = '[') (c :: before) cs

/-- The shape of a field up to the brace that closes it, and what follows. -/
def takeShape (depth : Nat) (before : List Char) : List Char → Run (List Char × List Char)
  | [] => Run.valueTrouble "unmatched '\x7b' in format spec"
  | c :: cs =>
    match c, depth with
    | '}', 0 => return (before.reverse, cs)
    | '}', depth + 1 => takeShape depth (c :: before) cs
    | '{', depth => takeShape (depth + 1) (c :: before) cs
    | _, depth => takeShape depth (c :: before) cs

def withShape (path : List Char) (conversion : Option Char) (cs : List Char) :
    Run (Field × List Char) := do
  let (shape, cs) ← takeShape 0 [] cs
  return ({ path, conversion, shape, nested := shape.contains '{' }, cs)

/-- A field after its opening brace. -/
def takeField (cs : List Char) : Run (Field × List Char) := do
  let (path, mark, cs) ← takePath false [] cs
  match mark, cs with
  | ':', cs => withShape path none cs
  | '!', [] => Run.valueTrouble "end of string while looking for conversion specifier"
  | '!', c :: '}' :: cs => return ({ path, conversion := some c }, cs)
  | '!', c :: ':' :: cs => withShape path (some c) cs
  | '!', [c] => withShape path (some c) []
  | '!', _ => Run.valueTrouble "expected ':' after conversion specifier"
  | _, cs => return ({ path }, cs)

/-- A step from a value to a part of it. -/
inductive Step where
  | field (id : String)
  | key (id : String)
  | place (n : Nat)
  deriving DecidableEq, Repr

def isStep (c : Char) : Bool := c = '.' || c = '['

/-- The number that text in a path stands for, if it stands for one. -/
def placeOf (cs : List Char) : Run (Option Nat) := do
  let (n, rest) ← Shape.takeSize none cs
  return if rest.isEmpty then n else none

/-- The next step of a path that is not at its end. -/
def takeStep (cs : List Char) : Run (Step × List Char) := do
  let empty {α : Type} : Run α := Run.valueTrouble "Empty attribute in format string"
  match cs with
  | '.' :: cs =>
    let id := cs.takeWhile fun c => !isStep c
    if id.isEmpty then empty else return (.field (String.ofList id), cs.drop id.length)
  | '[' :: cs =>
    let id := cs.takeWhile (· ≠ ']')
    if id.length = cs.length then Run.valueTrouble "Missing ']' in format string"
    else
      match ← placeOf id with
      | some n => return (.place n, cs.drop (id.length + 1))
      | none =>
        if id.isEmpty then empty else return (.key (String.ofList id), cs.drop (id.length + 1))
  | _ => Run.valueTrouble "Only '.' or '[' may follow ']' in format field specifier"

/-- An attribute that a value itself must have. -/
def ownPart (v : Value) (id : String) : Run Value := do
  match ← v.ownField? id with
  | some w => return w
  | none =>
    v.defined
    match v with
    | .type name => Run.trouble .field s!"type object '{Value.typePath name}' has no attribute '{id}'"
    | v =>
      let name ← v.typeName
      if name = "Namespace" then Run.trouble .field id
      else Run.trouble .field s!"'{name}' object has no attribute '{id}'"

/-- Follows a path from a value to the part it leads to. -/
def follow : Nat → List Char → Value → Run Value
  | 0, _, v => return v
  | fuel + 1, cs, v => do
    if cs.isEmpty then return v
    else
      let (step, cs) ← takeStep cs
      let w ←
        match step with
        | .field id => ownPart v id
        | .key id => v.part (.text id)
        | .place n => v.part (.whole n)
      follow fuel cs w

/-- Where values come from: the arguments of a call, or the entries of one value. -/
inductive Source where
  | arguments (a : Arguments)
  | entries (v : Value)

/-- Fields without a path are counted; they do not stand beside fields with a number. -/
structure Counter where
  next : Nat := 0
  counted : Option Bool := none
  deriving DecidableEq, Repr

/-- How a text is filled in: `guarded` text is safe, and what comes in is escaped. -/
structure Filling where
  source : Source
  guarded : Bool := false

namespace Filling

def atPlace (filling : Filling) (n : Nat) : Run Value := do
  let beyond : Run Value :=
    if filling.guarded then Run.trouble .index "tuple index out of range"
    else Run.trouble .index s!"Replacement index {n} out of range for positional args tuple"
  match filling.source with
  | .arguments a =>
    match a.args[n]? with
    | some v => return v
    | none => beyond
  | .entries _ =>
    if filling.guarded then beyond else Run.valueTrouble "Format string contains positional fields"

def atName (filling : Filling) (id : String) : Run Value := do
  match filling.source with
  | .entries v => v.part (.text id)
  | .arguments a =>
    match a.named.lookup id with
    | some v => return v
    | none => Value.keyTrouble (.text id)

def mixed {α : Type} (counted : Bool) : Run α :=
  let counting := "automatic field numbering"
  let places := "manual field specification"
  if counted then Run.valueTrouble s!"cannot switch from {counting} to {places}"
  else Run.valueTrouble s!"cannot switch from {places} to {counting}"

/-- The place of a field in the arguments, if its path begins with a place. -/
def count (place : Option Nat) (empty : Bool) (counter : Counter) : Run (Option Nat × Counter) := do
  if place.isNone && !empty then return (none, counter)
  else
    match counter.counted.getD empty, empty with
    | false, true => mixed false
    | true, false => mixed true
    | counted, true => return (some counter.next, { next := counter.next + 1, counted := some counted })
    | counted, false => return (place, { counter with counted := some counted })

/-- The same for safe text, where only a path that is nothing but a place is heeded. -/
def countGuarded (place : Option Nat) (path : List Char) (counter : Counter) :
    Run (Option Nat × Counter) := do
  if path.isEmpty then
    if counter.counted = some false then mixed false
    else return (some counter.next, { counter with next := counter.next + 1 })
  else if path.all Text.isDigit then
    if counter.next ≠ 0 then mixed false else return (place, { counter with counted := some false })
  else return (place, counter)

/-- The value that a path leads to. -/
def find (filling : Filling) (counter : Counter) (path : List Char) : Run (Value × Counter) := do
  let start := path.takeWhile fun c => !isStep c
  let place ← placeOf start
  let (place, counter) ←
    if filling.guarded then countGuarded place path counter else count place start.isEmpty counter
  let v ←
    match place with
    | some n => filling.atPlace n
    | none => filling.atName (String.ofList start)
  return (← follow path.length (path.drop start.length) v, counter)

def converted (filling : Filling) (conversion : Option Char) (v : Value) : Run Value := do
  match conversion with
  | none => return v
  | some 's' => return .text (← v.toText)
  | some 'r' => return .text (← v.inner)
  | some 'a' => return .text (Text.escapeBeyondAscii (← v.inner))
  | some c =>
    let shown :=
      if filling.guarded then String.singleton c
      else if c.toNat = 127 then "\\x7f"
      else Shape.shown c
    Run.valueTrouble ("Unknown conversion specifier " ++ shown)

def shapedValue (filling : Filling) (v : Value) (shape : List Char) : Run (List Char) := do
  match filling.guarded, v with
  | true, .safe s =>
    if shape.isEmpty then return s.toList
    else Run.valueTrouble "Unsupported format specification for Markup."
  | true, v => return (Value.escaped (String.ofList (← v.shaped shape))).toList
  | false, v => v.shaped shape

/-- Fills in the fields of a text; `inner` fills in the fields of a shape. -/
def pieces (filling : Filling) (inner : Counter → List Char → Run (List Char × Counter)) :
    Nat → Counter → List Char → Run (List Char × Counter)
  | 0, counter, _ => return ([], counter)
  | fuel + 1, counter, cs => do
    let after (literal : List Char) (counter : Counter) (cs : List Char) :
        Run (List Char × Counter) := do
      let (rest, counter) ← pieces filling inner fuel counter cs
      return (literal ++ rest, counter)
    match cs with
    | [] => return ([], counter)
    | '{' :: '{' :: cs => after ['{'] counter cs
    | '}' :: '}' :: cs => after ['}'] counter cs
    | '}' :: _ => Run.valueTrouble "Single '\x7d' encountered in format string"
    | ['{'] => Run.valueTrouble "Single '\x7b' encountered in format string"
    | '{' :: cs =>
      let (field, cs) ← takeField cs
      let (v, counter) ← filling.find counter field.path
      let v ← filling.converted field.conversion v
      let (shape, counter) ←
        if field.nested then inner counter field.shape else pure (field.shape, counter)
      after (← filling.shapedValue v shape) counter cs
    | cs =>
      let literal := cs.takeWhile fun c => c ≠ '{' && c ≠ '}'
      after literal counter (cs.drop literal.length)

/-- Fills in a text; fields can stand in the shapes of fields only so deep. -/
def fill (filling : Filling) : Nat → Counter → List Char → Run (List Char × Counter)
  | 0, _, _ => Run.valueTrouble "Max string recursion exceeded"
  | depth + 1, counter, cs => pieces filling (fill filling depth) (cs.length + 1) counter cs

end Filling

/-- Fills in text; safe text stays safe. -/
def format (v : Value) (source : Source) : Run Value := do
  let filled (guarded : Bool) (s : String) : Run String := do
    let (cs, _) ← Filling.fill { source, guarded } 2 {} s.toList
    return String.ofList cs
  match v with
  | .safe s => return .safe (← filled true s)
  | v => return .text (← filled false (← v.toText))

end CardPress.Template.Braces
