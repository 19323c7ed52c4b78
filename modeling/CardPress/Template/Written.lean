import CardPress.Number.Shortest
import CardPress.Template.Literal
import CardPress.Template.Walk

/-! The text of values, by themselves and inside other values. -/
namespace CardPress.Template.Value

/-- The text of a whole number, which must not be too long. -/
def wholeText (n : Int) : Run String := do
  let s := toString n.natAbs
  if Literal.digitLimit < s.length then
    Run.valueTrouble (s!"Exceeds the limit ({Literal.digitLimit} digits) for integer string conversion; "
      ++ "use sys.set_int_max_str_digits() to increase the limit")
  else return if n < 0 then "-" ++ s else s

/-- A part of a complex number; whole parts have no point. -/
def partText (x : Float) : String :=
  let cs := (Shortest.text x).toList
  if ".0".toList.isSuffixOf cs then String.ofList (cs.take (cs.length - 2)) else String.ofList cs

/-- Whether the sign bit of a number is set. -/
def isMinus (x : Float) : Bool := Nat.pow 2 63 ≤ x.toBits.toNat && !x.isNaN

def complexText (re im : Float) : String :=
  let tail := partText im ++ "j"
  if re == 0.0 && !isMinus re then tail
  else "(" ++ partText re ++ (if isMinus im then "" else "+") ++ tail ++ ")"

/-- The text of a tuple; a single item keeps a comma. -/
def tupleText : List String → String
  | [s] => "(" ++ s ++ ",)"
  | ss => "(" ++ String.intercalate ", " ss ++ ")"

def listText (ss : List String) : String := "[" ++ String.intercalate ", " ss ++ "]"

def dictText (entries : List (String × String)) : String :=
  "\x7b" ++ String.intercalate ", " (entries.map fun (k, v) => k ++ ": " ++ v) ++ "\x7d"

def boolText (b : Bool) : String := if b then "True" else "False"

def rangeText (start stop step : Int) : String :=
  if step = 1 then s!"range({start}, {stop})" else s!"range({start}, {stop}, {step})"

/-- How deep values may stand inside each other. -/
def depthLimit : Nat := 900

/-- The full name of a type. -/
def typePath (id : String) : String :=
  if id = "namespace" then "jinja2.utils.Namespace"
  else if id = "cycler" then "jinja2.utils.Cycler"
  else if id = "joiner" then "jinja2.utils.Joiner"
  else if id = "Undefined" then "jinja2.runtime.Undefined"
  else if id = "Markup" then "markupsafe.Markup"
  else id

/-- The text of a value inside another value; things that hold themselves are cut short. -/
def innerFrom : Nat → List Nat → Value → Run String
  | 0, _, _ => Run.trouble .recursion "maximum recursion depth exceeded while getting the repr of an object"
  | fuel + 1, held, v => do
    match v with
    | undefined _ => return "Undefined"
    | absent .. => return "Undefined"
    | none => return "None"
    | bool b => return boolText b
    | whole n => wholeText n
    | real x _ => return Shortest.text x
    | complex re im => return complexText re im
    | text s => return Text.quote s
    | safe s => return "Markup(" ++ Text.quote s ++ ")"
    | tuple items => return tupleText (← items.mapM (innerFrom fuel held))
    | range start stop step => return rangeText start stop step
    | slice a b c =>
      return "slice(" ++ (← innerFrom fuel held a) ++ ", " ++ (← innerFrom fuel held b) ++ ", "
        ++ (← innerFrom fuel held c) ++ ")"
    | type id => return "<class '" ++ typePath id ++ "'>"
    | method owner id => return s!"<built-in method {id} of {← owner.typeName} object>"
    | object id =>
      match ← Run.thing? id with
      | some (.list items) =>
        if held.contains id then return "[...]"
        else return listText (← items.toList.mapM (innerFrom fuel (id :: held)))
      | some (.dict entries) =>
        if held.contains id then return "\x7b...\x7d"
        else
          let parts ← entries.mapM fun (k, v) => do
            return (← innerFrom fuel (id :: held) k, ← innerFrom fuel (id :: held) v)
          return dictText parts
      | some (.view kind source) =>
        if held.contains id then return "..."
        else
          let items := viewItems kind (← entriesOf source)
          return kind ++ "(" ++ listText (← items.mapM (innerFrom fuel (id :: held))) ++ ")"
      | some (.space entries) =>
        let parts ← entries.mapM fun (k, v) => do
          return (← innerFrom fuel held k, ← innerFrom fuel held v)
        return "<Namespace " ++ dictText parts ++ ">"
      | some (.loop l) => return s!"<LoopContext {l.place + 1}/{← (object id).size}>"
      | some (.routine r) =>
        return "<Macro " ++ ((r.id.map Text.quote).getD "anonymous") ++ ">"
      | some (.blocks _) => return "<TemplateReference None>"
      | some t => return "<" ++ ((t.family?.map (· ++ ".")).getD "") ++ t.kind ++ " object>"
      | Option.none => return ""

/-- The text of a value inside another value. -/
def inner (v : Value) : Run String := innerFrom depthLimit [] v

/-- The text of a value in the output. -/
def toText (v : Value) : Run String := do
  match v with
  | undefined _ => return ""
  | absent .. => return ""
  | text s => return s
  | safe s => return s
  | v => v.inner

/-- Why a value is undefined. -/
def reason (v : Value) : Run String := do
  match v with
  | undefined why => return why
  | absent owner key => return owner ++ " has no element " ++ (← key.inner)
  | _ => return ""

def refuse {α : Type} (v : Value) : Run α := do throw (.plain (← v.reason))

/-- Fails for an undefined value with the reason why it is undefined. -/
def defined (v : Value) : Run Unit := do if v.isUndefined then v.refuse

end CardPress.Template.Value
