import CardPress.Template.Operation
import CardPress.Template.Signature
import CardPress.Text.LetterKind
import CardPress.Text.Name
import CardPress.Text.Printable
import CardPress.Text.Search

/-! Methods of text. -/
namespace CardPress.Template.Value

/-- How a method of text takes its arguments. -/
def textSignature (kind id : String) : Signature :=
  let path := kind ++ "." ++ id
  match id with
  | "center" | "ljust" | "rjust" => .places path id 1 2
  | "count" | "endswith" | "find" | "index" | "rfind" | "rindex" | "startswith" => .spread id 1 3
  | "encode" => .options id [("encoding", text "utf-8"), ("errors", text "strict")]
  | "expandtabs" => .options id [("tabsize", whole 8)]
  | "split" | "rsplit" => .options id [("sep", none), ("maxsplit", whole (-1))]
  | "splitlines" => .options id [("keepends", bool false)]
  | "format_map" | "join" | "partition" | "removeprefix" | "removesuffix" | "rpartition"
  | "translate" | "zfill" => .single path
  | "lstrip" | "rstrip" | "strip" => .places path id 0 1
  | "maketrans" => .places path id 1 3
  | "replace" => .places path id 2 3
  | _ => .nothing path

/-- How a method of safe text takes its arguments, where it differs. -/
def safeSignature? (id : String) : Option Signature :=
  let self : Parameter := ⟨"self", Option.none⟩
  let need (name : String) : Parameter := ⟨name, Option.none⟩
  let option (name : String) (v : Value) : Parameter := ⟨name, some v⟩
  let path := "Markup." ++ id
  match id with
  | "join" => some (.routine path 2 [self, need "iterable"])
  | "format_map" => some (.routine path 2 [self, need "mapping"])
  | "split" | "rsplit" => some (.routine path 1 [self, option "sep" none, option "maxsplit" (whole (-1))])
  | "splitlines" => some (.routine path 1 [self, option "keepends" (bool false)])
  | "unescape" | "striptags" | "capitalize" | "title" | "lower" | "upper" | "swapcase" | "casefold" =>
    some (.routine path 1 [self])
  | "replace" => some (.routine path 4 [self, need "old", need "new", option "count" (whole (-1))])
  | "ljust" | "rjust" | "center" => some (.routine path 3 [self, need "width", option "fillchar" (text " ")])
  | "lstrip" | "rstrip" | "strip" => some (.routine path 2 [self, option "chars" none])
  | "translate" => some (.routine path 2 [self, need "table"])
  | "expandtabs" => some (.routine path 1 [self, option "tabsize" (whole 8)])
  | "zfill" => some (.routine path 2 [self, need "width"])
  | "removeprefix" => some (.routine path 2 [self, need "prefix"])
  | "removesuffix" => some (.routine path 2 [self, need "suffix"])
  | "partition" | "rpartition" => some (.routine path 2 [self, need "sep"])
  | _ => Option.none

/-- A whole number that fits a machine word. -/
def countOf (v : Value) : Run Int := do
  match v.whole? with
  | some n =>
    if isWord n then return n else Run.trouble .overflow "Python int too large to convert to C ssize_t"
  | Option.none => notAWhole v

/-- At most so many times; a negative number sets no limit. -/
def mostOf (v : Value) : Run (Option Nat) := do
  let n ← countOf v
  return if n < 0 then Option.none else some n.toNat

def ofList (cs : List Char) : Value := text (String.ofList cs)

def texts (parts : List (List Char)) : Run Value := Run.newList (parts.map ofList)

def stripSet (id : String) (v : Value) : Run (Char → Bool) := do
  match v with
  | none => return Text.isBlank
  | v =>
    match v.text? with
    | some s => return s.toList.contains
    | Option.none => Run.typeTrouble (id ++ " arg must be None or str")

/-- The characters of an argument that has to be text. -/
def charsOf (v : Value) (complaint : String) : Run (List Char) := do
  match v.text? with
  | some s => return s.toList
  | Option.none => Run.typeTrouble (complaint ++ (← v.typeName))

/-- The same for arguments that are called by their value where it is none. -/
def argumentChars (v : Value) (complaint : String) : Run (List Char) := do
  match v with
  | none => Run.typeTrouble (complaint ++ "None")
  | v => charsOf v complaint

/-- Joins texts; every item must be text. -/
def joinTexts (sep : String) (items : List Value) : Run String := do
  let parts ← items.zipIdx.mapM fun (v, i) => do
    match v.text? with
    | some s => return s
    | Option.none =>
      Run.typeTrouble s!"sequence item {i}: expected str instance, {← v.typeName} found"
  return String.intercalate sep parts

/-- The items of a value that texts can be joined from. -/
def joinable (v : Value) : Run (List Value) := do
  match ← Run.attempt v.items with
  | .ok items => return items
  | .error t =>
    if t.kind = .type then Run.typeTrouble "can only join an iterable" else throw t

/-- The part of text between two bounds, and where it starts; nothing if the start lies behind the
end. -/
def window (cs : List Char) (bounds : List Value) : Run (Option (Nat × List Char)) := do
  let size : Int := cs.length
  let low ← boundOf (bounds[0]?.getD none)
  let high ← boundOf (bounds[1]?.getD none)
  let place (n : Int) : Int := if n < 0 then max 0 (n + size) else n
  let first := (low.map place).getD 0
  let last := min size ((high.map place).getD size)
  if last < first then return Option.none
  else return some (first.toNat, (cs.drop first.toNat).take (last - first).toNat)

/-- Whether text has a part, or one of several, at its start or end. -/
def hasPart (id : String) (test : List Char → Bool) (v : Value) : Run Value := do
  let rec any (items : List Value) : Run Bool := do
    match items with
    | [] => return false
    | w :: ws =>
      let part ← charsOf w s!"tuple for {id} must only contain str, not "
      if test part then return true else any ws
  match v with
  | tuple items => return bool (← any items)
  | v => return bool (test (← charsOf v s!"{id} first arg must be str or a tuple of str, not "))

def fillerOf (v : Option Value) : Run Char := do
  match v with
  | Option.none => return ' '
  | some v =>
    match v.text?.map String.toList with
    | some [c] => return c
    | some _ => Run.typeTrouble "The fill character must be exactly one character long"
    | Option.none =>
      Run.typeTrouble ("The fill character must be a unicode character, not " ++ (← v.typeName))

/-- The text before the first or last place of a separator, the separator, and the rest. -/
def partition (fromEnd : Bool) (cs : List Char) (sep : Value) : Run Value := do
  let part ← charsOf sep "must be str, not "
  if part.isEmpty then Run.valueTrouble "empty separator"
  else
    match if fromEnd then Text.findLast part cs else Text.findText part 0 cs with
    | some i => return tuple [ofList (cs.take i), ofList part, ofList (cs.drop (i + part.length))]
    | Option.none =>
      return tuple (if fromEnd then [blank, blank, ofList cs] else [ofList cs, blank, blank])

def widthOf (v : Value) : Run Nat := do
  let n := (← countOf v).toNat
  kept n
  return n

def isAll (p : Char → Bool) (cs : List Char) : Value := bool (!cs.isEmpty && cs.all p)

/-- Splits at a separator, or at blanks. -/
def splitBy (fromEnd : Bool) (cs : List Char) (sep most : Value) : Run Value := do
  let most ← mostOf most
  let split (f : List Char → List (List Char)) : Run Value :=
    texts (if fromEnd then Text.fromEnd f cs else f cs)
  match sep with
  | none => split (Text.splitBlanks most)
  | sep =>
    let part ← charsOf sep "must be str or None, not "
    if part.isEmpty then Run.valueTrouble "empty separator"
    else split fun cs => Text.splitText cs (if fromEnd then part.reverse else part) most

def numericMethod (cs : List Char) (id : String) (part : Value) (bounds : List Value) : Run Value := do
  let inside ← window cs bounds
  let part ← charsOf part "must be str, not "
  let place : Option Nat :=
    match inside with
    | some (first, cs) =>
      (if id.startsWith "r" then Text.findLast part cs else Text.findText part 0 cs).map (first + ·)
    | Option.none => Option.none
  match id, place with
  | "count", _ => return whole ((inside.map fun (_, cs) => Text.countText part cs).getD 0 : Nat)
  | _, some i => return whole i
  | _, Option.none =>
    if id.endsWith "index" then Run.valueTrouble "substring not found" else return whole (-1)

/-- What a method of text gives for its arguments. -/
def textMethod (s : String) (id : String) (args : List Value) : Run Value := do
  let cs := s.toList
  match id, args with
  | "upper", _ => return text (Text.upper s)
  | "lower", _ => return text (Text.lower s)
  | "title", _ => return ofList (Text.titleFrom [] cs)
  | "capitalize", _ => return text (Text.capitalize s)
  | "swapcase", _ => return ofList (Text.swapFrom [] cs)
  | "casefold", _ => return ofList (Text.foldCase cs)
  | "strip", args =>
    let p ← stripSet id (args[0]?.getD none)
    return ofList (Text.dropEndWhile p (cs.dropWhile p))
  | "lstrip", args => return ofList (cs.dropWhile (← stripSet id (args[0]?.getD none)))
  | "rstrip", args => return ofList (Text.dropEndWhile (← stripSet id (args[0]?.getD none)) cs)
  | "split", [sep, most] => splitBy false cs sep most
  | "rsplit", [sep, most] => splitBy true cs sep most
  | "splitlines", [keep] =>
    if (← countOf keep) != 0 then texts (Text.linesWithEnds s)
    else texts ((Text.lines s).map String.toList)
  | "replace", old :: new :: rest =>
    let old ← argumentChars old "replace() argument 1 must be str, not "
    let new ← argumentChars new "replace() argument 2 must be str, not "
    let most ← mostOf (rest.head?.getD (whole (-1)))
    return ofList (Text.replaceText cs old new most)
  | "startswith", part :: bounds =>
    let inside ← window cs bounds
    hasPart id (fun p => (inside.map fun (_, cs) => p.isPrefixOf cs).getD false) part
  | "endswith", part :: bounds =>
    let inside ← window cs bounds
    hasPart id (fun p => (inside.map fun (_, cs) => p.isSuffixOf cs).getD false) part
  | "find", part :: bounds => numericMethod cs id part bounds
  | "rfind", part :: bounds => numericMethod cs id part bounds
  | "index", part :: bounds => numericMethod cs id part bounds
  | "rindex", part :: bounds => numericMethod cs id part bounds
  | "count", part :: bounds => numericMethod cs id part bounds
  | "join", [vs] => return text (← joinTexts s (← joinable vs))
  | "isdigit", _ => return isAll Text.isDigit cs
  | "isdecimal", _ => return isAll (fun c => (Text.digitValue? c).isSome) cs
  | "isnumeric", _ => return isAll Text.isNumeric cs
  | "isalpha", _ => return isAll Text.isLetter cs
  | "isalnum", _ => return isAll Text.isAlphanumeric cs
  | "isspace", _ => return isAll Text.isBlank cs
  | "isascii", _ => return bool (cs.all fun c => c.toNat < 128)
  | "isprintable", _ => return bool (cs.all Text.isPrintable)
  | "isidentifier", _ => return bool (Text.isName cs)
  | "isupper", _ => return bool (Text.allUpper cs)
  | "islower", _ => return bool (Text.allLower cs)
  | "istitle", _ => return bool (Text.allTitle false false cs)
  | "zfill", [width] => return ofList (Text.zeroFilled (← widthOf width) cs)
  | "center", width :: rest =>
    let width ← widthOf width
    return ofList (Text.centered width (← fillerOf rest.head?) cs)
  | "ljust", width :: rest =>
    let width ← widthOf width
    return ofList (cs ++ List.replicate (width - cs.length) (← fillerOf rest.head?))
  | "rjust", width :: rest =>
    let width ← widthOf width
    return ofList (List.replicate (width - cs.length) (← fillerOf rest.head?) ++ cs)
  | "partition", [sep] => partition false cs sep
  | "rpartition", [sep] => partition true cs sep
  | "removeprefix", [part] =>
    let part ← argumentChars part "removeprefix() argument must be str, not "
    return ofList (if part.isPrefixOf cs then cs.drop part.length else cs)
  | "removesuffix", [part] =>
    let part ← argumentChars part "removesuffix() argument must be str, not "
    return ofList (if part.isSuffixOf cs then cs.take (cs.length - part.length) else cs)
  | "expandtabs", [size] => return ofList (Text.expandTabs (← widthOf size) 0 cs)
  | _, _ => return text s

/-- Text without what stands in angle brackets, and with single blanks. -/
def withoutTags (inside : Bool) : List Char → List Char
  | [] => []
  | c :: cs =>
    if c = '<' && !inside && cs.contains '>' then withoutTags true cs
    else if c = '>' && inside then withoutTags false cs
    else if inside then withoutTags true cs
    else c :: withoutTags false cs

/-- The characters that the five escapes stand for. -/
def unescaped (cs : List Char) : List Char :=
  [("&lt;", "<"), ("&gt;", ">"), ("&#39;", "'"), ("&#34;", "\""), ("&quot;", "\""), ("&amp;", "&")].foldl
    (fun cs (name, c) => Text.replaceText cs name.toList c.toList Option.none) cs

/-- The text of a value as safe text. -/
def safeTextOf (v : Value) : Run String := do
  match v with
  | safe s => return s
  | v => return escaped (← v.toText)

def escapedText (v : Value) : Run Value := do return text (← safeTextOf v)

/-- A method of safe text gives safe text again; what comes in is escaped first. -/
def safeMethod (s : String) (id : String) (args : List Value) : Run Value := do
  let again (v : Value) : Value :=
    match v with
    | text t => safe t
    | v => v
  let resultOf (args : List Value) : Run Value := do
    match ← textMethod s id args with
    | object n =>
      match ← Run.thing? n with
      | some (.list items) => Run.keep (.list (items.map again))
      | _ => return object n
    | tuple items => return tuple (items.map again)
    | v => return again v
  match id, args with
  | "join", [vs] =>
    let items ← (← vs.items).mapM fun v => safeTextOf v
    return safe (String.intercalate s items)
  | "replace", old :: new :: rest => resultOf (old :: (← escapedText new) :: rest)
  | "ljust", [width, filler] => resultOf [width, ← escapedText filler]
  | "rjust", [width, filler] => resultOf [width, ← escapedText filler]
  | "center", [width, filler] => resultOf [width, ← escapedText filler]
  | "unescape", _ => return ofList (unescaped s.toList)
  | "striptags", _ =>
    let plain := (Text.wordList (withoutTags false s.toList)).map String.ofList
    return ofList (unescaped (String.intercalate " " plain).toList)
  | _, _ =>
    if (safeSignature? id).isSome then resultOf args else textMethod s id args

end CardPress.Template.Value
