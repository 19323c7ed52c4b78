import CardPress.Template.Filter.Items
import CardPress.Template.Filter.Text
import CardPress.Template.Test

/-! Filters by name. -/
namespace CardPress.Template.Filter

open Value

def need (id : String) : Parameter := ⟨id, Option.none⟩

def option (id : String) (standard : Value) : Parameter := ⟨id, some standard⟩

def no : Value := bool false

def filter (id name : String) (params : List Parameter) : String × Named :=
  (id, ⟨"jinja2.filters", false, .routine name 0 params⟩)

/-- A filter that takes what surrounds the template first. -/
def outer (id name : String) (params : List Parameter) : String × Named :=
  (id, ⟨"jinja2.filters", true, .routine name 0 params⟩)

def simple (id : String) : String × Named := filter id ("do_" ++ id) [need "value"]

def onText (id : String) : String × Named := filter id ("do_" ++ id) [need "s"]

def safeFilter (id name : String) : String × Named := (id, ⟨"markupsafe", false, .routine name 1 [need "s"]⟩)

/-- Filters whose further arguments depend on what they are used for. -/
def openFilters : List String := ["format", "map", "select", "reject", "selectattr", "rejectattr"]

def closed : List (String × Named) :=
  let standard := [need "value", option "default_value" blank, option "boolean" no]
  let extremes := [need "environment", need "value", option "case_sensitive" no, option "attribute" none]
  [onText "upper", onText "lower", onText "title", onText "capitalize", onText "wordcount",
   ("length", ⟨"", false, .single "len"⟩), ("count", ⟨"", false, .single "len"⟩),
   ("abs", ⟨"", false, .single "abs"⟩),
   filter "default" "do_default" standard, filter "d" "do_default" standard,
   filter "int" "do_int" [need "value", option "default" (whole 0), option "base" (whole 10)],
   filter "float" "do_float" [need "value", option "default" (real 0.0 0)],
   outer "join" "sync_do_join" [need "eval_ctx", need "value", option "d" blank, option "attribute" none],
   outer "replace" "do_replace"
     [need "eval_ctx", need "s", need "old", need "new", option "count" none],
   filter "trim" "do_trim" [need "value", option "chars" none],
   outer "first" "sync_do_first" [need "environment", need "seq"],
   outer "last" "do_last" [need "environment", need "seq"],
   outer "random" "do_random" [need "context", need "seq"],
   simple "reverse", safeFilter "e" "escape", safeFilter "escape" "escape", safeFilter "string" "soft_str",
   filter "safe" "do_mark_safe" [need "value"], filter "list" "sync_do_list" [need "value"],
   simple "forceescape", simple "urlencode", simple "striptags", simple "items", simple "pprint",
   outer "sum" "sync_do_sum"
     [need "environment", need "iterable", option "attribute" none, option "start" (whole 0)],
   outer "sort" "do_sort"
     [need "environment", need "value", option "reverse" no, option "case_sensitive" no,
      option "attribute" none],
   outer "unique" "sync_do_unique" extremes, outer "min" "do_min" extremes, outer "max" "do_max" extremes,
   filter "round" "do_round" [need "value", option "precision" (whole 0), option "method" (text "common")],
   filter "center" "do_center" [need "value", option "width" (whole 80)],
   outer "attr" "do_attr" [need "environment", need "obj", need "name"],
   filter "batch" "do_batch" [need "value", need "linecount", option "fill_with" none],
   filter "slice" "sync_do_slice" [need "value", need "slices", option "fill_with" none],
   filter "dictsort" "do_dictsort"
     [need "value", option "case_sensitive" no, option "by" (text "key"), option "reverse" no],
   filter "filesizeformat" "do_filesizeformat" [need "value", option "binary" no],
   outer "groupby" "sync_do_groupby"
     [need "environment", need "value", need "attribute", option "default" none, option "case_sensitive" no],
   filter "indent" "do_indent"
     [need "s", option "width" (whole 4), option "first" no, option "blank" no],
   outer "truncate" "do_truncate"
     [need "env", need "s", option "length" (whole 255), option "killwords" no, option "end" (text "..."),
      option "leeway" none],
   outer "wordwrap" "do_wordwrap"
     [need "environment", need "s", option "width" (whole 79), option "break_long_words" (bool true),
      option "wrapstring" none, option "break_on_hyphens" (bool true)],
   outer "xmlattr" "do_xmlattr" [need "eval_ctx", need "d", option "autospace" (bool true)],
   outer "tojson" "do_tojson" [need "eval_ctx", need "value", option "indent" none],
   outer "urlize" "do_urlize"
     [need "eval_ctx", need "value", option "trim_url_limit" none, option "nofollow" no,
      option "target" none, option "rel" none, option "extra_schemes" none]]

def names : List String := openFilters ++ closed.map (·.1)

/-- How messages call a filter. -/
def pathOf (id : String) : String :=
  match closed.lookup id with
  | some n => n.path
  | Option.none =>
    if id = "format" then "jinja2.filters.do_format" else "jinja2.filters.sync_do_" ++ id

def size (v : Value) : Run Value := do return whole (← v.size : Nat)

def absolute (v : Value) : Run Value := do
  match v with
  | real x mark => return if mark = 0 then real x.abs 0 else v
  | complex re im => Run.real (Complex.size ⟨re, im⟩)
  | v =>
    match v.whole? with
    | some n => return whole n.natAbs
    | Option.none => Run.typeTrouble ("bad operand type for abs(): '" ++ (← v.typeName) ++ "'")

def entryPairs (v : Value) : Run (List Value) := do
  if v.isUndefined then return []
  else
    match v with
    | object n =>
      match ← Run.thing? n with
      | some (.dict entries) => return entries.map fun (k, w) => tuple [k, w]
      | _ => Run.typeTrouble "Can only get item pairs from a mapping."
    | _ => Run.typeTrouble "Can only get item pairs from a mapping."

def attributeOf (v name : Value) : Run Value := do
  hashable name
  match name.text? with
  | some id =>
    match ← v.ownField? id with
    | some w => return w
    | Option.none => if v.isUndefined then v.refuse else noField v name
  | Option.none => Run.typeTrouble ("attribute name must be string, not '" ++ (← name.typeName) ++ "'")

/-- What a filter gives for its value and arguments. -/
def apply (id : String) (v : Value) (args : List Value) : Run Value := do
  match id, args with
  | "upper", _ => byMethod "upper" [] v
  | "lower", _ => byMethod "lower" [] v
  | "capitalize", _ => byMethod "capitalize" [] v
  | "trim", [set] => byMethod "strip" [set] v
  | "center", [width] => byMethod "center" [width] v
  | "title", _ => return ofList (titleWords [] (← v.toText).toList)
  | "wordcount", _ => return whole (countWords false (← v.toText).toList : Nat)
  | "length", _ => size v
  | "count", _ => size v
  | "abs", _ => absolute v
  | "default", [standard, boolean] =>
    return if v.isUndefined || ((← boolean.truth) && !(← v.truth)) then standard else v
  | "d", [standard, boolean] =>
    return if v.isUndefined || ((← boolean.truth) && !(← v.truth)) then standard else v
  | "int", [standard, base] => toWhole v standard base
  | "float", [standard] => toReal v standard
  | "join", [sep, path] => joined v sep path
  | "replace", [old, new, most] => replaced v old new most
  | "first", _ => firstOf (← v.iterate) "first"
  | "last", _ => firstOf (← v.backwards) "last"
  | "reverse", _ => reversed v
  | "e", _ => return safe (← safeTextOf v)
  | "escape", _ => return safe (← safeTextOf v)
  | "forceescape", _ => return safe (escaped (← v.toText))
  | "safe", _ => return safe (← v.toText)
  | "string", _ => softText v
  | "list", _ => Run.newList (← v.items)
  | "striptags", _ => safeMethod (← v.toText) "striptags" []
  | "items", _ => generatedAll (entryPairs v)
  | "pprint", _ => return text (← v.inner)
  | "urlencode", _ => addressText v
  | "sum", [path, start] => total v path start
  | "sort", [down, caseSensitive, path] => sortItems v down caseSensitive path
  | "unique", [caseSensitive, path] =>
    generatedAll (do distinct (← viewOf path caseSensitive) [] (← v.items))
  | "min", [caseSensitive, path] => extreme false v caseSensitive path
  | "max", [caseSensitive, path] => extreme true v caseSensitive path
  | "round", [precision, way] => rounded v precision way
  | "attr", [name] => attributeOf v name
  | "batch", [count, filler] =>
    generatedAll (do
      let items ← v.items
      match count.whole? with
      | some n => rows (if 0 < n then n.toNat else items.length) filler (items.length + 1) items
      | Option.none => rows items.length filler (items.length + 1) items)
  | "slice", [count, filler] =>
    generatedAll (do
      let items ← v.items
      let n ← placesOf count
      if n = 0 then Run.trouble .zeroDivision "integer division or modulo by zero"
      else
        let n := n.toNat
        columns n (items.length / n) (items.length % n) filler items 0 n)
  | "dictsort", [caseSensitive, by_, down] => sortEntries v caseSensitive by_ down
  | "filesizeformat", [binary] => fileSize v binary
  | "groupby", [path, standard, caseSensitive] => groupItems v path standard caseSensitive
  | "indent", [width, first, blankLines] => indented v width first blankLines
  | "truncate", [length, cut, ending, leeway] => shortened v length cut ending leeway
  | "xmlattr", [space] => attributes v space
  | _, _ => return v

/-- Fills the arguments into the percent signs of a value's text. -/
def format (v : Value) (a : Arguments) : Run Value := do
  if a.named.any (·.1 = "value") then
    Run.typeTrouble "do_format() got multiple values for argument 'value'"
  else if !a.args.isEmpty && !a.named.isEmpty then
    throw (.plain "can't handle positional and keyword arguments at the same time")
  else
    let supplied ← if a.named.isEmpty then pure (tuple a.args) else Run.newDict (namedEntries a.named)
    Percent.format (← softText v) supplied

def unknown (what : String) (name : Value) : Run Trouble := do
  let text := s!"No {what} named " ++ (← name.inner) ++ "."
  if name.isUndefined then
    return .plain (text ++ " (" ++ (← name.reason) ++ "; did you forget to quote the callable name?)")
  else return .plain text

/-- Applies a test that a value names. -/
def runTest (name v : Value) (a : Arguments) : Run Bool := do
  hashable name
  match name.text?.bind fun id => (Test.find? id).map (id, ·) with
  | some (id, n) => Test.run names id n v a
  | Option.none => throw (← unknown "test" name)

/-- The items that a test lets through, or those that it does not. -/
def selected (kept byPath : Bool) (v : Value) (a : Arguments) : Run Value := do
  if !(← v.truth) then generatedAll (pure [])
  else
    let prepare : Run (List Value × Option Value × Arguments) := do
      let (steps, args) ←
        if byPath then
          match a.args with
          | [] => throw (.plain "Missing parameter for attribute name")
          | path :: args => do pure (← stepsOf path, args)
        else pure ([], a.args)
      match args with
      | [] => return (steps, Option.none, a)
      | name :: args => return (steps, some name, { a with args })
    match ← Run.attempt prepare with
    | .error t => Run.keep (.iterator "generator" (.given [] (some t)))
    | .ok (steps, name, a) =>
      generated v fun w => do
        let seen ← follow none steps w
        let holds ← match name with
          | some name => runTest name seen a
          | Option.none => seen.truth
        return if holds == kept then some w else Option.none

/-- Applies a filter that is known; fuel bounds how deep filters name other filters. -/
def runFrom : Nat → String → Value → Arguments → Run Value
  | 0, _, v, _ => return v
  | fuel + 1, id, v, a => do
    match id with
    | "format" => format v a
    | "select" => selected true false v a
    | "reject" => selected false false v a
    | "selectattr" => selected true true v a
    | "rejectattr" => selected false true v a
    | "map" =>
      let path := a.named.lookup "attribute"
      if !(← v.truth) then generatedAll (pure [])
      else
        match a.args, path with
        | [], some path =>
          let others := a.named.filter fun (k, _) => k != "attribute" && k != "default"
          let stray : Run (List Value) := do
            match others with
            | (k, _) :: _ => throw (.plain ("Unexpected keyword argument " ++ Text.quote k))
            | [] => stepsOf path
          match ← Run.attempt stray with
          | .error t => Run.keep (.iterator "generator" (.given [] (some t)))
          | .ok steps =>
            let standard := (a.named.lookup "default").getD none
            generated v fun w => do return some (← follow standard steps w)
        | [], Option.none =>
          Run.keep (.iterator "generator" (.given [] (some (.plain "map requires a filter argument"))))
        | name :: args, _ =>
          generated v fun w => do
            hashable name
            match name.text? with
            | some id =>
              if names.contains id then return some (← runFrom fuel id w { a with args })
              else throw (← unknown "filter" name)
            | Option.none => throw (← unknown "filter" name)
    | id =>
      match closed.lookup id with
      | some n =>
        match ← n.bind v a with
        | v :: args => apply id v args
        | [] => return v
      | Option.none => throw (← unknown "filter" (text id))

def run (id : String) (v : Value) (a : Arguments) : Run Value := runFrom 64 id v a

end CardPress.Template.Filter
