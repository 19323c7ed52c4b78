import CardPress.Number.Fixed
import CardPress.Template.Access
import CardPress.Template.Method.Text
import CardPress.Template.Number

/-! What filters do with text. -/
namespace CardPress.Template.Value

def isWordBreak (c : Char) : Bool := Text.isBlank c || "-(\x7b[<".toList.contains c

def titled : List Char → List Char
  | [] => []
  | c :: cs => Text.upperChar c ++ Text.lowerFrom [] cs

/-- Each run of characters between blanks, hyphens and opening brackets starts with an upper form. -/
def titleWords (word : List Char) : List Char → List Char
  | [] => titled word.reverse
  | c :: cs =>
    if isWordBreak c then titled word.reverse ++ c :: titleWords [] cs else titleWords (c :: word) cs

def countWords (inside : Bool) : List Char → Nat
  | [] => 0
  | c :: cs =>
    let word := c = '_' || Text.isAlphanumeric c
    (if word && !inside then 1 else 0) + countWords word cs

/-- Text as it is, and any other value as its text. -/
def softText (v : Value) : Run Value := do
  match v.text? with
  | some _ => return v
  | Option.none => return text (← v.toText)

/-- A method of text for the text of any value; safe text stays safe. -/
def byMethod (id : String) (args : List Value) (v : Value) : Run Value := do
  match ← softText v with
  | safe s => safeMethod s id args
  | v => textMethod ((v.text?).getD "") id args

def replaced (v old new most : Value) : Run Value := do
  let most ← match most with
    | none => pure Option.none
    | most => mostOf most
  let cs := (← v.toText).toList
  let old := (← old.toText).toList
  return ofList (Text.replaceText cs old (← new.toText).toList most)

def shortened (v length cut ending leeway : Value) : Run Value := do
  let leeway := match leeway with
    | none => whole 5
    | leeway => leeway
  let size ← ending.size
  if !(← ordered .atLeast length (whole size)) then
    Run.trouble .assertion s!"expected length >= {size}, got {← length.toText}"
  else if !(← ordered .atLeast leeway (whole 0)) then
    Run.trouble .assertion s!"expected leeway >= 0, got {← leeway.toText}"
  else if ← ordered .atMost (whole (← v.size : Nat)) (← add length leeway) then return v
  else
    let start ← part v (slice none (← sub length (whole size)) none)
    if ← cut.truth then add start ending
    else
      let word ← match start.text? with
        | some s =>
          let cs := s.toList
          let kept := match Text.findLast [' '] cs with
            | some i => String.ofList (cs.take i)
            | Option.none => s
          pure (if start.isSafe then safe kept else text kept)
        | Option.none =>
          Run.trouble .field ("'" ++ (← start.typeName) ++ "' object has no attribute 'rsplit'")
      add word ending

def indented (v width first blankLines : Value) : Run Value := do
  let safeOr (s : String) : Value := if v.isSafe then safe s else text s
  let margin ← match width.text? with
    | some s => pure (safeOr s)
    | Option.none => do pure (safeOr ((← mul (text " ") width).text?.getD ""))
  v.defined
  match v.text? with
  | Option.none =>
    match v with
    | object n =>
      match ← Run.thing? n with
      | some (.list _) => Run.trouble .field "'list' object has no attribute 'splitlines'"
      | _ => operandTrouble "+=" v (safeOr "\n")
    | tuple _ => add v (safeOr "\n")
    | _ => operandTrouble "+=" v (safeOr "\n")
  | some s =>
    let s := s ++ "\n"
    let all ← blankLines.truth
    let lines := Text.lines s
    let margin' := (margin.text?).getD ""
    let later := (lines.drop 1).map fun l => if all || !l.isEmpty then margin' ++ l else l
    let body := String.intercalate "\n" (lines.take 1 ++ later)
    let body := if ← first.truth then margin' ++ body else body
    return if v.isSafe then safe body else text body

def sizeUnits (binary : Bool) : List String :=
  if binary then ["KiB", "MiB", "GiB", "TiB", "PiB", "EiB", "ZiB", "YiB"]
  else ["kB", "MB", "GB", "TB", "PB", "EB", "ZB", "YB"]

def fileSize (v binary : Value) : Run Value := do
  let bytes ← asReal v
  let binary ← binary.truth
  let base : Nat := if binary then 1024 else 1000
  if bytes == 1.0 then return text "1 Byte"
  else if bytes < nearestWhole base then
    return text (toString (← asWhole (real bytes 0)) ++ " Bytes")
  else
    let units := sizeUnits binary
    let small := (units.zipIdx.find? fun (_, i) => bytes < nearestWhole (Nat.pow base (i + 2))).getD
      (units.getLastD "", units.length - 1)
    let x := nearestWhole base * bytes / nearestWhole (Nat.pow base (small.2 + 2))
    return text (Fixed.text 1 x ++ " " ++ small.1)

def attributes (v space : Value) : Run Value := do
  v.defined
  match v with
  | object n =>
    match ← Run.thing? n with
    | some (.dict entries) =>
      let parts ← entries.mapM fun (k, w) => do
        if w.isUndefined || (match w with | none => true | _ => false) then return []
        else
          let name ← match k.text? with
            | some s => pure s.toList
            | Option.none =>
              Run.typeTrouble ("expected string or bytes-like object, got '" ++ (← k.typeName) ++ "'")
          if name.any fun c => " \t\n\r\x0b\x0c/>=".toList.contains c then
            Run.valueTrouble ("Invalid character in attribute name: " ++ (← k.inner))
          else return [(← safeTextOf k) ++ "=\"" ++ (← safeTextOf w) ++ "\""]
      let body := String.intercalate " " parts.flatten
      return text (if (← space.truth) && !body.isEmpty then " " ++ body else body)
    | _ => Run.trouble .field ("'" ++ (← v.typeName) ++ "' object has no attribute 'items'")
  | v => Run.trouble .field ("'" ++ (← v.typeName) ++ "' object has no attribute 'items'")

/-- Text for an address: bytes other than letters, digits and few signs by their codes. -/
def percentText (keepSlash : Bool) (s : String) : String :=
  String.ofList (s.toUTF8.toList.flatMap fun b =>
    let c := Char.ofNat b.toNat
    if b.toNat < 128 && (c.isAlphanum || "_.-~".toList.contains c || (keepSlash && c = '/')) then [c]
    else '%' :: (Text.hexDigits 2 b.toNat).map Char.toUpper)

def queryText (s : String) : String := (percentText false s).replace "%20" "+"

def addressText (v : Value) : Run Value := do
  match v.text?, ← Run.attempt v.iterate with
  | some s, _ => return text (percentText true s)
  | Option.none, .error _ => return text (percentText true (← v.toText))
  | Option.none, .ok id =>
    let items ←
      match ← dictEntries? v with
      | some entries => pure (entries.map fun (k, w) => tuple [k, w])
      | Option.none => Walk.drain id
    let parts ← items.mapM fun w => do
      match ← unpacked 2 w with
      | [k, x] => return queryText (← k.toText) ++ "=" ++ queryText (← x.toText)
      | _ => return ""
    return text (String.intercalate "&" parts)

end CardPress.Template.Value
