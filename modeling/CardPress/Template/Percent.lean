import CardPress.Number.Fixed
import CardPress.Template.Number

/-! Filling percent signs in a text with values. -/
namespace CardPress.Template.Percent

/-- The marks between a percent sign and the width. -/
structure Flags where
  left : Bool := false
  plus : Bool := false
  blank : Bool := false
  alternate : Bool := false
  zero : Bool := false
  deriving DecidableEq, Repr

def Flags.add (flags : Flags) : Char → Option Flags
  | '-' => some { flags with left := true }
  | '+' => some { flags with plus := true }
  | ' ' => some { flags with blank := true }
  | '#' => some { flags with alternate := true }
  | '0' => some { flags with zero := true }
  | _ => Option.none

/-- How one value is written: flags, least width and precision. -/
structure Spec where
  flags : Flags := {}
  width : Nat := 0
  precision : Option Nat := Option.none
  deriving DecidableEq, Repr

/-- Fills text up to the least width. -/
def pad (spec : Spec) (body : List Char) : List Char :=
  let missing := List.replicate (spec.width - body.length) ' '
  if spec.flags.left then body ++ missing else missing ++ body

/-- Fills a number up to the least width; zeros go between the lead and the digits. -/
def padNumber (spec : Spec) (lead digits : List Char) : List Char :=
  if spec.flags.zero && !spec.flags.left then
    lead ++ List.replicate (spec.width - (lead ++ digits).length) '0' ++ digits
  else pad spec (lead ++ digits)

def signText (flags : Flags) (negative : Bool) : List Char :=
  if negative then ['-']
  else if flags.plus then ['+']
  else if flags.blank then [' ']
  else []

/-- No number has digits other than zero behind so many places. -/
def exactPlaces : Nat := 1100

/-- `digits` significant digits and the power of ten of the first. -/
def significant (digits m : Nat) (q : Int) : List Char × Int :=
  if m = 0 then (List.replicate digits '0', 0)
  else
    let exact := min digits exactPlaces
    let power := Shortest.leadingPower m q
    let (n, d) := scaledFraction m q (exact - 1 - power)
    let c := Nat.toDigits 10 (roundHalfEven n d)
    let zeros := List.replicate (digits - exact) '0'
    if exact < c.length then (c.take exact ++ zeros, power + 1) else (c ++ zeros, power)

def exponentText (power : Int) : List Char :=
  let size := Nat.toDigits 10 power.natAbs
  'e' :: (if power < 0 then '-' else '+') :: (if size.length < 2 then '0' :: size else size)

/-- The point is kept before no digits only on request. -/
def pointed (keepPoint : Bool) (whole places : List Char) : List Char :=
  if places.isEmpty && !keepPoint then whole else whole ++ '.' :: places

def realDigits (kind : Char) (keepPoint : Bool) (precision m : Nat) (q : Int) : List Char :=
  match kind with
  | 'f' =>
    let exact := min precision exactPlaces
    let (n, d) := scaledFraction m q exact
    let digits := (Fixed.point exact (roundHalfEven n d)).toList
    if precision = 0 then pointed keepPoint digits []
    else digits ++ List.replicate (precision - exact) '0'
  | 'e' =>
    let (digits, power) := significant (precision + 1) m q
    pointed keepPoint (digits.take 1) (digits.drop 1) ++ exponentText power
  | _ =>
    let wanted := max 1 precision
    let (digits, power) := significant wanted m q
    let trimmed (places : List Char) : List Char :=
      if keepPoint then places else Text.dropEndWhile (· = '0') places
    if power < -4 ∨ (wanted : Int) ≤ power then
      pointed keepPoint (digits.take 1) (trimmed (digits.drop 1)) ++ exponentText power
    else if power < 0 then
      pointed keepPoint ['0'] (List.replicate (-power - 1).toNat '0' ++ trimmed digits)
    else
      let whole := (power + 1).toNat
      pointed keepPoint (digits.take whole) (trimmed (digits.drop whole))

def realText (spec : Spec) (kind : Char) (x : Float) : List Char :=
  let (negative, digits) :=
    match FloatShape.ofFloat x with
    | .nan => (false, "nan".toList)
    | .infinite negative => (negative, "inf".toList)
    | .finite negative m q =>
      let precision := spec.precision.getD 6
      (negative, realDigits kind.toLower spec.flags.alternate precision m q)
  let digits := if kind.isUpper then digits.map Char.toUpper else digits
  padNumber spec (signText spec.flags negative) digits

def numberTrouble {α : Type} (kind : Char) (need : String) (v : Value) (wrapped : Bool) : Run α := do
  let name ← if wrapped then pure "_MarkupEscapeHelper" else v.typeName
  Run.typeTrouble ("%" ++ String.singleton kind ++ " format: " ++ need ++ " is required, not " ++ name)

/-- A float cut to a whole number. -/
def wholePart (x : Float) : Run Int := do
  match FloatDivision.toWhole x with
  | .ok n => return n
  | .error .nanToWhole => Run.valueTrouble "cannot convert float NaN to integer"
  | .error _ => Run.trouble .overflow "cannot convert float infinity to integer"

/-- The whole number to be written in decimal. In a place of safe text, text that reads as a number is
one. -/
def decimalOf (kind : Char) (wrapped : Bool) (v : Value) : Run Int := do
  v.defined
  match v with
  | .real x _ => wholePart x
  | v =>
    match v.whole?, v.text? with
    | some n, _ => return n
    | none, some s =>
      if wrapped then Value.wholeOfText 10 v s else numberTrouble kind "a real number" v wrapped
    | none, none => numberTrouble kind "a real number" v wrapped

/-- The whole number to be written in another base. -/
def wholeOf (kind : Char) (wrapped : Bool) (v : Value) : Run Int := do
  match if wrapped then none else v.whole? with
  | some n => return n
  | none => numberTrouble kind "an integer" v wrapped

def floatOf (wrapped : Bool) (v : Value) : Run Float := do
  v.defined
  match v.whole?, v with
  | some n, _ => Value.wholeReal n
  | none, .real x _ => return x
  | none, v =>
    if wrapped then
      match v.text? with
      | some s => Value.realOfText v s
      | none =>
        Run.typeTrouble ("float() argument must be a string or a real number, not '"
          ++ (← v.typeName) ++ "'")
    else Run.typeTrouble ("must be real number, not " ++ (← v.typeName))

def wholeWritten (spec : Spec) (lead digits : List Char) (n : Int) : List Char :=
  padNumber spec (signText spec.flags (n < 0) ++ lead)
    (Fixed.padLeft (spec.precision.getD 1) digits)

def inBase (spec : Spec) (kind : Char) (base : Nat) (wrapped : Bool) (v : Value) : Run (List Char) := do
  let n ← wholeOf kind wrapped v
  let lead := if spec.flags.alternate then ['0', kind] else []
  let digits := Nat.toDigits base n.natAbs
  return wholeWritten spec lead (if kind.isUpper then digits.map Char.toUpper else digits) n

def charOf (wrapped : Bool) (v : Value) : Run Char := do
  match v.text?.map String.toList, v.whole?, wrapped with
  | some [c], _, false => return c
  | _, some n, false =>
    if 0 ≤ n ∧ n < 0x110000 then return Char.ofNat n.toNat
    else Run.trouble .overflow "%c arg not in range(0x110000)"
  | _, _, _ => Run.typeTrouble "%c requires int or char"

def unknownKind (kind : Char) (index : Nat) : Trouble :=
  let shown := if 31 ≤ kind.toNat && kind.toNat ≤ 126 then kind else '?'
  let code := String.ofList (Nat.toDigits 16 kind.toNat)
  .value s!"unsupported format character '{shown}' (0x{code}) at index {index}"

def clip (spec : Spec) (s : String) : List Char :=
  match spec.precision with
  | some n => s.toList.take n
  | Option.none => s.toList

/-- One value as `kind` asks for; `wrapped` is for a place in safe text. -/
def written (wrapped : Bool) (spec : Spec) (kind : Char) (index : Nat) (v : Value) : Run (List Char) := do
  let guarded (s : String) : String := if wrapped then Value.escaped s else s
  match kind with
  | 's' =>
    let s ← v.toText
    return pad spec (clip spec (match v with | .safe _ => s | _ => guarded s))
  | 'r' => return pad spec (clip spec (guarded (← v.inner)))
  | 'a' => return pad spec (clip spec (Text.escapeBeyondAscii (guarded (← v.inner))))
  | 'd' | 'i' | 'u' =>
    let n ← decimalOf kind wrapped v
    return wholeWritten spec [] (← Value.wholeText n.natAbs).toList n
  | 'x' | 'X' => inBase spec kind 16 wrapped v
  | 'o' => inBase spec kind 8 wrapped v
  | 'e' | 'E' | 'f' | 'F' | 'g' | 'G' => return realText spec kind (← floatOf wrapped v)
  | 'c' => return pad spec [← charOf wrapped v]
  | c => throw (unknownKind c index)

/-- What is filled in: values one after the other, or the parts of one value. -/
structure Filling where
  wrapped : Bool := false
  parts : Option Value := Option.none
  pending : List Value

namespace Filling

def next (filling : Filling) : Run (Value × Filling) := do
  match filling.pending with
  | [] => Run.typeTrouble "not enough arguments for format string"
  | v :: pending => return (v, { filling with pending })

/-- Goes on with the part under a key. -/
def atKey (filling : Filling) (key : String) : Run Filling := do
  match filling.parts with
  | some v => return { filling with pending := [← v.part (.text key)] }
  | Option.none => Run.typeTrouble "format requires a mapping"

end Filling

/-- The key in front of the parenthesis that closes it, and the text after that. -/
def takeKey (depth : Nat) : List Char → Option (List Char × List Char)
  | [] => Option.none
  | c :: cs =>
    let more (depth : Nat) := (takeKey depth cs).map fun (key, rest) => (c :: key, rest)
    match c, depth with
    | ')', 0 => some ([], cs)
    | ')', depth + 1 => more depth
    | '(', depth => more (depth + 1)
    | _, depth => more depth

def takeFlags (flags : Flags) : List Char → Flags × List Char
  | [] => (flags, [])
  | c :: cs =>
    match flags.add c with
    | some flags => takeFlags flags cs
    | Option.none => (flags, c :: cs)

/-- A number in the text, which must not go beyond a limit. -/
def takeNumber (limit : Nat) : Nat → List Char → Option (Nat × List Char)
  | n, [] => some (n, [])
  | n, c :: cs =>
    if c.isDigit then
      let digit := c.toNat - 48
      if (limit - digit) / 10 < n then Option.none else takeNumber limit (10 * n + digit) cs
    else some (n, c :: cs)

def widthLimit : Nat := Nat.pow 2 63 - 1

def precisionLimit : Nat := Nat.pow 2 31 - 1

/-- A number in the text, or a star for the next value. -/
def takeSize (what word : String) (limit : Nat) (filling : Filling) (cs : List Char) :
    Run (Int × List Char × Filling) := do
  match cs with
  | '*' :: cs =>
    let (v, filling) ← filling.next
    match if filling.wrapped then Option.none else v.whole? with
    | some n =>
      if (limit : Int) < n || n < -(limit : Int) - 1 then
        Run.trouble .overflow ("Python int too large to convert to C " ++ word)
      else return (n, cs, filling)
    | Option.none => Run.typeTrouble "* wants int"
  | cs =>
    match takeNumber limit 0 cs with
    | some (n, rest) => return (n, rest, filling)
    | Option.none => Run.valueTrouble (what ++ " too big")

def takePrecision (filling : Filling) (cs : List Char) : Run (Option Nat × List Char × Filling) := do
  match cs with
  | '.' :: cs =>
    let (n, rest, filling) ← takeSize "precision" "int" precisionLimit filling cs
    return (some n.toNat, rest, filling)
  | cs => return (Option.none, cs, filling)

def dropLength : List Char → List Char
  | 'h' :: cs | 'l' :: cs | 'L' :: cs => cs
  | cs => cs

/-- The text after a percent sign up to the letter that says what is written. -/
def takeSpec (filling : Filling) (cs : List Char) : Run (Spec × List Char × Filling) := do
  let (cs, filling) ←
    match cs with
    | '(' :: cs =>
      if filling.parts.isNone then Run.typeTrouble "format requires a mapping"
      else
        match takeKey 0 cs with
        | some (key, rest) => do pure (rest, ← filling.atKey (String.ofList key))
        | Option.none => Run.valueTrouble "incomplete format key"
    | cs => pure (cs, filling)
  let (flags, cs) := takeFlags {} cs
  let (width, cs, filling) ← takeSize "width" "ssize_t" widthLimit filling cs
  let flags := { flags with left := flags.left || width < 0 }
  let (precision, cs, filling) ← takePrecision filling cs
  Value.kept width.natAbs
  return ({ flags, width := width.natAbs, precision }, dropLength cs, filling)

/-- Fills in values at the percent signs; `index` is the place in the whole text. -/
def fill (filling : Filling) : Nat → Nat → List Char → Run (List Char)
  | 0, _, _ => return []
  | fuel + 1, index, cs => do
    match cs with
    | [] =>
      if filling.pending.isEmpty || filling.parts.isSome then return []
      else Run.typeTrouble "not all arguments converted during string formatting"
    | '%' :: '%' :: rest => return '%' :: (← fill filling fuel (index + 2) rest)
    | '%' :: rest =>
      let (spec, tail, filling) ← takeSpec filling rest
      let position := index + 1 + (rest.length - tail.length)
      match tail with
      | [] => Run.valueTrouble "incomplete format"
      | kind :: tail =>
        let (v, filling) ← filling.next
        let body ← written filling.wrapped spec kind position v
        return body ++ (← fill filling fuel (position + 1) tail)
    | c :: rest => return c :: (← fill filling fuel (index + 1) rest)

/-- One value, a tuple of values, or a value that has parts. -/
def Filling.ofValue (wrapped : Bool) (v : Value) : Run Filling := do
  let whole : Filling := { wrapped, parts := some v, pending := [v] }
  match v with
  | .tuple items => return { wrapped, pending := items }
  | .range .. => return whole
  | .undefined _ => return whole
  | .absent .. => return whole
  | .object id =>
    match ← Run.thing? id with
    | some (.list _) => return whole
    | some (.dict _) => return whole
    | _ => return { wrapped, pending := [v] }
  | _ => return { wrapped, pending := [v] }

/-- Fills in text; safe text stays safe because what comes in is escaped. -/
def format (v supplied : Value) : Run Value := do
  let filled (wrapped : Bool) (s : String) : Run String := do
    let filling ← Filling.ofValue wrapped supplied
    return String.ofList (← fill filling (s.length + 1) 0 s.toList)
  match v with
  | .safe s => return .safe (← filled true s)
  | v => return .text (← filled false (← v.toText))

end CardPress.Template.Percent

namespace CardPress.Template.Value

/-- The remainder of numbers; text on the left is filled in instead. -/
def mod (a b : Value) : Run Value := do
  a.defined
  match a with
  | text _ => Percent.format a b
  | safe _ => Percent.format a b
  | a =>
    b.defined
    remainder.apply a b

end CardPress.Template.Value
