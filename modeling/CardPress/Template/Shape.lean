import CardPress.Template.Percent

/-! How a value between braces is laid out: fill, alignment, sign, width, groups, precision and kind. -/
namespace CardPress.Template

/-- Where a value stands when there is room left. `inside` puts the room between sign and digits. -/
inductive Alignment where
  | left
  | right
  | middle
  | inside
  deriving DecidableEq, Repr

def Alignment.ofChar? : Char → Option Alignment
  | '<' => some .left
  | '>' => some .right
  | '^' => some .middle
  | '=' => some .inside
  | _ => none

structure Shape where
  fill : Char := ' '
  alignment : Alignment
  sign : Option Char := none
  plainZero : Bool := false
  alternate : Bool := false
  width : Option Nat := none
  grouping : Option Char := none
  precision : Option Nat := none
  kind : Option Char := none
  deriving DecidableEq, Repr

namespace Shape

/-- A character as messages show it. -/
def shown (c : Char) : String :=
  if 32 < c.toNat && c.toNat < 128 then String.singleton c
  else "\\x" ++ String.ofList (Nat.toDigits 16 c.toNat)

def sizeLimit : Nat := Nat.pow 2 63 - 1

/-- The number that the text begins with, if it begins with digits. -/
def takeSize : Option Nat → List Char → Run (Option Nat × List Char)
  | n, [] => return (n, [])
  | n, c :: cs => do
    match Text.digitValue? c with
    | some d =>
      if (sizeLimit - d) / 10 < n.getD 0 then Run.valueTrouble "Too many decimal digits in format string"
      else takeSize (some (10 * n.getD 0 + d)) cs
    | none => return (n, c :: cs)

/-- Takes a character away if the text begins with it. -/
def takeMark (mark : Char) : List Char → Bool × List Char
  | c :: cs => if c = mark then (true, cs) else (false, c :: cs)
  | [] => (false, [])

def takeAlignment : List Char → Option Char × Option Alignment × List Char
  | c :: d :: cs =>
    match Alignment.ofChar? d, Alignment.ofChar? c with
    | some a, _ => (some c, some a, cs)
    | none, some a => (none, some a, d :: cs)
    | none, none => (none, none, c :: d :: cs)
  | [c] =>
    match Alignment.ofChar? c with
    | some a => (none, some a, [])
    | none => (none, none, [c])
  | [] => (none, none, [])

def takeSign : List Char → Option Char × List Char
  | c :: cs => if [' ', '+', '-'].contains c then (some c, cs) else (none, c :: cs)
  | [] => (none, [])

def takeGrouping (cs : List Char) : Run (Option Char × List Char) := do
  let both {α : Type} : Run α := Run.valueTrouble "Cannot specify both ',' and '_'."
  match cs with
  | ',' :: '_' :: _ => both
  | '_' :: ',' :: _ => both
  | ',' :: cs => return (some ',', cs)
  | '_' :: cs => return (some '_', cs)
  | cs => return (none, cs)

def takePrecision (cs : List Char) : Run (Option Nat × List Char) := do
  match cs with
  | '.' :: cs =>
    match ← takeSize none cs with
    | (some n, cs) => return (some n, cs)
    | (none, _) => Run.valueTrouble "Format specifier missing precision"
  | cs => return (none, cs)

/-- Only some kinds can be grouped; those of another base by underscores alone. -/
def checkGrouping (grouping kind : Option Char) : Run Unit := do
  match grouping, kind with
  | some mark, some k =>
    if "deEfFgG%".toList.contains k || (mark = '_' && "boxX".toList.contains k) then return
    else Run.valueTrouble s!"Cannot specify '{mark}' with '{shown k}'."
  | _, _ => return

/-- Reads how a value of a type is to be laid out; a type has its own alignment and its own kind. -/
def read (type : String) (standard : Alignment) (kind : Option Char) (spec : List Char) : Run Shape := do
  let (fill, alignment, cs) := takeAlignment spec
  let (sign, cs) := takeSign cs
  let (plainZero, cs) := takeMark 'z' cs
  let (alternate, cs) := takeMark '#' cs
  let (zero, cs) := if fill.isNone then takeMark '0' cs else (false, cs)
  let inner := zero && alignment.isNone && standard = .right
  let (width, cs) ← takeSize none cs
  let (grouping, cs) ← takeGrouping cs
  let (precision, cs) ← takePrecision cs
  let kind ←
    match cs with
    | [] => pure kind
    | [k] => pure (some k)
    | _ =>
      Run.valueTrouble s!"Invalid format specifier '{String.ofList spec}' for object of type '{type}'"
  checkGrouping grouping kind
  Value.kept (width.getD 0)
  return {
    fill := if zero then '0' else fill.getD ' '
    alignment := if inner then .inside else alignment.getD standard
    sign, plainZero, alternate, width, grouping, precision, kind }

def unknownKind {α : Type} (k : Char) (type : String) : Run α :=
  Run.valueTrouble s!"Unknown format code '{shown k}' for object of type '{type}'"

/-- A number in parts: what stands before its digits, the digits, and what stands after them. -/
structure Parts where
  negative : Bool
  lead : List Char := []
  digits : List Char
  rest : List Char := []
  deriving DecidableEq, Repr

/-- Digits from the right in groups; zeros are added up to a least width. -/
def groups (mark : Char) (size : Nat) : Nat → Nat → List Char → List Char
  | 0, _, _ => []
  | fuel + 1, least, digits =>
    let n := min size (max (max digits.length least) 1)
    let group := digits.take n ++ List.replicate (n - digits.length) '0'
    let digits := digits.drop n
    let least := least - n
    if digits.isEmpty && least = 0 then group
    else group ++ mark :: groups mark size fuel (least - 1) digits

def signText (shape : Shape) (negative : Bool) : List Char :=
  if negative then ['-']
  else
    match shape.sign with
    | some '+' => ['+']
    | some ' ' => [' ']
    | _ => []

def groupSize (kind : Option Char) : Nat :=
  match kind with
  | some 'b' | some 'o' | some 'x' | some 'X' => 4
  | _ => 3

/-- Digits in groups if the shape asks for them, with zeros up to the width. -/
def digitText (shape : Shape) (others : Nat) (digits : List Char) : List Char :=
  let least :=
    if shape.fill = '0' && shape.alignment = .inside then shape.width.getD 0 - others else 0
  if digits.isEmpty then []
  else
    match shape.grouping with
    | some mark =>
      let fuel := digits.length + least + 1
      (groups mark (groupSize shape.kind) fuel least digits.reverse).reverse
    | none => Fixed.padLeft least digits

/-- Fills up to the width; `lead` stands before room that is inside. -/
def pad (shape : Shape) (lead body : List Char) : List Char :=
  let room := shape.width.getD 0 - (lead.length + body.length)
  let fill (n : Nat) := List.replicate n shape.fill
  match shape.alignment with
  | .left => lead ++ body ++ fill room
  | .right => fill room ++ lead ++ body
  | .middle => fill (room / 2) ++ lead ++ body ++ fill (room - room / 2)
  | .inside => lead ++ fill room ++ body

def number (shape : Shape) (p : Parts) : List Char :=
  let lead := shape.signText p.negative ++ p.lead
  shape.pad lead (shape.digitText (lead.length + p.rest.length) p.digits ++ p.rest)

/-- Significant digits as in full notation: there is a place after the point, or an exponent. -/
def fullDigits (keepPoint : Bool) (precision m : Nat) (q : Int) : List Char :=
  let wanted := max 1 precision
  let (digits, power) := Percent.significant wanted m q
  let trimmed (places : List Char) : List Char :=
    if keepPoint then places else Text.dropEndWhile (· = '0') places
  if power < -4 ∨ (wanted : Int) ≤ power + 1 then
    Percent.pointed keepPoint (digits.take 1) (trimmed (digits.drop 1)) ++ Percent.exponentText power
  else if power < 0 then
    '0' :: '.' :: List.replicate (-power - 1).toNat '0' ++ trimmed digits
  else
    let whole := (power + 1).toNat
    let places := trimmed (digits.drop whole)
    digits.take whole ++ '.' :: (if places.isEmpty then ['0'] else places)

/-- A point before the exponent if there is none yet. -/
def withPoint (cs : List Char) : List Char :=
  if cs.contains '.' then cs
  else cs.takeWhile (· ≠ 'e') ++ '.' :: cs.dropWhile (· ≠ 'e')

/-- The text of a finite number without its sign. -/
def realDigits (shape : Shape) (x : Float) (m : Nat) (q : Int) : List Char :=
  match shape.kind, shape.precision with
  | none, none =>
    let cs := (Shortest.text x.abs).toList
    if shape.alternate then withPoint cs else cs
  | none, some n => fullDigits shape.alternate n m q
  | some k, n =>
    let kind := if k = 'n' then 'g' else if k = '%' then 'f' else k.toLower
    Percent.realDigits kind shape.alternate (n.getD 6) m q

/-- Parts of a floating-point number; without a sign for zero if the shape asks for that. -/
def realParts (shape : Shape) (x : Float) : Parts :=
  let upper := (shape.kind.map Char.isUpper).getD false
  let cased (cs : List Char) : List Char := if upper then cs.map Char.toUpper else cs
  let percent := if shape.kind = some '%' then ['%'] else []
  match FloatShape.ofFloat x with
  | .nan => ⟨false, [], [], cased "nan".toList ++ percent⟩
  | .infinite negative => ⟨negative, [], [], cased "inf".toList ++ percent⟩
  | .finite negative m q =>
    let cs := cased (shape.realDigits x m q) ++ percent
    let isZero := (cs.takeWhile fun c => c.isDigit || c = '.').all fun c => c = '0' || c = '.'
    ⟨negative && !(shape.plainZero && isZero), [], cs.takeWhile Char.isDigit, cs.dropWhile Char.isDigit⟩

def checkPrecision (shape : Shape) : Run Unit := do
  if Percent.precisionLimit < shape.precision.getD 0 then Run.valueTrouble "precision too big"

def real (shape : Shape) (type : String) (x : Float) : Run (List Char) := do
  match shape.kind with
  | some k => if !"eEfFgGn%".toList.contains k then unknownKind k type
  | none => pure ()
  shape.checkPrecision
  return shape.number (shape.realParts (if shape.kind = some '%' then x * 100 else x))

/-- Both parts of a complex number; a real part of zero is left out where no kind is asked for. -/
def complex (shape : Shape) (re im : Float) : Run (List Char) := do
  match shape.kind with
  | some k => if !"eEfFgGn".toList.contains k then unknownKind k "complex"
  | none => pure ()
  shape.checkPrecision
  if shape.fill = '0' then
    Run.valueTrouble "Zero padding is not allowed in complex format specifier"
  if shape.alignment = .inside then
    Run.valueTrouble "'=' alignment flag is not allowed in complex format specifier"
  let bare := { shape with fill := ' ', alignment := Alignment.left, width := none }
  let part (shape : Shape) (x : Float) : List Char :=
    match shape.kind, shape.precision with
    | none, none =>
      let p := shape.realParts x
      let point := if shape.alternate then ['.'] else []
      shape.number (if p.rest = ['.', '0'] then { p with rest := point } else p)
    | none, some _ => { shape with kind := some 'g' }.number ({ shape with kind := some 'g' }.realParts x)
    | some _, _ => shape.number (shape.realParts x)
  let skipped := shape.kind.isNone && re == 0.0 && !Value.isMinus re
  let body :=
    if skipped then part bare im ++ ['j']
    else
      let both := part bare re ++ part { bare with sign := some '+' } im ++ ['j']
      if shape.kind.isNone then '(' :: both ++ [')'] else both
  return shape.pad [] body

def character (shape : Shape) (n : Int) : Run (List Char) := do
  if shape.sign.isSome then
    Run.valueTrouble "Sign not allowed with integer format specifier 'c'"
  if shape.alternate then
    Run.valueTrouble "Alternate form (#) not allowed with integer format specifier 'c'"
  if !Value.isWord n then Run.trouble .overflow "Python int too large to convert to C long"
  if n < 0 || 0x110000 ≤ n then Run.trouble .overflow "%c arg not in range(0x110000)"
  return shape.number ⟨false, [], [], [Char.ofNat n.toNat]⟩

def whole (shape : Shape) (type : String) (n : Int) : Run (List Char) := do
  let k := shape.kind.getD 'd'
  if "eEfFgG%".toList.contains k then shape.real type (← Value.wholeReal n)
  else
    if !"bcdoxXn".toList.contains k then unknownKind k type
    if shape.precision.isSome then
      Run.valueTrouble "Precision not allowed in integer format specifier"
    if shape.plainZero then
      Run.valueTrouble "Negative zero coercion (z) not allowed in integer format specifier"
    let inBase (base : Nat) : List Char := Nat.toDigits base n.natAbs
    let lead := if shape.alternate then ['0', k] else []
    match k with
    | 'c' => shape.character n
    | 'b' => return shape.number ⟨n < 0, lead, inBase 2, []⟩
    | 'o' => return shape.number ⟨n < 0, lead, inBase 8, []⟩
    | 'x' => return shape.number ⟨n < 0, lead, inBase 16, []⟩
    | 'X' => return shape.number ⟨n < 0, lead, (inBase 16).map Char.toUpper, []⟩
    | _ => return shape.number ⟨n < 0, [], (← Value.wholeText n.natAbs).toList, []⟩

def text (shape : Shape) (type s : String) : Run (List Char) := do
  let refuse (what : String) : Run Unit := Run.valueTrouble (what ++ " not allowed in string format specifier")
  let k := shape.kind.getD 's'
  if k ≠ 's' then unknownKind k type
  match shape.sign with
  | some ' ' => refuse "Space"
  | some _ => refuse "Sign"
  | none => pure ()
  if shape.plainZero then refuse "Negative zero coercion (z)"
  if shape.alternate then refuse "Alternate form (#)"
  if shape.alignment = .inside then refuse "'=' alignment"
  let cs := s.toList
  return shape.pad [] (cs.take (shape.precision.getD cs.length))

end Shape

namespace Value

/-- The text of a value in a shape. Without one it is the text in the output. -/
def shaped (v : Value) (spec : List Char) : Run (List Char) := do
  if spec.isEmpty then return (← v.toText).toList
  else
    let type ← v.typeName
    match v with
    | text s => (← Shape.read type .left (some 's') spec).text type s
    | safe s => (← Shape.read type .left (some 's') spec).text type s
    | whole n => (← Shape.read type .right (some 'd') spec).whole type n
    | bool b => (← Shape.read type .right (some 'd') spec).whole type (if b then 1 else 0)
    | real x _ => (← Shape.read type .right Option.none spec).real type x
    | complex re im => (← Shape.read type .right Option.none spec).complex re im
    | _ => Run.typeTrouble ("unsupported format string passed to " ++ type ++ ".__format__")

end Value

end CardPress.Template
