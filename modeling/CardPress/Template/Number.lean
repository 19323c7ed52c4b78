import CardPress.Number.Fixed
import CardPress.Number.Scalar
import CardPress.Template.Access

/-! Numbers from text and other values, and rounding. -/
namespace CardPress.Template.Value

def digit? (c : Char) : Option Nat :=
  match Text.digitValue? c with
  | some v => some v
  | Option.none =>
    let n := c.toNat
    if 97 ≤ n ∧ n ≤ 122 then some (n - 87) else if 65 ≤ n ∧ n ≤ 90 then some (n - 55) else Option.none

/-- Digits with single underscores between them. -/
def joinedDigits? (afterDigit : Bool) : List Char → Option (List Char)
  | [] => if afterDigit then some [] else Option.none
  | c :: cs =>
    if c = '_' then (if afterDigit then joinedDigits? false cs else Option.none)
    else (joinedDigits? true cs).map (c :: ·)

/-- The base that the start of number text gives, and what follows that start. -/
def basedBody (base : Nat) (cs : List Char) : Option (Nat × Bool × List Char) :=
  let afterMark (body : List Char) : List Char :=
    match body with
    | '_' :: rest => rest
    | _ => body
  match cs with
  | '0' :: m :: rest =>
    let wanted := match m.toLower with
      | 'x' => 16
      | 'o' => 8
      | 'b' => 2
      | _ => 0
    if wanted != 0 && (base = 0 || base = wanted) then some (wanted, true, afterMark rest)
    else some (if base = 0 then 10 else base, false, cs)
  | _ => some (if base = 0 then 10 else base, false, cs)

/-- The value of number text in a base; base zero goes by how the text starts. Also tells how many
digits there are. -/
def readWhole? (base : Nat) (s : String) : Option (Int × Nat × Nat) := do
  let (negative, body) := Numeral.takeSign ((Text.trimNumber s.toList).map Numeral.plainDigit)
  let (actual, marked, body) ← basedBody base body
  let digits ← joinedDigits? false body
  let values ← digits.mapM digit?
  if values.any (actual ≤ ·) then Option.none
  else if base = 0 && !marked && digits.head? = some '0' && values.any (· ≠ 0) then Option.none
  else
    let n := values.foldl (fun n d => actual * n + d) 0
    some (if negative then -(n : Int) else n, values.length, actual)

def isPowerOfTwo (n : Nat) : Bool := [2, 4, 8, 16, 32].contains n

/-- Reads a whole number in a base from the text of a value. -/
def wholeOfText (base : Nat) (v : Value) (s : String) : Run Int := do
  match readWhole? base s with
  | some (n, count, actual) =>
    if Literal.digitLimit < count && !isPowerOfTwo actual then throw (Literal.tooManyDigits count)
    else return n
  | Option.none =>
    Run.valueTrouble s!"invalid literal for int() with base {base}: {Text.cut (← v.inner)}"

def realOfText (v : Value) (s : String) : Run Float := do
  match Numeral.ofString? s with
  | some n => return n.toFloat
  | Option.none => Run.valueTrouble ("could not convert string to float: " ++ (← v.inner))

/-- A value as a whole number, as far as it stands for one. -/
def asWhole (v : Value) : Run Int := do
  v.defined
  match v with
  | real x _ =>
    match FloatDivision.toWhole x with
    | .ok n => return n
    | .error .nanToWhole => Run.valueTrouble "cannot convert float NaN to integer"
    | .error _ => Run.trouble .overflow "cannot convert float infinity to integer"
  | v =>
    match v.whole?, v.text? with
    | some n, _ => return n
    | _, some s => wholeOfText 10 v s
    | _, _ =>
      Run.typeTrouble ("int() argument must be a string, a bytes-like object or a real number, not '"
        ++ (← v.typeName) ++ "'")

def asReal (v : Value) : Run Float := do
  v.defined
  match v with
  | real x _ => return x
  | v =>
    match v.whole?, v.text? with
    | some n, _ => wholeReal n
    | _, some s => realOfText v s
    | _, _ =>
      Run.typeTrouble ("float() argument must be a string or a real number, not '" ++ (← v.typeName) ++ "'")

/-- Text as a whole number in a base, which must be zero or from two to thirty-six. -/
def wholeIn (base v : Value) (s : String) : Run Int := do
  match base.whole? with
  | Option.none => notAWhole base
  | some n =>
    if n = 0 || (2 ≤ n && n ≤ 36) then wholeOfText n.toNat v s
    else Run.valueTrouble "int() base must be >= 2 and <= 36, or 0"

def isMismatch (t : Trouble) : Bool := t.kind = .type || t.kind = .value

/-- A value as a whole number; what does not read as one counts as a float that is cut, or else as
`standard`. -/
def toWhole (v standard base : Value) : Run Value := do
  let first ← Run.attempt (match v.text? with
    | some s => wholeIn base v s
    | Option.none => asWhole v)
  match first with
  | .ok n => return whole n
  | .error t =>
    if !isMismatch t then throw t
    else
      match ← Run.attempt (do asWhole (real (← asReal v) 0)) with
      | .ok n => return whole n
      | .error t => if isMismatch t || t.kind = .overflow then return standard else throw t

def toReal (v standard : Value) : Run Value := do
  match ← Run.attempt (asReal v) with
  | .ok x =>
    match v with
    | real .. => return v
    | _ => Run.real x
  | .error t => if isMismatch t then return standard else throw t

/-- Rounds a whole number to a power of ten, a half to the even neighbour. -/
def roundWhole (n places : Int) : Int :=
  if 0 ≤ places then n
  else if (toString n.natAbs).length + 1 < (-places).toNat then 0
  else
    let unit := Nat.pow 10 (-places).toNat
    let c : Int := roundHalfEven n.natAbs unit * unit
    if n < 0 then -c else c

def placesOf (v : Value) : Run Int := do
  match v.whole? with
  | some n => return n
  | Option.none => notAWhole v

/-- Rounds to the nearest number with so many places; without a number of places it is whole. -/
def nearest (v precision : Value) : Run Value := do
  match v, precision with
  | real x _, none => return whole (← asWhole (real (if x.isFinite then Fixed.round 0 x else x) 0))
  | real x _, precision =>
    let y := Fixed.round (← placesOf precision) x
    if x.isFinite && y.isInf then Run.trouble .overflow "rounded value too large to represent"
    else if x.isNaN then return v
    else return real y 0
  | v, precision =>
    match v.whole?, precision with
    | some n, none => return whole n
    | some n, precision => return whole (roundWhole n (← placesOf precision))
    | Option.none, _ =>
      Run.typeTrouble ("type " ++ (← v.typeName) ++ " doesn't define __round__ method")

/-- Rounds up or down to a multiple of a power of ten. -/
def toward (up : Bool) (v precision : Value) : Run Value := do
  let unit ← pow (whole 10) precision
  let scaled ← mul v unit
  let bound ←
    match scaled with
    | real x _ => asWhole (real (if up then x.ceil else x.floor) 0)
    | scaled =>
      match scaled.whole? with
      | some n => pure n
      | Option.none => Run.typeTrouble ("must be real number, not " ++ (← scaled.typeName))
  div (whole bound) (← pow (whole 10) precision)

def rounded (v precision way : Value) : Run Value := do
  hashable way
  match way.text? with
  | some "common" => nearest v precision
  | some "ceil" => toward true v precision
  | some "floor" => toward false v precision
  | _ => throw (.plain "method must be common, ceil or floor")

end CardPress.Template.Value
