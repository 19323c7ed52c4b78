import CardPress.Number.Complex
import CardPress.Number.FloatShape
import CardPress.Template.Same

/-! Operators of template expressions. -/
namespace CardPress.Template.Value

def operandTrouble {α : Type} (sign : String) (a b : Value) : Run α := do
  Run.typeTrouble s!"unsupported operand type(s) for {sign}: '{← a.typeName}' and '{← b.typeName}'"

def escapeList (cs : List Char) : List Char :=
  cs.flatMap fun c =>
    match c with
    | '&' => "&amp;".toList
    | '<' => "&lt;".toList
    | '>' => "&gt;".toList
    | '\'' => "&#39;".toList
    | '"' => "&#34;".toList
    | _ => [c]

def escaped (s : String) : String := String.ofList (escapeList s.toList)

/-- The nearest float; a whole number must not be too large for that. -/
def wholeReal (n : Int) : Run Float := do
  let x := nearestWhole n
  if x.isInf then Run.trouble .overflow "int too large to convert to float" else return x

def realOf? (v : Value) : Option (Run Float) :=
  match v with
  | real x _ => some (return x)
  | v => v.whole?.map wholeReal

def complexOf? (v : Value) : Option (Run Complex) :=
  match v with
  | complex re im => some (return ⟨re, im⟩)
  | v => (realOf? v).map fun act => do return ⟨← act, 0.0⟩

def ofComplex (c : Complex) : Value := complex c.re c.im

/-- What an operator does to whole numbers, floats and complex numbers. -/
structure Calculation where
  sign : String
  whole : Int → Int → Run Value
  real : Float → Float → Run Value
  complex : Option (Complex → Complex → Run Value)

/-- Computes with two operands as whole numbers if both are, as floats, or as complex numbers. -/
def Calculation.apply (c : Calculation) (a b : Value) : Run Value := do
  match a.whole?, b.whole? with
  | some m, some n => c.whole m n
  | _, _ =>
    match realOf? a, realOf? b with
    | some x, some y => do
      let x ← x
      c.real x (← y)
    | _, _ =>
      match c.complex, complexOf? a, complexOf? b with
      | some f, some x, some y => do
        let x ← x
        f x (← y)
      | _, _, _ => operandTrouble c.sign a b

def addition : Calculation :=
  ⟨"+", fun m n => return whole (m + n), fun x y => Run.real (x + y),
    some fun x y => return ofComplex (x.add y)⟩

def subtraction : Calculation :=
  ⟨"-", fun m n => return whole (m - n), fun x y => Run.real (x - y),
    some fun x y => return ofComplex (x.sub y)⟩

def multiplication : Calculation :=
  ⟨"*", fun m n => return whole (m * n), fun x y => Run.real (x * y),
    some fun x y => return ofComplex (x.mul y)⟩

def wholeQuotient (m n : Int) : Run Value := do
  if n = 0 then Run.trouble .zeroDivision "division by zero"
  else
    let x := nearestQuotient ((m < 0) != (n < 0)) m.natAbs n.natAbs
    if x.isInf then Run.trouble .overflow "integer division result too large for a float"
    else return real x 0

def realQuotient (x y : Float) : Run Value := do
  if y == 0.0 then Run.trouble .zeroDivision "float division by zero" else Run.real (x / y)

def complexQuotient (x y : Complex) : Run Value := do
  match x.div? y with
  | some z => return ofComplex z
  | Option.none => Run.trouble .zeroDivision "complex division by zero"

def division : Calculation := ⟨"/", wholeQuotient, realQuotient, some complexQuotient⟩

def wholeFloor (m n : Int) : Run Value := do
  if n = 0 then Run.trouble .zeroDivision "integer division or modulo by zero"
  else return whole (Int.fdiv m n)

def realFloor (x y : Float) : Run Value := do
  if y == 0.0 then Run.trouble .zeroDivision "float floor division by zero"
  else Run.real (FloatDivision.floorDivide x y).1

def floorDivision : Calculation := ⟨"//", wholeFloor, realFloor, Option.none⟩

def wholeRemainder (m n : Int) : Run Value := do
  if n = 0 then Run.trouble .zeroDivision "integer modulo by zero" else return whole (Int.fmod m n)

def realRemainder (x y : Float) : Run Value := do
  if y == 0.0 then Run.trouble .zeroDivision "float modulo"
  else Run.real (FloatDivision.floorDivide x y).2

/-- The remainder of two numbers. -/
def remainder : Calculation := ⟨"%", wholeRemainder, realRemainder, Option.none⟩

def complexPower (x y : Complex) : Run Value := do
  match x.pow? y with
  | Option.none => Run.trouble .zeroDivision "0.0 to a negative or complex power"
  | some z =>
    if z.re.isInf || z.im.isInf then Run.trouble .overflow "complex exponentiation"
    else return ofComplex z

/-- A negative number to a power that is not whole is complex. -/
def realPower (x y : Float) : Run Value := do
  if x == 0.0 && y < 0.0 then
    Run.trouble .zeroDivision "0.0 cannot be raised to a negative power"
  else if x < 0.0 && x.isFinite && y.isFinite && y != y.floor then complexPower ⟨x, 0.0⟩ ⟨y, 0.0⟩
  else
    let z := x.pow y
    if z.isInf && x.isFinite && y.isFinite then
      Run.trouble .overflow "(34, 'Numerical result out of range')"
    else Run.real z

def wholePower (m n : Int) : Run Value := do
  if 0 ≤ n then return whole (Int.pow m n.toNat)
  else
    let x ← wholeReal m
    realPower x (← wholeReal n)

def power : Calculation := ⟨"** or pow()", wholePower, realPower, some complexPower⟩

def cannotConcatenate (a b : Value) : Run Value := do
  let kind ← a.typeName
  Run.typeTrouble s!"can only concatenate {kind} (not \"{← b.typeName}\") to {kind}"

/-- The items of a list. -/
def list? (v : Value) : Run (Option (Array Value)) := do
  match v with
  | object id =>
    match ← Run.thing? id with
    | some (.list items) => return some items
    | _ => return Option.none
  | _ => return Option.none

def add (a b : Value) : Run Value := do
  a.defined
  b.defined
  match a, b with
  | text s, text t => return text (s ++ t)
  | safe s, text t => return safe (s ++ escaped t)
  | text s, safe t => return safe (escaped s ++ t)
  | safe s, safe t => return safe (s ++ t)
  | tuple as, tuple bs => return tuple (as ++ bs)
  | text _, _ => cannotConcatenate a b
  | tuple _, _ => cannotConcatenate a b
  | safe _, _ => operandTrouble "+" a b
  | _, _ =>
    match ← a.list?, ← b.list? with
    | some as, some bs => Run.keep (.list (as ++ bs))
    | some _, Option.none => cannotConcatenate a b
    | Option.none, _ => addition.apply a b

def sub (a b : Value) : Run Value := do
  a.defined
  b.defined
  subtraction.apply a b

def repeated {α : Type} (n : Nat) (xs : List α) : List α := (List.replicate n xs).flatten

def isSequence (v : Value) : Run Bool := do
  match v with
  | text _ => return true
  | safe _ => return true
  | tuple _ => return true
  | v => return (← v.list?).isSome

/-- How often a sequence of `size` items can be repeated. -/
def timesChecked (isText : Bool) (size : Nat) (n : Int) : Run Nat := do
  if !isWord n then Run.trouble .overflow "cannot fit 'int' into an index-sized integer"
  else
    let total := size * n.toNat
    if isText && sizeLimit < total then Run.trouble .overflow "repeated string is too long"
    else if memoryLimit < total then Run.trouble .memory ""
    else return if size = 0 then 0 else n.toNat

def times (v : Value) (n : Int) : Run Value := do
  match v with
  | text s => return text (String.ofList (repeated (← timesChecked true s.length n) s.toList))
  | safe s => return safe (String.ofList (repeated (← timesChecked true s.length n) s.toList))
  | tuple vs => return tuple (repeated (← timesChecked false vs.length n) vs)
  | v =>
    match ← v.list? with
    | some vs => Run.newList (repeated (← timesChecked false vs.size n) vs.toList)
    | Option.none => return v

def isSafe : Value → Bool
  | safe _ => true
  | _ => false

def notAWhole {α : Type} (v : Value) : Run α := do
  Run.typeTrouble ("'" ++ (← v.typeName) ++ "' object cannot be interpreted as an integer")

def mul (a b : Value) : Run Value := do
  let safeTimes (v other : Value) : Run Value :=
    match other.whole? with
    | some n => times v n
    | Option.none => notAWhole other
  let refuse (other : Value) : Run Value := do
    Run.typeTrouble ("can't multiply sequence by non-int of type '" ++ (← other.typeName) ++ "'")
  if b.isSafe && (match a with | text _ => true | _ => false) then safeTimes b a
  else if a.isSafe then safeTimes a b
  else
    a.defined
    if b.isSafe then safeTimes b a
    else
      b.defined
      if ← a.isSequence then
        match b.whole? with
        | some n => times a n
        | Option.none => refuse b
      else if ← b.isSequence then
        match a.whole? with
        | some n => times b n
        | Option.none => refuse a
      else multiplication.apply a b

def div (a b : Value) : Run Value := do
  a.defined
  b.defined
  division.apply a b

def floorDiv (a b : Value) : Run Value := do
  a.defined
  b.defined
  floorDivision.apply a b

def pow (a b : Value) : Run Value := do
  a.defined
  b.defined
  power.apply a b

def minus (v : Value) : Run Value := do
  v.defined
  match v with
  | real x mark => if mark != 0 then Run.real x else return real (-x) 0
  | complex re im => return complex (-re) (-im)
  | v =>
    match v.whole? with
    | some n => return whole (-n)
    | Option.none => Run.typeTrouble ("bad operand type for unary -: '" ++ (← v.typeName) ++ "'")

def plus (v : Value) : Run Value := do
  v.defined
  match v with
  | real .. => return v
  | complex .. => return v
  | v =>
    match v.whole? with
    | some n => return whole n
    | Option.none => Run.typeTrouble ("bad operand type for unary +: '" ++ (← v.typeName) ++ "'")

/-- Where an index points in a sequence of `size` items; negative ones count from the end. -/
def position? (size : Nat) (n : Int) : Option Nat :=
  let i := if n < 0 then n + size else n
  if 0 ≤ i ∧ i < size then some i.toNat else Option.none

/-- One bound of a slice, moved into the sequence. -/
def clampBound (low high size n : Int) : Int :=
  let i := if n < 0 then n + size else n
  max low (min high i)

def boundOf : Value → Run (Option Int)
  | none => return Option.none
  | v =>
    match v.whole? with
    | some n => return some n
    | Option.none =>
      Run.typeTrouble "slice indices must be integers or None or have an __index__ method"

/-- A slice of a sequence of `size` items: its start, its end and its step. -/
def boundsOf (size : Nat) (start stop step : Value) : Run (Int × Int × Int) := do
  let step := (← boundOf step).getD 1
  if step = 0 then Run.valueTrouble "slice step cannot be zero"
  else
    let size : Int := size
    let (low, high) := if 0 < step then (0, size) else (-1, size - 1)
    let first := ((← boundOf start).map (clampBound low high size)).getD (if 0 < step then low else high)
    let last := ((← boundOf stop).map (clampBound low high size)).getD (if 0 < step then high else low)
    return (first, last, step)

/-- Picks the items from `i` on in steps until `stop` is reached. -/
def pick {α : Type} (xs : Array α) (stop step : Int) : Nat → Int → List α
  | 0, _ => []
  | fuel + 1, i =>
    if (0 < step ∧ i < stop) ∨ (step < 0 ∧ stop < i) then
      match xs[i.toNat]? with
      | some x => x :: pick xs stop step fuel (i + step)
      | Option.none => []
    else []

def sliced {α : Type} (xs : Array α) (start stop step : Value) : Run (List α) := do
  let (first, last, step) ← boundsOf xs.size start stop step
  return pick xs last step xs.size first

end CardPress.Template.Value
