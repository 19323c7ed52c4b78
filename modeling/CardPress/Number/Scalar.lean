import CardPress.Number.FloatShape
import CardPress.Number.Numeral
import CardPress.Number.Shortest

/-! The numbers that lengths are made of: floating point in a run, exact fractions in the theory. -/
namespace CardPress

class Scalar (α : Type) extends Add α, Sub α, Mul α, Div α, Neg α, LT α, LE α where
  decideLt : DecidableLT α
  decideLe : DecidableLE α
  ofNat : Nat → α
  /-- The value that number text names, if the type has it. -/
  ofNumeral? : Numeral → Option α
  /-- How often a divisor other than zero goes into a number, rounded down. -/
  floorQuotient : α → α → Except ArithmeticFault Int
  text : α → String

namespace Scalar

variable {α : Type} [Scalar α]

instance : DecidableLT α := decideLt

instance : DecidableLE α := decideLe

def zero : α := ofNat 0

/-- `n` / 10 ^ `places`. -/
def decimal (n places : Nat) : α := ofNat n / ofNat (Nat.pow 10 places)

def isZero (x : α) : Bool := decide (x ≤ zero ∧ zero ≤ x)

/-- The first of two numbers unless the second is larger. -/
def larger (x y : α) : α := if x < y then y else x

/-- The first of two numbers unless the second is smaller. -/
def smaller (x y : α) : α := if y < x then y else x

def sum (xs : List α) : α := xs.foldl (· + ·) zero

def divide (x y : α) : Except ArithmeticFault α :=
  if isZero y then .error .divisionByZero else .ok (x / y)

def floorDivide (x y : α) : Except ArithmeticFault Int :=
  if isZero y then .error .floorDivisionByZero else floorQuotient x y

end Scalar

/-- The float nearest to a number text; out of range it is zero or infinite. -/
def Numeral.toFloat : Numeral → Float
  | .nan => 0.0 / 0.0
  | .infinite negative => if negative then -1.0 / 0.0 else 1.0 / 0.0
  | .finite negative digits exponent =>
    let size : Int := digits.log2 * 30103 / 100000 + exponent
    if digits = 0 || size < -400 then (if negative then -0.0 else 0.0)
    else if 400 < size then (if negative then -1.0 / 0.0 else 1.0 / 0.0)
    else nearestDecimal negative digits exponent

instance : Scalar Float where
  decideLt := inferInstance
  decideLe := inferInstance
  ofNat n := nearestWhole n
  ofNumeral? n := some n.toFloat
  floorQuotient x y := FloatDivision.toWhole (FloatDivision.floorDivide x y).1
  text := Shortest.text

end CardPress
