/-! Binary floating-point numbers taken apart into sign, whole significand and power of two, and their whole
quotients and remainders. -/
namespace CardPress

/-- `finite negative m q` stands for ± `m` · 2 ^ `q`. -/
inductive FloatShape where
  | finite (negative : Bool) (significand : Nat) (exponent : Int)
  | infinite (negative : Bool)
  | nan
  deriving DecidableEq, Repr

namespace FloatShape

def ofBits (bits : Nat) : FloatShape :=
  let negative := bits / Nat.pow 2 63 = 1
  let exponent : Nat := bits / Nat.pow 2 52 % Nat.pow 2 11
  let fraction : Nat := bits % Nat.pow 2 52
  if exponent = 2047 then (if fraction = 0 then .infinite negative else .nan)
  else if exponent = 0 then .finite negative fraction (-1074)
  else .finite negative (Nat.pow 2 52 + fraction) ((exponent : Int) - 1075)

def ofFloat (x : Float) : FloatShape := ofBits x.toBits.toNat

/-- The bits of `n` · 2 ^ `q`, which must be representable; beyond the largest float it is infinite. -/
def sizeBits (n : Nat) (q : Int) : Nat :=
  let power : Int := n.log2 + q
  if n = 0 then 0
  else if 1023 < power then 2047 * Nat.pow 2 52
  else if power < -1022 then n * Nat.pow 2 (q + 1074).toNat
  else (power + 1022).toNat * Nat.pow 2 52 + n * Nat.pow 2 52 / Nat.pow 2 n.log2

/-- ± `n` · 2 ^ `q`. -/
def toFloat (negative : Bool) (n : Nat) (q : Int) : Float :=
  Float.ofBits (UInt64.ofNat ((if negative then Nat.pow 2 63 else 0) + sizeBits n q))

end FloatShape

/-- Round `n` / `d` to a whole number, a half to the even neighbour. -/
def roundHalfEven (n d : Nat) : Nat :=
  let q := n / d
  let r := n % d
  if 2 * r < d then q else if d < 2 * r then q + 1 else if q % 2 = 0 then q else q + 1

/-- The power of two of the leading bit of `m` / `n`. -/
def quotientPower (m n : Nat) : Int :=
  let power : Int := m.log2 - n.log2
  if m * Nat.pow 2 (-power).toNat < n * Nat.pow 2 power.toNat then power - 1 else power

/-- The float nearest to `m` / `n`, a half to the even neighbour; infinite beyond the largest. -/
def nearestQuotient (negative : Bool) (m n : Nat) : Float :=
  let places := min 1074 (52 - quotientPower m n)
  let significand := roundHalfEven (m * Nat.pow 2 places.toNat) (n * Nat.pow 2 (-places).toNat)
  FloatShape.toFloat negative significand (-places)

/-- The float nearest to ± `m` · 10 ^ `exponent`. -/
def nearestDecimal (negative : Bool) (m : Nat) (exponent : Int) : Float :=
  nearestQuotient negative (m * Nat.pow 10 exponent.toNat) (Nat.pow 10 (-exponent).toNat)

/-- The float nearest to a whole number. -/
def nearestWhole (n : Int) : Float := nearestQuotient (n < 0) n.natAbs 1

/-- `m` · 2 ^ `q` · 10 ^ `places` as a fraction. -/
def scaledFraction (m : Nat) (q places : Int) : Nat × Nat :=
  (m * Nat.pow 2 q.toNat * Nat.pow 10 places.toNat,
    Nat.pow 2 (-q).toNat * Nat.pow 10 (-places).toNat)

/-- What stops a computation with numbers. -/
inductive ArithmeticFault where
  | divisionByZero
  | floorDivisionByZero
  | infinityToWhole
  | nanToWhole
  | quotientTooLarge
  | wholeTooLarge
  | countTooLarge
  | noRoom
  deriving DecidableEq, Repr

namespace FloatDivision

/-- The exact remainder of a division toward zero, with the sign of `x`. -/
def remainder (x y : Float) : Float :=
  match FloatShape.ofFloat x, FloatShape.ofFloat y with
  | .finite negative m p, .finite _ n q =>
    if n = 0 then 0.0 / 0.0
    else
      let low := min p q
      let a := m * Nat.pow 2 (p - low).toNat
      let b := n * Nat.pow 2 (q - low).toNat
      FloatShape.toFloat negative (a % b) low
  | .finite .., .infinite _ => x
  | _, _ => 0.0 / 0.0

/-- Quotient rounded to the whole number below, and the remainder with the sign of `y`. A quotient of
zero has the sign of `x` / `y`. -/
def floorDivide (x y : Float) : Float × Float :=
  let r := remainder x y
  let quotient := (x - r) / y
  let (quotient, r) :=
    if r == 0.0 then (quotient, if y < 0.0 then -0.0 else 0.0)
    else if (y < 0.0) != (r < 0.0) then (quotient - 1.0, r + y)
    else (quotient, r)
  if quotient == 0.0 then (if Nat.pow 2 63 ≤ (x / y).toBits.toNat then -0.0 else 0.0, r)
  else
    let below := quotient.floor
    (if 0.5 < quotient - below then below + 1.0 else below, r)

/-- The whole part of a float, exactly. -/
def toWhole (x : Float) : Except ArithmeticFault Int :=
  match FloatShape.ofFloat x with
  | .nan => .error .nanToWhole
  | .infinite _ => .error .infinityToWhole
  | .finite negative m q =>
    let n := m * Nat.pow 2 q.toNat / Nat.pow 2 (-q).toNat
    .ok (if negative then -(n : Int) else n)

end FloatDivision

end CardPress
