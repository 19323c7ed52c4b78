/-! Complex numbers with floating-point parts. -/
namespace CardPress

structure Complex where
  re : Float
  im : Float

namespace Complex

def add (a b : Complex) : Complex := ⟨a.re + b.re, a.im + b.im⟩

def sub (a b : Complex) : Complex := ⟨a.re - b.re, a.im - b.im⟩

def neg (a : Complex) : Complex := ⟨-a.re, -a.im⟩

def mul (a b : Complex) : Complex := ⟨a.re * b.re - a.im * b.im, a.re * b.im + a.im * b.re⟩

def isZero (a : Complex) : Bool := a.re == 0.0 && a.im == 0.0

def size (a : Complex) : Float := if a.im == 0.0 then a.re.abs else (a.re * a.re + a.im * a.im).sqrt

def isFinite (a : Complex) : Bool := a.re.isFinite && a.im.isFinite

/-- The quotient, divided through by the larger part of the divisor; nothing for a divisor of zero. -/
def div? (a b : Complex) : Option Complex :=
  if b.isZero then none
  else if b.im.abs ≤ b.re.abs then
    let ratio := b.im / b.re
    let denominator := b.re + b.im * ratio
    some ⟨(a.re + a.im * ratio) / denominator, (a.im - a.re * ratio) / denominator⟩
  else if b.re.abs ≤ b.im.abs then
    let ratio := b.re / b.im
    let denominator := b.re * ratio + b.im
    some ⟨(a.re * ratio + a.im) / denominator, (a.im * ratio - a.re) / denominator⟩
  else some ⟨0.0 / 0.0, 0.0 / 0.0⟩

/-- A power by repeated squaring; fuel bounds the bits of the exponent. -/
def powNatFrom : Nat → Complex → Complex → Nat → Complex
  | 0, r, _, _ => r
  | fuel + 1, r, p, n =>
    if n = 0 then r else powNatFrom fuel (if n % 2 = 1 then r.mul p else r) (p.mul p) (n / 2)

def powNat (a : Complex) (n : Nat) : Complex := powNatFrom (n + 1) ⟨1.0, 0.0⟩ a n

/-- A power by size and angle; nothing for a negative or complex power of zero. -/
def powPolar? (a b : Complex) : Option Complex :=
  if b.isZero then some ⟨1.0, 0.0⟩
  else if a.isZero then (if b.im != 0.0 || b.re < 0.0 then none else some ⟨0.0, 0.0⟩)
  else
    let size := a.size.pow b.re
    let angle := a.im.atan2 a.re
    let size := if b.im == 0.0 then size else size / (angle * b.im).exp
    let turn := if b.im == 0.0 then angle * b.re else angle * b.re + b.im * a.size.log
    some ⟨size * turn.cos, size * turn.sin⟩

/-- A power; small whole exponents multiply. -/
def pow? (a b : Complex) : Option Complex :=
  if b.im == 0.0 && b.re == b.re.floor && b.re.abs ≤ 100.0 then
    let n := b.re.abs.toUInt64.toNat
    if b.re < 0.0 then div? ⟨1.0, 0.0⟩ (a.powNat n) else some (a.powNat n)
  else powPolar? a b

end Complex

end CardPress
