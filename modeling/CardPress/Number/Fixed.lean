import CardPress.Number.FloatShape

/-! Floating-point numbers with a fixed number of decimal places. -/
namespace CardPress.Fixed

def padLeft (width : Nat) (cs : List Char) : List Char :=
  List.replicate (width - cs.length) '0' ++ cs

/-- Puts a point before the last `places` digits. -/
def point (places n : Nat) : String :=
  let digits := padLeft (places + 1) (Nat.toDigits 10 n)
  if places = 0 then String.ofList digits
  else
    let whole := digits.length - places
    String.ofList (digits.take whole ++ '.' :: digits.drop whole)

/-- The nearest decimal with `places` places, a half to the even neighbour. -/
def text (places : Nat) (x : Float) : String :=
  match FloatShape.ofFloat x with
  | .nan => "nan"
  | .infinite negative => if negative then "-inf" else "inf"
  | .finite negative m q =>
    let (n, d) := scaledFraction m q places
    let body := point places (roundHalfEven n d)
    if negative then "-" ++ body else body

/-- The float nearest to the decimal with `places` places that is nearest to `x`. -/
def round (places : Int) (x : Float) : Float :=
  match FloatShape.ofFloat x with
  | .finite negative m q =>
    if 340 < places then x
    else if places < -340 then (if negative then -0.0 else 0.0)
    else
      let (n, d) := scaledFraction m q places
      nearestDecimal negative (roundHalfEven n d) (-places)
  | _ => x

end CardPress.Fixed
