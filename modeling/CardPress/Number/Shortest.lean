import CardPress.Number.FloatShape

/-! The fewest decimal digits that read back as the same floating-point number. -/
namespace CardPress.Shortest

/-- The power of ten of the first digit of `m` · 2 ^ `q`, for positive `m`. -/
def leadingPower (m : Nat) (q : Int) : Int :=
  let guess := ((m.log2 : Int) + q) * 30103 / 100000
  let reaches (k : Int) : Bool := let (n, d) := scaledFraction m q (-k); decide (d ≤ n)
  if reaches (guess + 1) then guess + 1 else if reaches guess then guess else guess - 1

/-- Whether `c` · 10 ^ `p` is nearer to `m` · 2 ^ `q` than to any other number of the format. -/
def readsBack (m : Nat) (q : Int) (c : Nat) (p : Int) : Bool :=
  let below := if m = Nat.pow 2 52 ∧ -1074 < q then 1 else 2
  let (cn, cd) := scaledFraction c 0 p
  let (n, d) := scaledFraction 1 (q - 2) 0
  let low := (4 * m - below) * n * cd
  let high := (4 * m + 2) * n * cd
  let point := cn * d
  if m % 2 = 0 then low ≤ point && point ≤ high else low < point && point < high

/-- The point of the grid 10 ^ `p` that reads back and lies nearest, if there is one. -/
def onGrid (m : Nat) (q p : Int) : Option Nat :=
  let (n, d) := scaledFraction m q (-p)
  let nearest := roundHalfEven n d
  let other := if nearest = n / d then nearest + 1 else n / d
  if readsBack m q nearest p then some nearest
  else if readsBack m q other p then some other
  else none

/-- Tries grids from coarse to fine; seventeen digits always suffice. -/
def search (m : Nat) (q leading : Int) : Nat → Nat → Nat × Int
  | 0, digits => (0, leading - digits)
  | tries + 1, digits =>
    match onGrid m q (leading - digits) with
    | some c => (c, leading - digits)
    | none => search m q leading tries (digits + 1)

/-- Digits and power of ten for positive `m` · 2 ^ `q`. -/
def decimal (m : Nat) (q : Int) : Nat × Int := search m q (leadingPower m q) 18 0

/-- Zeros at the end of the digits move into the power of ten. -/
def dropZeros : Nat → Nat → Int → Nat × Int
  | 0, c, p => (c, p)
  | tries + 1, c, p => if c % 10 = 0 then dropZeros tries (c / 10) (p + 1) else (c, p)

/-- Digits with a point between powers of ten -4 and 15, else one digit, a point and an exponent. -/
def layOut (c : Nat) (p : Int) : String :=
  let digits := Nat.toDigits 10 c
  let count : Int := digits.length
  let power := p + count - 1
  if -4 ≤ power ∧ power < 16 then
    if 0 ≤ p then String.ofList (digits ++ List.replicate p.toNat '0' ++ ['.', '0'])
    else if 0 ≤ power then
      String.ofList (digits.take (power + 1).toNat ++ '.' :: digits.drop (power + 1).toNat)
    else String.ofList ('0' :: '.' :: List.replicate (-power - 1).toNat '0' ++ digits)
  else
    let head := match digits with
      | [] => []
      | [d] => [d]
      | d :: rest => d :: '.' :: rest
    let size := Nat.toDigits 10 power.natAbs
    let padded := if size.length < 2 then '0' :: size else size
    String.ofList (head ++ 'e' :: (if power < 0 then '-' else '+') :: padded)

/-- A floating-point number in full, always with a point, an exponent or a name. -/
def text (x : Float) : String :=
  match FloatShape.ofFloat x with
  | .nan => "nan"
  | .infinite negative => if negative then "-inf" else "inf"
  | .finite negative m q =>
    let body :=
      if m = 0 then "0.0"
      else
        let (c, p) := decimal m q
        let (c, p) := dropZeros 20 c p
        layOut c p
    if negative then "-" ++ body else body

end CardPress.Shortest
