import CardPress.Text.Blank
import CardPress.Text.Digit

/-! Numbers as text gives them, before they are values of any number type. -/
namespace CardPress

/-- `finite negative digits exponent` stands for ± `digits` · 10 ^ `exponent`. -/
inductive Numeral where
  | finite (negative : Bool) (digits : Nat) (exponent : Int)
  | infinite (negative : Bool)
  | nan
  deriving DecidableEq, Repr

namespace Numeral

/-- Digits of any script as ASCII digits. -/
def plainDigit (c : Char) : Char :=
  match Text.digitValue? c with
  | some v => Char.ofNat (48 + v)
  | none => c

/-- Takes out the underscores; each must stand between two digits. -/
def joinDigits (last : Char) : List Char → Option (List Char)
  | [] => if last = '_' then none else some []
  | c :: cs =>
    if c = '_' then (if last.isDigit then joinDigits c cs else none)
    else if last = '_' && !c.isDigit then none
    else (joinDigits c cs).map (c :: ·)

/-- Digits at the front of the text: their value, their number, and the rest. -/
def takeDigits (value count : Nat) : List Char → Nat × Nat × List Char
  | [] => (value, count, [])
  | c :: cs =>
    if c.isDigit then takeDigits (10 * value + (c.toNat - 48)) (count + 1) cs
    else (value, count, c :: cs)

def takeSign : List Char → Bool × List Char
  | '-' :: cs => (true, cs)
  | '+' :: cs => (false, cs)
  | cs => (false, cs)

/-- The exponent after a mantissa; nothing stands for zero. -/
def readExponent : List Char → Option Int
  | [] => some 0
  | c :: cs =>
    if c = 'e' || c = 'E' then
      let (negative, digits) := takeSign cs
      match takeDigits 0 0 digits with
      | (_, 0, _) => none
      | (n, _, []) => some (if negative then -(n : Int) else n)
      | _ => none
    else none

def readMantissa (negative : Bool) (cs : List Char) : Option Numeral :=
  let (whole, wholeCount, rest) := takeDigits 0 0 cs
  let (value, places, rest) :=
    match rest with
    | '.' :: fraction => takeDigits whole 0 fraction
    | _ => (whole, 0, rest)
  if wholeCount + places = 0 then none
  else (readExponent rest).map fun e => .finite negative value (e - places)

/-- Reads a number: sign, digits with a point and an exponent, or a name of infinity or of no number. -/
def ofList? (cs : List Char) : Option Numeral :=
  match joinDigits ' ' ((Text.trimNumber cs).map plainDigit) with
  | none => none
  | some plain =>
    let (negative, body) := takeSign plain
    let name := String.ofList (body.map Char.toLower)
    if name = "inf" || name = "infinity" then some (.infinite negative)
    else if name = "nan" then some .nan
    else readMantissa negative body

def ofString? (s : String) : Option Numeral := ofList? s.toList

end Numeral

/-- Reads a whole number in decimal: sign and digits; also tells how many digits there were. -/
def wholeOfList? (cs : List Char) : Option (Int × Nat) :=
  match Numeral.joinDigits ' ' ((Text.trimNumber cs).map Numeral.plainDigit) with
  | none => none
  | some plain =>
    let (negative, body) := Numeral.takeSign plain
    match Numeral.takeDigits 0 0 body with
    | (_, 0, _) => none
    | (n, count, []) => some (if negative then -(n : Int) else n, count)
    | _ => none

end CardPress
