import CardPress.CardText
import CardPress.Number.Scalar
import CardPress.Text.Case
import CardPress.Whole

/-! Colours: literals, names, and the colours that every deck has. -/
namespace CardPress

/-- Parts of 255; an alpha of zero is transparent. -/
structure Color where
  red : Nat
  green : Nat
  blue : Nat
  alpha : Nat := 255
  deriving DecidableEq, Repr

/-- A colour of a style: fixed, or a name that may depend on the card. -/
inductive ColorRef where
  | fixed (color : Color)
  | named (name : CardText)

namespace Color

def isTransparent (c : Color) : Bool := c.alpha = 0

def black : Color := ⟨0, 0, 0, 255⟩

def white : Color := ⟨255, 255, 255, 255⟩

def blueColor : Color := ⟨0, 0, 255, 255⟩

def builtins : List (String × Color) := [
  ("transparent", ⟨0, 0, 0, 0⟩), ("black", black), ("dark gray", ⟨0x44, 0x44, 0x44, 255⟩),
  ("gray", ⟨0x88, 0x88, 0x88, 255⟩), ("light gray", ⟨0xCC, 0xCC, 0xCC, 255⟩), ("white", white),
  ("red", ⟨255, 0, 0, 255⟩), ("green", ⟨0, 255, 0, 255⟩), ("blue", blueColor),
  ("yellow", ⟨255, 255, 0, 255⟩), ("cyan", ⟨0, 255, 255, 255⟩), ("magenta", ⟨255, 0, 255, 255⟩)]

/-- A name as it is looked up: in lower case, with one space between words. -/
def canonicalName (name : String) : String := Text.lower (String.intercalate " " (Text.words name))

def builtin? (name : String) : Option Color := builtins.lookup (canonicalName name)

/-- The parts of a text between commas. -/
def splitCommas (part : List Char) : List Char → List (List Char)
  | [] => [part]
  | c :: cs => if c = ',' then part :: splitCommas [] cs else splitCommas (part ++ [c]) cs

def isHexDigit (c : Char) : Bool :=
  ('0' ≤ c && c ≤ '9') || ('a' ≤ c && c ≤ 'f') || ('A' ≤ c && c ≤ 'F')

def hexDigit (c : Char) : Nat :=
  if c ≤ '9' then c.toNat - 48 else if c ≤ 'F' then c.toNat - 55 else c.toNat - 87

def hexByte (c d : Char) : Nat := 16 * hexDigit c + hexDigit d

/-- A number sign and six or eight hexadecimal digits. -/
def ofHex? (cs : List Char) : Option Color :=
  match cs with
  | '#' :: digits =>
    if digits.all isHexDigit then
      match digits with
      | [a, b, c, d, e, f] => some ⟨hexByte a b, hexByte c d, hexByte e f, 255⟩
      | [a, b, c, d, e, f, g, h] => some ⟨hexByte a b, hexByte c d, hexByte e f, hexByte g h⟩
      | _ => none
    else none
  | _ => none

/-- What stands in parentheses behind blanks, up to the end of the text. -/
def inParentheses? (cs : List Char) : Option (List Char) :=
  match cs.dropWhile Text.isBlank with
  | '(' :: tail => if tail.getLast? = some ')' then some tail.dropLast else none
  | _ => none

/-- What stands in the parentheses of rgb(…) or rgba(…), and whether alpha belongs to it. -/
def functionBody? (cs : List Char) : Option (Bool × List Char) :=
  match cs with
  | r :: g :: b :: rest =>
    if [r, g, b].map Char.toLower = ['r', 'g', 'b'] then
      match rest with
      | a :: tail =>
        if a.toLower = 'a' then (inParentheses? tail).map ((true, ·))
        else (inParentheses? rest).map ((false, ·))
      | [] => none
    else none
  | _ => none

/-- One component; `source` is the whole literal. -/
def component (source : String) (part : List Char) : Except Failure Nat := do
  let digits := Text.trimList part
  let text := String.ofList digits
  let refused : Failure := .parse (.colorComponent text source)
  if digits.isEmpty || !digits.all Text.isDigit then throw refused
  let n ← Whole.ofString text
  if 255 < n then throw refused
  return n.toNat

/-- A literal colour; text that has the shape of none is no failure. -/
def literal? (source : String) : Except Failure (Option Color) :=
  let cs := Text.trimList source.toList
  match ofHex? cs with
  | some c => .ok (some c)
  | none =>
    match functionBody? cs with
    | none => .ok none
    | some (hasAlpha, body) =>
      let parts := splitCommas [] body
      let expected := if hasAlpha then 4 else 3
      if parts.length != expected then
        .error (.parse (.componentCount (if hasAlpha then "rgba" else "rgb") expected source))
      else do
        match ← parts.mapM (component source) with
        | [r, g, b] => return some ⟨r, g, b, 255⟩
        | [r, g, b, a] => return some ⟨r, g, b, a⟩
        | _ => return none

/-- The shares of red, green, blue and alpha, from zero to one. -/
def shares {α : Type} [Scalar α] (c : Color) : List α :=
  [c.red, c.green, c.blue, c.alpha].map fun n => Scalar.ofNat n / Scalar.ofNat 255

end Color

/-- Text that is no literal colour names one. -/
def ColorRef.ofString (source : String) : Except Failure ColorRef := do
  match ← Color.literal? source with
  | some c => return .fixed c
  | none => return .named (← CardText.ofString (Text.trim source))

end CardPress
