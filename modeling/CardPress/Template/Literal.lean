import CardPress.Number.Scalar
import CardPress.Template.Problem
import CardPress.Text.CharacterName

/-! Literals of template text: numbers, and strings with their escapes. -/
namespace CardPress.Template.Literal

/-- Digits with single underscores between them; tells whether a digit came just before. -/
def spanDigitsFrom (ok : Char → Bool) (afterDigit : Bool) : List Char → List Char × List Char
  | [] => ([], [])
  | c :: cs =>
    if ok c then
      let (digits, rest) := spanDigitsFrom ok true cs
      (c :: digits, rest)
    else if c = '_' && afterDigit && (cs.head?.map ok).getD false then spanDigitsFrom ok false cs
    else ([], c :: cs)

def spanDigits (ok : Char → Bool) (cs : List Char) : List Char × List Char :=
  spanDigitsFrom ok false cs

def isDecimal (c : Char) : Bool := (Text.digitValue? c).isSome

def isHex (c : Char) : Bool := isDecimal c || ('a' ≤ c.toLower && c.toLower ≤ 'f')

def isOctal (c : Char) : Bool := '0' ≤ c && c ≤ '7'

def digitValue (c : Char) : Nat := (Text.digitValue? c).getD (c.toLower.toNat - 87)

def digitsValue (base : Nat) (cs : List Char) : Nat :=
  cs.foldl (fun n c => base * n + digitValue c) 0

/-- A number as it is written, without its underscores. -/
structure Written where
  whole : List Char
  places : List Char := []
  /-- The mark in front of the exponent with its sign. -/
  mark : List Char := []
  exponent : List Char := []

/-- The most digits that a whole number may have as text. -/
def digitLimit : Nat := 4300

def tooManyDigits (count : Nat) : Trouble :=
  .value (s!"Exceeds the limit ({digitLimit} digits) for integer string conversion: value has "
    ++ s!"{count} digits; use sys.set_int_max_str_digits() to increase the limit")

namespace Written

/-- What is said of digits that are not the usual ones. -/
def flaw? (w : Written) : Option String :=
  let usual := w.whole.takeWhile Char.isDigit
  let strange (cs : List Char) : Option String :=
    (cs.find? (!·.isDigit)).map fun c =>
      let code := (Nat.toDigits 16 c.toNat).map Char.toUpper
      let shown := String.ofList (List.replicate (4 - code.length) '0' ++ code)
      s!"invalid character '{c}' (U+{shown})"
  if usual.length < w.whole.length then
    if usual.head? = some '0' && usual.any (· ≠ '0') then
      some ("leading zeros in decimal integer literals are not permitted; "
        ++ "use an 0o prefix for octal integers")
    else strange w.whole
  else
    (strange w.places).orElse fun _ =>
      match w.exponent with
      | c :: _ => if c.isDigit then strange w.exponent else some "invalid decimal literal"
      | [] => none

def toFloat (w : Written) : Except Trouble Float :=
  match w.flaw? with
  | some text => .error ⟨.form, text ++ " (<unknown>, line 1)"⟩
  | none =>
    let size : Int := digitsValue 10 w.exponent
    let e := if w.mark.contains '-' then -size else size
    .ok (Numeral.finite false (digitsValue 10 (w.whole ++ w.places)) (e - w.places.length)).toFloat

end Written

def spanExponent : List Char → Option (List Char × List Char × List Char)
  | c :: cs =>
    if c = 'e' || c = 'E' then
      let sign := cs.takeWhile fun d => d = '+' || d = '-'
      let (digits, rest) := spanDigits isDecimal (cs.drop sign.length)
      if digits.isEmpty || 1 < sign.length then none else some (c :: sign, digits, rest)
    else none
  | [] => none

/-- The digits of a fraction, if there are any behind a point. -/
def spanFraction : List Char → List Char × List Char
  | '.' :: cs =>
    let (places, rest) := spanDigits isDecimal cs
    if places.isEmpty then ([], '.' :: cs) else (places, rest)
  | cs => ([], cs)

/-- A floating-point literal: digits and then a fraction, an exponent or both. -/
def real? (cs : List Char) : Option (Written × List Char) :=
  let (whole, rest) := spanDigits isDecimal cs
  if whole.isEmpty then none
  else
    let (places, rest) := spanFraction rest
    match spanExponent rest with
    | some (mark, exponent, rest) => some ({ whole, places, mark, exponent }, rest)
    | none => if places.isEmpty then none else some ({ whole, places }, rest)

def wholeOf (digits : List Char) : Except Trouble Nat :=
  if digitLimit < digits.length then .error (tooManyDigits digits.length)
  else .ok (digitsValue 10 digits)

/-- Digits of a base; an underscore may stand in front of them. -/
def basedDigits (base : Nat) (ok : Char → Bool) (body : List Char) :
    Option (Except Trouble Nat × List Char) :=
  let body := match body with
    | '_' :: tail => tail
    | _ => body
  let (digits, rest) := spanDigits ok body
  if digits.isEmpty then none else some (.ok (digitsValue base digits), rest)

/-- What stands behind the zero of a literal in base two, eight or sixteen. -/
def afterZero? : List Char → Option (Except Trouble Nat × List Char)
  | c :: body =>
    match c.toLower with
    | 'b' => basedDigits 2 (fun d => d = '0' || d = '1') body
    | 'o' => basedDigits 8 isOctal body
    | 'x' => basedDigits 16 isHex body
    | _ => none
  | [] => none

/-- A whole literal in base two, eight, sixteen or ten. -/
def whole? : List Char → Option (Except Trouble Nat × List Char)
  | '0' :: cs =>
    (afterZero? cs).orElse fun _ =>
      let (digits, rest) := spanDigits (· = '0') ('0' :: cs)
      some (wholeOf digits, rest)
  | c :: cs =>
    if c.isDigit then
      let (digits, rest) := spanDigits isDecimal (c :: cs)
      some (wholeOf digits, rest)
    else none
  | [] => none

/-- The characters of a string literal up to its closing quote. -/
def spanString (mark : Char) : List Char → Option (List Char × List Char)
  | [] => none
  | c :: cs =>
    if c = mark then some ([], cs)
    else if c = '\\' then
      match cs with
      | [] => none
      | d :: rest => (spanString mark rest).map fun (s, r) => (c :: d :: s, r)
    else (spanString mark cs).map fun (s, r) => (c :: s, r)

/-- A code given by `count` hexadecimal digits. -/
def hexEscape (count : Nat) (cs : List Char) : Option (Nat × List Char) :=
  let digits := cs.take count
  if digits.length = count && digits.all isHex then some (digitsValue 16 digits, cs.drop count)
  else none

/-- A low half behind the high half of a character beyond the basic plane. -/
def lowHalf? (cs : List Char) : Option (Nat × List Char) :=
  match cs with
  | '\\' :: 'u' :: rest =>
    (hexEscape 4 rest).bind fun (n, rest) => if 0xDC00 ≤ n ∧ n < 0xE000 then some (n, rest) else none
  | _ => none

/-- The character of a code, or of two halves that stand side by side. -/
def charOfCode (n : Nat) (cs : List Char) : Char × List Char :=
  if 0xD800 ≤ n ∧ n < 0xDC00 then
    match lowHalf? cs with
    | some (low, rest) => (Char.ofNat (0x10000 + (n - 0xD800) * 0x400 + (low - 0xDC00)), rest)
    | none => ('\ufffd', cs)
  else if 0xDC00 ≤ n ∧ n < 0xE000 then ('\ufffd', cs)
  else (Char.ofNat n, cs)

/-- The name in braces behind a mark for a named character. -/
def nameEscape (cs : List Char) : Except String (Char × List Char) :=
  match cs with
  | '{' :: rest =>
    let name := rest.takeWhile (· ≠ '}')
    if name.isEmpty || name.length = rest.length then .error "malformed \\N character escape"
    else
      match Text.characterNamed? (String.ofList name) with
      | some c => .ok (c, rest.drop (name.length + 1))
      | none => .error "unknown Unicode character name"
  | _ => .error "malformed \\N character escape"

/-- The value of a string literal; an unknown escape stands for itself. -/
def unescapeFrom : Nat → List Char → Except String (List Char)
  | 0, _ => .ok []
  | _, [] => .ok []
  | fuel + 1, '\\' :: c :: cs =>
    let one (d : Char) (rest : List Char) := (unescapeFrom fuel rest).map (d :: ·)
    let hex (count : Nat) (letter : String) :=
      match hexEscape count cs with
      | some (n, rest) =>
        if 0x110000 ≤ n then .error "illegal Unicode character"
        else
          let (d, rest) := charOfCode n rest
          one d rest
      | none => .error ("truncated \\" ++ letter ++ " escape")
    match c with
    | '\n' => unescapeFrom fuel cs
    | 'n' => one '\n' cs
    | 't' => one '\t' cs
    | 'r' => one '\r' cs
    | 'a' => one '\x07' cs
    | 'b' => one '\x08' cs
    | 'f' => one '\x0c' cs
    | 'v' => one '\x0b' cs
    | 'x' => hex 2 "xXX"
    | 'u' => hex 4 "uXXXX"
    | 'U' => hex 8 "UXXXXXXXX"
    | 'N' =>
      match nameEscape cs with
      | .ok (d, rest) => one d rest
      | .error detail => .error detail
    | _ =>
      if c = '\\' || c = '\'' || c = '"' then one c cs
      else if isOctal c then
        let digits := ((c :: cs).take 3).takeWhile isOctal
        one (Char.ofNat (digitsValue 8 digits)) ((c :: cs).drop digits.length)
      else (unescapeFrom fuel cs).map ('\\' :: c :: ·)
  | fuel + 1, c :: cs => (unescapeFrom fuel cs).map (c :: ·)

/-- Characters beyond ASCII count as their escapes, so that a mark before one of them is a mark for
itself. -/
def unescape (body : List Char) : Except String String :=
  let plain := (Text.escapeBeyondAscii (String.ofList body)).toList
  (unescapeFrom (plain.length + 1) plain).map String.ofList

end CardPress.Template.Literal
