import CardPress.Text.Printable

/-! Text as messages quote it: on one line, between quotes, every character recoverable. -/
namespace CardPress.Text

def hexDigit (n : Nat) : Char := if n < 10 then Char.ofNat (48 + n) else Char.ofNat (87 + n)

/-- `width` hexadecimal digits, the leading ones zero. -/
def hexDigits : Nat → Nat → List Char
  | 0, _ => []
  | width + 1, n => hexDigits width (n / 16) ++ [hexDigit (n % 16)]

/-- Double quotes only where the text holds a single quote and no double one. -/
def quoteMark (cs : List Char) : Char := if cs.contains '\'' && !cs.contains '"' then '"' else '\''

/-- The code of a character, in as many digits as its size calls for. -/
def codeText (c : Char) : List Char :=
  if c.toNat < 0x100 then '\\' :: 'x' :: hexDigits 2 c.toNat
  else if c.toNat < 0x10000 then '\\' :: 'u' :: hexDigits 4 c.toNat
  else '\\' :: 'U' :: hexDigits 8 c.toNat

def quoteChar (mark c : Char) : List Char :=
  if c = mark || c = '\\' then ['\\', c]
  else if c = '\n' then ['\\', 'n']
  else if c = '\r' then ['\\', 'r']
  else if c = '\t' then ['\\', 't']
  else if isPrintable c then [c]
  else codeText c

def quote (s : String) : String :=
  let mark := quoteMark s.toList
  String.ofList (mark :: s.toList.flatMap (quoteChar mark) ++ [mark])

/-- The first 200 characters. -/
def cut (s : String) : String := String.ofList (s.toList.take 200)

/-- Leaves only ASCII characters. -/
def escapeBeyondAscii (s : String) : String :=
  String.ofList (s.toList.flatMap fun c => if c.toNat < 0x80 then [c] else codeText c)

end CardPress.Text
