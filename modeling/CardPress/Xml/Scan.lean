import CardPress.Xml.Element
import CardPress.Xml.NameChar

/-! The tokens of XML text, and where reading it stops. Each scan works on the rest of the text, so that
the rest also tells the line and column of a flaw. -/
namespace CardPress.Xml

/-- Text that is no token, from the offending character on, text whose last character is cut off, or
text that ends too early. -/
inductive Stop where
  | invalid (rest : List Char)
  | cut
  | short

abbrev Scanned := Except Stop

namespace Scan

def isBlank (c : Char) : Bool := c = ' ' || c = '\t' || c = '\n' || c = '\r'

/-- The characters that a document may hold at all. -/
def isXmlChar (c : Char) : Bool :=
  let n := c.toNat
  (0x20 ≤ n || isBlank c) && n != 0xFFFE && n != 0xFFFF

variable [Alphabet]

abbrev isNameStart : Char → Bool := Alphabet.isStart

abbrev isNameChar : Char → Bool := Alphabet.isPart

/-- Why reading stops at a character that is looked at as a whole. -/
def unreadable (cs : List Char) : Stop := if cs == ['\uFFFE'] then .cut else .invalid cs

def skipBlanks (cs : List Char) : List Char := cs.dropWhile isBlank

/-- The start of a name, or the reason why there is none. -/
def nameHead : List Char → Scanned Unit
  | [] => .error .short
  | c :: cs => if isNameStart c then .ok () else .error (unreadable (c :: cs))

/-- The text behind the rest of a name; there must be some. -/
def nameTail (cs : List Char) : Scanned (List Char) :=
  match cs.dropWhile isNameChar with
  | [] => .error .short
  | rest => if rest == ['\uFFFE'] then .error .cut else .ok rest

/-- A name in which one colon may part a prefix from the rest. -/
def qualified (cs : List Char) : Scanned (List Char × List Char) := do
  nameHead cs
  let first := cs.takeWhile isNameChar
  match ← nameTail cs with
  | ':' :: tail =>
    nameHead tail
    let second := tail.takeWhile isNameChar
    match ← nameTail tail with
    | ':' :: rest => .error (.invalid (':' :: rest))
    | rest => .ok (first ++ ':' :: second, rest)
  | rest => .ok (first, rest)

inductive Reference where
  | number (n : Nat)
  | name (id : String)

def hexValue (c : Char) : Nat := if c.isDigit then c.toNat - 48 else c.toLower.toNat - 87

def isHex (c : Char) : Bool := c.isDigit || ('a' ≤ c.toLower && c.toLower ≤ 'f')

/-- Digits up to a semicolon; beyond the last code point the value stays out of range. -/
def numberUntilSemicolon (ok : Char → Bool) (base : Nat) (value count : Nat) :
    List Char → Scanned (Nat × List Char)
  | [] => .error .short
  | c :: cs =>
    if ok c then
      numberUntilSemicolon ok base (min 0x110000 (base * value + hexValue c)) (count + 1) cs
    else if c = ';' && 0 < count then .ok (value, cs)
    else .error (.invalid (c :: cs))

/-- A reference, given the text behind its ampersand. -/
def reference : List Char → Scanned (Reference × List Char)
  | '#' :: 'x' :: cs => do
    let (n, rest) ← numberUntilSemicolon isHex 16 0 0 cs
    return (.number n, rest)
  | '#' :: cs => do
    let (n, rest) ← numberUntilSemicolon Char.isDigit 10 0 0 cs
    return (.number n, rest)
  | cs => do
    nameHead cs
    match ← nameTail cs with
    | ';' :: rest => .ok (.name (String.ofList (cs.takeWhile isNameChar)), rest)
    | rest => .error (.invalid rest)

/-- Whether a reference may name the code point. -/
def isCharNumber (n : Nat) : Bool :=
  (n < 0xD800 || 0xDFFF < n) && n < 0x110000 && isXmlChar (Char.ofNat n)

def standardEntities : List (String × Char) :=
  [("lt", '<'), ("gt", '>'), ("amp", '&'), ("quot", '"'), ("apos", '\'')]

/-- Passes over an attribute value up to its quote. -/
def passValue (quote : Char) : Nat → List Char → Scanned (List Char)
  | 0, _ => .error .short
  | _, [] => .error .short
  | fuel + 1, c :: cs =>
    if c = quote then .ok cs
    else if c = '<' || !isXmlChar c then .error (unreadable (c :: cs))
    else if c = '&' then do
      let (_, rest) ← reference cs
      passValue quote fuel rest
    else passValue quote fuel cs

/-- An attribute: the text from its name on, the name, the quote, and the text from its value on. -/
structure RawAttribute where
  start : List Char
  name : List Char
  quote : Char
  value : List Char

structure RawTag where
  name : List Char
  attributes : List RawAttribute
  isEmpty : Bool

def tagEnd : List Char → Scanned (List Char)
  | [] => .error .short
  | '>' :: rest => .ok rest
  | cs => .error (.invalid cs)

/-- Blanks, an equals sign, blanks and a quote; gives the quote and the text behind it. -/
def valueStart (cs : List Char) : Scanned (Char × List Char) :=
  match skipBlanks cs with
  | [] => .error .short
  | '=' :: tail =>
    match skipBlanks tail with
    | [] => .error .short
    | c :: rest => if c = '"' || c = '\'' then .ok (c, rest) else .error (.invalid (c :: rest))
  | cs => .error (.invalid cs)

/-- Attributes up to the end of the tag; before each one there must be a blank. -/
def attributes : Nat → List Char → Scanned (List RawAttribute × Bool × List Char)
  | 0, _ => .error .short
  | fuel + 1, cs =>
    match cs with
    | [] => .error .short
    | '>' :: rest => .ok ([], false, rest)
    | '/' :: tail => do
      let rest ← tagEnd tail
      return ([], true, rest)
    | c :: tail =>
      if !isBlank c then .error (.invalid (c :: tail))
      else
        match skipBlanks tail with
        | [] => .error .short
        | '>' :: rest => .ok ([], false, rest)
        | '/' :: tail => do
          let rest ← tagEnd tail
          return ([], true, rest)
        | start => do
          let (name, rest) ← qualified start
          let (quote, value) ← valueStart rest
          let rest ← passValue quote (value.length + 1) value
          let (more, isEmpty, rest) ← attributes fuel rest
          return (⟨start, name, quote, value⟩ :: more, isEmpty, rest)

/-- A start tag, given the text behind its angle bracket. -/
def startTag (cs : List Char) : Scanned (RawTag × List Char) := do
  let (name, rest) ← qualified cs
  let (attributes, isEmpty, rest) ← attributes (rest.length + 1) rest
  return (⟨name, attributes, isEmpty⟩, rest)

/-- An end tag, given the text behind its slash. -/
def endTag (cs : List Char) : Scanned (List Char × List Char) := do
  nameHead cs
  let isPart (c : Char) : Bool := isNameChar c || c = ':'
  let tail := cs.dropWhile isPart
  if tail == ['\uFFFE'] then throw .cut
  let rest ← tagEnd (skipBlanks tail)
  return (cs.takeWhile isPart, rest)

/-- The text behind a comment, given the text behind its opening. -/
def comment : List Char → Scanned (List Char)
  | [] => .error .short
  | '-' :: '-' :: tail => tagEnd tail
  | c :: cs => if isXmlChar c then comment cs else .error (unreadable (c :: cs))

def instructionEnd : List Char → Scanned (List Char)
  | [] => .error .short
  | '?' :: '>' :: rest => .ok rest
  | c :: cs => if isXmlChar c then instructionEnd cs else .error (unreadable (c :: cs))

inductive Instruction where
  | declaration (body : List Char)
  | other

/-- A processing instruction, given the text behind its opening; the name xml marks a declaration. -/
def instruction (cs : List Char) : Scanned (Instruction × List Char) := do
  nameHead cs
  let target := cs.takeWhile isNameChar
  let kind (rest : List Char) : Scanned Instruction :=
    if target = "xml".toList then .ok (.declaration (cs.drop 3))
    else if target.map Char.toLower = "xml".toList then .error (.invalid rest)
    else .ok .other
  match ← nameTail cs with
  | ['?'] => .error .short
  | '?' :: tail => do
    let k ← kind ('?' :: tail)
    let rest ← tagEnd tail
    return (k, rest)
  | c :: tail =>
    if isBlank c then do
      let k ← kind (c :: tail)
      let rest ← instructionEnd tail
      return (k, rest)
    else .error (.invalid (c :: tail))
  | [] => .error .short

end Scan

/-- A flaw and the text from it on, an entity that the document declares, or an encoding that it
names in vain. -/
inductive Halt where
  | flaw (flaw : Flaw) (rest : List Char)
  | entity (e : Entity)
  | encoding (f : EncodingFault)

abbrev Reading := Except Halt

namespace Halt

/-- The outcome of a scan of a token that starts at `start`. -/
def ofScanned {α : Type} (start : List Char) : Scanned α → Reading α
  | .ok a => .ok a
  | .error (.invalid rest) => .error (.flaw .invalidToken rest)
  | .error .cut => .error (.flaw .cutCharacter start)
  | .error .short => .error (.flaw .unclosedToken start)

/-- The flaw of text whose first character no document may hold. -/
def unreadable (cs : List Char) : Halt :=
  match Scan.unreadable cs with
  | .cut => .flaw .cutCharacter cs
  | _ => .flaw .invalidToken cs

/-- The place behind some text, counted on from a line and a column. -/
def place (line column : Nat) : List Char → Nat × Nat
  | [] => (line, column)
  | '\r' :: '\n' :: cs => place (line + 1) 0 cs
  | c :: cs => if c = '\n' || c = '\r' then place (line + 1) 0 cs else place line (column + 1) cs

def refusal (text : List Char) : Halt → Refusal
  | entity e => .entity e
  | encoding f => .encoding f
  | flaw f rest =>
    let (line, column) := place 1 0 (text.take (text.length - rest.length))
    .malformed ⟨f, line, column⟩

end Halt

end CardPress.Xml
