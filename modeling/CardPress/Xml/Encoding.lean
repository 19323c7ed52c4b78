import CardPress.Text.Utf8
import CardPress.Xml.Codec
import CardPress.Xml.Reader

/-! Documents as bytes. The first bytes tell how wide the characters are; which they are is said by
the declaration. -/
namespace CardPress.Xml

inductive Encoding where
  | utf8
  | utf16 (isBigEndian : Bool)
  | page (p : CodePage)

namespace Encoding

/-- Pairs of bytes; a byte may be left over. -/
def units (isBigEndian : Bool) : List UInt8 → List Nat
  | a :: b :: rest =>
    (if isBigEndian then 256 * a.toNat + b.toNat else 256 * b.toNat + a.toNat)
      :: units isBigEndian rest
  | _ => []

def isHigh (n : Nat) : Bool := 0xD800 ≤ n && n < 0xDC00

def isLow (n : Nat) : Bool := 0xDC00 ≤ n && n < 0xE000

/-- A unit that stands for a character, or else a character that no document may hold. -/
def ofUnit (n : Nat) : Char := if isLow n || n = 0xFFFE || n = 0xFFFF then '\x00' else Char.ofNat n

/-- The characters of units. Some units stand for a character together with the next one, of which only
the low bits count. -/
def ofUnits : List Nat → List Char
  | [] => []
  | [n] => [if isHigh n then '\uFFFE' else ofUnit n]
  | n :: m :: rest =>
    if isHigh n then Char.ofNat (0x10000 + 1024 * (n % 1024) + m % 1024) :: ofUnits rest
    else ofUnit n :: ofUnits (m :: rest)

/-- Text of the bytes; a byte that stands for no character becomes one that no document may hold. -/
def decode (bytes : List UInt8) : Encoding → List Char
  | utf8 => Text.Utf8.decodeLoosely 0 bytes
  | utf16 isBigEndian => ofUnits (units isBigEndian bytes)
  | page p => p.decode bytes

/-- The letters of names, as the encoding has them. -/
def alphabet : Encoding → Alphabet
  | utf8 => .ofBytes
  | utf16 _ => .ofPairs
  | page p => .ofTable p.hasSigns

/-- What the first bytes say; nothing if there are too few of them. -/
def ofStart : List UInt8 → Option Encoding
  | [b] => if [0xFE, 0xFF, 0xEF, 0x00, 0x3C].contains b then none else some utf8
  | [0xEF, 0xBB] => none
  | 0xFE :: 0xFF :: _ => some (utf16 true)
  | 0xFF :: 0xFE :: _ => some (utf16 false)
  | 0x00 :: _ => some (utf16 true)
  | _ :: 0x00 :: _ => some (utf16 false)
  | _ => some utf8

def isWide : Encoding → Bool
  | utf16 _ => true
  | _ => false

/-- The encodings that documents know by themselves. -/
def known (name : String) : Option Encoding :=
  [("UTF-8", utf8), ("ISO-8859-1", page { CodePage.latin1 with hasSigns := true }),
    ("US-ASCII", page .ascii), ("UTF-16", utf16 true), ("UTF-16BE", utf16 true),
    ("UTF-16LE", utf16 false)].lookup (name.map Char.toUpper)

/-- The encoding of a codec, unless the codec is of no use for documents. -/
def ofCodec (name : String) : Option Codec → Except EncodingFault (Option Encoding)
  | some (.page p) => .ok (some (page p))
  | some .notAscii => .ok none
  | some .wide => .error .wide
  | some .notText => .error (.notText name)
  | some .idna => .error (.strict name)
  | some .punycode => .error .notAscii
  | some .undefined => .error (.undefined name)
  | none => .error (.unknown name)

/-- The encoding by its declared name, given the one that the first bytes tell; `rest` is the text
from the name on. -/
def ofDeclared (first : Encoding) (name : String) (rest : List Char) : Reading Encoding :=
  match known name with
  | some e =>
    match first, e with
    | utf16 a, utf16 b =>
      if a = b || name.map Char.toUpper = "UTF-16" then .ok first
      else .error (.flaw .wrongEncoding rest)
    | _, _ => if first.isWide || e.isWide then .error (.flaw .wrongEncoding rest) else .ok e
  | none =>
    match ofCodec name (Codec.ofName? name) with
    | .ok (some e) => .ok e
    | .ok none => .error (.flaw .unknownEncoding rest)
    | .error f => .error (.encoding f)

/-- How many bytes a text takes that is ASCII apart from a byte order mark. -/
def width (e : Encoding) (cs : List Char) : Nat :=
  if e.isWide then 2 * cs.length
  else if cs.head? = some '\uFEFF' then cs.length + 2
  else cs.length

/-- The text once its encoding is known, and where it goes on behind the declaration. -/
def changed (first second : Encoding) (bytes : List UInt8) (text rest : List Char) :
    List Char × List Char :=
  match second with
  | page p =>
    let all := p.decode bytes
    (all, all.drop (first.width (text.take (text.length - rest.length))))
  | _ => (text, rest)

/-- Whether what a text ends with might go on, so that it takes in a byte that is left over. -/
def endsOpen (beforeRoot : Bool) (c : Char) : Bool :=
  if beforeRoot then !(Scan.isBlank c || "\uFEFF>,|[(*+?;".toList.contains c) else c = ']'

/-- A byte that is left over where characters have two of them leaves the document unclosed, unless it
counts with what stands before it. -/
def leftOver (beforeRoot : Bool) (text : List Char) (r : Reading Element) : Reading Element :=
  let unclosed : Reading Element := .error (.flaw .unclosedToken [])
  match r with
  | .ok _ => unclosed
  | .error (.flaw .noElement []) =>
    if (text.getLast?.map (endsOpen beforeRoot)).getD false then r else unclosed
  | r => r

/-- Reads a document behind its declaration; `oddEnd` if a byte is left over. -/
def readRest (e : Encoding) (oddEnd standalone : Bool) (text rest : List Char) :
    Except Refusal Element :=
  letI := e.alphabet
  let r := Document.rest standalone rest
  let whole :=
    if e.isWide && oddEnd then
      leftOver (!(Prolog.read standalone none (rest.length + 1) rest).isOk) text r
    else r
  whole.mapError (Halt.refusal text)

end Encoding

open Encoding in
/-- Reads a document that is given in bytes. -/
def Element.ofBytes (bytes : List UInt8) : Except Refusal Element := do
  match ofStart bytes with
  | none => throw (.malformed ⟨.unclosedToken, 1, 0⟩)
  | some first =>
    let text := decode bytes first
    let halt {α : Type} : Reading α → Except Refusal α := (·.mapError (Halt.refusal text))
    let (declared, rest) ← halt (@Document.declaration first.alphabet (Document.unmarked text))
    let declared := declared.getD {}
    let second ← match declared.encoding with
      | some (name, start) => halt (ofDeclared first name start)
      | none => pure first
    let (text, rest) := changed first second bytes text rest
    readRest second (bytes.length % 2 = 1) declared.standalone text rest

open Encoding in
/-- Reads a document that is given as text. Only its bytes tell how it is written, whatever encoding it
names. -/
def Element.ofText (text : String) : Except Refusal Element := do
  let bytes := text.toUTF8.toList
  match ofStart bytes with
  | none => throw (.malformed ⟨.unclosedToken, 1, 0⟩)
  | some e =>
    let cs := decode bytes e
    let (declared, rest) ←
      (@Document.declaration e.alphabet (Document.unmarked cs)).mapError (Halt.refusal cs)
    readRest e (bytes.length % 2 = 1) ((declared.map (·.standalone)).getD false) cs rest

end CardPress.Xml
