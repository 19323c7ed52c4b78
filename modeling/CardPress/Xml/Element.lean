/-! Elements of an XML document, and the flaws of text that is none. -/
namespace CardPress.Xml

/-- `text` is what stands before the first child; names in a namespace carry it in braces. -/
inductive Element where
  | mk (tag : String) (attributes : List (String × String)) (text : String) (children : List Element)

namespace Element

def tag : Element → String
  | mk tag _ _ _ => tag

def attributes : Element → List (String × String)
  | mk _ attributes _ _ => attributes

def text : Element → String
  | mk _ _ text _ => text

def children : Element → List Element
  | mk _ _ _ children => children

def get? (e : Element) (name : String) : Option String := e.attributes.lookup name

end Element

inductive Flaw where
  | disorder
  | noElement
  | invalidToken
  | unclosedToken
  | cutCharacter
  | junkAfterRoot
  | mismatchedTag
  | duplicateAttribute
  | undefinedEntity
  | skippedEntity (name : String)
  | badCharacterNumber
  | misplacedDeclaration
  | badDeclaration
  | wrongEncoding
  | unknownEncoding
  | unclosedCdata
  | unboundPrefix
  | undeclaredPrefix
  | reservedXml
  | reservedXmlns
  | reservedUri
  | parameterReference
  | badPublicId
  deriving DecidableEq, Repr

def Flaw.message : Flaw → String
  | disorder => "syntax error"
  | noElement => "no element found"
  | invalidToken => "not well-formed (invalid token)"
  | unclosedToken => "unclosed token"
  | cutCharacter => "partial character"
  | junkAfterRoot => "junk after document element"
  | mismatchedTag => "mismatched tag"
  | duplicateAttribute => "duplicate attribute"
  | undefinedEntity => "undefined entity"
  | skippedEntity name => "undefined entity &" ++ name ++ ";"
  | badCharacterNumber => "reference to invalid character number"
  | misplacedDeclaration => "XML or text declaration not at start of entity"
  | badDeclaration => "XML declaration not well-formed"
  | wrongEncoding => "encoding specified in XML declaration is incorrect"
  | unknownEncoding => "unknown encoding"
  | unclosedCdata => "unclosed CDATA section"
  | unboundPrefix => "unbound prefix"
  | undeclaredPrefix => "must not undeclare prefix"
  | reservedXml =>
    "reserved prefix (xml) must not be undeclared or bound to another namespace name"
  | reservedXmlns => "reserved prefix (xmlns) must not be declared or undeclared"
  | reservedUri => "prefix must not be bound to one of the reserved namespace names"
  | parameterReference => "illegal parameter entity reference"
  | badPublicId => "illegal character(s) in public id"

/-- Lines count from one and columns from zero. -/
structure Malformed where
  flaw : Flaw
  line : Nat
  column : Nat
  deriving DecidableEq, Repr

def Malformed.message (m : Malformed) : String := s!"{m.flaw.message}: line {m.line}, column {m.column}"

/-- An entity that a document tries to declare. -/
structure Entity where
  name : String
  systemId : Option String
  publicId : Option String
  deriving DecidableEq, Repr

/-- Why an encoding that a document names cannot be used. -/
inductive EncodingFault where
  | unknown (name : String)
  | notText (name : String)
  | strict (name : String)
  | undefined (name : String)
  | notAscii
  | wide
  deriving DecidableEq, Repr

def EncodingFault.message : EncodingFault → String
  | unknown name => "unknown encoding: " ++ name
  | notText name =>
    "'" ++ name ++ "' is not a text encoding; use codecs.decode() to handle arbitrary codecs"
  | strict name =>
    "decoding with '" ++ name ++ "' codec failed (UnicodeError: Unsupported error handling replace)"
  | undefined name =>
    "decoding with '" ++ name ++ "' codec failed (UnicodeError: undefined encoding)"
  | notAscii => "'ascii' codec can't decode byte 0x80 in position 82: ordinal not in range(128)"
  | wide => "multi-byte encodings are not supported"

/-- Why a document is refused. -/
inductive Refusal where
  | encoding (f : EncodingFault)
  | malformed (m : Malformed)
  | entity (e : Entity)
  deriving DecidableEq, Repr

end CardPress.Xml
