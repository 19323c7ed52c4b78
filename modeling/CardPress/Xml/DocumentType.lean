import CardPress.Xml.Mark
import CardPress.Xml.Scan

/-! Values of attributes, their references resolved and their blanks made plain, and document types: the
declarations that stand before the root element, as far as they bear on the elements behind them. -/
namespace CardPress.Xml

/-- How a value is read: whether it is plain text, whether unknown entities are errors, and the text
from the place on where they are reported. -/
structure ValueRule where
  isPlain : Bool
  checksEntities : Bool
  refusedAt : List Char

namespace ValueRule

variable [Alphabet]

/-- Adds a blank; in a list of words only one between two words. -/
def addBlank (r : ValueRule) (reversed : List Char) : List Char :=
  if r.isPlain || !(reversed.isEmpty || reversed.head? = some ' ') then ' ' :: reversed else reversed

def finish (r : ValueRule) (reversed : List Char) : List Char :=
  if r.isPlain then reversed.reverse
  else
    match reversed with
    | ' ' :: more => more.reverse
    | _ => reversed.reverse

/-- Reads a value; `after` is the text behind it. -/
def read (r : ValueRule) (after : List Char) : Nat → List Char → List Char → Reading (List Char)
  | 0, reversed, _ => .ok (r.finish reversed)
  | _, reversed, [] => .ok (r.finish reversed)
  | fuel + 1, reversed, c :: cs =>
    if c = '&' then
      match Scan.reference cs with
      | .error (.invalid rest) => .error (.flaw .invalidToken (rest ++ after))
      | .error _ => .error (.flaw .invalidToken (c :: cs ++ after))
      | .ok (.number n, rest) =>
        if !Scan.isCharNumber n then .error (.flaw .badCharacterNumber (c :: cs ++ after))
        else if n = 32 then r.read after fuel (r.addBlank reversed) rest
        else r.read after fuel (Char.ofNat n :: reversed) rest
      | .ok (.name id, rest) =>
        match Scan.standardEntities.lookup id with
        | some d => r.read after fuel (d :: reversed) rest
        | none =>
          if r.checksEntities then .error (.flaw .undefinedEntity r.refusedAt)
          else r.read after fuel reversed rest
    else if c = '<' then .error (.flaw .invalidToken (c :: cs ++ after))
    else if Scan.isBlank c then
      let rest := if c = '\r' && cs.head? = some '\n' then cs.tail else cs
      r.read after fuel (r.addBlank reversed) rest
    else r.read after fuel (c :: reversed) cs

def text (r : ValueRule) (body after : List Char) : Reading String :=
  (r.read after (body.length + 1) [] body).map String.ofList

end ValueRule

/-- What is declared of an attribute: whether its value is plain text or a list of words, and the
value that it has where an element does not give it. -/
structure AttributeRule where
  element : List Char
  name : List Char
  isPlain : Bool
  standard : Option String
  deriving DecidableEq, Repr

/-- `isPartial` if declarations may be missing that stand elsewhere; `heeds` as long as declarations
are heeded, which ends at a reference to such a place unless the document stands alone. -/
structure DocumentType where
  standalone : Bool := false
  isPartial : Bool := false
  heeds : Bool := true
  rules : List AttributeRule := []
  deriving DecidableEq, Repr

namespace DocumentType

variable [Alphabet]

/-- Whether an unknown entity is an error. -/
def checksEntities (t : DocumentType) : Bool := !t.isPartial || t.standalone

/-- The first rule for an attribute counts, except that one without a value does not keep a later
one for an identifier away. -/
def addRule (t : DocumentType) (r : AttributeRule) (isId : Bool) : DocumentType :=
  let isKnown := t.rules.any fun s => s.element = r.element && s.name = r.name
  if (r.standard.isSome || isId) && isKnown then t else { t with rules := t.rules ++ [r] }

def rulesOf (t : DocumentType) (element : List Char) : List AttributeRule :=
  t.rules.filter (·.element = element)

def seeParameter (t : DocumentType) : DocumentType :=
  { t with isPartial := true, heeds := t.standalone }

/-- A document type behind what has been read of it. -/
abbrev Step := Reading (DocumentType × List Char)

/-- The end of a declaration. -/
def close (t : DocumentType) (cs : List Char) : Step := do
  match ← Mark.next cs with
  | (.sign '>', _, rest) => return (t, rest)
  | (m, start, _) => Mark.refuse m start

/-- A quoted text, with the text behind its opening quote and the text behind it all. -/
def quoted (cs : List Char) : Reading (List Char × List Char × List Char) := do
  match ← Mark.next cs with
  | (.quoted _ text, start, rest) => return (text, start.tail, rest)
  | (m, start, _) => Mark.refuse m start

def isPublicChar (c : Char) : Bool :=
  c.isAlphanum || c = ' ' || c = '\r' || c = '\n' || "-'()+,./:=?;!*#@$_%".toList.contains c

/-- Blanks inside become single spaces and those at the ends vanish. -/
def publicText (cs : List Char) : String :=
  let words := String.ofList cs |>.splitToList fun c => c = ' ' || c = '\r' || c = '\n'
  String.intercalate " " (words.filter (!·.isEmpty))

def publicId (cs : List Char) : Reading (String × List Char) := do
  let (text, start, rest) ← quoted cs
  let good := text.takeWhile isPublicChar
  if good.length < text.length then throw (.flaw .badPublicId (start.drop good.length))
  return (publicText text, rest)

def systemId (cs : List Char) : Reading (String × List Char) := do
  let (text, _, rest) ← quoted cs
  return (String.ofList text, rest)

/-- The place of something that is not in the document itself, by the keyword before it. -/
def externalId (keyword : String) (m : Mark) (start cs : List Char) :
    Reading (Option String × String × List Char) := do
  if keyword = "SYSTEM" then
    let (system, rest) ← systemId cs
    return (none, system, rest)
  else if keyword = "PUBLIC" then
    let (pub, rest) ← publicId cs
    let (system, rest) ← systemId rest
    return (some pub, system, rest)
  else Mark.refuse m start

/-- Checks the references in the value of an entity; `after` is the text behind the value. -/
def checkEntityValue (after : List Char) : Nat → List Char → Reading Unit
  | 0, _ => .ok ()
  | _, [] => .ok ()
  | fuel + 1, c :: cs =>
    if c = '&' then
      match Scan.reference cs with
      | .error (.invalid rest) => .error (.flaw .invalidToken (rest ++ after))
      | .error _ => .error (.flaw .invalidToken (c :: cs ++ after))
      | .ok (.number n, rest) =>
        if Scan.isCharNumber n then checkEntityValue after fuel rest
        else .error (.flaw .badCharacterNumber (c :: cs ++ after))
      | .ok (.name _, rest) => checkEntityValue after fuel rest
    else if c = '%' then
      match Mark.percent cs with
      | .error (.invalid rest) => .error (.flaw .invalidToken (rest ++ after))
      | .error _ => .error (.flaw .invalidToken (c :: cs ++ after))
      | .ok (.parameter, _) => .error (.flaw .parameterReference (c :: cs ++ after))
      | .ok (_, rest) => .error (.flaw .invalidToken (rest ++ after))
    else checkEntityValue after fuel cs

/-- The declaration of an entity behind its name; an entity that is declared ends the reading. -/
def entityBody (t : DocumentType) (name : String) (isNew isParameter : Bool) (cs : List Char) :
    Step := do
  let declare (e : Entity) : Reading Unit :=
    if t.heeds && isNew then .error (.entity e) else .ok ()
  let (m, start, rest) ← Mark.next cs
  match m with
  | .quoted _ text =>
    declare ⟨name, none, none⟩
    if t.heeds then checkEntityValue (start.drop (text.length + 1)) (text.length + 1) text
    close t rest
  | .name keyword =>
    let (pub, system, rest) ← externalId keyword m start rest
    match ← Mark.next rest with
    | (.sign '>', _, rest) =>
      declare ⟨name, some system, pub⟩
      return (t, rest)
    | (.name "NDATA", start, rest) =>
      if isParameter then Mark.refuse (.name "NDATA") start
      match ← Mark.next rest with
      | (.name _, _, rest) =>
        declare ⟨name, some system, pub⟩
        close t rest
      | (m, start, _) => Mark.refuse m start
    | (m, start, _) => Mark.refuse m start
  | m => Mark.refuse m start

def entity (t : DocumentType) (cs : List Char) : Step := do
  match ← Mark.next cs with
  | (.sign '%', _, rest) =>
    match ← Mark.next rest with
    | (.name name, _, rest) => entityBody t name true true rest
    | (m, start, _) => Mark.refuse m start
  | (.name name, _, rest) =>
    entityBody t name ((Scan.standardEntities.lookup name).isNone) false rest
  | (m, start, _) => Mark.refuse m start

/-- The declaration of a format that is not text. -/
def foreignFormat (t : DocumentType) (cs : List Char) : Step := do
  match ← Mark.next cs with
  | (.name _, _, rest) =>
    let (m, start, rest) ← Mark.next rest
    match m with
    | .name "PUBLIC" =>
      let (_, rest) ← publicId rest
      match ← Mark.next rest with
      | (.sign '>', _, rest) => return (t, rest)
      | (.quoted _ _, _, rest) => close t rest
      | (m, start, _) => Mark.refuse m start
    | .name "SYSTEM" =>
      let (_, rest) ← systemId rest
      close t rest
    | m => Mark.refuse m start
  | (m, start, _) => Mark.refuse m start

/-- The values that an attribute may have, up to the closing parenthesis. -/
def choices (onlyNames : Bool) : Nat → List Char → Reading (List Char)
  | 0, cs => Mark.refuse .finish cs
  | fuel + 1, cs => do
    let (m, start, rest) ← Mark.next cs
    let ok :=
      match m with
      | .name _ => true
      | .prefixedName _ | .token => !onlyNames
      | _ => false
    if !ok then Mark.refuse m start
    match ← Mark.next rest with
    | (.sign ')', _, rest) => return rest
    | (.sign '|', _, rest) => choices onlyNames fuel rest
    | (m, start, _) => Mark.refuse m start

def wordTypes : List String :=
  ["ID", "IDREF", "IDREFS", "ENTITY", "ENTITIES", "NMTOKEN", "NMTOKENS"]

/-- The type of an attribute: whether it is plain text, and whether an identifier. -/
def attributeType (cs : List Char) : Reading (Bool × Bool × List Char) := do
  let (m, start, rest) ← Mark.next cs
  match m with
  | .sign '(' => return (false, false, ← choices false (rest.length + 1) rest)
  | .name "CDATA" => return (true, false, rest)
  | .name "NOTATION" =>
    match ← Mark.next rest with
    | (.sign '(', _, rest) => return (false, false, ← choices true (rest.length + 1) rest)
    | (m, start, _) => Mark.refuse m start
  | .name word =>
    if wordTypes.contains word then return (false, word = "ID", rest) else Mark.refuse m start
  | m => Mark.refuse m start

/-- The value of an attribute that is not given; `start` is where it is declared. -/
def standardValue (t : DocumentType) (isPlain : Bool) (text start : List Char) :
    Reading (Option String) := do
  if !t.heeds then return none
  let rule : ValueRule := ⟨isPlain, t.checksEntities, start⟩
  return some (← rule.text text (start.drop (text.length + 1)))

/-- The attributes of an element, up to the end of their declaration. -/
def attributes (element : List Char) : DocumentType → Nat → List Char → Step
  | _, 0, cs => Mark.refuse .finish cs
  | t, fuel + 1, cs => do
    let (m, start, rest) ← Mark.next cs
    let name ←
      match m with
      | .sign '>' => return (t, rest)
      | .name id => pure id.toList
      | .prefixedName id => pure id.toList
      | m => Mark.refuse m start
    let (isPlain, isId, rest) ← attributeType rest
    let define (standard : Option String) (isId : Bool) : DocumentType :=
      if t.heeds then t.addRule ⟨element, name, isPlain, standard⟩ isId else t
    let (m, start, rest) ← Mark.next rest
    match m with
    | .hash "IMPLIED" | .hash "REQUIRED" => attributes element (define none isId) fuel rest
    | .hash "FIXED" =>
      match ← Mark.next rest with
      | (.quoted _ text, start, rest) =>
        attributes element (define (← standardValue t isPlain text start) false) fuel rest
      | (m, start, _) => Mark.refuse m start
    | .quoted _ text =>
      attributes element (define (← standardValue t isPlain text start) false) fuel rest
    | m => Mark.refuse m start

def elementName (cs : List Char) : Reading (List Char × List Char) := do
  match ← Mark.next cs with
  | (.name id, _, rest) | (.prefixedName id, _, rest) => return (id.toList, rest)
  | (m, start, _) => Mark.refuse m start

/-- The names that may stand among text, up to the end of the declaration. -/
def mixed (t : DocumentType) : Nat → List Char → Step
  | 0, cs => Mark.refuse .finish cs
  | fuel + 1, cs => do
    let (_, rest) ← elementName cs
    match ← Mark.next rest with
    | (.closing '*', _, rest) => close t rest
    | (.sign '|', _, rest) => mixed t fuel rest
    | (m, start, _) => Mark.refuse m start

/-- Groups of names; `signs` holds, innermost first, the sign between the parts of each open group,
and `expectsPart` tells whether a part must follow. -/
def groups (t : DocumentType) : List (Option Char) → Bool → Nat → List Char → Step
  | _, _, 0, cs => Mark.refuse .finish cs
  | signs, expectsPart, fuel + 1, cs => do
    let (m, start, rest) ← Mark.next cs
    let leave : Step :=
      if signs.length ≤ 1 then close t rest else groups t signs.tail false fuel rest
    match m, expectsPart with
    | .sign '(', true => groups t (none :: signs) true fuel rest
    | .name _, true | .prefixedName _, true | .occurring, true => groups t signs false fuel rest
    | .sign ')', false | .closing _, false => leave
    | .sign c, false =>
      if c != ',' && c != '|' then Mark.refuse m start
      else
        match signs with
        | some d :: _ => if c = d then groups t signs true fuel rest else Mark.refuse m start
        | _ => groups t (some c :: signs.tail) true fuel rest
    | m, _ => Mark.refuse m start

/-- What an element may hold. -/
def content (t : DocumentType) (cs : List Char) : Step := do
  let (m, start, rest) ← Mark.next cs
  match m with
  | .name "EMPTY" | .name "ANY" => close t rest
  | .sign '(' =>
    match ← Mark.next rest with
    | (.hash "PCDATA", _, rest) =>
      match ← Mark.next rest with
      | (.sign ')', _, rest) | (.closing '*', _, rest) => close t rest
      | (.sign '|', _, rest) => mixed t (rest.length + 1) rest
      | (m, start, _) => Mark.refuse m start
    | _ => groups t [none] true (rest.length + 1) rest
  | m => Mark.refuse m start

/-- The declarations up to the closing bracket. -/
def declarations : DocumentType → Nat → List Char → Step
  | _, 0, cs => Mark.refuse .finish cs
  | t, fuel + 1, cs => do
    let (m, start, rest) ← Mark.next cs
    match m with
    | .instruction | .comment => declarations t fuel rest
    | .sign ']' => return (t, rest)
    | .parameter => declarations t.seeParameter fuel rest
    | .opening keyword =>
      let (t, rest) ←
        match keyword with
        | "ENTITY" => entity t rest
        | "NOTATION" => foreignFormat t rest
        | "ELEMENT" => do
          let (_, rest) ← elementName rest
          content t rest
        | "ATTLIST" => do
          let (element, rest) ← elementName rest
          attributes element t (rest.length + 1) rest
        | _ => Mark.refuse m start
      declarations t fuel rest
    | m => Mark.refuse m start

/-- The end of a document type behind its names. -/
def body (t : DocumentType) (cs : List Char) : Step := do
  let (m, start, rest) ← Mark.next cs
  match m with
  | .sign '>' => return (t, rest)
  | .sign '[' =>
    let (t, rest) ← declarations t (rest.length + 1) rest
    close t rest
  | m => Mark.refuse m start

/-- Reads a document type, given the text behind its keyword. -/
def read (standalone : Bool) (cs : List Char) : Step := do
  let t : DocumentType := { standalone }
  let (_, rest) ← elementName cs
  let (m, start, after) ← Mark.next rest
  match m with
  | .name keyword =>
    let (_, _, rest) ← externalId keyword m start after
    body { t with isPartial := true } rest
  | _ => body t rest

end DocumentType

end CardPress.Xml
