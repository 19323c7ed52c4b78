import CardPress.Xml.Scan

/-! The tokens outside of elements: words, signs and quoted texts of a document type, and what may
stand between its declarations. -/
namespace CardPress.Xml

/-- `occurring` is a name with a sign for how often it occurs, `closing` such a sign behind a
parenthesis, `token` a word that is no name. -/
inductive Mark where
  | declaration (body : List Char)
  | instruction
  | comment
  | opening (keyword : String)
  | sectionStart
  | sectionEnd
  | element
  | name (id : String)
  | prefixedName (id : String)
  | token
  | occurring
  | hash (id : String)
  | quoted (quote : Char) (text : List Char)
  | parameter
  | sign (c : Char)
  | closing (c : Char)
  | finish

namespace Mark

variable [Alphabet]

inductive Word where
  | name
  | prefixedName
  | token
  deriving DecidableEq, Repr

def ofWord (kind : Word) (reversed : List Char) : Mark :=
  match kind with
  | .name => .name (String.ofList reversed.reverse)
  | .prefixedName => .prefixedName (String.ofList reversed.reverse)
  | .token => .token

/-- A word up to a blank or a sign; one colon makes it a prefixed name and another a token. -/
def word (kind : Word) (reversed : List Char) : List Char → Scanned (Mark × List Char)
  | [] => .ok (ofWord kind reversed, [])
  | c :: cs =>
    if Scan.isNameChar c then word kind (c :: reversed) cs
    else if Scan.isBlank c || ">),|[%".toList.contains c then .ok (ofWord kind reversed, c :: cs)
    else if c = ':' then
      if kind = .name then
        match cs with
        | [] => .error .short
        | d :: ds =>
          if Scan.isNameChar d then word .prefixedName (d :: c :: reversed) ds
          else word .token (c :: reversed) (d :: ds)
      else word .token (c :: reversed) cs
    else if "+*?".toList.contains c && kind != .token then .ok (.occurring, cs)
    else .error (Scan.unreadable (c :: cs))

/-- A quoted text; behind its quote only a blank or certain signs may follow. -/
def literal (quote : Char) (reversed : List Char) : List Char → Scanned (Mark × List Char)
  | [] => .error .short
  | c :: cs =>
    if c = quote then
      match cs with
      | [] => .ok (.quoted quote reversed.reverse, [])
      | d :: _ =>
        if Scan.isBlank d || ">%[".toList.contains d then .ok (.quoted quote reversed.reverse, cs)
        else .error (.invalid cs)
    else if Scan.isXmlChar c then literal quote (c :: reversed) cs
    else .error (Scan.unreadable (c :: cs))

/-- A keyword behind an opening; a percent sign may follow only if a name follows that. -/
def keyword (reversed : List Char) : List Char → Scanned (Mark × List Char)
  | [] => .error .short
  | c :: cs =>
    if Alphabet.isKeyword c then keyword (c :: reversed) cs
    else if reversed.isEmpty then .error (.invalid (c :: cs))
    else if Scan.isBlank c then .ok (.opening (String.ofList reversed.reverse), c :: cs)
    else if c = '%' then
      match cs with
      | [] => .error .short
      | d :: _ =>
        if Scan.isBlank d || d = '%' then .error (.invalid (c :: cs))
        else .ok (.opening (String.ofList reversed.reverse), c :: cs)
    else .error (.invalid (c :: cs))

/-- A declaration, section or comment, given the text behind its exclamation mark. -/
def declared : List Char → Scanned (Mark × List Char)
  | [] => .error .short
  | '[' :: cs => .ok (.sectionStart, cs)
  | ['-'] => .error .short
  | '-' :: '-' :: cs => (Scan.comment cs).map fun rest => (.comment, rest)
  | '-' :: cs => .error (.invalid cs)
  | cs => keyword [] cs

/-- A percent sign, or a reference that it begins. -/
def percent : List Char → Scanned (Mark × List Char)
  | [] => .error .short
  | c :: cs =>
    if Scan.isBlank c || c = '%' then .ok (.sign '%', c :: cs)
    else do
      Scan.nameHead (c :: cs)
      match ← Scan.nameTail cs with
      | ';' :: rest => .ok (.parameter, rest)
      | rest => .error (.invalid rest)

/-- A name behind a number sign. -/
def hashName (cs : List Char) : Scanned (Mark × List Char) := do
  Scan.nameHead cs
  let id := String.ofList (cs.takeWhile Scan.isNameChar)
  match cs.dropWhile Scan.isNameChar with
  | [] => .ok (.hash id, [])
  | d :: rest =>
    if Scan.isBlank d || ")>%|".toList.contains d then .ok (.hash id, d :: rest)
    else .error (Scan.unreadable (d :: rest))

def parenthesis : List Char → Scanned (Mark × List Char)
  | [] => .ok (.sign ')', [])
  | c :: cs =>
    if "*?+".toList.contains c then .ok (.closing c, cs)
    else if Scan.isBlank c || ">,|)".toList.contains c then .ok (.sign ')', c :: cs)
    else .error (.invalid (c :: cs))

/-- The token at the start of a text that does not start with a blank. -/
def scan : List Char → Scanned (Mark × List Char)
  | [] => .ok (.finish, [])
  | '<' :: '!' :: cs => declared cs
  | '<' :: '?' :: cs => do
    match ← Scan.instruction cs with
    | (.declaration body, rest) => return (.declaration body, rest)
    | (.other, rest) => return (.instruction, rest)
  | ['<'] => .error .short
  | '<' :: c :: cs =>
    if Alphabet.opensTag c then .ok (.element, '<' :: c :: cs) else .error (.invalid (c :: cs))
  | [']', ']'] => .error .short
  | ']' :: ']' :: '>' :: cs => .ok (.sectionEnd, cs)
  | ')' :: cs => parenthesis cs
  | '%' :: cs => percent cs
  | '#' :: cs => hashName cs
  | c :: cs =>
    if c = '"' || c = '\'' then literal c [] cs
    else if ",[](|>".toList.contains c then .ok (.sign c, cs)
    else if Scan.isNameStart c then word .name [c] cs
    else if Scan.isNameChar c || c = ':' then word .token [c] cs
    else .error (Scan.unreadable (c :: cs))

/-- The next token behind blanks, with the text that it starts and the text behind it. -/
def next (cs : List Char) : Reading (Mark × List Char × List Char) := do
  let start := Scan.skipBlanks cs
  let (m, rest) ← Halt.ofScanned start (scan start)
  return (m, start, rest)

/-- What is wrong with a token that must not stand where it does. -/
def flaw : Mark → Flaw
  | declaration _ => .misplacedDeclaration
  | parameter => .parameterReference
  | finish => .noElement
  | _ => .disorder

def refuse {α : Type} (m : Mark) (start : List Char) : Reading α := .error (.flaw m.flaw start)

end Mark

end CardPress.Xml
