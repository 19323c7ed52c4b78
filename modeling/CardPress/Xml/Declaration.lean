import CardPress.Xml.Scan

/-! The declaration that a document may begin with: its version, encoding and independence. -/
namespace CardPress.Xml

/-- The name of an encoding with the text from it on, and whether the document stands alone. -/
structure Declaration where
  encoding : Option (String × List Char) := none
  standalone : Bool := false

namespace Declaration

def refuse {α : Type} (rest : List Char) : Reading α := .error (.flaw .badDeclaration rest)

/-- Whether a declaration ends here. -/
def atEnd : List Char → Bool
  | '?' :: '>' :: _ => true
  | cs => cs.isEmpty

/-- A name up to its equals sign, and the text behind the sign. -/
def settingName (name : List Char) : List Char → Reading (List Char × List Char)
  | [] => refuse []
  | c :: cs =>
    if c = '=' then
      if name.isEmpty then refuse (c :: cs) else .ok (name, cs)
    else if Scan.isBlank c then
      match Scan.skipBlanks cs with
      | '=' :: rest => if name.isEmpty then refuse ('=' :: rest) else .ok (name, rest)
      | rest => refuse rest
    else if c.toNat < 128 && !atEnd (c :: cs) then settingName (name ++ [c]) cs
    else refuse (c :: cs)

def isSettingChar (c : Char) : Bool := c.isAlphanum || c = '.' || c = '-' || c = '_'

/-- One setting of a declaration: where its name starts, the name, its value and where that starts. -/
structure Setting where
  start : List Char
  name : List Char
  value : List Char
  valueStart : List Char

def setting (cs : List Char) : Reading (Option Setting × List Char) := do
  if atEnd cs then return (none, cs)
  if !Scan.isBlank (cs.head?.getD 'x') then refuse cs
  let start := Scan.skipBlanks cs
  if atEnd start then return (none, start)
  let (name, rest) ← settingName [] start
  match Scan.skipBlanks rest with
  | [] => refuse []
  | c :: rest =>
    if c != '"' && c != '\'' then refuse (c :: rest)
    match rest.dropWhile isSettingChar with
    | d :: after =>
      if d = c then
        return (some ⟨start, name, rest.takeWhile isSettingChar, rest⟩, after)
      else refuse (d :: after)
    | [] => refuse []

/-- Whether the document stands alone; nothing may follow. -/
def independence (s : Setting) (rest : List Char) : Reading Bool := do
  if s.name != "standalone".toList then refuse s.start
  if s.value != "yes".toList && s.value != "no".toList then refuse s.valueStart
  if !atEnd (Scan.skipBlanks rest) then refuse (Scan.skipBlanks rest)
  return s.value = "yes".toList

/-- Reads a declaration, given the text behind its name. -/
def read (body : List Char) : Reading Declaration := do
  let (version, rest) ← setting body
  match version with
  | none => refuse body
  | some v =>
    if v.name != "version".toList then refuse v.start
    let (second, rest) ← setting rest
    match second with
    | none => return {}
    | some s =>
      if s.name = "encoding".toList then
        if !((s.value.head?.getD '0').isAlpha) then refuse s.valueStart
        let encoding := some (String.ofList s.value, s.valueStart)
        let (third, rest) ← setting rest
        match third with
        | none => return { encoding }
        | some t => return { encoding, standalone := ← independence t rest }
      else return { standalone := ← independence s rest }

end Declaration

end CardPress.Xml
