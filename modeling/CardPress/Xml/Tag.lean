import CardPress.Xml.DocumentType

/-! Start tags: attribute values with their references resolved, and names with the namespaces that their
prefixes stand for. -/
namespace CardPress.Xml

/-- Prefixes with their names, the innermost first; the empty prefix is the default. -/
abbrev Bindings := List (String × String)

namespace Namespace

def xmlName : String := "http://www.w3.org/XML/1998/namespace"

def xmlnsName : String := "http://www.w3.org/2000/xmlns/"

def outermost : Bindings := [("xml", xmlName)]

def isUriChar (c : Char) : Bool := c.isAlphanum || "-._~:/?#[]@!$&'()*+,;=%".toList.contains c

/-- The flaw of binding a prefix to a name, if there is one. -/
def bindingFlaw (label name : String) : Option Flaw :=
  if label = "xmlns" then some .reservedXmlns
  else if label != "" && name = "" then some (if label = "xml" then .reservedXml else .undeclaredPrefix)
  else if label = "xml" && name != xmlName then some .reservedXml
  else if label != "xml" && name = xmlName then some .reservedUri
  else if name = xmlnsName then some .reservedUri
  else if name.toList.contains '}' then some .disorder
  else none

/-- The prefix and the local part of a raw name. -/
def parts (raw : List Char) : Option String × String :=
  match raw.dropWhile (· != ':') with
  | [] => (none, String.ofList raw)
  | _ :: rest => (some (String.ofList (raw.takeWhile (· != ':'))), String.ofList rest)

/-- The prefix that an attribute of this name binds. -/
def boundPrefix? (raw : List Char) : Option String :=
  match parts raw with
  | (none, "xmlns") => some ""
  | (some "xmlns", label) => some label
  | _ => none

def inNamespace (name label : String) : String :=
  if name = "" then label else "\x7b" ++ name ++ "\x7d" ++ label

/-- The full name of an element. -/
def elementName (bindings : Bindings) (raw : List Char) : Option String :=
  match parts raw with
  | (none, label) => some (inNamespace ((bindings.lookup "").getD "") label)
  | (some head, label) => (bindings.lookup head).map (inNamespace · label)

/-- The full name of an attribute; without a prefix it is in no namespace. -/
def attributeName (bindings : Bindings) (raw : List Char) : Option String :=
  match parts raw with
  | (none, label) => some label
  | (some head, label) => (bindings.lookup head).map (inNamespace · label)

end Namespace

/-- An element whose end tag is still to come; `text` and `children` are in reverse. -/
structure OpenTag where
  rawName : List Char
  tag : String
  attributes : List (String × String)
  bindings : Bindings
  text : List Char
  children : List Element

namespace OpenTag

variable [Alphabet]

def close (o : OpenTag) : Element :=
  .mk o.tag o.attributes (String.ofList o.text.reverse) o.children.reverse

/-- Only text before the first child counts. -/
def addText (o : OpenTag) (cs : List Char) : OpenTag :=
  if o.children.isEmpty then { o with text := cs.reverse ++ o.text } else o

def addChild (o : OpenTag) (e : Element) : OpenTag := { o with children := e :: o.children }

/-- Adds an attribute, or a binding if its name asks for one. -/
def addAttribute (tagStart : List Char) (name : List Char) (text : String)
    (named : List (List Char × String) × Bindings) :
    Reading (List (List Char × String) × Bindings) :=
  match Namespace.boundPrefix? name with
  | some label =>
    match Namespace.bindingFlaw label text with
    | some f => .error (.flaw f tagStart)
    | none => .ok (named.1, (label, text) :: named.2)
  | none => .ok (named.1 ++ [(name, text)], named.2)

/-- The attributes that a tag gives. -/
def givenAttributes (t : DocumentType) (rules : List AttributeRule) (tagStart : List Char)
    (seen : List (List Char)) (named : List (List Char × String) × Bindings) :
    List Scan.RawAttribute → Reading (List (List Char × String) × Bindings)
  | [] => .ok named
  | a :: more => do
    if seen.contains a.name then throw (.flaw .duplicateAttribute a.start)
    let isPlain := ((rules.find? (·.name = a.name)).map (·.isPlain)).getD true
    let body := a.value.takeWhile (· != a.quote)
    let rule : ValueRule := ⟨isPlain, t.checksEntities, tagStart⟩
    let text ← rule.text body (a.value.drop body.length)
    let named ← addAttribute tagStart a.name text named
    givenAttributes t rules tagStart (a.name :: seen) named more

/-- The attributes that a tag leaves to its document type. -/
def standardAttributes (tagStart : List Char) (seen : List (List Char))
    (named : List (List Char × String) × Bindings) :
    List AttributeRule → Reading (List (List Char × String) × Bindings)
  | [] => .ok named
  | r :: more =>
    match r.standard with
    | some text => do
      if seen.contains r.name then standardAttributes tagStart seen named more
      else
        let named ← addAttribute tagStart r.name text named
        standardAttributes tagStart (r.name :: seen) named more
    | none => standardAttributes tagStart seen named more

/-- Attributes under their full names, no two of them the same. -/
def namedAttributes (tagStart : List Char) (bindings : Bindings) (seen : List String) :
    List (List Char × String) → Reading (List (String × String))
  | [] => .ok []
  | (raw, text) :: more =>
    match Namespace.attributeName bindings raw with
    | none => .error (.flaw .unboundPrefix tagStart)
    | some name =>
      if seen.contains name then .error (.flaw .duplicateAttribute tagStart)
      else (namedAttributes tagStart bindings (name :: seen) more).map ((name, text) :: ·)

/-- Opens an element inside `bindings`; `tagStart` is the text from its angle bracket on. -/
def ofRaw (t : DocumentType) (tagStart : List Char) (bindings : Bindings) (raw : Scan.RawTag) :
    Reading OpenTag := do
  let rules := t.rulesOf raw.name
  let named ← givenAttributes t rules tagStart [] ([], bindings) raw.attributes
  let given := raw.attributes.map (·.name)
  let (attributes, bindings) ← standardAttributes tagStart given named rules
  let attributes ← namedAttributes tagStart bindings [] attributes
  match Namespace.elementName bindings raw.name with
  | none => throw (.flaw .unboundPrefix tagStart)
  | some tag => return { rawName := raw.name, tag, attributes, bindings, text := [], children := [] }

end OpenTag

end CardPress.Xml
