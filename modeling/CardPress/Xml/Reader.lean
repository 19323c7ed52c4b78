import CardPress.Xml.Declaration
import CardPress.Xml.DocumentType
import CardPress.Xml.Tag

/-! Documents: comments, instructions and the document type before the root element, then the root
element with everything in it, or the place of the first flaw. -/
namespace CardPress.Xml

variable [Alphabet]

namespace Prolog

/-- The text of the root element, given the text before it; `t` is the document type, if there was
one. -/
def read (standalone : Bool) (t : Option DocumentType) : Nat → List Char →
    Reading (DocumentType × List Char)
  | 0, cs => Mark.refuse .finish cs
  | fuel + 1, cs => do
    let (m, start, rest) ← Mark.next cs
    match m with
    | .instruction | .comment => read standalone t fuel rest
    | .element => return (t.getD { standalone }, start)
    | .opening "DOCTYPE" =>
      if t.isSome then Mark.refuse m start
      let (t, rest) ← DocumentType.read standalone rest
      read standalone (some t) fuel rest
    | m => Mark.refuse m start

end Prolog

namespace Document

/-- A cut section up to its end; line ends become line feeds. -/
def cdata : List Char → Reading (List Char × List Char)
  | [] => .error (.flaw .unclosedCdata [])
  | ['\r'] => .error (.flaw .unclosedCdata ['\r'])
  | [']'] => .error (.flaw .unclosedCdata [']'])
  | [']', ']'] => .error (.flaw .unclosedCdata [']', ']'])
  | ']' :: ']' :: '>' :: rest => .ok ([], rest)
  | '\r' :: '\n' :: rest => (cdata rest).map fun (t, r) => ('\n' :: t, r)
  | c :: cs =>
    if !Scan.isXmlChar c then .error (Halt.unreadable (c :: cs))
    else (cdata cs).map fun (t, r) => ((if c = '\r' then '\n' else c) :: t, r)

/-- The root element, or the elements that are open once this one is closed. -/
def close (current : OpenTag) : List OpenTag → Element ⊕ (OpenTag × List OpenTag)
  | [] => .inl current.close
  | outer :: more => .inr (outer.addChild current.close, more)

/-- Reads on inside the open elements, innermost first, up to the end of the root. -/
def content (t : DocumentType) (current : OpenTag) (outer : List OpenTag) : Nat → List Char →
    Reading (Element × List Char)
  | 0, cs => .error (.flaw .noElement cs)
  | _, [] => .error (.flaw .noElement [])
  | fuel + 1, c :: cs =>
    let whole := c :: cs
    if c = '<' then
      match cs with
      | '/' :: rest => do
        let (name, after) ← Halt.ofScanned whole (Scan.endTag rest)
        if name != current.rawName then throw (.flaw .mismatchedTag rest)
        match close current outer with
        | .inl root => return (root, after)
        | .inr (current, outer) => content t current outer fuel after
      | '?' :: rest => do
        match ← Halt.ofScanned whole (Scan.instruction rest) with
        | (.other, after) => content t current outer fuel after
        | (.declaration _, _) => throw (.flaw .misplacedDeclaration whole)
      | '!' :: '-' :: '-' :: rest => do
        let after ← Halt.ofScanned whole (Scan.comment rest)
        content t current outer fuel after
      | '!' :: '[' :: 'C' :: 'D' :: 'A' :: 'T' :: 'A' :: '[' :: rest => do
        let (text, after) ← cdata rest
        content t (current.addText text) outer fuel after
      | '!' :: '[' :: rest =>
        let shared := (rest.zip "CDATA[".toList).takeWhile fun (a, b) => a = b
        if (rest.map Alphabet.size).foldr (· + ·) 0 < 6 then .error (.flaw .unclosedToken whole)
        else .error (.flaw .invalidToken (rest.drop shared.length))
      | '!' :: rest =>
        let bad := if rest.head? = some '-' then rest.tail else rest
        .error (if bad.isEmpty then .flaw .unclosedToken whole else .flaw .invalidToken bad)
      | _ => do
        let (raw, after) ← Halt.ofScanned whole (Scan.startTag cs)
        let opened ← OpenTag.ofRaw t whole current.bindings raw
        if raw.isEmpty then content t (current.addChild opened.close) outer fuel after
        else content t opened (current :: outer) fuel after
    else if c = '&' then do
      match ← Halt.ofScanned whole (Scan.reference cs) with
      | (.number n, after) =>
        if Scan.isCharNumber n then
          content t (current.addText [Char.ofNat n]) outer fuel after
        else throw (.flaw .badCharacterNumber whole)
      | (.name id, after) =>
        match Scan.standardEntities.lookup id with
        | some d => content t (current.addText [d]) outer fuel after
        | none => throw (.flaw (if t.checksEntities then .undefinedEntity else .skippedEntity id) whole)
    else if c = '\r' then
      match cs with
      | [] => .error (.flaw .noElement whole)
      | '\n' :: rest => content t (current.addText ['\n']) outer fuel rest
      | _ => content t (current.addText ['\n']) outer fuel cs
    else if !Scan.isXmlChar c then .error (Halt.unreadable whole)
    else
      match whole with
      | ']' :: ']' :: '>' :: rest => .error (.flaw .invalidToken ('>' :: rest))
      | _ => content t (current.addText [c]) outer fuel cs

/-- Behind the root there are only blanks, comments and instructions. -/
def epilog : Nat → List Char → Reading Unit
  | 0, _ => .ok ()
  | fuel + 1, cs => do
    let (m, start, rest) ← Mark.next cs
    match m with
    | .finish => return
    | .instruction | .comment => epilog fuel rest
    | _ => throw (.flaw .junkAfterRoot start)

/-- The declaration that a document starts with, if there is one, and the text behind it. -/
def declaration (cs : List Char) : Reading (Option Declaration × List Char) :=
  match cs with
  | '<' :: '?' :: rest => do
    match ← Halt.ofScanned cs (Scan.instruction rest) with
    | (.declaration body, after) => return (some (← Declaration.read body), after)
    | (.other, _) => return (none, cs)
  | _ => .ok (none, cs)

def unmarked (text : List Char) : List Char :=
  if text.head? = some '\uFEFF' then text.tail else text

/-- The root element behind the declaration. -/
def rest (standalone : Bool) (cs : List Char) : Reading Element := do
  let (t, cs) ← Prolog.read standalone none (cs.length + 1) cs
  let (raw, after) ← Halt.ofScanned cs (Scan.startTag cs.tail)
  let opened ← OpenTag.ofRaw t cs Namespace.outermost raw
  let (e, after) ←
    if raw.isEmpty then pure (opened.close, after)
    else content t opened [] (after.length + 1) after
  epilog (after.length + 1) after
  return e

end Document

end CardPress.Xml
