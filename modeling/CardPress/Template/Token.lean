import CardPress.Template.Literal
import CardPress.Text.Name

/-! Template text cut into tokens: text between tags, and the words and signs inside them. -/
namespace CardPress.Template

inductive Lexeme where
  | data (text : String)
  | variableBegin
  | variableEnd
  | blockBegin
  | blockEnd
  | name (text : String)
  | text (value : String)
  | whole (value : Nat)
  | real (value : Float)
  | sign (text : String)
  | finish

namespace Lexeme

/-- How messages call a token. -/
def describe : Lexeme → String
  | data _ => "template data / text"
  | variableBegin => "begin of print statement"
  | variableEnd => "end of print statement"
  | blockBegin => "begin of statement block"
  | blockEnd => "end of statement block"
  | name s => s
  | text _ => "string"
  | whole _ => "integer"
  | real _ => "float"
  | sign s => s
  | finish => "end of template"

def isSign (s : String) : Lexeme → Bool
  | sign t => t == s
  | _ => false

def isName (s : String) : Lexeme → Bool
  | name t => t == s
  | _ => false

end Lexeme

structure Token where
  line : Nat
  lexeme : Lexeme

/-- The tokens up to the end of the text or up to the first fault. -/
structure Scan where
  tokens : List Token
  refusal : Option Refusal

namespace Scan

def push (t : Token) (s : Scan) : Scan := { s with tokens := t :: s.tokens }

def stop (line : Nat) (p : Problem) : Scan := ⟨[], some (.fault ⟨p, line⟩)⟩

def done : Scan := ⟨[], none⟩

/-- Carriage returns, alone or before a line feed, become line feeds. -/
def plainLines : List Char → List Char
  | '\r' :: '\n' :: cs => '\n' :: plainLines cs
  | c :: cs => (if c = '\r' then '\n' else c) :: plainLines cs
  | [] => []

def newlines (cs : List Char) : Nat := cs.count '\n'

/-- The text up to the first opening delimiter, its second character, and what follows it. -/
def untilOpening (before : List Char) : List Char → Option (List Char × Char × List Char)
  | [] => none
  | c :: cs =>
    match c, cs with
    | '{', d :: rest =>
      if d = '{' || d = '%' || d = '#' then some (before.reverse, d, rest)
      else untilOpening (c :: before) cs
    | _, _ => untilOpening (c :: before) cs

def takeControl : List Char → Option Char × List Char
  | '-' :: cs => (some '-', cs)
  | '+' :: cs => (some '+', cs)
  | cs => (none, cs)

/-- The rest behind `word` if the text starts with it. -/
def dropWord (word : List Char) (cs : List Char) : Option (List Char) :=
  if word.isPrefixOf cs then some (cs.drop word.length) else none

def dropBlanks (cs : List Char) : List Char := cs.dropWhile Text.isBlank

/-- The rest behind a closing delimiter of two characters; after a minus all blanks go as well. -/
def closing (plus : Bool) (first : Char) (cs : List Char) : Option (List Char) :=
  match cs with
  | '-' :: c :: '}' :: rest => if c = first then some (dropBlanks rest) else none
  | '+' :: c :: '}' :: rest => if plus && c = first then some rest else none
  | c :: '}' :: rest => if c = first then some rest else none
  | _ => none

/-- The rest behind the tag that starts a raw section, given the text after its delimiter. -/
def rawOpening (cs : List Char) : Option (List Char) := do
  let rest ← dropWord "raw".toList (dropBlanks (takeControl cs).2)
  closing false '%' (dropBlanks rest)

/-- The rest behind the tag that ends a raw section, and its whitespace control. -/
def rawClosing (cs : List Char) : Option (Option Char × List Char) := do
  let rest ← dropWord "\x7b%".toList cs
  let (control, rest) := takeControl rest
  let rest ← dropWord "endraw".toList (dropBlanks rest)
  let rest ← closing true '%' (dropBlanks rest)
  some (control, rest)

/-- The text before the first place where `at` succeeds, and its result. -/
def splitWhere {α : Type} (found : List Char → Option α) (before : List Char) :
    List Char → Option (List Char × α)
  | [] => none
  | c :: cs =>
    match found (c :: cs) with
    | some a => some (before.reverse, a)
    | none => splitWhere found (c :: before) cs

def sign? : List Char → Option (String × List Char)
  | a :: b :: cs =>
    let two := String.ofList [a, b]
    if ["//", "**", "==", "!=", ">=", "<="].contains two then some (two, cs)
    else if "+-/*%~[](){}><=.:|,;".toList.contains a then some (String.singleton a, b :: cs)
    else none
  | [a] => if "+-/*%~[](){}><=.:|,;".toList.contains a then some (String.singleton a, []) else none
  | [] => none

/-- Opening brackets are remembered by what closes them. -/
def closer? : String → Option Char
  | "(" => some ')'
  | "[" => some ']'
  | "\x7b" => some '}'
  | _ => none

/-- One token inside a tag and the rest, or nothing for blanks. -/
inductive Step where
  | blank (rest : List Char)
  | token (l : Lexeme) (rest : List Char)
  | fail (p : Problem)
  | halt (t : Trouble)

def stepWord (cs : List Char) : Step :=
  let word := cs.takeWhile Text.isWordChar
  if Text.isName word then .token (.name (String.ofList word)) (cs.drop word.length)
  else .fail .badName

def stepText (body rest : List Char) : Step :=
  match Literal.unescape body with
  | .ok value => .token (.text value) rest
  | .error detail => .fail (.badEscape detail)

def step (position : Nat) (afterPoint : Bool) (cs : List Char) : Step :=
  match cs with
  | [] => .blank []
  | c :: tail =>
    if Text.isBlank c then .blank (dropBlanks tail)
    else
      match if afterPoint then none else Literal.real? cs with
      | some (written, rest) =>
        match written.toFloat with
        | .ok x => .token (.real x) rest
        | .error t => .halt t
      | none =>
        match Literal.whole? cs with
        | some (.ok n, rest) => .token (.whole n) rest
        | some (.error t, _) => .halt t
        | none =>
          if Text.isWordChar c then stepWord cs
          else
            match if c = '\'' || c = '"' then Literal.spanString c tail else none with
            | some (body, rest) => stepText body rest
            | none =>
              match sign? cs with
              | some (s, rest) => .token (.sign s) rest
              | none => .fail (.strayCharacter c position)

/-- Where in the template text the scan is. -/
inductive Mode where
  | outside
  | comment
  | raw
  | inside (block : Bool) (awaited : List Char)

def endOf (block : Bool) : Lexeme := if block then .blockEnd else .variableEnd

/-- Text before a tag; a minus at the tag takes the blanks at its end. -/
def pushData (line : Nat) (control : Option Char) (text : List Char) (s : Scan) : Scan :=
  let kept := if control = some '-' then Text.dropEndWhile Text.isBlank text else text
  if kept.isEmpty then s else s.push ⟨line, .data (String.ofList kept)⟩

def consumed (cs rest : List Char) : List Char := cs.take (cs.length - rest.length)

def run : Nat → Mode → Nat → Nat → Bool → List Char → Scan
  | 0, _, _, _, _, _ => done
  | fuel + 1, mode, line, position, afterPoint, cs =>
    let go (mode : Mode) (rest : List Char) : Scan :=
      run fuel mode (line + newlines (consumed cs rest)) (position + (cs.length - rest.length)) false rest
    match mode with
    | .outside =>
      match untilOpening [] cs with
      | none => if cs.isEmpty then done else done.push ⟨line, .data (String.ofList cs)⟩
      | some (text, kind, rest) =>
        let (control, body) := takeControl rest
        let line' := line + newlines text
        let begin (l : Lexeme) (block : Bool) :=
          pushData line control text ((go (.inside block []) body).push ⟨line', l⟩)
        if kind = '{' then begin .variableBegin false
        else if kind = '#' then pushData line control text (go .comment body)
        else
          match rawOpening rest with
          | some rest' => pushData line control text (go .raw rest')
          | none => begin .blockBegin true
    | .comment =>
      match splitWhere (closing true '#') [] cs with
      | some (_, rest) => go .outside rest
      | none => if cs.isEmpty then done else stop line .openComment
    | .raw =>
      match splitWhere rawClosing [] cs with
      | some (text, control, rest) => pushData line control text (go .outside rest)
      | none => if cs.isEmpty then done else stop line .openRaw
    | .inside block awaited =>
      match if awaited.isEmpty then closing block (if block then '%' else '}') cs else none with
      | some rest => (go .outside rest).push ⟨line, endOf block⟩
      | none =>
        if cs.isEmpty then done
        else
          match step position afterPoint cs with
          | .blank rest => go mode rest
          | .fail p => stop line p
          | .halt t => ⟨[], some (.trouble t)⟩
          | .token l rest =>
            let next (awaited : List Char) : Scan :=
              (run fuel (.inside block awaited) (line + newlines (consumed cs rest))
                (position + (cs.length - rest.length)) (l.isSign ".") rest).push ⟨line, l⟩
            match l with
            | .sign s =>
              match closer? s, s.toList, awaited with
              | some c, _, _ => next (c :: awaited)
              | none, [c], [] =>
                if c = ')' || c = ']' || c = '}' then stop line (.strayBracket c) else next []
              | none, [c], wanted :: more =>
                if c = ')' || c = ']' || c = '}' then
                  if c = wanted then next more else stop line (.wrongBracket c wanted)
                else next awaited
              | none, _, _ => next awaited
            | _ => next awaited

/-- Cuts template text into tokens. -/
def ofString (source : String) : Scan :=
  let cs := plainLines source.toList
  run (2 * cs.length + 2) .outside 1 0 false cs

end Scan

end CardPress.Template
