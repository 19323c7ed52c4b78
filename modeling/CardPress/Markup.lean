/-! Markup inside text: tags that push and pop styles, and placeholders for icons. Whatever forms
neither is kept as it is written, so every text is markup. -/
namespace CardPress

inductive Instruction where
  | text (s : String)
  | push (tag : String)
  | pop (tag : String)
  | placeholder (name : String)
  deriving DecidableEq, Repr

namespace Markup

/-- The characters of tag names. -/
def isNameChar (c : Char) : Bool := c.isAlphanum || c = '.' || c = '_' || c = '-'

def isPlaceholderChar (c : Char) : Bool := isNameChar c || c = '/'

/-- The beginning of a tag or placeholder that may still become one; its name is in reverse. -/
inductive Token where
  | none
  | bracket
  | opening (name : List Char)
  | closing (name : List Char)
  | placeholder (name : List Char)
  deriving DecidableEq, Repr

/-- The text that a beginning was read from, in reverse. -/
def Token.written : Token → List Char
  | none => []
  | bracket => ['<']
  | opening name => name ++ ['<']
  | closing name => name ++ ['/', '<']
  | placeholder name => name ++ [':']

/-- Plain text that is still being collected, in reverse, and the beginning of a token behind it. -/
structure Pending where
  literal : List Char
  token : Token

/-- A character that stands where a token may begin. -/
def Pending.start (literal : List Char) (c : Char) : Pending :=
  if c = '<' then ⟨literal, .bracket⟩
  else if c = ':' then ⟨literal, .placeholder []⟩
  else ⟨c :: literal, .none⟩

def ofReversed (reversed : List Char) : String := String.ofList reversed.reverse

def flush (literal : List Char) : List Instruction :=
  if literal.isEmpty then [] else [.text (ofReversed literal)]

/-- What one more character completes, and what stays pending. A character that breaks a token is
plain text, or begins the next token. -/
def step (p : Pending) (c : Char) : List Instruction × Pending :=
  let broken : List Instruction × Pending := ([], .start (p.token.written ++ p.literal) c)
  let whole (i : Instruction) : List Instruction × Pending := (flush p.literal ++ [i], ⟨[], .none⟩)
  let onward (t : Token) : List Instruction × Pending := ([], ⟨p.literal, t⟩)
  let plain : List Instruction × Pending := ([], ⟨c :: p.token.written ++ p.literal, .none⟩)
  match p.token with
  | .none => broken
  | .bracket =>
    if c = '/' then onward (.closing [])
    else if isNameChar c then onward (.opening [c])
    else broken
  | .opening name =>
    if c = '>' then whole (.push (ofReversed name))
    else if isNameChar c then onward (.opening (c :: name))
    else broken
  | .closing name =>
    if c = '>' then (if name.isEmpty then plain else whole (.pop (ofReversed name)))
    else if isNameChar c then onward (.closing (c :: name))
    else broken
  | .placeholder name =>
    if c = ':' then (if name.isEmpty then plain else whole (.placeholder (ofReversed name)))
    else if isPlaceholderChar c then onward (.placeholder (c :: name))
    else broken

def read (p : Pending) : List Char → List Instruction
  | [] => flush (p.token.written ++ p.literal)
  | c :: cs =>
    match step p c with
    | ([], p) => read p cs
    | (done, p) => done ++ read p cs

/-- The instructions that text stands for. -/
def parse (s : String) : List Instruction := read ⟨[], .none⟩ s.toList

end Markup

end CardPress
