import CardPress.Template.Token
import CardPress.Template.Tree

/-! Tokens as they are read one after the other. -/
namespace CardPress.Template

/-- The token in hand and those behind it; `place` is the line of the last part that was read. -/
structure Stream where
  current : Token
  rest : List Token
  refusal : Option Refusal
  place : Nat := 1

abbrev Parse := StateT Stream (Except Refusal)

namespace Parse

def fail {α : Type} (line : Nat) (p : Problem) : Parse α := throw (.fault ⟨p, line⟩)

def lexeme : Parse Lexeme := do return (← get).current.lexeme

def line : Parse Nat := do return (← get).current.line

/-- Notes the line that a part counts as being on. -/
def placed {α : Type} (line : Nat) (part : α) : Parse α := do
  modify fun s => { s with place := line }
  return part

def place : Parse Nat := do return (← get).place

/-- Moves to the next token; a fault of the text itself is met on the way to its token. -/
def advance : Parse Token := do
  let s ← get
  match s.rest, s.refusal with
  | t :: ts, _ => set { s with current := t, rest := ts }
  | [], some r => throw r
  | [], none => set { s with current := ⟨s.current.line, .finish⟩ }
  return s.current

def peek : Parse Lexeme := do
  let s ← get
  match s.rest, s.refusal with
  | t :: _, _ => return t.lexeme
  | [], some r => throw r
  | [], none => return .finish

def skipIf (p : Lexeme → Bool) : Parse Bool := do
  if p (← lexeme) then
    let _ ← advance
    return true
  else return false

def skipSign (s : String) : Parse Bool := skipIf (·.isSign s)

def skipWord (s : String) : Parse Bool := skipIf (·.isName s)

/-- Skips two words that stand together. -/
def skipWords (first second : String) : Parse Bool := do
  if (← lexeme).isName first then
    if (← peek).isName second then
      let _ ← advance
      let _ ← advance
      return true
  return false

def refuse {α : Type} (wanted : String) : Parse α := do
  match ← lexeme with
  | .finish => fail (← line) (.wantedAtEnd wanted)
  | l => fail (← line) (.wanted wanted l.describe)

def expect (p : Lexeme → Bool) (wanted : String) : Parse Token := do
  if p (← lexeme) then advance else refuse wanted

def expectSign (s : String) : Parse Token := expect (·.isSign s) s

def expectWord (s : String) : Parse Token := expect (·.isName s) s

def expectName : Parse String := do
  match ← lexeme with
  | .name s => let _ ← advance; return s
  | _ => refuse "name"

def isBlockEnd : Lexeme → Bool
  | .blockEnd => true
  | _ => false

def isVariableEnd : Lexeme → Bool
  | .variableEnd => true
  | _ => false

def expectBlockEnd : Parse Token := expect isBlockEnd "end of statement block"

/-- Names with dots between them. -/
def dottedName : Nat → String → Parse String
  | 0, s => return s
  | fuel + 1, s => do
    if ← skipSign "." then
      let t ← expectName
      dottedName fuel (s ++ "." ++ t)
    else return s

end Parse

end CardPress.Template
