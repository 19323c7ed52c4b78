/-! What stops a template: the kind of failure and what is said of it. -/
namespace CardPress.Template

/-- Failures of `template` kind are the language's own; the others are of the values at hand. -/
inductive TroubleKind where
  | template
  | type
  | value
  | key
  | index
  | field
  | zeroDivision
  | overflow
  | name
  | assertion
  | runtime
  | recursion
  | memory
  | form
  deriving DecidableEq, Repr

namespace TroubleKind

def word : TroubleKind → String
  | template => "TemplateError"
  | type => "TypeError"
  | value => "ValueError"
  | key => "KeyError"
  | index => "IndexError"
  | field => "AttributeError"
  | zeroDivision => "ZeroDivisionError"
  | overflow => "OverflowError"
  | name => "NameError"
  | assertion => "AssertionError"
  | runtime => "RuntimeError"
  | recursion => "RecursionError"
  | memory => "MemoryError"
  | form => "SyntaxError"

/-- Whether a failure of this kind counts as a fault of the template when a card is filled in. -/
def isOrdinary : TroubleKind → Bool
  | template | type | value | key | index | field | zeroDivision | overflow => true
  | name | assertion | runtime | recursion | memory | form => false

end TroubleKind

structure Trouble where
  kind : TroubleKind
  text : String
  deriving DecidableEq, Repr

namespace Trouble

def type (text : String) : Trouble := ⟨.type, text⟩

def value (text : String) : Trouble := ⟨.value, text⟩

def overflow (text : String) : Trouble := ⟨.overflow, text⟩

def zeroDivision (text : String) : Trouble := ⟨.zeroDivision, text⟩

def plain (text : String) : Trouble := ⟨.template, text⟩

/-- The text of an ordinary failure; all but the language's own begin with their kind. -/
def message (t : Trouble) : String :=
  if t.kind = .template then t.text else t.kind.word ++ ": " ++ t.text

end Trouble

end CardPress.Template
