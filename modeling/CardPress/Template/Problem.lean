import CardPress.Template.Trouble
import CardPress.Text.Quoted

/-! Why template text cannot be compiled. -/
namespace CardPress.Template

inductive Problem where
  | strayCharacter (c : Char) (position : Nat)
  | strayBracket (found : Char)
  | wrongBracket (found wanted : Char)
  | openComment
  | openRaw
  | badName
  | badEscape (detail : String)
  | wanted (wanted found : String)
  | wantedAtEnd (wanted : String)
  | unexpected (found : String)
  | noExpression (found : String)
  | noTag
  | noNameOrNumber
  | badCall
  | chainedTests
  | cannotAssign (kind : String)
  | assignedLoop
  | unknownTag (name : String) (looking : List String) (nested : Bool) (innermost : Option String)
  | endInBlock (looking : List String) (innermost : Option String)
  | unknownFilter (name : String)
  | unknownTest (name : String)
  | noCall
  | lateParameter
  | hyphenatedBlock
  | filledBlock
  | hiddenImport
  | blockTwice (name : String)
  | innerExtend
  | callerParameter
  deriving DecidableEq, Repr

namespace Problem

def quotedChar (c : Char) : String := Text.quote (String.singleton c)

def alternatives (names : List String) : String := String.intercalate " or " (names.map Text.quote)

def innermostText : Option String → List String
  | none => []
  | some tag => ["The innermost block that needs to be closed is " ++ Text.quote tag ++ "."]

def lookingText (looking : List String) : List String :=
  if looking.isEmpty then []
  else ["Jinja was looking for the following tags: " ++ alternatives looking ++ "."]

def message : Problem → String
  | strayCharacter c position => s!"unexpected char {quotedChar c} at {position}"
  | strayBracket found => "unexpected '" ++ String.singleton found ++ "'"
  | wrongBracket found due =>
    "unexpected '" ++ String.singleton found ++ "', expected '" ++ String.singleton due ++ "'"
  | openComment => "Missing end of comment tag"
  | openRaw => "Missing end of raw directive"
  | badName => "Invalid character in identifier"
  | badEscape detail => detail
  | .wanted due found => s!"expected token {Text.quote due}, got {Text.quote found}"
  | wantedAtEnd due => s!"unexpected end of template, expected {Text.quote due}."
  | unexpected found => s!"unexpected {Text.quote found}"
  | noExpression found => s!"Expected an expression, got {Text.quote found}"
  | noTag => "tag name expected"
  | noNameOrNumber => "expected name or number"
  | badCall => "invalid syntax for function call expression"
  | chainedTests => "You cannot chain multiple tests with is"
  | cannotAssign kind => s!"can't assign to {Text.quote kind}"
  | assignedLoop => "Can't assign to special loop variable in for-loop"
  | unknownTag name looking nested innermost =>
    let middle :=
      if nested && !looking.isEmpty then
        ["You probably made a nesting mistake. Jinja is expecting this tag, but currently looking for "
          ++ alternatives looking ++ "."]
      else lookingText looking
    String.intercalate " " (["Encountered unknown tag " ++ Text.quote name ++ "."] ++ middle
      ++ innermostText innermost)
  | endInBlock looking innermost =>
    String.intercalate " " (["Unexpected end of template."] ++ lookingText looking
      ++ innermostText innermost)
  | unknownFilter name => s!"No filter named {Text.quote name}."
  | unknownTest name => s!"No test named {Text.quote name}."
  | noCall => "expected call"
  | lateParameter => "non-default argument follows default argument"
  | hyphenatedBlock =>
    "Block names in Jinja have to be valid Python identifiers and may not contain hyphens, use an "
      ++ "underscore instead."
  | filledBlock => "Required blocks can only contain comments or whitespace"
  | hiddenImport => "names starting with an underline can not be imported"
  | blockTwice name => s!"block {Text.quote name} defined twice"
  | innerExtend => "cannot use extend from a non top-level scope"
  | callerParameter =>
    "When defining macros or call blocks the special \"caller\" argument must be omitted or be given a "
      ++ "default."

end Problem

/-- A problem and the line of the template it was met on. -/
structure Fault where
  problem : Problem
  line : Nat
  deriving DecidableEq, Repr

/-- Template text is refused for a problem on a line, or because a part of it cannot be computed. -/
inductive Refusal where
  | fault (f : Fault)
  | trouble (t : Trouble)
  deriving DecidableEq, Repr

end CardPress.Template
