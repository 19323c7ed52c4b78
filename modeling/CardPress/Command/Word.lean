import CardPress.Command.Option
import CardPress.Text.Digit
import CardPress.Text.Quoted

/-! The words of a command line, told apart before any of them takes effect. -/
namespace CardPress

/-- Why a command line is refused. -/
inductive ArgumentCause where
  | ambiguous (word : String) (candidates : List CommandOption)
  | noValue (option : CommandOption)
  | unusedValue (option : CommandOption) (value : String)
  | notWhole (value : String)
  | missing (names : List String)
  | unrecognized (words : List String)
  deriving DecidableEq, Repr

namespace ArgumentCause

def argument (option : CommandOption) (text : String) : String :=
  "argument " ++ option.spellings ++ ": " ++ text

def message : ArgumentCause → String
  | ambiguous word candidates =>
    let names := candidates.map fun o => String.ofList o.long
    "ambiguous option: " ++ word ++ " could match " ++ String.intercalate ", " names
  | noValue option => argument option "expected one argument"
  | unusedValue option value => argument option ("ignored explicit argument " ++ Text.quote value)
  | notWhole value => argument .jobs ("invalid int value: " ++ Text.quote value)
  | missing names => "the following arguments are required: " ++ String.intercalate ", " names
  | unrecognized words => "unrecognized arguments: " ++ String.intercalate " " words

end ArgumentCause

/-- What is written in one word with an option: `marked` text stands behind an equals sign. -/
structure Joined where
  text : List Char
  marked : Bool
  deriving DecidableEq, Repr

inductive CommandWord where
  | plain (s : String)
  | divider
  | option (o : CommandOption) (isShort : Bool) (joined : Option Joined)
  | unknown (s : String)
  deriving DecidableEq, Repr

namespace CommandWord

def isPlain : CommandWord → Bool
  | plain _ => true
  | _ => false

def isOption : CommandWord → Bool
  | option .. | unknown _ => true
  | _ => false

/-- Such a word is not meant as an option: a minus sign, then digits with at most one point. -/
def isNegativeNumber : List Char → Bool
  | '-' :: cs =>
    let rest := cs.dropWhile fun c => (Text.digitValue? c).isSome
    match rest with
    | [] => !cs.isEmpty
    | '.' :: places => !places.isEmpty && places.all fun c => (Text.digitValue? c).isSome
    | _ => false
  | _ => false

/-- A word before its first equals sign, and what is behind the sign. -/
def splitEquals (cs : List Char) : List Char × Option (List Char) :=
  match cs.dropWhile (· != '=') with
  | [] => (cs, none)
  | _ :: value => (cs.takeWhile (· != '='), some value)

/-- A word that begins like an option and is not spelled like one: it may be shortened, or have more
letters in it. -/
def resemble (cs : List Char) : Except ArgumentCause CommandWord :=
  let word := String.ofList cs
  let other : CommandWord :=
    if isNegativeNumber cs || cs.contains ' ' then plain word else unknown word
  match cs with
  | '-' :: '-' :: _ =>
    let (name, value) := splitEquals cs
    match CommandOption.beginning name with
    | [] => .ok other
    | [o] => .ok (option o false (value.map fun text => ⟨text, true⟩))
    | candidates => .error (.ambiguous word candidates)
  | _ :: c :: more =>
    match CommandOption.ofLetter? c with
    | some o => .ok (option o true (some ⟨more, false⟩))
    | none => .ok other
  | _ => .ok other

def ofString (s : String) : Except ArgumentCause CommandWord :=
  let cs := s.toList
  if cs.head? != some '-' || cs.length = 1 then .ok (plain s)
  else
    match CommandOption.ofSpelling? cs with
    | some (o, isShort) => .ok (option o isShort none)
    | none =>
      match splitEquals cs with
      | (name, some value) =>
        match CommandOption.ofSpelling? name with
        | some (o, isShort) => .ok (option o isShort (some ⟨value, true⟩))
        | none => resemble cs
      | _ => resemble cs

/-- Tells words apart; behind a divider all of them are plain. -/
def ofStrings : List String → Except ArgumentCause (List CommandWord)
  | [] => .ok []
  | s :: rest =>
    if s = "--" then .ok (divider :: rest.map plain)
    else do
      let word ← ofString s
      let more ← ofStrings rest
      return word :: more

end CommandWord

end CardPress
