import CardPress.Color
import CardPress.Font.Standard

/-! Setting text: runs of one style each are cut into words and blanks and put into lines. -/
namespace CardPress

/-- A decoded image: its size in pixels and the kind of its pixels. -/
structure Picture where
  width : Nat
  height : Nat
  mode : String
  deriving DecidableEq, Repr

/-- Width by height; a picture without height counts as a square. -/
def Picture.aspect {α : Type} [Scalar α] (p : Picture) : α :=
  if p.height = 0 then Scalar.ofNat 1 else Scalar.ofNat p.width / Scalar.ofNat p.height

/-- Text in one style, or an icon as high as the font size. -/
structure TextRun (α : Type) where
  text : String
  font : String
  size : α
  color : Color
  background : Option Color := none
  icon : Option Picture := none

/-- A word, a blank or an icon on a line; `index` is the place of its run among the runs. -/
structure Fragment (α : Type) where
  run : TextRun α
  index : Nat
  text : String
  width : α
  isBlank : Bool

/-- `fallback` gives its height to a line with nothing on it; a hard line was not wrapped. -/
structure TextLine (α : Type) where
  fragments : List (Fragment α)
  fallback : Option (TextRun α)
  isHard : Bool

namespace Typeset

/-- What runs are cut into. -/
inductive Token where
  | newline
  | blank (text : String)
  | word (text : String)
  deriving DecidableEq, Repr

/-- A stretch is blank if all of it is white space. -/
def Token.ofStretch (cs : List Char) : Token :=
  match cs with
  | ['\n'] => .newline
  | ['\t'] => .blank " "
  | cs => if cs.all Text.isBlank then .blank (String.ofList cs) else .word (String.ofList cs)

/-- Line feeds and tabs stand alone; spaces stay together, and so do other characters. -/
def isStretch (c d : Char) : Bool :=
  let alone (c : Char) : Bool := c = '\n' || c = '\t'
  !alone c && !alone d && (c = ' ') = (d = ' ')

def tokens (s : String) : List Token := (s.toList.splitBy isStretch).map Token.ofStretch

variable {α : Type} [Scalar α]

/-- Fragments in reading order, with the line feeds between them. -/
inductive Piece (α : Type) where
  | fragment (f : Fragment α)
  | newline (run : TextRun α)

def pieceOfToken (run : TextRun α) (index : Nat) : Token → Piece α
  | .newline => .newline run
  | .blank s => .fragment ⟨run, index, s, Font.textWidth run.font run.size s, true⟩
  | .word s => .fragment ⟨run, index, s, Font.textWidth run.font run.size s, false⟩

/-- The text of an icon does not count. -/
def piecesOfRun (run : TextRun α) (index : Nat) : List (Piece α) :=
  match run.icon with
  | some p => [.fragment ⟨run, index, "", run.size * p.aspect, false⟩]
  | none => (tokens run.text).map (pieceOfToken run index)

def pieces (runs : List (TextRun α)) : List (Piece α) :=
  runs.zipIdx.flatMap fun (run, index) => piecesOfRun run index

def totalWidth (fragments : List (Fragment α)) : α := Scalar.sum (fragments.map (·.width))

/-- Lines that are done, the line being filled, and the word that is to go on it. -/
structure Setting (α : Type) where
  done : List (TextLine α) := []
  current : List (Fragment α) := []
  word : List (Fragment α) := []

def dropEndBlanks (fragments : List (Fragment α)) : List (Fragment α) :=
  (fragments.reverse.dropWhile (·.isBlank)).reverse

namespace Setting

/-- Ends the line being filled, without the blanks at its end. -/
def endLine (s : Setting α) (fallback : Option (TextRun α)) (isHard : Bool) : Setting α :=
  { s with done := s.done ++ [⟨dropEndBlanks s.current, fallback, isHard⟩], current := [] }

/-- Puts the word on the line, or on a new one if the line has a word and no room for it. -/
def placeWord (maxWidth : α) (s : Setting α) : Setting α :=
  if s.word.isEmpty then s
  else
    let full := s.current.any (!·.isBlank) &&
      decide (maxWidth < totalWidth s.current + totalWidth s.word)
    let s := if full then s.endLine none false else s
    { s with current := s.current ++ s.word, word := [] }

def add (maxWidth : α) (s : Setting α) : Piece α → Setting α
  | .newline run => (s.placeWord maxWidth).endLine (some run) true
  | .fragment f =>
    if f.isBlank then
      let s := s.placeWord maxWidth
      { s with current := s.current ++ [f] }
    else { s with word := s.word ++ [f] }

/-- The lines; there is always one. -/
def finish (maxWidth : α) (last : Option (TextRun α)) (s : Setting α) : List (TextLine α) :=
  let s := s.placeWord maxWidth
  if s.current.isEmpty && !s.done.isEmpty then s.done else (s.endLine last true).done

end Setting

/-- Breaks runs into lines at blanks and line feeds, as many words to a line as fit. -/
def lines (runs : List (TextRun α)) (maxWidth : α) : List (TextLine α) :=
  ((pieces runs).foldl (Setting.add maxWidth) {}).finish maxWidth runs.getLast?

/-- The heights of a run above and below the base line. -/
def runHeights (run : TextRun α) : α × α :=
  match run.icon with
  | some _ => (run.size, Scalar.zero)
  | none => (Font.ascent run.font run.size, Font.descent run.font run.size)

end Typeset

namespace TextLine

variable {α : Type} [Scalar α]

/-- The runs that give the line its height. -/
def runs (l : TextLine α) : List (TextRun α) :=
  if l.fragments.isEmpty then l.fallback.toList else l.fragments.map (·.run)

def width (l : TextLine α) : α := Typeset.totalWidth l.fragments

def largest (values : List α) : α := values.foldl Scalar.larger Scalar.zero

def ascent (l : TextLine α) : α := largest (l.runs.map fun r => (Typeset.runHeights r).1)

def descent (l : TextLine α) : α := largest (l.runs.map fun r => (Typeset.runHeights r).2)

/-- Lines are 1.2 times as high as the largest font on them. -/
def height (l : TextLine α) : α := largest (l.runs.map (·.size)) * Scalar.decimal 12 1

end TextLine

namespace Typeset

variable {α : Type} [Scalar α]

/-- The fonts that setting the runs asks for, in order. -/
def fontsUsed (runs : List (TextRun α)) (lines : List (TextLine α)) : List String :=
  let measured := (pieces runs).filterMap fun
    | .fragment f => if f.run.icon.isSome then none else some f.run.font
    | .newline _ => none
  let heights := (lines.flatMap TextLine.runs).filterMap fun r =>
    if r.icon.isSome then none else some r.font
  measured ++ heights

end Typeset

end CardPress
