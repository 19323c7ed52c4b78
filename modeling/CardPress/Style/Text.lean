import CardPress.Color
import CardPress.Condition
import CardPress.Number.Scalar
import CardPress.Style.Keyword

/-! Styles of text, and what a cascade of them comes to. -/
namespace CardPress

inductive SizeUnit where
  | pixel
  | point
  deriving DecidableEq, Repr

namespace SizeUnit

def name : SizeUnit → String
  | pixel => "px"
  | point => "pt"

def ofName? (s : String) : Option SizeUnit := [pixel, point].find? (·.name = s)

end SizeUnit

structure TextSize (α : Type) where
  value : α
  unit : SizeUnit

/-- Points become pixels at a resolution in dots per inch. -/
def TextSize.pixels {α : Type} [Scalar α] (s : TextSize α) (dpi : α) : α :=
  match s.unit with
  | .pixel => s.value
  | .point => s.value * dpi / Scalar.ofNat 72

inductive TextStyle (α : Type) where
  | font (family : Option String) (weight : Option FontWeight) (width : Option FontWidth)
    (slant : Option FontSlant)
  | size (s : TextSize α)
  | align (mode : Alignment)
  | foreground (color : ColorRef)
  | background (color : ColorRef)
  | onlyIf (condition : Condition)

/-- What a cascade of text styles comes to; nothing stands where no style said anything. -/
structure FlatTextStyle (α : Type) where
  foreground : Option ColorRef := none
  background : Option ColorRef := none
  size : Option (TextSize α) := none
  align : Alignment := .left
  family : Option String := none
  weight : FontWeight := .normal
  width : FontWidth := .normal
  slant : Option FontSlant := none
  conditions : List Condition := []

namespace TextStyle

variable {α : Type}

def bold : TextStyle α := font none (some .bold) none none

def italic : TextStyle α := font none none none (some .italic)

/-- The styles that every deck has; colours go by their names with hyphens. -/
def builtins : List (String × List (TextStyle α)) :=
  [("b", [bold]), ("bold", [bold]), ("i", [italic]), ("italic", [italic])] ++
    Color.builtins.map fun (name, color) =>
      (String.ofList (name.toList.map fun c => if c = ' ' then '-' else c), [foreground (.fixed color)])

end TextStyle

namespace FlatTextStyle

variable {α : Type}

/-- Lays one style over what is there; a condition joins the others. -/
def add (s : FlatTextStyle α) : TextStyle α → FlatTextStyle α
  | .font family weight width slant =>
    { s with
      family := family.or s.family
      weight := weight.getD s.weight
      width := width.getD s.width
      slant := slant.or s.slant }
  | .size size => { s with size := some size }
  | .align mode => { s with align := mode }
  | .foreground color => { s with foreground := some color }
  | .background color => { s with background := some color }
  | .onlyIf condition => { s with conditions := s.conditions ++ [condition] }

/-- Lays styles over what is there, later ones over earlier ones. -/
def apply (s : FlatTextStyle α) (styles : List (TextStyle α)) : FlatTextStyle α :=
  styles.foldl add s

end FlatTextStyle

end CardPress
