import CardPress.Text.Case

/-! The words that styles are made of. -/
namespace CardPress

/-- A word as it is looked up: in lower case, without spaces, hyphens and underscores. -/
def keyword (s : String) : String :=
  String.ofList ((Text.lower s).toList.filter fun c => c != ' ' && c != '-' && c != '_')

inductive FontWeight where
  | thin
  | extraLight
  | light
  | normal
  | medium
  | semiBold
  | bold
  | extraBold
  | black
  | extraBlack
  deriving DecidableEq, Repr

namespace FontWeight

def all : List FontWeight :=
  [thin, extraLight, light, normal, medium, semiBold, bold, extraBold, black, extraBlack]

def name : FontWeight → String
  | thin => "thin"
  | extraLight => "extralight"
  | light => "light"
  | normal => "normal"
  | medium => "medium"
  | semiBold => "semibold"
  | bold => "bold"
  | extraBold => "extrabold"
  | black => "black"
  | extraBlack => "extrablack"

def ofName? (s : String) : Option FontWeight := all.find? (·.name = s)

/-- Unknown words stand for the normal weight. -/
def ofKeyword (s : String) : FontWeight := (ofName? (keyword s)).getD normal

/-- Set in a bold font. -/
def isBold : FontWeight → Bool
  | semiBold | bold | extraBold | black | extraBlack => true
  | _ => false

end FontWeight

inductive FontWidth where
  | ultraCondensed
  | condensed
  | semiCondensed
  | normal
  | semiWide
  | wide
  | ultraWide
  deriving DecidableEq, Repr

namespace FontWidth

def all : List FontWidth :=
  [ultraCondensed, condensed, semiCondensed, normal, semiWide, wide, ultraWide]

def name : FontWidth → String
  | ultraCondensed => "ultracondensed"
  | condensed => "condensed"
  | semiCondensed => "semicondensed"
  | normal => "normal"
  | semiWide => "semiwide"
  | wide => "wide"
  | ultraWide => "ultrawide"

def ofName? (s : String) : Option FontWidth := all.find? (·.name = s)

def ofKeyword (s : String) : FontWidth := (ofName? (keyword s)).getD normal

end FontWidth

inductive FontSlant where
  | normal
  | italic
  | oblique
  deriving DecidableEq, Repr

namespace FontSlant

def all : List FontSlant := [normal, italic, oblique]

def name : FontSlant → String
  | normal => "normal"
  | italic => "italic"
  | oblique => "oblique"

def ofName? (s : String) : Option FontSlant := all.find? (·.name = s)

def ofKeyword (s : String) : FontSlant := (ofName? (keyword s)).getD normal

/-- Set in an italic font. -/
def isItalic : FontSlant → Bool
  | normal => false
  | italic | oblique => true

end FontSlant

inductive Alignment where
  | left
  | center
  | right
  | justify
  deriving DecidableEq, Repr

namespace Alignment

def all : List Alignment := [left, center, right, justify]

def name : Alignment → String
  | left => "left"
  | center => "center"
  | right => "right"
  | justify => "justify"

def ofName? (s : String) : Option Alignment := all.find? (·.name = s)

def ofKeyword (s : String) : Alignment :=
  let word := keyword s
  if word = "start" then left
  else if word = "middle" || word = "centre" then center
  else if word = "end" then right
  else (ofName? word).getD left

end Alignment

end CardPress
