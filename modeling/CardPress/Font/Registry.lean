import CardPress.Font.Standard
import CardPress.Style.Keyword
import CardPress.Text.Letter

/-! The fonts known in a run, and the choice of one for a style. -/
namespace CardPress

/-- The names of fonts that were used so far or come with the project. -/
abbrev FontRegistry := List String

namespace FontRegistry

def add (r : FontRegistry) (name : String) : FontRegistry := if r.contains name then r else r ++ [name]

/-- Using a font makes it known, and with it the two fonts of symbols. -/
def use (r : FontRegistry) (name : String) : FontRegistry :=
  if r.contains name then r
  else ((r.add name).add StandardFont.symbol.name).add StandardFont.zapfDingbats.name

def useAll (r : FontRegistry) (names : List String) : FontRegistry := names.foldl use r

end FontRegistry

inductive FontFamily where
  | helvetica
  | times
  | courier
  deriving DecidableEq, Repr

namespace FontFamily

def names : List (String × FontFamily) := [
  ("helvetica", helvetica), ("times", times), ("courier", courier), ("arial", helvetica),
  ("sans", helvetica), ("sansserif", helvetica), ("serif", times), ("timesnewroman", times),
  ("timesroman", times), ("mono", courier), ("monospace", courier), ("couriernew", courier)]

/-- A family name as it is looked up: its letters and digits in lower case. -/
def key (family : String) : String :=
  String.ofList ((Text.lower family).toList.filter Text.isAlphanumeric)

def ofName? (family : String) : Option FontFamily := names.lookup (key family)

def font (family : FontFamily) (bold italic : Bool) : StandardFont :=
  match family, bold, italic with
  | helvetica, false, false => .helvetica
  | helvetica, true, false => .helveticaBold
  | helvetica, false, true => .helveticaOblique
  | helvetica, true, true => .helveticaBoldOblique
  | times, false, false => .timesRoman
  | times, true, false => .timesBold
  | times, false, true => .timesItalic
  | times, true, true => .timesBoldItalic
  | courier, false, false => .courier
  | courier, true, false => .courierBold
  | courier, false, true => .courierOblique
  | courier, true, true => .courierBoldOblique

end FontFamily

namespace Font

/-- What a bold or italic font of a project has behind the name of its family. -/
def variantEnding (bold italic : Bool) : String :=
  match bold, italic with
  | false, false => ""
  | true, false => "-Bold"
  | false, true => "-Italic"
  | true, true => "-BoldItalic"

/-- The font for a style: one that is known under the name of the family, or a standard font. -/
def forStyle (known : FontRegistry) (family : Option String) (weight : FontWeight)
    (slant : Option FontSlant) : String :=
  let bold := weight.isBold
  let italic := (slant.map FontSlant.isItalic).getD false
  let default := (FontFamily.helvetica.font bold italic).name
  match family with
  | none => default
  | some "" => default
  | some name =>
    match [name ++ variantEnding bold italic, name].find? known.contains with
    | some candidate => candidate
    | none => (((FontFamily.ofName? name).getD .helvetica).font bold italic).name

end Font

end CardPress
