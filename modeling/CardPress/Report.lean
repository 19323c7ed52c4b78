import CardPress.Failure

/-! Computations that may fail and that note warnings on the way. -/
namespace CardPress

/-- What is worth telling the author of a deck, but stops nothing. -/
inductive Warning where
  | onlyFirstCompared (left operator : String) (count : Nat)
  | twoPlacements (sheetType : String)
  | unknownCropLength (text : String)
  | noHeaderLine (path : String)
  | noHeaderRow (path : String)
  | noLayouts (folder : String)
  | missingImage (card image : String)
  | unknownTextStyle (card style : String)
  | unknownTag (card tag : String)
  | hiddenTag (card tag : String)
  | strayClosingTag (card tag : String)
  | crossedTags (card closing opened : String)
  | missingIcon (card name : String)
  | nothingToImpose (path : String)
  | sharedFileName (card base stem : String)
  deriving DecidableEq, Repr

namespace Warning

def message : Warning → String
  | onlyFirstCompared left operator count =>
    s!"only-if {Text.quote left} {operator} compares against the first of {count} values only"
  | twoPlacements sheetType =>
    s!"sheet type {Text.quote sheetType} defines manual and automatic placement; using manual"
  | unknownCropLength text => s!"unknown crop line length {Text.quote text}, using margin"
  | noHeaderLine path => s!"CSV file has no header row: {path}"
  | noHeaderRow path => s!"worksheet has no header row: {path}"
  | noLayouts folder => s!"project has no layouts: {folder}"
  | missingImage card image =>
    s!"card {Text.quote card}: image {Text.quote image} not found, drawing placeholder"
  | unknownTextStyle card style =>
    s!"card {Text.quote card}: unknown text style {Text.quote style}"
  | unknownTag card tag => s!"card {Text.quote card}: no style named {Text.quote tag}, tag ignored"
  | hiddenTag card tag =>
    s!"card {Text.quote card}: style <{tag}> failed its only-if rules, tag ignored"
  | strayClosingTag card tag => s!"card {Text.quote card}: closing tag </{tag}> with no open tag"
  | crossedTags card closing opened =>
    s!"card {Text.quote card}: closing tag </{closing}> does not match <{opened}>"
  | missingIcon card name => s!"card {Text.quote card}: no image for placeholder :{name}:"
  | nothingToImpose path => s!"no cards to impose, {path} not written"
  | sharedFileName card base stem =>
    s!"card {Text.quote card} shares file name {Text.quote base}, writing {Text.quote stem}"

end Warning

/-- What was noted before a failure stays noted. -/
abbrev Report := ExceptT Failure (StateM (List Warning))

def warn (w : Warning) : Report Unit := modify (· ++ [w])

namespace Report

/-- The outcome and the warnings, in order. -/
def outcome {α : Type} (r : Report α) : Except Failure α × List Warning := r.run.run []

def mapFailure {α : Type} (f : Failure → Failure) (r : Report α) : Report α :=
  ExceptT.adapt f r

end Report

end CardPress
