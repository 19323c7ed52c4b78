import CardPress.Text.Blank

/-! Finding, splitting, replacing and padding in text. -/
namespace CardPress.Text

/-- Splits at every place where `sep` stands, at most `most` times. -/
def splitAtText (sep : List Char) (most : Option Nat) (piece : List Char) :
    Nat → List Char → List (List Char)
  | 0, cs => [piece.reverse ++ cs]
  | _, [] => [piece.reverse]
  | fuel + 1, c :: cs =>
    if most = some 0 then [piece.reverse ++ c :: cs]
    else if sep.isPrefixOf (c :: cs) then
      piece.reverse :: splitAtText sep (most.map (· - 1)) [] fuel ((c :: cs).drop sep.length)
    else splitAtText sep most (c :: piece) fuel cs

def splitText (cs sep : List Char) (most : Option Nat) : List (List Char) :=
  splitAtText sep most [] (cs.length + 1) cs

/-- Splits at blanks, at most `most` times. -/
def splitBlanksFrom : Nat → Option Nat → List Char → List (List Char)
  | 0, _, _ => []
  | fuel + 1, most, cs =>
    match cs.dropWhile isBlank with
    | [] => []
    | c :: tail =>
      if most = some 0 then [dropEndWhile isBlank (c :: tail)]
      else
        (c :: tail).takeWhile (!isBlank ·) ::
          splitBlanksFrom fuel (most.map (· - 1)) ((c :: tail).dropWhile (!isBlank ·))

def splitBlanks (most : Option Nat) (cs : List Char) : List (List Char) :=
  splitBlanksFrom (cs.length + 1) most cs

/-- Splits as `split` does for reversed text, so that the last places count first. -/
def fromEnd (split : List Char → List (List Char)) (cs : List Char) : List (List Char) :=
  ((split cs.reverse).map List.reverse).reverse

/-- Replaces `old` by `new`, at most `most` times; an empty `old` stands between all characters. -/
def replaceText (cs old new : List Char) (most : Option Nat) : List Char :=
  if old.isEmpty then
    let n := min (most.getD (cs.length + 1)) (cs.length + 1)
    let spread := (cs.take (n - 1)).flatMap fun c => new ++ [c]
    if n = 0 then cs else if n ≤ cs.length then spread ++ new ++ cs.drop (n - 1) else spread ++ new
  else List.intercalate new (splitText cs old most)

/-- The first place of a part, counted from `i`. -/
def findText (part : List Char) : Nat → List Char → Option Nat
  | i, [] => if part.isEmpty then some i else none
  | i, c :: cs => if part.isPrefixOf (c :: cs) then some i else findText part (i + 1) cs

/-- The last place of a part. -/
def findLast (part cs : List Char) : Option Nat :=
  (findText part.reverse 0 cs.reverse).map fun i => cs.length - part.length - i

/-- How often a part stands in text without overlap. -/
def countText (part cs : List Char) : Nat :=
  if part.isEmpty then cs.length + 1 else (splitText cs part none).length - 1

/-- Fills on both sides; an odd place goes left when the width is odd. -/
def centered (width : Nat) (filler : Char) (cs : List Char) : List Char :=
  let missing := width - cs.length
  let left := missing / 2 + (if missing % 2 = 1 && width % 2 = 1 then 1 else 0)
  List.replicate left filler ++ cs ++ List.replicate (missing - left) filler

/-- Zeros in front of digits, behind a sign. -/
def zeroFilled (width : Nat) (cs : List Char) : List Char :=
  let zeros := List.replicate (width - cs.length) '0'
  match cs with
  | '-' :: ds => '-' :: zeros ++ ds
  | '+' :: ds => '+' :: zeros ++ ds
  | ds => zeros ++ ds

/-- Tabs as spaces up to the next column that `size` divides. -/
def expandTabs (size : Nat) (column : Nat) : List Char → List Char
  | [] => []
  | c :: cs =>
    if c = '\t' then
      let n := if size = 0 then 0 else size - column % size
      List.replicate n ' ' ++ expandTabs size (column + n) cs
    else c :: expandTabs size (if c = '\n' || c = '\r' then 0 else column + 1) cs

end CardPress.Text
