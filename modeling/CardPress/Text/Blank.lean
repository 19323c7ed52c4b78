/-! Blanks and line boundaries: trimming, splitting into words, splitting into lines. -/
namespace CardPress.Text

/-- The white space of every script, and the four information separators. -/
def isBlank (c : Char) : Bool :=
  let n := c.toNat
  (9 ≤ n && n ≤ 13) || (28 ≤ n && n ≤ 32) || n == 0x85 || n == 0xA0 || n == 0x1680 ||
  (0x2000 ≤ n && n ≤ 0x200A) || n == 0x2028 || n == 0x2029 || n == 0x202F || n == 0x205F ||
  n == 0x3000

/-- Characters that end a line; a carriage return and a line feed together end one line. -/
def isLineEnd (c : Char) : Bool :=
  let n := c.toNat
  (10 ≤ n && n ≤ 13) || (28 ≤ n && n ≤ 30) || n == 0x85 || n == 0x2028 || n == 0x2029

def dropEndWhile (p : Char → Bool) (cs : List Char) : List Char :=
  (cs.reverse.dropWhile p).reverse

def trimList (cs : List Char) : List Char := dropEndWhile isBlank (cs.dropWhile isBlank)

def trim (s : String) : String := String.ofList (trimList s.toList)

/-- Blanks that may stand around a number: all but the four information separators. -/
def isNumberBlank (c : Char) : Bool := isBlank c && !(28 ≤ c.toNat && c.toNat ≤ 31)

def trimNumber (cs : List Char) : List Char :=
  dropEndWhile isNumberBlank (cs.dropWhile isNumberBlank)

/-- Puts a character in front of the first of several parts. -/
def consFirst (c : Char) : List (List Char) → List (List Char)
  | [] => [[c]]
  | part :: parts => (c :: part) :: parts

/-- The maximal runs of characters that are not blank. -/
def wordList : List Char → List (List Char)
  | [] => []
  | c :: cs =>
    if isBlank c then wordList cs
    else if (cs.head?.map isBlank).getD true then [c] :: wordList cs
    else consFirst c (wordList cs)

def words (s : String) : List String := (wordList s.toList).map String.ofList

/-- The first word and what follows it, without the blanks around and between them. -/
def headWord (s : String) : Option (String × Option String) :=
  match trimList s.toList with
  | [] => none
  | cs =>
    let rest := (cs.dropWhile (!isBlank ·)).dropWhile isBlank
    some (String.ofList (cs.takeWhile (!isBlank ·)),
      if rest.isEmpty then none else some (String.ofList rest))

/-- Lines with their endings. -/
def lineList : List Char → List (List Char)
  | [] => []
  | '\r' :: '\n' :: cs => ['\r', '\n'] :: lineList cs
  | c :: cs => if isLineEnd c then [c] :: lineList cs else consFirst c (lineList cs)

def linesWithEnds (s : String) : List (List Char) := lineList s.toList

/-- Lines without their endings; text after the last ending is a line unless it is empty. -/
def lines (s : String) : List String :=
  (linesWithEnds s).map fun l => String.ofList (dropEndWhile isLineEnd l)

end CardPress.Text
