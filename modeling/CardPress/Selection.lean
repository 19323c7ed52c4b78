import CardPress.Whole
import CardPress.Text.Blank

/-! Selection lists: which cards to print, and how many of each. -/
namespace CardPress.Selection

def isSign (c : Char) : Bool := c = '+' || c = '-'

/-- Whether a word is meant as a number: digits behind any signs. -/
def isQuantity (word : String) : Bool :=
  let digits := word.toList.dropWhile isSign
  !digits.isEmpty && digits.all Text.isDigit

/-- More ids than this are not kept at once. -/
def room : Nat := Nat.pow 2 31

/-- An id so many times. -/
def repeated (quantity : Nat) (id : String) : Except Failure (List String) :=
  if Nat.pow 2 63 ≤ quantity then .error (.arithmetic .countTooLarge)
  else if room < quantity then .error (.arithmetic .noRoom)
  else .ok (List.replicate quantity id)

/-- An id as many times as a word says. -/
def counted (number : Nat) (word id : String) : Except Failure (List String) := do
  let quantity ← Whole.ofString word
  if quantity ≤ 0 then throw (.configuration (.badQuantity number quantity))
  repeated quantity.toNat id

/-- Whether a line is blank or a remark. -/
def isSilent (id : String) : Bool := id = "" || id.toList.head? = some '#'

/-- The ids that a line asks for: none for a blank line or a remark, one for an id, and as many as
the number before the id says. -/
def line (number : Nat) (text : String) : Except Failure (List String) :=
  let id := Text.trim text
  if isSilent id then .ok []
  else
    match Text.headWord id with
    | some (word, some rest) =>
      if isQuantity word then counted number word (Text.trim rest) else .ok [id]
    | _ => .ok [id]

/-- The ids of a list of lines that starts at some line number. -/
def linesFrom (number : Nat) : List String → Except Failure (List String)
  | [] => .ok []
  | text :: more => do
    let ids ← line number text
    let rest ← linesFrom (number + 1) more
    return ids ++ rest

def parse (text : String) : Except Failure (List String) := linesFrom 1 (Text.lines text)

end CardPress.Selection
