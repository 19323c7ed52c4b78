import CardPress.Named
import CardPress.Report
import CardPress.Text.Case
import CardPress.Text.Letter

/-! File names for cards. -/
namespace CardPress.FileName

def isSafe (c : Char) : Bool := Text.isAlphanumeric c || c = '-' || c = '.'

def isTrimmed (c : Char) : Bool := c = '_' || c = '.'

/-- Text made fit for a file name; nothing is left of some texts, which are called card. -/
def sanitize (s : String) : String :=
  let safe := s.toList.map fun c => if isSafe c then c else '_'
  let trimmed := Text.dropEndWhile isTrimmed (safe.dropWhile isTrimmed)
  if trimmed.isEmpty then "card" else String.ofList trimmed

/-- A name with a number behind it, from some number on, that is not taken in any letter case. -/
def freeFrom (taken : List String) (base : String) : Nat → Nat → String
  | 0, number => s!"{base}_{number}"
  | fuel + 1, number =>
    let candidate := s!"{base}_{number}"
    if taken.contains (Text.lower candidate) then freeFrom taken base fuel (number + 1) else candidate

/-- The name itself if it is free, or with the first number from two on that makes it so. -/
def free (taken : List String) (base : String) : String :=
  if taken.contains (Text.lower base) then freeFrom taken base (taken.length + 1) 2 else base

/-- A file name for each id; `taken` holds names in lower case. -/
def stemsFrom (taken : List String) (stems : Named String) : List String → Report (Named String)
  | [] => return stems
  | id :: rest => do
    if stems.contains id then stemsFrom taken stems rest
    else
      let base := sanitize id
      let stem := free taken base
      if stem != base then warn (.sharedFileName id base stem)
      stemsFrom (taken ++ [Text.lower stem]) (stems.put id stem) rest

/-- A file name for each id, no two of them the same in any letter case. -/
def stems (ids : List String) : Report (Named String) := stemsFrom [] .empty ids

end CardPress.FileName
