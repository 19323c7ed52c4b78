import CardPress.Text.Cased

/-! Changing letter case, with forms of several characters and the Greek sigma at a word's end. -/
namespace CardPress.Text

def ofCode (n : Nat) : Char := Char.ofNat n

/-- The lower form of a character away from a word's end. -/
def lowerChar (c : Char) : List Char :=
  if c.toNat = 0x130 then ['i', ofCode 0x307]
  else [ofCode ((caseImage? lowerRuns c.toNat).getD c.toNat)]

/-- Whether the first character that is not skipped has case. -/
def meetsCased : List Char → Bool
  | [] => false
  | c :: cs =>
    if inRanges caseIgnorableRanges c.toNat then meetsCased cs else inRanges casedRanges c.toNat

/-- The lower form of a character between `before`, nearest first, and `after`. -/
def lowerHere (before : List Char) (c : Char) (after : List Char) : List Char :=
  if c.toNat = 0x3A3 then
    [if meetsCased before && !meetsCased after then ofCode 0x3C2 else ofCode 0x3C3]
  else lowerChar c

/-- Lower case; `before` holds the characters already passed, nearest first. -/
def lowerFrom (before : List Char) : List Char → List Char
  | [] => []
  | c :: cs => lowerHere before c cs ++ lowerFrom (c :: before) cs

def lower (s : String) : String := String.ofList (lowerFrom [] s.toList)

def upperChar (c : Char) : List Char :=
  match upperSpecials.lookup c.toNat with
  | some cs => cs.map ofCode
  | none => [ofCode ((caseImage? upperRuns c.toNat).getD c.toNat)]

def titleChar (c : Char) : List Char :=
  match titleSpecials.lookup c.toNat with
  | some cs => cs.map ofCode
  | none =>
    match caseImage? titleRuns c.toNat with
    | some n => [ofCode n]
    | none => upperChar c

def upper (s : String) : String := String.ofList (s.toList.flatMap upperChar)

/-- The first character in title form, all others in lower form. -/
def capitalize (s : String) : String :=
  match s.toList with
  | [] => ""
  | c :: cs => String.ofList (titleChar c ++ lowerFrom [c] cs)

end CardPress.Text
