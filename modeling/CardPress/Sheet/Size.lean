import CardPress.Failure
import CardPress.Number.Scalar
import CardPress.Text.Case

/-! Units, and the sizes of pages and cards that have names. -/
namespace CardPress

inductive LengthUnit where
  | inch
  | point
  | millimeter
  deriving DecidableEq, Repr

/-- A width and a height. -/
structure Size (α : Type) where
  width : α
  height : α

variable {α : Type} [Scalar α]

namespace LengthUnit

/-- How many points the unit has. -/
def points : LengthUnit → α
  | inch => Scalar.ofNat 72
  | point => Scalar.ofNat 1
  | millimeter => Scalar.ofNat 72 / Scalar.decimal 254 1

def name : LengthUnit → String
  | inch => "in"
  | point => "pt"
  | millimeter => "mm"

def ofString (s : String) : Except Failure LengthUnit :=
  match [inch, point, millimeter].find? (·.name = Text.lower (Text.trim s)) with
  | some u => .ok u
  | none => .error (.configuration (.badUnit s))

end LengthUnit

namespace Size

def isNamePart (c : Char) : Bool := ('a' ≤ c && c ≤ 'z') || c.isDigit

/-- The runs of letters and digits; `word` is the run being read. -/
def nameParts (word : List Char) : List Char → List (List Char)
  | [] => if word.isEmpty then [] else [word]
  | c :: cs =>
    if isNamePart c then nameParts (word ++ [c]) cs
    else if word.isEmpty then nameParts [] cs
    else word :: nameParts [] cs

/-- A name as it is looked up: its words in lower case with one space between them. -/
def canonicalName (s : String) : String :=
  String.intercalate " " ((nameParts [] (Text.lower s).toList).map String.ofList)

def smallerFirst (s : Size α) : Size α :=
  ⟨Scalar.smaller s.width s.height, Scalar.larger s.width s.height⟩

def largerFirst (s : Size α) : Size α :=
  ⟨Scalar.larger s.width s.height, Scalar.smaller s.width s.height⟩

/-- Turns a size upright or sideways, if an orientation is asked for. -/
def oriented (s : Size α) : Option String → Except Failure (Size α)
  | none => .ok s
  | some orientation =>
    let word := Text.lower (Text.trim orientation)
    if word = "portrait" || word = "tall" then .ok s.smallerFirst
    else if word = "landscape" || word = "wide" then .ok s.largerFirst
    else .error (.configuration (.badOrientation orientation))

def aliases : List (String × String) :=
  [("us letter", "letter"), ("us legal", "legal"), ("us tabloid", "tabloid"), ("us ledger", "ledger")]

/-- Width and height in tenths of an inch. -/
def pagesInInches : List (String × Nat × Nat) :=
  [("letter", 85, 110), ("legal", 85, 140), ("tabloid", 110, 170), ("ledger", 170, 110)]

/-- Width and height in millimeters. -/
def pagesInMillimeters : List (String × Nat × Nat) :=
  [("a0", 841, 1189), ("a1", 594, 841), ("a2", 420, 594), ("a3", 297, 420), ("a4", 210, 297),
    ("a5", 148, 210), ("a6", 105, 148), ("a7", 74, 105), ("a8", 52, 74)]

def cardsInMillimeters : List (String × Nat × Nat) :=
  [("poker", 63, 88), ("bridge", 56, 88), ("tarot", 70, 121), ("mini", 44, 64),
    ("small square", 63, 63), ("large square", 88, 88)]

def inUnit (width height : α) (unit : LengthUnit) : Size α :=
  ⟨width * unit.points, height * unit.points⟩

/-- A page size by its name. -/
def ofPageName (name : String) (orientation : Option String) : Except Failure (Size α) :=
  let key := canonicalName name
  let key := (aliases.lookup key).getD key
  match pagesInInches.lookup key with
  | some (w, h) => (inUnit (Scalar.decimal w 1) (Scalar.decimal h 1) .inch).oriented orientation
  | none =>
    match pagesInMillimeters.lookup key with
    | some (w, h) => (inUnit (Scalar.ofNat w) (Scalar.ofNat h) .millimeter).oriented orientation
    | none => .error (.configuration (.unknownPageSize name))

/-- A card size by its name. -/
def ofCardName (name : String) (orientation : Option String) : Except Failure (Size α) :=
  match cardsInMillimeters.lookup (canonicalName name) with
  | some (w, h) => (inUnit (Scalar.ofNat w) (Scalar.ofNat h) .millimeter).oriented orientation
  | none => .error (.configuration (.unknownCardSize name))

end Size

end CardPress
