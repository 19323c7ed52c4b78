import CardPress.Text.CharacterName.Alphabets
import CardPress.Text.CharacterName.Pictures
import CardPress.Text.CharacterName.Scripts
import CardPress.Text.CharacterName.Symbols
import CardPress.Text.Range

/-! Finding a character by its name (Unicode 14). -/
namespace CardPress.Text

/-- The place of a digit among digits and small letters. -/
def rankOf (c : Char) : Nat := if c.isDigit then c.toNat - 48 else c.toNat - 87

/-- The code that an entry begins with, if it does, and what follows it. -/
def entryCode (next : Nat) : List Char → Nat × List Char
  | '=' :: cs =>
    ((cs.takeWhile (· ≠ ' ')).foldl (fun n c => 16 * n + rankOf c) 0, (cs.dropWhile (· ≠ ' ')).drop 1)
  | cs => (next, cs)

/-- The code of the first entry with the name; `next` and `before` are the code that follows the last
one and the words of the last name. -/
def codeNamed? (wanted : List String) (next : Nat) (before : List String) : List String → Option Nat
  | [] => none
  | entry :: entries =>
    match entryCode next entry.toList with
    | (_, []) => none
    | (code, shared :: rest) =>
      let own := if rest.isEmpty then [] else (String.ofList rest).splitOn " "
      let words := before.take (rankOf shared) ++ own
      if words = wanted then some code else codeNamed? wanted (code + 1) words entries

def inTable (wanted : List String) (table : String) : Option Nat :=
  codeNamed? wanted 0 [] (table.splitOn ",")

/-- Code points of ideographs whose name is one prefix before their code. -/
def ideographRanges : List (Nat × Nat) :=
  [(13312, 19903), (19968, 40959), (131072, 173791), (173824, 177976), (177984, 178205),
   (178208, 183969), (183984, 191456), (196608, 201546)]

/-- Further prefixes before a code, and the code points they are meant for. -/
def codedNames : List (String × List (Nat × Nat)) :=
  [("CJK COMPATIBILITY IDEOGRAPH-", [(63744, 64109), (64112, 64217), (194560, 195101)]),
   ("KHITAN SMALL SCRIPT CHARACTER-", [(101120, 101589)]), ("NUSHU CHARACTER-", [(110960, 111355)])]

def upperHex? (cs : List Char) : Option Nat :=
  if cs.all fun c => c.isDigit || ('A' ≤ c && c ≤ 'F') then
    some (cs.foldl (fun n c => 16 * n + (if c.isDigit then c.toNat - 48 else c.toNat - 55)) 0)
  else none

/-- A code behind a prefix, written with `fits` digits. -/
def codedName? (pre : String) (ranges : List (Nat × Nat)) (fits : Nat → Nat → Bool) (cs : List Char) :
    Option Nat := do
  if !pre.toList.isPrefixOf cs then none
  else
    let digits := cs.drop pre.length
    let n ← upperHex? digits
    if fits n digits.length && inRanges ranges n then some n else none

def leadParts : List String :=
  ["G", "GG", "N", "D", "DD", "R", "M", "B", "BB", "S", "SS", "", "J", "JJ", "C", "K", "T", "P", "H"]

def vowelParts : List String :=
  ["A", "AE", "YA", "YAE", "EO", "E", "YEO", "YE", "O", "WA", "WAE", "OE", "YO", "U", "WEO", "WE", "WI",
   "YU", "EU", "YI", "I"]

def tailParts : List String :=
  ["", "G", "GG", "GS", "N", "NJ", "NH", "D", "L", "LG", "LM", "LB", "LS", "LT", "LP", "LH", "M", "B",
   "BS", "S", "SS", "NG", "J", "C", "K", "T", "P", "H"]

/-- The longest of some parts that text begins with, by its place, and the rest. -/
def longestPart (parts : List String) (cs : List Char) : Option (Nat × List Char) :=
  let fitting := parts.zipIdx.filter fun (part, _) => part.toList.isPrefixOf cs
  (fitting.foldl (fun best (part, i) =>
    match best with
    | some (j, size) => if size < part.length then some (i, part.length) else some (j, size)
    | none => some (i, part.length)) none).map fun (i, size) => (i, cs.drop size)

/-- A syllable spelled by its parts. -/
def syllableNamed? (cs : List Char) : Option Nat := do
  let pre := "HANGUL SYLLABLE ".toList
  if !pre.isPrefixOf cs then none
  else
    let (lead, cs) ← longestPart leadParts (cs.drop pre.length)
    let (vowel, cs) ← longestPart vowelParts cs
    let (tail, cs) ← longestPart tailParts cs
    if cs.isEmpty then some (0xAC00 + (lead * 21 + vowel) * 28 + tail) else none

/-- The character with a name; apart from syllables and ideographs capitals do not matter. -/
def characterNamed? (name : String) : Option Char := do
  let cs := name.toList
  let upper := cs.map Char.toUpper
  let wanted := (String.ofList upper).splitOn " "
  let code ←
    (syllableNamed? cs).orElse fun _ =>
    (codedName? "CJK UNIFIED IDEOGRAPH-" ideographRanges (fun _ n => n = 4 || n = 5) cs).orElse fun _ =>
    (codedNames.findSome? fun (pre, ranges) =>
      codedName? pre ranges (fun n count => count = if n < 0x10000 then 4 else 5) upper).orElse fun _ =>
    (inTable wanted alphabetNames).orElse fun _ =>
    (inTable wanted symbolNames).orElse fun _ =>
    (inTable wanted scriptNames).orElse fun _ =>
    inTable wanted pictureNames
  return Char.ofNat code

end CardPress.Text
