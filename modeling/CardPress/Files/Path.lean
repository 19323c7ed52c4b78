import CardPress.Text.Case

/-! Paths by their parts, and the parts of file names. -/
namespace CardPress

/-- The parts of a path, from the outermost folder on. -/
abbrev Path := List String

namespace Path

/-- The parts of text between slashes; `part` is the part being read. -/
def splitSlashes (part : List Char) : List Char → List (List Char)
  | [] => [part]
  | c :: cs => if c = '/' then part :: splitSlashes [] cs else splitSlashes (part ++ [c]) cs

/-- What stands before the parts of a path that does not start at the folder at hand. -/
def roots : List String := ["/", "//"]

/-- The root that text begins with; three slashes and more are one. -/
def rootOf : List Char → Path
  | '/' :: '/' :: '/' :: _ => ["/"]
  | '/' :: '/' :: _ => ["//"]
  | '/' :: _ => ["/"]
  | _ => []

/-- A path as it is written; empty parts and single dots count for nothing. -/
def ofString (s : String) : Path :=
  let parts := (splitSlashes [] s.toList).map String.ofList
  rootOf s.toList ++ parts.filter fun part => part != "" && part != "."

def text (p : Path) : String :=
  match p with
  | [] => "."
  | first :: rest =>
    if roots.contains first then first ++ String.intercalate "/" rest else String.intercalate "/" p

/-- The path with each step upward taken back as far as it can be; `above` holds the parts before, the
last one first. -/
def resolveFrom (above : List String) : Path → Path
  | [] => above.reverse
  | part :: rest =>
    if part != ".." then resolveFrom (part :: above) rest
    else
      match above with
      | [] => resolveFrom [".."] rest
      | last :: before =>
        if last = ".." then resolveFrom (".." :: above) rest
        else if roots.contains last then resolveFrom above rest
        else resolveFrom before rest

def resolve (p : Path) : Path := resolveFrom [] p

def name (p : Path) : String := p.getLastD ""

def parent (p : Path) : Path := p.dropLast

/-- A file name before and from its last dot on. A dot at either end of a name parts nothing. -/
def splitName (name : String) : String × String :=
  let cs := name.toList.reverse
  let ending := cs.takeWhile (· != '.')
  let rest := cs.dropWhile (· != '.')
  if ending.isEmpty || rest.length < 2 then (name, "")
  else (String.ofList rest.tail.reverse, String.ofList ('.' :: ending.reverse))

def stem (p : Path) : String := (splitName p.name).1

def ending (p : Path) : String := (splitName p.name).2

/-- The ending of the file name in lower case. -/
def kind (p : Path) : String := Text.lower p.ending

def withoutEnding (p : Path) : Path := if p.isEmpty then p else p.parent ++ [p.stem]

end Path

end CardPress
