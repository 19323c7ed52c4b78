import CardPress.Failure
import CardPress.Files.Path
import CardPress.Table.Cell
import CardPress.Text.Utf8
import CardPress.Typeset

/-! Files and folders: what a run reads, and what it leaves behind. -/
namespace CardPress

/-- What is in a file. Pictures, fonts, workbooks and documents stand for themselves and not for
their bytes. -/
inductive FileContent where
  | bytes (data : List UInt8)
  | picture (p : Picture)
  | font
  | workbook (sheets : List (List (List Cell)))
  | document (pages : Nat)

/-- Folders are there by themselves or by what is in them. -/
structure FileTree where
  files : List (Path × FileContent) := []
  folders : List Path := []

namespace FileTree

/-- Whether a path lies below another. -/
def isBelow (folder path : Path) : Bool :=
  folder.isPrefixOf path && decide (folder.length < path.length)

def file? (t : FileTree) (p : Path) : Option FileContent := t.files.lookup p.resolve

def isFile (t : FileTree) (p : Path) : Bool := (t.file? p).isSome

def paths (t : FileTree) : List Path := t.files.map Prod.fst ++ t.folders

def isFolder (t : FileTree) (p : Path) : Bool :=
  let p := p.resolve
  p.isEmpty || t.folders.contains p || t.paths.any (isBelow p)

/-- Whether a part of the path before its last is a file. -/
def passesFile (t : FileTree) (p : Path) : Bool :=
  t.files.any fun (q, _) => isBelow q p.resolve

/-- Puts a path in front of the first that is not before it. -/
def insert (p : Path) : List Path → List Path
  | [] => [p]
  | q :: rest => if q < p then q :: insert p rest else p :: q :: rest

def sorted (ps : List Path) : List Path := ps.foldr insert []

/-- What stands directly in a folder, in order of names. -/
def children (t : FileTree) (folder : Path) : List Path :=
  let inner := folder.resolve
  let names := (t.paths.filter (isBelow inner)).filterMap fun p => p[inner.length]?
  sorted (names.eraseDups.map fun name => folder ++ [name])

/-- The files anywhere below a folder, in order of their parts. -/
def filesBelow (t : FileTree) (folder : Path) : List Path :=
  let inner := folder.resolve
  sorted (((t.files.map Prod.fst).filter (isBelow inner)).map fun p => folder ++ p.drop inner.length)

/-- Why there is no file at a path. -/
def absence (t : FileTree) (p : Path) : Failure :=
  .fault (.file (if t.isFolder p then .isFolder else if t.passesFile p then .notFolder else .missing))

def readBytes (t : FileTree) (p : Path) : Except Failure (List UInt8) :=
  match t.file? p with
  | some (.bytes data) => .ok data
  | some _ => .ok []
  | none => .error (t.absence p)

/-- The longest name that a file can have, in bytes; it is written under a longer one at first. -/
def maxNameBytes : Nat := 255 - 14

/-- Makes the folder at a path and those around it. -/
def makeFolder (t : FileTree) (p : Path) : Except Failure FileTree :=
  let p := p.resolve
  if t.isFile p then .error (.fault (.file .exists))
  else if t.passesFile p then .error (.fault (.file .notFolder))
  else if p.any fun part => decide (255 < part.utf8ByteSize) then .error (.fault (.file .nameTooLong))
  else .ok (if t.isFolder p then t else { t with folders := t.folders ++ [p] })

def putFile (t : FileTree) (p : Path) (content : FileContent) : FileTree :=
  { t with files := t.files.filter (fun (q, _) => q != p.resolve) ++ [(p.resolve, content)] }

/-- Writes a file in one step, making the folders that it needs; nothing is left of a file that
cannot be written. -/
def write (t : FileTree) (p : Path) (content : FileContent) : Except Failure Unit × FileTree :=
  match t.makeFolder p.parent with
  | .error f => (.error f, t)
  | .ok made =>
    if maxNameBytes < p.name.utf8ByteSize then (.error (.fault (.file .nameTooLong)), made)
    else if made.isFolder p then (.error (.fault (.file .isFolder)), made)
    else (.ok (), made.putFile p content)

end FileTree

end CardPress
