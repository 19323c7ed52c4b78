import CardPress.Command.Run

/-! The command line. The files that a run may read are named on standard input, one to a line. Pages and
images are not encoded: a file that the run writes tells what is in it. -/
namespace CardPress

/-- Reads a file into the tree; what cannot be read is taken for a folder. -/
def FileTree.readFile (t : FileTree) (name : String) : IO FileTree := do
  let path := Path.ofString name
  try
    let data ← IO.FS.readBinFile path.text
    return t.putFile path (.bytes data.toList)
  catch _ => return { t with folders := t.folders ++ [path.resolve] }

namespace FileContent

def description : FileContent → String
  | bytes data => s!"{data.length} bytes"
  | picture p => s!"{p.mode} {p.width} by {p.height}"
  | font => "font"
  | workbook sheets => s!"{sheets.length} sheets"
  | document pages => s!"{pages} pages"

/-- Whether a run makes files of this kind. -/
def isWritten : FileContent → Bool
  | picture _ | document _ => true
  | _ => false

end FileContent

def writeFiles (t : FileTree) : IO Unit := do
  for (path, content) in t.files do
    if content.isWritten then
      IO.FS.createDirAll path.parent.text
      IO.FS.writeFile path.text (content.description ++ "\n")

/-- What is printed, given the time that the run took. -/
def Output.line (milliseconds : Nat) : Output → String
  | text s => s
  | timing =>
    let seconds := Fixed.text 2 (Float.ofNat milliseconds / 1000.0)
    s!"Timing: render={seconds}s total={seconds}s\n"

def Ending.report : Ending → IO UInt32
  | finished status | dismissed status => return UInt32.ofNat status
  | failed f => do
    IO.eprintln f.message
    return 1

end CardPress

def main (words : List String) : IO UInt32 := do
  let names := (← (← IO.getStdin).readToEnd).splitOn "\n"
  let tree ← (names.filter (· != "")).foldlM CardPress.FileTree.readFile ({} : CardPress.FileTree)
  let start ← IO.monoMsNow
  let e ← pure (CardPress.Run.execute tree words)
  let time := (← IO.monoMsNow) - start
  for o in e.output do
    IO.print (o.line time)
  for w in e.warnings do
    IO.eprintln ("WARNING: " ++ w.message)
  IO.eprint e.errorOutput
  CardPress.writeFiles e.tree
  e.ending.report
