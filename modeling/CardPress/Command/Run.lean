import CardPress.Command.Usage
import CardPress.FileName
import CardPress.Impose
import CardPress.Number.Fixed
import CardPress.Number.FloatShape
import CardPress.Project.Folder
import CardPress.Selection

/-! A run of the program: from the words of the command line and the files that are there to what is
printed, a progress bar with it, and the files that are left. -/
namespace CardPress.Progress

/-- How many signs the bar has. -/
def width : Nat := 20

/-- The nearest whole number, a half to the even neighbour. -/
def nearest (x : Float) : Except ArithmeticFault Int := FloatDivision.toWhole (Fixed.round 0 x)

def percent (current total : Int) : Except ArithmeticFault Int :=
  let part := nearestQuotient (current < 0) current.natAbs total.toNat
  if part.isInf then .error .quotientTooLarge else nearest (part * 100.0)

/-- How many signs of the bar are filled. -/
def filled (percent : Int) : Except ArithmeticFault Int :=
  let part := nearestWhole (width * percent)
  if part.isInf then .error .wholeTooLarge else nearest (part / 100.0)

/-- More signs than this are not kept at once. -/
def room : Int := Nat.pow 2 34

/-- A sign so many times; a negative number counts as none. -/
def repeated (count : Int) (c : Char) : Except ArithmeticFault String :=
  if count < -(Nat.pow 2 63 : Int) || (Nat.pow 2 63 : Int) ≤ count then .error .countTooLarge
  else if room < count then .error .noRoom
  else .ok (String.ofList (List.replicate count.toNat c))

/-- The bar for `current` of `total` steps; the next one is drawn over it until all are done. -/
def bar (label : String) (current total : Int) : Except ArithmeticFault String := do
  if total ≤ 0 then return ""
  else
    let percent ← percent current total
    let filled ← filled percent
    let signs := (← repeated filled '#') ++ (← repeated (width - filled) '-')
    let ending := if total ≤ current then "\n" else "\r"
    return s!"{label} [{signs}] {current}/{total} ({percent}%)" ++ ending

end CardPress.Progress

namespace CardPress

/-- What is printed; the time that a run takes is known only where it is run. -/
inductive Output where
  | text (s : String)
  | timing
  deriving DecidableEq, Repr

/-- How a run ends: with a status, before anything is done, or by a fault. -/
inductive Ending where
  | finished (status : Nat)
  | dismissed (status : Nat)
  | failed (f : Failure)
  deriving DecidableEq, Repr

/-- What a run has come to. -/
structure Progression where
  tree : FileTree
  output : List Output := []
  warnings : List Warning := []

/-- What was done before a failure stays done. -/
abbrev Run := ExceptT Failure (StateM Progression)

/-- The outcome of a run. -/
structure Execution where
  ending : Ending
  output : List Output
  errorOutput : String
  warnings : List Warning
  tree : FileTree

namespace Run

def put (o : Output) : Run Unit := modify fun p => { p with output := p.output ++ [o] }

def say (line : String) : Run Unit := put (.text (line ++ "\n"))

def note (warnings : List Warning) : Run Unit :=
  modify fun p => { p with warnings := p.warnings ++ warnings }

def report {α : Type} (r : Report α) : Run α := do
  let (result, warnings) := r.outcome
  note warnings
  result

def write (path : Path) (content : FileContent) : Run Unit := do
  let p ← get
  let (result, tree) := p.tree.write path content
  set { p with tree }
  result

def yesNo (b : Bool) : String := if b then "True" else "False"

/-- Tells what is going to be done. -/
def announce (s : RunSettings) (sheetType : Option String) : Run Unit := do
  say "Card sheet renderer"
  say s!"Project: {s.projectFolder}"
  say s!"Output directory: {s.outputFolder}"
  say s!"PNG output: {yesNo s.writePng}"
  say s!"PDF output: {yesNo s.writePdf}"
  match sheetType with
  | some name => say s!"Sheet type: {name}"
  | none => pure ()

/-- The ids that are asked for, in order and with repeats: those of a list, those on the command line,
or else all. -/
def wanted (s : RunSettings) (project : Project Float) (tree : FileTree) :
    Except Failure (List String) :=
  match s.selectionPath, s.cardIds with
  | some path, _ => do
    let bytes ← tree.readBytes (Path.ofString path)
    match Text.Utf8.decode bytes with
    | .ok text => Selection.parse text
    | .error f => throw (.fault (.undecodable f.message))
  | none, some (id :: more) => .ok (id :: more)
  | none, _ => .ok project.cards.names

/-- The ids of the cards to print; there must be a card for each. -/
def select (s : RunSettings) (project : Project Float) : Run (List String) := do
  let ids ← wanted s project (← get).tree
  ids.forM fun id => do
    let _ ← project.card id
  return ids

/-- The sheet of a type, if one is asked for. -/
def sheetFor (project : Project Float) : Option String → Run (Option (Sheet Float))
  | none => return none
  | some name => do
    let t ← project.sheetType name
    let sheet ← report t.compile
    say s!"Cards per sheet: {sheet.slots.length}"
    return some sheet

/-- What a run has to do, once its project is read. -/
structure Task where
  project : Project Float
  sheet : Option (Sheet Float)
  ids : List String

/-- All that is done before cards are rendered. -/
def prepare (s : RunSettings) : Run Task := do
  let sheetType := s.sheetType.filter (· != "")
  announce s sheetType
  let project : Project Float ← report (Project.load (← get).tree (Path.ofString s.projectFolder))
  say s!"Layouts loaded: {project.layouts.size}"
  say s!"Cards loaded: {project.cards.size}"
  let sheet ← sheetFor project sheetType
  let ids ← select s project
  say s!"Cards selected: {ids.length} ({ids.eraseDups.length} unique)"
  return ⟨project, sheet, ids⟩

/-- Renders each card once and tells the progress. -/
def render (s : RunSettings) (project : Project Float) (ids : List String) :
    Run (RenderResult Float) := do
  let cards ← ids.eraseDups.mapM fun id => do return ← project.card id
  let photos := Project.photos (← get).tree
  let fonts := project.fonts.foldl FontRegistry.add []
  let (failure, result, state) := Render.cards ⟨project, photos⟩ s.keepGoing cards { fonts }
  note state.warnings
  result.progress.forM fun (done, total) => do
    match Progress.bar "Rendering" done total with
    | .ok text => put (.text text)
    | .error f => throw (.arithmetic f)
  match failure with
  | some f => throw f
  | none => return result

/-- The image of a card's page at the resolution of its layout; pixels that it touches count. -/
def image (c : RenderedCard Float) : Picture :=
  let pixels (points : Float) : Nat :=
    let size := (points * (c.geometry.dpi / 72.0) - 0.001).ceil
    ((FloatDivision.toWhole size).toOption.getD 0).toNat
  ⟨pixels c.page.width, pixels c.page.height, "RGBA"⟩

/-- Writes the files of the cards. -/
def writeCards (s : RunSettings) (out : Path) (cards : List (RenderedCard Float)) : Run Unit := do
  let stems ← report (FileName.stems (cards.map (·.id)))
  cards.forM fun c => do
    let stem := (stems.get? c.id).getD ""
    if s.writePng then write (out ++ ["png", stem ++ ".png"]) (.picture (image c))
    if s.writePdf then write (out ++ ["pdf", stem ++ ".pdf"]) (.document 1)

/-- Imposes cards on sheets and writes the deck, if there is one. -/
def impose (sheet : Sheet Float) (m : Metadata) (path : Path) (cards : List (RenderedCard Float)) :
    Run (Imposed Float) := do
  let imposed ← report (Impose.cards .float sheet m path.text cards)
  match imposed.deck with
  | none => pure ()
  | some deck => write path (.document deck.pages.length)
  return imposed

/-- The cards of a selection that were rendered, in its order and as often as it names them. -/
def inOrder (ids : List String) (cards : List (RenderedCard Float)) : List (RenderedCard Float) :=
  let byId := Named.ofList (cards.map fun c => (c.id, c))
  ids.filterMap byId.get?

/-- Puts the cards on sheets, in the order of the selection, and writes the deck. -/
def writeDeck (s : RunSettings) (sheet : Sheet Float) (m : Metadata) (out : Path)
    (ids : List String) (cards : List (RenderedCard Float)) : Run Unit := do
  let path := out ++ [FileName.sanitize s.deckName ++ ".pdf"]
  let imposed ← impose sheet m path (inOrder ids cards)
  say s!"Sheet pages written: {imposed.pages}"
  if imposed.deck.isSome then say s!"Deck PDF: {path.text}"

/-- Writes all files. -/
def deliver (s : RunSettings) (task : Task) (cards : List (RenderedCard Float)) : Run Unit := do
  let out := Path.ofString s.outputFolder
  writeCards s out cards
  say s!"Cards rendered: {cards.length}"
  match task.sheet with
  | none => pure ()
  | some sheet => writeDeck s sheet task.project.metadata out task.ids cards

/-- Tells of the cards that failed; the status is zero if there are none. -/
def conclude (failures : List RenderFailure) : Run Nat := do
  put .timing
  if failures.isEmpty then return 0
  say s!"Cards failed: {failures.length}"
  failures.forM fun f => say s!"  {f.id}: {f.problem.message}"
  return 1

/-- The whole run; its status tells whether cards failed. -/
def pipeline (s : RunSettings) : Run Nat := do
  let task ← prepare s
  let result ← render s task.project task.ids
  deliver s task result.rendered
  conclude result.failures

/-- Runs the program. A problem of the deck is told of and ends the run with status 2. -/
def perform (s : RunSettings) (tree : FileTree) : Execution :=
  let (result, p) := (pipeline s).run.run { tree }
  let ended (ending : Ending) (errorOutput : String) : Execution :=
    ⟨ending, p.output, errorOutput, p.warnings, p.tree⟩
  match result with
  | .ok status => ended (.finished status) ""
  | .error (.problem problem) => ended (.finished 2) ("Error: " ++ problem.message ++ "\n")
  | .error (.fault fault) => ended (.failed (.fault fault)) ""

/-- Runs the program on the words of its command line. -/
def execute (tree : FileTree) (words : List String) : Execution :=
  match RunSettings.ofArguments words with
  | .error d => ⟨.dismissed d.status, [.text d.standardOutput], d.standardError, [], tree⟩
  | .ok settings => perform settings tree

end Run

end CardPress
