import CardPress.Command.Word
import CardPress.Whole

/-! Reading a command line. -/
namespace CardPress

/-- What may be left out of a command line. -/
structure RunChoices where
  writePng : Bool := true
  writePdf : Bool := false
  sheetType : Option String := none
  deckName : String := "deck"
  selectionPath : Option String := none
  cardIds : Option (List String) := none
  keepGoing : Bool := false
  jobs : Int := 1
  verbose : Bool := false

/-- What a run is told to do. -/
structure RunSettings extends RunChoices where
  projectFolder : String
  outputFolder : String

/-- There is always someone to do the work. -/
def RunChoices.workers (c : RunChoices) : Nat := (max 1 c.jobs).toNat

/-- Why there is nothing to run. -/
inductive Dismissal where
  | help
  | refused (cause : ArgumentCause)
  deriving DecidableEq, Repr

namespace RunSettings

/-- What was read of a command line so far; `strays` are words that nothing takes. -/
structure Draft extends RunChoices where
  projectFolder : Option String := none
  outputFolder : Option String := none
  strays : List String := []

/-- The options in one word: those that are whole, the one that waits for a value, and what is left
of the word. -/
structure Cluster where
  whole : List (CommandOption × String) := []
  waiting : Option CommandOption := none
  left : List String := []

namespace Cluster

def addFlag (o : CommandOption) (c : Cluster) : Cluster := { c with whole := (o, "") :: c.whole }

def single (o : CommandOption) : Cluster :=
  if o.takesValue then { waiting := some o } else { whole := [(o, "")] }

/-- The options of a word that has text joined to an option; letters may stand together. -/
def ofJoined (o : CommandOption) (isShort marked : Bool) :
    List Char → Except ArgumentCause Cluster
  | [] =>
    if o.takesValue then .ok { whole := [(o, "")] } else .error (.unusedValue o "")
  | c :: more =>
    let text := String.ofList (c :: more)
    if o.takesValue then .ok { whole := [(o, text)] }
    else if !isShort || marked || c = '-' then .error (.unusedValue o text)
    else
      match CommandOption.ofLetter? c with
      | none => .ok { whole := [(o, "")], left := ["-" ++ text] }
      | some next =>
        match more with
        | [] => .ok ((single next).addFlag o)
        | '=' :: value => (ofJoined next true true value).map (addFlag o)
        | d :: value => (ofJoined next true false (d :: value)).map (addFlag o)

end Cluster

namespace Draft

/-- Takes in an option with its value; flags have none. -/
def take (d : Draft) (o : CommandOption) (value : String) : Except Dismissal Draft :=
  match o with
  | .help => .error .help
  | .output => .ok { d with outputFolder := some value }
  | .png => .ok { d with writePng := true }
  | .noPng => .ok { d with writePng := false }
  | .pdf => .ok { d with writePdf := true }
  | .noPdf => .ok { d with writePdf := false }
  | .sheet => .ok { d with sheetType := some value }
  | .deckName => .ok { d with deckName := value }
  | .selection => .ok { d with selectionPath := some value }
  | .card => .ok { d with cardIds := some (d.cardIds.getD [] ++ [value]) }
  | .keepGoing => .ok { d with keepGoing := true }
  | .verbose => .ok { d with verbose := true }
  | .jobs =>
    match Whole.ofString value with
    | .ok n => .ok { d with jobs := n }
    | .error _ => .error (.refused (.notWhole value))

def takeAll (d : Draft) (options : List (CommandOption × String)) : Except Dismissal Draft :=
  options.foldlM (fun d (o, value) => d.take o value) d

def stray (d : Draft) (words : List String) : Draft := { d with strays := d.strays ++ words }

/-- The first plain word names the project. -/
def takePlain (d : Draft) (s : String) : Draft :=
  if d.projectFolder.isNone then { d with projectFolder := some s } else d.stray [s]

/-- Words behind the last option: a divider before or behind the name of the project goes with it. -/
def takeLast (d : Draft) (words : List CommandWord) : Draft :=
  let written : CommandWord → String
    | .plain s | .unknown s => s
    | .divider | .option .. => "--"
  if d.projectFolder.isNone then
    match words with
    | .divider :: .plain s :: rest => (d.takePlain s).stray (rest.map written)
    | .plain s :: .divider :: rest => (d.takePlain s).stray (rest.map written)
    | .plain s :: rest => (d.takePlain s).stray (rest.map written)
    | _ => d.stray (words.map written)
  else d.stray (words.map written)

/-- The options that a word gives. -/
def cluster (o : CommandOption) (isShort : Bool) : Option Joined → Except Dismissal Cluster
  | none => .ok (.single o)
  | some joined => (Cluster.ofJoined o isShort joined.marked joined.text).mapError .refused

/-- Takes in words from left to right. -/
def takeWords (d : Draft) : List CommandWord → Except Dismissal Draft
  | [] => .ok (d.takeLast [])
  | word :: rest =>
    if !(word :: rest).any (·.isOption) then .ok (d.takeLast (word :: rest))
    else
      match word with
      | .plain s => takeWords (d.takePlain s) rest
      | .divider => takeWords (d.stray ["--"]) rest
      | .unknown s => takeWords (d.stray [s]) rest
      | .option o isShort joined => do
        let c ← cluster o isShort joined
        match c.waiting, rest with
        | none, rest => takeWords ((← d.takeAll c.whole).stray c.left) rest
        | some o, .plain s :: rest => takeWords (← (← d.takeAll c.whole).take o s) rest
        | some o, _ => throw (.refused (.noValue o))

/-- The settings, once nothing is missing and nothing is left over. -/
def finish (d : Draft) : Except Dismissal RunSettings :=
  match d.projectFolder, d.outputFolder with
  | some projectFolder, some outputFolder =>
    if d.strays.isEmpty then .ok { d with projectFolder, outputFolder }
    else .error (.refused (.unrecognized d.strays))
  | project, output =>
    let names := (if project.isNone then ["project_dir"] else [])
      ++ (if output.isNone then [CommandOption.output.spellings] else [])
    .error (.refused (.missing names))

end Draft

/-- Reads the words of a command line. -/
def ofArguments (words : List String) : Except Dismissal RunSettings := do
  let words ← (CommandWord.ofStrings words).mapError .refused
  let d ← ({} : Draft).takeWords words
  d.finish

end RunSettings

end CardPress
