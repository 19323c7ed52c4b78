/-! The options of the command line and their spellings. -/
namespace CardPress

inductive CommandOption where
  | help
  | output
  | png
  | noPng
  | pdf
  | noPdf
  | sheet
  | deckName
  | selection
  | card
  | keepGoing
  | jobs
  | verbose
  deriving DecidableEq, Repr

namespace CommandOption

def all : List CommandOption :=
  [help, output, png, noPng, pdf, noPdf, sheet, deckName, selection, card, keepGoing, jobs, verbose]

def letter : CommandOption → Char
  | help => 'h'
  | output => 'o'
  | png => 'p'
  | noPng => 'P'
  | pdf => 'f'
  | noPdf => 'F'
  | sheet => 's'
  | deckName => 'n'
  | selection => 'l'
  | card => 'c'
  | keepGoing => 'k'
  | jobs => 'j'
  | verbose => 'v'

def word : CommandOption → String
  | help => "help"
  | output => "output"
  | png => "png"
  | noPng => "no-png"
  | pdf => "pdf"
  | noPdf => "no-pdf"
  | sheet => "sheet"
  | deckName => "deck-name"
  | selection => "selection"
  | card => "card"
  | keepGoing => "keep-going"
  | jobs => "jobs"
  | verbose => "verbose"

def takesValue : CommandOption → Bool
  | output | sheet | deckName | selection | card | jobs => true
  | _ => false

def short (o : CommandOption) : List Char := ['-', o.letter]

def long (o : CommandOption) : List Char := '-' :: '-' :: o.word.toList

/-- Both spellings, as messages give them. -/
def spellings (o : CommandOption) : String := String.ofList (o.short ++ '/' :: o.long)

def ofLetter? (c : Char) : Option CommandOption := all.find? (·.letter = c)

/-- The option that is spelled so, and whether by its letter. -/
def ofSpelling? (cs : List Char) : Option (CommandOption × Bool) :=
  match all.find? (·.short = cs) with
  | some o => some (o, true)
  | none => (all.find? (·.long = cs)).map ((·, false))

/-- The options whose long spelling begins so. -/
def beginning (cs : List Char) : List CommandOption := all.filter fun o => cs.isPrefixOf o.long

end CommandOption

end CardPress
