import CardPress.Command.Arguments

/-! What the program says about its command line. -/
namespace CardPress.Usage

def program : String := "card-sheet-renderer"

def unlines (lines : List String) : String := String.join (lines.map (· ++ "\n"))

def usageLines : List String := [
  "usage: card-sheet-renderer [-h] -o OUTPUT_DIR [-p] [-P] [-f] [-F]",
  "                           [-s SHEET_TYPE] [-n DECK_NAME] [-l SELECTION_PATH]",
  "                           [-c CARD_IDS] [-k] [-j JOBS] [-v]",
  "                           project_dir"]

def helpLines : List String := [
  "",
  "Render card layouts to PNG images, PDFs and print sheets.",
  "",
  "positional arguments:",
  "  project_dir           Project directory (project.xml, layouts/, data/,",
  "                        images/).",
  "",
  "options:",
  "  -h, --help            show this help message and exit",
  "",
  "Output:",
  "  -o OUTPUT_DIR, --output OUTPUT_DIR",
  "                        Output directory.",
  "  -p, --png             Write one PNG per card.",
  "  -P, --no-png          Skip PNG output.",
  "  -f, --pdf             Write one PDF per card.",
  "  -F, --no-pdf          Skip per-card PDFs.",
  "  -s SHEET_TYPE, --sheet SHEET_TYPE",
  "                        Sheet type for a printable deck PDF.",
  "  -n DECK_NAME, --deck-name DECK_NAME",
  "                        Deck PDF file stem.",
  "",
  "Selection:",
  "  -l SELECTION_PATH, --selection SELECTION_PATH",
  "                        Selection list file.",
  "  -c CARD_IDS, --card CARD_IDS",
  "                        Card id to render (repeatable).",
  "",
  "Behavior:",
  "  -k, --keep-going      Skip failing cards and report them at the end.",
  "  -j JOBS, --jobs JOBS  Number of render threads.",
  "  -v, --verbose         Enable debug logging."]

/-- The help text. -/
def help : String := unlines (usageLines ++ helpLines)

/-- The last line of what is said about a refused command line. -/
def refusal (cause : ArgumentCause) : String := program ++ ": error: " ++ cause.message

end CardPress.Usage

namespace CardPress.Dismissal

/-- Help is no failure. -/
def status : Dismissal → Nat
  | help => 0
  | refused _ => 2

def standardOutput : Dismissal → String
  | help => Usage.help
  | refused _ => ""

def standardError : Dismissal → String
  | help => ""
  | refused cause => Usage.unlines (Usage.usageLines ++ [Usage.refusal cause])

end CardPress.Dismissal
