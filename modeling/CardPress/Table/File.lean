import CardPress.Card
import CardPress.Files.Tree
import CardPress.Report
import CardPress.Table.Cell
import CardPress.Table.Csv

/-! Tables with a header: rows by the names of their columns, the cards that they make, and the cards of
the data files of a project. -/
namespace CardPress

namespace Table

/-- The cells of a row under the names of their columns; a column without a name is left out, a
missing cell is empty, and of two columns of one name the last counts. -/
def named (names values : List String) : Named String :=
  Named.ofList ((names.zipIdx.filter fun (name, _) => name != "").map fun (name, k) =>
    (name, values.getD k ""))

/-- The rows that are not blank. -/
def rows (header : List Cell) (body : List (List Cell)) : List (Named String) :=
  let names := header.map Cell.content
  ((body.map fun row => row.map Cell.content).filter fun values => values.any (· != "")).map
    (named names)

end Table

namespace Card

/-- The id of a row that gives none: its number, with the name of its file before it. -/
def numberedId (stem : Option String) (number : Nat) : String :=
  let digits := toString number
  let padded := String.ofList (List.replicate (4 - digits.length) '0') ++ digits
  match stem with
  | none => padded
  | some s => if s = "" then padded else s ++ "_" ++ padded

def ofRow (stem : Option String) (number : Nat) (row : Named String) : Card :=
  let id := Text.trim ((row.get? "id").getD "")
  ⟨if id = "" then numberedId stem number else id,
    Named.ofList (row.entries.filter fun (name, _) => name != "id")⟩

/-- One card for each row, numbered from one. -/
def ofRows (stem : Option String) (rows : List (Named String)) : List Card :=
  rows.zipIdx.map fun (row, k) => ofRow stem (k + 1) row

/-- The cards of a table whose first row is the header. -/
def ofTable (stem : String) (header : List Cell) (body : List (List Cell)) : List Card :=
  ofRows (some stem) (Table.rows header body)

def ofCsv (t : FileTree) (p : Path) : Report (List Card) := do
  let bytes ← t.readBytes p
  match Text.Utf8.decodeMarked bytes with
  | .error f => throw (.fault (.undecodable f.message))
  | .ok text =>
    match Csv.rows? text with
    | none => throw (.fault .longField)
    | some [] => do
      warn (.noHeaderLine p.text)
      return []
    | some (header :: body) =>
      return ofTable p.stem (header.map Cell.text) (body.map fun row => row.map Cell.text)

/-- Only the first sheet of a workbook counts; one blank row is no header. -/
def ofWorkbook (t : FileTree) (p : Path) : Report (List Card) := do
  match t.file? p with
  | some (.workbook []) => throw (.problem (.emptyWorkbook p.text))
  | some (.workbook (sheet :: _)) =>
    match sheet.map fun row => row.map Cell.stored with
    | [] | [[]] => do
      warn (.noHeaderRow p.text)
      return []
    | header :: body => return ofTable p.stem header body
  | some _ => throw (.fault .notWorkbook)
  | none => throw (t.absence p)

/-- The cards of a data file, read as the ending of its name says. -/
def ofFile (t : FileTree) (p : Path) : Report (List Card) :=
  if p.kind = ".csv" then ofCsv t p
  else if p.kind = ".xlsx" || p.kind = ".xlsm" then ofWorkbook t p
  else throw (.configuration (.unsupportedDataFile p.text))

end Card

end CardPress
