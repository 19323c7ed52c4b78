/-! Tables as text: fields between commas, with quotes around what would break them. -/
namespace CardPress.Csv

/-- Where in a row the next character stands. `returned` is the start of a row behind a carriage
return, and `quoteSeen` is behind a quote in a quoted field, which ends unless a second one follows. -/
inductive Place where
  | rowStart
  | returned
  | fieldStart
  | plain
  | quoted
  | quoteSeen
  deriving DecidableEq, Repr

def Place.isRowStart : Place → Bool
  | rowStart | returned => true
  | _ => false

/-- What a character does to the row that is being read. -/
inductive Effect where
  | skip (place : Place)
  | put (place : Place)
  | endField
  | endRow (place : Place)

/-- The effect of a character outside of quotes; `start` at the start of a field, where a quote opens
a quoted field and spaces are left out. -/
def unquoted (start : Bool) (c : Char) : Effect :=
  if c = '\n' then .endRow .rowStart
  else if c = '\r' then .endRow .returned
  else if c = ',' then .endField
  else if start && c = '"' then .skip .quoted
  else if start && c = ' ' then .skip .fieldStart
  else .put .plain

def effect (place : Place) (c : Char) : Effect :=
  match place with
  | .rowStart | .fieldStart => unquoted true c
  | .returned => if c = '\n' then .skip .rowStart else unquoted true c
  | .plain => unquoted false c
  | .quoted => if c = '"' then .skip .quoteSeen else .put .quoted
  | .quoteSeen => if c = '"' then .put .quoted else unquoted false c

/-- What was read of a row: the fields that are done and the characters of the next one, all in
reverse, and how many more of them may come. -/
structure Partial where
  fields : List String := []
  field : List Char := []
  room : Nat := 131072

namespace Partial

def endField (p : Partial) : Partial := { fields := String.ofList p.field.reverse :: p.fields }

/-- All fields, the one that is being read among them unless the row has just begun. -/
def row (p : Partial) (place : Place) : List String :=
  if place.isRowStart then p.fields.reverse else p.endField.fields.reverse

end Partial

/-- The rows of text, unless a field is too long. -/
def rowsFrom (place : Place) (p : Partial) : List Char → Option (List (List String))
  | [] => some (if place.isRowStart then [] else [p.row place])
  | c :: cs =>
    match effect place c with
    | .skip place => rowsFrom place p cs
    | .put place =>
      match p.room with
      | 0 => none
      | room + 1 => rowsFrom place { p with field := c :: p.field, room } cs
    | .endField => rowsFrom .fieldStart p.endField cs
    | .endRow next => (rowsFrom next {} cs).map (p.row place :: ·)

def rows? (s : String) : Option (List (List String)) := rowsFrom .rowStart {} s.toList

end CardPress.Csv
