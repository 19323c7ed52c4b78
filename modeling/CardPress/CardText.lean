import CardPress.Card
import CardPress.Failure
import CardPress.Template

/-! Text of a layout: plain, or a template that each card fills in. -/
namespace CardPress

structure CardText where
  source : String
  template : Option Template

namespace CardText

/-- Two texts are the same if they are written the same. -/
instance : BEq CardText := ⟨fun s t => s.source == t.source⟩

instance : Hashable CardText := ⟨fun t => hash t.source⟩

/-- Where a line starts, counted in characters; lines count from one. -/
def lineOffset (source : String) (line : Nat) : Option Nat :=
  if line = 0 then none
  else some ((((Text.linesWithEnds source).take (line - 1)).map List.length).foldr (· + ·) 0)

/-- Whether an opening mark of the template language stands in the text. -/
def hasMark : List Char → Bool
  | '{' :: c :: rest => c = '{' || c = '%' || hasMark (c :: rest)
  | _ :: rest => hasMark rest
  | [] => false

/-- Text without a mark is plain and is never read as a template. -/
def ofString (source : String) : Except Failure CardText :=
  if hasMark source.toList then
    match Template.compile source with
    | .ok t => .ok ⟨source, some t⟩
    | .error (.fault f) =>
      .error (.problem (.template (.flaw f ((lineOffset source f.line).getD 0)) source))
    | .error (.trouble t) => .error (.fault (.template t))
  else .ok ⟨source, none⟩

def isTemplate (t : CardText) : Bool := t.template.isSome

/-- The text for one card. -/
def render (t : CardText) (card : Card) : Except Failure String :=
  match t.template with
  | none => .ok t.source
  | some template =>
    (template.render card.context).mapError fun e =>
      if e.kind.isOrdinary then .problem (.template (.trouble e) t.source) else .fault (.template e)

end CardText

end CardPress
