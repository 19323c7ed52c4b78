import CardPress.Named
import CardPress.Text.Blank

/-! Cards: one record of a deck each, and what a template sees of it. -/
namespace CardPress

/-- What a template is given by name: texts, and texts under names of their own. -/
inductive Template.Given where
  | text (s : String)
  | entries (es : List (String × String))
  deriving DecidableEq, Repr

structure Card where
  id : String
  fields : Named String

namespace Card

/-- The layout that a card asks for. -/
def layoutName (card : Card) : Option String :=
  let name := Text.trim ((card.fields.get? "layout").getD "")
  if name = "" then none else some name

/-- The fields together with the id. -/
def identified (card : Card) : Named String := card.fields.put "id" card.id

/-- What a template sees: the fields, the id, and all of them once more under one name. -/
def context (card : Card) : List (String × Template.Given) :=
  let inner := card.identified.entries
  Named.putEntry "card" (.entries inner) (inner.map fun (name, value) => (name, .text value))

end Card

end CardPress
