import CardPress.Layout
import CardPress.Report
import CardPress.Sheet.Type

/-! Projects: everything that a deck is made from. -/
namespace CardPress

/-- What is written into each document. -/
structure Metadata where
  title : Option String := none
  author : Option String := none
  subject : Option String := none
  keywords : Option String := none

/-- The program that documents are made with. -/
def Metadata.creator : String := "card-sheet-renderer v0.3.0"

/-- Layouts go by their own names, cards by their ids, and images by names that lead to files. -/
structure Project (α : Type) where
  layouts : Named (Layout α) := .empty
  cards : Named Card := .empty
  colors : Named Color := .empty
  styles : Named (List (TextStyle α)) := .empty
  images : Named String := .empty
  sheetTypes : Named (SheetType α) := .empty
  fonts : List String := []
  metadata : Metadata := {}

namespace Project

variable {α : Type}

/-- Adds cards up to the first whose id is taken; `source` tells where they come from. -/
def addCards (p : Project α) (source : String) : List Card → Project α × Option Failure
  | [] => (p, none)
  | card :: rest =>
    if p.cards.contains card.id then (p, some (.configuration (.duplicateCard card.id source)))
    else addCards { p with cards := p.cards.put card.id card } source rest

def addLayout (p : Project α) (l : Layout α) : Project α :=
  { p with layouts := p.layouts.put l.name l }

def card (p : Project α) (id : String) : Except Failure Card :=
  match p.cards.get? id with
  | some c => .ok c
  | none => .error (.problem (.noSuchCard id))

def layoutFor (p : Project α) (card : Card) : Except Failure (Layout α) :=
  let name := card.layoutName.getD "default"
  match p.layouts.get? name with
  | some l => .ok l
  | none => .error (.problem (.noLayout name card.id))

/-- The colour of a name: one of the project's, or one that every deck has. -/
def colorNamed (p : Project α) (name : String) : Except Failure Color :=
  let key := Color.canonicalName name
  match (p.colors.get? key).or (Color.builtin? key) with
  | some c => .ok c
  | none => .error (.problem (.unknownColor name))

def resolveColor (p : Project α) (card : Card) : ColorResolver
  | .fixed c => .ok c
  | .named name => do
    let text ← name.render card
    p.colorNamed text

/-- The styles of a name: those of the project, or those that every deck has. -/
def styleSet? (p : Project α) (name : String) : Option (List (TextStyle α)) :=
  (p.styles.get? name).or (TextStyle.builtins.lookup name)

def sheetType (p : Project α) (name : String) : Except Failure (SheetType α) :=
  match p.sheetTypes.get? name with
  | some t => .ok t
  | none =>
    let known := p.sheetTypes.names.mergeSort fun a b => decide (a ≤ b)
    .error (.configuration (.unknownSheetType name known))

end Project

end CardPress
