import CardPress.Proofs.Draw.Runs
import CardPress.Proofs.Style.Cascade

/-! Marked-up text read tag by tag: the style of each run is the cascade of the tags that are open
there. -/
namespace CardPress

namespace Instruction

def isShown : Instruction → Bool
  | text _ | placeholder _ => true
  | push _ | pop _ => false

/-- The tags that are open behind an instruction, the outermost first. A closing tag closes the
innermost one whatever its name. -/
def tagsAfter (opened : List String) : Instruction → List String
  | push tag => opened ++ [tag]
  | pop _ => opened.dropLast
  | text _ | placeholder _ => opened

theorem tagsAfter_of_isShown {i : Instruction} (h : i.isShown) (opened : List String) :
    i.tagsAfter opened = opened := by
  cases i <;> simp_all [isShown, tagsAfter]

end Instruction

namespace Markup

def tagsBehind (opened : List String) (is : List Instruction) : List String :=
  is.foldl Instruction.tagsAfter opened

theorem tagsBehind_append (opened : List String) (is js : List Instruction) :
    tagsBehind opened (is ++ js) = tagsBehind (tagsBehind opened is) js := List.foldl_append

/-- Every tag in it is closed in it, and closes one that was opened in it. -/
inductive Balanced : List Instruction → Prop where
  | nil : Balanced []
  | shown {i : Instruction} (h : i.isShown) : Balanced [i]
  | tagged {is : List Instruction} (opening closing : String) (h : Balanced is) :
      Balanced (.push opening :: is ++ [.pop closing])
  | append {is js : List Instruction} (h : Balanced is) (h' : Balanced js) : Balanced (is ++ js)

theorem Balanced.tagsBehind {is : List Instruction} (h : Balanced is) (opened : List String) :
    tagsBehind opened is = opened := by
  induction h generalizing opened with
  | nil => rfl
  | shown h => exact Instruction.tagsAfter_of_isShown h opened
  | @tagged is opening closing _ ih =>
    rw [tagsBehind_append]
    change (Markup.tagsBehind (opened ++ [opening]) is).dropLast = opened
    rw [ih, List.dropLast_concat]
  | append _ _ ih ih' => rw [tagsBehind_append, ih, ih']

end Markup

open Markup

variable {α : Type} {scene : Scene α} {store : ImageStore} {base style : FlatTextStyle α}
  {i : Instruction} {is rest : List Instruction} {tag : String} {opened : List String}
  {x : TextStyle α} {styles : List (FlatTextStyle α)}

namespace Scene

/-- What a tag lays over the style outside it: its styles, unless one of their conditions fails. -/
def tagStyles (scene : Scene α) (tag : String) : List (TextStyle α) :=
  match scene.project.styleSet? tag with
  | none => []
  | some styles =>
    if (styles.filterMap TextStyle.condition?).all (Condition.isMet scene.card) then styles else []

def styleIn (scene : Scene α) (base : FlatTextStyle α) (opened : List String) : FlatTextStyle α :=
  base.apply (opened.flatMap scene.tagStyles)

/-- The text and the icon that stand for an instruction. -/
def content (scene : Scene α) (store : ImageStore) :
    Instruction → Except Failure (String × Option Picture)
  | .text s => .ok (s, none)
  | .placeholder name => scene.placeholderContent store name
  | .push _ | .pop _ => .ok ("", none)

/-- The colours of a style have a meaning on the card. -/
def Colors (scene : Scene α) (style : FlatTextStyle α) : Prop :=
  ∀ ref, style.foreground = some ref ∨ style.background = some ref →
    ∃ color, scene.project.resolveColor scene.card ref = .ok color

/-- No condition and no colour of a tag fails to be decided on the card. -/
structure Decides (scene : Scene α) (tag : String) : Prop where
  conditions : ∀ styles, scene.project.styleSet? tag = some styles →
    ∀ c, .onlyIf c ∈ styles → ∃ b, c.holds scene.card = .ok b
  colors : ∀ styles, scene.project.styleSet? tag = some styles →
    ∀ ref, .foreground ref ∈ styles ∨ .background ref ∈ styles →
      ∃ color, scene.project.resolveColor scene.card ref = .ok color

/-- The conditions of the base style hold, and nothing that it or a tag asks for fails to be
decided. -/
structure Settled (scene : Scene α) (base : FlatTextStyle α) (is : List Instruction) : Prop where
  conditions : ∀ c ∈ base.conditions, c.holds scene.card = .ok true
  colors : scene.Colors base
  tags : ∀ tag, .push tag ∈ is → scene.Decides tag

/-- The styles inside the open tags, the innermost first. -/
inductive Stacked (scene : Scene α) (base : FlatTextStyle α) :
    List String → List (FlatTextStyle α) → Prop where
  | nil : Stacked scene base [] []
  | push {opened : List String} {styles : List (FlatTextStyle α)} (tag : String)
      (h : Stacked scene base opened styles) :
      Stacked scene base (opened ++ [tag]) (scene.styleIn base (opened ++ [tag]) :: styles)

theorem Stacked.top (h : scene.Stacked base opened styles) :
    styles.head?.getD base = scene.styleIn base opened := by
  cases h <;> rfl

theorem Stacked.pop (h : scene.Stacked base opened styles) :
    scene.Stacked base opened.dropLast styles.tail := by
  cases h with
  | nil => exact .nil
  | push tag h => rwa [List.dropLast_concat]

end Scene

end CardPress
