import CardPress.Project.Folder
import CardPress.Proofs.Report
import CardPress.Proofs.Text.Words

/-! Names of colours. A name stands for the colour that was defined last under any spelling of it, and for
the colour that every deck has if none was; its spelling does not count, but for capital sigmas. -/
namespace CardPress

/-! Spellings of a name. -/

namespace Color

open Text

end Color

namespace Project

open Color Report

variable {α : Type} {e : Xml.Element} {es : List Xml.Element} {name : String} {c : Color}

/-- The element defines a colour under some spelling of the name. -/
structure Defines (e : Xml.Element) (name : String) (c : Color) : Prop where
  tag : e.tag = "color"
  named : ∃ spelling, e.get? "name" = some spelling ∧ canonicalName spelling = canonicalName name
  valued : ∃ text, e.get? "value" = some text ∧ literal? text = .ok (some c)

/-- None of the elements defines a colour under any spelling of the name. -/
def Leaves (es : List Xml.Element) (name : String) : Prop := ∀ e ∈ es, ∀ c, ¬ Defines e name c

/-- The last of the elements that define a colour of the name. -/
def DefinesLast (es : List Xml.Element) (name : String) (c : Color) : Prop :=
  ∃ before e after, es = before ++ e :: after ∧ Defines e name c ∧ Leaves after name

theorem leaves_cons : Leaves (e :: es) name ↔ (∀ c, ¬ Defines e name c) ∧ Leaves es name :=
  List.forall_mem_cons

theorem not_definesLast_nil : ¬ DefinesLast [] name c := by
  rintro ⟨before, e, after, hes, -⟩
  cases before <;> cases hes

theorem definesLast_cons :
    DefinesLast (e :: es) name c ↔ DefinesLast es name c ∨ Defines e name c ∧ Leaves es name := by
  constructor
  · rintro ⟨before, x, after, hes, hx, hafter⟩
    cases before with
    | nil =>
      cases hes
      exact .inr ⟨hx, hafter⟩
    | cons y before =>
      cases hes
      exact .inl ⟨before, x, after, rfl, hx, hafter⟩
  · rintro (⟨before, x, after, rfl, hx, hafter⟩ | ⟨he, hes⟩)
    · exact ⟨e :: before, x, after, rfl, hx, hafter⟩
    · exact ⟨[], e, es, rfl, he, hes⟩

/-- What elements do to the colours of a project: they give names the colours that they define, and leave
all others. -/
structure Recolor (es : List Xml.Element) (p q : Project α) : Prop where
  last : ∀ name c, DefinesLast es name c → q.colors.get? (canonicalName name) = some c
  left : ∀ name, Leaves es name →
    q.colors.get? (canonicalName name) = p.colors.get? (canonicalName name)

namespace Recolor

variable {p q r : Project α}

theorem nil (p : Project α) : Recolor [] p p :=
  ⟨fun _ _ h => absurd h not_definesLast_nil, fun _ _ => rfl⟩

theorem single (hdefines : ∀ name c, Defines e name c → q.colors.get? (canonicalName name) = some c)
    (hleaves : ∀ name, (∀ c, ¬ Defines e name c) →
      q.colors.get? (canonicalName name) = p.colors.get? (canonicalName name)) : Recolor [e] p q where
  last name c h := (definesLast_cons.mp h).elim (absurd · not_definesLast_nil) (hdefines name c ·.1)
  left name h := hleaves name (leaves_cons.mp h).1

theorem trans (h : Recolor [e] p q) (hrest : Recolor es q r) : Recolor (e :: es) p r where
  last name c hlast := by
    obtain hlater | ⟨he, hes⟩ := definesLast_cons.mp hlast
    · exact hrest.last name c hlater
    · rw [hrest.left name hes]
      exact h.last name c ⟨[], e, [], rfl, he, List.forall_mem_nil _⟩
  left name hleaves := by
    obtain ⟨he, hes⟩ := leaves_cons.mp hleaves
    rw [hrest.left name hes, h.left name (leaves_cons.mpr ⟨he, List.forall_mem_nil _⟩)]

end Recolor

variable [Scalar α]

theorem addSettings_cons (p : Project α) (e : Xml.Element) (rest : List Xml.Element) (ws : List Warning) :
    (addSettings p (e :: rest)).run ws =
      match (addSetting p e).run.run ws with
      | (.ok q, t) => (addSettings q rest).run t
      | (.error f, t) => ((p, some f), t) := by
  rw [addSettings, StateT.run_bind]
  rcases (addSetting p e).run.run ws with ⟨_ | _, _⟩ <;> rfl

end Project

end CardPress
