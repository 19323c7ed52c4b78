import CardPress.Proofs.Draw.Outcome
import CardPress.Proofs.Number.Exact
import CardPress.Proofs.Style.Cascade
import CardPress.Proofs.Style.Dash
import Mathlib.Algebra.Order.BigOperators.Group.List
import Mathlib.Data.Nat.Cast.Order.Ring
import Mathlib.Tactic.NormNum

/-! The style of a shape. Its conditions decide whether it has one before any colour is asked for; the
last filling and the last stroke decide which one it has, and how it can fail. -/
namespace CardPress

variable {α β : Type}

namespace PathStyle

variable {kind : PathStyle α → Option β} {styles own : List (PathStyle α)} {b : β}

/-- A style of some kind gives the value, and none behind it is of that kind. -/
def IsLast (kind : PathStyle α → Option β) (styles : List (PathStyle α)) (b : β) : Prop :=
  ∃ before x after, styles = before ++ x :: after ∧ kind x = some b ∧ ∀ y ∈ after, kind y = none

/-- What comes last stays last behind other styles. -/
theorem IsLast.append (h : IsLast kind own b) (base : List (PathStyle α)) :
    IsLast kind (base ++ own) b := by
  obtain ⟨before, x, after, rfl, hx, hafter⟩ := h
  exact ⟨base ++ before, x, after, (List.append_assoc ..).symm, hx, hafter⟩

end PathStyle

namespace DashPattern

end DashPattern

open PathStyle

namespace ShapeStyle

variable {styles : List (PathStyle α)} {card : Card} {colors : ColorResolver}
  {style : ShapeStyle α} {f : Failure}

variable [Scalar α]

/-- Filled with the colour that a reference stands for. -/
def Fills (colors : ColorResolver) (color : ColorRef) (style : ShapeStyle α) : Prop :=
  ∃ c, colors color = .ok c ∧ style.fill = some c

/-- Stroked with the colour that a reference stands for, in some width and in a pattern. -/
def Strokes (colors : ColorResolver) (width : α) (color : ColorRef) (pattern : DashPattern)
    (style : ShapeStyle α) : Prop :=
  (∃ c, colors color = .ok c ∧ style.strokeColor = some c) ∧ style.strokeWidth = width ∧
    pattern.scaled width = .ok style.dashes

/-- Filled as the last filling says and stroked as the last stroke says, or not at all. -/
structure Follows (styles : List (PathStyle α)) (colors : ColorResolver) (style : ShapeStyle α) :
    Prop where
  filled : ∀ color, IsLast solid? styles color → style.Fills colors color
  unfilled : (∀ x ∈ styles, x.solid? = none) → style.fill = none
  stroked : ∀ width color pattern, IsLast stroke? styles (width, color, pattern) →
    style.Strokes colors width color pattern
  unstroked : (∀ x ∈ styles, x.stroke? = none) →
    style.strokeColor = none ∧ style.strokeWidth = Scalar.zero ∧ style.dashes = none

/-- The failures of styles that are seen: of the last filling's colour, then of the last stroke's, then
of its dashes if they have no length. -/
inductive Fails (styles : List (PathStyle α)) (colors : ColorResolver) : Failure → Prop where
  | fill {color : ColorRef} {f : Failure} (hlast : IsLast solid? styles color)
      (hcolor : colors color = .error f) : Fails styles colors f
  | stroke {width : α} {color : ColorRef} {pattern : DashPattern} {f : Failure}
      (hfill : ∀ color, IsLast solid? styles color → ∃ c, colors color = .ok c)
      (hlast : IsLast stroke? styles (width, color, pattern)) (hcolor : colors color = .error f) :
      Fails styles colors f
  | dashes {width : α} {color : ColorRef} {segments : List Nat} {c : Color}
      (hfill : ∀ color, IsLast solid? styles color → ∃ c, colors color = .ok c)
      (hlast : IsLast stroke? styles (width, color, .dashes segments)) (hcolor : colors color = .ok c)
      (hlength : Scalar.sum (segments.map fun n => Scalar.ofNat n * width) ≤ Scalar.zero) :
      Fails styles colors (.problem (.render (.noDashLength segments (Scalar.text width))))

theorem resolve_of_unmet (h : Condition.allHold card (styles.filterMap condition?) = .ok false)
    (colors : ColorResolver) : resolve styles card colors = .ok none := by
  rw [resolve, h]
  rfl

section

variable (hdecided : ∀ c, .onlyIf c ∈ styles → ∃ b, c.holds card = .ok b)

include hdecided

end

end ShapeStyle

end CardPress
