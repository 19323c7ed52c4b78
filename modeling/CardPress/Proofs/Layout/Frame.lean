import CardPress.Layout
import CardPress.Proofs.Number.Exact
import Mathlib.Algebra.Order.Field.Rat
import Mathlib.Tactic.Linarith
import Mathlib.Tactic.Ring

/-! Frames in exact numbers: one inside another, and those that share a centre. -/
namespace CardPress

namespace Frame

variable {f : Frame Rat} {w h : Rat}

structure Within (f g : Frame Rat) : Prop where
  left : g.x ≤ f.x
  right : f.x + f.width ≤ g.x + g.width
  top : g.y ≤ f.y
  bottom : f.y + f.height ≤ g.y + g.height

/-- Two opposite sides of one frame lie on those of the other. -/
def Meets (f g : Frame Rat) : Prop :=
  (f.x = g.x ∧ f.x + f.width = g.x + g.width) ∨ (f.y = g.y ∧ f.y + f.height = g.y + g.height)

/-- As wide for its height as something of some width and height; a point is that, too. -/
def HasAspect (f : Frame Rat) (w h : Rat) : Prop := f.width * h = f.height * w

/-- The frame of some width and height about the centre of another. -/
def around (f : Frame Rat) (w h : Rat) : Frame Rat :=
  ⟨f.center.1 - w / 2, f.center.2 - h / 2, w, h⟩

theorem center_around (f : Frame Rat) (w h : Rat) : (f.around w h).center = f.center := by
  simp [around, center]

/-- What a frame leaves over around its centre is left over in halves. -/
theorem around_eq (f : Frame Rat) (w h : Rat) :
    f.around w h = ⟨f.x + (f.width - w) / 2, f.y + (f.height - h) / 2, w, h⟩ := by
  simp only [around, center, Scalar.ofNat_eq_cast, Nat.cast_ofNat]
  congr 1 <;> ring

theorem around_within_iff : (f.around w h).Within f ↔ w ≤ f.width ∧ h ≤ f.height := by
  rw [around_eq]
  constructor
  · rintro ⟨hleft, -, htop, -⟩
    constructor <;> linarith
  · rintro ⟨hw, hh⟩
    constructor <;> linarith

theorem within_around_iff : f.Within (f.around w h) ↔ f.width ≤ w ∧ f.height ≤ h := by
  rw [around_eq]
  constructor
  · rintro ⟨hleft, -, htop, -⟩
    constructor <;> linarith
  · rintro ⟨hw, hh⟩
    constructor <;> linarith

theorem around_meets (hsides : w = f.width ∨ h = f.height) : (f.around w h).Meets f := by
  rw [around_eq]
  rcases hsides with rfl | rfl
  · left
    constructor <;> ring
  · right
    constructor <;> ring

end Frame

end CardPress
