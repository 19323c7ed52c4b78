import CardPress.Sheet

/-! Manual placement: every slot and crop line is given, in the units of the sheet. -/
namespace CardPress

structure ManualCropLine (α : Type) where
  axis : Axis
  offset : α
  length : Option α

/-- `cropLength` is the length of lines that give none. -/
structure ManualPlacement (α : Type) where
  slots : List (Slot α)
  cropLines : List (ManualCropLine α)
  cropLength : Option α

namespace ManualPlacement

variable {α : Type} [Scalar α]

/-- A crop line in points; without a positive length there is none. -/
def cropLine? (p : ManualPlacement α) (scale : α) (line : ManualCropLine α) :
    Option (CropLine α) :=
  match line.length.or p.cropLength with
  | none => none
  | some length =>
    if length ≤ Scalar.zero then none else some ⟨line.axis, line.offset * scale, length * scale⟩

/-- Slots and crop lines in points; `scale` is the size of the unit. -/
def compile (p : ManualPlacement α) (scale : α) : List (Slot α) × List (CropLine α) :=
  (p.slots.map fun s => { s with x := s.x * scale, y := s.y * scale },
    p.cropLines.filterMap (p.cropLine? scale))

end ManualPlacement

end CardPress
