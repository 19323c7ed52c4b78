import CardPress.Proofs.Number.Exact
import CardPress.Proofs.Typeset.Words
import Mathlib.Algebra.BigOperators.Group.List.Basic
import Mathlib.Algebra.Order.BigOperators.Group.List
import Mathlib.Tactic.Ring
import Mathlib.Data.Nat.Cast.Order.Ring
import Mathlib.Algebra.Order.Ring.Rat

/-! Widths in exact arithmetic: they add up, letter by letter and fragment by fragment. -/
namespace CardPress

namespace Font

theorem textUnits_singleton (font : StandardFont) (c : Char) :
    font.textUnits (String.singleton c) = font.charWidth c := by
  simp [StandardFont.textUnits]

/-- Text is as wide as its letters together. -/
theorem textWidth_eq (name : String) (size : Rat) (s : String) :
    textWidth name size s =
      (s.toList.map fun c => textWidth name size (String.singleton c)).sum := by
  have hletter : ∀ c, textWidth name size (String.singleton c) =
      ((measured name).charWidth c : Rat) * Scalar.decimal 1 3 * size := fun c => by
    rw [textWidth, textUnits_singleton, Scalar.ofNat_eq_cast]
  simp only [hletter]
  rw [textWidth, StandardFont.textUnits, Scalar.ofNat_eq_cast]
  induction s.toList with
  | nil => simp
  | cons c cs ih =>
    rw [List.map_cons, List.map_cons, List.foldr_cons, List.sum_cons, ← ih]
    push_cast
    ring

theorem textWidth_nonneg (name : String) {size : Rat} (h : 0 ≤ size) (s : String) :
    0 ≤ textWidth name size s := by
  have hdecimal : (0 : Rat) ≤ Scalar.decimal 1 3 := by decide +kernel
  exact mul_nonneg (mul_nonneg (Nat.cast_nonneg' _) hdecimal) h

end Font

/-- Text in the font that stands in for others. -/
def TextRun.plain (text : String) : TextRun Rat := ⟨text, "Helvetica", 10, .black, none, none⟩

theorem Picture.aspect_nonneg (p : Picture) : (0 : Rat) ≤ p.aspect := by
  unfold Picture.aspect
  split
  · decide
  · exact div_nonneg (Nat.cast_nonneg' _) (Nat.cast_nonneg' _)

namespace Typeset

theorem totalWidth_eq (fragments : List (Fragment Rat)) :
    totalWidth fragments = (fragments.map (·.width)).sum := Scalar.sum_eq _

@[simp] theorem totalWidth_nil : totalWidth ([] : List (Fragment Rat)) = 0 := rfl

theorem totalWidth_cons (f : Fragment Rat) (fragments : List (Fragment Rat)) :
    totalWidth (f :: fragments) = f.width + totalWidth fragments := by
  rw [totalWidth_eq, totalWidth_eq, List.map_cons, List.sum_cons]

theorem totalWidth_append (xs ys : List (Fragment Rat)) :
    totalWidth (xs ++ ys) = totalWidth xs + totalWidth ys := by
  rw [totalWidth_eq, totalWidth_eq, totalWidth_eq, List.map_append, List.sum_append]

theorem totalWidth_nonneg {fragments : List (Fragment Rat)} (h : ∀ f ∈ fragments, 0 ≤ f.width) :
    0 ≤ totalWidth fragments := by
  rw [totalWidth_eq]
  exact List.sum_nonneg (by simpa using h)

theorem width_pieces_nonneg {runs : List (TextRun Rat)} (hsize : ∀ r ∈ runs, 0 ≤ r.size) :
    ∀ p ∈ pieces runs, ∀ f ∈ p.fragment?, 0 ≤ f.width := by
  intro p hp f hf
  obtain ⟨⟨run, index⟩, hrun, hp⟩ := List.mem_flatMap.mp hp
  have hsize := hsize run (List.fst_mem_of_mem_zipIdx hrun)
  have hp : p ∈ piecesOfRun run index := hp
  unfold piecesOfRun at hp
  split at hp
  next picture _ =>
    obtain rfl := List.mem_singleton.mp hp
    obtain rfl := Option.some.inj hf
    exact mul_nonneg hsize (Picture.aspect_nonneg picture)
  next =>
    obtain ⟨token, -, rfl⟩ := List.mem_map.mp hp
    cases token with
    | newline => cases hf
    | blank s | word s =>
      obtain rfl := Option.some.inj hf
      exact Font.textWidth_nonneg run.font hsize s

end Typeset

end CardPress
