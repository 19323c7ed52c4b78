import CardPress.Proofs.Draw.Outcome
import CardPress.Proofs.Layout.Frame
import CardPress.Proofs.Number.Exact
import Mathlib.Tactic.NormNum

/-! Where images lie, in exact numbers. All modes but one scale an image about the centre of its
frame, so that whether it lies inside or covers the frame depends on its factor alone. -/
namespace CardPress

namespace ScaleMode

/-- Whether images of a mode are cut off at their frames. -/
def isCut : ScaleMode → Bool
  | fill | none => true
  | fit | stretch => false

theorem clipped_eq {α : Type} [Scalar α] {mode : ScaleMode} {frame place : Frame α} {width height : α}
    {clipped : Bool} (h : mode.place frame width height = .ok (place, clipped)) :
    clipped = mode.isCut := by
  cases mode with
  | fit | fill =>
    obtain ⟨ratios, -, h⟩ := bind_eq_ok.mp h
    cases h
    rfl
  | stretch | none =>
    cases h
    rfl

variable {frame place : Frame Rat} {width height k l : Rat} {clipped : Bool}

/-- How much an image is scaled by; nothing if its proportions are given up. -/
def factor? (frame : Frame Rat) (width height : Rat) : ScaleMode → Option Rat
  | fit => some (min (frame.width / width) (frame.height / height))
  | fill => some (max (frame.width / width) (frame.height / height))
  | none => some 1
  | stretch => Option.none

/-- An image scaled by a factor about the centre of its frame. -/
def scaledIn (frame : Frame Rat) (width height k : Rat) : Frame Rat :=
  frame.around (width * k) (height * k)

section

variable (hwidth : 0 < width) (hheight : 0 < height)

include hwidth hheight

theorem place_eq (frame : Frame Rat) (mode : ScaleMode) :
    mode.place frame width height = .ok
      (((mode.factor? frame width height).map (scaledIn frame width height)).getD frame,
        mode.isCut) := by
  have hratios : Scalar.divide frame.width width = .ok (frame.width / width) ∧
      Scalar.divide frame.height height = .ok (frame.height / height) :=
    ⟨Scalar.divide_of_ne hwidth.ne', Scalar.divide_of_ne hheight.ne'⟩
  cases mode with
  | fit =>
    simp only [place, hratios, factor?, ← Scalar.smaller_eq_min]
    rfl
  | fill =>
    simp only [place, hratios, factor?, ← Scalar.larger_eq_max]
    rfl
  | stretch => rfl
  | none => rfl

theorem scaledIn_within_iff : (scaledIn frame width height k).Within frame ↔
    k ≤ min (frame.width / width) (frame.height / height) := by
  rw [scaledIn, Frame.around_within_iff, le_min_iff, le_div_iff₀' hwidth, le_div_iff₀' hheight]

theorem within_scaledIn_iff : frame.Within (scaledIn frame width height k) ↔
    max (frame.width / width) (frame.height / height) ≤ k := by
  rw [scaledIn, Frame.within_around_iff, max_le_iff, div_le_iff₀' hwidth, div_le_iff₀' hheight]

/-- A factor at which an image is as wide or as high as its frame. -/
theorem sides_of_ratio (hk : k = frame.width / width ∨ k = frame.height / height) :
    width * k = frame.width ∨ height * k = frame.height :=
  hk.imp (fun h => by rw [h, mul_div_cancel₀ _ hwidth.ne'])
    fun h => by rw [h, mul_div_cancel₀ _ hheight.ne']

theorem ratios_eq_iff :
    frame.width / width = frame.height / height ↔ frame.HasAspect width height :=
  div_eq_div_iff hwidth.ne' hheight.ne'

omit hheight in
theorem scaledIn_inj : scaledIn frame width height k = scaledIn frame width height l ↔ k = l := by
  constructor
  · intro h
    exact mul_left_cancel₀ hwidth.ne' (congrArg Frame.width h)
  · rintro rfl
    rfl

end

theorem scaledIn_hasAspect (frame : Frame Rat) (width height k : Rat) :
    (scaledIn frame width height k).HasAspect width height := by
  change width * k * height = height * k * width
  ring

/-- Only images that are cut off stick out of their frames. -/
theorem clipped_of_not_within (hwidth : 0 < width) (hheight : 0 < height) {mode : ScaleMode}
    (h : mode.place frame width height = .ok (place, clipped)) (hout : ¬ place.Within frame) :
    clipped = true := by
  rw [place_eq hwidth hheight] at h
  cases mode with
  | fit =>
    cases h
    exact absurd ((scaledIn_within_iff hwidth hheight).mpr le_rfl) hout
  | stretch =>
    cases h
    exact absurd ⟨le_rfl, le_rfl, le_rfl, le_rfl⟩ hout
  | fill | none =>
    cases h
    rfl

/-- A fitted image lies in its frame from side to side, a filling one covers it and no more than it
has to, and one that is not scaled keeps its size; they keep their proportions and the centre. Fitted
and filling images agree where the frame has the proportions of the image, and whatever sticks out of
the frame is cut off. -/
theorem place_scales (frame : Frame Rat) (hw : 0 ≤ frame.width) (hh : 0 ≤ frame.height)
    (hwidth : 0 < width) (hheight : 0 < height) :
    ∃ fitted filling own : Frame Rat,
      fit.place frame width height = .ok (fitted, false) ∧
      fill.place frame width height = .ok (filling, true) ∧
      none.place frame width height = .ok (own, true) ∧
      stretch.place frame width height = .ok (frame, false) ∧
      fitted.Within frame ∧ fitted.Meets frame ∧
      frame.Within filling ∧ (filling.width = frame.width ∨ filling.height = frame.height) ∧
      own.width = width ∧ own.height = height ∧
      (∀ r ∈ [fitted, filling, own], 0 ≤ r.width ∧ 0 ≤ r.height ∧ r.HasAspect width height ∧
        r.center = frame.center) ∧
      (fitted = filling ↔ frame.HasAspect width height) ∧
      ∀ (mode : ScaleMode) (place : Frame Rat) (clipped : Bool),
        mode.place frame width height = .ok (place, clipped) →
          ¬ place.Within frame → clipped = true := by
  have hplace := place_eq hwidth hheight frame
  have hacross : 0 ≤ frame.width / width := div_nonneg hw hwidth.le
  have hdown : 0 ≤ frame.height / height := div_nonneg hh hheight.le
  have hkept : ∀ k, 0 ≤ k → 0 ≤ (scaledIn frame width height k).width ∧
      0 ≤ (scaledIn frame width height k).height ∧
      (scaledIn frame width height k).HasAspect width height ∧
      (scaledIn frame width height k).center = frame.center := fun k hk =>
    ⟨mul_nonneg hwidth.le hk, mul_nonneg hheight.le hk, scaledIn_hasAspect frame width height k,
      Frame.center_around ..⟩
  refine ⟨_, _, _, hplace fit, hplace fill, hplace none, hplace stretch,
    (scaledIn_within_iff hwidth hheight).mpr le_rfl, ?meets,
    (within_scaledIn_iff hwidth hheight).mpr le_rfl, ?covers, mul_one width, mul_one height, ?kept,
    ?agree, fun _ _ _ => clipped_of_not_within hwidth hheight⟩
  case meets => exact Frame.around_meets (sides_of_ratio hwidth hheight (min_choice _ _))
  case covers => exact sides_of_ratio hwidth hheight (max_choice _ _)
  case kept =>
    simp only [List.forall_mem_cons, List.not_mem_nil, false_imp_iff, implies_true, and_true]
    exact ⟨hkept _ (le_min hacross hdown), hkept _ (hacross.trans (le_max_left _ _)),
      hkept 1 zero_le_one⟩
  case agree =>
    exact (scaledIn_inj hwidth).trans (inf_eq_sup.trans (ratios_eq_iff hwidth hheight))

/-- A wide image in a high frame, which it is as wide as when it is fitted and as high as when it
fills it. -/
theorem place_scales_wide :
    (0 : Rat) ≤ 60 ∧ (0 : Rat) ≤ 100 ∧ (0 : Rat) < 40 ∧ (0 : Rat) < 20 ∧
      fit.place (⟨10, 10, 60, 100⟩ : Frame Rat) 40 20 = .ok (⟨10, 45, 60, 30⟩, false) ∧
      fill.place (⟨10, 10, 60, 100⟩ : Frame Rat) 40 20 = .ok (⟨-60, 10, 200, 100⟩, true) ∧
      (⟨10, 45, 60, 30⟩ : Frame Rat).Within ⟨10, 10, 60, 100⟩ ∧
      (⟨10, 10, 60, 100⟩ : Frame Rat).Within ⟨-60, 10, 200, 100⟩ ∧
      ¬ (⟨10, 10, 60, 100⟩ : Frame Rat).HasAspect 40 20 := by
  have hfit : fit.place (⟨10, 10, 60, 100⟩ : Frame Rat) 40 20 = .ok (⟨10, 45, 60, 30⟩, false) := by
    rw [place_eq (by norm_num) (by norm_num)]
    norm_num [factor?, scaledIn, Frame.around_eq, isCut]
  have hfill : fill.place (⟨10, 10, 60, 100⟩ : Frame Rat) 40 20 =
      .ok (⟨-60, 10, 200, 100⟩, true) := by
    rw [place_eq (by norm_num) (by norm_num)]
    norm_num [factor?, scaledIn, Frame.around_eq, isCut]
  have hw : (0 : Rat) ≤ 60 := by decide
  have hh : (0 : Rat) ≤ 100 := by decide
  have hwidth : (0 : Rat) < 40 := by decide
  have hheight : (0 : Rat) < 20 := by decide
  obtain ⟨fitted, filling, own, hfitted, hfilling, -, -, hin, -, hcovers, -, -, -, -, hagree, -⟩ :=
    place_scales ⟨10, 10, 60, 100⟩ hw hh hwidth hheight
  obtain ⟨rfl, -⟩ : ⟨10, 45, 60, 30⟩ = fitted ∧ false = false := by
    simpa using hfit.symm.trans hfitted
  obtain ⟨rfl, -⟩ : ⟨-60, 10, 200, 100⟩ = filling ∧ true = true := by
    simpa using hfill.symm.trans hfilling
  exact ⟨hw, hh, hwidth, hheight, hfit, hfill, hin, hcovers, mt hagree.mpr (by norm_num)⟩

end ScaleMode

end CardPress
