import CardPress.Proofs.Paint.Figures
import CardPress.Proofs.Typeset.Rows
import CardPress.Proofs.Typeset.Widths

/-! Alignment is exact: the fragments of a line stand side by side and the line has its ends where its
alignment asks for them, one line below the other. -/
namespace CardPress

namespace Placed

/-- Side by side from `left` to `right`: there is no gap, and none is over another. -/
def Adjoin : Rat → List (Placed Rat) → Rat → Prop
  | left, [], right => left = right
  | left, p :: rest, right => p.x = left ∧ 0 ≤ p.width ∧ Adjoin (left + p.width) rest right

def Natural (row : List (Placed Rat)) : Prop := ∀ p ∈ row, p.width = p.fragment.width

/-- Where a line that is no wider than its frame has its ends, and whether its blanks are widened. -/
def Edges (frame : Frame Rat) (l : TextLine Rat) (row : List (Placed Rat)) (left right : Rat) :
    Alignment → Prop
  | .left => left = frame.x ∧ Natural row
  | .right => right = frame.x + frame.width ∧ Natural row
  | .center => left - frame.x = frame.x + frame.width - right ∧ Natural row
  | .justify => left = frame.x ∧
      (l.isHard = false → (∃ f ∈ l.fragments, f.isBlank = true) →
        right = frame.x + frame.width) ∧
      (l.isHard = true ∨ (∀ f ∈ l.fragments, f.isBlank = false) → Natural row)

/-- A line in its place, from `left` to `right`. -/
structure Aligned (frame : Frame Rat) (align : Alignment) (top : Rat) (l : TextLine Rat)
    (row : List (Placed Rat)) (left right : Rat) : Prop where
  fragments : row.map (·.fragment) = l.fragments
  adjoin : Adjoin left row right
  baseline : ∀ p ∈ row, p.baseline = top + l.ascent
  /-- Blanks are widened alike, and nothing else is. -/
  stretch : ∃ stretch, 0 ≤ stretch ∧
    ∀ p ∈ row, p.width = p.fragment.width + if p.fragment.isBlank then stretch else 0
  start : frame.x ≤ left
  wide : frame.width < l.width → left = frame.x ∧ Natural row
  edges : l.width ≤ frame.width → Edges frame l row left right align

/-- What is seen of a fragment stands where the fragment has its place. -/
def Carries (p : Placed Rat) : Figure Rat → Prop
  | .area frame _ => frame.x = p.x ∧ frame.width = p.width
  | .string s x baseline => s = p.fragment.text ∧ x = p.x ∧ baseline = p.baseline
  | .image _ frame =>
    frame.x = p.x ∧ frame.width = p.width ∧ frame.y + frame.height = p.baseline
  | .line _ _ _ _ => False

theorem carries_placedFigures (p : Placed Rat) :
    ∀ figure ∈ PaintCall.placedFigures p, p.Carries figure := by
  intro figure hfigure
  obtain ⟨_, _, rfl⟩ | ⟨picture, -, rfl⟩ | ⟨-, rfl⟩ := PaintCall.mem_placedFigures hfigure
  · exact ⟨rfl, rfl⟩
  · exact ⟨rfl, rfl, sub_add_cancel _ _⟩
  · exact ⟨rfl, rfl, rfl⟩

section Row

variable {stretch baseline x : Rat} {fragments : List (Fragment Rat)}

theorem row_baseline : ∀ p ∈ row stretch baseline x fragments, p.baseline = baseline := by
  induction fragments generalizing x with
  | nil => simp [row]
  | cons f rest ih => exact List.forall_mem_cons.mpr ⟨rfl, ih⟩

theorem row_width : ∀ p ∈ row stretch baseline x fragments,
    p.width = p.fragment.width + if p.fragment.isBlank then stretch else 0 := by
  induction fragments generalizing x with
  | nil => simp [row]
  | cons f rest ih => exact List.forall_mem_cons.mpr ⟨rfl, ih⟩

theorem row_natural (h : stretch = 0) : Natural (row stretch baseline x fragments) := by
  intro p hp
  rw [row_width p hp, h, ite_self, add_zero]

/-- A row ends behind its fragments and what its blanks gain. -/
theorem row_adjoin (hstretch : 0 ≤ stretch) (hwidth : ∀ f ∈ fragments, 0 ≤ f.width) :
    Adjoin x (row stretch baseline x fragments)
      (x + Typeset.totalWidth fragments + (fragments.countP (·.isBlank)) * stretch) := by
  induction fragments generalizing x with
  | nil => simp [row, Adjoin]
  | cons f rest ih =>
    obtain ⟨hf, hrest⟩ := List.forall_mem_cons.mp hwidth
    refine ⟨rfl, ?_, ?_⟩
    · dsimp only
      split
      · exact add_nonneg hf hstretch
      · simpa using hf
    · convert ih hrest using 1
      rw [Typeset.totalWidth_cons, List.countP_cons]
      dsimp only
      split <;> push_cast [Scalar.zero_eq] <;> ring

end Row

section Offset

variable {available used : Rat}

theorem alignOffset_nonneg (available used : Rat) (align : Alignment) :
    0 ≤ alignOffset available used align := by
  cases align <;> simp [alignOffset, Scalar.larger_eq_max]

theorem alignOffset_of_wide (h : available < used) (align : Alignment) :
    alignOffset available used align = 0 := by
  have hless : available - used ≤ 0 := sub_nonpos.mpr h.le
  cases align with
  | left | justify => rfl
  | right => simpa [alignOffset, Scalar.larger_eq_max] using hless
  | center =>
    have hhalf := div_nonpos_of_nonpos_of_nonneg hless (zero_le_two (α := Rat))
    simpa [alignOffset, Scalar.larger_eq_max] using hhalf

theorem alignOffset_right (h : used ≤ available) :
    alignOffset available used .right = available - used := by
  rw [alignOffset, Scalar.larger_eq_max]
  exact max_eq_right (sub_nonneg.mpr h)

theorem alignOffset_center (h : used ≤ available) :
    alignOffset available used .center = (available - used) / 2 := by
  rw [alignOffset, Scalar.larger_eq_max]
  exact max_eq_right (div_nonneg (sub_nonneg.mpr h) zero_le_two)

end Offset

section Stretch

variable {frame : Frame Rat} {align : Alignment} {isLast : Bool} {l : TextLine Rat}

theorem blankStretch_nonneg : 0 ≤ blankStretch frame align isLast l := by
  unfold blankStretch
  dsimp only
  split
  · rw [Scalar.larger_eq_max]
    exact div_nonneg (le_max_left _ _) (Nat.cast_nonneg' _)
  · exact le_rfl

theorem blankStretch_of_wide (h : frame.width < l.width) :
    blankStretch frame align isLast l = 0 := by
  have hless : frame.width - l.width ≤ 0 := sub_nonpos.mpr h.le
  unfold blankStretch
  dsimp only
  split
  · rw [Scalar.larger_eq_max, Scalar.zero_eq, max_eq_left hless, zero_div]
  · rfl

theorem blankStretch_of_ne_justify (h : align ≠ .justify) :
    blankStretch frame align isLast l = 0 := by
  simp [blankStretch, h]

theorem blankStretch_of_hard (h : l.isHard = true) : blankStretch frame align isLast l = 0 := by
  simp [blankStretch, h]

theorem blankStretch_of_no_blank (h : ∀ f ∈ l.fragments, f.isBlank = false) :
    blankStretch frame align isLast l = 0 := by
  have hnone : l.fragments.filter (·.isBlank) = [] :=
    List.filter_eq_nil_iff.mpr fun f hf => by simp [h f hf]
  simp [blankStretch, hnone]

/-- All blanks of a wrapped line together gain what is left of the frame. -/
theorem blankStretch_fills (hsoft : l.isHard = false) (hlast : isLast = true → l.isHard = true)
    (hblank : ∃ f ∈ l.fragments, f.isBlank = true) (hfit : l.width ≤ frame.width) :
    (l.fragments.countP (·.isBlank)) * blankStretch frame .justify isLast l =
      frame.width - l.width := by
  have hpos : 0 < l.fragments.countP (·.isBlank) := List.countP_pos_iff.mpr hblank
  -- a wrapped line is not the last one, so nothing keeps it from being justified
  have hnext : isLast = false := by
    cases isLast with
    | false => rfl
    | true => rw [hlast rfl] at hsoft; cases hsoft
  unfold blankStretch
  rw [← List.countP_eq_length_filter]
  dsimp only
  rw [if_pos (by simp [hpos, hsoft, hnext]), Scalar.larger_eq_max, Scalar.zero_eq,
    max_eq_right (sub_nonneg.mpr hfit), Scalar.ofNat_eq_cast]
  exact mul_div_cancel₀ _ (Nat.cast_ne_zero.mpr hpos.ne')

end Stretch

/-- One line is in its place, whatever stands above it. -/
theorem line_aligned (frame : Frame Rat) (align : Alignment) {isLast : Bool} (top : Rat)
    {l : TextLine Rat} (hwidth : ∀ f ∈ l.fragments, 0 ≤ f.width)
    (hlast : isLast = true → l.isHard = true) :
    ∃ left right, Aligned frame align top l (line frame align isLast top l) left right := by
  have hadjoin : Adjoin (frame.x + alignOffset frame.width l.width align)
      (line frame align isLast top l)
      (frame.x + alignOffset frame.width l.width align + l.width +
        (l.fragments.countP (·.isBlank)) * blankStretch frame align isLast l) :=
    row_adjoin blankStretch_nonneg hwidth
  refine ⟨_, _, {
    fragments := map_fragment_row _ _ _ _
    adjoin := hadjoin
    baseline := row_baseline
    stretch := ⟨_, blankStretch_nonneg, row_width⟩
    start := le_add_of_nonneg_right (alignOffset_nonneg _ _ align)
    wide := fun hwide => ?_
    edges := fun hfit => ?_ }⟩
  · rw [alignOffset_of_wide hwide, add_zero]
    exact ⟨rfl, row_natural (blankStretch_of_wide hwide)⟩
  · cases align with
    | left => exact ⟨add_zero _, row_natural (blankStretch_of_ne_justify (by decide))⟩
    | right =>
      have hnone : blankStretch frame .right isLast l = 0 := blankStretch_of_ne_justify (by decide)
      refine ⟨?_, row_natural hnone⟩
      rw [hnone, alignOffset_right hfit]
      ring
    | center =>
      have hnone : blankStretch frame .center isLast l = 0 := blankStretch_of_ne_justify (by decide)
      refine ⟨?_, row_natural hnone⟩
      rw [hnone, alignOffset_center hfit]
      ring
    | justify =>
      refine ⟨add_zero _, fun hsoft hblank => ?_, fun hstays => row_natural ?_⟩
      · rw [blankStretch_fills hsoft hlast hblank hfit, alignOffset, Scalar.zero_eq]
        ring
      · exact hstays.elim blankStretch_of_hard blankStretch_of_no_blank

/-- Lines are in their places one below the other; of the last one it is enough that it is hard. -/
theorem lines_aligned (frame : Frame Rat) (align : Alignment) {ls : List (TextLine Rat)}
    (hwidth : ∀ l ∈ ls, ∀ f ∈ l.fragments, 0 ≤ f.width)
    (hlast : ∀ l ∈ ls.getLast?, l.isHard = true) (y : Rat) :
    ∃ rows : List (List (Placed Rat)), lines frame align y ls = rows.flatten ∧
      rows.length = ls.length ∧
      ∀ k l row, ls[k]? = some l → rows[k]? = some row →
        ∃ left right, Aligned frame align (y + ((ls.take k).map TextLine.height).sum) l row
          left right := by
  -- the lines below a line are the same task from further down
  induction ls generalizing y with
  | nil => exact ⟨[], rfl, rfl, by simp⟩
  | cons l rest ih =>
    obtain ⟨hl, hrest⟩ := List.forall_mem_cons.mp hwidth
    have hhard : rest.isEmpty = true → l.isHard = true := by
      intro hempty
      obtain rfl := List.isEmpty_iff.mp hempty
      exact hlast l rfl
    have hlastRest : ∀ m ∈ rest.getLast?, m.isHard = true := by
      intro m hm
      refine hlast m ?_
      rw [List.getLast?_cons, Option.mem_def.mp hm]
      rfl
    obtain ⟨rows, hrows, hlength, haligned⟩ := ih hrest hlastRest (y + l.height)
    refine ⟨line frame align rest.isEmpty y l :: rows, ?_, by simp [hlength], ?_⟩
    · rw [lines, hrows, List.flatten_cons]
    · intro k m row hm hrow
      cases k with
      | zero =>
        obtain rfl := Option.some.inj hm
        obtain rfl := Option.some.inj hrow
        simpa using line_aligned frame align y hl hhard
      | succ k =>
        rw [List.take_succ_cons, List.map_cons, List.sum_cons, ← add_assoc]
        exact haligned k m row hm hrow

end Placed

theorem Typeset.width_lines_nonneg {runs : List (TextRun Rat)} (hsize : ∀ r ∈ runs, 0 ≤ r.size)
    {maxWidth : Rat} {l : TextLine Rat} (hl : l ∈ lines runs maxWidth) :
    ∀ f ∈ l.fragments, 0 ≤ f.width :=
  fun f hf => width_pieces_nonneg hsize _ (mem_pieces_of_lines hl hf) f rfl

namespace PaintCall

open Placed

/-- Text is drawn fragment by fragment, in lines that are aligned exactly: a line that fits has its
ends where the alignment asks for them, a wider one starts with the frame, and each line starts below
those before it. -/
theorem text_aligned {runs : List (TextRun Rat)} (hsize : ∀ r ∈ runs, 0 ≤ r.size)
    (frame : Frame Rat) (align : Alignment) :
    ∃ rows : List (List (Placed Rat)),
      Leaves (text runs frame align).canvasCalls (rows.flatten.flatMap placedFigures) ∧
      (∀ row ∈ rows, ∀ p ∈ row, ∀ figure ∈ placedFigures p, p.Carries figure) ∧
      rows.length = (Typeset.lines runs frame.width).length ∧
      ∀ k l row, (Typeset.lines runs frame.width)[k]? = some l → rows[k]? = some row →
        (∀ f ∈ l.fragments.getLast?, f.isBlank = false) ∧
        ∃ left right, Aligned frame align
          (frame.y + (((Typeset.lines runs frame.width).take k).map TextLine.height).sum) l row
          left right := by
  have hlast : ∀ l ∈ (Typeset.lines runs frame.width).getLast?, l.isHard = true :=
    Typeset.isHard_last_lines
  obtain ⟨rows, hrows, hlength, haligned⟩ := lines_aligned frame align
    (fun l hl => Typeset.width_lines_nonneg hsize hl) hlast frame.y
  refine ⟨rows, ?_, fun _ _ p _ => carries_placedFigures p, hlength,
    fun k l row hl hrow => ⟨?_, haligned k l row hl hrow⟩⟩
  · rw [← hrows]
    have hplain : (text runs frame align).isPlain = true := rfl
    exact canvasCalls_leaves hplain
  · exact Typeset.isBlank_last_lines (List.mem_of_getElem? hl)

/-- Two lines, of which the first is wrapped and as wide as its frame. -/
theorem text_aligned_justified :
    (∀ r ∈ [TextRun.plain "a bb c"], 0 ≤ r.size) ∧
      ∃ first last : List (Placed Rat),
        Leaves (text [TextRun.plain "a bb c"] ⟨1, 2, 20, 30⟩ .justify).canvasCalls
          ([first, last].flatten.flatMap placedFigures) ∧
        Adjoin 1 first 21 := by
  have hsize : ∀ r ∈ [TextRun.plain "a bb c"], 0 ≤ r.size := by decide +kernel
  obtain ⟨rows, hleaves, -, hlength, haligned⟩ := text_aligned hsize ⟨1, 2, 20, 30⟩ .justify
  dsimp only at hlength haligned
  have hlooks : (Typeset.lines [TextRun.plain "a bb c"] 20).map
      (fun l => (l.isHard, decide (l.width ≤ 20), l.fragments.any (·.isBlank))) =
        [(false, true, true), (true, true, false)] := by decide +kernel
  generalize Typeset.lines [TextRun.plain "a bb c"] 20 = ls at hlength haligned hlooks
  obtain ⟨l, rest, rfl, hl, hrest⟩ := List.map_eq_cons_iff.mp hlooks
  obtain ⟨m, rfl, -⟩ := List.map_eq_singleton_iff.mp hrest
  obtain ⟨first, last, rfl⟩ := List.length_eq_two.mp hlength
  simp only [Prod.mk.injEq, decide_eq_true_eq, List.any_eq_true] at hl
  obtain ⟨hsoft, hfit, hblank⟩ := hl
  obtain ⟨-, left, right, h⟩ := haligned 0 l first rfl rfl
  obtain ⟨hleft, hright, -⟩ := h.edges hfit
  obtain rfl : left = 1 := hleft
  obtain rfl : right = 21 := (hright hsoft hblank).trans (by norm_num)
  exact ⟨hsize, first, last, hleaves, h.adjoin⟩

end PaintCall

end CardPress
