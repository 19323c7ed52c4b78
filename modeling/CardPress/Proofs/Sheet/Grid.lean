import CardPress.Proofs.Layout.Frame
import CardPress.Sheet.Automatic
import Mathlib.Algebra.Order.Field.Rat
import Mathlib.Data.Rat.Floor
import Mathlib.Order.Bounds.Basic
import Mathlib.Order.CompletePartialOrder
import Mathlib.Tactic.Linarith
import Mathlib.Tactic.Ring

/-! Automatic placement in exact numbers: the slots are the largest grid of cards that the content of
the page has room for. -/
namespace CardPress

/-- So many items fit with gaps between them; none always do. -/
def Fits (available item gap : Rat) (n : Nat) : Prop :=
  n = 0 ∨ n * item + (n - 1 : Nat) * gap ≤ available

namespace Frame

/-- The points inside a rectangle, its sides left out. -/
def interior (f : Frame Rat) : Set (Rat × Rat) :=
  {p | f.x < p.1 ∧ p.1 < f.x + f.width ∧ f.y < p.2 ∧ p.2 < f.y + f.height}

end Frame

/-- The rectangle of a card on a slot that does not turn it. -/
def Slot.area (s : Slot Rat) (card : Size Rat) : Frame Rat := ⟨s.x, s.y, card.width, card.height⟩

/-- What is left over beside the columns, at the left and at the right. -/
def GridAlignment.spaces (leftover : Rat) : GridAlignment → Rat × Rat
  | left => (0, leftover)
  | center => (leftover / 2, leftover / 2)
  | right => (leftover, 0)

/-! How many items fit. -/

variable {available item gap : Rat} {n : Nat}

theorem fits_iff (hstep : 0 < item + gap) :
    Fits available item gap n ↔ n = 0 ∨ (n : Rat) ≤ (available + gap) / (item + gap) := by
  unfold Fits
  rw [le_div_iff₀ hstep]
  cases n with
  | zero => simp
  | succ n =>
    rw [or_iff_right n.succ_ne_zero, or_iff_right n.succ_ne_zero, Nat.add_sub_cancel]
    push_cast
    constructor <;> intro h <;> linarith

theorem exists_fitCount (available : Rat) (hitem : 0 < item) (hgap : 0 ≤ gap) :
    ∃ n, fitCount available item gap = .ok n ∧ IsGreatest {n | Fits available item gap n} n := by
  have hstep : 0 < item + gap := by linarith
  have hfloor : fitCount available item gap =
      .ok ((available + gap) / (item + gap)).floor.toNat := by
    unfold fitCount
    rw [if_neg (by simpa using hitem), Scalar.floorDivide_of_ne hstep.ne']
  refine ⟨_, hfloor, ?_, fun n hn => ?_⟩
  · refine (fits_iff hstep).mpr ?_
    rcases le_total ((available + gap) / (item + gap)).floor 0 with h | h
    · exact .inl (Int.toNat_of_nonpos h)
    · refine .inr ?_
      rw [← Int.cast_natCast, Int.toNat_of_nonneg h]
      exact Rat.floor_le _
  · rcases (fits_iff hstep).mp hn with rfl | hn
    · exact Nat.zero_le _
    · have hle : (n : Int) ≤ ((available + gap) / (item + gap)).floor := by
        rw [Rat.le_floor_iff]
        exact_mod_cast hn
      omega

/-! Offsets of columns and rows. -/

variable {step : Rat} {count i j : Nat}

/-- Of two items the one that is counted first ends before the other starts. -/
theorem offset_add_le (start : Rat) (hitem : item ≤ step) (hstep : 0 ≤ step) (h : i < j) :
    start + i * step + item ≤ start + j * step := by
  have hcast : (i : Rat) + 1 ≤ j := by exact_mod_cast h
  have := mul_le_mul_of_nonneg_right hcast hstep
  linarith

/-- Each item lies between the first one's start and the last one's end. -/
theorem offset_within (hstep : 0 ≤ item + gap) (h : i < count) :
    0 ≤ i * (item + gap) ∧
      i * (item + gap) + item ≤ count * item + (count - 1 : Nat) * gap := by
  obtain ⟨n, rfl⟩ := Nat.exists_eq_succ_of_ne_zero (Nat.ne_zero_of_lt h)
  have hcast : (i : Rat) ≤ n := by exact_mod_cast Nat.lt_succ_iff.mp h
  have := mul_le_mul_of_nonneg_right hcast hstep
  refine ⟨mul_nonneg i.cast_nonneg hstep, ?_⟩
  rw [Nat.succ_sub_one]
  push_cast
  linarith

namespace Grid

/-- Pairs of a column and a row, counted column by column. -/
theorem flatMap_range {β : Type} (m n : Nat) (f : Nat → Nat → β) :
    (List.range m).flatMap (fun i => (List.range n).map (f i)) =
      (List.range (m * n)).map fun k => f (k / n) (k % n) := by
  induction m with
  | zero => simp
  | succ m ih =>
    rw [List.range_succ, List.flatMap_append, ih, Nat.succ_mul, List.range_add, List.map_append,
      List.flatMap_singleton, List.map_map]
    congr 1
    refine List.map_congr_left fun k hk => ?_
    have hk : k < n := List.mem_range.mp hk
    simp [Nat.mul_comm m n, Nat.mul_add_div (Nat.zero_lt_of_lt hk), Nat.div_eq_of_lt hk,
      Nat.mod_eq_of_lt hk]

theorem slots_offsets (left across top down : Rat) (columns rows : Nat) :
    slots ⟨offsets left across columns, offsets top down rows⟩ =
      (List.range (columns * rows)).map fun k =>
        { x := left + (k / rows : Nat) * across, y := top + (k % rows : Nat) * down } := by
  unfold slots offsets
  rw [List.flatMap_map, ← flatMap_range columns rows fun i j =>
    ({ x := left + i * across, y := top + j * down } : Slot Rat)]
  simp only [List.map_map]
  rfl

end Grid

namespace AutomaticPlacement

variable {p : AutomaticPlacement Rat} {page card : Size Rat} {scale : Rat} {columns rows : Nat}

/-- Cards have a size, gutters are not negative, and the unit has a length. -/
structure Proper (p : AutomaticPlacement Rat) (card : Size Rat) (scale : Rat) : Prop where
  width : 0 < card.width
  height : 0 < card.height
  vertical : 0 ≤ p.gutter.vertical
  horizontal : 0 ≤ p.gutter.horizontal
  scale : 0 < scale

/-- The page without its margins. -/
def content (p : AutomaticPlacement Rat) (page : Size Rat) (scale : Rat) : Frame Rat :=
  let margins := p.margins.scaled scale
  ⟨margins.left, margins.top, page.width - margins.left - margins.right,
    page.height - margins.top - margins.bottom⟩

/-- The width of the content that columns of cards do not take. -/
def leftover (p : AutomaticPlacement Rat) (page card : Size Rat) (scale : Rat) (columns : Nat) : Rat :=
  (p.content page scale).width -
    (columns * card.width + (columns - 1 : Nat) * (p.gutter.scaled scale).horizontal)

/-- The slot in a column and a row, both counted from zero, of a grid with some columns. -/
def slotAt (p : AutomaticPlacement Rat) (page card : Size Rat) (scale : Rat) (columns i j : Nat) :
    Slot Rat where
  x := (p.content page scale).x + (p.align.spaces (p.leftover page card scale columns)).1 +
    i * (card.width + (p.gutter.scaled scale).horizontal)
  y := (p.content page scale).y + j * (card.height + (p.gutter.scaled scale).vertical)

/-- As many columns and rows as the content has room for. -/
structure Counts (p : AutomaticPlacement Rat) (page card : Size Rat) (scale : Rat)
    (columns rows : Nat) : Prop where
  mostColumns : IsGreatest {n | Fits (p.content page scale).width card.width
    (p.gutter.scaled scale).horizontal n} columns
  mostRows : IsGreatest {n | Fits (p.content page scale).height card.height
    (p.gutter.scaled scale).vertical n} rows

/-- The slots fill the content of the page with a grid of as many cards as it has room for, column by
column; what is left over of its width is where the alignment wants it. -/
structure Fills (p : AutomaticPlacement Rat) (page card : Size Rat) (scale : Rat)
    (columns rows : Nat) (slots : List (Slot Rat)) : Prop extends
    Counts p page card scale columns rows where
  length : slots.length = columns * rows
  place : ∀ k < columns * rows,
    slots[k]? = some (p.slotAt page card scale columns (k / rows) (k % rows))
  within : ∀ s ∈ slots, (s.area card).Within (p.content page scale)
  apart : slots.Pairwise fun s t => Disjoint (s.area card).interior (t.area card).interior
  spaces : ∀ first last, slots.head? = some first → slots.getLast? = some last →
    (first.x - (p.content page scale).x,
      (p.content page scale).x + (p.content page scale).width - (last.x + card.width)) =
        p.align.spaces (p.leftover page card scale columns)

theorem Proper.gutter (h : p.Proper card scale) :
    0 ≤ (p.gutter.scaled scale).vertical ∧ 0 ≤ (p.gutter.scaled scale).horizontal :=
  ⟨mul_nonneg h.vertical h.scale.le, mul_nonneg h.horizontal h.scale.le⟩

/-- The grid that there is room for, which is empty without columns or without rows. -/
def gridOf (p : AutomaticPlacement Rat) (page card : Size Rat) (scale : Rat) (columns rows : Nat) :
    Grid Rat :=
  if columns = 0 ∨ rows = 0 then ⟨[], []⟩
  else
    ⟨Grid.offsets
        ((p.content page scale).x + (p.align.spaces (p.leftover page card scale columns)).1)
        (card.width + (p.gutter.scaled scale).horizontal) columns,
      Grid.offsets (p.content page scale).y (card.height + (p.gutter.scaled scale).vertical) rows⟩

theorem exists_grid (h : p.Proper card scale) (page : Size Rat) :
    ∃ columns rows, p.Counts page card scale columns rows ∧
      grid p.align (p.margins.scaled scale) (p.gutter.scaled scale) page card =
        .ok (p.gridOf page card scale columns rows) := by
  obtain ⟨columns, hcolumns, hcols⟩ :=
    exists_fitCount (p.content page scale).width h.width h.gutter.2
  obtain ⟨rows, hrows, hrs⟩ := exists_fitCount (p.content page scale).height h.height h.gutter.1
  refine ⟨columns, rows, ⟨hcols, hrs⟩, ?_⟩
  dsimp only [content] at hcolumns hrows
  unfold grid gridOf
  dsimp only
  rw [hcolumns]
  dsimp only [bind, Except.bind, pure, Except.pure]
  rw [hrows]
  dsimp only
  by_cases hnone : columns = 0 ∨ rows = 0
  · rw [if_pos (by simpa using hnone), if_pos hnone]
  · rw [if_neg (by simpa using hnone), if_neg hnone]
    unfold leftover content GridAlignment.spaces
    cases p.align <;> simp

theorem slots_gridOf (p : AutomaticPlacement Rat) (page card : Size Rat) (scale : Rat)
    (columns rows : Nat) :
    (p.gridOf page card scale columns rows).slots =
      (List.range (columns * rows)).map fun k =>
        p.slotAt page card scale columns (k / rows) (k % rows) := by
  unfold gridOf
  split
  next h =>
    rw [Nat.mul_eq_zero.mpr h]
    rfl
  next => exact Grid.slots_offsets ..

theorem exists_compile (h : p.Proper card scale) (page : Size Rat) :
    ∃ columns rows, p.Counts page card scale columns rows ∧
      p.compile page card scale =
        .ok ((p.gridOf page card scale columns rows).slots,
          match p.crop with
          | none => []
          | some crop =>
            cropLines crop (p.margins.scaled scale) (p.gutter.scaled scale) page card
              (p.gridOf page card scale columns rows)) := by
  obtain ⟨columns, rows, hcounts, hgrid⟩ := exists_grid h page
  refine ⟨columns, rows, hcounts, ?_⟩
  unfold compile
  dsimp only
  rw [hgrid]
  rfl

/-- Columns that fit leave nothing below zero. -/
theorem Counts.leftover_nonneg (h : p.Counts page card scale columns rows) (hcolumns : columns ≠ 0) :
    0 ≤ p.leftover page card scale columns := by
  have := h.mostColumns.1.resolve_left hcolumns
  unfold leftover
  linarith

theorem spaces_nonneg {leftover : Rat} (h : 0 ≤ leftover) (align : GridAlignment) :
    0 ≤ (align.spaces leftover).1 ∧ 0 ≤ (align.spaces leftover).2 ∧
      (align.spaces leftover).1 + (align.spaces leftover).2 = leftover := by
  cases align <;> simp only [GridAlignment.spaces] <;> refine ⟨?_, ?_, ?_⟩ <;> linarith

theorem slotAt_within (h : p.Proper card scale) (hcounts : p.Counts page card scale columns rows)
    (hi : i < columns) (hj : j < rows) :
    ((p.slotAt page card scale columns i j).area card).Within (p.content page scale) := by
  obtain ⟨hv, hh⟩ := h.gutter
  have hwidth := h.width
  have hheight := h.height
  have hacross : 0 ≤ card.width + (p.gutter.scaled scale).horizontal := by linarith
  have hdown : 0 ≤ card.height + (p.gutter.scaled scale).vertical := by linarith
  obtain ⟨hleft, hright⟩ := offset_within hacross hi
  obtain ⟨htop, hbottom⟩ := offset_within hdown hj
  have hrows := hcounts.mostRows.1.resolve_left (Nat.ne_zero_of_lt hj)
  have hspaces := spaces_nonneg (hcounts.leftover_nonneg (Nat.ne_zero_of_lt hi)) p.align
  have hleftover : p.leftover page card scale columns = (p.content page scale).width -
    (columns * card.width + (columns - 1 : Nat) * (p.gutter.scaled scale).horizontal) := rfl
  constructor <;> simp only [Slot.area, slotAt] <;> linarith

/-- Slots in different columns, or in different rows of one column, lie side by side. -/
theorem slotAt_apart (h : p.Proper card scale) {i' j' : Nat} (hne : i < i' ∨ i = i' ∧ j < j') :
    Disjoint ((p.slotAt page card scale columns i j).area card).interior
      ((p.slotAt page card scale columns i' j').area card).interior := by
  obtain ⟨hv, hh⟩ := h.gutter
  have hwidth := h.width
  have hheight := h.height
  rw [Set.disjoint_left]
  rintro ⟨x, y⟩ ⟨-, hx, -, hy⟩ ⟨hx', -, hy', -⟩
  simp only [Slot.area, slotAt] at hx hy hx' hy'
  rcases hne with hlt | ⟨rfl, hlt⟩
  · have hstep : card.width ≤ card.width + (p.gutter.scaled scale).horizontal := by linarith
    have := offset_add_le ((p.content page scale).x +
      (p.align.spaces (p.leftover page card scale columns)).1) hstep (by linarith) hlt
    linarith
  · have hstep : card.height ≤ card.height + (p.gutter.scaled scale).vertical := by linarith
    have := offset_add_le (p.content page scale).y hstep (by linarith) hlt
    linarith

/-- The last slot is in the last column. -/
theorem last_div (hcolumns : columns ≠ 0) (hrows : rows ≠ 0) :
    (columns * rows - 1) / rows = columns - 1 := by
  obtain ⟨c, rfl⟩ := Nat.exists_eq_succ_of_ne_zero hcolumns
  have hpos : 0 < rows := Nat.pos_of_ne_zero hrows
  have hlast : (c + 1) * rows - 1 = rows * c + (rows - 1) := by
    rw [Nat.succ_mul, Nat.mul_comm c rows]
    omega
  rw [Nat.succ_eq_add_one, hlast, Nat.mul_add_div hpos, Nat.div_eq_of_lt (by omega)]
  rfl

theorem fills_of_counts (h : p.Proper card scale) (hcounts : p.Counts page card scale columns rows) :
    p.Fills page card scale columns rows (p.gridOf page card scale columns rows).slots := by
  rw [slots_gridOf]
  have hslot : ∀ {k}, k < columns * rows → k / rows < columns ∧ k % rows < rows := fun hk =>
    ⟨Nat.div_lt_of_lt_mul (by rwa [Nat.mul_comm]),
      Nat.mod_lt _ (Nat.pos_of_ne_zero fun h => by simp [h] at hk)⟩
  refine ⟨hcounts, by simp, fun k hk => by simp [hk], fun s hs => ?_, ?_, ?_⟩
  · obtain ⟨k, hk, rfl⟩ := List.mem_map.mp hs
    obtain ⟨hi, hj⟩ := hslot (List.mem_range.mp hk)
    exact slotAt_within h hcounts hi hj
  · refine List.pairwise_map.mpr (List.pairwise_lt_range.imp fun {k l} hkl => ?_)
    refine slotAt_apart h ?_
    rcases (Nat.div_le_div_right hkl.le : k / rows ≤ l / rows).lt_or_eq with hlt | heq
    · exact .inl hlt
    · refine .inr ⟨heq, ?_⟩
      have hk := Nat.div_add_mod k rows
      have hl := Nat.div_add_mod l rows
      rw [← heq] at hl
      omega
  · intro first last hfirst hlast
    have hcount : columns * rows ≠ 0 := fun h => by simp [h] at hfirst
    obtain ⟨hcolumns, hrows⟩ := Nat.mul_ne_zero_iff.mp hcount
    rw [List.head?_map, List.head?_range, if_neg hcount] at hfirst
    rw [List.getLast?_map, List.getLast?_range, if_neg hcount] at hlast
    obtain rfl := Option.some.inj hfirst
    obtain rfl := Option.some.inj hlast
    have hends : (columns - 1 : Nat) * (card.width + (p.gutter.scaled scale).horizontal) +
        card.width = columns * card.width +
          (columns - 1 : Nat) * (p.gutter.scaled scale).horizontal := by
      rw [Nat.cast_pred (Nat.pos_of_ne_zero hcolumns)]
      ring
    have hspaces := spaces_nonneg (hcounts.leftover_nonneg hcolumns) p.align
    have hleftover : p.leftover page card scale columns = (p.content page scale).width -
      (columns * card.width + (columns - 1 : Nat) * (p.gutter.scaled scale).horizontal) := rfl
    simp only [slotAt, Nat.zero_div, last_div hcolumns hrows, Nat.cast_zero, zero_mul, add_zero]
    ext <;> simp only <;> linarith

/-- Automatic placement fills the page. -/
theorem compile_fills (h : p.Proper card scale) (page : Size Rat) :
    ∃ slots lines columns rows, p.compile page card scale = .ok (slots, lines) ∧
      p.Fills page card scale columns rows slots := by
  obtain ⟨columns, rows, hcounts, hcompile⟩ := exists_compile h page
  exact ⟨_, _, columns, rows, hcompile, fills_of_counts h hcounts⟩

/-- Margins of half an inch, an eighth between rows, a quarter between columns, and marks in the
margins. -/
def centered : AutomaticPlacement Rat := ⟨⟨1/2, 1/2, 1/2, 1/2⟩, ⟨1/8, 1/4⟩, .center, some .margin⟩

theorem compile_fills_centered : centered.Proper ⟨180, 252⟩ 72 ∧
    ∃ slots lines columns rows,
      centered.compile ⟨612, 792⟩ ⟨180, 252⟩ 72 = .ok (slots, lines) ∧ slots.length = 4 ∧
        centered.Fills ⟨612, 792⟩ ⟨180, 252⟩ 72 columns rows slots := by
  have h : centered.Proper ⟨180, 252⟩ 72 := by
    constructor <;> decide +kernel
  have hlength : (centered.compile ⟨612, 792⟩ ⟨180, 252⟩ 72).toOption.map (·.1.length) = some 4 := by
    decide +kernel
  obtain ⟨slots, lines, columns, rows, hcompile, hfills⟩ := compile_fills h ⟨612, 792⟩
  rw [hcompile] at hlength
  exact ⟨h, slots, lines, columns, rows, hcompile, Option.some.inj hlength, hfills⟩

end AutomaticPlacement

end CardPress
