import CardPress.Proofs.Number.Exact
import CardPress.Proofs.Sheet.CropMarks
import Mathlib.Data.List.Chain

/-! Crop lines of automatic placement, one for each edge: a side of a card has its line, and an edge
that two cards share has one line and not two. -/
namespace CardPress

/-! The distances that an axis is about. Vertical lines run along the left and right sides of cards,
horizontal ones along their tops and bottoms. -/

namespace Axis

def start (axis : Axis) (s : Slot Rat) : Rat :=
  match axis with
  | vertical => s.x
  | horizontal => s.y

def extent (axis : Axis) (card : Size Rat) : Rat :=
  match axis with
  | vertical => card.width
  | horizontal => card.height

def gap (axis : Axis) (gutter : Gutter Rat) : Rat :=
  match axis with
  | vertical => gutter.horizontal
  | horizontal => gutter.vertical

def starts (axis : Axis) (g : Grid Rat) : List Rat :=
  match axis with
  | vertical => g.xs
  | horizontal => g.ys

/-- How long crop lines are. -/
def reach (axis : Axis) (crop : CropLength) (margins : Insets Rat) (page : Size Rat) : Rat :=
  match crop, axis with
  | .full, vertical => page.height
  | .full, horizontal => page.width
  | .margin, vertical => min margins.top margins.bottom
  | .margin, horizontal => min margins.left margins.right

/-- Where the lines of an axis are, in order. -/
def offsets (axis : Axis) (lines : List (CropLine Rat)) : List Rat :=
  (lines.filter (·.axis = axis)).map (·.offset)

theorem offsets_append (axis : Axis) (xs ys : List (CropLine Rat)) :
    axis.offsets (xs ++ ys) = axis.offsets xs ++ axis.offsets ys := by
  simp [offsets]

/-- Lines of one axis and one length; those of no length are left out. -/
theorem offsets_lines (axis other : Axis) (edges : List Rat) (length : Rat) :
    axis.offsets ((edges.map fun e => (⟨other, e, length⟩ : CropLine Rat)).filter
      fun line => decide (Scalar.zero < line.length)) =
      if other = axis ∧ 0 < length then edges else [] := by
  by_cases hother : other = axis <;> by_cases hlength : 0 < length <;>
    simp [offsets, List.filter_map, Function.comp_def, hother, hlength]

end Axis

/-- The lines of an axis are the edges of the slots, each once and in order: one more than there are
items along the axis where these touch, and two for each item where there is a gap. -/
structure TracesEdges (axis : Axis) (lines : List (CropLine Rat)) (slots : List (Slot Rat))
    (card : Size Rat) (gap : Rat) (items : Nat) : Prop where
  increasing : (axis.offsets lines).Pairwise (· < ·)
  edges : ∀ e, e ∈ axis.offsets lines ↔
    ∃ s ∈ slots, e = axis.start s ∨ e = axis.start s + axis.extent card
  count : (axis.offsets lines).length = if gap = 0 then items + 1 else 2 * items

namespace Grid

variable {g : Grid Rat} {xs : List Rat} {item gap x e : Rat}

/-- Each item starts at the same distance from the one before it. -/
def Evenly (step : Rat) (xs : List Rat) : Prop := xs.IsChain fun x y => y = x + step

theorem evenly_offsets (start step : Rat) (count : Nat) : Evenly step (offsets start step count) := by
  refine List.isChain_iff_getElem.mpr fun i hi => ?_
  simp only [offsets, List.getElem_map, List.getElem_range, Scalar.ofNat_eq_cast]
  push_cast
  ring

theorem Evenly.pairwise {step : Rat} (hstep : 0 ≤ step) (h : Evenly step xs) :
    xs.Pairwise fun x y => x + step ≤ y := by
  have htrans : ∀ x y z : Rat, x + step ≤ y → y + step ≤ z → x + step ≤ z := by
    intro x y z hxy hyz
    linarith
  have : IsTrans Rat fun x y => x + step ≤ y := ⟨htrans⟩
  exact (List.IsChain.imp (fun x y hxy => hxy.ge) h).pairwise

theorem length_edges (hxs : xs ≠ []) :
    (edges xs item gap).length = if 0 < gap then 2 * xs.length else xs.length + 1 := by
  fun_induction edges xs item gap with
  | case1 => exact absurd rfl hxs
  | case2 x => simp
  | case3 x more hmore ih =>
    rw [List.length_append, ih hmore, Scalar.zero_eq]
    split <;> simp only [List.length_cons, List.length_nil] <;> omega

theorem edges_increasing (hitem : 0 < item) (hgap : 0 ≤ gap)
    (hxs : xs.Pairwise fun x y => x + (item + gap) ≤ y) : (edges xs item gap).Pairwise (· < ·) := by
  fun_induction edges xs item gap with
  | case1 => exact .nil
  | case2 x => simpa using hitem
  | case3 x more hmore ih =>
    obtain ⟨hx, hpairs⟩ := List.pairwise_cons.mp hxs
    have hlater : ∀ e ∈ edges more item gap, x + (item + gap) ≤ e := by
      intro e he
      obtain ⟨y, hy, he⟩ := mem_edges he
      have := hx y hy
      rcases he with rfl | rfl <;> linarith
    refine List.pairwise_append.mpr ⟨?_, ih hpairs, fun d hd e he => ?_⟩
    · split
      · simpa using hitem
      · simp
    · have := hlater e he
      split at hd
      next hpos =>
        rw [Scalar.zero_eq] at hpos
        rcases List.mem_pair.mp hd with rfl | rfl <;> linarith
      next =>
        obtain rfl := List.mem_singleton.mp hd
        linarith

theorem start_mem_edges (hx : x ∈ xs) : x ∈ edges xs item gap := by
  fun_induction edges xs item gap with
  | case1 => exact hx
  | case2 y => exact List.mem_cons.mpr (.inl (List.mem_singleton.mp hx))
  | case3 y more hmore ih =>
    rcases List.mem_cons.mp hx with rfl | hx
    · exact List.mem_append_left _ (by split <;> simp)
    · exact List.mem_append_right _ (ih hx)

/-- Where an item has no edge of its own at its end, the next one starts there. -/
theorem end_mem_edges (hgap : 0 ≤ gap) (hxs : Evenly (item + gap) xs) (hx : x ∈ xs) :
    x + item ∈ edges xs item gap := by
  fun_induction edges xs item gap with
  | case1 => exact absurd hx List.not_mem_nil
  | case2 y => simp [List.mem_singleton.mp hx]
  | case3 y more hmore ih =>
    obtain ⟨z, rest, rfl⟩ := List.exists_cons_of_ne_nil hmore
    obtain ⟨hz, hrest⟩ := List.isChain_cons_cons.mp hxs
    rcases List.mem_cons.mp hx with rfl | hx
    · rcases hgap.lt_or_eq with hpos | rfl
      · exact List.mem_append_left _ (by simp [hpos])
      · rw [add_zero] at hz
        exact List.mem_append_right _ (hz ▸ start_mem_edges (by simp))
    · exact List.mem_append_right _ (ih hrest hx)

theorem mem_edges_iff (hgap : 0 ≤ gap) (hxs : Evenly (item + gap) xs) :
    e ∈ edges xs item gap ↔ ∃ x ∈ xs, e = x ∨ e = x + item := by
  refine ⟨mem_edges, ?_⟩
  rintro ⟨x, hx, rfl | rfl⟩
  · exact start_mem_edges hx
  · exact end_mem_edges hgap hxs hx

theorem starts_ne_nil (h : g.slots ≠ []) (axis : Axis) : axis.starts g ≠ [] := by
  obtain ⟨s, hs⟩ := List.exists_mem_of_ne_nil _ h
  obtain ⟨hx, hy⟩ := mem_slots hs
  cases axis
  · exact List.ne_nil_of_mem hy
  · exact List.ne_nil_of_mem hx

/-- Every column has a slot, and so has every row. -/
theorem mem_starts_iff (h : g.slots ≠ []) (axis : Axis) :
    x ∈ axis.starts g ↔ ∃ s ∈ g.slots, axis.start s = x := by
  obtain ⟨a, ha⟩ := List.exists_mem_of_ne_nil _ (starts_ne_nil h .vertical)
  obtain ⟨b, hb⟩ := List.exists_mem_of_ne_nil _ (starts_ne_nil h .horizontal)
  have hslot : ∀ x ∈ g.xs, ∀ y ∈ g.ys, ({ x, y } : Slot Rat) ∈ g.slots := fun x hx y hy =>
    List.mem_flatMap.mpr ⟨x, hx, List.mem_map_of_mem hy⟩
  constructor
  · intro hx
    cases axis with
    | vertical => exact ⟨_, hslot x hx b hb, rfl⟩
    | horizontal => exact ⟨_, hslot a ha x hx, rfl⟩
  · rintro ⟨s, hs, rfl⟩
    cases axis with
    | vertical => exact (mem_slots hs).1
    | horizontal => exact (mem_slots hs).2

end Grid

namespace AutomaticPlacement

variable {p : AutomaticPlacement Rat} {page card : Size Rat} {scale : Rat} {columns rows : Nat}
  {crop : CropLength} {margins : Insets Rat} {gutter : Gutter Rat} {g : Grid Rat}

/-- Columns for vertical lines, rows for horizontal ones. -/
def items (columns rows : Nat) : Axis → Nat
  | .vertical => columns
  | .horizontal => rows

/-- The lines of an axis run along the edges of the grid, if they have a length. -/
theorem offsets_cropLines {axis : Axis} (hreach : 0 < axis.reach crop margins page) :
    axis.offsets (cropLines crop margins gutter page card g) =
      Grid.edges (axis.starts g) (axis.extent card) (axis.gap gutter) := by
  unfold cropLines
  cases crop <;> cases axis <;> simp only [Axis.reach] at hreach <;>
    simp only [List.filter_append, Axis.offsets_append, Axis.offsets_lines, Scalar.smaller_eq_min] <;>
    simp [hreach, Axis.starts, Axis.extent, Axis.gap]

theorem length_cropLines {line : CropLine Rat}
    (h : line ∈ cropLines crop margins gutter page card g) :
    line.length = line.axis.reach crop margins page ∧ 0 < line.length := by
  refine ⟨?_, (mem_cropLines h).1⟩
  obtain ⟨h, -⟩ := List.mem_filter.mp h
  rcases List.mem_append.mp h with h | h <;> obtain ⟨e, -, rfl⟩ := List.mem_map.mp h <;>
    cases crop <;> simp [Axis.reach, Scalar.smaller_eq_min]

theorem cropLines_of_no_slots
    (h : (p.gridOf page card scale columns rows).slots = []) :
    cropLines crop margins gutter page card (p.gridOf page card scale columns rows) = [] := by
  have hnone : columns = 0 ∨ rows = 0 := by
    rw [slots_gridOf] at h
    simpa using h
  rw [gridOf, if_pos hnone]
  cases crop <;> rfl

theorem starts_gridOf (h : (p.gridOf page card scale columns rows).slots ≠ []) (axis : Axis) :
    Grid.Evenly (axis.extent card + axis.gap (p.gutter.scaled scale))
        (axis.starts (p.gridOf page card scale columns rows)) ∧
      (axis.starts (p.gridOf page card scale columns rows)).length = items columns rows axis := by
  unfold gridOf at h ⊢
  split at h
  next => exact absurd rfl h
  next hsome =>
    rw [if_neg hsome]
    cases axis <;> exact ⟨Grid.evenly_offsets .., by simp [Axis.starts, Grid.offsets, items]⟩

theorem tracesEdges_gridOf (h : p.Proper card scale)
    (hslots : (p.gridOf page card scale columns rows).slots ≠ []) {axis : Axis}
    (hreach : 0 < axis.reach crop margins page) :
    TracesEdges axis
      (cropLines crop margins (p.gutter.scaled scale) page card (p.gridOf page card scale columns rows))
      (p.gridOf page card scale columns rows).slots card (axis.gap p.gutter)
      (items columns rows axis) := by
  have hextent : 0 < axis.extent card := by
    cases axis
    · exact h.height
    · exact h.width
  have hgap : 0 ≤ axis.gap (p.gutter.scaled scale) := by
    cases axis
    · exact h.gutter.1
    · exact h.gutter.2
  have hscaled : axis.gap (p.gutter.scaled scale) = axis.gap p.gutter * scale := by
    cases axis <;> rfl
  obtain ⟨hevenly, hlength⟩ := starts_gridOf hslots axis
  constructor <;> rw [offsets_cropLines hreach]
  · exact Grid.edges_increasing hextent hgap (hevenly.pairwise (by linarith))
  · intro e
    rw [Grid.mem_edges_iff hgap hevenly]
    simp only [Grid.mem_starts_iff hslots]
    simp
  · rw [Grid.length_edges (Grid.starts_ne_nil hslots axis), hlength]
    by_cases hzero : axis.gap p.gutter = 0
    · rw [if_pos hzero, if_neg (by simp [hscaled, hzero])]
    · rw [if_neg hzero, if_pos (hgap.lt_of_ne' (hscaled ▸ mul_ne_zero hzero h.scale.ne'))]

/-- Crop lines are the edges of the slots, each once, where the lines of the axis have a length; there
are none without slots. -/
theorem compile_traces_edges (h : p.Proper card scale) (hcrop : p.crop = some crop)
    (page : Size Rat) :
    ∃ slots lines columns rows, p.compile page card scale = .ok (slots, lines) ∧
      p.Fills page card scale columns rows slots ∧
      (slots = [] → lines = []) ∧
      (∀ line ∈ lines, line.length = line.axis.reach crop (p.margins.scaled scale) page) ∧
      ∀ axis : Axis,
        (slots ≠ [] → 0 < axis.reach crop (p.margins.scaled scale) page →
          TracesEdges axis lines slots card (axis.gap p.gutter) (items columns rows axis)) ∧
        (¬ 0 < axis.reach crop (p.margins.scaled scale) page → ∀ line ∈ lines, line.axis ≠ axis) := by
  obtain ⟨columns, rows, hcounts, hcompile⟩ := exists_compile h page
  rw [hcrop] at hcompile
  refine ⟨_, _, columns, rows, hcompile, fills_of_counts h hcounts, cropLines_of_no_slots,
    fun line hline => (length_cropLines hline).1,
    fun axis => ⟨fun hslots hreach => tracesEdges_gridOf h hslots hreach, ?_⟩⟩
  rintro hreach line hline rfl
  obtain ⟨hlength, hpos⟩ := length_cropLines hline
  exact hreach (hlength ▸ hpos)

theorem compile_traces_edges_centered : centered.Proper ⟨180, 252⟩ 72 ∧
    centered.crop = some .margin ∧
    ∃ slots lines columns rows,
      centered.compile ⟨612, 792⟩ ⟨180, 252⟩ 72 = .ok (slots, lines) ∧
      slots ≠ [] ∧
      (∀ axis : Axis, 0 < axis.reach .margin (centered.margins.scaled 72) ⟨612, 792⟩) ∧
      TracesEdges .vertical lines slots ⟨180, 252⟩ (1/4) columns ∧
      TracesEdges .horizontal lines slots ⟨180, 252⟩ (1/8) rows := by
  have h : centered.Proper ⟨180, 252⟩ 72 := by
    constructor <;> decide +kernel
  have hlength : (centered.compile ⟨612, 792⟩ ⟨180, 252⟩ 72).toOption.map (·.1.length) = some 4 := by
    decide +kernel
  have hreach : ∀ axis : Axis, 0 < axis.reach .margin (centered.margins.scaled 72) ⟨612, 792⟩ := by
    intro axis
    cases axis <;> decide +kernel
  have hcrop : centered.crop = some .margin := rfl
  obtain ⟨slots, lines, columns, rows, hcompile, -, -, -, hedges⟩ :=
    compile_traces_edges h hcrop ⟨612, 792⟩
  rw [hcompile] at hlength
  have hslots : slots ≠ [] := List.ne_nil_of_length_pos (by simp [Option.some.inj hlength])
  exact ⟨h, hcrop, slots, lines, columns, rows, hcompile, hslots, hreach,
    (hedges .vertical).1 hslots (hreach _), (hedges .horizontal).1 hslots (hreach _)⟩

end AutomaticPlacement

end CardPress
