import CardPress.Proofs.Sheet.Grid
import CardPress.Sheet.Type

/-! Crop lines of automatic placement in exact numbers: they run along the edges of cards and never
through one, and marks in the margins stay there. -/
namespace CardPress

namespace Segment

/-- The points from one end to the other. -/
def points (s : Segment Rat) : Set (Rat × Rat) :=
  {p | ∃ t, 0 ≤ t ∧ t ≤ 1 ∧ p.1 = s.x0 + t * (s.x1 - s.x0) ∧ p.2 = s.y0 + t * (s.y1 - s.y0)}

end Segment

/-- A rectangle as it lies on a page whose points count from the bottom left corner. -/
def Frame.fromBottom (pageHeight : Rat) (f : Frame Rat) : Frame Rat :=
  ⟨f.x, pageHeight - f.y - f.height, f.width, f.height⟩

/-- The sheet that a placement comes to. -/
def AutomaticPlacement.sheet {α : Type} [Scalar α] (p : AutomaticPlacement α) (page card : Size α)
    (scale : α) : Except Failure (Sheet α) :=
  (p.compile page card scale).map fun (slots, lines) =>
    ⟨page.width, page.height, card.width, card.height, lines, slots⟩

theorem SheetType.compile_automatic {α : Type} [Scalar α] {t : SheetType α}
    {p : AutomaticPlacement α} {unit : LengthUnit} (hmanual : t.manual = none)
    (hautomatic : t.automatic = some p) (hunit : LengthUnit.ofString t.units = .ok unit) :
    t.compile.outcome = (p.sheet t.page t.card unit.points, []) := by
  have hlift : ∀ f : LengthUnit → Report (Sheet α),
      (liftM (Except.ok unit : Except Failure LengthUnit) >>= f) = f unit := fun _ => rfl
  unfold compile AutomaticPlacement.sheet
  rw [hmanual, hautomatic, hunit, hlift]
  dsimp only
  cases p.compile t.page t.card unit.points <;> rfl

namespace Grid

variable {g : Grid Rat} {offsets : List Rat} {item gap start step x e : Rat} {count i j : Nat}

theorem mem_offsets : x ∈ Grid.offsets start step count ↔ ∃ k < count, x = start + k * step := by
  simp [Grid.offsets, eq_comm]

/-- An edge is a side of an item. -/
theorem mem_edges (h : e ∈ edges offsets item gap) : ∃ x ∈ offsets, e = x ∨ e = x + item := by
  fun_induction edges offsets item gap with
  | case1 => simp at h
  | case2 x => exact ⟨x, by simp, by simpa using h⟩
  | case3 x more hmore ih =>
    rcases List.mem_append.mp h with h | h
    · refine ⟨x, by simp, ?_⟩
      split at h
      · simpa using h
      · exact .inl (by simpa using h)
    · obtain ⟨y, hy, he⟩ := ih h
      exact ⟨y, List.mem_cons_of_mem x hy, he⟩

theorem mem_slots {s : Slot Rat} (h : s ∈ g.slots) : s.x ∈ g.xs ∧ s.y ∈ g.ys := by
  obtain ⟨x, hx, hs⟩ := List.mem_flatMap.mp h
  obtain ⟨y, hy, rfl⟩ := List.mem_map.mp hs
  exact ⟨hx, hy⟩

/-- An edge of one item lies outside another. -/
theorem edge_outside (hitem : 0 ≤ item) (hstep : item ≤ step)
    (he : e = start + i * step ∨ e = start + i * step + item) (j : Nat) :
    e ≤ start + j * step ∨ start + j * step + item ≤ e := by
  have hpos : 0 ≤ step := hitem.trans hstep
  rcases lt_trichotomy i j with h | rfl | h
  · have := offset_add_le start hstep hpos h
    left
    rcases he with rfl | rfl <;> linarith
  · rcases he with rfl | rfl
    · exact .inl le_rfl
    · exact .inr le_rfl
  · have := offset_add_le start hstep hpos h
    right
    rcases he with rfl | rfl <;> linarith

end Grid

namespace CropLine

variable {pageWidth pageHeight : Rat} {line : CropLine Rat} {segment : Segment Rat}
  {point : Rat × Rat}

/-- A line keeps its distance from the left or from the top. -/
theorem points_segments (hs : segment ∈ line.segments pageWidth pageHeight)
    (hp : point ∈ segment.points) :
    match line.axis with
    | .vertical => point.1 = line.offset
    | .horizontal => point.2 = pageHeight - line.offset := by
  obtain ⟨t, -, -, hx, hy⟩ := hp
  unfold segments at hs
  cases hl : line.axis <;> rw [hl] at hs <;> dsimp only at hs ⊢ <;> split at hs <;>
    simp only [List.mem_cons, List.not_mem_nil, or_false] at hs
  · subst hs
    simpa using hy
  · rcases hs with rfl | rfl <;> simpa using hy
  · subst hs
    simpa using hx
  · rcases hs with rfl | rfl <;> simpa using hx

/-- The size of the page along a line. -/
def span (pageWidth pageHeight : Rat) (line : CropLine Rat) : Rat :=
  match line.axis with
  | .vertical => pageHeight
  | .horizontal => pageWidth

theorem length_segments (hhalf : line.length ≤ line.span pageWidth pageHeight / 2) :
    (line.segments pageWidth pageHeight).length = 2 := by
  unfold span at hhalf
  unfold segments
  cases hl : line.axis <;> rw [hl] at hhalf <;> dsimp only <;>
    rw [if_neg (by simpa using hhalf)] <;> rfl

/-- Marks reach no farther into the page than they are long. -/
theorem points_marks (hlength : 0 ≤ line.length)
    (hhalf : line.length ≤ line.span pageWidth pageHeight / 2)
    (hs : segment ∈ line.segments pageWidth pageHeight) (hp : point ∈ segment.points) :
    match line.axis with
    | .vertical => point.2 ≤ line.length ∨ pageHeight - line.length ≤ point.2
    | .horizontal => point.1 ≤ line.length ∨ pageWidth - line.length ≤ point.1 := by
  obtain ⟨t, ht, ht', hx, hy⟩ := hp
  have hscaled : 0 ≤ t * line.length ∧ t * line.length ≤ line.length :=
    ⟨mul_nonneg ht hlength, mul_le_of_le_one_left hlength ht'⟩
  unfold span at hhalf
  unfold segments at hs
  cases hl : line.axis <;> rw [hl] at hs hhalf <;> dsimp only at hs ⊢ <;>
    rw [if_neg (by simpa using hhalf)] at hs <;>
    simp only [List.mem_cons, List.not_mem_nil, or_false] at hs <;> rcases hs with rfl | rfl
  · left
    simp only [Scalar.zero_eq] at hx
    linarith
  · right
    simp only at hx
    linarith
  · right
    simp only at hy
    linarith
  · left
    simp only [Scalar.zero_eq] at hy
    linarith

end CropLine

namespace AutomaticPlacement

variable {p : AutomaticPlacement Rat} {page card : Size Rat} {scale : Rat} {columns rows : Nat}
  {crop : CropLength} {margins : Insets Rat} {gutter : Gutter Rat} {g : Grid Rat}
  {line : CropLine Rat} {segment : Segment Rat} {slot : Slot Rat} {x y : Rat}

/-- Crop lines have a length and run along edges; those of the margins fit into both of them. -/
theorem mem_cropLines (h : line ∈ cropLines crop margins gutter page card g) :
    0 < line.length ∧
      match line.axis with
      | .vertical =>
        line.offset ∈ Grid.edges g.xs card.width gutter.horizontal ∧
          (crop = .margin → line.length ≤ margins.top ∧ line.length ≤ margins.bottom)
      | .horizontal =>
        line.offset ∈ Grid.edges g.ys card.height gutter.vertical ∧
          (crop = .margin → line.length ≤ margins.left ∧ line.length ≤ margins.right) := by
  obtain ⟨h, hlength⟩ := List.mem_filter.mp h
  refine ⟨of_decide_eq_true hlength, ?_⟩
  rcases List.mem_append.mp h with h | h
  · obtain ⟨e, he, rfl⟩ := List.mem_map.mp h
    refine ⟨he, fun hcrop => ?_⟩
    subst hcrop
    exact Scalar.smaller_le _ _
  · obtain ⟨e, he, rfl⟩ := List.mem_map.mp h
    refine ⟨he, fun hcrop => ?_⟩
    subst hcrop
    exact Scalar.smaller_le _ _

/-- Columns start at whole steps from the first, if there are any cards. -/
theorem mem_xs_gridOf (hx : x ∈ (p.gridOf page card scale columns rows).xs) :
    columns ≠ 0 ∧ rows ≠ 0 ∧ ∃ k : Nat,
      x = (p.content page scale).x + (p.align.spaces (p.leftover page card scale columns)).1 +
        k * (card.width + (p.gutter.scaled scale).horizontal) := by
  unfold gridOf at hx
  split at hx
  next => simp at hx
  next h =>
    obtain ⟨k, -, hk⟩ := Grid.mem_offsets.mp hx
    exact ⟨(not_or.mp h).1, (not_or.mp h).2, k, hk⟩

theorem mem_ys_gridOf (hy : y ∈ (p.gridOf page card scale columns rows).ys) :
    columns ≠ 0 ∧ rows ≠ 0 ∧ ∃ k : Nat,
      y = (p.content page scale).y + k * (card.height + (p.gutter.scaled scale).vertical) := by
  unfold gridOf at hy
  split at hy
  next => simp at hy
  next h =>
    obtain ⟨k, -, hk⟩ := Grid.mem_offsets.mp hy
    exact ⟨(not_or.mp h).1, (not_or.mp h).2, k, hk⟩

/-- A line along edges of the grid passes every card by. -/
theorem segments_spare_slot (h : p.Proper card scale)
    (hline : line ∈ cropLines crop margins (p.gutter.scaled scale) page card
      (p.gridOf page card scale columns rows))
    (hslot : slot ∈ (p.gridOf page card scale columns rows).slots)
    (hs : segment ∈ line.segments page.width page.height) :
    Disjoint segment.points ((slot.area card).fromBottom page.height).interior := by
  obtain ⟨hv, hh⟩ := h.gutter
  have hwidth := h.width
  have hheight := h.height
  obtain ⟨hx, hy⟩ := Grid.mem_slots hslot
  obtain ⟨-, hedge⟩ := mem_cropLines hline
  rw [Set.disjoint_left]
  rintro point hp ⟨hleft, hright, hbottom, htop⟩
  have hon := CropLine.points_segments hs hp
  simp only [Frame.fromBottom, Slot.area] at hleft hright hbottom htop
  cases hl : line.axis <;> rw [hl] at hedge hon <;> dsimp only at hedge hon
  · obtain ⟨o, ho, he⟩ := Grid.mem_edges hedge.1
    obtain ⟨-, -, i, rfl⟩ := mem_ys_gridOf ho
    obtain ⟨-, -, j, hj⟩ := mem_ys_gridOf hy
    rcases Grid.edge_outside hheight.le (by linarith) he j with hout | hout <;> linarith
  · obtain ⟨o, ho, he⟩ := Grid.mem_edges hedge.1
    obtain ⟨-, -, i, rfl⟩ := mem_xs_gridOf ho
    obtain ⟨-, -, j, hj⟩ := mem_xs_gridOf hx
    rcases Grid.edge_outside hwidth.le (by linarith) he j with hout | hout <;> linarith

/-- Where there are cards the content of the page has room for one. -/
theorem Counts.card_le (h : p.Proper card scale) (hcounts : p.Counts page card scale columns rows)
    (hcolumns : columns ≠ 0) (hrows : rows ≠ 0) :
    card.width ≤ (p.content page scale).width ∧ card.height ≤ (p.content page scale).height := by
  obtain ⟨hv, hh⟩ := h.gutter
  have hone : ∀ {n : Nat}, n ≠ 0 → (1 : Rat) ≤ n := fun hn => by
    exact_mod_cast Nat.one_le_iff_ne_zero.mpr hn
  have hwide := hcounts.mostColumns.1.resolve_left hcolumns
  have hhigh := hcounts.mostRows.1.resolve_left hrows
  have hwidth := le_mul_of_one_le_left h.width.le (hone hcolumns)
  have hheight := le_mul_of_one_le_left h.height.le (hone hrows)
  have hacross := mul_nonneg (columns - 1 : Nat).cast_nonneg hh
  have hdown := mul_nonneg (rows - 1 : Nat).cast_nonneg hv
  constructor <;> linarith

/-- A line of the margins is shorter than half the page. -/
theorem margin_marks (h : p.Proper card scale) (hcounts : p.Counts page card scale columns rows)
    (hline : line ∈ cropLines .margin (p.margins.scaled scale) (p.gutter.scaled scale) page card
      (p.gridOf page card scale columns rows)) :
    (line.segments page.width page.height).length = 2 ∧
      ∀ segment ∈ line.segments page.width page.height,
        Disjoint segment.points ((p.content page scale).fromBottom page.height).interior := by
  obtain ⟨hlength, hedge⟩ := mem_cropLines hline
  have hwidth := h.width
  have hheight := h.height
  have hnonempty : columns ≠ 0 ∧ rows ≠ 0 := by
    cases hl : line.axis <;> rw [hl] at hedge <;> obtain ⟨o, ho, -⟩ := Grid.mem_edges hedge.1
    · exact ⟨(mem_ys_gridOf ho).1, (mem_ys_gridOf ho).2.1⟩
    · exact ⟨(mem_xs_gridOf ho).1, (mem_xs_gridOf ho).2.1⟩
  obtain ⟨hroomx, hroomy⟩ := hcounts.card_le h hnonempty.1 hnonempty.2
  simp only [content] at hroomx hroomy
  have hhalf : line.length ≤ line.span page.width page.height / 2 := by
    unfold CropLine.span
    cases hl : line.axis <;> rw [hl] at hedge <;> obtain ⟨-, hfits⟩ := hedge <;>
      obtain ⟨hfirst, hsecond⟩ := hfits rfl <;> dsimp only <;> linarith
  refine ⟨CropLine.length_segments hhalf, fun segment hs => Set.disjoint_left.mpr ?_⟩
  rintro point hp ⟨hleft, hright, hbottom, htop⟩
  simp only [Frame.fromBottom, content] at hleft hright hbottom htop
  have hreach := CropLine.points_marks hlength.le hhalf hs hp
  cases hl : line.axis <;> rw [hl] at hedge hreach <;> obtain ⟨-, hfits⟩ := hedge <;>
    obtain ⟨hfirst, hsecond⟩ := hfits rfl <;> rcases hreach with hreach | hreach <;> linarith

/-- Crop lines of automatic placement cut into no card. Those of the margins are marks at the edges of
the page, never whole lines, and stay outside the content of the page. -/
theorem sheet_spares_cards (h : p.Proper card scale) (page : Size Rat) :
    ∃ sheet, p.sheet page card scale = .ok sheet ∧
      (∀ segment ∈ sheet.segments, ∀ slot ∈ sheet.slots,
        Disjoint segment.points ((slot.area card).fromBottom page.height).interior) ∧
      (p.crop = some .margin →
        (∀ line ∈ sheet.cropLines, (line.segments sheet.pageWidth sheet.pageHeight).length = 2) ∧
        ∀ segment ∈ sheet.segments,
          Disjoint segment.points ((p.content page scale).fromBottom page.height).interior) := by
  obtain ⟨columns, rows, hcounts, hcompile⟩ := exists_compile h page
  refine ⟨_, by rw [sheet, hcompile]; rfl, ?_, ?_⟩
  · intro segment hs slot hslot
    obtain ⟨line, hline, hs⟩ := List.mem_flatMap.mp hs
    dsimp only at hline hs hslot
    cases hcrop : p.crop with
    | none => simp [hcrop] at hline
    | some crop =>
      rw [hcrop] at hline
      exact segments_spare_slot h hline hslot hs
  · intro hcrop
    rw [hcrop]
    refine ⟨fun line hline => (margin_marks h hcounts hline).1, fun segment hs => ?_⟩
    obtain ⟨line, hline, hs⟩ := List.mem_flatMap.mp hs
    exact (margin_marks h hcounts hline).2 segment hs

theorem sheet_spares_cards_centered : centered.Proper ⟨180, 252⟩ 72 ∧ centered.crop = some .margin ∧
    ∃ sheet, centered.sheet ⟨612, 792⟩ ⟨180, 252⟩ 72 = .ok sheet ∧
      sheet.slots.length = 4 ∧ sheet.segments.length = 16 ∧
      ∀ segment ∈ sheet.segments, Disjoint segment.points
        ((centered.content ⟨612, 792⟩ 72).fromBottom 792).interior := by
  have h : centered.Proper ⟨180, 252⟩ 72 := by
    constructor <;> decide +kernel
  have hlengths : (centered.sheet ⟨612, 792⟩ ⟨180, 252⟩ 72).toOption.map
      (fun s => (s.slots.length, s.segments.length)) = some (4, 16) := by
    decide +kernel
  obtain ⟨sheet, hsheet, -, hmargin⟩ := sheet_spares_cards h ⟨612, 792⟩
  rw [hsheet] at hlengths
  obtain ⟨hslots, hsegments⟩ := Prod.mk.inj (Option.some.inj hlengths)
  exact ⟨h, rfl, sheet, hsheet, hslots, hsegments, (hmargin rfl).2⟩

end AutomaticPlacement

end CardPress
