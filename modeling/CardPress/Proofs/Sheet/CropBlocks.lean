import CardPress.Proofs.Number.Exact
import CardPress.Proofs.Report
import CardPress.Sheet.Type

/-! Crop lines of a manual placement. They stand in blocks between the cards; all of them are drawn, but
lines that give no length of their own have only one length to take, that of the last block. -/
namespace CardPress

variable {α : Type} [Scalar α]

/-- The lines that stand together in a block, and the length that the block gives for them. -/
structure CropBlock (α : Type) where
  length : Option α
  lines : List (ManualCropLine α)

namespace CropBlock

def ofXml (e : Xml.Element) : Except Failure (CropBlock α) := do
  let length ← e.singleNumber? "length"
  let lines ← e.children.mapM ManualCropLine.ofXml
  return ⟨length, lines⟩

/-- The lines that are drawn if those without a length of their own take `standard`. -/
def drawn (scale : α) (standard : Option α) (b : CropBlock α) : List (CropLine α) :=
  b.lines.filterMap fun line =>
    (line.length.or standard).bind fun length =>
      if length ≤ Scalar.zero then none else some ⟨line.axis, line.offset * scale, length * scale⟩

/-- The length of the last block. -/
def lastLength (blocks : List (CropBlock α)) : Option α := blocks.getLast?.bind (·.length)

theorem singleNumber?_of_ofXml {e : Xml.Element} {b : CropBlock α} (h : ofXml e = .ok b) :
    e.singleNumber? "length" = .ok b.length := by
  obtain ⟨length, hlength, hrest⟩ := bind_eq_ok.mp h
  obtain ⟨lines, -, hb⟩ := bind_eq_ok.mp hrest
  cases hb
  exact hlength

/-- Lines that all have a length of their own take none. -/
theorem drawn_of_own (scale : α) (standard standard' : Option α) {b : CropBlock α}
    (h : ∀ line ∈ b.lines, line.length.isSome = true) : b.drawn scale standard = b.drawn scale standard' := by
  unfold drawn
  refine List.filterMap_congr fun line hline => ?_
  obtain ⟨own, hown⟩ := Option.isSome_iff_exists.mp (h line hline)
  rw [hown, Option.some_or, Option.some_or]

omit [Scalar α] in
theorem lastLength_append {front back : List (CropBlock α)} (h : back ≠ []) :
    lastLength (front ++ back) = lastLength back := by
  unfold lastLength
  rw [List.getLast?_append_of_ne_nil front h]

omit [Scalar α] in
theorem lastLength_concat (front : List (CropBlock α)) (b : CropBlock α) :
    lastLength (front ++ [b]) = b.length := by
  rw [lastLength, List.getLast?_concat, Option.bind_some]

end CropBlock

namespace ManualPlacement

open CropBlock (lastLength)

/-- What stands in a manual placement, in its order: cards, and blocks of crop lines. -/
inductive Reads : List Xml.Element → List (Slot α) → List (CropBlock α) → Prop where
  | nil : Reads [] [] []
  | card {e : Xml.Element} {s : Slot α} {parts slots blocks} (tag : e.tag = "card")
      (slot : Slot.ofXml e = .ok s) (rest : Reads parts slots blocks) :
      Reads (e :: parts) (s :: slots) blocks
  | crop {e : Xml.Element} {b : CropBlock α} {parts slots blocks} (tag : e.tag = "crop-lines")
      (block : CropBlock.ofXml e = .ok b) (rest : Reads parts slots blocks) :
      Reads (e :: parts) slots (b :: blocks)

/-- A placement and what stands behind it: slots and lines are added, the length of lines is replaced. -/
def followed (p : ManualPlacement α) (slots : List (Slot α)) (blocks : List (CropBlock α)) :
    ManualPlacement α :=
  ⟨p.slots ++ slots, p.cropLines ++ blocks.flatMap (·.lines),
    (blocks.getLast?.map (·.length)).getD p.cropLength⟩

variable {e : Xml.Element} {parts front back : List Xml.Element} {slots : List (Slot α)}
  {blocks : List (CropBlock α)} {p q : ManualPlacement α}

omit [Scalar α] in
theorem followed_nil (p : ManualPlacement α) : p.followed [] [] = p := by
  simp [followed]

omit [Scalar α] in
theorem followed_card (p : ManualPlacement α) (s : Slot α) (slots : List (Slot α))
    (blocks : List (CropBlock α)) :
    p.followed (s :: slots) blocks = followed { p with slots := p.slots ++ [s] } slots blocks := by
  simp [followed]

omit [Scalar α] in
theorem followed_crop (p : ManualPlacement α) (slots : List (Slot α)) (b : CropBlock α)
    (blocks : List (CropBlock α)) :
    p.followed slots (b :: blocks) =
      followed { p with cropLines := p.cropLines ++ b.lines, cropLength := b.length } slots blocks := by
  unfold followed
  rw [List.flatMap_cons, List.append_assoc, List.getLast?_cons]
  cases blocks.getLast? <;> rfl

theorem addXml_card (htag : e.tag = "card") (p : ManualPlacement α) :
    p.addXml e = (Slot.ofXml e).map fun s => { p with slots := p.slots ++ [s] } := by
  unfold addXml
  rw [if_pos htag]
  cases Slot.ofXml (α := α) e <;> rfl

theorem addXml_crop (htag : e.tag = "crop-lines") (p : ManualPlacement α) :
    p.addXml e = (CropBlock.ofXml e).map fun b =>
      { p with cropLines := p.cropLines ++ b.lines, cropLength := b.length } := by
  have hcard : e.tag ≠ "card" := by
    rw [htag]
    decide
  unfold addXml CropBlock.ofXml
  rw [if_neg hcard, if_pos htag]
  cases e.singleNumber? (α := α) "length" with
  | error f => rfl
  | ok length => cases e.children.mapM (ManualCropLine.ofXml (α := α)) <;> rfl

theorem Reads.foldlM (h : Reads parts slots blocks) (p : ManualPlacement α) :
    parts.foldlM addXml p = .ok (p.followed slots blocks) := by
  induction h generalizing p with
  | nil =>
    rw [followed_nil]
    rfl
  | card tag slot rest ih =>
    rw [List.foldlM_cons, addXml_card tag, slot, followed_card]
    exact ih _
  | crop tag block rest ih =>
    rw [List.foldlM_cons, addXml_crop tag, block, followed_crop]
    exact ih _

theorem reads_of_foldlM {p q : ManualPlacement α} (h : parts.foldlM addXml p = .ok q) :
    ∃ slots blocks, Reads parts slots blocks ∧ q = p.followed slots blocks := by
  induction parts generalizing p with
  | nil =>
    cases h
    exact ⟨[], [], .nil, (followed_nil _).symm⟩
  | cons e parts ih =>
    rw [List.foldlM_cons] at h
    obtain ⟨next, hnext, hrest⟩ := bind_eq_ok.mp h
    obtain ⟨slots, blocks, hreads, rfl⟩ := ih hrest
    by_cases hcard : e.tag = "card"
    · rw [addXml_card hcard] at hnext
      cases hs : Slot.ofXml (α := α) e with
      | error f =>
        rw [hs] at hnext
        cases hnext
      | ok s =>
        rw [hs] at hnext
        cases hnext
        exact ⟨s :: slots, blocks, .card hcard hs hreads, (followed_card _ s slots blocks).symm⟩
    by_cases hcrop : e.tag = "crop-lines"
    · rw [addXml_crop hcrop] at hnext
      cases hb : CropBlock.ofXml (α := α) e with
      | error f =>
        rw [hb] at hnext
        cases hnext
      | ok b =>
        rw [hb] at hnext
        cases hnext
        exact ⟨slots, b :: blocks, .crop hcrop hb hreads, (followed_crop _ slots b blocks).symm⟩
    · unfold addXml at hnext
      rw [if_neg hcard, if_neg hcrop] at hnext
      cases hnext

theorem ofXml_eq_ok_iff :
    ofXml e = .ok p ↔ ∃ slots blocks, Reads e.children slots blocks ∧
      p = ⟨slots, blocks.flatMap (·.lines), lastLength blocks⟩ := by
  have hstart (slots : List (Slot α)) (blocks : List (CropBlock α)) :
      followed ⟨[], [], none⟩ slots blocks = ⟨slots, blocks.flatMap (·.lines), lastLength blocks⟩ := by
    unfold followed lastLength
    cases blocks.getLast? <;> rfl
  constructor
  · intro h
    obtain ⟨slots, blocks, hreads, rfl⟩ := reads_of_foldlM h
    exact ⟨slots, blocks, hreads, hstart slots blocks⟩
  · rintro ⟨slots, blocks, hreads, rfl⟩
    rw [← hstart]
    exact hreads.foldlM _

/-- A part between others is read by itself. -/
theorem Reads.split (h : Reads (front ++ back) slots blocks) :
    ∃ slots₁ slots₂ blocks₁ blocks₂, Reads front slots₁ blocks₁ ∧ Reads back slots₂ blocks₂ ∧
      slots = slots₁ ++ slots₂ ∧ blocks = blocks₁ ++ blocks₂ := by
  induction front generalizing slots blocks with
  | nil => exact ⟨[], slots, [], blocks, .nil, h, rfl, rfl⟩
  | cons e front ih =>
    cases h with
    | card tag slot rest =>
      obtain ⟨slots₁, slots₂, blocks₁, blocks₂, hfront, hback, rfl, rfl⟩ := ih rest
      exact ⟨_ :: slots₁, slots₂, blocks₁, blocks₂, .card tag slot hfront, hback, rfl, rfl⟩
    | crop tag block rest =>
      obtain ⟨slots₁, slots₂, blocks₁, blocks₂, hfront, hback, rfl, rfl⟩ := ih rest
      exact ⟨slots₁, slots₂, _ :: blocks₁, blocks₂, .crop tag block hfront, hback, rfl, rfl⟩

theorem Reads.append {slots₁ slots₂ : List (Slot α)} {blocks₁ blocks₂ : List (CropBlock α)}
    (h : Reads front slots₁ blocks₁) (h' : Reads back slots₂ blocks₂) :
    Reads (front ++ back) (slots₁ ++ slots₂) (blocks₁ ++ blocks₂) := by
  induction h with
  | nil => exact h'
  | card tag slot _ ih => exact .card tag slot ih
  | crop tag block _ ih => exact .crop tag block ih

theorem Reads.forall₂_blocks (h : Reads parts slots blocks) :
    List.Forall₂ (fun e b => CropBlock.ofXml e = .ok b) (parts.filter (·.tag = "crop-lines")) blocks := by
  induction h with
  | nil => exact .nil
  | card tag _ _ ih =>
    rw [List.filter_cons_of_neg (by simp [tag])]
    exact ih
  | crop tag block _ ih =>
    rw [List.filter_cons_of_pos (by simpa using tag)]
    exact .cons block ih

theorem Reads.blocks_ne_nil (h : Reads parts slots blocks) (hblock : ∃ e ∈ parts, e.tag = "crop-lines") :
    blocks ≠ [] := by
  obtain ⟨e, he, htag⟩ := hblock
  have hmem : e ∈ parts.filter (·.tag = "crop-lines") := List.mem_filter.mpr ⟨he, by simpa using htag⟩
  intro hnone
  have hblocks := h.forall₂_blocks
  rw [hnone, List.forall₂_nil_right_iff] at hblocks
  rw [hblocks] at hmem
  cases hmem

theorem compile_blocks (slots : List (Slot α)) (blocks : List (CropBlock α)) (standard : Option α)
    (scale : α) :
    (⟨slots, blocks.flatMap (·.lines), standard⟩ : ManualPlacement α).compile scale =
      (slots.map fun s => ⟨s.x * scale, s.y * scale, s.rotate, s.reflect⟩,
        blocks.flatMap (·.drawn scale standard)) := by
  unfold compile
  rw [List.filterMap_flatMap]
  congr 1
  refine List.flatMap_congr fun b _ => ?_
  unfold CropBlock.drawn
  refine List.filterMap_congr fun line _ => ?_
  unfold cropLine?
  dsimp only
  cases line.length.or standard <;> rfl

/-- Every card has its slot, and every line of every block is drawn with its own length or else with the one
that the last block gives, unless there is none above zero. So the lines of a block have the length of their
block if all blocks agree with the last one, as far as they are needed. A further block in front of another
one, or one that gives the same length as the last, is drawn between the lines of the others. -/
theorem compile_takes_last_length (h : ofXml e = .ok p) (scale : α) :
    ∃ slots blocks, Reads e.children slots blocks ∧
      (p.compile scale).1 = slots.map (fun s => ⟨s.x * scale, s.y * scale, s.rotate, s.reflect⟩) ∧
      (p.compile scale).2 = blocks.flatMap (·.drawn scale (lastLength blocks)) ∧
      ((∀ b ∈ blocks, b.length = lastLength blocks ∨ ∀ line ∈ b.lines, line.length.isSome = true) →
        (p.compile scale).2 = blocks.flatMap fun b => b.drawn scale b.length) ∧
      ∀ front part back, e.children = front ++ part :: back → part.tag = "crop-lines" →
        ∃ q b before behind, ofXml (.mk e.tag e.attributes e.text (front ++ back)) = .ok q ∧
          CropBlock.ofXml part = .ok b ∧ (q.compile scale).2 = before ++ behind ∧
          ((∃ later ∈ back, later.tag = "crop-lines") ∨ b.length = q.cropLength →
            (p.compile scale).2 = before ++ b.drawn scale p.cropLength ++ behind) := by
  obtain ⟨slots, blocks, hreads, rfl⟩ := ofXml_eq_ok_iff.mp h
  refine ⟨slots, blocks, hreads, ?_, ?_, ?agree, ?further⟩
  · rw [compile_blocks]
  · rw [compile_blocks]
  case agree =>
    intro hagree
    rw [compile_blocks]
    refine List.flatMap_congr fun b hb => ?_
    rcases hagree b hb with hlength | hown
    · rw [hlength]
    · exact CropBlock.drawn_of_own scale _ _ hown
  case further =>
    intro front part back hparts htag
    rw [hparts] at hreads
    obtain ⟨slots₁, _, blocks₁, _, hfront, hrest, rfl, rfl⟩ := hreads.split
    cases hrest with
    | card tag =>
      rw [htag] at tag
      exact absurd tag (by decide)
    | @crop _ b _ slots₂ blocks₂ tag block hback =>
      let shared : Option α := lastLength (blocks₁ ++ blocks₂)
      refine ⟨_, b, blocks₁.flatMap (·.drawn scale shared), blocks₂.flatMap (·.drawn scale shared),
        ofXml_eq_ok_iff.mpr ⟨_, _, hfront.append hback, rfl⟩, block, ?_, ?_⟩
      · rw [compile_blocks, List.flatMap_append]
      · intro hbehind
        have hlast : lastLength (blocks₁ ++ b :: blocks₂) = lastLength (blocks₁ ++ blocks₂) := by
          by_cases hnone : blocks₂ = []
          · subst hnone
            rcases hbehind with hlater | hsame
            · exact absurd rfl (hback.blocks_ne_nil hlater)
            · rw [CropBlock.lastLength_concat, List.append_nil, hsame, List.append_nil]
          · rw [CropBlock.lastLength_append (List.cons_ne_nil b blocks₂),
              CropBlock.lastLength_append hnone]
            have hsingle : lastLength ([b] ++ blocks₂) = lastLength blocks₂ := CropBlock.lastLength_append hnone
            exact hsingle
        rw [compile_blocks, hlast, List.flatMap_append, List.flatMap_cons, List.append_assoc]

/-- A card between two blocks that give the same length; one line gives a length of its own, and it is none. -/
def corners : Xml.Element :=
  .mk "manual" [] "" [
    .mk "crop-lines" [("length", "0.25")] "" [.mk "vertical" [("x", "1")] "" []],
    .mk "card" [("x", "1"), ("y", "2"), ("rotate", "90")] "" [],
    .mk "crop-lines" [("length", "0.25")] "" [
      .mk "horizontal" [("y", "2")] "" [],
      .mk "vertical" [("x", "3"), ("length", "0")] "" []]]

theorem compile_takes_last_length_corners :
    ∃ (p : ManualPlacement Rat) (slots : List (Slot Rat)) (b b' : CropBlock Rat),
      ofXml corners = .ok p ∧ Reads corners.children slots [b, b'] ∧
      (p.compile 72).1 = slots.map (fun s => ⟨s.x * 72, s.y * 72, s.rotate, s.reflect⟩) ∧
      (p.compile 72).2 = b.drawn 72 b.length ++ b'.drawn 72 b'.length ∧
      (p.compile 72).2.map (fun line => (line.offset, line.length)) = [(72, 18), (144, 18)] := by
  have hread : ((ofXml corners : Except Failure (ManualPlacement Rat)).toOption.any fun p =>
      (p.compile 72).2.map (fun line => (line.offset, line.length)) == [(72, 18), (144, 18)]) = true := by
    decide +kernel
  obtain ⟨p, hok, hlines⟩ := exists_of_any hread
  obtain ⟨slots, blocks, hreads, hslots, -, hagree, -⟩ := compile_takes_last_length hok 72
  obtain ⟨b, rest, hb, hrest, rfl⟩ := List.forall₂_cons_left_iff.mp hreads.forall₂_blocks
  obtain ⟨b', none, hb', hnone, rfl⟩ := List.forall₂_cons_left_iff.mp hrest
  cases hnone
  have hlength := CropBlock.singleNumber?_of_ofXml hb
  have hlength' := CropBlock.singleNumber?_of_ofXml hb'
  have hsame : b.length = b'.length := Except.ok.inj (hlength.symm.trans hlength')
  refine ⟨p, slots, b, b', hok, hreads, hslots, ?_, by simpa using hlines⟩
  rw [hagree (List.forall_mem_cons.mpr ⟨.inl hsame, List.forall_mem_singleton.mpr (.inl rfl)⟩),
    List.flatMap_cons, List.flatMap_singleton]

/-- A line that takes the length of its block, and another block behind it that gives none. -/
def crossedBlocks : Xml.Element :=
  .mk "manual" [] "" [
    .mk "crop-lines" [("length", "0.25")] "" [.mk "vertical" [("x", "1")] "" []],
    .mk "card" [("x", "1"), ("y", "2")] "" [],
    .mk "crop-lines" [] "" [.mk "horizontal" [("y", "2"), ("length", "0.5")] "" []]]

/-- Two lines have a length, of their own or from their block, but only one of them is drawn. -/
theorem crossedBlocks_lose_line :
    ∃ (p : ManualPlacement Float) (slots : List (Slot Float)) (blocks : List (CropBlock Float)),
      ofXml crossedBlocks = .ok p ∧ Reads crossedBlocks.children slots blocks ∧
      (p.compile 72).2.length = 1 ∧ (blocks.flatMap fun b => b.drawn 72 b.length).length = 2 := by
  have hread : ((ofXml crossedBlocks : Except Failure (ManualPlacement Float)).toOption.any fun p =>
      (p.compile 72).2.length == 1) = true := by
    decide +kernel
  have hown : crossedBlocks.children.all (fun e => e.tag != "crop-lines" ||
      (CropBlock.ofXml e : Except Failure (CropBlock Float)).toOption.any fun b =>
        (b.drawn 72 b.length).length == 1) = true := by
    decide +kernel
  obtain ⟨p, hok, hdrawn⟩ := exists_of_any hread
  obtain ⟨slots, blocks, hreads, -⟩ := ofXml_eq_ok_iff.mp hok
  obtain ⟨b, rest, hb, hrest, rfl⟩ := List.forall₂_cons_left_iff.mp hreads.forall₂_blocks
  obtain ⟨b', none, hb', hnone, rfl⟩ := List.forall₂_cons_left_iff.mp hrest
  cases hnone
  have hone {e : Xml.Element} {b : CropBlock Float} (hmem : e ∈ crossedBlocks.children)
      (htag : e.tag = "crop-lines") (hb : CropBlock.ofXml e = .ok b) : (b.drawn 72 b.length).length = 1 := by
    have hany := List.all_eq_true.mp hown e hmem
    rw [htag, bne_self_eq_false, Bool.false_or] at hany
    obtain ⟨_, hb', hlength⟩ := exists_of_any hany
    cases hb'.symm.trans hb
    exact beq_iff_eq.mp hlength
  refine ⟨p, slots, [b, b'], hok, hreads, by simpa using hdrawn, ?_⟩
  rw [List.flatMap_cons, List.flatMap_singleton, List.length_append, hone (.head _) rfl hb,
    hone (.tail _ (.tail _ (.head _))) rfl hb']

end ManualPlacement

end CardPress
