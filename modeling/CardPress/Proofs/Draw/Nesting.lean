import CardPress.Proofs.Draw.ImagePlace
import CardPress.Proofs.Draw.Painted
import CardPress.Proofs.Paint.Figures
import Mathlib.Algebra.BigOperators.Group.List.Basic
import Mathlib.Data.List.Forall2

/-! Boxes inside boxes: everything drawn in them stands where the corners of the boxes put it, is cut
off at all of them, and leaves the page as it was. -/
namespace CardPress

open CanvasCall PageState PaintCall

variable {α : Type}

/-- The boxes around something, the innermost first. -/
abbrev Nest (α : Type) := List (Frame α)

namespace Nest

/-- A point inside boxes on the page of a card. Pixels count from the top left corner of the innermost
box, and points from the bottom left corner of the page. -/
def point (height dpi : Rat) (nest : Nest Rat) (x y : Rat) : Rat × Rat :=
  (((nest.map (·.x)).sum + x) * 72 / dpi, (height - (nest.map (·.y)).sum - y) * 72 / dpi)

/-- The rectangles of the boxes on the page, the outermost first. -/
def regions (height dpi : Rat) : Nest Rat → List (Set (Rat × Rat))
  | [] => []
  | box :: outer => regions height dpi outer ++ [box.under (point height dpi outer)]

theorem point_cons (height dpi : Rat) (box : Frame Rat) (nest : Nest Rat) (x y : Rat) :
    point height dpi (box :: nest) x y = point height dpi nest (box.x + x) (box.y + y) := by
  simp only [point, List.map_cons, List.sum_cons]
  ext <;> ring

/-- Turned over inside the boxes, to the right is to the right on the page and up is up. -/
theorem point_turned (height dpi : Rat) (nest : Nest Rat) (x y u v : Rat) :
    point height dpi nest (x + u) (y - v) =
      ((point height dpi nest x y).1 + u * 72 / dpi, (point height dpi nest x y).2 + v * 72 / dpi) := by
  simp only [point]
  ext <;> ring

end Nest

/-- An element that is no box, the boxes around it, and the size of the innermost of them or else of
the card. -/
structure Leaf (α : Type) where
  element : Element α
  width : α
  height : α
  nest : Nest α

namespace Element

mutual

/-- What is in an element apart from boxes, in the order in which it is drawn. -/
def leaves (width height : α) (nest : Nest α) : Element α → List (Leaf α)
  | .box frame children => allLeaves frame.width frame.height (frame :: nest) children
  | e => [⟨e, width, height, nest⟩]

def allLeaves (width height : α) (nest : Nest α) : List (Element α) → List (Leaf α)
  | [] => []
  | e :: rest => leaves width height nest e ++ allLeaves width height nest rest

end

end Element

/-- Where an element cuts a figure off: at the frame of an image, if its mode asks for that or the
image is missing. -/
def Element.cuts (e : Element α) (f : Figure α) : List (Frame α) :=
  match e with
  | .image _ frame mode => if f.isImage && !mode.isCut then [] else [frame]
  | _ => []

namespace Leaf

/-- A mark shows a figure in its place inside the boxes, upright and unmirrored if it is text or an
image, and cut off at the boxes and nowhere else but where the element cuts it off. -/
structure Stands (height dpi : Rat) (leaf : Leaf Rat) (f : Figure Rat) (mark : Mark) : Prop where
  shows : mark.Shows (leaf.nest.point height dpi) f
  upright : f.isUpright → ∀ u v, mark.pen.place.apply u v =
    ((mark.pen.place.apply 0 0).1 + u * 72 / dpi, (mark.pen.place.apply 0 0).2 + v * 72 / dpi)
  clips : mark.pen.clips = leaf.nest.regions height dpi ++
    (leaf.element.cuts f).map (·.under (leaf.nest.point height dpi))

theorem Stands.of_shows {height dpi : Rat} {leaf : Leaf Rat} {f : Figure Rat} {mark : Mark}
    (hshows : mark.Shows (leaf.nest.point height dpi) f)
    (hclips : mark.pen.clips = leaf.nest.regions height dpi ++
      (leaf.element.cuts f).map (·.under (leaf.nest.point height dpi))) :
    leaf.Stands height dpi f mark := by
  refine ⟨hshows, fun hf u v => ?_, hclips⟩
  have hturned : ∃ x y, ∀ u v,
      mark.pen.place.apply u v = leaf.nest.point height dpi (x + u) (y - v) := by
    cases f with
    | area frame filled => simp [Figure.isUpright] at hf
    | line x0 y0 x1 y1 => simp [Figure.isUpright] at hf
    | string s x baseline => exact ⟨x, baseline, hshows.2⟩
    | image picture frame => exact ⟨frame.x, frame.y + frame.height, hshows.2.1⟩
  obtain ⟨x, y, hturned⟩ := hturned
  rw [hturned, hturned, add_zero, sub_zero, Nest.point_turned]

/-- Marks show what is seen of an element, each in its place. -/
def Marked (height dpi : Rat) (leaf : Leaf Rat) (marks : List Mark) : Prop :=
  ∃ calls, leaf.element.Paints leaf.width leaf.height calls ∧
    List.Forall₂ (leaf.Stands height dpi) (calls.flatMap figures) marks

end Leaf

/-- The pen inside boxes, before anything is drawn there. -/
structure Pen.In (height dpi : Rat) (nest : Nest Rat) (pen : Pen) : Prop where
  place : ∀ x y, pen.place.apply x y = nest.point height dpi x y
  clips : pen.clips = nest.regions height dpi

namespace Pen.In

variable {height dpi : Rat} {nest : Nest Rat} {pen : Pen}

theorem clips_clip (h : pen.In height dpi nest) (frame : Frame Rat) :
    (pen.clip frame).clips = nest.regions height dpi ++ [frame.under (nest.point height dpi)] := by
  rw [Pen.clip, h.clips, funext₂ h.place]

/-- Going into a box. -/
theorem box (h : pen.In height dpi nest) (frame : Frame Rat) :
    ((pen.translate frame.x frame.y).clip ⟨0, 0, frame.width, frame.height⟩).In height dpi
      (frame :: nest) where
  place x y := by rw [place_clip, apply_translate, h.place, Nest.point_cons]
  clips := by
    have hregion : (⟨0, 0, frame.width, frame.height⟩ : Frame Rat).under
        (pen.translate frame.x frame.y).place.apply = frame.under (nest.point height dpi) :=
      Frame.under_congr fun a b => by rw [apply_translate, h.place, zero_add, zero_add]
    rw [Pen.clip, clips_translate, h.clips, hregion, Nest.regions]

end Pen.In

/-- Calls that come to nothing but marks: those of each leaf in turn, each in its place. -/
structure Settles (height dpi : Rat) (nest : Nest Rat) (calls : List (PaintCall Rat))
    (leaves : List (Leaf Rat)) : Prop where
  traceless : Traceless (calls.flatMap canvasCalls)
  marked : ∀ s : PageState, s.pen.In height dpi nest → ∃ groups,
    s.marks (calls.flatMap canvasCalls) = groups.flatten ∧
      List.Forall₂ (Leaf.Marked height dpi) leaves groups

namespace Settles

variable {height dpi : Rat} {nest : Nest Rat} {e : Element Rat} {calls more : List (PaintCall Rat)}
  {leaves leaves' : List (Leaf Rat)} {frame : Frame Rat} {w h : Rat}

theorem nil : Settles height dpi nest [] [] := ⟨.nil, fun _ _ => ⟨[], rfl, .nil⟩⟩

theorem append (hfirst : Settles height dpi nest calls leaves)
    (hrest : Settles height dpi nest more leaves') :
    Settles height dpi nest (calls ++ more) (leaves ++ leaves') := by
  refine ⟨?_, fun s hs => ?_⟩
  · rw [List.flatMap_append]
    exact hfirst.traceless.append hrest.traceless
  · obtain ⟨groups, hgroups, hleaves⟩ := hfirst.marked s hs
    obtain ⟨groups', hgroups', hleaves'⟩ := hrest.marked s hs
    refine ⟨groups ++ groups', ?_, List.rel_append hleaves hleaves'⟩
    -- The first calls leave no trace, so the others find the pen that the first ones found.
    rw [List.flatMap_append, hfirst.traceless.marks_append, hgroups, hgroups', List.flatten_append]

/-- One leaf, whose marks are left with a pen that stands right. -/
theorem leaf (hpaints : e.Paints w h calls) (htraceless : Traceless (calls.flatMap canvasCalls))
    (hmarks : ∀ s : PageState, s.pen.In height dpi nest → ∃ pen : Pen,
      s.marks (calls.flatMap canvasCalls) = (calls.flatMap figures).map (Figure.mark pen) ∧
        (∀ x y, pen.place.apply x y = nest.point height dpi x y) ∧
        ∀ f ∈ calls.flatMap figures, pen.clips = nest.regions height dpi ++
          (e.cuts f).map (·.under (nest.point height dpi))) :
    Settles height dpi nest calls [⟨e, w, h, nest⟩] := by
  refine ⟨htraceless, fun s hs => ?_⟩
  obtain ⟨pen, hpen, hplace, hclips⟩ := hmarks s hs
  refine ⟨[s.marks (calls.flatMap canvasCalls)], by simp, .cons ⟨calls, hpaints, ?_⟩ .nil⟩
  rw [hpen, List.forall₂_map_right_iff, List.forall₂_same]
  exact fun f hf => .of_shows (Figure.mark_shows hplace f) (by rw [Figure.clips_mark, hclips f hf])

/-- A leaf that is drawn with the pen of the boxes around it. -/
theorem plain (hpaints : e.Paints w h calls) (hplain : ∀ c ∈ calls, c.isPlain)
    (hcuts : ∀ f ∈ calls.flatMap figures, e.cuts f = []) :
    Settles height dpi nest calls [⟨e, w, h, nest⟩] := by
  have hleaves := plain_leaves hplain
  refine leaf hpaints hleaves.toTraceless fun s hs => ⟨s.pen, hleaves.marks s, hs.place, fun f hf => ?_⟩
  rw [hcuts f hf, hs.clips, List.map_nil, List.append_nil]

/-- A leaf that is cut off at its frame. -/
theorem cut (hpaints : e.Paints w h (cutAt frame calls)) (hplain : ∀ c ∈ calls, c.isPlain)
    (hcuts : ∀ f ∈ calls.flatMap figures, e.cuts f = [frame]) :
    Settles height dpi nest (cutAt frame calls) [⟨e, w, h, nest⟩] := by
  have hleaves := plain_leaves hplain
  have hcalls : (cutAt frame calls).flatMap canvasCalls =
      .saveState :: (.clip frame :: calls.flatMap canvasCalls) ++ [.restoreState] := by
    simp [cutAt, canvasCalls]
  have hfigures : (cutAt frame calls).flatMap figures = calls.flatMap figures := by
    simp [cutAt, figures]
  refine leaf hpaints ?_ fun s hs => ⟨s.pen.clip frame, ?_, hs.place, fun f hf => ?_⟩
  · rw [hcalls]
    exact .block (.cons rfl hleaves.nested)
  · rw [hcalls, hfigures, marks_block]
    exact hleaves.marks ⟨s.pen.clip frame, s.pen :: s.saved⟩
  · rw [hcuts f (hfigures ▸ hf), hs.clips_clip, List.map_singleton]

/-- What is inside a box, between going into it and leaving it. -/
theorem box (hinner : Settles height dpi (frame :: nest) calls leaves) :
    Settles height dpi nest (boxed frame calls) leaves := by
  have hcalls : (boxed frame calls).flatMap canvasCalls =
      .saveState :: (.translate frame.x frame.y :: .clip ⟨0, 0, frame.width, frame.height⟩ ::
        calls.flatMap canvasCalls) ++ [.restoreState] := by
    simp [boxed, canvasCalls]
  refine ⟨?_, fun s hs => ?_⟩
  · rw [hcalls]
    exact .block (.cons rfl (.cons rfl hinner.traceless.nested))
  · rw [hcalls, marks_block]
    exact hinner.marked ⟨_, s.pen :: s.saved⟩ (hs.box frame)

end Settles

theorem ShapeStyle.plain_calls [Scalar α] {frame : Frame α} (style : Option (ShapeStyle α)) :
    ∀ c ∈ style.toList.flatMap (calls frame), c.isPlain := by
  intro c hc
  obtain ⟨style, -, hc⟩ := List.mem_flatMap.mp hc
  rcases List.mem_append.mp hc with hc | hc
  · obtain ⟨color, -, rfl⟩ := List.mem_map.mp hc
    rfl
  · split at hc
    · obtain ⟨color, -, rfl⟩ := List.mem_map.mp hc
      rfl
    · simp at hc

/-- What stands for a missing image is cut off at the frame, and shows no image. -/
theorem Draw.missingImageCalls_eq [Scalar α] (fonts : FontRegistry) (dpi : α) (frame : Frame α)
    (s : String) : ∃ calls, missingImageCalls fonts dpi frame s = cutAt frame calls ∧
      (∀ c ∈ calls, c.isPlain) ∧ ∀ f ∈ calls.flatMap figures, f.isImage = false := by
  refine ⟨[_, _, _, _, _], rfl, by simp [isPlain], fun f hf => ?_⟩
  obtain ⟨c, hc, hf⟩ := List.mem_flatMap.mp hf
  simp only [List.mem_cons, List.not_mem_nil, or_false] at hc
  rcases hc with rfl | rfl | rfl | rfl | rfl
  · exact isImage_fillFigures hf
  · obtain rfl := List.mem_singleton.mp hf
    rfl
  · obtain rfl := List.mem_singleton.mp hf
    rfl
  · obtain rfl := List.mem_singleton.mp hf
    rfl
  · exact isImage_text (by simp) hf

namespace Element

variable {height dpi w h : Rat} {nest : Nest Rat} {calls : List (PaintCall Rat)}

theorem Paints.settles_image {name : CardText} {frame : Frame Rat} {mode : ScaleMode}
    (hpaints : (image name frame mode).Paints w h calls) :
    Settles height dpi nest calls [⟨.image name frame mode, w, h, nest⟩] := by
  cases hpaints with
  | missing _ _ _ fonts dpi' s =>
    obtain ⟨calls, hcalls, hplain, hshown⟩ := Draw.missingImageCalls_eq fonts dpi' frame s
    have hpaints : (image name frame mode).Paints w h (Draw.missingImageCalls fonts dpi' frame s) :=
      .missing name frame mode fonts dpi' s
    rw [hcalls] at hpaints ⊢
    exact .cut hpaints hplain fun f hf => by simp [cuts, hshown f hf]
  | whole _ hplace =>
    refine .plain (.whole name hplace) (by simp [isPlain]) fun f hf => ?_
    obtain rfl := List.mem_singleton.mp hf
    simp [cuts, Figure.isImage, ← ScaleMode.clipped_eq hplace]
  | clipped _ hplace =>
    refine .cut (.clipped name hplace) (by simp [isPlain]) fun f _ => ?_
    simp [cuts, ← ScaleMode.clipped_eq hplace]

mutual

/-- Whatever an element paints, its leaves leave their marks in their places and nothing else. -/
theorem Paints.settles {w h : Rat} {nest : Nest Rat} {calls : List (PaintCall Rat)} (e : Element Rat)
    (hpaints : e.Paints w h calls) : Settles height dpi nest calls (e.leaves w h nest) := by
  cases e with
  | background styles =>
    cases hpaints with
    | background _ style =>
      exact .plain (.background styles style) (ShapeStyle.plain_calls style) fun _ _ => rfl
  | rectangle frame styles =>
    cases hpaints with
    | rectangle _ _ style =>
      exact .plain (.rectangle frame styles style) (ShapeStyle.plain_calls style) fun _ _ => rfl
  | text contents frame name styles =>
    cases hpaints with
    | hidden => exact .plain (.hidden contents frame name styles) (by simp) fun _ _ => rfl
    | text _ _ _ _ runs align =>
      exact .plain (.text contents frame name styles runs align) (by simp [isPlain]) fun _ _ => rfl
  | image name frame mode => exact hpaints.settles_image
  | box frame children =>
    cases hpaints with
    | box hchildren => exact (PaintsAll.settles children hchildren).box

theorem PaintsAll.settles {w h : Rat} {nest : Nest Rat} {calls : List (PaintCall Rat)}
    (es : List (Element Rat)) (hpaints : PaintsAll w h es calls) :
    Settles height dpi nest calls (allLeaves w h nest es) := by
  cases hpaints with
  | nil => exact .nil
  | cons hfirst hrest => exact (Paints.settles _ hfirst).append (PaintsAll.settles _ hrest)

end

end Element

/-- A page that was turned over to stand upright. -/
theorem PageState.blank_turned {height dpi : Rat} {turn : List (CanvasCall Rat)}
    (h : CanvasCall.turnOver height dpi = .ok turn) :
    Nested turn ∧ (blank.after turn).pen.In height dpi [] := by
  obtain ⟨k, hk, h⟩ := bind_eq_ok.mp h
  cases h
  obtain rfl : k = 72 / dpi := by
    unfold Scalar.divide at hk
    split at hk
    · cases hk
    · exact (Except.ok.inj hk).symm
  refine ⟨.cons rfl (.call rfl), fun x y => ?_, rfl⟩
  change ((blank.pen.translate 0 (height * (72 / dpi))).scale (72 / dpi) (-(72 / dpi))).place.apply
    x y = _
  rw [Pen.apply_scale, Pen.apply_translate]
  simp only [blank, Transform.apply, Transform.identity, Nest.point]
  ext <;> simp <;> ring

namespace Draw

/-- Drawing leaves the pen of a page as it was, with every save undone, and the marks of one leaf after
the other, each in its place inside its boxes and cut off at them. -/
theorem elements_nest (scene : Scene Rat) (es : List (Element Rat)) {s t : Studio Rat}
    {turn : List (CanvasCall Rat)}
    (hturn : turnOver scene.layout.geometry.height scene.layout.geometry.dpi = .ok turn)
    (h : (elements scene scene.layout.geometry.width scene.layout.geometry.height es).outcome s =
      (.ok (), t)) :
    ∃ calls groups, t.calls = s.calls ++ calls ∧
      Nested (turn ++ calls.flatMap canvasCalls) ∧
      (blank.after turn).after (calls.flatMap canvasCalls) = blank.after turn ∧
      (blank.after turn).marks (calls.flatMap canvasCalls) = groups.flatten ∧
      List.Forall₂ (Leaf.Marked scene.layout.geometry.height scene.layout.geometry.dpi)
        (Element.allLeaves scene.layout.geometry.width scene.layout.geometry.height [] es) groups := by
  obtain ⟨hnested, hpen⟩ := blank_turned hturn
  obtain ⟨calls, hpaints, hcalls⟩ := paints_elements es h
  obtain ⟨htraceless, hmarked⟩ := Element.PaintsAll.settles es hpaints
  obtain ⟨groups, hgroups, hleaves⟩ := hmarked _ hpen
  exact ⟨calls, groups, hcalls, .append hnested htraceless.nested, htraceless.after _, hgroups,
    hleaves⟩

/-- A deck for cards of a hundred by fifty pixels, with a black square in a box in a box. -/
def nestScene : Scene Rat where
  project := {}
  photos := fun _ => none
  surface := .page
  card := ⟨"a", .empty⟩
  layout := ⟨"default", ⟨100, 50, .zero, .zero, 144⟩, [], [],
    [.box ⟨10, 5, 60, 40⟩ [.box ⟨3, 4, 20, 20⟩ [.rectangle ⟨1, 2, 9, 9⟩ [.solid (.fixed .black)]]]]⟩

theorem elements_nest_two_boxes : ∃ t turn,
    (elements nestScene 100 50 nestScene.layout.elements).outcome {} = (.ok (), t) ∧
      turnOver 50 144 = .ok turn ∧ t.calls.length = 9 ∧
      ∀ mark ∈ (blank.after turn).marks (t.calls.flatMap canvasCalls),
        mark.pen.clips = Nest.regions 50 144 [⟨3, 4, 20, 20⟩, ⟨10, 5, 60, 40⟩] := by
  obtain ⟨t, ht, hlength⟩ : ∃ t,
      (elements nestScene 100 50 nestScene.layout.elements).outcome {} = (.ok (), t) ∧
        t.calls.length = 9 := ⟨_, rfl, rfl⟩
  obtain ⟨turn, hturn⟩ : ∃ turn, turnOver (50 : Rat) 144 = .ok turn := ⟨_, rfl⟩
  obtain ⟨calls, groups, hcalls, -, -, hgroups, hleaves⟩ := elements_nest nestScene _ hturn ht
  refine ⟨t, turn, ht, hturn, hlength, fun mark hmark => ?_⟩
  rw [hcalls, List.nil_append, hgroups] at hmark
  cases hleaves with
  | cons hleaf hnone =>
    cases hnone
    obtain ⟨_, _, hstands⟩ := hleaf
    have hclips := hstands.flip.imp fun mark f hf =>
      And.intro (hf.clips.trans (List.append_nil _)) trivial
    exact ((List.forall₂_and_left _ _).mp hclips).1 mark (by simpa using hmark)

end Draw

end CardPress
