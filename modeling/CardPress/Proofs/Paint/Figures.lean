import CardPress.Proofs.Paint.Page
import CardPress.Proofs.Typeset.Words

/-! What is seen of a paint call, and the marks that it leaves on a page. -/
namespace CardPress

variable {α : Type}

/-- Something seen, in the pixels of whatever it is drawn in. -/
inductive Figure (α : Type) where
  | area (frame : Frame α) (filled : Bool)
  | line (x0 y0 x1 y1 : α)
  | string (s : String) (x baseline : α)
  | image (picture : Picture) (frame : Frame α)

def Figure.isImage : Figure α → Bool
  | image _ _ => true
  | _ => false

/-- Whether a figure has a top that is to be up on the page. -/
def Figure.isUpright : Figure α → Bool
  | string _ _ _ | image _ _ => true
  | _ => false

namespace PaintCall

/-- A call that changes neither where things go nor what is cut off. -/
def isPlain : PaintCall α → Bool
  | save | restore | translate _ _ | clip _ => false
  | _ => true

def fillFigures (frame : Frame α) (color : Color) : List (Figure α) :=
  if color.isTransparent then [] else [.area frame true]

variable [Scalar α]

/-- A fragment in its place, over its background. -/
def placedFigures (p : Placed α) : List (Figure α) :=
  let run := p.fragment.run
  let heights := Typeset.runHeights run
  run.background.toList.flatMap
    (fillFigures ⟨p.x, p.baseline - heights.1, p.width, heights.1 + heights.2⟩) ++
  match run.icon with
  | some picture => [.image picture ⟨p.x, p.baseline - run.size, p.width, run.size⟩]
  | none =>
    if p.fragment.isBlank || run.color.isTransparent then []
    else [.string p.fragment.text p.x p.baseline]

/-- What is seen of a call, in order. -/
def figures : PaintCall α → List (Figure α)
  | save | restore | translate _ _ | clip _ => []
  | fill frame color => fillFigures frame color
  | stroke frame _ color _ => if color.isTransparent then [] else [.area frame false]
  | line x0 y0 x1 y1 _ _ => [.line x0 y0 x1 y1]
  | image picture frame => [.image picture frame]
  | text runs frame align => (Placed.text runs frame align).flatMap placedFigures

end PaintCall

open CanvasCall PageState

/-- The mark that a pen leaves of a figure. -/
def Figure.mark (pen : Pen) : Figure Rat → Mark
  | area frame filled => ⟨.rect frame filled, pen⟩
  | line x0 y0 x1 y1 => ⟨.line x0 y0 x1 y1, pen⟩
  | string s x baseline => ⟨.drawString s, (pen.translate x baseline).scale 1 (-1)⟩
  | image picture frame =>
    ⟨.drawImage picture frame.width frame.height,
      (pen.translate frame.x (frame.y + frame.height)).scale 1 (-1)⟩

/-- Calls that leave the marks of figures, and leave the page as they find it otherwise. -/
structure Leaves (cs : List (CanvasCall Rat)) (figures : List (Figure Rat)) : Prop
    extends Traceless cs where
  marks : ∀ s : PageState, s.marks cs = figures.map (Figure.mark s.pen)

namespace Leaves

variable {cs ds : List (CanvasCall Rat)} {fs gs : List (Figure Rat)} {β : Type}

theorem nil : Leaves [] [] := ⟨.nil, fun _ => rfl⟩

theorem append (h : Leaves cs fs) (h' : Leaves ds gs) : Leaves (cs ++ ds) (fs ++ gs) :=
  ⟨h.toTraceless.append h'.toTraceless, fun s => by
    rw [h.toTraceless.marks_append, h.marks, h'.marks, List.map_append]⟩

theorem flatMap {f : β → List (CanvasCall Rat)} {g : β → List (Figure Rat)} {xs : List β}
    (h : ∀ x ∈ xs, Leaves (f x) (g x)) : Leaves (xs.flatMap f) (xs.flatMap g) := by
  induction xs with
  | nil => exact .nil
  | cons x rest ih =>
    obtain ⟨hx, hrest⟩ := List.forall_mem_cons.mp h
    exact hx.append (ih hrest)

theorem block (hcs : Nested cs)
    (hmarks : ∀ s : PageState, (s.step .saveState).marks cs = fs.map (Figure.mark s.pen)) :
    Leaves (.saveState :: cs ++ [.restoreState]) fs :=
  ⟨.block hcs, fun s => (marks_block s cs).trans (hmarks s)⟩

end Leaves

namespace PaintCall

theorem fillCalls_leaves (frame : Frame Rat) (color : Color) :
    Leaves (fillCalls frame color) (fillFigures frame color) := by
  unfold fillCalls fillFigures
  split
  · exact .nil
  · exact ⟨⟨.cons rfl (.call rfl), fun _ => rfl⟩, fun _ => rfl⟩

theorem imageCalls_leaves (picture : Picture) (frame : Frame Rat) :
    Leaves (imageCalls picture frame) [.image picture frame] :=
  .block (.cons rfl (.cons rfl (.call rfl))) fun _ => rfl

theorem stringCalls_leaves (s : String) (x baseline : Rat) (run : TextRun Rat) :
    Leaves (stringCalls s x baseline run) [.string s x baseline] :=
  .block (.cons rfl (.cons rfl (.cons rfl (.cons rfl (.call rfl))))) fun _ => rfl

theorem placedCalls_leaves (p : Placed Rat) : Leaves (placedCalls p) (placedFigures p) := by
  unfold placedCalls placedFigures
  refine .append ?_ ?_
  · cases p.fragment.run.background with
    | none => exact .nil
    | some color =>
      rw [Option.toList_some, List.flatMap_singleton]
      exact fillCalls_leaves _ color
  · cases p.fragment.run.icon with
    | some picture => exact imageCalls_leaves picture _
    | none =>
      dsimp only
      split
      · exact .nil
      · exact stringCalls_leaves _ _ _ _

/-- A plain call leaves the marks of what is seen of it. -/
theorem canvasCalls_leaves {call : PaintCall Rat} (h : call.isPlain) :
    Leaves call.canvasCalls call.figures := by
  cases call with
  | save => simp [isPlain] at h
  | restore => simp [isPlain] at h
  | translate x y => simp [isPlain] at h
  | clip frame => simp [isPlain] at h
  | fill frame color => exact fillCalls_leaves frame color
  | stroke frame width color dashes =>
    rw [canvasCalls, figures]
    split
    · exact .nil
    · exact ⟨⟨.cons rfl (.cons rfl (.cons rfl (.call rfl))), fun _ => rfl⟩, fun _ => rfl⟩
  | line x0 y0 x1 y1 width color =>
    exact ⟨⟨.cons rfl (.cons rfl (.cons rfl (.call rfl))), fun _ => rfl⟩, fun _ => rfl⟩
  | image picture frame => exact imageCalls_leaves picture frame
  | text runs frame align => exact .flatMap fun p _ => placedCalls_leaves p

theorem plain_leaves {calls : List (PaintCall Rat)} (h : ∀ c ∈ calls, c.isPlain) :
    Leaves (calls.flatMap canvasCalls) (calls.flatMap figures) :=
  .flatMap fun c hc => canvasCalls_leaves (h c hc)

end PaintCall

/-- A mark shows a figure under a map from pixels to the page. What is drawn in rectangles and lines
goes where the map sends it; strings and images are turned over on the spot, and an image covers what its
frame covers under the map. -/
def Mark.Shows (map : Rat → Rat → Rat × Rat) (mark : Mark) : Figure Rat → Prop
  | .area frame filled =>
    mark.call = .rect frame filled ∧ ∀ x y, mark.pen.place.apply x y = map x y
  | .line x0 y0 x1 y1 =>
    mark.call = .line x0 y0 x1 y1 ∧ ∀ x y, mark.pen.place.apply x y = map x y
  | .string s x baseline =>
    mark.call = .drawString s ∧ ∀ u v, mark.pen.place.apply u v = map (x + u) (baseline - v)
  | .image picture frame =>
    mark.call = .drawImage picture frame.width frame.height ∧
      (∀ u v, mark.pen.place.apply u v = map (frame.x + u) (frame.y + frame.height - v)) ∧
      (⟨0, 0, frame.width, frame.height⟩ : Frame Rat).under mark.pen.place.apply = frame.under map

namespace Figure

variable {pen : Pen} {map : Rat → Rat → Rat × Rat}

@[simp] theorem clips_mark (f : Figure Rat) (pen : Pen) : (f.mark pen).pen.clips = pen.clips := by
  cases f <;> rfl

/-- Turned over on the spot, points to the right stay there and points below come above. -/
theorem apply_turned (h : ∀ x y, pen.place.apply x y = map x y) (x y u v : Rat) :
    ((pen.translate x y).scale 1 (-1)).place.apply u v = map (x + u) (y - v) := by
  rw [Pen.apply_scale, Pen.apply_translate, h, one_mul, neg_one_mul, sub_eq_add_neg]

theorem mark_shows (h : ∀ x y, pen.place.apply x y = map x y) (f : Figure Rat) :
    (f.mark pen).Shows map f := by
  cases f with
  | area frame filled => exact ⟨rfl, h⟩
  | line x0 y0 x1 y1 => exact ⟨rfl, h⟩
  | string s x baseline => exact ⟨rfl, apply_turned h x baseline⟩
  | image picture frame =>
    have hturned := apply_turned h frame.x (frame.y + frame.height)
    refine ⟨rfl, hturned, Frame.under_flip fun a b => (hturned _ _).trans ?_⟩
    congr 1 <;> ring

end Figure

namespace PaintCall

theorem eq_of_mem_fillFigures {frame : Frame α} {color : Color} {f : Figure α}
    (hf : f ∈ fillFigures frame color) : f = .area frame true := by
  unfold fillFigures at hf
  split at hf
  · simp at hf
  · exact List.mem_singleton.mp hf

theorem isImage_fillFigures {frame : Frame α} {color : Color} {f : Figure α}
    (hf : f ∈ fillFigures frame color) : f.isImage = false := by
  rw [eq_of_mem_fillFigures hf]
  rfl

variable [Scalar α]

/-- A fragment shows its background, and either its picture or its text. -/
theorem mem_placedFigures {p : Placed α} {f : Figure α} (hf : f ∈ placedFigures p) :
    (∃ y height, f = .area ⟨p.x, y, p.width, height⟩ true) ∨
    (∃ picture, p.fragment.run.icon = some picture ∧
      f = .image picture ⟨p.x, p.baseline - p.fragment.run.size, p.width, p.fragment.run.size⟩) ∨
    (p.fragment.run.icon = none ∧ f = .string p.fragment.text p.x p.baseline) := by
  rcases List.mem_append.mp hf with hbehind | hfront
  · obtain ⟨color, -, hfill⟩ := List.mem_flatMap.mp hbehind
    exact Or.inl ⟨_, _, eq_of_mem_fillFigures hfill⟩
  · cases hicon : p.fragment.run.icon with
    | some picture =>
      rw [hicon] at hfront
      exact Or.inr (Or.inl ⟨picture, rfl, List.mem_singleton.mp hfront⟩)
    | none =>
      rw [hicon] at hfront
      dsimp only at hfront
      split at hfront
      · simp at hfront
      · exact Or.inr (Or.inr ⟨rfl, List.mem_singleton.mp hfront⟩)

/-- Text without icons shows no image. -/
theorem isImage_text {runs : List (TextRun α)} (hruns : ∀ run ∈ runs, run.icon = none)
    {frame : Frame α} {align : Alignment} {f : Figure α} (hf : f ∈ (text runs frame align).figures) :
    f.isImage = false := by
  obtain ⟨p, hp, hf⟩ := List.mem_flatMap.mp hf
  obtain ⟨_, _, rfl⟩ | ⟨picture, hicon, -⟩ | ⟨-, rfl⟩ := mem_placedFigures hf
  · rfl
  · rw [hruns _ (Placed.run_text hp)] at hicon
    cases hicon
  · rfl

end PaintCall

end CardPress
