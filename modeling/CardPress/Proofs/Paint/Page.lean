import CardPress.Impose
import CardPress.Paint.Canvas
import CardPress.Proofs.Number.Exact
import Mathlib.Data.Set.Basic
import Mathlib.Tactic.Linarith
import Mathlib.Tactic.Ring

/-! What a page makes of its calls in exact numbers: where points go, and what is cut off, at each mark
that is left on it. -/
namespace CardPress

variable {α : Type}

namespace CanvasCall

/-- A call that leaves something to be seen. -/
def isMark : CanvasCall α → Bool
  | rect _ _ | line _ _ _ _ | drawImage _ _ _ | drawString _ => true
  | _ => false

/-- A call that puts the pen aside or takes it up again. -/
def isPaired : CanvasCall α → Bool
  | saveState | restoreState => true
  | _ => false

/-- Pens that are put aside are taken up again, the last one first. -/
inductive Nested : List (CanvasCall α) → Prop where
  | nil : Nested []
  | call {c : CanvasCall α} (h : c.isPaired = false) : Nested [c]
  | block {cs : List (CanvasCall α)} (h : Nested cs) : Nested (.saveState :: cs ++ [.restoreState])
  | append {cs ds : List (CanvasCall α)} (h : Nested cs) (h' : Nested ds) : Nested (cs ++ ds)

theorem Nested.cons {c : CanvasCall α} {cs : List (CanvasCall α)} (hc : c.isPaired = false)
    (h : Nested cs) : Nested (c :: cs) := .append (.call hc) h

/-- Taking up again what was put aside last undoes all that was done since. -/
structure Restores {σ τ : Type} (step : σ → CanvasCall α → σ) (saved : σ → List τ) : Prop where
  restore : ∀ s t, saved t = saved (step s .saveState) → step t .restoreState = s
  keep : ∀ s c, c.isPaired = false → saved (step s c) = saved s

namespace Restores

variable {σ τ : Type} {step : σ → CanvasCall α → σ} {saved : σ → List τ} {cs : List (CanvasCall α)}

theorem after_block_of (h : Restores step saved) (hcs : ∀ s, saved (cs.foldl step s) = saved s) (s : σ) :
    List.foldl step s (.saveState :: cs ++ [.restoreState]) = s := by
  rw [List.foldl_append]
  exact h.restore s _ (hcs _)

theorem saved_after (h : Restores step saved) (hcs : Nested cs) (s : σ) :
    saved (cs.foldl step s) = saved s := by
  induction hcs generalizing s with
  | nil => rfl
  | call hc => exact h.keep s _ hc
  | block _ ih => rw [h.after_block_of ih]
  | append _ _ ih ih' => rw [List.foldl_append, ih', ih]

/-- What is between putting something aside and taking it up again is forgotten. -/
theorem after_block (h : Restores step saved) (hcs : Nested cs) (s : σ) :
    List.foldl step s (.saveState :: cs ++ [.restoreState]) = s := h.after_block_of (h.saved_after hcs) s

end Restores

end CanvasCall

/-- The rectangle of a frame under a map; its sides may be negative. -/
def Frame.under (f : Frame Rat) (map : Rat → Rat → Rat × Rat) : Set (Rat × Rat) :=
  {q | ∃ a b, (0 ≤ a ∧ a ≤ 1) ∧ (0 ≤ b ∧ b ≤ 1) ∧
    map (f.x + a * f.width) (f.y + b * f.height) = q}

theorem Frame.under_congr {f g : Frame Rat} {map map' : Rat → Rat → Rat × Rat}
    (h : ∀ a b, map (f.x + a * f.width) (f.y + b * f.height) =
      map' (g.x + a * g.width) (g.y + b * g.height)) : f.under map = g.under map' := by
  unfold under
  simp only [h]

/-- Upside down a rectangle covers the same. -/
theorem Frame.under_flip {f g : Frame Rat} {map map' : Rat → Rat → Rat × Rat}
    (h : ∀ a b, map (f.x + a * f.width) (f.y + b * f.height) =
      map' (g.x + a * g.width) (g.y + (1 - b) * g.height)) : f.under map = g.under map' := by
  ext q
  constructor
  · rintro ⟨a, b, ha, hb, rfl⟩
    exact ⟨a, 1 - b, ha, by constructor <;> linarith, (h a b).symm⟩
  · rintro ⟨a, b, ha, hb, rfl⟩
    refine ⟨a, 1 - b, ha, by constructor <;> linarith, ?_⟩
    rw [h, sub_sub_cancel]

/-- Where points go on the page, and the regions outside of which nothing is seen, the oldest first. -/
structure Pen where
  place : Transform Rat
  clips : List (Set (Rat × Rat))

namespace Pen

def translate (p : Pen) (x y : Rat) : Pen :=
  { p with place := (Transform.identity.translate x y).andThen p.place }

def scale (p : Pen) (x y : Rat) : Pen :=
  { p with place := (Transform.identity.scale x y).andThen p.place }

def clip (p : Pen) (f : Frame Rat) : Pen :=
  { p with clips := p.clips ++ [f.under p.place.apply] }

@[simp] theorem clips_translate (p : Pen) (x y : Rat) : (p.translate x y).clips = p.clips := rfl

@[simp] theorem place_clip (p : Pen) (f : Frame Rat) : (p.clip f).place = p.place := rfl

theorem apply_translate (p : Pen) (x y u v : Rat) :
    (p.translate x y).place.apply u v = p.place.apply (x + u) (y + v) := by
  simp only [translate, Transform.apply, Transform.andThen, Transform.translate, Transform.identity,
    Scalar.ofNat_eq_cast, Scalar.zero_eq]
  ext <;> push_cast <;> ring

theorem apply_scale (p : Pen) (x y u v : Rat) :
    (p.scale x y).place.apply u v = p.place.apply (x * u) (y * v) := by
  simp only [scale, Transform.apply, Transform.andThen, Transform.scale, Transform.identity,
    Scalar.ofNat_eq_cast, Scalar.zero_eq]
  ext <;> push_cast <;> ring

end Pen

/-- Something to be seen on a page, and the pen that it was left with. -/
structure Mark where
  call : CanvasCall Rat
  pen : Pen

/-- The pen in force, and those put aside, the last one first. -/
structure PageState where
  pen : Pen
  saved : List Pen

namespace PageState

open CanvasCall

/-- A new page. -/
def blank : PageState := ⟨⟨Transform.identity, []⟩, []⟩

def step (s : PageState) : CanvasCall Rat → PageState
  | .saveState => { s with saved := s.pen :: s.saved }
  | .restoreState =>
    match s.saved with
    | [] => s
    | pen :: saved => ⟨pen, saved⟩
  | .translate x y => { s with pen := s.pen.translate x y }
  | .scale x y => { s with pen := s.pen.scale x y }
  | .clip frame => { s with pen := s.pen.clip frame }
  | _ => s

def after (s : PageState) (cs : List (CanvasCall Rat)) : PageState := cs.foldl step s

/-- The marks that calls leave, in order. -/
def marks : PageState → List (CanvasCall Rat) → List Mark
  | _, [] => []
  | s, c :: rest => (if c.isMark then [⟨c, s.pen⟩] else []) ++ marks (s.step c) rest

variable {cs ds : List (CanvasCall Rat)}

theorem after_append (s : PageState) (cs ds : List (CanvasCall Rat)) :
    s.after (cs ++ ds) = (s.after cs).after ds := List.foldl_append

theorem marks_append (s : PageState) (cs ds : List (CanvasCall Rat)) :
    s.marks (cs ++ ds) = s.marks cs ++ (s.after cs).marks ds := by
  induction cs generalizing s with
  | nil => rfl
  | cons c rest ih => rw [List.cons_append, marks, ih, marks, List.append_assoc]; rfl

theorem restores : Restores step saved where
  restore s t h := by simp only [step, h]
  keep s c h := by cases c <;> first | rfl | simp [isPaired] at h

/-- What is between putting a pen aside and taking it up again is forgotten. -/
theorem after_block (h : Nested cs) (s : PageState) :
    s.after (.saveState :: cs ++ [.restoreState]) = s := restores.after_block h s

theorem marks_block (s : PageState) (cs : List (CanvasCall Rat)) :
    s.marks (.saveState :: cs ++ [.restoreState]) = (s.step .saveState).marks cs := by
  rw [marks_append]
  change (s.step .saveState).marks cs ++ [] = _
  rw [List.append_nil]

/-- Calls that leave the page as they find it, but for marks. -/
structure Traceless (cs : List (CanvasCall Rat)) : Prop where
  nested : Nested cs
  after : ∀ s : PageState, s.after cs = s

namespace Traceless

theorem nil : Traceless [] := ⟨.nil, fun _ => rfl⟩

theorem append (h : Traceless cs) (h' : Traceless ds) : Traceless (cs ++ ds) :=
  ⟨.append h.nested h'.nested, fun s => by rw [after_append, h.after, h'.after]⟩

theorem block (h : Nested cs) : Traceless (.saveState :: cs ++ [.restoreState]) :=
  ⟨.block h, after_block h⟩

theorem marks_append (h : Traceless cs) (s : PageState) (ds : List (CanvasCall Rat)) :
    s.marks (cs ++ ds) = s.marks cs ++ s.marks ds := by
  rw [PageState.marks_append, h.after]

end Traceless

end PageState

end CardPress
