import CardPress.Proofs.Paint.Figures

/-! What marks on a page look like. All colours, widths, dashes and fonts are set for each mark anew; only
the opacity of images is what the last filling has left. -/
namespace CardPress

variable {α : Type}

/-- A call that leaves no mark and does not change what marks look like. -/
def CanvasCall.isQuiet : CanvasCall α → Bool
  | setTitle _ | setAuthor _ | setSubject _ | setKeywords _ | setCreator _ => true
  | translate _ _ | scale _ _ | clip _ | showPage | save => true
  | _ => false

/-- What a page draws with; colours come with their opacity. -/
structure Ink (α : Type) where
  fill : Color
  stroke : Color
  width : α
  dashes : List α
  font : String
  size : α

/-- What is seen of a mark. Images are as opaque as fillings are. -/
inductive Look (α : Type) where
  | area (frame : Frame α) (color : Color)
  | outline (frame : Frame α) (width : α) (color : Color) (dashes : List α)
  | line (x0 y0 x1 y1 width : α) (color : Color) (dashes : List α)
  | string (s font : String) (size : α) (color : Color)
  | image (picture : Picture) (width height : α) (opacity : Nat)

namespace Ink

def set (ink : Ink α) : CanvasCall α → Ink α
  | .setFillColor color => { ink with fill := color }
  | .setStrokeColor color => { ink with stroke := color }
  | .setStrokeBlack => { ink with stroke := { Color.black with alpha := ink.stroke.alpha } }
  | .setLineWidth width => { ink with width }
  | .setDash dashes => { ink with dashes }
  | .setFont font size => { ink with font, size }
  | _ => ink

/-- What is seen of a call, if it leaves a mark. -/
def look (ink : Ink α) : CanvasCall α → Option (Look α)
  | .rect frame true => some (.area frame ink.fill)
  | .rect frame false => some (.outline frame ink.width ink.stroke ink.dashes)
  | .line x0 y0 x1 y1 => some (.line x0 y0 x1 y1 ink.width ink.stroke ink.dashes)
  | .drawString s => some (.string s ink.font ink.size ink.fill)
  | .drawImage picture width height => some (.image picture width height ink.fill.alpha)
  | _ => none

end Ink

/-- The ink in force, and those put aside, the last one first. -/
structure InkState (α : Type) where
  ink : Ink α
  saved : List (Ink α)

namespace InkState

open CanvasCall

/-- A new page is opaque. -/
def fresh [Scalar α] : InkState α :=
  ⟨⟨.black, .black, Scalar.ofNat 1, [], StandardFont.helvetica.name, Scalar.ofNat 12⟩, []⟩

def opacity (s : InkState α) : Nat := s.ink.fill.alpha

def step (s : InkState α) : CanvasCall α → InkState α
  | .saveState => { s with saved := s.ink :: s.saved }
  | .restoreState =>
    match s.saved with
    | [] => s
    | ink :: saved => ⟨ink, saved⟩
  | c => { s with ink := s.ink.set c }

def after (s : InkState α) (cs : List (CanvasCall α)) : InkState α := cs.foldl step s

/-- What is seen of calls, in order. -/
def looks : InkState α → List (CanvasCall α) → List (Look α)
  | _, [] => []
  | s, c :: rest => (s.ink.look c).toList ++ looks (s.step c) rest

variable {cs ds : List (CanvasCall α)}

theorem after_append (s : InkState α) (cs ds : List (CanvasCall α)) :
    s.after (cs ++ ds) = (s.after cs).after ds := List.foldl_append

theorem looks_append (s : InkState α) (cs ds : List (CanvasCall α)) :
    s.looks (cs ++ ds) = s.looks cs ++ (s.after cs).looks ds := by
  induction cs generalizing s with
  | nil => rfl
  | cons c rest ih =>
    rw [List.cons_append, looks, ih, looks, List.append_assoc]
    rfl

theorem restores : Restores (step (α := α)) saved where
  restore s t h := by simp only [step, h]
  keep s c h := by cases c <;> first | rfl | simp [isPaired] at h

end InkState

namespace Look

/-- An image as it was meant to be seen: opaque. -/
def unfaded : Look α → Look α
  | image picture width height _ => .image picture width height 255
  | look => look

/-- Images are as opaque as fillings were at first, or as something that was filled before them. -/
def Traced (opacity : Nat) (looks : List (Look α)) : Prop :=
  ∀ before picture width height o after, looks = before ++ .image picture width height o :: after →
    o = opacity ∨ ∃ frame color, .area frame color ∈ before ∧ color.alpha = o

/-- Images are seen as they were meant to be if fillings are. -/
theorem Traced.solid {opacity : Nat} {looks : List (Look α)} (h : Traced opacity looks)
    (hareas : ∀ frame color, .area frame color ∈ looks → color.alpha = opacity)
    {picture : Picture} {width height : α} {o : Nat}
    (himage : .image picture width height o ∈ looks) : o = opacity := by
  obtain ⟨before, after, rfl⟩ := List.append_of_mem himage
  obtain hsame | ⟨frame, color, hmem, hcolor⟩ := h before picture width height o after rfl
  · exact hsame
  · exact hcolor.symm.trans (hareas frame color (List.mem_append_left _ hmem))

theorem traced_nil (opacity : Nat) : Traced opacity ([] : List (Look α)) :=
  fun _ _ _ _ _ _ h => nomatch (List.append_eq_nil_iff.mp h.symm).2

theorem traced_singleton {opacity : Nat} {look : Look α}
    (h : ∀ picture width height o, look = .image picture width height o → o = opacity) :
    Traced opacity [look] := by
  intro before picture width height o after heq
  cases before with
  | nil => exact .inl (h picture width height o (List.cons.inj heq).1)
  | cons first more => exact nomatch (List.append_eq_nil_iff.mp (List.cons.inj heq).2.symm).2

end Look

/-- What is seen where fillings are as opaque as they are, and how opaque they are from then on. -/
abbrev Shade (α : Type) := Nat → List (Look α) × Nat

namespace Shade

def none : Shade α := fun opacity => ([], opacity)

/-- One after the other. -/
def append (f g : Shade α) : Shade α := fun opacity =>
  ((f opacity).1 ++ (g (f opacity).2).1, (g (f opacity).2).2)

def all (fs : List (Shade α)) : Shade α := fs.foldr append none

/-- What is left behind is taken back. -/
def block (f : Shade α) : Shade α := fun opacity => ((f opacity).1, opacity)

/-- Something to be seen that leaves nothing behind. -/
def seen (look : Look α) : Shade α := fun opacity => ([look], opacity)

def area (frame : Frame α) (color : Color) : Shade α :=
  if color.isTransparent then none else fun _ => ([.area frame color], color.alpha)

def image (picture : Picture) (width height : α) : Shade α := fun opacity =>
  ([.image picture width height opacity], opacity)

/-- What was painted before matters for nothing but the opacity of images, and for that only by fillings. -/
structure Steady (f : Shade α) : Prop where
  same : ∀ o o', (f o).1.map Look.unfaded = (f o').1.map Look.unfaded
  traced : ∀ o, Look.Traced o (f o).1
  left : ∀ o, (f o).2 = o ∨ ∃ frame color, .area frame color ∈ (f o).1 ∧ color.alpha = (f o).2

namespace Steady

variable {f g : Shade α} {fs : List (Shade α)}

theorem none : Steady (none (α := α)) :=
  ⟨fun _ _ => rfl, Look.traced_nil, fun _ => .inl rfl⟩

theorem append (h : Steady f) (h' : Steady g) : Steady (f.append g) where
  same o o' := by
    simp only [Shade.append, List.map_append]
    rw [h.same o o', h'.same _ (f o').2]
  traced o before picture width height o' after heq := by
    have hleft := h.left o
    rcases List.append_eq_append_iff.mp heq with ⟨more, rfl, hg⟩ | ⟨more, hf, hafter⟩
    · obtain rfl | ⟨frame, color, hmem, hcolor⟩ := h'.traced _ more picture width height o' after hg
      · exact hleft.imp_right fun ⟨frame, color, hmem, hcolor⟩ =>
          ⟨frame, color, List.mem_append_left _ hmem, hcolor⟩
      · exact .inr ⟨frame, color, List.mem_append_right _ hmem, hcolor⟩
    · cases more with
      | nil =>
        rw [List.append_nil] at hf
        obtain rfl | ⟨frame, color, hmem, -⟩ := h'.traced _ [] picture width height o' after hafter.symm
        · rwa [hf] at hleft
        · simp at hmem
      | cons look more =>
        obtain ⟨rfl, -⟩ := List.cons.inj hafter
        exact h.traced o before picture width height o' more hf
  left o := by
    obtain hg | ⟨frame, color, hmem, hcolor⟩ := h'.left (f o).2
    · obtain hf | ⟨frame, color, hmem, hcolor⟩ := h.left o
      · exact .inl (hg.trans hf)
      · exact .inr ⟨frame, color, List.mem_append_left _ hmem, hcolor.trans hg.symm⟩
    · exact .inr ⟨frame, color, List.mem_append_right _ hmem, hcolor⟩

theorem all (h : ∀ f ∈ fs, Steady f) : Steady (Shade.all fs) := by
  induction fs with
  | nil => exact .none
  | cons f rest ih =>
    obtain ⟨hf, hrest⟩ := List.forall_mem_cons.mp h
    exact hf.append (ih hrest)

theorem block (h : Steady f) : Steady f.block := ⟨h.same, h.traced, fun _ => .inl rfl⟩

theorem seen {look : Look α} (h : ∀ picture width height o, look ≠ .image picture width height o) :
    Steady (seen look) where
  same _ _ := rfl
  traced _ := Look.traced_singleton fun _ _ _ _ himage => absurd himage (h _ _ _ _)
  left _ := .inl rfl

theorem area (frame : Frame α) (color : Color) : Steady (area frame color) := by
  unfold Shade.area
  split
  · exact none
  · refine ⟨fun _ _ => rfl, fun _ => Look.traced_singleton nofun, fun _ => .inr ?_⟩
    exact ⟨frame, color, List.mem_singleton_self _, rfl⟩

theorem image (picture : Picture) (width height : α) : Steady (image picture width height) where
  same _ _ := rfl
  traced _ := Look.traced_singleton fun _ _ _ _ himage => by
    cases himage
    rfl
  left _ := .inl rfl

end Steady

end Shade

namespace PaintCall

variable [Scalar α]

/-- A fragment in its place, over its background. -/
def placedShade (p : Placed α) : Shade α :=
  let run := p.fragment.run
  let heights := Typeset.runHeights run
  .append
    (run.background.elim .none
      (.area ⟨p.x, p.baseline - heights.1, p.width, heights.1 + heights.2⟩))
    (match run.icon with
    | some picture => .image picture p.width run.size
    | none =>
      if p.fragment.isBlank || run.color.isTransparent then .none
      else .seen (.string p.fragment.text run.font run.size run.color))

/-- What is seen of a call that only paints. -/
def shade : PaintCall α → Shade α
  | save | restore | translate _ _ | clip _ => .none
  | fill frame color => .area frame color
  | stroke frame width color dashes =>
    if color.isTransparent then .none else .seen (.outline frame width color (dashes.getD []))
  | line x0 y0 x1 y1 width color => .seen (.line x0 y0 x1 y1 width color [])
  | image picture frame => .image picture frame.width frame.height
  | text runs frame align => .all ((Placed.text runs frame align).map placedShade)

theorem placedShade_steady (p : Placed α) : (placedShade p).Steady := by
  unfold placedShade
  refine .append ?_ ?_
  · cases p.fragment.run.background with
    | none => exact .none
    | some color => exact .area _ color
  · cases p.fragment.run.icon with
    | some picture => exact .image picture _ _
    | none =>
      dsimp only
      split
      · exact .none
      · exact .seen nofun

theorem shade_steady (call : PaintCall α) : call.shade.Steady := by
  cases call with
  | save | restore | translate _ _ | clip _ => exact .none
  | fill frame color => exact .area frame color
  | stroke frame width color dashes =>
    rw [shade]
    split
    · exact .none
    · exact .seen nofun
  | line x0 y0 x1 y1 width color => exact .seen nofun
  | image picture frame => exact .image picture _ _
  | text runs frame align =>
    refine .all fun f hf => ?_
    obtain ⟨p, -, rfl⟩ := List.mem_map.mp hf
    exact placedShade_steady p

end PaintCall

open CanvasCall InkState

/-- Calls that are seen like that whatever ink they find. -/
structure Inks (cs : List (CanvasCall α)) (f : Shade α) : Prop where
  nested : Nested cs
  looks : ∀ s : InkState α, s.looks cs = (f s.opacity).1
  opacity : ∀ s : InkState α, (s.after cs).opacity = (f s.opacity).2

namespace Inks

variable {cs ds : List (CanvasCall α)} {f g : Shade α} {β : Type}

theorem nil : Inks (α := α) [] .none := ⟨.nil, fun _ => rfl, fun _ => rfl⟩

theorem append (h : Inks cs f) (h' : Inks ds g) : Inks (cs ++ ds) (f.append g) where
  nested := .append h.nested h'.nested
  looks s := by rw [looks_append, h.looks, h'.looks, h.opacity]; rfl
  opacity s := by rw [after_append, h'.opacity, h.opacity]; rfl

theorem all {F : β → List (CanvasCall α)} {G : β → Shade α} {xs : List β}
    (h : ∀ x ∈ xs, Inks (F x) (G x)) : Inks (xs.flatMap F) (.all (xs.map G)) := by
  induction xs with
  | nil => exact .nil
  | cons x rest ih =>
    obtain ⟨hx, hrest⟩ := List.forall_mem_cons.mp h
    exact hx.append (ih hrest)

/-- What is done to the ink inside is undone. -/
theorem block (h : Inks cs f) : Inks (.saveState :: cs ++ [.restoreState]) f.block where
  nested := .block h.nested
  looks s := by
    rw [looks_append]
    change (s.step .saveState).looks cs ++ [] = _
    rw [List.append_nil, h.looks]
    rfl
  opacity s := congrArg InkState.opacity (restores.after_block h.nested s)

/-- Calls that show nothing and do nothing to the ink. -/
theorem quiet (h : ∀ c ∈ cs, c.isQuiet) : Inks cs .none := by
  induction cs with
  | nil => exact .nil
  | cons c rest ih =>
    obtain ⟨hc, hrest⟩ := List.forall_mem_cons.mp h
    have hfirst : Inks [c] .none := by
      cases c <;> first | exact ⟨.call rfl, fun _ => rfl, fun _ => rfl⟩ | simp [isQuiet] at hc
    exact hfirst.append (ih hrest)

end Inks

namespace PaintCall

theorem fillCalls_inks (frame : Frame α) (color : Color) :
    Inks (fillCalls frame color) (.area frame color) := by
  unfold fillCalls Shade.area
  split
  · exact .nil
  · exact ⟨.cons rfl (.call rfl), fun _ => rfl, fun _ => rfl⟩

variable [Scalar α]

theorem imageCalls_inks (picture : Picture) (frame : Frame α) :
    Inks (imageCalls picture frame) (.image picture frame.width frame.height) := by
  have hinner : Inks [.translate frame.x (frame.y + frame.height),
      .scale (Scalar.ofNat 1) (-Scalar.ofNat 1), .drawImage picture frame.width frame.height]
      (.image picture frame.width frame.height) :=
    ⟨.cons rfl (.cons rfl (.call rfl)), fun _ => rfl, fun _ => rfl⟩
  exact hinner.block

theorem stringCalls_inks (s : String) (x baseline : α) (run : TextRun α) :
    Inks (stringCalls s x baseline run) (.seen (.string s run.font run.size run.color)) := by
  have hinner : Inks [.translate x baseline, .scale (Scalar.ofNat 1) (-Scalar.ofNat 1),
      .setFont run.font run.size, .setFillColor run.color, .drawString s]
      (fun _ => ([.string s run.font run.size run.color], run.color.alpha)) :=
    ⟨.cons rfl (.cons rfl (.cons rfl (.cons rfl (.call rfl)))), fun _ => rfl, fun _ => rfl⟩
  exact hinner.block

theorem placedCalls_inks (p : Placed α) : Inks (placedCalls p) (placedShade p) := by
  unfold placedCalls placedShade
  refine .append ?_ ?_
  · cases p.fragment.run.background with
    | none => exact .nil
    | some color => exact fillCalls_inks _ color
  · cases p.fragment.run.icon with
    | some picture => exact imageCalls_inks picture _
    | none =>
      dsimp only
      split
      · exact .nil
      · exact stringCalls_inks _ _ _ _

/-- A plain call is seen as it is. -/
theorem canvasCalls_inks {call : PaintCall α} (h : call.isPlain) : Inks call.canvasCalls call.shade := by
  cases call with
  | save => simp [isPlain] at h
  | restore => simp [isPlain] at h
  | translate x y => simp [isPlain] at h
  | clip frame => simp [isPlain] at h
  | fill frame color => exact fillCalls_inks frame color
  | stroke frame width color dashes =>
    rw [canvasCalls, shade]
    split
    · exact .nil
    · exact ⟨.cons rfl (.cons rfl (.cons rfl (.call rfl))), fun _ => rfl, fun _ => rfl⟩
  | line x0 y0 x1 y1 width color =>
    exact ⟨.cons rfl (.cons rfl (.cons rfl (.call rfl))), fun _ => rfl, fun _ => rfl⟩
  | image picture frame => exact imageCalls_inks picture frame
  | text runs frame align => exact .all fun p _ => placedCalls_inks p

theorem plain_inks {calls : List (PaintCall α)} (h : ∀ c ∈ calls, c.isPlain) :
    Inks (calls.flatMap canvasCalls) (.all (calls.map shade)) :=
  .all fun c hc => canvasCalls_inks (h c hc)

end PaintCall

end CardPress
