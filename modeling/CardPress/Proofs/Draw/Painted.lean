import CardPress.Proofs.Draw.Tandem

/-! What is painted of elements, as far as places go. -/
namespace CardPress

variable {α : Type} [Scalar α]

/-- A shape in a frame: filled first, then stroked. -/
def ShapeStyle.calls (frame : Frame α) (style : ShapeStyle α) : List (PaintCall α) :=
  style.fill.toList.map (.fill frame) ++
    if style.hasStroke then
      style.strokeColor.toList.map fun c => .stroke frame style.strokeWidth c style.dashes
    else []

namespace PaintCall

/-- Calls that are cut off at a frame. -/
def cutAt (frame : Frame α) (calls : List (PaintCall α)) : List (PaintCall α) :=
  .save :: .clip frame :: calls ++ [.restore]

/-- Calls inside a box: its corner is their origin, and they are cut off at it. -/
def boxed (frame : Frame α) (calls : List (PaintCall α)) : List (PaintCall α) :=
  .save :: .translate frame.x frame.y ::
    .clip ⟨Scalar.zero, Scalar.zero, frame.width, frame.height⟩ :: calls ++ [.restore]

end PaintCall

namespace Element

mutual

/-- The calls that an element inside a frame of some width and height may come to. Colours, fonts and
words are left open. -/
inductive Paints : α → α → Element α → List (PaintCall α) → Prop where
  | background {width height : α} (styles : List (PathStyle α)) (style : Option (ShapeStyle α)) :
      Paints width height (.background styles)
        (style.toList.flatMap (ShapeStyle.calls ⟨Scalar.zero, Scalar.zero, width, height⟩))
  | rectangle {width height : α} (frame : Frame α) (styles : List (PathStyle α))
      (style : Option (ShapeStyle α)) :
      Paints width height (.rectangle frame styles) (style.toList.flatMap (ShapeStyle.calls frame))
  | hidden {width height : α} (contents : CardText) (frame : Frame α) (name : Option String)
      (styles : List (TextStyle α)) : Paints width height (.text contents frame name styles) []
  | text {width height : α} (contents : CardText) (frame : Frame α) (name : Option String)
      (styles : List (TextStyle α)) (runs : List (TextRun α)) (align : Alignment) :
      Paints width height (.text contents frame name styles) [.text runs frame align]
  | missing {width height : α} (name : CardText) (frame : Frame α) (scale : ScaleMode)
      (fonts : FontRegistry) (dpi : α) (s : String) :
      Paints width height (.image name frame scale) (Draw.missingImageCalls fonts dpi frame s)
  | whole {width height : α} (name : CardText) {frame : Frame α} {scale : ScaleMode}
      {picture : Picture} {place : Frame α}
      (h : scale.place frame (Scalar.ofNat picture.width) (Scalar.ofNat picture.height) =
        .ok (place, false)) :
      Paints width height (.image name frame scale) [.image picture place]
  | clipped {width height : α} (name : CardText) {frame : Frame α} {scale : ScaleMode}
      {picture : Picture} {place : Frame α}
      (h : scale.place frame (Scalar.ofNat picture.width) (Scalar.ofNat picture.height) =
        .ok (place, true)) :
      Paints width height (.image name frame scale) (PaintCall.cutAt frame [.image picture place])
  | box {width height : α} {frame : Frame α} {children : List (Element α)}
      {calls : List (PaintCall α)} (h : PaintsAll frame.width frame.height children calls) :
      Paints width height (.box frame children) (PaintCall.boxed frame calls)

inductive PaintsAll : α → α → List (Element α) → List (PaintCall α) → Prop where
  | nil {width height : α} : PaintsAll width height [] []
  | cons {width height : α} {e : Element α} {rest : List (Element α)}
      {calls more : List (PaintCall α)} (h : Paints width height e calls)
      (h' : PaintsAll width height rest more) : PaintsAll width height (e :: rest) (calls ++ more)

end

end Element

variable {scene : Scene α} {s t u : Studio α} {store : ImageStore} {width height : α}
  {calls more : List (PaintCall α)} {frame : Frame α}

/-- Calls were painted behind those that were there, and names lead to the pictures that they led to. -/
structure Scene.Adds (scene : Scene α) (s t : Studio α) (calls : List (PaintCall α)) : Prop where
  calls : t.calls = s.calls ++ calls
  images : ImageStore.Alike scene.photos scene.project.images t.images s.images

namespace Scene.Adds

omit [Scalar α] in
theorem of_rests (h : scene.Rests s t) : scene.Adds s t [] := ⟨by rw [h.calls, List.append_nil], h.images⟩

omit [Scalar α] in
theorem trans (h : scene.Adds s t calls) (h' : scene.Adds t u more) : scene.Adds s u (calls ++ more) :=
  ⟨by rw [h'.calls, h.calls, List.append_assoc], h'.images.trans h.images⟩

theorem paint {call : PaintCall α} (h : (Draw.paint scene call).outcome s = (.ok (), t)) :
    scene.Adds s t [call] := by
  rw [Draw.outcome_paint] at h
  cases h
  exact ⟨rfl, .refl _⟩

theorem paintAll (h : (Draw.paintAll scene calls).outcome s = (.ok (), t)) : scene.Adds s t calls := by
  induction calls generalizing s with
  | nil =>
    cases h
    exact .of_rests (.refl _)
  | cons c rest ih =>
    obtain ⟨⟨⟩, u, hc, h⟩ := Draw.outcome_bind_eq_ok.mp h
    exact (paint hc).trans (ih h)

end Scene.Adds

namespace Draw

theorem adds_stroke {style : ShapeStyle α}
    (h : (match style.strokeColor with
      | some color =>
        if style.hasStroke then paint scene (.stroke frame style.strokeWidth color style.dashes)
        else pure ()
      | none => pure () : Draw α Unit).outcome s = (.ok (), t)) :
    scene.Adds s t
      (if style.hasStroke then
        style.strokeColor.toList.map fun c => .stroke frame style.strokeWidth c style.dashes
      else []) := by
  cases hc : style.strokeColor with
  | none =>
    rw [hc] at h
    cases h
    simpa using Scene.Adds.of_rests (.refl _)
  | some color =>
    rw [hc] at h
    dsimp only at h
    split at h
    next hs =>
      rw [if_pos hs]
      exact .paint h
    next hs =>
      cases h
      simpa [hs] using Scene.Adds.of_rests (.refl _)

/-- A shape is painted in the style that is found for it. -/
theorem adds_shape {styles : List (PathStyle α)}
    (h : (shape scene frame styles).outcome s = (.ok (), t)) :
    ∃ style, ShapeStyle.resolve (scene.layout.basePathStyles ++ styles) scene.card
        (scene.project.resolveColor scene.card) = .ok style ∧
      scene.Adds s t (style.toList.flatMap (ShapeStyle.calls frame)) := by
  obtain ⟨style, u, hstyle, h⟩ := outcome_bind_eq_ok.mp h
  obtain ⟨hresolved, rfl⟩ := outcome_lift_eq_ok.mp hstyle
  refine ⟨style, hresolved, ?_⟩
  cases style with
  | none =>
    cases h
    exact .of_rests (.refl _)
  | some style =>
    rw [Option.toList_some, List.flatMap_singleton, ShapeStyle.calls]
    dsimp only at h
    cases hf : style.fill with
    | none =>
      rw [hf] at h
      exact adds_stroke h
    | some color =>
      rw [hf] at h
      obtain ⟨⟨⟩, u, hfill, h⟩ := outcome_bind_eq_ok.mp h
      exact (Scene.Adds.paint hfill).trans (adds_stroke h)

/-- What is painted of a text: nothing if it is hidden or has no runs, and else its runs, with the fonts
that they find. -/
theorem adds_text {contents : CardText} {name : Option String} {styles : List (TextStyle α)}
    (hstore : ImageStore.Alike scene.photos scene.project.images s.images store)
    (h : (text scene contents frame name styles).outcome s = (.ok (), t)) :
    (Condition.allHold scene.card (scene.baseStyle name styles).conditions = .ok false ∧
        scene.Adds s t []) ∨
      ∃ source runs, contents.render scene.card = .ok source ∧
        scene.plainRuns store (scene.baseStyle name styles) [] (Markup.parse source) = .ok runs ∧
        scene.Adds s t (if runs.isEmpty then [] else
          [.text (runs.map (PlainRun.set s.fonts)) frame (scene.baseStyle name styles).align]) := by
  obtain ⟨base, u, hbase, h⟩ := outcome_bind_eq_ok.mp h
  obtain ⟨hbase, hu⟩ := (baseStyle_yields scene name styles s).of_outcome hbase
  cases hbase
  obtain ⟨seen, v, hseen, h⟩ := outcome_bind_eq_ok.mp h
  obtain ⟨hholds, rfl⟩ := outcome_lift_eq_ok.mp hseen
  cases seen with
  | false =>
    cases h
    exact .inl ⟨hholds, .of_rests hu⟩
  | true =>
    obtain ⟨source, v, hsource, h⟩ := outcome_bind_eq_ok.mp h
    obtain ⟨hrendered, rfl⟩ := outcome_lift_eq_ok.mp hsource
    obtain ⟨runs, w, hruns, h⟩ := outcome_bind_eq_ok.mp h
    obtain ⟨hruns, hw⟩ :=
      (textRuns_yields scene u _ [] _ (hu.images.trans hstore)).of_outcome hruns
    rw [List.map_nil, hu.fonts] at hruns
    cases hplain : scene.plainRuns store (scene.baseStyle name styles) [] (Markup.parse source) with
    | error f =>
      rw [hplain] at hruns
      cases hruns
    | ok plain =>
      rw [hplain] at hruns
      cases hruns
      refine .inr ⟨source, plain, hrendered, hplain, ?_⟩
      cases plain with
      | nil =>
        cases h
        exact .of_rests (hu.trans hw)
      | cons run rest => exact (Scene.Adds.of_rests (hu.trans hw)).trans (.paint h)

/-- What is painted of an image: the picture that its name leads to, or what stands for it. -/
theorem adds_image {name : CardText} {scale : ScaleMode}
    (hstore : ImageStore.Alike scene.photos scene.project.images s.images store)
    (h : (image scene name frame scale).outcome s = (.ok (), t)) :
    ∃ source, name.render scene.card = .ok source ∧
      (((store.load scene.photos scene.project.images source).1 = .ok none ∧
          scene.Adds s t
            (missingImageCalls s.fonts scene.layout.geometry.dpi frame source)) ∨
        ∃ picture place clipped,
          (store.load scene.photos scene.project.images source).1 = .ok (some picture) ∧
          scale.place frame (Scalar.ofNat picture.width) (Scalar.ofNat picture.height) =
            .ok (place, clipped) ∧
          scene.Adds s t
            (if clipped then PaintCall.cutAt frame [.image picture place]
              else [.image picture place])) := by
  obtain ⟨source, u, hsource, h⟩ := outcome_bind_eq_ok.mp h
  obtain ⟨hrendered, rfl⟩ := outcome_lift_eq_ok.mp hsource
  obtain ⟨found, u, hload, h⟩ := outcome_bind_eq_ok.mp h
  obtain ⟨hload, hu⟩ := (Yields.loadImage source).of_outcome hload
  rw [hstore source] at hload
  refine ⟨source, hrendered, ?_⟩
  cases found with
  | none =>
    obtain ⟨⟨⟩, v, hnote, h⟩ := outcome_bind_eq_ok.mp h
    have hnoted : Yields scene (note (.missingImage scene.card.id source)) u (.ok ()) := .note _
    have hv := hu.trans (hnoted.of_outcome hnote).2
    obtain ⟨known, v', hknown, h⟩ := outcome_bind_eq_ok.mp h
    cases hknown
    rw [hv.fonts] at h
    exact .inl ⟨hload.symm, (Scene.Adds.of_rests hv).trans (.paintAll h)⟩
  | some picture =>
    obtain ⟨⟨place, clipped⟩, v, hlift, h⟩ := outcome_bind_eq_ok.mp h
    obtain ⟨hplace, rfl⟩ := outcome_lift_eq_ok.mp hlift
    refine .inr ⟨picture, place, clipped, hload.symm, hplace, (Scene.Adds.of_rests hu).trans ?_⟩
    cases clipped with
    | false => exact .paint h
    | true => exact .paintAll h

theorem paints_text {contents : CardText} {name : Option String} {styles : List (TextStyle α)}
    (h : (text scene contents frame name styles).outcome s = (.ok (), t)) :
    ∃ calls, Element.Paints width height (.text contents frame name styles) calls ∧
      t.calls = s.calls ++ calls := by
  obtain ⟨-, hadds⟩ | ⟨source, runs, -, -, hadds⟩ := adds_text (.refl _) h
  · exact ⟨[], .hidden contents frame name styles, hadds.calls⟩
  · refine ⟨_, ?_, hadds.calls⟩
    split
    · exact .hidden contents frame name styles
    · exact .text contents frame name styles _ _

theorem paints_image {name : CardText} {scale : ScaleMode}
    (h : (image scene name frame scale).outcome s = (.ok (), t)) :
    ∃ calls, Element.Paints width height (.image name frame scale) calls ∧
      t.calls = s.calls ++ calls := by
  obtain ⟨source, -, ⟨-, hadds⟩ | ⟨picture, place, clipped, -, hplace, hadds⟩⟩ :=
    adds_image (.refl _) h
  · exact ⟨_, .missing name frame scale _ _ source, hadds.calls⟩
  · refine ⟨_, ?_, hadds.calls⟩
    cases clipped with
    | false => exact .whole name hplace
    | true => exact .clipped name hplace

mutual

/-- An element is painted in calls of its own, behind what was painted before. -/
theorem paints_element {s t : Studio α} {width height : α} (e : Element α)
    (h : (element scene width height e).outcome s = (.ok (), t)) :
    ∃ calls, e.Paints width height calls ∧ t.calls = s.calls ++ calls := by
  cases e with
  | background styles =>
    obtain ⟨style, -, hadds⟩ := adds_shape h
    exact ⟨_, .background styles style, hadds.calls⟩
  | rectangle frame styles =>
    obtain ⟨style, -, hadds⟩ := adds_shape h
    exact ⟨_, .rectangle frame styles style, hadds.calls⟩
  | text contents frame name styles => exact paints_text h
  | image name frame scale => exact paints_image h
  | box frame children =>
    unfold element at h
    obtain ⟨⟨⟩, u, hopen, h⟩ := outcome_bind_eq_ok.mp h
    obtain ⟨⟨⟩, v, hinner, h⟩ := outcome_bind_eq_ok.mp h
    obtain ⟨calls, hpaints, hcalls⟩ := paints_elements children hinner
    refine ⟨_, .box hpaints, ?_⟩
    rw [(Scene.Adds.paint h).calls, hcalls, (Scene.Adds.paintAll hopen).calls]
    simp [PaintCall.boxed]

theorem paints_elements {s t : Studio α} {width height : α} (es : List (Element α))
    (h : (elements scene width height es).outcome s = (.ok (), t)) :
    ∃ calls, Element.PaintsAll width height es calls ∧ t.calls = s.calls ++ calls := by
  cases es with
  | nil =>
    cases h
    exact ⟨[], .nil, by simp⟩
  | cons e rest =>
    unfold elements at h
    obtain ⟨⟨⟩, u, hfirst, h⟩ := outcome_bind_eq_ok.mp h
    obtain ⟨calls, hpaints, hcalls⟩ := paints_element e hfirst
    obtain ⟨more, hpaints', hmore⟩ := paints_elements rest h
    exact ⟨_, .cons hpaints hpaints', by rw [hmore, hcalls, List.append_assoc]⟩

end

end Draw

end CardPress
