import CardPress.Proofs.Draw.Nesting
import CardPress.Proofs.Paint.Ink
import CardPress.Proofs.Render.Alone

/-! What is seen of the elements of a card, whatever comes before them: colours, widths, dashes and fonts
are those of each element, but images take the opacity of the last filling. -/
namespace CardPress

open CanvasCall PaintCall

variable {α : Type} [Scalar α]

namespace PaintCall

/-- What is seen of calls that only paint, one after the other. -/
def shadeAll (calls : List (PaintCall α)) : Shade α := .all (calls.map shade)

theorem shadeAll_steady (calls : List (PaintCall α)) : (shadeAll calls).Steady := by
  refine .all fun f hf => ?_
  obtain ⟨c, -, rfl⟩ := List.mem_map.mp hf
  exact shade_steady c

/-- Calls that are cut off leave nothing behind. -/
theorem cutAt_inks {frame : Frame α} {calls : List (PaintCall α)} (h : ∀ c ∈ calls, c.isPlain) :
    Inks ((cutAt frame calls).flatMap canvasCalls) (shadeAll calls).block := by
  have hcalls : (cutAt frame calls).flatMap canvasCalls =
      .saveState :: ([.clip frame] ++ calls.flatMap canvasCalls) ++ [.restoreState] := by
    simp [cutAt, canvasCalls]
  rw [hcalls]
  exact ((Inks.quiet (by simp [isQuiet])).append (plain_inks h)).block

theorem boxed_inks {frame : Frame α} {calls : List (PaintCall α)} {f : Shade α}
    (h : Inks (calls.flatMap canvasCalls) f) :
    Inks ((boxed frame calls).flatMap canvasCalls) f.block := by
  have hcalls : (boxed frame calls).flatMap canvasCalls =
      .saveState :: ([.translate frame.x frame.y,
        .clip ⟨Scalar.zero, Scalar.zero, frame.width, frame.height⟩] ++
        calls.flatMap canvasCalls) ++ [.restoreState] := by
    simp [boxed, canvasCalls]
  rw [hcalls]
  exact ((Inks.quiet (by simp [isQuiet])).append h).block

end PaintCall

/-- What stands for an image that is not there, apart from being cut off. -/
def Draw.crossedBox (fonts : FontRegistry) (dpi : α) (frame : Frame α) (name : String) :
    List (PaintCall α) :=
  let right := frame.x + frame.width
  let bottom := frame.y + frame.height
  let one := Scalar.ofNat 1
  let run : TextRun α :=
    { text := name, font := Font.forStyle fonts none .normal none
      size := Scalar.ofNat 6 * dpi / Scalar.ofNat 72, color := .blueColor }
  [.fill frame .white, .stroke frame one .blueColor none, .line frame.x frame.y right bottom one .blueColor,
    .line right frame.y frame.x bottom one .blueColor, .text [run] frame .left]

theorem Draw.missingImageCalls_eq_cutAt (fonts : FontRegistry) (dpi : α) (frame : Frame α)
    (name : String) :
    missingImageCalls fonts dpi frame name = cutAt frame (crossedBox fonts dpi frame name) := rfl

namespace Element

variable (scene : Scene α) (store : ImageStore)

mutual

/-- What is seen of an element inside a frame of some width and height. The styles of shapes, the runs of
texts and the pictures of images are those that the card comes to; only the fonts that are known are left
open. -/
inductive Shows : α → α → Element α → Shade α → Prop where
  | background {width height : α} {styles : List (PathStyle α)} {style : Option (ShapeStyle α)}
      (h : ShapeStyle.resolve (scene.layout.basePathStyles ++ styles) scene.card
        (scene.project.resolveColor scene.card) = .ok style) :
      Shows width height (.background styles) (shadeAll
        (style.toList.flatMap (ShapeStyle.calls ⟨Scalar.zero, Scalar.zero, width, height⟩)))
  | rectangle {width height : α} {frame : Frame α} {styles : List (PathStyle α)}
      {style : Option (ShapeStyle α)}
      (h : ShapeStyle.resolve (scene.layout.basePathStyles ++ styles) scene.card
        (scene.project.resolveColor scene.card) = .ok style) :
      Shows width height (.rectangle frame styles)
        (shadeAll (style.toList.flatMap (ShapeStyle.calls frame)))
  | hidden {width height : α} (contents : CardText) (frame : Frame α) {name : Option String}
      {styles : List (TextStyle α)}
      (h : Condition.allHold scene.card (scene.baseStyle name styles).conditions = .ok false) :
      Shows width height (.text contents frame name styles) .none
  | text {width height : α} {contents : CardText} (frame : Frame α) {name : Option String}
      {styles : List (TextStyle α)} {source : String} {runs : List (PlainRun α)}
      (fonts : FontRegistry) (hsource : contents.render scene.card = .ok source)
      (hruns : scene.plainRuns store (scene.baseStyle name styles) [] (Markup.parse source) =
        .ok runs) :
      Shows width height (.text contents frame name styles) (shadeAll (if runs.isEmpty then [] else
        [.text (runs.map (PlainRun.set fonts)) frame (scene.baseStyle name styles).align]))
  | missing {width height : α} {name : CardText} (frame : Frame α) (scale : ScaleMode)
      {source : String} (fonts : FontRegistry) (hsource : name.render scene.card = .ok source)
      (hload : (store.load scene.photos scene.project.images source).1 = .ok none) :
      Shows width height (.image name frame scale)
        (shadeAll (Draw.crossedBox fonts scene.layout.geometry.dpi frame source)).block
  | found {width height : α} {name : CardText} {frame : Frame α} {scale : ScaleMode}
      {source : String} {picture : Picture} {place : Frame α} {clipped : Bool}
      (hsource : name.render scene.card = .ok source)
      (hload : (store.load scene.photos scene.project.images source).1 = .ok (some picture))
      (hplace : scale.place frame (Scalar.ofNat picture.width) (Scalar.ofNat picture.height) =
        .ok (place, clipped)) :
      Shows width height (.image name frame scale) (.image picture place.width place.height)
  | box {width height : α} {frame : Frame α} {children : List (Element α)} {f : Shade α}
      (h : ShowsAll frame.width frame.height children f) :
      Shows width height (.box frame children) f.block

inductive ShowsAll : α → α → List (Element α) → Shade α → Prop where
  | nil {width height : α} : ShowsAll width height [] .none
  | cons {width height : α} {e : Element α} {rest : List (Element α)} {f g : Shade α}
      (h : Shows width height e f) (h' : ShowsAll width height rest g) :
      ShowsAll width height (e :: rest) (f.append g)

end

variable {scene store}

mutual

theorem Shows.steady {width height : α} {f : Shade α} (e : Element α)
    (h : e.Shows scene store width height f) : f.Steady := by
  cases e with
  | background styles =>
    cases h
    exact shadeAll_steady _
  | rectangle frame styles =>
    cases h
    exact shadeAll_steady _
  | text contents frame name styles =>
    cases h with
    | hidden => exact .none
    | text => exact shadeAll_steady _
  | image name frame scale =>
    cases h with
    | missing => exact (shadeAll_steady _).block
    | found => exact .image _ _ _
  | box frame children =>
    cases h with
    | box h => exact (ShowsAll.steady children h).block

theorem ShowsAll.steady {width height : α} {f : Shade α} (es : List (Element α))
    (h : ShowsAll scene store width height es f) : f.Steady := by
  cases h with
  | nil => exact .none
  | cons h h' => exact (Shows.steady _ h).append (ShowsAll.steady _ h')

end

/-- What is seen of an element by itself, were its images opaque. -/
def ShowsAlone (scene : Scene α) (store : ImageStore) (width height : α) (e : Element α)
    (looks : List (Look α)) : Prop :=
  ∃ f, e.Shows scene store width height f ∧ looks = (f 255).1.map Look.unfaded

/-- Of elements one after the other the same is seen as of each by itself, but for the opacity of images. -/
theorem ShowsAll.alone {width height : α} {es : List (Element α)} {f : Shade α}
    (h : ShowsAll scene store width height es f) (opacity : Nat) :
    ∃ groups, (f opacity).1.map Look.unfaded = groups.flatten ∧
      List.Forall₂ (ShowsAlone scene store width height) es groups := by
  induction es generalizing f opacity with
  | nil =>
    cases h
    exact ⟨[], rfl, .nil⟩
  | cons e rest ih =>
    cases h with
    | @cons _ _ _ _ f g he hrest =>
      obtain ⟨groups, hgroups, hall⟩ := ih hrest (f opacity).2
      refine ⟨(f 255).1.map Look.unfaded :: groups, ?_, .cons ⟨f, he, rfl⟩ hall⟩
      rw [Shade.append, List.map_append, (Shows.steady e he).same opacity 255, hgroups,
        List.flatten_cons]

end Element

namespace Draw

variable {scene : Scene α} {store : ImageStore}

mutual

theorem shows_element {s t : Studio α} {width height : α} (e : Element α)
    (hstore : ImageStore.Alike scene.photos scene.project.images s.images store)
    (h : (element scene width height e).outcome s = (.ok (), t)) :
    ∃ calls f, scene.Adds s t calls ∧ e.Shows scene store width height f ∧
      Inks (calls.flatMap canvasCalls) f := by
  cases e with
  | background styles =>
    obtain ⟨style, hstyle, hadds⟩ := adds_shape h
    exact ⟨_, _, hadds, .background hstyle, plain_inks (ShapeStyle.plain_calls style)⟩
  | rectangle frame styles =>
    obtain ⟨style, hstyle, hadds⟩ := adds_shape h
    exact ⟨_, _, hadds, .rectangle hstyle, plain_inks (ShapeStyle.plain_calls style)⟩
  | text contents frame name styles =>
    obtain ⟨hhidden, hadds⟩ | ⟨source, runs, hsource, hruns, hadds⟩ := adds_text hstore h
    · exact ⟨_, _, hadds, .hidden contents frame hhidden, .nil⟩
    · refine ⟨_, _, hadds, .text frame s.fonts hsource hruns, plain_inks fun c hc => ?_⟩
      split at hc
      · simp at hc
      · rw [List.mem_singleton.mp hc]
        rfl
  | image name frame scale =>
    obtain ⟨source, hsource, ⟨hload, hadds⟩ | ⟨picture, place, clipped, hload, hplace, hadds⟩⟩ :=
      adds_image hstore h
    · rw [missingImageCalls_eq_cutAt] at hadds
      exact ⟨_, _, hadds, .missing frame scale s.fonts hsource hload,
        cutAt_inks (by simp [crossedBox, isPlain])⟩
    · have hplain : ∀ c ∈ [PaintCall.image picture place], c.isPlain := by simp [isPlain]
      refine ⟨_, _, hadds, .found hsource hload hplace, ?_⟩
      cases clipped with
      | false => exact plain_inks hplain
      | true => exact cutAt_inks hplain
  | box frame children =>
    unfold element at h
    obtain ⟨⟨⟩, u, hopen, h⟩ := outcome_bind_eq_ok.mp h
    obtain ⟨⟨⟩, v, hinner, h⟩ := outcome_bind_eq_ok.mp h
    have hopened := Scene.Adds.paintAll hopen
    obtain ⟨calls, f, hadds, hshows, hinks⟩ :=
      shows_elements children (hopened.images.trans hstore) hinner
    have hclosed := (hopened.trans hadds).trans (Scene.Adds.paint h)
    exact ⟨boxed frame calls, _, by simpa [boxed] using hclosed, .box hshows, boxed_inks hinks⟩

theorem shows_elements {s t : Studio α} {width height : α} (es : List (Element α))
    (hstore : ImageStore.Alike scene.photos scene.project.images s.images store)
    (h : (elements scene width height es).outcome s = (.ok (), t)) :
    ∃ calls f, scene.Adds s t calls ∧ Element.ShowsAll scene store width height es f ∧
      Inks (calls.flatMap canvasCalls) f := by
  cases es with
  | nil =>
    cases h
    exact ⟨[], _, .of_rests (.refl _), .nil, .nil⟩
  | cons e rest =>
    unfold elements at h
    obtain ⟨⟨⟩, u, hfirst, h⟩ := outcome_bind_eq_ok.mp h
    obtain ⟨calls, f, hadds, hshows, hinks⟩ := shows_element e hstore hfirst
    obtain ⟨more, g, hadds', hshows', hinks'⟩ :=
      shows_elements rest (hadds.images.trans hstore) h
    refine ⟨_, _, hadds.trans hadds', .cons hshows hshows', ?_⟩
    rw [List.flatMap_append]
    exact hinks.append hinks'

end

end Draw

namespace Render

variable {source : Source α} {c : Card} {s : RunState α} {r : RenderedCard α}

omit [Scalar α] in
theorem metadataCalls_quiet (m : Metadata) (id : String) :
    ∀ call ∈ metadataCalls (α := α) m id, call.isQuiet := by
  intro call hcall
  simp only [metadataCalls, List.mem_append, List.mem_singleton, List.mem_map] at hcall
  obtain (((rfl | ⟨_, -, rfl⟩) | ⟨_, -, rfl⟩) | ⟨_, -, rfl⟩) | rfl := hcall <;> rfl

theorem turnOver_quiet {height dpi : α} {turn : List (CanvasCall α)}
    (h : turnOver height dpi = .ok turn) : ∀ call ∈ turn, call.isQuiet := by
  obtain ⟨scale, -, h⟩ := bind_eq_ok.mp h
  cases h
  simp [isQuiet]

/-- What is seen on the page of a card: all elements with their own colours, widths, dashes and fonts, and
images as opaque as something that was filled before them, if they are not opaque. -/
structure ShowsCard (scene : Scene α) (store : ImageStore) (looks : List (Look α)) : Prop where
  shade : ∃ f, looks = (f 255).1 ∧ Element.ShowsAll scene store scene.layout.geometry.width
    scene.layout.geometry.height scene.layout.elements f
  alone : ∃ groups, looks.map Look.unfaded = groups.flatten ∧
    List.Forall₂ (Element.ShowsAlone scene store scene.layout.geometry.width
      scene.layout.geometry.height) scene.layout.elements groups
  traced : Look.Traced 255 looks

/-- On a new page a card shows its elements. -/
theorem card_shows (h : (card source c s).1 = .ok r) :
    ∃ layout, source.project.layoutFor c = .ok layout ∧
      ShowsCard (sceneOf source c layout) s.images (InkState.fresh.looks r.page.calls) := by
  obtain ⟨layout, hlayout, -, -, hdpi⟩ := layout_of_card h
  obtain ⟨width, height, turn, hturn, hcard⟩ := card_opens hlayout hdpi
  refine ⟨layout, hlayout, ?_⟩
  rw [hcard, drawOn_eq] at h
  rcases hdrawn : drawn source c layout s with ⟨e, t⟩
  rw [hdrawn] at h
  cases e with
  | error f => cases h
  | ok u =>
    cases h
    obtain ⟨calls, f, hadds, hshows, hinks⟩ := Draw.shows_elements _ (.refl _) hdrawn
    have hcalls : t.calls = calls := hadds.calls
    have hopening := Inks.quiet (α := α) (metadataCalls_quiet source.project.metadata c.id)
    have hclosing : Inks (α := α) [.showPage, .save] .none := .quiet (by simp [isQuiet])
    have hpage :=
      ((hopening.append (.quiet (turnOver_quiet hturn))).append hinks).append hclosing
    have hlooks : InkState.fresh.looks (metadataCalls source.project.metadata c.id ++ turn ++
        t.calls.flatMap canvasCalls ++ [.showPage, .save]) = (f 255).1 := by
      rw [hcalls, hpage.looks]
      exact List.append_nil _
    exact ⟨⟨f, hlooks, hshows⟩, hlooks ▸ hshows.alone 255, hlooks ▸ hshows.steady.traced 255⟩

/-- A deck for a card with a filled square and an image beside it. -/
def dotDeck (color : Color) : Source Rat where
  project :=
    { layouts := Named.empty.put "default" ⟨"default", ⟨100, 50, .zero, .zero, 72⟩, [], [],
        [.rectangle ⟨0, 0, 10, 10⟩ [.solid (.fixed color)],
          .image ⟨"dot", none⟩ ⟨20, 0, 10, 10⟩ .stretch]⟩
      images := Named.empty.put "dot" "dot.png" }
  photos := fun _ => some ⟨2, 2, "RGB"⟩

def dotCard : Card := ⟨"A", .empty⟩

def dotPicture : Picture := ⟨2, 2, "RGB"⟩

/-- Beside an opaque square the image is opaque. -/
theorem card_shows_dot : ∃ r, (card (dotDeck .black) dotCard (start (dotDeck .black))).1 = .ok r ∧
    Look.Traced 255 (InkState.fresh.looks r.page.calls) ∧
    ∀ picture width height o, .image picture width height o ∈ InkState.fresh.looks r.page.calls →
      o = 255 := by
  obtain ⟨r, hr, hlooks⟩ : ∃ r, (card (dotDeck .black) dotCard (start (dotDeck .black))).1 = .ok r ∧
      InkState.fresh.looks r.page.calls =
        [.area ⟨0, 0, 10, 10⟩ .black, .image dotPicture 10 10 255] := ⟨_, rfl, rfl⟩
  obtain ⟨layout, -, hshows⟩ := card_shows hr
  refine ⟨r, hr, hshows.traced, fun picture width height o himage =>
    hshows.traced.solid (fun frame color harea => ?_) himage⟩
  rw [hlooks] at harea
  simp only [List.mem_cons, List.not_mem_nil, or_false, reduceCtorEq] at harea
  cases harea
  rfl

/-- Beside a square that lets half of the light through so does the image. -/
theorem card_fades_dot : ∃ r,
    (card (dotDeck ⟨255, 0, 0, 128⟩) dotCard (start (dotDeck ⟨255, 0, 0, 128⟩))).1 = .ok r ∧
    InkState.fresh.looks r.page.calls =
      [.area ⟨0, 0, 10, 10⟩ ⟨255, 0, 0, 128⟩, .image dotPicture 10 10 128] :=
  ⟨_, rfl, rfl⟩

end Render

end CardPress
