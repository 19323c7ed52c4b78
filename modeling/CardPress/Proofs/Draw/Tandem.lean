import CardPress.Proofs.Draw.Runs

/-! Two drawings of one card side by side, from other fonts and other images. Whatever relates them and
outlives each step relates what they come to. -/
namespace CardPress

variable {α β γ : Type}

namespace Element

mutual

/-- The styles of the texts in an element. -/
def textStyles : Element α → List (TextStyle α)
  | .text _ _ _ styles => styles
  | .box _ children => allTextStyles children
  | .background _ | .rectangle _ _ | .image _ _ _ => []

def allTextStyles : List (Element α) → List (TextStyle α)
  | [] => []
  | e :: rest => textStyles e ++ allTextStyles rest

end

end Element

def PaintCall.isText : PaintCall α → Bool
  | text _ _ _ => true
  | _ => false

/-- What is true of no family, and of every family that a text of the scene may ask for. -/
structure Scene.Families (scene : Scene α) (F : Option String → Prop) : Prop where
  none : F none
  base : ∀ x ∈ scene.layout.baseTextStyles, F x.family?
  named : ∀ name xs, scene.project.styleSet? name = some xs → ∀ x ∈ xs, F x.family?
  own : ∀ x ∈ Element.allTextStyles scene.layout.elements, F x.family?

theorem Scene.families_true (scene : Scene α) : scene.Families fun _ => True :=
  ⟨trivial, fun _ _ => trivial, fun _ _ _ _ _ => trivial, fun _ _ => trivial⟩

variable [Scalar α]

def Studio.painted (scene : Scene α) (call : PaintCall α) (s : Studio α) : Studio α :=
  { s with
    calls := s.calls ++ [call]
    fonts := if scene.surface = .page then s.fonts.useAll call.fontsUsed else s.fonts }

/-- A relation of two studios that outlives whatever paints nothing, calls without text, and texts
that differ in nothing but the fonts that their runs find. -/
structure Scene.Outlives (scene : Scene α) (F : Option String → Prop)
    (R : Studio α → Studio α → Prop) : Prop where
  images {s s' : Studio α} : R s s' →
    ImageStore.Alike scene.photos scene.project.images s.images s'.images
  rests {s s' t t' : Studio α} : R s s' → scene.Rests s t → scene.Rests s' t' → R t t'
  paints {s s' : Studio α} {call : PaintCall α} : R s s' → call.isText = false →
    R (s.painted scene call) (s'.painted scene call)
  sets {s s' : Studio α} {runs : List (PlainRun α)} (frame : Frame α) (align : Alignment) :
    R s s' → (∀ run ∈ runs, F run.family) →
      R (s.painted scene (.text (runs.map (PlainRun.set s.fonts)) frame align))
        (s'.painted scene (.text (runs.map (PlainRun.set s'.fonts)) frame align))

variable {scene : Scene α} {F : Option String → Prop} {R : Studio α → Studio α → Prop}
  {s s' : Studio α} {call : PaintCall α} {runs : List (PlainRun α)} {frame : Frame α}
  {align : Alignment}

namespace Draw

theorem outcome_paint (call : PaintCall α) :
    (paint scene call).outcome s = (.ok (), s.painted scene call) := rfl

/-- From related studios two drawings give the same, and leave related studios. -/
def Matches (R : Studio α → Studio α → Prop) (d d' : Draw α β) : Prop :=
  ∀ s s', R s s' → (d.outcome s).1 = (d'.outcome s').1 ∧ R (d.outcome s).2 (d'.outcome s').2

omit [Scalar α] in
theorem Matches.bind {d d' : Draw α β} {f f' : β → Draw α γ} (hd : Matches R d d')
    (hf : ∀ b, Matches R (f b) (f' b)) : Matches R (d >>= f) (d' >>= f') := by
  intro s s' h
  obtain ⟨he, ht⟩ := hd s s' h
  rw [outcome_bind, outcome_bind]
  rcases hs : d.outcome s with ⟨e, t⟩
  rcases hs' : d'.outcome s' with ⟨e', t'⟩
  rw [hs, hs'] at he ht
  obtain rfl : e = e' := he
  cases e with
  | error x => exact ⟨rfl, ht⟩
  | ok b => exact hf b t t' ht

/-- From related studios the drawing gives the same, and leaves related studios. -/
def Tandem (R : Studio α → Studio α → Prop) (d : Draw α β) : Prop :=
  ∀ s s', R s s' → (d.outcome s).1 = (d.outcome s').1 ∧ R (d.outcome s).2 (d.outcome s').2

namespace Tandem

section

omit [Scalar α]

variable {d : Draw α β} {f : β → Draw α γ} {e : Except Failure β}

theorem pure (b : β) : Tandem R (Pure.pure b) := fun _ _ h => ⟨rfl, h⟩

theorem lift (e : Except Failure β) : Tandem R (liftM e) := fun _ _ h => ⟨rfl, h⟩

theorem bind (hd : Tandem R d) (hf : ∀ b, Tandem R (f b)) : Tandem R (d >>= f) :=
  Matches.bind hd hf

end

theorem paintAll {calls : List (PaintCall α)} (hcalls : ∀ c ∈ calls, Tandem R (Draw.paint scene c)) :
    Tandem R (paintAll scene calls) := by
  induction calls with
  | nil => exact .pure ()
  | cons c rest ih =>
    exact (hcalls c (by simp)).bind fun _ => ih fun c hc => hcalls c (List.mem_cons_of_mem _ hc)

section

variable (h : scene.Outlives F R)

include h

theorem of_yields {d : Draw α β} {e : Except Failure β} (hd : ∀ s, Yields scene d s e) :
    Tandem R d := by
  intro s s' hs
  obtain ⟨t, ht, he⟩ := hd s
  obtain ⟨t', ht', he'⟩ := hd s'
  rw [he, he']
  exact ⟨rfl, h.rests hs ht ht'⟩

theorem bind_yields {d : Draw α β} {f : β → Draw α γ} {b : β}
    (hd : ∀ s, Yields scene d s (.ok b)) (hf : Tandem R (f b)) : Tandem R (d >>= f) := by
  intro s s' hs
  obtain ⟨t, ht, he⟩ := hd s
  obtain ⟨t', ht', he'⟩ := hd s'
  rw [outcome_of_ok he, outcome_of_ok he']
  exact hf t t' (h.rests hs ht ht')

theorem note (w : Warning) : Tandem R (note w) := of_yields h fun _ => .note w

theorem loadImage (name : String) : Tandem R (loadImage scene name) := by
  intro s s' hs
  rw [outcome_loadImage, outcome_loadImage]
  exact ⟨h.images hs name, h.rests hs
    ⟨rfl, rfl, ImageStore.alike_load name _⟩ ⟨rfl, rfl, ImageStore.alike_load name _⟩⟩

theorem paint (hcall : call.isText = false) : Tandem R (paint scene call) := by
  intro s s' hs
  rw [outcome_paint, outcome_paint]
  exact ⟨rfl, h.paints hs hcall⟩

theorem paint_text (hruns : ∀ run ∈ runs, F run.family)
    (hcall : ∀ known, call = .text (runs.map (PlainRun.set known)) frame align) :
    Tandem R (Draw.paint scene call) := by
  intro s s' hs
  rw [outcome_paint, outcome_paint]
  have hsets := h.sets frame align hs hruns
  rw [← hcall, ← hcall] at hsets
  exact ⟨rfl, hsets⟩

theorem shape (frame : Frame α) (styles : List (PathStyle α)) :
    Tandem R (shape scene frame styles) := by
  unfold Draw.shape
  refine (Tandem.lift _).bind fun style => ?_
  cases style with
  | none => exact .pure ()
  | some style =>
    dsimp only
    cases style.strokeColor with
    | none =>
      cases style.fill with
      | none => exact .pure ()
      | some color => exact (paint h rfl).bind fun _ => .pure ()
    | some stroke =>
      have hstroke : Tandem R (if style.hasStroke then
          Draw.paint scene (.stroke frame style.strokeWidth stroke style.dashes)
          else Pure.pure ()) := by
        split
        · exact paint h rfl
        · exact .pure ()
      cases style.fill with
      | none => exact hstroke
      | some color => exact (paint h rfl).bind fun _ => hstroke

theorem paintAll_plain {calls : List (PaintCall α)} (hcalls : ∀ c ∈ calls, c.isText = false) :
    Tandem R (Draw.paintAll scene calls) := paintAll fun c hc => paint h (hcalls c hc)

/-- The name in a crossed box asks for no family, so that it is set in the same font always. -/
theorem missingImage (hnone : F none) (dpi : α) (frame : Frame α) (name : String) :
    Tandem R (do
      let s ← get
      Draw.paintAll scene (missingImageCalls s.fonts dpi frame name)) := by
  change Tandem R (Draw.paintAll scene (missingImageCalls [] dpi frame name))
  let run : PlainRun α :=
    ⟨name, none, .normal, none, Scalar.ofNat 6 * dpi / Scalar.ofNat 72, Color.blueColor, none, none⟩
  have hruns : ∀ r ∈ [run], F r.family := by simpa using hnone
  have htext : Tandem R (Draw.paint scene (.text [run.set []] frame .left)) :=
    paint_text h hruns fun _ => rfl
  refine paintAll fun c hc => ?_
  by_cases hc' : c.isText = false
  · exact paint h hc'
  · have : c = .text [run.set []] frame .left := by
      simp only [missingImageCalls, List.mem_cons, List.not_mem_nil, or_false] at hc
      rcases hc with rfl | rfl | rfl | rfl | rfl | rfl | rfl | rfl <;>
        first | rfl | exact absurd rfl hc'
    rwa [this]

theorem image (name : CardText) (frame : Frame α) (scale : ScaleMode) (hnone : F none) :
    Tandem R (image scene name frame scale) := by
  unfold Draw.image
  refine (Tandem.lift _).bind fun name => (loadImage h name).bind fun found => ?_
  cases found with
  | some picture =>
    refine (Tandem.lift _).bind fun (place, clipped) => ?_
    cases clipped with
    | false => exact paint h rfl
    | true => exact paintAll_plain h (by simp [PaintCall.isText])
  | none =>
    exact (note h _).bind fun _ => missingImage h hnone _ frame name

/-- Runs of text find their fonts before they are painted. -/
theorem textRuns (hfamilies : scene.Families F) {base : FlatTextStyle α} (hbase : F base.family)
    (frame : Frame α) (is : List Instruction) :
    Tandem R (do
      let runs ← textRuns scene base [] is
      if !runs.isEmpty then Draw.paint scene (.text runs frame base.align)) := by
  intro s s' hs
  obtain ⟨t, ht, he⟩ := textRuns_yields scene s base [] is (.refl _)
  obtain ⟨t', ht', he'⟩ := textRuns_yields scene s' base [] is (h.images hs).symm
  rw [outcome_bind, outcome_bind, he, he']
  have hrests : R t t' := h.rests hs ht ht'
  rw [← ht.fonts, ← ht'.fonts]
  cases hplain : scene.plainRuns s.images base
      (([] : List (String × FlatTextStyle α)).map Prod.snd) is with
  | error x => exact ⟨rfl, hrests⟩
  | ok runs =>
    have hruns := Scene.family_plainRuns hbase (by simp) hfamilies.named hplain
    cases runs with
    | nil => exact ⟨rfl, hrests⟩
    | cons run rest => exact ⟨rfl, h.sets frame base.align hrests hruns⟩

theorem text (hfamilies : scene.Families F) (contents : CardText) (frame : Frame α)
    (name : Option String) (styles : List (TextStyle α)) (hstyles : ∀ x ∈ styles, F x.family?) :
    Tandem R (text scene contents frame name styles) := by
  obtain ⟨named, hnamed, hbase⟩ := baseStyle_cases scene name styles
  have hfamily : F (({} : FlatTextStyle α).apply
      (scene.layout.baseTextStyles ++ named ++ styles)).family := by
    refine FlatTextStyle.family_apply hfamilies.none fun x hx => ?_
    rcases List.mem_append.mp hx with hx | hx
    · rcases List.mem_append.mp hx with hx | hx
      · exact hfamilies.base x hx
      · rcases hnamed with rfl | ⟨name, hnamed⟩
        · simp at hx
        · exact hfamilies.named name named hnamed x hx
    · exact hstyles x hx
  unfold Draw.text
  refine bind_yields h hbase ?_
  refine (Tandem.lift _).bind fun seen => ?_
  cases seen with
  | false => exact .pure ()
  | true => exact (Tandem.lift _).bind fun s => textRuns h hfamilies hfamily frame _

end

mutual

theorem element (h : scene.Outlives F R) (hfamilies : scene.Families F) (width height : α)
    (e : Element α) (he : ∀ x ∈ e.textStyles, F x.family?) : Tandem R (element scene width height e) := by
  cases e with
  | background styles => exact shape h _ styles
  | rectangle frame styles => exact shape h frame styles
  | text contents frame style styles => exact text h hfamilies contents frame style styles he
  | image name frame scale => exact image h name frame scale hfamilies.none
  | box frame children =>
    unfold Draw.element
    exact (paintAll_plain h (by simp [PaintCall.isText])).bind fun _ =>
      (elements h hfamilies frame.width frame.height children he).bind fun _ => paint h rfl

theorem elements (h : scene.Outlives F R) (hfamilies : scene.Families F) (width height : α)
    (es : List (Element α)) (hes : ∀ x ∈ Element.allTextStyles es, F x.family?) :
    Tandem R (elements scene width height es) := by
  cases es with
  | nil => exact .pure ()
  | cons e rest =>
    unfold Draw.elements
    rw [Element.allTextStyles] at hes
    exact (element h hfamilies width height e fun x hx => hes x (List.mem_append_left _ hx)).bind
      fun _ => elements h hfamilies width height rest fun x hx => hes x (List.mem_append_right _ hx)

end

theorem card (h : scene.Outlives F R) (hfamilies : scene.Families F) : Tandem R (card scene) :=
  elements h hfamilies _ _ _ hfamilies.own

end Tandem

end Draw

end CardPress
