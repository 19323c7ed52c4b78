import CardPress.Proofs.Draw.ShapeStyle
import CardPress.Proofs.Draw.Tandem

/-! Hidden elements. All conditions of an element are asked before anything else of it is looked at, so
one that is hidden paints nothing and cannot fail, and may as well not be there. -/
namespace CardPress

variable {α : Type}

namespace Element

mutual

/-- Elements without some of those that are hidden, at any depth. -/
inductive Pruned (hidden : Element α → Prop) : Element α → Element α → Prop where
  | same (e : Element α) : Pruned hidden e e
  | box (frame : Frame α) {children children' : List (Element α)}
      (h : PrunedAll hidden children children') :
      Pruned hidden (.box frame children) (.box frame children')

inductive PrunedAll (hidden : Element α → Prop) : List (Element α) → List (Element α) → Prop where
  | nil : PrunedAll hidden [] []
  | keep {e e' : Element α} {rest rest' : List (Element α)} (he : Pruned hidden e e')
      (hrest : PrunedAll hidden rest rest') : PrunedAll hidden (e :: rest) (e' :: rest')
  | drop {e : Element α} {rest rest' : List (Element α)} (he : hidden e)
      (hrest : PrunedAll hidden rest rest') : PrunedAll hidden (e :: rest) rest'

end

end Element

namespace Scene

/-- The conditions of an element in the order in which they are asked: those of the layout's base
styles, of the styles that a text names, and of its own. Images and boxes have none. -/
def conditionsOn (scene : Scene α) : Element α → List Condition
  | .background styles | .rectangle _ styles =>
    (scene.layout.basePathStyles ++ styles).filterMap PathStyle.condition?
  | .text _ _ name styles =>
    (scene.layout.baseTextStyles ++ scene.namedStyles name ++ styles).filterMap TextStyle.condition?
  | .image _ _ _ | .box _ _ => []

def Hides (scene : Scene α) (e : Element α) : Prop :=
  Condition.Hides scene.card (scene.conditionsOn e)

/-- The scene with other layouts in the deck and other elements on the layout at hand. -/
def relaid (scene : Scene α) (layouts : Named (Layout α)) (es : List (Element α)) : Scene α :=
  { scene with
    project := { scene.project with layouts }
    layout := { scene.layout with elements := es } }

variable [Scalar α] {scene : Scene α} {F : Option String → Prop} {s t : Studio α}

omit [Scalar α] in
theorem Rests.symm (h : scene.Rests s t) : scene.Rests t s :=
  ⟨h.calls.symm, h.fonts.symm, h.images.symm⟩

theorem Rests.painted (h : scene.Rests s t) (call : PaintCall α) :
    scene.Rests (s.painted scene call) (t.painted scene call) :=
  ⟨by simp [Studio.painted, h.calls], by simp [Studio.painted, h.fonts], h.images⟩

/-- Studios that differ in nothing that drawing looks at stay so. -/
theorem outlives_rests : scene.Outlives F scene.Rests where
  images h := h.images.symm
  rests h ht ht' := ht.symm.trans (h.trans ht')
  paints h _ := h.painted _
  sets frame align h _ := by
    rw [h.fonts]
    exact h.painted _

end Scene

namespace Draw

variable {β γ : Type} [Scalar α] {scene : Scene α} {R : Studio α → Studio α → Prop}

theorem shape_of_hidden {styles : List (PathStyle α)}
    (h : Condition.Hides scene.card
      ((scene.layout.basePathStyles ++ styles).filterMap PathStyle.condition?))
    (frame : Frame α) (s : Studio α) : Yields scene (shape scene frame styles) s (.ok ()) := by
  unfold shape
  dsimp only
  rw [ShapeStyle.resolve_of_unmet (Condition.allHold_of_hides h)]
  exact (Yields.lift (.ok none)).bind_ok fun _ _ => .pure ()

theorem text_of_hidden {name : Option String} {styles : List (TextStyle α)}
    (h : Condition.Hides scene.card
      ((scene.layout.baseTextStyles ++ scene.namedStyles name ++ styles).filterMap
        TextStyle.condition?))
    (contents : CardText) (frame : Frame α) (s : Studio α) :
    Yields scene (text scene contents frame name styles) s (.ok ()) := by
  have hconditions : Condition.allHold scene.card (scene.baseStyle name styles).conditions =
      .ok false := by
    rw [Scene.baseStyle, FlatTextStyle.conditions_apply]
    exact Condition.allHold_of_hides h
  unfold text
  refine (baseStyle_yields scene name styles s).bind_ok fun t _ => ?_
  rw [hconditions]
  exact (Yields.lift (.ok false)).bind_ok fun _ _ => .pure ()

/-- A hidden element paints nothing and does not fail, whatever else is asked of it. -/
theorem element_of_hidden {e : Element α} (h : scene.Hides e) (width height : α) (s : Studio α) :
    Yields scene (element scene width height e) s (.ok ()) := by
  cases e with
  | background styles => exact shape_of_hidden h _ s
  | rectangle frame styles => exact shape_of_hidden h frame s
  | text contents frame name styles => exact text_of_hidden h contents frame s
  | image _ _ _ | box _ _ =>
    obtain ⟨before, c, after, hnone, -⟩ := h
    simp [Scene.conditionsOn] at hnone

namespace Matches

theorem drop {F : Option String → Prop} (hR : scene.Outlives F R) {d : Draw α β} {b : β}
    {f : β → Draw α γ} {d' : Draw α γ} (hd : ∀ s, Yields scene d s (.ok b))
    (hf : Matches R (f b) d') : Matches R (d >>= f) d' := by
  intro s s' hs
  obtain ⟨t, ht, he⟩ := hd s
  rw [outcome_of_ok he]
  exact hf t s' (hR.rests hs ht (.refl s'))

mutual

theorem of_pruned {e e' : Element α} (h : e.Pruned scene.Hides e') (width height : α) :
    Matches scene.Rests (element scene width height e) (element scene width height e') := by
  cases h with
  | same =>
    exact Tandem.element Scene.outlives_rests scene.families_true width height e fun _ _ => trivial
  | box frame h =>
    have hR : scene.Outlives (fun _ => True) scene.Rests := Scene.outlives_rests
    have hchildren := of_prunedAll h frame.width frame.height
    unfold element
    refine Matches.bind ?_ fun _ => Matches.bind hchildren fun _ => Tandem.paint hR rfl
    exact Tandem.paintAll_plain hR (by simp [PaintCall.isText])

theorem of_prunedAll {es es' : List (Element α)} (h : Element.PrunedAll scene.Hides es es')
    (width height : α) :
    Matches scene.Rests (elements scene width height es) (elements scene width height es') := by
  cases h with
  | nil => exact Tandem.pure ()
  | keep he hrest =>
    have hhead := of_pruned he width height
    have htail := of_prunedAll hrest width height
    unfold elements
    exact Matches.bind hhead fun _ => htail
  | drop he hrest =>
    have hR : scene.Outlives (fun _ => True) scene.Rests := Scene.outlives_rests
    have htail := of_prunedAll hrest width height
    rw [elements]
    exact drop hR (element_of_hidden he width height) htail

end

end Matches

/-! What an element comes to is the same whatever other elements and layouts there are. -/

variable (scene) (layouts : Named (Layout α)) (es : List (Element α))

theorem textRuns_relaid (base : FlatTextStyle α) (tags : List (String × FlatTextStyle α))
    (is : List Instruction) :
    textRuns (scene.relaid layouts es) base tags is = textRuns scene base tags is := by
  induction is generalizing tags with
  | nil => rfl
  | cons i is ih =>
    simp only [textRuns, ih]
    rfl

theorem text_relaid (contents : CardText) (frame : Frame α) (name : Option String)
    (styles : List (TextStyle α)) :
    text (scene.relaid layouts es) contents frame name styles =
      text scene contents frame name styles := by
  unfold text
  simp only [textRuns_relaid]
  rfl

mutual

theorem element_relaid (width height : α) (e : Element α) :
    element (scene.relaid layouts es) width height e = element scene width height e := by
  cases e with
  | background _ | rectangle _ _ | image _ _ _ => rfl
  | text contents frame name styles => exact text_relaid scene layouts es contents frame name styles
  | box frame children =>
    unfold element
    rw [elements_relaid frame.width frame.height children]
    rfl

theorem elements_relaid (width height : α) (es' : List (Element α)) :
    elements (scene.relaid layouts es) width height es' = elements scene width height es' := by
  cases es' with
  | nil => rfl
  | cons e rest =>
    unfold elements
    rw [element_relaid width height e, elements_relaid width height rest]

end

variable {scene es}

end Draw

end CardPress
