import CardPress.Proofs.Draw.Outcome
import CardPress.Proofs.Style.Cascade

/-! What can go wrong with drawing: on a card that fills in the texts of its layout, and with pictures
that have some size, it ends in no fault. -/
namespace CardPress

variable {α β γ : Type}

/-- It came to no fault, though it may have come to a problem. -/
def NoFault (e : Except Failure β) : Prop := ∀ f, e ≠ .error (.fault f)

namespace NoFault

theorem ok (b : β) : NoFault (.ok b) := nofun

theorem problem (p : Problem) : NoFault (.error (.problem p) : Except Failure β) := nofun

theorem bind {e : Except Failure β} {g : β → Except Failure γ} (he : NoFault e)
    (hg : ∀ b, NoFault (g b)) : NoFault (e >>= g) := by
  cases e with
  | error f => exact fun f' h => he f' (by cases h; rfl)
  | ok b => exact hg b

theorem mapM {g : β → Except Failure γ} {xs : List β} (h : ∀ x ∈ xs, NoFault (g x)) :
    NoFault (xs.mapM g) := by
  induction xs with
  | nil => exact ok []
  | cons x xs ih =>
    rw [List.mapM_cons]
    exact (h x List.mem_cons_self).bind fun b =>
      (ih fun y hy => h y (List.mem_cons_of_mem x hy)).bind fun bs => ok (b :: bs)

end NoFault

/-! The texts of a layout, and its conditions. -/

/-- The card fills in the text, or has a problem with it. -/
def CardText.Fills (card : Card) (t : CardText) : Prop := NoFault (t.render card)

/-- If there is an operator, it means something. -/
def Operator.IsKnown (operator : Option Operator) : Prop := ∀ text, operator ≠ some (.other text)

def Condition.IsKnown (c : Condition) : Prop := Operator.IsKnown c.operator

def Condition.texts (c : Condition) : List CardText := c.left :: c.right

def ColorRef.texts : ColorRef → List CardText
  | .fixed _ => []
  | .named name => [name]

def PathStyle.texts : PathStyle α → List CardText
  | .stroke _ color _ => color.texts
  | .solid color => color.texts
  | .onlyIf c => c.texts

def TextStyle.texts : TextStyle α → List CardText
  | .foreground color => color.texts
  | .background color => color.texts
  | .onlyIf c => c.texts
  | .font .. | .size _ | .align _ => []

namespace Element

mutual

def texts : Element α → List CardText
  | .background styles => styles.flatMap PathStyle.texts
  | .rectangle _ styles => styles.flatMap PathStyle.texts
  | .text contents _ _ styles => contents :: styles.flatMap TextStyle.texts
  | .image name _ _ => [name]
  | .box _ children => allTexts children

def allTexts : List (Element α) → List CardText
  | [] => []
  | e :: rest => texts e ++ allTexts rest

end

mutual

def conditions : Element α → List Condition
  | .background styles => styles.filterMap PathStyle.condition?
  | .rectangle _ styles => styles.filterMap PathStyle.condition?
  | .text _ _ _ styles => styles.filterMap TextStyle.condition?
  | .image .. => []
  | .box _ children => allConditions children

def allConditions : List (Element α) → List Condition
  | [] => []
  | e :: rest => conditions e ++ allConditions rest

end

end Element

def Layout.texts (l : Layout α) : List CardText :=
  l.basePathStyles.flatMap PathStyle.texts ++ l.baseTextStyles.flatMap TextStyle.texts ++
    Element.allTexts l.elements

def Layout.conditions (l : Layout α) : List Condition :=
  l.basePathStyles.filterMap PathStyle.condition? ++
    l.baseTextStyles.filterMap TextStyle.condition? ++ Element.allConditions l.elements

/-! Styles. -/

section

variable {card : Card}

theorem Condition.holds_noFault {c : Condition} (h : c.IsKnown) (ht : ∀ t ∈ c.texts, t.Fills card) :
    NoFault (c.holds card) := by
  unfold holds
  refine (ht c.left List.mem_cons_self).bind fun left => ?_
  refine (NoFault.mapM fun t hmem => ht t (List.mem_cons_of_mem _ hmem)).bind fun right => ?_
  cases hop : c.operator with
  | none => exact .ok _
  | some op =>
    cases op with
    | equal => exact .ok _
    | unequal => cases right <;> exact .ok _
    | among => exact .ok _
    | notAmong => exact .ok _
    | other text => exact absurd hop (h text)

theorem Condition.allHold_noFault {cs : List Condition} (h : ∀ c ∈ cs, c.IsKnown)
    (ht : ∀ c ∈ cs, ∀ t ∈ c.texts, t.Fills card) : NoFault (allHold card cs) := by
  induction cs with
  | nil => exact .ok true
  | cons c cs ih =>
    unfold allHold
    refine (holds_noFault (h c List.mem_cons_self) (ht c List.mem_cons_self)).bind fun b => ?_
    cases b with
    | true =>
      exact ih (fun d hd => h d (List.mem_cons_of_mem c hd)) fun d hd =>
        ht d (List.mem_cons_of_mem c hd)
    | false => exact .ok false

theorem Project.resolveColor_noFault (p : Project α) {color : ColorRef}
    (ht : ∀ t ∈ color.texts, t.Fills card) : NoFault (p.resolveColor card color) := by
  cases color with
  | fixed c => exact .ok c
  | named name =>
    refine (ht name List.mem_cons_self).bind fun text => ?_
    unfold colorNamed
    dsimp only
    split
    · exact .ok _
    · exact .problem _

theorem PathStyle.texts_of_condition {s : PathStyle α} {c : Condition} (h : s.condition? = some c) :
    s.texts = c.texts := by
  cases s <;> cases h
  rfl

theorem TextStyle.texts_of_condition {s : TextStyle α} {c : Condition} (h : s.condition? = some c) :
    s.texts = c.texts := by
  cases s <;> cases h
  rfl

theorem DashPattern.scaled_noFault [Scalar α] (pattern : DashPattern) (width : α) :
    NoFault (pattern.scaled width) := by
  cases pattern with
  | solid => exact .ok none
  | dashes segments =>
    unfold scaled
    dsimp only
    split
    · exact .problem _
    · exact .ok _

theorem ShapeStyle.resolve_noFault [Scalar α] (p : Project α) {styles : List (PathStyle α)}
    (ht : ∀ t ∈ styles.flatMap PathStyle.texts, t.Fills card)
    (hc : ∀ c ∈ styles.filterMap PathStyle.condition?, c.IsKnown) :
    NoFault (resolve styles card (p.resolveColor card)) := by
  have hstyle : ∀ s ∈ styles, ∀ t ∈ s.texts, t.Fills card := fun s hs t hts =>
    ht t (List.mem_flatMap.mpr ⟨s, hs, hts⟩)
  have hconditions : NoFault (Condition.allHold card (styles.filterMap PathStyle.condition?)) := by
    refine Condition.allHold_noFault hc fun c hmem t hts => ?_
    obtain ⟨s, hs, hsc⟩ := List.mem_filterMap.mp hmem
    exact hstyle s hs t (by rwa [PathStyle.texts_of_condition hsc])
  have hsolid : ∀ color, (styles.filterMap PathStyle.solid?).getLast? = some color →
      NoFault (p.resolveColor card color) := by
    intro color hlast
    obtain ⟨s, hs, hcolor⟩ := List.mem_filterMap.mp (List.mem_of_getLast? hlast)
    refine p.resolveColor_noFault fun t htext => hstyle s hs t ?_
    cases s <;> cases hcolor
    exact htext
  have hstroke : ∀ width color pattern,
      (styles.filterMap PathStyle.stroke?).getLast? = some (width, color, pattern) →
        NoFault (p.resolveColor card color) := by
    intro width color pattern hlast
    obtain ⟨s, hs, hcolor⟩ := List.mem_filterMap.mp (List.mem_of_getLast? hlast)
    refine p.resolveColor_noFault fun t htext => hstyle s hs t ?_
    cases s <;> cases hcolor
    exact htext
  have hstroked : ∀ width color pattern,
      (styles.filterMap PathStyle.stroke?).getLast? = some (width, color, pattern) →
        ∀ filled : ShapeStyle α, NoFault (do
          let c ← p.resolveColor card color
          let dashes ← pattern.scaled width
          return { filled with strokeColor := some c, strokeWidth := width, dashes }) :=
    fun width color pattern hlast filled => (hstroke width color pattern hlast).bind fun c =>
      (pattern.scaled_noFault width).bind fun dashes => .ok _
  have hvisible : NoFault (ofVisible styles (p.resolveColor card)) := by
    unfold ofVisible
    cases hfill : (styles.filterMap PathStyle.solid?).getLast? with
    | none =>
      cases hline : (styles.filterMap PathStyle.stroke?).getLast? with
      | none => exact .ok plain
      | some line => exact hstroked _ _ _ hline plain
    | some color =>
      refine (hsolid color hfill).bind fun c => ?_
      cases hline : (styles.filterMap PathStyle.stroke?).getLast? with
      | none => exact .ok _
      | some line => exact hstroked _ _ _ hline { plain with fill := some c }
  unfold resolve
  refine hconditions.bind fun b => ?_
  cases b with
  | true => exact hvisible.bind fun s => .ok _
  | false => exact .ok none

/-! Drawing. -/

/-- Where the scene can be drawn: pictures have some size, texts are filled in, and conditions mean
something. -/
structure Scene.Sound [Scalar α] (scene : Scene α) : Prop where
  texts : ∀ t ∈ scene.layout.texts, t.Fills scene.card
  conditions : ∀ c ∈ scene.layout.conditions, c.IsKnown
  namedTexts : ∀ name xs, scene.project.styleSet? name = some xs →
    ∀ x ∈ xs, ∀ t ∈ x.texts, t.Fills scene.card
  namedConditions : ∀ name xs, scene.project.styleSet? name = some xs →
    ∀ c ∈ xs.filterMap TextStyle.condition?, c.IsKnown
  pictures : ∀ path p, scene.photos path = some p →
    Scalar.isZero (Scalar.ofNat p.width : α) = false ∧
      Scalar.isZero (Scalar.ofNat p.height : α) = false

/-- What a cascade collects is filled in and means something. -/
structure FlatTextStyle.Sound (card : Card) (s : FlatTextStyle α) : Prop where
  foreground : ∀ color, s.foreground = some color → ∀ t ∈ color.texts, t.Fills card
  background : ∀ color, s.background = some color → ∀ t ∈ color.texts, t.Fills card
  texts : ∀ c ∈ s.conditions, ∀ t ∈ c.texts, t.Fills card
  conditions : ∀ c ∈ s.conditions, c.IsKnown

theorem FlatTextStyle.Sound.apply {s : FlatTextStyle α} (h : s.Sound card) {xs : List (TextStyle α)}
    (ht : ∀ x ∈ xs, ∀ t ∈ x.texts, t.Fills card)
    (hc : ∀ c ∈ xs.filterMap TextStyle.condition?, c.IsKnown) : (s.apply xs).Sound card where
  foreground color hcolor := by
    rcases foreground_of_apply hcolor with hs | hx
    · exact h.foreground color hs
    · exact ht _ hx
  background color hcolor := by
    rcases background_of_apply hcolor with hs | hx
    · exact h.background color hs
    · exact ht _ hx
  texts c hmem t htext := by
    rw [conditions_apply, List.mem_append] at hmem
    rcases hmem with hs | hx
    · exact h.texts c hs t htext
    · obtain ⟨x, hx, hxc⟩ := List.mem_filterMap.mp hx
      exact ht x hx t (by rwa [TextStyle.texts_of_condition hxc])
  conditions c hmem := by
    rw [conditions_apply, List.mem_append] at hmem
    exact hmem.elim (h.conditions c) (hc c)

end

namespace Draw

variable {scene : Scene α} {Q : β → Prop} {R : γ → Prop}

/-- Drawing that comes to no fault, and to something of a kind if it comes to anything, as long as
names lead to the pictures that they first led to. -/
def Safe (scene : Scene α) (d : Draw α β) (Q : β → Prop) : Prop :=
  ∀ s : Studio α, ImageStore.Alike scene.photos scene.project.images s.images {} →
    ImageStore.Alike scene.photos scene.project.images (d.outcome s).2.images {} ∧
      NoFault (d.outcome s).1 ∧ ∀ b, (d.outcome s).1 = .ok b → Q b

namespace Safe

theorem bind {d : Draw α β} {f : β → Draw α γ} (hd : Safe scene d Q)
    (hf : ∀ b, Q b → Safe scene (f b) R) : Safe scene (d >>= f) R := by
  intro s hs
  obtain ⟨himages, hfault, hQ⟩ := hd s hs
  rw [outcome_bind]
  rcases hds : d.outcome s with ⟨e | b, t⟩ <;> rw [hds] at himages hfault hQ
  · exact ⟨himages, fun f h => hfault f (by cases h; rfl), nofun⟩
  · exact hf b (hQ b rfl) t himages

theorem lift {e : Except Failure β} (he : NoFault e) (hQ : ∀ b, e = .ok b → Q b) :
    Safe scene (liftM e) Q := fun _ hs => ⟨hs, he, hQ⟩

theorem pure {b : β} (hQ : Q b) : Safe scene (Pure.pure b) Q :=
  fun _ hs => ⟨hs, .ok b, fun _ h => by cases h; exact hQ⟩

theorem modify {f : Studio α → Studio α} (hf : ∀ s, (f s).images = s.images) :
    Safe scene (modify f) fun _ => True :=
  fun s hs => ⟨(hf s).symm ▸ hs, .ok (), fun _ _ => trivial⟩

theorem get : Safe scene (get : Draw α (Studio α)) fun _ => True :=
  fun s hs => ⟨hs, .ok s, fun _ _ => trivial⟩

theorem note (w : Warning) : Safe scene (note w) fun _ => True := modify fun _ => rfl

variable [Scalar α]

theorem paint (call : PaintCall α) : Safe scene (paint scene call) fun _ => True := modify fun _ => rfl

theorem paintAll (calls : List (PaintCall α)) : Safe scene (paintAll scene calls) fun _ => True := by
  induction calls with
  | nil => exact pure trivial
  | cons call rest ih => exact (paint call).bind fun _ _ => ih

/-- A name leads to a picture that has some size. -/
theorem loadImage (h : scene.Sound) (name : String) :
    Safe scene (loadImage scene name) fun image => ∀ p, image = some p →
      Scalar.isZero (Scalar.ofNat p.width : α) = false ∧
        Scalar.isZero (Scalar.ofNat p.height : α) = false := by
  intro s hs
  have hfirst : ∀ e, (ImageStore.load scene.photos scene.project.images name {}).1 = e →
      NoFault e ∧ ∀ p, e = .ok (some p) → ∃ q path, scene.photos path = some q ∧ p = q.decoded := by
    rintro _ rfl
    unfold ImageStore.load ImageStore.decode
    rw [show ({} : ImageStore).lookUp name = none from rfl]
    cases scene.project.images.get? name with
    | none => exact ⟨.ok none, nofun⟩
    | some path =>
      cases hq : scene.photos path with
      | none => simpa [hq] using NoFault.problem _
      | some q =>
        simp only [hq]
        exact ⟨.ok _, fun p hp => ⟨q, path, hq, by cases hp; rfl⟩⟩
  rw [outcome_loadImage]
  obtain ⟨hfault, hpicture⟩ := hfirst _ (hs name).symm
  refine ⟨(ImageStore.alike_load name s.images).trans hs, hfault, fun image himage p hp => ?_⟩
  subst hp
  obtain ⟨q, path, hq, rfl⟩ := hpicture p himage
  have hsize : q.decoded.width = q.width ∧ q.decoded.height = q.height := by
    unfold Picture.decoded
    split <;> exact ⟨rfl, rfl⟩
  rw [hsize.1, hsize.2]
  exact h.pictures path q hq

theorem shape (h : scene.Sound) (frame : Frame α) {styles : List (PathStyle α)}
    (ht : ∀ t ∈ styles.flatMap PathStyle.texts, t.Fills scene.card)
    (hc : ∀ c ∈ styles.filterMap PathStyle.condition?, c.IsKnown) :
    Safe scene (shape scene frame styles) fun _ => True := by
  have hresolve : NoFault (ShapeStyle.resolve (scene.layout.basePathStyles ++ styles) scene.card
      (scene.project.resolveColor scene.card)) := by
    refine ShapeStyle.resolve_noFault _ (fun t hmem => ?_) fun c hmem => ?_
    · rw [List.flatMap_append, List.mem_append] at hmem
      exact hmem.elim (fun hbase => h.texts t (List.mem_append_left _ (List.mem_append_left _ hbase)))
        (ht t)
    · rw [List.filterMap_append, List.mem_append] at hmem
      exact hmem.elim
        (fun hbase => h.conditions c (List.mem_append_left _ (List.mem_append_left _ hbase))) (hc c)
  unfold Draw.shape
  refine (lift (Q := fun _ => True) hresolve fun _ _ => trivial).bind fun style _ => ?_
  cases style with
  | none => exact pure trivial
  | some style =>
    dsimp only
    have hstroke (color : Color) : Safe scene (if style.hasStroke then
        Draw.paint scene (.stroke frame style.strokeWidth color style.dashes) else Pure.pure ())
        fun _ => True := by
      split
      · exact paint _
      · exact pure trivial
    cases style.fill with
    | none =>
      cases style.strokeColor with
      | none => exact pure trivial
      | some color => exact hstroke color
    | some fill =>
      refine (paint _).bind fun _ _ => ?_
      cases style.strokeColor with
      | none => exact pure trivial
      | some color => exact hstroke color

theorem image (h : scene.Sound) {name : CardText} (hname : name.Fills scene.card) (frame : Frame α)
    (scale : ScaleMode) : Safe scene (image scene name frame scale) fun _ => True := by
  unfold Draw.image
  refine (lift (Q := fun _ => True) hname fun _ _ => trivial).bind fun name _ => ?_
  refine (loadImage h name).bind fun found hfound => ?_
  cases found with
  | none => exact (note _).bind fun _ _ => get.bind fun _ _ => paintAll _
  | some picture =>
    have hplace : NoFault (scale.place frame (Scalar.ofNat picture.width)
        (Scalar.ofNat picture.height)) := by
      obtain ⟨hwidth, hheight⟩ := hfound picture rfl
      unfold ScaleMode.place Scalar.divide
      rw [hwidth, hheight]
      cases scale <;> exact .ok _
    refine (lift (Q := fun _ => True) hplace fun _ _ => trivial).bind fun (place, clipped) _ => ?_
    cases clipped with
    | false => exact paint _
    | true => exact paintAll _

theorem baseStyle (h : scene.Sound) (name : Option String) {styles : List (TextStyle α)}
    (ht : ∀ x ∈ styles, ∀ t ∈ x.texts, t.Fills scene.card)
    (hc : ∀ c ∈ styles.filterMap TextStyle.condition?, c.IsKnown) :
    Safe scene (baseStyle scene name styles) (FlatTextStyle.Sound scene.card) := by
  have hempty : (({} : FlatTextStyle α)).Sound scene.card := ⟨nofun, nofun, nofun, nofun⟩
  have hbase : (({} : FlatTextStyle α).apply scene.layout.baseTextStyles).Sound scene.card := by
    refine hempty.apply (fun x hx t htext => h.texts t ?_) fun c hmem => h.conditions c ?_
    · exact List.mem_append_left _ (List.mem_append_right _ (List.mem_flatMap.mpr ⟨x, hx, htext⟩))
    · exact List.mem_append_left _ (List.mem_append_right _ hmem)
  unfold Draw.baseStyle
  dsimp only
  split
  · exact pure (hbase.apply ht hc)
  · exact pure (hbase.apply ht hc)
  · rename_i name _
    cases hnamed : scene.project.styleSet? name with
    | some named =>
      exact pure ((hbase.apply (h.namedTexts name named hnamed)
        (h.namedConditions name named hnamed)).apply ht hc)
    | none => exact (note _).bind fun _ _ => pure (hbase.apply ht hc)

theorem textRun {style : FlatTextStyle α} (hstyle : style.Sound scene.card) (text : String)
    (icon : Option Picture) : Safe scene (textRun scene text style icon) fun _ => True := by
  have hcolor : ∀ color : ColorRef, (∀ t ∈ color.texts, t.Fills scene.card) →
      Safe scene (liftM (scene.project.resolveColor scene.card color) : Draw α Color) fun _ => True :=
    fun color ht => lift (scene.project.resolveColor_noFault ht) fun _ _ => trivial
  have hset : ∀ run : Studio α → TextRun α,
      Safe scene (do let s ← MonadState.get; Pure.pure (run s)) fun _ => True :=
    fun run => get.bind fun _ _ => pure trivial
  unfold Draw.textRun
  dsimp only
  cases hf : style.foreground with
  | none =>
    cases hb : style.background with
    | none => exact hset _
    | some b => exact (hcolor b (hstyle.background b hb)).bind fun _ _ => hset _
  | some f =>
    refine (hcolor f (hstyle.foreground f hf)).bind fun _ _ => ?_
    cases hb : style.background with
    | none => exact hset _
    | some b => exact (hcolor b (hstyle.background b hb)).bind fun _ _ => hset _

theorem pushed (h : scene.Sound) {style : FlatTextStyle α} (hstyle : style.Sound scene.card)
    (tag : String) : Safe scene (pushed scene tag style) (FlatTextStyle.Sound scene.card) := by
  unfold Draw.pushed
  cases hnamed : scene.project.styleSet? tag with
  | none => exact (note _).bind fun _ _ => pure hstyle
  | some styles =>
    have hinner := hstyle.apply (h.namedTexts tag styles hnamed) (h.namedConditions tag styles hnamed)
    have hholds : NoFault (Condition.allHold scene.card
        ((style.apply styles).conditions.drop style.conditions.length)) :=
      Condition.allHold_noFault (fun c hc => hinner.conditions c (List.mem_of_mem_drop hc))
        fun c hc => hinner.texts c (List.mem_of_mem_drop hc)
    dsimp only
    refine (lift (Q := fun _ => True) hholds fun _ _ => trivial).bind fun b _ => ?_
    cases b with
    | true => exact pure hinner
    | false => exact (note _).bind fun _ _ => pure hstyle

theorem placeholderRun (h : scene.Sound) {style : FlatTextStyle α} (hstyle : style.Sound scene.card)
    (name : String) : Safe scene (placeholderRun scene name style) fun _ => True := by
  unfold Draw.placeholderRun
  refine (loadImage h name).bind fun icon _ => ?_
  cases icon with
  | some icon => exact textRun hstyle _ _
  | none => exact (note _).bind fun _ _ => textRun hstyle _ _

theorem textRuns (h : scene.Sound) {base : FlatTextStyle α} (hbase : base.Sound scene.card)
    {tags : List (String × FlatTextStyle α)} (htags : ∀ t ∈ tags, t.2.Sound scene.card)
    (is : List Instruction) : Safe scene (textRuns scene base tags is) fun _ => True := by
  induction is generalizing tags with
  | nil => exact pure trivial
  | cons i rest ih =>
    have hstyle : ((tags.head?.map Prod.snd).getD base).Sound scene.card := by
      cases tags with
      | nil => exact hbase
      | cons t outer => exact htags t List.mem_cons_self
    unfold Draw.textRuns
    dsimp only
    cases i with
    | text s =>
      exact (textRun hstyle s none).bind fun _ _ => (ih htags).bind fun _ _ => pure trivial
    | placeholder name =>
      exact (placeholderRun h hstyle name).bind fun _ _ => (ih htags).bind fun _ _ => pure trivial
    | push tag =>
      refine (pushed h hstyle tag).bind fun inner hinner => ih ?_
      simpa using ⟨hinner, fun a b hab => htags (a, b) hab⟩
    | pop tag =>
      cases tags with
      | nil => exact (note _).bind fun _ _ => ih htags
      | cons t outer =>
        have houter := ih fun t ht => htags t (List.mem_cons_of_mem _ ht)
        obtain ⟨opened, style⟩ := t
        dsimp only
        split
        · exact (note _).bind fun _ _ => houter
        · exact houter

theorem text (h : scene.Sound) {contents : CardText} (hcontents : contents.Fills scene.card)
    (frame : Frame α) (name : Option String) {styles : List (TextStyle α)}
    (ht : ∀ x ∈ styles, ∀ t ∈ x.texts, t.Fills scene.card)
    (hc : ∀ c ∈ styles.filterMap TextStyle.condition?, c.IsKnown) :
    Safe scene (text scene contents frame name styles) fun _ => True := by
  unfold Draw.text
  refine (baseStyle h name ht hc).bind fun base hbase => ?_
  refine (lift (Q := fun _ => True) (Condition.allHold_noFault hbase.conditions hbase.texts)
    fun _ _ => trivial).bind fun b _ => ?_
  cases b with
  | false => exact pure trivial
  | true =>
    refine (lift (Q := fun _ => True) hcontents fun _ _ => trivial).bind fun s _ => ?_
    refine (textRuns h hbase (List.forall_mem_nil _) _).bind fun runs _ => ?_
    split
    · exact paint _
    · exact pure trivial

mutual

theorem element (h : scene.Sound) (width height : α) (e : Element α)
    (ht : ∀ t ∈ e.texts, t.Fills scene.card) (hc : ∀ c ∈ e.conditions, c.IsKnown) :
    Safe scene (element scene width height e) fun _ => True := by
  cases e with
  | background styles => exact shape h _ ht hc
  | rectangle frame styles => exact shape h frame ht hc
  | text contents frame name styles =>
    exact text h (ht contents List.mem_cons_self) frame name
      (fun x hx t htext => ht t (List.mem_cons_of_mem _ (List.mem_flatMap.mpr ⟨x, hx, htext⟩))) hc
  | image name frame scale => exact image h (ht name List.mem_cons_self) frame scale
  | box frame children =>
    unfold Draw.element
    exact (paintAll _).bind fun _ _ =>
      (elements h frame.width frame.height children ht hc).bind fun _ _ => paint _

theorem elements (h : scene.Sound) (width height : α) (es : List (Element α))
    (ht : ∀ t ∈ Element.allTexts es, t.Fills scene.card)
    (hc : ∀ c ∈ Element.allConditions es, c.IsKnown) :
    Safe scene (elements scene width height es) fun _ => True := by
  cases es with
  | nil => exact pure trivial
  | cons e rest =>
    unfold Draw.elements
    exact (element h width height e (fun t hmem => ht t (List.mem_append_left _ hmem))
      fun c hmem => hc c (List.mem_append_left _ hmem)).bind fun _ _ =>
        elements h width height rest (fun t hmem => ht t (List.mem_append_right _ hmem))
          fun c hmem => hc c (List.mem_append_right _ hmem)

end

/-- A card that can be drawn at all comes to no fault. -/
theorem card (h : scene.Sound) : Safe scene (card scene) fun _ => True :=
  elements h _ _ _ (fun t hmem => h.texts t (List.mem_append_right _ hmem))
    fun c hmem => h.conditions c (List.mem_append_right _ hmem)

end Safe

end Draw

end CardPress
