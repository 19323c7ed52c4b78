import CardPress.Proofs.Draw.Tandem
import CardPress.Proofs.Font.Known
import CardPress.Proofs.Number.Exact
import CardPress.Proofs.Paint.Twins
import CardPress.Render

/-! Cards rendered after other cards: what was rendered before shows in the fonts of text only. -/
namespace CardPress

variable {α : Type}

open PaintCall TextRun

/-- Both studios know the fonts of the project and standard fonts, and keep pictures that the store
`images` leads to as well. -/
structure Scene.Settles (scene : Scene α) (images : ImageStore) (s : Studio α) : Prop where
  images : ImageStore.Alike scene.photos scene.project.images s.images images
  fonts : s.fonts.Holds scene.project.fonts

/-- What was painted is the same but for the fonts of runs. -/
structure Scene.Beside (scene : Scene α) (s s' : Studio α) : Prop where
  calls : List.Forall₂ PaintCall.Beside s.calls s'.calls
  images : ImageStore.Alike scene.photos scene.project.images s.images s'.images

variable [Scalar α] {scene : Scene α} {s s' t : Studio α} {call : PaintCall α} {images : ImageStore}

theorem PaintCall.fontsUsed_of_plain (h : call.isText = false) : call.fontsUsed = [] := by
  cases call <;> first | rfl | simp [isText] at h

namespace Scene

theorem Settles.paints (h : scene.Settles images s)
    (hcall : ∀ name ∈ call.fontsUsed, name ∈ s.fonts ∨ StandardFont.IsName name) :
    scene.Settles images (s.painted scene call) := by
  refine ⟨h.images, ?_⟩
  unfold Studio.painted
  dsimp only
  split
  · exact h.fonts.useAll hcall
  · exact h.fonts

theorem Settles.sets (h : scene.Settles images s) (runs : List (PlainRun α)) (frame : Frame α)
    (align : Alignment) :
    scene.Settles images (s.painted scene (.text (runs.map (PlainRun.set s.fonts)) frame align)) := by
  refine h.paints fun name hname => ?_
  obtain ⟨r, hr, rfl⟩ := Typeset.mem_fontsUsed hname
  obtain ⟨p, -, rfl⟩ := List.mem_map.mp hr
  exact Font.forStyle_known s.fonts p.family p.weight p.slant

omit [Scalar α] in
theorem Settles.rests (h : scene.Settles images s) (ht : scene.Rests s t) :
    scene.Settles images t :=
  ⟨ht.images.trans h.images, by rw [ht.fonts]; exact h.fonts⟩

/-- Whatever is drawn, only standard fonts become known, and names lead to the pictures that they
led to. -/
theorem outlives_settles : scene.Outlives (fun _ => True) fun s s' =>
    scene.Settles images s ∧ scene.Settles images s' where
  images h := h.1.images.trans h.2.images.symm
  rests h ht ht' := ⟨h.1.rests ht, h.2.rests ht'⟩
  paints h hcall := by
    constructor
    · exact h.1.paints (by simp [fontsUsed_of_plain hcall])
    · exact h.2.paints (by simp [fontsUsed_of_plain hcall])
  sets frame align h _ := ⟨h.1.sets _ frame align, h.2.sets _ frame align⟩

theorem outlives_beside : scene.Outlives (fun _ => True) scene.Beside where
  images h := h.images
  rests h ht ht' := ⟨by rw [ht.calls, ht'.calls]; exact h.calls,
    ht.images.trans (h.images.trans ht'.images.symm)⟩
  paints h _ := ⟨List.rel_append h.calls (.cons (.same _) .nil), h.images⟩
  sets frame align h _ := by
    refine ⟨List.rel_append h.calls (.cons (.text frame align ?_) .nil), h.images⟩
    exact List.forall₂_map_left_iff.mpr (List.forall₂_map_right_iff.mpr
      (List.forall₂_same.mpr fun p _ => rfl))

/-- Where no family is spelled like a standard font, the same is painted. -/
theorem outlives_unspelled : scene.Outlives Font.Unspelled fun s s' =>
    s.calls = s'.calls ∧ scene.Settles images s ∧ scene.Settles images s' where
  images h := h.2.1.images.trans h.2.2.images.symm
  rests h ht ht' := ⟨by rw [ht.calls, ht'.calls, h.1], h.2.1.rests ht, h.2.2.rests ht'⟩
  paints h hcall := by
    refine ⟨by simp [Studio.painted, h.1], h.2.1.paints ?_, h.2.2.paints ?_⟩
    · simp [fontsUsed_of_plain hcall]
    · simp [fontsUsed_of_plain hcall]
  sets {s s' runs} frame align h hruns := by
    have hset : runs.map (PlainRun.set s.fonts) = runs.map (PlainRun.set s'.fonts) :=
      List.map_congr_left fun p hp => by
        unfold PlainRun.set PlainRun.font
        rw [Font.forStyle_of_holds (hruns p hp) h.2.1.fonts h.2.2.fonts]
    exact ⟨by simp [Studio.painted, h.1, hset], h.2.1.sets _ frame align, h.2.2.sets _ frame align⟩

end Scene

namespace Render

variable {source : Source α} {c : Card} {layout : Layout α} {state : RunState α}

/-- A run before its first card. -/
def start (source : Source α) : RunState α :=
  { fonts := source.project.fonts.foldl FontRegistry.add [] }

/-- A run that has rendered cards, whatever came of them. -/
def after (source : Source α) (before : List Card) : RunState α :=
  before.foldl (fun s c => (card source c s).2) (start source)

/-- A run that is not cut short leaves what its cards leave one after the other. -/
theorem cardsFrom_state {keepGoing : Bool} {total : Nat} {cs : List Card} {r r' : RenderResult α}
    {s s' : RunState α} (h : cardsFrom source keepGoing total cs r s = (none, r', s')) :
    s' = cs.foldl (fun s c => (card source c s).2) s := by
  induction cs generalizing r s with
  | nil =>
    cases h
    rfl
  | cons c rest ih =>
    unfold cardsFrom at h
    dsimp only at h
    split at h
    · cases h
    · exact ih h

def sceneOf (source : Source α) (c : Card) (layout : Layout α) : Scene α :=
  ⟨source.project, source.photos, .page, c, layout⟩

def studio (s : RunState α) : Studio α :=
  { fonts := beginPage s, images := s.images, warnings := s.warnings }

/-- What drawing a card comes to in a run, and what it leaves. -/
def drawn (source : Source α) (c : Card) (layout : Layout α) (s : RunState α) :
    Except Failure Unit × Studio α :=
  (Draw.card (sceneOf source c layout)).outcome (studio s)

/-- The runs of the texts that are painted for a card. -/
def runsOf (source : Source α) (c : Card) (s : RunState α) : List (TextRun α) :=
  match source.project.layoutFor c with
  | .error _ => []
  | .ok layout => allRuns (drawn source c layout s).2.calls

/-- A card fails before anything is drawn, whatever was rendered before; or it is drawn. -/
theorem card_cases (source : Source α) (c : Card) :
    (∃ f, ∀ s, (card source c s).1 = .error f ∧ (card source c s).2.images = s.images ∧
      ((card source c s).2.fonts = s.fonts ∨ (card source c s).2.fonts = beginPage s)) ∨
    ∃ layout width height opening, source.project.layoutFor c = .ok layout ∧
      ∀ s, card source c s = drawOn source c layout width height opening s := by
  unfold card
  cases hl : source.project.layoutFor c with
  | error f => exact .inl ⟨f, fun s => ⟨rfl, rfl, .inl rfl⟩⟩
  | ok layout =>
    dsimp only [bind, Except.bind]
    cases pointsOfPixels layout.geometry.width layout.geometry.dpi with
    | error f => exact .inl ⟨f, fun s => ⟨rfl, rfl, .inl rfl⟩⟩
    | ok width =>
      dsimp only
      cases pointsOfPixels layout.geometry.height layout.geometry.dpi with
      | error f => exact .inl ⟨f, fun s => ⟨rfl, rfl, .inl rfl⟩⟩
      | ok height =>
        dsimp only [pure, Except.pure]
        cases CanvasCall.turnOver layout.geometry.height layout.geometry.dpi with
        | error f => exact .inl ⟨f, fun s => ⟨rfl, rfl, .inr rfl⟩⟩
        | ok turn => exact .inr ⟨layout, width, height, _, rfl, fun s => rfl⟩

theorem drawOn_eq (source : Source α) (c : Card) (layout : Layout α) (width height : α)
    (opening : List (CanvasCall α)) (s : RunState α) :
    (drawOn source c layout width height opening s).1 =
      (drawn source c layout s).1.map fun _ => ⟨c.id, layout.geometry, width, height,
        opening ++ (drawn source c layout s).2.calls.flatMap canvasCalls ++
          if (drawn source c layout s).1.toOption.isSome then [.showPage, .save] else []⟩ := rfl

/-- Nothing but standard fonts and pictures became known since the run began. -/
structure Settled (source : Source α) (s : RunState α) : Prop where
  images : ImageStore.Alike source.photos source.project.images s.images {}
  fonts : s.fonts.Holds source.project.fonts

omit [Scalar α] in
theorem settled_start (source : Source α) : Settled source (start source) :=
  ⟨.refl _, FontRegistry.holds_start _⟩

omit [Scalar α] in
theorem Settled.beginPage (h : Settled source state) :
    (beginPage state).Holds source.project.fonts := h.fonts.use (.inr ⟨.helvetica, rfl⟩)

omit [Scalar α] in
theorem Settled.studio (h : Settled source state) (c : Card) (layout : Layout α) :
    (sceneOf source c layout).Settles {} (studio state) := ⟨h.images, h.beginPage⟩

theorem Settled.card (h : Settled source state) (c : Card) :
    Settled source (card source c state).2 := by
  obtain ⟨f, hf⟩ | ⟨layout, width, height, opening, -, hdraw⟩ := card_cases source c
  · obtain ⟨-, himages, hfonts⟩ := hf state
    refine ⟨himages ▸ h.images, ?_⟩
    rcases hfonts with hfonts | hfonts
    · exact hfonts ▸ h.fonts
    · exact hfonts ▸ h.beginPage
  · rw [hdraw]
    obtain ⟨-, hleft, -⟩ := Draw.Tandem.card Scene.outlives_settles (Scene.families_true _) _ _
      ⟨h.studio c layout, h.studio c layout⟩
    exact ⟨hleft.images, hleft.fonts⟩

theorem settled_after (source : Source α) (before : List Card) :
    Settled source (after source before) := by
  have hrun : ∀ s, Settled source s →
      Settled source (before.foldl (fun s c => (Render.card source c s).2) s) := by
    induction before with
    | nil => exact fun s h => h
    | cons c rest ih => exact fun s h => ih _ (h.card c)
  exact hrun _ (settled_start source)

/-- No style of the layout or of the project asks for a family that is spelled like a standard font. -/
structure Unspelled (source : Source α) (layout : Layout α) : Prop where
  base : ∀ x ∈ layout.baseTextStyles, Font.Unspelled x.family?
  own : ∀ x ∈ Element.allTextStyles layout.elements, Font.Unspelled x.family?
  named : ∀ name xs, source.project.styles.get? name = some xs → ∀ x ∈ xs, Font.Unspelled x.family?

omit [Scalar α] in
theorem Unspelled.families (h : Unspelled source layout) (c : Card) :
    (sceneOf source c layout).Families Font.Unspelled where
  none := nofun
  base := h.base
  own := h.own
  named name xs hxs x hx := by
    unfold Project.styleSet? at hxs
    cases hown : source.project.styles.get? name with
    | some ys =>
      rw [show (sceneOf source c layout).project = source.project from rfl, hown] at hxs
      cases hxs
      exact h.named name xs hown x hx
    | none =>
      rw [show (sceneOf source c layout).project = source.project from rfl, hown] at hxs
      rw [TextStyle.family_builtins hxs x hx]
      nofun

/-- Two runs draw a card alike but for the fonts of its texts. -/
theorem drawn_beside {s s' : RunState α} (h : Settled source s) (h' : Settled source s') (c : Card)
    (layout : Layout α) :
    (drawn source c layout s).1 = (drawn source c layout s').1 ∧
      List.Forall₂ Beside (drawn source c layout s).2.calls (drawn source c layout s').2.calls := by
  have htandem : Draw.Tandem (sceneOf source c layout).Beside (Draw.card (sceneOf source c layout)) :=
    Draw.Tandem.card Scene.outlives_beside (Scene.families_true _)
  obtain ⟨hresult, hbeside⟩ := htandem (studio s) (studio s') ⟨.nil, h.images.trans h'.images.symm⟩
  exact ⟨hresult, hbeside.calls⟩

theorem drawn_unspelled {s s' : RunState α} (h : Settled source s) (h' : Settled source s')
    (c : Card) (hlayout : Unspelled source layout) :
    (drawn source c layout s).2.calls = (drawn source c layout s').2.calls :=
  (Draw.Tandem.card Scene.outlives_unspelled (hlayout.families c) (studio s) (studio s')
    ⟨rfl, h.studio c layout, h'.studio c layout⟩).2.1

/-- A card that is rendered as the first is rendered after any others as well. Its page is the same if
its texts find the same fonts, and only if the runs that show a word do. Where no family is spelled
like a standard font it is always the same. -/
theorem card_after (source : Source α) (c : Card) (before : List Card) {first : RenderedCard α}
    (hfirst : (card source c (start source)).1 = .ok first) :
    ∃ later, (card source c (after source before)).1 = .ok later ∧
      later.id = first.id ∧ later.geometry = first.geometry ∧
      later.page.width = first.page.width ∧ later.page.height = first.page.height ∧
      (fonts (runsOf source c (after source before)) = fonts (runsOf source c (start source)) →
        later.page.calls = first.page.calls) ∧
      (later.page.calls = first.page.calls →
        seenFonts (runsOf source c (after source before)) =
          seenFonts (runsOf source c (start source))) ∧
      ((∀ r ∈ runsOf source c (start source), 0 < r.wordCount) →
        (later.page.calls = first.page.calls ↔
          fonts (runsOf source c (after source before)) = fonts (runsOf source c (start source)))) ∧
      ((∀ layout, source.project.layoutFor c = .ok layout → Unspelled source layout) →
        later.page.calls = first.page.calls) := by
  have hstart := settled_start source
  have hafter := settled_after source before
  obtain ⟨f, hf⟩ | ⟨layout, width, height, opening, hlayout, hdraw⟩ := card_cases source c
  · rw [(hf _).1] at hfirst
    cases hfirst
  · obtain ⟨hresult, hbeside⟩ := drawn_beside hstart hafter c layout
    rw [hdraw, drawOn_eq] at hfirst
    rw [hdraw, drawOn_eq, ← hresult]
    simp only [runsOf, hlayout]
    cases hd : (drawn source c layout (start source)).1 with
    | error f =>
      rw [hd] at hfirst
      cases hfirst
    | ok u =>
      rw [hd] at hfirst
      cases hfirst
      have hsame (h : fonts (allRuns (drawn source c layout (after source before)).2.calls) =
          fonts (allRuns (drawn source c layout (start source)).2.calls)) :
          (drawn source c layout (start source)).2.calls =
            (drawn source c layout (after source before)).2.calls := eq_of_allFonts hbeside h.symm
      have hseen (h : opening ++ (drawn source c layout (after source before)).2.calls.flatMap
            canvasCalls ++ [.showPage, .save] =
          opening ++ (drawn source c layout (start source)).2.calls.flatMap canvasCalls ++
            [.showPage, .save]) :
          seenFonts (allRuns (drawn source c layout (after source before)).2.calls) =
            seenFonts (allRuns (drawn source c layout (start source)).2.calls) :=
        (seenFonts_of_canvasCalls hbeside
          (List.append_cancel_left (List.append_cancel_right h)).symm).symm
      refine ⟨_, rfl, rfl, rfl, rfl, rfl, fun h => ?_, hseen, fun hshown => ⟨fun h => ?_, fun h => ?_⟩,
        fun h => ?_⟩
      · rw [hsame h]
      · have hfonts := hseen h
        rwa [seenFonts_of_shown hshown,
          seenFonts_of_shown (shown_of_twins (twins_of_beside hbeside) hshown)] at hfonts
      · rw [hsame h]
      · rw [drawn_unspelled hafter hstart c (h layout rfl)]

def wordLayout (family : String) (weight : FontWeight) : Layout Rat :=
  ⟨family, ⟨100, 50, .zero, .zero, 72⟩, [], [],
    [.text ⟨"x", none⟩ ⟨0, 0, 100, 50⟩ none [.font (some family) (some weight) none none]]⟩

/-- A deck with one word on each card, plain or bold. -/
def wordDeck (family : String) : Source Rat where
  project :=
    { layouts := (Named.empty.put "plain" (wordLayout family .normal)).put "strong"
        (wordLayout family .bold) }
  photos := fun _ => none

def plainCard : Card := ⟨"A", Named.empty.put "layout" "plain"⟩

def strongCard : Card := ⟨"B", Named.empty.put "layout" "strong"⟩

theorem unspelled_georgia : Unspelled (wordDeck "Georgia") (wordLayout "Georgia" .bold) where
  base x hx := by simp [wordLayout] at hx
  own x hx := by
    obtain rfl : x = .font (some "Georgia") (some .bold) none none := by
      simpa [wordLayout, Element.allTextStyles, Element.textStyles] using hx
    rintro name hname bold italic ⟨font, hfont⟩
    cases hname
    cases font <;> cases bold <;> cases italic <;> exact absurd hfont (by decide)
  named name xs hxs := by simp [wordDeck, Named.get?, Named.empty] at hxs

theorem card_after_georgia : ∃ first later,
    (card (wordDeck "Georgia") strongCard (start (wordDeck "Georgia"))).1 = .ok first ∧
      (card (wordDeck "Georgia") strongCard (after (wordDeck "Georgia") [plainCard])).1 = .ok later ∧
      later.page.calls = first.page.calls := by
  obtain ⟨first, hfirst⟩ : ∃ first,
      (card (wordDeck "Georgia") strongCard (start (wordDeck "Georgia"))).1 = .ok first := ⟨_, rfl⟩
  obtain ⟨later, hlater, -, -, -, -, -, -, -, hsame⟩ :=
    card_after (wordDeck "Georgia") strongCard [plainCard] hfirst
  refine ⟨first, later, hfirst, hlater, hsame fun layout hlayout => ?_⟩
  cases hlayout
  exact unspelled_georgia

def pageFonts (result : Except Failure (RenderedCard Rat)) : Option (List String) :=
  result.toOption.map fun r => r.page.calls.filterMap CanvasCall.font?

/-- A bold text in the family Courier is set in Courier-Bold, but in Courier once another card has
used that. -/
theorem card_differs_after_plain : ¬ ∀ (source : Source Rat) (c : Card) (before : List Card)
    (first : RenderedCard Rat), source.project.fonts = [] →
      (card source c (start source)).1 = .ok first →
        ∃ later, (card source c (after source before)).1 = .ok later ∧
          later.page.calls = first.page.calls := by
  intro h
  have hbold : pageFonts (card (wordDeck "Courier") strongCard (start (wordDeck "Courier"))).1 =
      some ["Courier-Bold"] := rfl
  have hplain : pageFonts
      (card (wordDeck "Courier") strongCard (after (wordDeck "Courier") [plainCard])).1 =
        some ["Courier"] := rfl
  obtain ⟨first, hfirst⟩ : ∃ first,
      (card (wordDeck "Courier") strongCard (start (wordDeck "Courier"))).1 = .ok first := ⟨_, rfl⟩
  obtain ⟨later, hlater, hcalls⟩ := h (wordDeck "Courier") strongCard [plainCard] first rfl hfirst
  rw [hfirst] at hbold
  rw [hlater] at hplain
  simp only [pageFonts, Except.toOption, Option.map_some, Option.some.injEq] at hbold hplain
  rw [hcalls, hbold] at hplain
  simp at hplain

end Render

end CardPress
