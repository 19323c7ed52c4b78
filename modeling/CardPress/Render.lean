import CardPress.Draw

/-! Rendering cards: each card becomes a page of its own. -/
namespace CardPress

/-- A finished page of a card. -/
structure RenderedCard (α : Type) where
  id : String
  geometry : Geometry α
  page : Canvas α

/-- A card that could not be rendered, and why. -/
structure RenderFailure where
  id : String
  problem : Problem

/-- What a run has come to: pages that were begun, fonts in use, images, and warnings. -/
structure RunState (α : Type) where
  pages : List (Canvas α) := []
  fonts : FontRegistry := []
  images : ImageStore := {}
  warnings : List Warning := []

/-- What is rendered from. -/
structure Source (α : Type) where
  project : Project α
  photos : Photos

/-- What a run of several cards gives: cards, failures, and the progress that was told. -/
structure RenderResult (α : Type) where
  rendered : List (RenderedCard α) := []
  failures : List RenderFailure := []
  progress : List (Nat × Nat) := []

namespace Render

variable {α : Type} [Scalar α]

/-- What a document is told about itself; the card's id stands in for a missing title. -/
def metadataCalls (m : Metadata) (id : String) : List (CanvasCall α) :=
  let given (text : Option String) : Option String := text.filter (· != "")
  let setting (make : String → CanvasCall α) (text : Option String) : List (CanvasCall α) :=
    (given text).toList.map make
  [.setTitle ((given m.title).getD id)] ++ setting .setAuthor m.author
    ++ setting .setSubject m.subject ++ setting .setKeywords m.keywords
    ++ [.setCreator Metadata.creator]

/-- Beginning a page takes the default font into use. -/
def beginPage (s : RunState α) : FontRegistry := s.fonts.use StandardFont.helvetica.name

/-- Draws a card on a page that has the calls `opening` already. -/
def drawOn (source : Source α) (card : Card) (layout : Layout α) (width height : α)
    (opening : List (CanvasCall α)) (s : RunState α) :
    Except Failure (RenderedCard α) × RunState α :=
  let scene : Scene α := ⟨source.project, source.photos, .page, card, layout⟩
  let (result, studio) :=
    (Draw.card scene).run.run { fonts := beginPage s, images := s.images, warnings := s.warnings }
  let calls := opening ++ studio.calls.flatMap PaintCall.canvasCalls
  let closing : List (CanvasCall α) := if result.toOption.isSome then [.showPage, .save] else []
  let page : Canvas α := ⟨width, height, calls ++ closing⟩
  (result.map fun _ => ⟨card.id, layout.geometry, page⟩,
    ⟨s.pages ++ [page], studio.fonts, studio.images, studio.warnings⟩)

/-- Renders a card on a page of its own. -/
def card (source : Source α) (card : Card) (s : RunState α) :
    Except Failure (RenderedCard α) × RunState α :=
  let sized : Except Failure (Layout α × α × α) := do
    let layout ← source.project.layoutFor card
    let g := layout.geometry
    let width ← pointsOfPixels g.width g.dpi
    let height ← pointsOfPixels g.height g.dpi
    return (layout, width, height)
  match sized with
  | .error f => (.error f, s)
  | .ok (layout, width, height) =>
    let opening := metadataCalls source.project.metadata card.id
    match CanvasCall.turnOver layout.geometry.height layout.geometry.dpi with
    | .error f =>
      (.error f, { s with pages := s.pages ++ [⟨width, height, opening⟩], fonts := beginPage s })
    | .ok turn => drawOn source card layout width height (opening ++ turn) s

/-- What becomes of a card's outcome: kept, put aside, or the end of the run. -/
def settle (keepGoing : Bool) (id : String) (outcome : Except Failure (RenderedCard α))
    (r : RenderResult α) : Except Failure (RenderResult α) :=
  match outcome with
  | .ok c => .ok { r with rendered := r.rendered ++ [c] }
  | .error (.problem p) =>
    if keepGoing then .ok { r with failures := r.failures ++ [⟨id, p⟩] } else .error (.problem p)
  | .error (.fault f) => .error (.fault f)

/-- Renders cards in order, telling the progress after each. The first failure ends the run, unless
it is to go on past cards with problems. -/
def cardsFrom (source : Source α) (keepGoing : Bool) (total : Nat) :
    List Card → RenderResult α → RunState α → Option Failure × RenderResult α × RunState α
  | [], r, s => (none, r, s)
  | c :: rest, r, s =>
    let (outcome, s) := card source c s
    match settle keepGoing c.id outcome r with
    | .error f => (some f, r, s)
    | .ok r =>
      let done := r.rendered.length + r.failures.length
      cardsFrom source keepGoing total rest { r with progress := r.progress ++ [(done, total)] } s

/-- The outcome and the progress that was told before it. -/
def cards (source : Source α) (keepGoing : Bool) (cs : List Card) (s : RunState α) :
    Option Failure × RenderResult α × RunState α :=
  cardsFrom source keepGoing cs.length cs {} s

end Render

end CardPress
