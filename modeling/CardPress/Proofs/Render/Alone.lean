import CardPress.Proofs.Render.History

/-! What comes of a card by itself; the cards rendered before it change nothing of that but fonts. -/
namespace CardPress

variable {α : Type} [Scalar α]

theorem pointsOfPixels_of_dpi {x dpi : α} (h : Scalar.isZero dpi = false) :
    pointsOfPixels x dpi = .ok (x * Scalar.ofNat 72 / dpi) := by
  rw [pointsOfPixels, Scalar.divide, h]
  rfl

theorem pointsOfPixels_of_no_dpi {x dpi : α} (h : Scalar.isZero dpi = true) :
    pointsOfPixels x dpi = .error (.arithmetic .divisionByZero) := by
  rw [pointsOfPixels, Scalar.divide, h]
  rfl

/-- What is known of a finished page whatever is on it. -/
def RenderedCard.outline (r : RenderedCard α) : String × Geometry α × α × α :=
  (r.id, r.geometry, r.page.width, r.page.height)

namespace Render

variable {source : Source α} {c : Card} {layout : Layout α} {s : RunState α} {r : RenderedCard α}
  {f : Failure}

theorem card_of_no_layout (h : source.project.layoutFor c = .error f) :
    card source c s = (.error f, s) := by
  rw [card, h]
  rfl

theorem card_of_no_dpi (h : source.project.layoutFor c = .ok layout)
    (hdpi : Scalar.isZero layout.geometry.dpi = true) :
    card source c s = (.error (.arithmetic .divisionByZero), s) := by
  rw [card, h]
  dsimp only [bind, Except.bind]
  rw [pointsOfPixels_of_no_dpi hdpi]

/-- A page is opened with what is known of the document, and turned over. -/
theorem card_opens (h : source.project.layoutFor c = .ok layout)
    (hdpi : Scalar.isZero layout.geometry.dpi = false) :
    ∃ width height turn,
      CanvasCall.turnOver layout.geometry.height layout.geometry.dpi = .ok turn ∧
      ∀ s, card source c s = drawOn source c layout width height
        (metadataCalls source.project.metadata c.id ++ turn) s := by
  obtain ⟨turn, hturn⟩ : ∃ turn,
      CanvasCall.turnOver layout.geometry.height layout.geometry.dpi = .ok turn := by
    rw [CanvasCall.turnOver, Scalar.divide, hdpi]
    exact ⟨_, rfl⟩
  let points (x : α) : α := x * Scalar.ofNat 72 / layout.geometry.dpi
  refine ⟨points layout.geometry.width, points layout.geometry.height, turn, hturn, fun s => ?_⟩
  rw [card, h]
  dsimp only [bind, Except.bind]
  rw [pointsOfPixels_of_dpi hdpi]
  dsimp only
  rw [pointsOfPixels_of_dpi hdpi]
  dsimp only [pure, Except.pure]
  rw [hturn]

theorem card_of_dpi (h : source.project.layoutFor c = .ok layout)
    (hdpi : Scalar.isZero layout.geometry.dpi = false) :
    ∃ width height opening, ∀ s, card source c s = drawOn source c layout width height opening s := by
  obtain ⟨width, height, turn, -, hcard⟩ := card_opens h hdpi
  exact ⟨width, height, _, hcard⟩

/-- A card that is rendered has a layout with a resolution. -/
theorem layout_of_card (h : (card source c s).1 = .ok r) :
    ∃ layout, source.project.layoutFor c = .ok layout ∧ r.geometry = layout.geometry ∧
      r.id = c.id ∧ Scalar.isZero layout.geometry.dpi = false := by
  cases hlayout : source.project.layoutFor c with
  | error f =>
    rw [card_of_no_layout hlayout] at h
    cases h
  | ok layout =>
    cases hdpi : Scalar.isZero layout.geometry.dpi with
    | true =>
      rw [card_of_no_dpi hlayout hdpi] at h
      cases h
    | false =>
      obtain ⟨width, height, opening, hcard⟩ := card_of_dpi hlayout hdpi
      rw [hcard, drawOn_eq] at h
      cases hdrawn : (drawn source c layout s).1 with
      | error f =>
        rw [hdrawn] at h
        cases h
      | ok u =>
        rw [hdrawn] at h
        cases h
        exact ⟨layout, rfl, rfl, rfl, hdpi⟩

/-- What comes of a card that is the first of a run. -/
def alone (source : Source α) (c : Card) : Except Failure (RenderedCard α) :=
  (card source c (start source)).1

/-- Later in a run it comes to the same but for what is on its page. -/
theorem card_alone (h : Settled source s) (c : Card) :
    (card source c s).1.map RenderedCard.outline = (alone source c).map RenderedCard.outline := by
  unfold alone
  obtain ⟨f, hf⟩ | ⟨layout, width, height, opening, -, hdraw⟩ := card_cases source c
  · rw [(hf s).1, (hf (start source)).1]
  · rw [hdraw, hdraw, drawOn_eq, drawOn_eq, (drawn_beside h (settled_start source) c layout).1]
    cases (drawn source c layout (start source)).1 <;> rfl

end Render

end CardPress
