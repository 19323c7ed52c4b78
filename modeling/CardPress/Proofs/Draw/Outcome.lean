import CardPress.Draw
import CardPress.Proofs.Loading
import CardPress.Proofs.Report

/-! What drawing comes to, step by step: its result and what it leaves behind. -/
namespace CardPress

variable {α β γ : Type} {scene : Scene α} {s t u : Studio α}

namespace Draw

def outcome (d : Draw α β) (s : Studio α) : Except Failure β × Studio α := d.run.run s

theorem outcome_bind (d : Draw α β) (f : β → Draw α γ) :
    (d >>= f).outcome s =
      match d.outcome s with
      | (.ok b, t) => (f b).outcome t
      | (.error e, t) => (.error e, t) := by
  change (StateT.run (d.run >>= ExceptT.bindCont f) s) = _
  rw [StateT.run_bind]
  unfold outcome
  change (match d.run.run s with | (r, t) => _) = _
  rcases d.run.run s with ⟨r, t⟩
  cases r <;> rfl

theorem outcome_of_ok {d : Draw α β} {f : β → Draw α γ} {b : β} (h : d.outcome s = (.ok b, t)) :
    (d >>= f).outcome s = (f b).outcome t := by
  rw [outcome_bind, h]

theorem outcome_of_error {d : Draw α β} {f : β → Draw α γ} {e : Failure}
    (h : d.outcome s = (.error e, t)) : (d >>= f).outcome s = (.error e, t) := by
  rw [outcome_bind, h]

/-- What comes to something came to something at each step. -/
theorem outcome_bind_eq_ok {d : Draw α β} {f : β → Draw α γ} {c : γ} :
    (d >>= f).outcome s = (.ok c, u) ↔
      ∃ b t, d.outcome s = (.ok b, t) ∧ (f b).outcome t = (.ok c, u) := by
  rw [outcome_bind]
  rcases d.outcome s with ⟨e | b, t⟩
  · exact ⟨nofun, nofun⟩
  · exact ⟨fun h => ⟨b, t, rfl, h⟩, fun ⟨_, _, hd, h⟩ => by cases hd; exact h⟩

theorem outcome_lift_eq_ok {e : Except Failure β} {b : β} :
    (liftM e : Draw α β).outcome s = (.ok b, t) ↔ e = .ok b ∧ s = t :=
  Prod.mk.injEq _ _ _ _ ▸ Iff.rfl

theorem outcome_note (w : Warning) :
    (note w).outcome s = (.ok (), { s with warnings := s.warnings ++ [w] }) := rfl

theorem outcome_loadImage (name : String) :
    (loadImage scene name).outcome s =
      ((s.images.load scene.photos scene.project.images name).1,
        { s with images := (s.images.load scene.photos scene.project.images name).2 }) := rfl

end Draw

/-- Nothing was painted, no font was taken into use, and names lead to the pictures that they led
to. -/
structure Scene.Rests (scene : Scene α) (s t : Studio α) : Prop where
  calls : t.calls = s.calls
  fonts : t.fonts = s.fonts
  images : ImageStore.Alike scene.photos scene.project.images t.images s.images

namespace Scene.Rests

theorem refl (s : Studio α) : scene.Rests s s := ⟨rfl, rfl, .refl _⟩

theorem trans (h : scene.Rests s t) (h' : scene.Rests t u) : scene.Rests s u :=
  ⟨h'.calls.trans h.calls, h'.fonts.trans h.fonts, h'.images.trans h.images⟩

end Scene.Rests

namespace Draw

/-- Drawing that paints nothing and comes to `e`. -/
def Yields (scene : Scene α) (d : Draw α β) (s : Studio α) (e : Except Failure β) : Prop :=
  ∃ t, scene.Rests s t ∧ d.outcome s = (e, t)

namespace Yields

variable {d : Draw α β} {f : β → Draw α γ} {e : Except Failure β} {g : β → Except Failure γ}

theorem of_outcome {r : Except Failure β} (h : Yields scene d s e) (hd : d.outcome s = (r, t)) :
    r = e ∧ scene.Rests s t := by
  obtain ⟨t', ht, he⟩ := h
  obtain ⟨rfl, rfl⟩ := Prod.mk.inj (hd.symm.trans he)
  exact ⟨rfl, ht⟩

theorem pure (b : β) : Yields scene (Pure.pure b) s (.ok b) := ⟨s, .refl s, rfl⟩

theorem lift (e : Except Failure β) : Yields scene (liftM e) s e := ⟨s, .refl s, rfl⟩

theorem note (w : Warning) : Yields scene (note w) s (.ok ()) :=
  ⟨{ s with warnings := s.warnings ++ [w] }, ⟨rfl, rfl, .refl _⟩, outcome_note w⟩

theorem loadImage (name : String) :
    Yields scene (loadImage scene name) s
      (s.images.load scene.photos scene.project.images name).1 :=
  ⟨{ s with images := (s.images.load scene.photos scene.project.images name).2 },
    ⟨rfl, rfl, ImageStore.alike_load name _⟩, outcome_loadImage name⟩

theorem bind_error {f : β → Draw α γ} {x : Failure} (h : Yields scene d s (.error x)) :
    Yields scene (d >>= f) s (.error x) := by
  obtain ⟨t, ht, hd⟩ := h
  exact ⟨t, ht, outcome_of_error hd⟩

theorem bind_ok {b : β} {r : Except Failure γ} (h : Yields scene d s (.ok b))
    (hf : ∀ t, scene.Rests s t → Yields scene (f b) t r) : Yields scene (d >>= f) s r := by
  obtain ⟨t, ht, hd⟩ := h
  obtain ⟨u, hu, hb⟩ := hf t ht
  exact ⟨u, ht.trans hu, (outcome_of_ok hd).trans hb⟩

theorem bind (h : Yields scene d s e) (hf : ∀ b t, scene.Rests s t → Yields scene (f b) t (g b)) :
    Yields scene (d >>= f) s (e >>= g) := by
  cases e with
  | error x => exact h.bind_error
  | ok b => exact h.bind_ok (hf b)

end Yields

end Draw

end CardPress
