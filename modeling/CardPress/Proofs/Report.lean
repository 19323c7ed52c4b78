import CardPress.Report
import Mathlib.Data.List.Forall2

/-! What reading comes to, and how it fails, whatever it warned of before. -/
namespace CardPress

variable {β γ : Type}

theorem bind_eq_ok {ε : Type} {x : Except ε β} {f : β → Except ε γ} {c : γ} :
    x >>= f = .ok c ↔ ∃ b, x = .ok b ∧ f b = .ok c := by
  cases x with
  | error e => exact ⟨nofun, nofun⟩
  | ok b => exact ⟨fun h => ⟨b, rfl, h⟩, fun ⟨_, hb, h⟩ => by cases hb; exact h⟩

theorem bind_eq_error {ε : Type} {x : Except ε β} {f : β → Except ε γ} {e : ε} :
    x >>= f = .error e ↔ x = .error e ∨ ∃ b, x = .ok b ∧ f b = .error e := by
  cases x with
  | error d => exact ⟨fun h => .inl (by cases h; rfl), fun | .inl h => by cases h; rfl⟩
  | ok b => exact ⟨fun h => .inr ⟨b, rfl, h⟩, fun | .inr ⟨_, hb, h⟩ => by cases hb; exact h⟩

theorem map_eq_error {ε : Type} {x : Except ε β} {f : β → γ} {e : ε} :
    x.map f = .error e ↔ x = .error e := by
  cases x with
  | error d => exact ⟨fun h => by cases h; rfl, fun h => by cases h; rfl⟩
  | ok b => exact ⟨nofun, nofun⟩

theorem mapM_eq_ok {ε : Type} {f : β → Except ε γ} {xs : List β} {ys : List γ} :
    xs.mapM f = .ok ys ↔ List.Forall₂ (fun x y => f x = .ok y) xs ys := by
  induction xs generalizing ys with
  | nil =>
    rw [List.mapM_nil, List.forall₂_nil_left_iff]
    exact ⟨fun h => by cases h; rfl, fun h => by rw [h]; rfl⟩
  | cons x xs ih =>
    rw [List.mapM_cons, bind_eq_ok, List.forall₂_cons_left_iff]
    constructor
    · rintro ⟨y, hy, h⟩
      obtain ⟨rest, hrest, h⟩ := bind_eq_ok.mp h
      cases h
      exact ⟨y, rest, hy, ih.mp hrest, rfl⟩
    · rintro ⟨y, rest, hy, hrest, rfl⟩
      exact ⟨y, hy, bind_eq_ok.mpr ⟨rest, ih.mpr hrest, rfl⟩⟩

/-- The first that fails decides how all of them fail. -/
theorem mapM_eq_error {ε : Type} {f : β → Except ε γ} {xs : List β} {e : ε} :
    xs.mapM f = .error e ↔
      ∃ before x after, xs = before ++ x :: after ∧ (∀ y ∈ before, ∃ b, f y = .ok b) ∧ f x = .error e := by
  induction xs with
  | nil =>
    rw [List.mapM_nil]
    constructor
    · exact nofun
    · rintro ⟨before, x, after, h, -⟩
      cases before <;> cases h
  | cons y xs ih =>
    rw [List.mapM_cons, bind_eq_error]
    constructor
    · rintro (he | ⟨b, hb, h⟩)
      · exact ⟨[], y, xs, rfl, List.forall_mem_nil _, he⟩
      · obtain hrest | ⟨_, _, h⟩ := bind_eq_error.mp h
        · obtain ⟨before, x, after, rfl, hbefore, he⟩ := ih.mp hrest
          exact ⟨y :: before, x, after, rfl, List.forall_mem_cons.mpr ⟨⟨b, hb⟩, hbefore⟩, he⟩
        · cases h
    · rintro ⟨before, x, after, h, hbefore, he⟩
      cases before with
      | nil =>
        cases h
        exact .inl he
      | cons z before =>
        cases h
        obtain ⟨⟨b, hb⟩, hbefore⟩ := List.forall_mem_cons.mp hbefore
        exact .inr ⟨b, hb, bind_eq_error.mpr (.inl (ih.mpr ⟨before, x, after, rfl, hbefore, he⟩))⟩

theorem exists_of_any {r : Except Failure β} {P : β → Bool} (h : r.toOption.any P = true) :
    ∃ b, r = .ok b ∧ P b = true := by
  cases r with
  | error f => cases h
  | ok b => exact ⟨b, rfl, h⟩

/-- It fails only in a certain way. -/
def FailsAs (Q : Failure → Prop) (r : Except Failure β) : Prop := ∀ f, r = .error f → Q f

namespace FailsAs

variable {Q : Failure → Prop} {r : Except Failure β}

theorem ok (b : β) : FailsAs Q (.ok b) := fun _ he => by cases he

theorem error {f : Failure} (h : Q f) : FailsAs Q (.error f : Except Failure β) := fun _ he => by
  cases he
  exact h

theorem bind {g : β → Except Failure γ} (h : FailsAs Q r) (hg : ∀ b, FailsAs Q (g b)) :
    FailsAs Q (r >>= g) := by
  intro f hf
  obtain hf | ⟨b, -, hf⟩ := bind_eq_error.mp hf
  · exact h f hf
  · exact hg b f hf

theorem mono {R : Failure → Prop} (h : FailsAs Q r) (hQ : ∀ f, Q f → R f) : FailsAs R r :=
  fun f hf => hQ f (h f hf)

theorem mapM {g : β → Except Failure γ} (h : ∀ x, FailsAs Q (g x)) (xs : List β) :
    FailsAs Q (xs.mapM g) := by
  intro f hf
  obtain ⟨_, x, _, -, -, hx⟩ := mapM_eq_error.mp hf
  exact h x f hx

theorem foldlM {g : γ → β → Except Failure γ} (h : ∀ c x, FailsAs Q (g c x)) (xs : List β) (c : γ) :
    FailsAs Q (xs.foldlM g c) := by
  induction xs generalizing c with
  | nil => exact ok c
  | cons x xs ih =>
    rw [List.foldlM_cons]
    exact (h c x).bind ih

end FailsAs

namespace Report

/-- Whatever was noted before, what it comes to is of a kind. -/
def Gives (r : Report β) (Q : β → Prop) : Prop :=
  ∀ ws b ws', r.run.run ws = (.ok b, ws') → Q b

theorem run_bind (r : Report β) (f : β → Report γ) (ws : List Warning) :
    (r >>= f).run.run ws =
      match r.run.run ws with
      | (.ok b, t) => (f b).run.run t
      | (.error e, t) => (.error e, t) := by
  change (StateT.run (r.run >>= ExceptT.bindCont f) ws) = _
  rw [StateT.run_bind]
  change (match r.run.run ws with | (b, t) => _) = _
  rcases r.run.run ws with ⟨b, t⟩
  cases b <;> rfl

theorem lift_ok_bind (b : β) (f : β → Report γ) :
    (liftM (Except.ok b : Except Failure β) : Report β) >>= f = f b := rfl

namespace Gives

variable {r : Report β} {f : β → Report γ} {Q : β → Prop} {R : γ → Prop}

theorem bind (h : Gives r Q) (hf : ∀ b, Q b → Gives (f b) R) : Gives (r >>= f) R := by
  intro ws c ws' hrun
  rw [run_bind] at hrun
  rcases hr : r.run.run ws with ⟨e | b, t⟩ <;> rw [hr] at hrun
  · cases hrun
  · exact hf b (h ws b t hr) t c ws' hrun

theorem pure {b : β} (h : Q b) : Gives (Pure.pure b) Q := fun _ _ _ hrun => by
  cases hrun
  exact h

theorem lift {e : Except Failure β} (h : ∀ b, e = .ok b → Q b) : Gives (liftM e) Q := by
  intro ws b ws' hrun
  cases hrun
  exact h b rfl

theorem throw (f : Failure) : Gives (throw f : Report β) Q := fun _ _ _ hrun => by cases hrun

theorem mono {Q' : β → Prop} (h : Gives r Q) (hQ : ∀ b, Q b → Q' b) : Gives r Q' :=
  fun ws b ws' hrun => hQ b (h ws b ws' hrun)

theorem mapFailure (h : Gives r Q) (f : Failure → Failure) : Gives (r.mapFailure f) Q := by
  intro ws b ws' hrun
  have hmap : (r.mapFailure f).run.run ws = ((r.run.run ws).1.mapError f, (r.run.run ws).2) := rfl
  rw [hmap] at hrun
  rcases hr : r.run.run ws with ⟨e | a, t⟩ <;> rw [hr] at hrun
  · cases hrun
  · cases hrun
    exact h ws _ _ hr

theorem any : Gives r fun _ => True := fun _ _ _ _ => trivial

theorem mapM {g : β → Report γ} (h : ∀ x, Gives (g x) R) (xs : List β) :
    Gives (xs.mapM g) fun ys => ∀ y ∈ ys, R y := by
  induction xs with
  | nil => exact pure (List.forall_mem_nil _)
  | cons x xs ih =>
    rw [List.mapM_cons]
    exact (h x).bind fun y hy => ih.bind fun ys hys => pure (List.forall_mem_cons.mpr ⟨hy, hys⟩)

theorem foldlM {g : γ → β → Report γ} (h : ∀ c x, R c → Gives (g c x) R) (xs : List β) {c : γ}
    (hc : R c) : Gives (xs.foldlM g c) R := by
  induction xs generalizing c with
  | nil => exact pure hc
  | cons x xs ih =>
    rw [List.foldlM_cons]
    exact (h c x hc).bind fun d hd => ih hd

end Gives

/-- Whatever was noted before, it fails only in a certain way. -/
def FailsAs (Q : Failure → Prop) (r : Report β) : Prop :=
  ∀ ws f ws', r.run.run ws = (.error f, ws') → Q f

namespace FailsAs

variable {Q : Failure → Prop} {r : Report β}

theorem pure (b : β) : FailsAs Q (Pure.pure b : Report β) := fun _ _ _ he => by cases he

theorem throw {f : Failure} (h : Q f) : FailsAs Q (throw f : Report β) := fun _ _ _ he => by
  cases he
  exact h

theorem lift {e : Except Failure β} (h : CardPress.FailsAs Q e) : FailsAs Q (liftM e : Report β) := by
  intro ws f ws' hrun
  cases hrun
  exact h f rfl

theorem warn (w : Warning) : FailsAs Q (warn w) := fun _ _ _ he => by cases he

theorem bind {g : β → Report γ} (h : FailsAs Q r) (hg : ∀ b, FailsAs Q (g b)) : FailsAs Q (r >>= g) := by
  intro ws f ws' hrun
  rw [run_bind] at hrun
  rcases hr : r.run.run ws with ⟨e | b, t⟩ <;> rw [hr] at hrun
  · cases hrun
    exact h ws _ _ hr
  · exact hg b t f ws' hrun

theorem mono {R : Failure → Prop} (h : FailsAs Q r) (hQ : ∀ f, Q f → R f) : FailsAs R r :=
  fun ws f ws' hf => hQ f (h ws f ws' hf)

theorem mapM {g : β → Report γ} (h : ∀ x, FailsAs Q (g x)) (xs : List β) : FailsAs Q (xs.mapM g) := by
  induction xs with
  | nil => exact pure []
  | cons x xs ih =>
    rw [List.mapM_cons]
    exact (h x).bind fun _ => ih.bind fun _ => pure _

theorem foldlM {g : γ → β → Report γ} (h : ∀ c x, FailsAs Q (g c x)) (xs : List β) (c : γ) :
    FailsAs Q (xs.foldlM g c) := by
  induction xs generalizing c with
  | nil => exact pure c
  | cons x xs ih =>
    rw [List.foldlM_cons]
    exact (h c x).bind ih

theorem mapFailure {R : Failure → Prop} {g : Failure → Failure} (h : FailsAs Q r)
    (hg : ∀ f, Q f → R (g f)) : FailsAs R (r.mapFailure g) := by
  intro ws f ws' hrun
  have hmap : (r.mapFailure g).run.run ws = ((r.run.run ws).1.mapError g, (r.run.run ws).2) := rfl
  rw [hmap] at hrun
  rcases hr : r.run.run ws with ⟨e | a, t⟩ <;> rw [hr] at hrun <;> cases hrun
  exact hg e (h ws e t hr)

end FailsAs

/-- Whatever was noted before, it comes to something of a kind. -/
def Returns (r : Report β) (Q : β → Prop) : Prop :=
  ∀ ws, ∃ b ws', r.run.run ws = (.ok b, ws') ∧ Q b

namespace Returns

variable {r : Report β} {f : β → Report γ} {Q : β → Prop} {R : γ → Prop}

theorem bind (h : Returns r Q) (hf : ∀ b, Q b → Returns (f b) R) : Returns (r >>= f) R := by
  intro ws
  obtain ⟨b, t, hr, hb⟩ := h ws
  obtain ⟨c, u, hc, hR⟩ := hf b hb t
  refine ⟨c, u, ?_, hR⟩
  rw [run_bind, hr]
  exact hc

theorem pure {b : β} (h : Q b) : Returns (Pure.pure b) Q := fun ws => ⟨b, ws, rfl, h⟩

theorem lift {e : Except Failure β} {b : β} (he : e = .ok b) (h : Q b) : Returns (liftM e) Q := fun ws =>
  ⟨b, ws, by rw [he]; rfl, h⟩

theorem warn (w : Warning) : Returns (warn w) fun _ => True := fun ws => ⟨(), ws ++ [w], rfl, trivial⟩

theorem mono {Q' : β → Prop} (h : Returns r Q) (hQ : ∀ b, Q b → Q' b) : Returns r Q' := fun ws =>
  let ⟨b, ws', hr, hb⟩ := h ws
  ⟨b, ws', hr, hQ b hb⟩

end Returns

/-- Whatever was noted before, it fails in a certain way. -/
def Fails (r : Report β) (Q : Failure → Prop) : Prop :=
  ∀ ws, ∃ f ws', r.run.run ws = (.error f, ws') ∧ Q f

namespace Fails

variable {r : Report β} {Q : Failure → Prop} {f : Failure}

theorem throw (h : Q f) : Fails (throw f : Report β) Q := fun ws => ⟨f, ws, rfl, h⟩

theorem lift {e : Except Failure β} (he : e = .error f) (h : Q f) : Fails (liftM e : Report β) Q := fun ws =>
  ⟨f, ws, by rw [he]; rfl, h⟩

theorem bind (h : Fails r Q) (g : β → Report γ) : Fails (r >>= g) Q := by
  intro ws
  obtain ⟨f, t, hr, hf⟩ := h ws
  refine ⟨f, t, ?_, hf⟩
  rw [run_bind, hr]

end Fails

theorem Returns.bind_fails {r : Report β} {g : β → Report γ} {P : β → Prop} {Q : Failure → Prop}
    (h : Returns r P) (hg : ∀ b, P b → Fails (g b) Q) : Fails (r >>= g) Q := by
  intro ws
  obtain ⟨b, t, hr, hb⟩ := h ws
  obtain ⟨f, u, hf, hQ⟩ := hg b hb t
  refine ⟨f, u, ?_, hQ⟩
  rw [run_bind, hr]
  exact hf

end Report

end CardPress
