import CardPress.Command.Run
import CardPress.Proofs.Draw.Outcome
import CardPress.Proofs.Files.Tree

/-! What a run comes to, step by step: its result and what it leaves behind. -/
namespace CardPress.Run

variable {α β : Type} {p q u : Progression} {f : Failure}

def outcome (r : Run α) (p : Progression) : Except Failure α × Progression := r.run.run p

theorem outcome_bind (r : Run α) (g : α → Run β) (p : Progression) :
    (r >>= g).outcome p =
      match r.outcome p with
      | (.ok a, q) => (g a).outcome q
      | (.error f, q) => (.error f, q) := by
  change (StateT.run (r.run >>= ExceptT.bindCont g) p) = _
  rw [StateT.run_bind]
  unfold outcome
  change (match r.run.run p with | (a, q) => _) = _
  rcases r.run.run p with ⟨a, q⟩
  cases a <;> rfl

theorem outcome_of_ok {r : Run α} {g : α → Run β} {a : α} (h : r.outcome p = (.ok a, q)) :
    (r >>= g).outcome p = (g a).outcome q := by
  rw [outcome_bind, h]

theorem outcome_of_error {r : Run α} {g : α → Run β} (h : r.outcome p = (.error f, q)) :
    (r >>= g).outcome p = (.error f, q) := by
  rw [outcome_bind, h]

/-- What came to something came to something at each step. -/
theorem outcome_bind_eq_ok {r : Run α} {g : α → Run β} {b : β} :
    (r >>= g).outcome p = (.ok b, u) ↔
      ∃ a q, r.outcome p = (.ok a, q) ∧ (g a).outcome q = (.ok b, u) := by
  rw [outcome_bind]
  rcases r.outcome p with ⟨f | a, q⟩
  · exact ⟨nofun, nofun⟩
  · exact ⟨fun h => ⟨a, q, rfl, h⟩, fun ⟨_, _, hr, h⟩ => by cases hr; exact h⟩

@[simp] theorem outcome_pure (a : α) : (pure a : Run α).outcome p = (.ok a, p) := rfl

@[simp] theorem outcome_lift (e : Except Failure α) : (liftM e : Run α).outcome p = (e, p) := rfl

@[simp] theorem outcome_put (o : Output) :
    (put o).outcome p = (.ok (), { p with output := p.output ++ [o] }) := rfl

@[simp] theorem outcome_say (line : String) :
    (say line).outcome p = (.ok (), { p with output := p.output ++ [.text (line ++ "\n")] }) := rfl

@[simp] theorem outcome_note (warnings : List Warning) :
    (note warnings).outcome p = (.ok (), { p with warnings := p.warnings ++ warnings }) := rfl

@[simp] theorem outcome_get : (get : Run Progression).outcome p = (.ok p, p) := rfl

@[simp] theorem outcome_report (r : Report α) :
    (report r).outcome p =
      (r.outcome.1, { p with warnings := p.warnings ++ r.outcome.2 }) := rfl

@[simp] theorem outcome_write (path : Path) (content : FileContent) :
    (write path content).outcome p =
      ((p.tree.write path content).1, { p with tree := (p.tree.write path content).2 }) := rfl

/-- Unless the step ends with a fault, what it comes to is of a kind. -/
def Ends (r : Run α) (p : Progression) (Q : Except Failure α → Progression → Prop) : Prop :=
  (∃ fault, (r.outcome p).1 = .error (.fault fault)) ∨ Q (r.outcome p).1 (r.outcome p).2

namespace Ends

variable {r : Run α} {g : α → Run β} {Q : Except Failure α → Progression → Prop}
  {R : Except Failure β → Progression → Prop}

theorem mono {Q' : Except Failure α → Progression → Prop} (h : Ends r p Q)
    (hQ : ∀ e q, Q e q → Q' e q) : Ends r p Q' := h.imp_right (hQ _ _)

theorem bind (h : Ends r p Q) (hok : ∀ a q, Q (.ok a) q → Ends (g a) q R)
    (herror : ∀ f q, Q (.error f) q → R (.error f) q) : Ends (r >>= g) p R := by
  unfold Ends at h ⊢
  rw [outcome_bind]
  rcases hr : r.outcome p with ⟨f | a, q⟩ <;> rw [hr] at h
  · obtain ⟨fault, hfault⟩ | h := h
    · cases hfault
      exact .inl ⟨fault, rfl⟩
    · exact .inr (herror f q h)
  · obtain ⟨fault, hfault⟩ | h := h
    · cases hfault
    · exact hok a q h

theorem of_ok {a : α} (h : r.outcome p = (.ok a, q)) (hg : Ends (g a) q R) :
    Ends (r >>= g) p R := by
  unfold Ends
  rwa [outcome_of_ok h]

end Ends

/-- The step comes to `e` and leaves the files as they are. -/
def Reads (r : Run α) (p : Progression) (e : Except Failure α) : Prop :=
  Ends r p fun e' q => e' = e ∧ q.tree = p.tree

namespace Reads

variable {r : Run α} {g : α → Run β} {e : Except Failure α} {e' : α → Except Failure β}

theorem of_outcome (h : (r.outcome p).1 = e) (htree : (r.outcome p).2.tree = p.tree) : Reads r p e :=
  .inr ⟨h, htree⟩

theorem pure (a : α) : Reads (Pure.pure a) p (.ok a) := .of_outcome rfl rfl

theorem lift (e : Except Failure α) : Reads (liftM e) p e := .of_outcome rfl rfl

theorem report (r : Report α) : Reads (report r) p r.outcome.1 := .of_outcome rfl rfl

theorem put (o : Output) : Reads (put o) p (.ok ()) := .of_outcome rfl rfl

theorem say (line : String) : Reads (say line) p (.ok ()) := .of_outcome rfl rfl

theorem note (warnings : List Warning) : Reads (note warnings) p (.ok ()) := .of_outcome rfl rfl

theorem fault (fault : Fault) : Reads (throw (.fault fault)) p e := .inl ⟨fault, rfl⟩

theorem bind (h : Reads r p e) (hg : ∀ a q, q.tree = p.tree → Reads (g a) q (e' a)) :
    Reads (r >>= g) p (e >>= e') := by
  refine Ends.bind h (fun a q ⟨ha, hq⟩ => ?_) fun f q ⟨hf, hq⟩ => ?_
  · rw [← ha]
    exact (hg a q hq).mono fun _ u hu => ⟨hu.1, hu.2.trans hq⟩
  · rw [← hf]
    exact ⟨rfl, hq⟩

/-- A step before that comes to something. -/
theorem after {a : α} {e : Except Failure β} (h : Reads r p (.ok a))
    (hg : ∀ q, q.tree = p.tree → Reads (g a) q e) : Reads (r >>= g) p e := by
  refine Ends.bind h (fun b q ⟨hb, hq⟩ => ?_) fun f q ⟨hf, _⟩ => nomatch hf
  cases hb
  exact (hg q hq).mono fun _ u hu => ⟨hu.1, hu.2.trans hq⟩

theorem forM {γ : Type} {g : γ → Run Unit} {e : γ → Except Failure Unit} (xs : List γ)
    (h : ∀ x q, q.tree = p.tree → Reads (g x) q (e x)) : Reads (xs.forM g) p (xs.forM e) := by
  induction xs generalizing p with
  | nil => exact .pure ()
  | cons x xs ih =>
    exact (h x p rfl).bind fun _ q hq => ih fun x u hu => h x u (hu.trans hq)

theorem mapM {γ : Type} {g : γ → Run α} {e : γ → Except Failure α} (xs : List γ)
    (h : ∀ x q, q.tree = p.tree → Reads (g x) q (e x)) : Reads (xs.mapM g) p (xs.mapM e) := by
  induction xs generalizing p with
  | nil => exact .pure []
  | cons x xs ih =>
    rw [List.mapM_cons, List.mapM_cons]
    exact (h x p rfl).bind fun y q hq => (ih fun x u hu => h x u (hu.trans hq)).bind fun ys u _ =>
      .pure (y :: ys)

end Reads

/-- Unless it ends with a fault, the step puts files there and changes no others, if they go to paths
of their own. -/
def Writes (r : Run Unit) (p : Progression) (files : List (Path × FileContent)) : Prop :=
  Ends r p fun e q => e = .ok () ∧
    ((files.map fun f => f.1.resolve).Nodup → p.tree.Holds files q.tree)

namespace Writes

variable {r : Run Unit} {files more : List (Path × FileContent)}

theorem of_reads (h : Reads r p (.ok ())) : Writes r p [] :=
  h.mono fun _ _ ⟨he, hq⟩ => ⟨he, fun _ => hq ▸ .refl _⟩

theorem write (path : Path) (content : FileContent) :
    Writes (write path content) p [(path, content)] := by
  obtain ⟨hok, hfiles⟩ | hfault := p.tree.write_cases path content
  · exact .inr ⟨hok, fun _ => .put hfiles⟩
  · exact .inl hfault

theorem bind {g : Unit → Run Unit} (h : Writes r p files) (hg : ∀ q, Writes (g ()) q more) :
    Writes (r >>= g) p (files ++ more) := by
  refine Ends.bind h (fun _ q hq => (hg q).mono fun e u hu => ⟨hu.1, fun hnodup => ?_⟩)
    fun f q hq => nomatch hq.1
  have hparts := hnodup
  rw [List.map_append, List.nodup_append] at hparts
  exact (hq.2 hparts.1).append (hu.2 hparts.2.1) hnodup

theorem forM {γ : Type} {g : γ → Run Unit} {files : γ → List (Path × FileContent)} (xs : List γ)
    (h : ∀ x q, Writes (g x) q (files x)) : Writes (xs.forM g) p (xs.flatMap files) := by
  induction xs generalizing p with
  | nil => exact of_reads (.pure ())
  | cons x xs ih => exact (h x p).bind fun q => ih

end Writes

end CardPress.Run
