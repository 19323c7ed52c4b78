import CardPress.Proofs.Report
import Mathlib.Data.List.Forall2

/-! Two computations side by side: both fail, or both come to something and the two are related. -/
namespace CardPress

variable {β γ β' γ' : Type}

inductive Agree (R : β → γ → Prop) : Except Failure β → Except Failure γ → Prop where
  | ok {b : β} {c : γ} (h : R b c) : Agree R (.ok b) (.ok c)
  | error (f g : Failure) : Agree R (.error f) (.error g)

namespace Agree

variable {R : β → γ → Prop} {S : β' → γ' → Prop} {r : Except Failure β} {r' : Except Failure γ}

theorem same (r : Except Failure β) : Agree Eq r r := by
  cases r with
  | ok b => exact .ok rfl
  | error f => exact .error f f

theorem toOption_eq {r r' : Except Failure β} (h : Agree Eq r r') : r'.toOption = r.toOption := by
  cases h with
  | ok h => rw [h]
  | error f g => rfl

theorem mono {R' : β → γ → Prop} (h : Agree R r r') (hR : ∀ b c, R b c → R' b c) :
    Agree R' r r' := by
  cases h with
  | ok h => exact .ok (hR _ _ h)
  | error f g => exact .error f g

theorem bind {f : β → Except Failure β'} {g : γ → Except Failure γ'} (h : Agree R r r')
    (hfg : ∀ b c, R b c → Agree S (f b) (g c)) : Agree S (r >>= f) (r' >>= g) := by
  cases h with
  | ok h => exact hfg _ _ h
  | error f g => exact .error f g

theorem mapM {P : β → γ → Prop} {f : β → Except Failure β'} {g : γ → Except Failure γ'}
    (hfg : ∀ b c, P b c → Agree S (f b) (g c)) {xs : List β} {ys : List γ}
    (h : List.Forall₂ P xs ys) : Agree (List.Forall₂ S) (xs.mapM f) (ys.mapM g) := by
  induction h with
  | nil => exact .ok .nil
  | cons hxy _ ih =>
    rw [List.mapM_cons, List.mapM_cons]
    exact (hfg _ _ hxy).bind fun b c hbc => ih.bind fun bs cs hbcs => .ok (.cons hbc hbcs)

theorem foldlM {P : β → γ → Prop} {f : β' → β → Except Failure β'} {g : γ' → γ → Except Failure γ'}
    (hfg : ∀ a b x y, S a b → P x y → Agree S (f a x) (g b y)) {xs : List β} {ys : List γ}
    (h : List.Forall₂ P xs ys) {a : β'} {b : γ'} (hab : S a b) :
    Agree S (xs.foldlM f a) (ys.foldlM g b) := by
  induction h generalizing a b with
  | nil => exact .ok hab
  | cons hxy _ ih =>
    rw [List.foldlM_cons, List.foldlM_cons]
    exact (hfg _ _ _ _ hab hxy).bind fun c d hcd => ih hcd

end Agree

namespace Report

/-- Whatever was noted before, the two agree. -/
def Agree (R : β → γ → Prop) (r : Report β) (r' : Report γ) : Prop :=
  ∀ ws ws', CardPress.Agree R (r.run.run ws).1 (r'.run.run ws').1

namespace Agree

variable {R : β → γ → Prop} {S : β' → γ' → Prop} {r : Report β} {r' : Report γ}

theorem lift {e : Except Failure β} {e' : Except Failure γ} (h : CardPress.Agree R e e') :
    Agree R (liftM e) (liftM e') := fun _ _ => h

theorem pure {b : β} {c : γ} (h : R b c) : Agree R (Pure.pure b) (Pure.pure c) :=
  fun _ _ => .ok h

theorem throw (f g : Failure) : Agree R (throw f : Report β) (throw g : Report γ) :=
  fun _ _ => .error f g

theorem warn (w w' : Warning) : Agree Eq (warn w) (warn w') := fun _ _ => .ok rfl

theorem bind {f : β → Report β'} {g : γ → Report γ'} (h : Agree R r r')
    (hfg : ∀ b c, R b c → Agree S (f b) (g c)) : Agree S (r >>= f) (r' >>= g) := by
  intro ws ws'
  have hrun := h ws ws'
  rw [run_bind, run_bind]
  rcases hr : r.run.run ws with ⟨b, t⟩
  rcases hr' : r'.run.run ws' with ⟨c, t'⟩
  rw [hr, hr'] at hrun
  cases hrun with
  | ok hbc => exact hfg _ _ hbc t t'
  | error f g => exact .error f g

theorem foldlM {P : β → γ → Prop} {f : β' → β → Report β'} {g : γ' → γ → Report γ'}
    (hfg : ∀ a b x y, S a b → P x y → Agree S (f a x) (g b y)) {xs : List β} {ys : List γ}
    (h : List.Forall₂ P xs ys) {a : β'} {b : γ'} (hab : S a b) :
    Agree S (xs.foldlM f a) (ys.foldlM g b) := by
  induction h generalizing a b with
  | nil => exact pure hab
  | cons hxy _ ih =>
    rw [List.foldlM_cons, List.foldlM_cons]
    exact (hfg _ _ _ _ hab hxy).bind fun c d hcd => ih hcd

end Agree

end Report

end CardPress
