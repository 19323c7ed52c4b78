import CardPress.Proofs.Template.Statements

/-! Making a template ready: what it is refused for is on one of the lines that its statements are on. -/
namespace CardPress.Template

variable {P : Nat → Prop} {ε α β : Type}

/-- It fails only on lines of a kind. -/
abbrev RefusesOn (P : Nat → Prop) (r : Except Refusal α) : Prop := Ends (fun _ => True) (Refusal.On P) r

namespace Ends

variable {Q : α → Prop} {R : ε → Prop} {S : β → Prop}

/-- Two parts, one after the other. -/
theorem pair {γ : Type} {S' : γ → Prop} {left : Except ε α} {right : Except ε β} {f : α → β → Except ε γ}
    (hleft : Ends Q R left) (hright : Ends S R right) (hf : ∀ a b, Q a → S b → Ends S' R (f a b)) :
    Ends S' R (do
      let a ← left
      let b ← right
      f a b) := by
  refine bind hleft ?_
  intro a ha
  exact bind hright fun b hb => hf a b ha hb

/-- The four groups of arguments, one after the other. -/
theorem arguments {args named more moreNamed : Except ε α} {f : α → α → α → α → Except ε β}
    (hargs : Ends Q R args) (hnamed : Ends Q R named) (hmore : Ends Q R more) (hmoreNamed : Ends Q R moreNamed)
    (hf : ∀ a b c d, Q a → Q b → Q c → Q d → Ends S R (f a b c d)) :
    Ends S R (do
      let a ← args
      let b ← named
      let c ← more
      let d ← moreNamed
      f a b c d) := by
  refine pair hargs hnamed ?_
  intro a b ha hb
  exact pair hmore hmoreNamed fun c d hc hd => hf a b c d ha hb hc hd

end Ends

namespace Expr

/-- An expression keeps its lines, or it becomes a constant, which has none. -/
theorem settled_ends {e : Expr} (he : e.On P) : Ends (On P) (fun _ => True) e.settled := by
  unfold settled
  refine Ends.bind (Q := fun _ => True) ?_ ?_
  · unfold Ends
    split
    · trivial
    · trivial
  · intro found _
    cases found with
    | none => exact .pure he
    | some c => exact .pure trivial

mutual

theorem folded_ends (e : Expr) (he : e.On P) : Ends (On P) (fun _ => True) e.folded := by
  cases e with
  | const c => exact .pure trivial
  | name id => exact .pure trivial
  | captured => exact .pure trivial
  | absent line => exact .pure trivial
  | list items =>
    rw [folded]
    exact .bind (foldedAll_ends items he) fun _ hitems => settled_ends hitems
  | tuple items =>
    rw [folded]
    exact .bind (foldedAll_ends items he) fun _ hitems => settled_ends hitems
  | dict keys values =>
    obtain ⟨hkeys, hvalues⟩ := he
    rw [folded]
    refine .pair (foldedAll_ends keys hkeys) (foldedAll_ends values hvalues) ?_
    intro keys values hkeys hvalues
    exact settled_ends ⟨hkeys, hvalues⟩
  | field owner id =>
    rw [folded]
    exact .bind (folded_ends owner he) fun _ howner => settled_ends howner
  | item owner key =>
    obtain ⟨howner, hkey⟩ := he
    rw [folded]
    refine .pair (folded_ends owner howner) (folded_ends key hkey) ?_
    intro owner key howner hkey
    exact settled_ends ⟨howner, hkey⟩
  | slice start stop step =>
    obtain ⟨hstart, hstop, hstep⟩ := he
    rw [folded]
    refine .bind (folded_ends start hstart) ?_
    intro start hstart
    refine .bind (folded_ends stop hstop) ?_
    intro stop hstop
    exact .bind (folded_ends step hstep) fun _ hstep => .pure (Q := On P) ⟨hstart, hstop, hstep⟩
  | call callee args names named more moreNamed =>
    obtain ⟨hcallee, hargs, hnamed, hmore, hmoreNamed⟩ := he
    rw [folded]
    refine .bind (folded_ends callee hcallee) ?_
    intro callee hcallee
    refine .arguments (foldedAll_ends args hargs) (foldedAll_ends named hnamed) (foldedAll_ends more hmore)
      (foldedAll_ends moreNamed hmoreNamed) ?_
    intro args named more moreNamed hargs hnamed hmore hmoreNamed
    exact .pure (Q := On P) ⟨hcallee, hargs, hnamed, hmore, hmoreNamed⟩
  | filter operand line id args names named more moreNamed =>
    obtain ⟨hline, hoperand, hargs, hnamed, hmore, hmoreNamed⟩ := he
    rw [folded]
    refine .bind (folded_ends operand hoperand) ?_
    intro operand hoperand
    refine .arguments (foldedAll_ends args hargs) (foldedAll_ends named hnamed) (foldedAll_ends more hmore)
      (foldedAll_ends moreNamed hmoreNamed) ?_
    intro args named more moreNamed hargs hnamed hmore hmoreNamed
    exact settled_ends ⟨hline, hoperand, hargs, hnamed, hmore, hmoreNamed⟩
  | test operand line id args names named more moreNamed =>
    obtain ⟨hline, hoperand, hargs, hnamed, hmore, hmoreNamed⟩ := he
    rw [folded]
    refine .bind (folded_ends operand hoperand) ?_
    intro operand hoperand
    refine .arguments (foldedAll_ends args hargs) (foldedAll_ends named hnamed) (foldedAll_ends more hmore)
      (foldedAll_ends moreNamed hmoreNamed) ?_
    intro args named more moreNamed hargs hnamed hmore hmoreNamed
    exact settled_ends ⟨hline, hoperand, hargs, hnamed, hmore, hmoreNamed⟩
  | unary op operand =>
    rw [folded]
    exact .bind (folded_ends operand he) fun _ hoperand => settled_ends hoperand
  | binary op left right =>
    obtain ⟨hleft, hright⟩ := he
    rw [folded]
    refine .pair (folded_ends left hleft) (folded_ends right hright) ?_
    intro left right hleft hright
    exact settled_ends ⟨hleft, hright⟩
  | both left right =>
    obtain ⟨hleft, hright⟩ := he
    rw [folded]
    refine .pair (folded_ends left hleft) (folded_ends right hright) ?_
    intro left right hleft hright
    exact settled_ends ⟨hleft, hright⟩
  | either left right =>
    obtain ⟨hleft, hright⟩ := he
    rw [folded]
    refine .pair (folded_ends left hleft) (folded_ends right hright) ?_
    intro left right hleft hright
    exact settled_ends ⟨hleft, hright⟩
  | concat parts =>
    rw [folded]
    exact .bind (foldedAll_ends parts he) fun _ hparts => settled_ends hparts
  | compare first ops others =>
    obtain ⟨hfirst, hothers⟩ := he
    rw [folded]
    refine .pair (folded_ends first hfirst) (foldedAll_ends others hothers) ?_
    intro first others hfirst hothers
    exact settled_ends ⟨hfirst, hothers⟩
  | choose condition yes no =>
    obtain ⟨hcondition, hyes, hno⟩ := he
    rw [folded]
    refine .bind (folded_ends condition hcondition) ?_
    intro condition hcondition
    refine .bind (folded_ends yes hyes) ?_
    intro yes hyes
    exact .bind (folded_ends no hno) fun _ hno => settled_ends ⟨hcondition, hyes, hno⟩

theorem foldedAll_ends (es : List Expr) (hes : OnAll P es) : Ends (OnAll P) (fun _ => True) (foldedAll es) := by
  cases es with
  | nil => exact .pure trivial
  | cons e es =>
    obtain ⟨he, hes⟩ := hes
    rw [foldedAll]
    refine .pair (folded_ends e he) (foldedAll_ends es hes) ?_
    intro e es he hes
    exact .pure (Q := OnAll P) ⟨he, hes⟩

end

theorem known_refuses {soft isKnown : Bool} {problem : Problem} {line : Nat} (hline : P line) :
    RefusesOn P (known soft isKnown problem line) := by
  unfold known
  split
  · exact trivial
  · exact hline

mutual

theorem checked_refuses (soft : Bool) (e : Expr) (he : e.On P) : RefusesOn P (checked soft e) := by
  cases e with
  | const c =>
    rw [checked]
    split
    · exact trivial
    · exact trivial
  | name id => exact .pure trivial
  | captured => exact .pure trivial
  | absent line => exact .pure trivial
  | list items =>
    rw [checked]
    exact .bind (checkedAll_refuses soft items he) fun _ _ => .pure trivial
  | tuple items =>
    rw [checked]
    exact .bind (checkedAll_refuses soft items he) fun _ _ => .pure trivial
  | dict keys values =>
    obtain ⟨hkeys, hvalues⟩ := he
    rw [checked]
    exact .pair (checkedAll_refuses soft keys hkeys) (checkedAll_refuses soft values hvalues)
      fun _ _ _ _ => .pure trivial
  | field owner id =>
    rw [checked]
    exact .bind (checked_refuses soft owner he) fun _ _ => .pure trivial
  | item owner key =>
    obtain ⟨howner, hkey⟩ := he
    rw [checked]
    exact .pair (checked_refuses soft owner howner) (checked_refuses soft key hkey)
      fun _ _ _ _ => .pure trivial
  | slice start stop step =>
    obtain ⟨hstart, hstop, hstep⟩ := he
    rw [checked]
    refine .bind (checked_refuses soft start hstart) ?_
    intro start _
    exact .pair (checked_refuses soft stop hstop) (checked_refuses soft step hstep)
      fun _ _ _ _ => .pure trivial
  | call callee args names named more moreNamed =>
    obtain ⟨hcallee, hargs, hnamed, hmore, hmoreNamed⟩ := he
    rw [checked]
    refine .bind (checked_refuses soft callee hcallee) ?_
    intro callee _
    refine .arguments (checkedAll_refuses soft args hargs) (checkedAll_refuses soft named hnamed)
      (checkedAll_refuses soft more hmore) (checkedAll_refuses soft moreNamed hmoreNamed) ?_
    intros
    exact .pure trivial
  | filter operand line id args names named more moreNamed =>
    obtain ⟨hline, hoperand, hargs, hnamed, hmore, hmoreNamed⟩ := he
    rw [checked]
    refine .bind (known_refuses hline) ?_
    intro _ _
    refine .bind (checked_refuses soft operand hoperand) ?_
    intro operand _
    refine .arguments (checkedAll_refuses soft args hargs) (checkedAll_refuses soft named hnamed)
      (checkedAll_refuses soft more hmore) (checkedAll_refuses soft moreNamed hmoreNamed) ?_
    intros
    exact .pure trivial
  | test operand line id args names named more moreNamed =>
    obtain ⟨hline, hoperand, hargs, hnamed, hmore, hmoreNamed⟩ := he
    rw [checked]
    refine .bind (known_refuses hline) ?_
    intro _ _
    refine .bind (checked_refuses soft operand hoperand) ?_
    intro operand _
    refine .arguments (checkedAll_refuses soft args hargs) (checkedAll_refuses soft named hnamed)
      (checkedAll_refuses soft more hmore) (checkedAll_refuses soft moreNamed hmoreNamed) ?_
    intros
    exact .pure trivial
  | unary op operand =>
    rw [checked]
    exact .bind (checked_refuses soft operand he) fun _ _ => .pure trivial
  | binary op left right =>
    obtain ⟨hleft, hright⟩ := he
    rw [checked]
    exact .pair (checked_refuses soft left hleft) (checked_refuses soft right hright)
      fun _ _ _ _ => .pure trivial
  | both left right =>
    obtain ⟨hleft, hright⟩ := he
    rw [checked]
    exact .pair (checked_refuses soft left hleft) (checked_refuses soft right hright)
      fun _ _ _ _ => .pure trivial
  | either left right =>
    obtain ⟨hleft, hright⟩ := he
    rw [checked]
    exact .pair (checked_refuses soft left hleft) (checked_refuses soft right hright)
      fun _ _ _ _ => .pure trivial
  | concat parts =>
    rw [checked]
    exact .bind (checkedAll_refuses soft parts he) fun _ _ => .pure trivial
  | compare first ops others =>
    obtain ⟨hfirst, hothers⟩ := he
    rw [checked]
    exact .pair (checked_refuses soft first hfirst) (checkedAll_refuses soft others hothers)
      fun _ _ _ _ => .pure trivial
  | choose condition yes no =>
    obtain ⟨hcondition, hyes, hno⟩ := he
    rw [checked]
    refine .bind (checked_refuses true yes hyes) ?_
    intro yes _
    refine .bind (checked_refuses true condition hcondition) ?_
    intro condition _
    exact .bind (checked_refuses true no hno) fun _ _ => .pure trivial

theorem checkedAll_refuses (soft : Bool) (es : List Expr) (hes : OnAll P es) :
    RefusesOn P (checkedAll soft es) := by
  cases es with
  | nil => exact .pure trivial
  | cons e es =>
    obtain ⟨he, hes⟩ := hes
    rw [checkedAll]
    exact .pair (checked_refuses soft e he) (checkedAll_refuses soft es hes) fun _ _ _ _ => .pure trivial

end

theorem folded_checked_refuses (soft : Bool) {e : Expr} (he : e.On P) :
    RefusesOn P (match folded e with
      | .ok e => checked soft e
      | .error t => .error (.trouble t)) := by
  have hfolded := folded_ends e he
  split
  · next e h =>
    rw [h] at hfolded
    exact checked_refuses soft e hfolded
  · exact trivial

mutual

theorem prepared_refuses (soft : Bool) (e : Expr) (he : e.On P) : RefusesOn P (prepared soft e) := by
  cases e with
  | list items =>
    rw [prepared]
    exact .bind (preparedAll_refuses soft items he) fun _ _ => .pure trivial
  | tuple items =>
    rw [prepared]
    exact .bind (preparedAll_refuses soft items he) fun _ _ => .pure trivial
  | dict keys values =>
    obtain ⟨hkeys, hvalues⟩ := he
    rw [prepared]
    exact .pair (preparedAll_refuses soft keys hkeys) (preparedAll_refuses soft values hvalues)
      fun _ _ _ _ => .pure trivial
  | _ =>
    simp only [prepared]
    exact folded_checked_refuses soft he

theorem preparedAll_refuses (soft : Bool) (es : List Expr) (hes : OnAll P es) :
    RefusesOn P (preparedAll soft es) := by
  cases es with
  | nil => exact .pure trivial
  | cons e es =>
    obtain ⟨he, hes⟩ := hes
    rw [preparedAll]
    exact .pair (prepared_refuses soft e he) (preparedAll_refuses soft es hes) fun _ _ _ _ => .pure trivial

end

end Expr

namespace Stmt

/-- All names that are assigned in a loop are on lines of a kind. -/
theorem assignments_on {id : String} {target : Target} {parts : List Stmt} (htarget : target.On P)
    (hparts : ∀ t ∈ parts, t.Own P) : ∀ line ∈ assignments id target parts, P line := by
  intro line hline
  unfold assignments at hline
  obtain ⟨t, ht, hline⟩ := List.mem_flatMap.mp hline
  obtain ⟨place, hplace, rfl⟩ := List.mem_map.mp hline
  have hon : t.On P := by
    obtain rfl | ht := List.mem_cons.mp ht
    · exact htarget
    · obtain ⟨s, hs, hfound⟩ := List.mem_filterMap.mp ht
      have hown := hparts s hs
      split at hfound
      · cases hfound
        exact hown.1
      · cases hfound
        exact hown.1
      · cases hfound
        exact hown.1
      · cases hfound
  exact hon place (List.mem_of_mem_filter hplace)

theorem repeatedBlock_on {seen : List String} {parts : List Stmt} {f : Fault}
    (h : repeatedBlock seen parts = some f) (hparts : ∀ t ∈ parts, t.Own P) : P f.line := by
  induction parts generalizing seen with
  | nil => cases h
  | cons s rest ih =>
    obtain ⟨hs, hrest⟩ := List.forall_mem_cons.mp hparts
    unfold repeatedBlock at h
    split at h
    · cases ‹_ = _›
    · next line id shared required body rest' heq =>
      cases heq
      split at h
      · cases h
        exact hs
      · exact ih h hrest
    · next heq =>
      cases heq
      exact ih h hrest

end Stmt

namespace Planning

/-- Whatever was asked for before, it fails only on lines of a kind. -/
def Refuses (P : Nat → Prop) (p : Planning α) : Prop := ∀ r, RefusesOn P (p.run r)

namespace Refuses

variable {p : Planning α} {f : α → Planning β}

theorem pure (a : α) : Refuses P (Pure.pure a) := fun _ => trivial

theorem get : Refuses P (MonadState.get : Planning Replacement) := fun _ => trivial

theorem set (r : Replacement) : Refuses P (MonadStateOf.set r : Planning PUnit) := fun _ => trivial

theorem ofExcept {r : Except Refusal α} (h : RefusesOn P r) : Refuses P (Planning.ofExcept r) := by
  intro s
  cases r with
  | ok a => exact trivial
  | error e => exact h

theorem fault {problem : Problem} {line : Nat} (h : P line) :
    Refuses P (Planning.fault problem line : Planning α) := fun _ => h

theorem bind (h : Refuses P p) (hf : ∀ a, Refuses P (f a)) : Refuses P (p >>= f) := by
  intro r
  rw [StateT.run_bind]
  exact Ends.bind (h r) fun found _ => hf found.1 found.2

theorem andThen {q : Planning β} (h : Refuses P p) (hq : Refuses P q) : Refuses P (p >>= fun _ => q) :=
  h.bind fun _ => hq

theorem fault_bind {problem : Problem} {line : Nat} (h : P line) :
    Refuses P (Planning.fault problem line >>= f) := fun _ => h

theorem map {g : α → β} (h : Refuses P p) : Refuses P (g <$> p) := by
  rw [← bind_pure_comp]
  exact h.bind fun _ => pure _

theorem ite_bind {c : Prop} [Decidable c] {q : Planning α} (hp : Refuses P p) (hq : Refuses P q)
    (hf : ∀ a, Refuses P (f a)) : Refuses P (if c then p >>= f else q >>= f) := by
  split
  · exact hp.bind hf
  · exact hq.bind hf

/-- A step that is left out on a condition. -/
theorem ite_skip {c : Prop} [Decidable c] {q : Planning β} (hp : Refuses P p) (hq : Refuses P q) :
    Refuses P (if c then p >>= fun _ => q else q) := by
  split
  · exact hp.andThen hq
  · exact hq

theorem mapM {g : α → Planning β} {xs : List α} (h : ∀ x ∈ xs, Refuses P (g x)) :
    Refuses P (xs.mapM g) := by
  induction xs with
  | nil => exact pure _
  | cons x xs ih =>
    obtain ⟨hx, hxs⟩ := List.forall_mem_cons.mp h
    rw [List.mapM_cons]
    refine bind hx ?_
    intro y
    exact bind (ih hxs) fun _ => pure _

end Refuses

theorem value_refuses (site : Site) {e : Expr} (he : e.On P) : Refuses P (value site e) :=
  .ofExcept (Expr.prepared_refuses site.soft e he)

theorem values_refuses (site : Site) {es : List Expr} (hes : Expr.OnAll P es) :
    Refuses P (values site es) :=
  .mapM fun e he => value_refuses site (Expr.onAll_iff.mp hes e he)

theorem mapM_value_refuses (site : Site) {found : Option Expr} (h : ∀ e ∈ found, e.On P) :
    Refuses P (found.mapM (value site)) := by
  cases found with
  | none => exact .pure _
  | some e => exact .bind (value_refuses site (h e rfl)) fun _ => .pure _

theorem piece_refuses (site : Site) {p : Piece} (hp : p.On P) : Refuses P (piece site p) := by
  unfold piece
  split
  · exact .pure _
  · split
    · exact .pure _
    · exact .bind (value_refuses site hp) fun _ => .pure _

theorem checkNames_refuses (scope : Scope) (e : Expr) : Refuses P (checkNames scope e) := by
  unfold checkNames
  split
  · exact fun _ => trivial
  · exact .pure _

theorem mapM_param_refuses (site : Site) {params : List Param} (hparams : ∀ p ∈ params, p.On P) :
    Refuses P (params.mapM fun p => do
      match p.standard with
      | some e => return ({ p with standard := some (← value site e) } : Param)
      | none => return p) := by
  refine .mapM ?_
  intro p hp
  split
  · next e he => exact .bind (value_refuses site (hparams p hp e he)) fun _ => .pure _
  · exact .pure _

theorem routine_refuses (site : Site) {line : Nat} {params : List Param} {body : List Stmt} (hline : P line)
    (hparams : ∀ p ∈ params, p.On P) : Refuses P (routine site line params body) := by
  unfold routine
  exact .ite_skip (.fault hline) (.bind (mapM_param_refuses _ hparams) fun _ => .pure _)

mutual

theorem step_refuses (site : Site) (s : Stmt) (hs : s.On P) : Refuses P (step site s) := by
  cases s with
  | output pieces =>
    have hpieces : ∀ p ∈ pieces, p.On P := (Stmt.on_iff_own rfl).mp hs
    rw [step]
    refine .bind .get ?_
    intro asked
    split
    · exact .pure _
    · exact .bind (.mapM fun p hp => piece_refuses site (hpieces p hp)) fun _ => .pure _
  | branch condition yes others no =>
    obtain ⟨hcondition, hyes, hothers, hno⟩ := Stmt.on_branch_iff.mp hs
    rw [step]
    refine .bind (value_refuses _ hcondition) ?_
    intro condition
    refine .bind (steps_refuses _ yes hyes) ?_
    intro yes
    refine .bind (otherSteps_refuses _ others hothers) ?_
    intro others
    exact .bind (steps_refuses _ no hno) fun _ => .pure _
  | each target values condition recursive body otherwise =>
    obtain ⟨⟨htarget, hvalues, hcondition⟩, hbody, hotherwise⟩ := Stmt.on_each_iff.mp hs
    have hassigned : ∀ line ∈ Stmt.assignments "loop" target (Stmt.partsIn body ++ Stmt.partsIn otherwise),
        P line := Stmt.assignments_on htarget (List.forall_mem_append.mpr ⟨hbody, hotherwise⟩)
    rw [step]
    dsimp only
    refine .bind (mapM_value_refuses _ hcondition) ?_
    intro condition
    split
    · next line more hlines =>
      have hline : P line := hassigned line (by rw [hlines]; exact List.mem_cons_self)
      exact .fault_bind hline
    · refine .ite_bind (.pure none) (.map (value_refuses site hvalues)) ?_
      intro early
      refine .bind (steps_refuses _ body hbody) ?_
      intro body
      refine .bind (steps_refuses _ otherwise hotherwise) ?_
      intro otherwise
      split
      · exact .pure _
      · exact .bind (value_refuses site hvalues) fun _ => .pure _
  | assign target e =>
    obtain ⟨-, he⟩ := (Stmt.on_iff_own rfl).mp hs
    rw [step]
    exact .bind (value_refuses site he) fun _ => .pure _
  | capture target filtered body =>
    obtain ⟨⟨-, hfiltered⟩, hbody⟩ := (Stmt.on_iff_of_body rfl).mp hs
    rw [step]
    dsimp only
    refine .bind (steps_refuses _ body hbody) ?_
    intro body
    refine .bind (mapM_value_refuses _ hfiltered) ?_
    intro filtered
    split
    · exact .andThen (checkNames_refuses _ _) (.pure _)
    · exact .pure _
  | wrap filtered body =>
    obtain ⟨hfiltered, hbody⟩ := (Stmt.on_iff_of_body rfl).mp hs
    rw [step]
    refine .bind (steps_refuses _ body hbody) ?_
    intro body
    exact .bind (value_refuses _ hfiltered) fun _ => .pure _
  | scope targets es body =>
    obtain ⟨hes, hbody⟩ := (Stmt.on_iff_of_body rfl).mp hs
    rw [step]
    refine .bind (values_refuses site hes) ?_
    intro es
    exact .bind (steps_refuses _ body hbody) fun _ => .pure _
  | define line id params body =>
    obtain ⟨⟨hline, hparams⟩, hbody⟩ := (Stmt.on_iff_of_body rfl).mp hs
    rw [step]
    refine .bind (routine_refuses site hline hparams) ?_
    intro read
    exact .bind (steps_refuses _ body hbody) fun _ => .pure _
  | callWith line params call body =>
    obtain ⟨⟨hline, hparams, hcall⟩, hbody⟩ := (Stmt.on_iff_of_body rfl).mp hs
    rw [step]
    refine .bind (routine_refuses site hline hparams) ?_
    intro read
    refine .bind (steps_refuses _ body hbody) ?_
    intro body
    exact .bind (value_refuses site hcall) fun _ => .pure _
  | block line id shared required body =>
    rw [step]
    refine .bind .get ?_
    intro asked
    split
    · exact .pure _
    · exact .pure _
  | load template several lenient names =>
    have htemplate : template.On P := (Stmt.on_iff_own rfl).mp hs
    rw [step]
    exact .bind (value_refuses site htemplate) fun _ => .pure _
  | extend line template =>
    obtain ⟨hline, htemplate⟩ := (Stmt.on_iff_own rfl).mp hs
    rw [step]
    split
    · exact .fault hline
    · refine .bind (value_refuses site htemplate) ?_
      intro template
      refine .bind .get ?_
      intro asked
      exact .andThen (.set _) (.pure _)
  | escaping on body =>
    obtain ⟨hon, hbody⟩ := (Stmt.on_iff_of_body rfl).mp hs
    rw [step]
    refine .bind (value_refuses _ hon) ?_
    intro on
    exact .bind (steps_refuses _ body hbody) fun _ => .pure _

theorem steps_refuses (site : Site) (ss : List Stmt) (hss : Stmt.OnAll P ss) : Refuses P (steps site ss) := by
  cases ss with
  | nil =>
    rw [steps]
    exact .pure _
  | cons s ss =>
    obtain ⟨hs, hss⟩ := Stmt.onAll_cons.mp hss
    rw [steps]
    refine .bind .get ?_
    intro asked
    split
    · exact .pure _
    · refine .bind (step_refuses site s hs) ?_
      intro first
      exact .bind (steps_refuses site ss hss) fun _ => .pure _

theorem otherSteps_refuses (site : Site) (others : List (Expr × List Stmt)) (hothers : Stmt.OthersOn P others) :
    Refuses P (otherSteps site others) := by
  cases others with
  | nil =>
    rw [otherSteps]
    exact .pure _
  | cons other others =>
    obtain ⟨condition, yes⟩ := other
    obtain ⟨⟨hcondition, hyes⟩, hothers⟩ := List.forall_mem_cons.mp hothers
    rw [otherSteps]
    refine .bind (value_refuses site hcondition) ?_
    intro condition
    refine .bind (steps_refuses site yes hyes) ?_
    intro yes
    exact .bind (otherSteps_refuses site others hothers) fun _ => .pure _

end

theorem block_refuses {s : Stmt} (hs : s.On P) : Refuses P (block s) := by
  unfold block
  split
  · obtain ⟨-, hbody⟩ := (Stmt.on_iff_of_body rfl).mp hs
    exact .bind (steps_refuses _ _ hbody) fun _ => .pure _
  · exact .pure _

end Planning

namespace Plan

theorem plan_refuses {body : List Stmt} (hbody : Stmt.OnAll P body) : Planning.Refuses P (plan body) := by
  unfold plan
  dsimp only
  split
  · next f hf => exact fun _ => Stmt.repeatedBlock_on hf hbody
  · refine .bind (Planning.steps_refuses _ body hbody) ?_
    intro main
    exact .bind (.mapM fun s hs => Planning.block_refuses (Stmt.on_of_mem_partsIn hbody hs)) fun _ => .pure _

/-- Making statements ready fails only on the lines that they are on. -/
theorem ofStmts_refuses {body : List Stmt} (hbody : Stmt.OnAll P body) : RefusesOn P (ofStmts body) := by
  have hplan := plan_refuses hbody {}
  unfold ofStmts
  cases h : (plan body).run {} with
  | ok found => exact trivial
  | error r =>
    rw [h] at hplan
    exact hplan

end Plan

end CardPress.Template
