import CardPress.Proofs.Layout.Conditions
import CardPress.Proofs.Render.Alone

/-! Rendering several cards: what comes of each is put together in order, up to the first that ends
the run. -/
namespace CardPress

variable {α : Type}

/-- What is known of a run's result whatever is on the pages. -/
def RenderResult.outline (r : RenderResult α) :
    List (String × Geometry α × α × α) × List RenderFailure × List (Nat × Nat) :=
  (r.rendered.map RenderedCard.outline, r.failures, r.progress)

theorem RenderResult.count_of_outline {r r' : RenderResult α} (h : r.outline = r'.outline) :
    r.rendered.length + r.failures.length = r'.rendered.length + r'.failures.length := by
  simp only [outline, Prod.mk.injEq] at h
  have hlength := congrArg List.length h.1
  rw [List.length_map, List.length_map] at hlength
  rw [hlength, h.2.1]

namespace Render

/-! What came of cards, put together. -/

/-- The id of a card and what came of the card. -/
structure Verdict (α : Type) where
  id : String
  outcome : Except Failure (RenderedCard α)

variable {keepGoing : Bool} {total : Nat} {os os' before : List (Verdict α)} {o : Verdict α}
  {r r' : RenderResult α} {f : Failure}

namespace Verdict

/-- What ends a run: any failure, or only a fault if it is to go on. -/
def stop (keepGoing : Bool) (o : Verdict α) : Option Failure :=
  match o.outcome with
  | .ok _ => none
  | .error (.problem p) => if keepGoing then none else some (.problem p)
  | .error (.fault f) => some (.fault f)

def card? (o : Verdict α) : Option (RenderedCard α) := o.outcome.toOption

def failure? (o : Verdict α) : Option RenderFailure :=
  match o.outcome with
  | .error (.problem p) => some ⟨o.id, p⟩
  | _ => none

def outline (o : Verdict α) : String × Except Failure (String × Geometry α × α × α) :=
  (o.id, o.outcome.map RenderedCard.outline)

/-- A verdict that does not end the run is a card or a failure, and not both. -/
theorem cases_of_stop (h : o.stop keepGoing = none) :
    (∃ c, o.outcome = .ok c ∧ o.card? = some c ∧ o.failure? = none) ∨
      ∃ p, keepGoing = true ∧ o.outcome = .error (.problem p) ∧ o.card? = none ∧
        o.failure? = some ⟨o.id, p⟩ := by
  obtain ⟨id, outcome⟩ := o
  cases outcome with
  | ok c => exact .inl ⟨c, rfl, rfl, rfl⟩
  | error f =>
    cases f with
    | problem p =>
      cases keepGoing with
      | true => exact .inr ⟨p, rfl, rfl, rfl, rfl⟩
      | false => cases h
    | fault f => cases h

theorem stop_eq_some (h : o.stop true = some f) :
    o.outcome = .error f ∧ ∃ fault, f = .fault fault := by
  obtain ⟨id, outcome⟩ := o
  cases outcome with
  | ok c => cases h
  | error f =>
    cases f with
    | problem p => cases h
    | fault f =>
      cases h
      exact ⟨rfl, f, rfl⟩

end Verdict

/-- Puts verdicts together as a run meets them. -/
def gather (keepGoing : Bool) (total : Nat) :
    List (Verdict α) → RenderResult α → Option Failure × RenderResult α
  | [], r => (none, r)
  | o :: rest, r =>
    match settle keepGoing o.id o.outcome r with
    | .error f => (some f, r)
    | .ok r =>
      let done := r.rendered.length + r.failures.length
      gather keepGoing total rest { r with progress := r.progress ++ [(done, total)] }

/-- All cards that were rendered, all that failed, and the progress of so many of them. -/
def collected (total : Nat) (os : List (Verdict α)) : RenderResult α where
  rendered := os.filterMap Verdict.card?
  failures := os.filterMap Verdict.failure?
  progress := (List.range os.length).map fun i => (i + 1, total)

/-- Every card is in one of the two lists. -/
theorem collected_count (h : ∀ o ∈ os, o.stop keepGoing = none) :
    (os.filterMap Verdict.card?).length + (os.filterMap Verdict.failure?).length = os.length := by
  induction os with
  | nil => rfl
  | cons o rest ih =>
    have hrest := ih fun o ho => h o (List.mem_cons_of_mem _ ho)
    obtain ⟨c, -, hcard, hfailure⟩ | ⟨p, -, -, hcard, hfailure⟩ :=
      Verdict.cases_of_stop (h o List.mem_cons_self)
    · rw [List.filterMap_cons_some hcard, List.filterMap_cons_none hfailure, List.length_cons,
        List.length_cons]
      omega
    · rw [List.filterMap_cons_none hcard, List.filterMap_cons_some hfailure, List.length_cons,
        List.length_cons]
      omega

theorem collected_concat (total : Nat) (before : List (Verdict α)) (o : Verdict α) :
    collected total (before ++ [o]) =
      ⟨(collected total before).rendered ++ o.card?.toList,
        (collected total before).failures ++ o.failure?.toList,
        (collected total before).progress ++ [(before.length + 1, total)]⟩ := by
  unfold collected
  rw [List.filterMap_append, List.filterMap_append, List.length_append, List.length_singleton,
    List.range_succ, List.map_append]
  cases hcard : o.card? <;> cases hfailure : o.failure? <;> simp [hcard, hfailure]

/-- One more verdict that does not end the run. -/
theorem settle_collected (total : Nat) (hbefore : ∀ o ∈ before, o.stop keepGoing = none)
    (h : o.stop keepGoing = none) : ∃ r,
      settle keepGoing o.id o.outcome (collected total before) = .ok r ∧
        { r with progress := r.progress ++ [(r.rendered.length + r.failures.length, total)] } =
          collected total (before ++ [o]) := by
  have hcount : (collected total before).rendered.length +
      (collected total before).failures.length = before.length := collected_count hbefore
  rw [collected_concat]
  obtain ⟨c, houtcome, hcard, hfailure⟩ | ⟨p, rfl, houtcome, hcard, hfailure⟩ :=
    Verdict.cases_of_stop h
  · rw [houtcome, hcard, hfailure]
    refine ⟨_, rfl, ?_⟩
    simp [← hcount, Nat.add_right_comm]
  · rw [houtcome, hcard, hfailure]
    refine ⟨_, rfl, ?_⟩
    simp [← hcount, Nat.add_assoc]

theorem gather_collected (total : Nat) (hbefore : ∀ o ∈ before, o.stop keepGoing = none)
    (h : ∀ o ∈ os, o.stop keepGoing = none) (rest : List (Verdict α)) :
    gather keepGoing total (os ++ rest) (collected total before) =
      gather keepGoing total rest (collected total (before ++ os)) := by
  induction os generalizing before with
  | nil => rw [List.append_nil]; rfl
  | cons o os ih =>
    have ho := h o List.mem_cons_self
    have hnow : ∀ x ∈ before ++ [o], x.stop keepGoing = none := by
      simpa [or_imp, forall_and] using ⟨hbefore, ho⟩
    obtain ⟨r, hr, hnext⟩ := settle_collected total hbefore ho
    rw [List.cons_append, gather, hr]
    dsimp only
    rw [hnext, ih hnow fun o ho => h o (List.mem_cons_of_mem _ ho), List.append_assoc]
    rfl

theorem gather_stop (h : o.stop keepGoing = some f) (rest : List (Verdict α))
    (r : RenderResult α) : gather keepGoing total (o :: rest) r = (some f, r) := by
  have hsettle : settle keepGoing o.id o.outcome r = .error f := by
    unfold Verdict.stop at h
    unfold settle
    cases houtcome : o.outcome with
    | ok c =>
      rw [houtcome] at h
      cases h
    | error e =>
      rw [houtcome] at h
      cases e with
      | problem p => cases keepGoing <;> cases h; rfl
      | fault e => cases h; rfl
  rw [gather, hsettle]

/-- A run goes through all verdicts, or up to the first that ends it. -/
theorem gather_cases (keepGoing : Bool) (total : Nat) (os : List (Verdict α)) :
    ((∀ o ∈ os, o.stop keepGoing = none) ∧
      gather keepGoing total os {} = (none, collected total os)) ∨
    ∃ before o rest f, os = before ++ o :: rest ∧ (∀ x ∈ before, x.stop keepGoing = none) ∧
      o.stop keepGoing = some f ∧
        gather keepGoing total os {} = (some f, collected total before) := by
  cases hfind : os.find? fun o => (o.stop keepGoing).isSome with
  | none =>
    have hnone : ∀ o ∈ os, o.stop keepGoing = none := by simpa using hfind
    have hall := gather_collected total (List.forall_mem_nil _) hnone []
    rw [List.append_nil] at hall
    exact .inl ⟨hnone, hall⟩
  | some o =>
    obtain ⟨hstop, before, rest, rfl, hbefore⟩ := List.find?_eq_some_iff_append.mp hfind
    obtain ⟨f, hf⟩ := Option.isSome_iff_exists.mp hstop
    have hnone : ∀ x ∈ before, x.stop keepGoing = none := by simpa using hbefore
    refine .inr ⟨before, o, rest, f, rfl, hnone, hf, ?_⟩
    exact (gather_collected total (List.forall_mem_nil _) hnone (o :: rest)).trans
      (gather_stop hf rest _)

theorem settle_outline (keepGoing : Bool) {o' : Verdict α} (ho : o.outline = o'.outline)
    (hr : r.outline = r'.outline) :
    (settle keepGoing o.id o.outcome r).map RenderResult.outline =
      (settle keepGoing o'.id o'.outcome r').map RenderResult.outline := by
  obtain ⟨id, outcome⟩ := o
  obtain ⟨id', outcome'⟩ := o'
  simp only [Verdict.outline, Prod.mk.injEq] at ho
  simp only [RenderResult.outline, Prod.mk.injEq] at hr
  obtain ⟨rfl, houtcome⟩ := ho
  obtain ⟨hrendered, hfailures, hprogress⟩ := hr
  cases outcome <;> cases outcome' <;> simp only [Except.map, reduceCtorEq, Except.ok.injEq,
    Except.error.injEq] at houtcome
  case error.error f f' =>
    subst houtcome
    cases f with
    | problem p =>
      cases keepGoing
      · rfl
      · simp [settle, Except.map, RenderResult.outline, hrendered, hfailures, hprogress]
    | fault f => rfl
  case ok.ok c c' =>
    simp [settle, Except.map, RenderResult.outline, hrendered, hfailures, hprogress, houtcome]

/-- What is known of a result depends on what is known of the verdicts. -/
theorem gather_outline (keepGoing : Bool) (total : Nat)
    (hos : os.map Verdict.outline = os'.map Verdict.outline) (hr : r.outline = r'.outline) :
    (gather keepGoing total os r).1 = (gather keepGoing total os' r').1 ∧
      (gather keepGoing total os r).2.outline = (gather keepGoing total os' r').2.outline := by
  induction os generalizing os' r r' with
  | nil =>
    obtain rfl := List.map_eq_nil_iff.mp hos.symm
    exact ⟨rfl, hr⟩
  | cons o rest ih =>
    obtain ⟨o', rest', rfl, ho, hrest⟩ := List.map_eq_cons_iff.mp hos.symm
    have hsettle := settle_outline keepGoing ho.symm hr
    unfold gather
    cases hs : settle keepGoing o.id o.outcome r <;>
      cases hs' : settle keepGoing o'.id o'.outcome r' <;> rw [hs, hs'] at hsettle <;>
      simp only [Except.map, reduceCtorEq, Except.ok.injEq, Except.error.injEq] at hsettle
    case error.error f f' => exact ⟨congrArg some hsettle, hr⟩
    case ok.ok next next' =>
      refine ih hrest.symm ?_
      have hcount := RenderResult.count_of_outline hsettle
      simp only [RenderResult.outline, Prod.mk.injEq] at hsettle ⊢
      exact ⟨hsettle.1, hsettle.2.1, by rw [hsettle.2.2, hcount]⟩

/-! Runs of cards. -/

variable [Scalar α] {source : Source α} {cs : List Card} {s : RunState α}

/-- What comes of each card by itself. -/
def verdicts (source : Source α) (cs : List Card) : List (Verdict α) :=
  cs.map fun c => ⟨c.id, alone source c⟩

theorem rendered_verdicts (source : Source α) (total : Nat) (cs : List Card) :
    (collected total (verdicts source cs)).rendered =
      cs.filterMap fun c => (alone source c).toOption := List.filterMap_map ..

theorem failures_verdicts (source : Source α) (total : Nat) (cs : List Card) :
    (collected total (verdicts source cs)).failures =
      cs.filterMap fun c => Verdict.failure? ⟨c.id, alone source c⟩ := List.filterMap_map ..

/-- The cards of a run, each rendered in some state, give what they come to by themselves. -/
theorem cardsFrom_gather (keepGoing : Bool) (total : Nat) (cs : List Card) (h : Settled source s)
    (r : RenderResult α) :
    ∃ os, os.map Verdict.outline = (verdicts source cs).map Verdict.outline ∧
      (cardsFrom source keepGoing total cs r s).1 = (gather keepGoing total os r).1 ∧
      (cardsFrom source keepGoing total cs r s).2.1 = (gather keepGoing total os r).2 := by
  induction cs generalizing r s with
  | nil => exact ⟨[], rfl, rfl, rfl⟩
  | cons c rest ih =>
    have hc : Verdict.outline ⟨c.id, (card source c s).1⟩ = Verdict.outline ⟨c.id, alone source c⟩ :=
      congrArg (Prod.mk c.id) (card_alone h c)
    cases hsettle : settle keepGoing c.id (card source c s).1 r with
    | error f =>
      refine ⟨⟨c.id, (card source c s).1⟩ :: verdicts source rest, ?_, ?_, ?_⟩
      · rw [List.map_cons, hc]
        rfl
      · rw [cardsFrom, gather]
        dsimp only
        rw [hsettle]
      · rw [cardsFrom, gather]
        dsimp only
        rw [hsettle]
    | ok r' =>
      obtain ⟨os, hos, hfailure, hresult⟩ := ih (h.card c)
        { r' with progress := r'.progress ++ [(r'.rendered.length + r'.failures.length, total)] }
      refine ⟨⟨c.id, (card source c s).1⟩ :: os, ?_, ?_, ?_⟩
      · rw [List.map_cons, hc, hos]
        rfl
      · rw [cardsFrom, gather]
        dsimp only
        rw [hsettle]
        exact hfailure
      · rw [cardsFrom, gather]
        dsimp only
        rw [hsettle]
        exact hresult

/-- A run of cards puts together what they come to by themselves, however the pages look. -/
theorem cards_gather (source : Source α) (keepGoing : Bool) (cs : List Card) :
    let run := cards source keepGoing cs (start source)
    let all := gather keepGoing cs.length (verdicts source cs) {}
    run.1 = all.1 ∧ run.2.1.outline = all.2.outline := by
  let r : RenderResult α := {}
  obtain ⟨os, hos, hfailure, hresult⟩ :=
    cardsFrom_gather keepGoing cs.length cs (settled_start source) r
  obtain ⟨hsame, houtline⟩ :=
    gather_outline keepGoing cs.length hos (rfl : r.outline = r.outline)
  exact ⟨hfailure.trans hsame, (congrArg _ hresult).trans houtline⟩

end Render

/-! Cards that come to no fault. -/

theorem TextStyle.plain_builtins {name : String} {xs : List (TextStyle α)}
    (h : builtins.lookup name = some xs) : ∀ x ∈ xs, x.texts = [] ∧ x.condition? = none := by
  have hall : ∀ e ∈ (builtins : List (String × List (TextStyle α))),
      ∀ x ∈ e.2, x.texts = [] ∧ x.condition? = none := by
    intro e he
    rcases List.mem_append.mp he with he | he
    · simp only [List.mem_cons, List.not_mem_nil, or_false] at he
      rcases he with rfl | rfl | rfl | rfl <;> simp [bold, italic, texts, condition?]
    · obtain ⟨⟨name, color⟩, -, rfl⟩ := List.mem_map.mp he
      simp [texts, condition?, ColorRef.texts]
  obtain ⟨front, rest, hl, -⟩ := List.lookup_eq_some_iff.mp h
  exact hall (name, xs) (by rw [hl]; simp)

variable [Scalar α]

def Layout.IsRead (l : Layout α) : Prop :=
  ∃ document name source ws, (Layout.ofDocument document name source).outcome = (.ok l, ws)

def TextStyle.IsRead (x : TextStyle α) : Prop := ∃ e ws, (TextStyle.ofXml e).outcome = (.ok x, ws)

namespace Source

/-- Its layouts and styles were read. -/
structure IsRead (source : Source α) : Prop where
  layouts : ∀ name l, source.project.layouts.get? name = some l → l.IsRead
  styles : ∀ name xs, source.project.styles.get? name = some xs → ∀ x ∈ xs, x.IsRead

/-- The card's layout has a resolution, every text that it may need is filled in, and pictures have
some size. -/
structure Steady (source : Source α) (c : Card) : Prop where
  dpi : ∀ l, source.project.layoutFor c = .ok l → Scalar.isZero l.geometry.dpi = false
  texts : ∀ l, source.project.layoutFor c = .ok l → ∀ t ∈ l.texts, t.Fills c
  named : ∀ name xs, source.project.styles.get? name = some xs →
    ∀ x ∈ xs, ∀ t ∈ x.texts, t.Fills c
  pictures : ∀ path p, source.photos path = some p →
    Scalar.isZero (Scalar.ofNat p.width : α) = false ∧
      Scalar.isZero (Scalar.ofNat p.height : α) = false

variable {source : Source α} {c : Card} {l : Layout α}

theorem IsRead.layout (h : source.IsRead) (hl : source.project.layoutFor c = .ok l) :
    ∀ c ∈ l.conditions, c.IsKnown := by
  have hget : source.project.layouts.get? (c.layoutName.getD "default") = some l := by
    unfold Project.layoutFor at hl
    dsimp only at hl
    split at hl
    · rename_i hget
      cases hl
      exact hget
    · cases hl
  obtain ⟨document, name, path, ws, hread⟩ := h.layouts _ l hget
  exact Layout.ofDocument_gives document name path [] l ws hread

theorem IsRead.style (h : source.IsRead) {name : String} {xs : List (TextStyle α)}
    (hxs : source.project.styles.get? name = some xs) :
    ∀ c ∈ xs.filterMap TextStyle.condition?, c.IsKnown :=
  known_filterMap fun x hx => by
    obtain ⟨e, ws, hread⟩ := h.styles name xs hxs x hx
    exact TextStyle.ofXml_gives e [] x ws hread

theorem Steady.sound (h : source.Steady c) (hread : source.IsRead)
    (hl : source.project.layoutFor c = .ok l) : (Render.sceneOf source c l).Sound where
  texts := h.texts l hl
  conditions := hread.layout hl
  namedTexts name xs hxs x hx t ht := by
    rcases Option.or_eq_some_iff.mp hxs with hown | ⟨-, hbuiltin⟩
    · exact h.named name xs hown x hx t ht
    · rw [(TextStyle.plain_builtins hbuiltin x hx).1] at ht
      cases ht
  namedConditions name xs hxs := by
    rcases Option.or_eq_some_iff.mp hxs with hown | ⟨-, hbuiltin⟩
    · exact hread.style hown
    · refine known_filterMap fun x hx c hc => ?_
      rw [(TextStyle.plain_builtins hbuiltin x hx).2] at hc
      cases hc
  pictures := h.pictures

end Source

namespace Render

variable {source : Source α} {c : Card}

end Render

end CardPress
