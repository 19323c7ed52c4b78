import CardPress.Proofs.Render.KeepGoing
import Mathlib.Data.List.Nodup

/-! How cards that are rendered together are parted into those that worked and those that failed,
whoever renders them and when. -/
namespace CardPress.Render

variable {α : Type} [Scalar α] {source : Source α} {cs : List Card} {keepGoing : Bool} {c : Card}

/-- Each card may be begun at any time of a run, when others have left what they will. -/
theorem gather_begun (source : Source α) (keepGoing : Bool) (cs : List Card)
    (begun : Card → RunState α) (h : ∀ c ∈ cs, Settled source (begun c)) :
    let all := gather keepGoing cs.length (cs.map fun c => ⟨c.id, (card source c (begun c)).1⟩) {}
    let run := cards source keepGoing cs (start source)
    all.1 = run.1 ∧ all.2.outline = run.2.1.outline := by
  have hsame : (cs.map fun c => Verdict.mk c.id (card source c (begun c)).1).map Verdict.outline =
      (verdicts source cs).map Verdict.outline := by
    unfold verdicts
    rw [List.map_map, List.map_map]
    exact List.map_congr_left fun c hc => congrArg (Prod.mk c.id) (card_alone (h c hc) c)
  let r : RenderResult α := {}
  obtain ⟨hfailure, houtline⟩ := cards_gather source keepGoing cs
  obtain ⟨hfailure', houtline'⟩ :=
    gather_outline keepGoing cs.length hsame (rfl : r.outline = r.outline)
  exact ⟨hfailure'.trans hfailure.symm, houtline'.trans houtline.symm⟩

/-- The first card that fails ends the run. -/
theorem cards_stop {before : List Card} (after : List Card) {f : Failure}
    (hbefore : ∀ b ∈ before, ∃ r, alone source b = .ok r) (hc : alone source c = .error f) :
    (cards source false (before ++ c :: after) (start source)).1 = some f := by
  have hnone : ∀ o ∈ verdicts source before, o.stop false = none := by
    intro o ho
    obtain ⟨b, hb, rfl⟩ := List.mem_map.mp ho
    obtain ⟨r, hr⟩ := hbefore b hb
    unfold Verdict.stop
    dsimp only
    rw [hr]
  have hstop : Verdict.stop false ⟨c.id, alone source c⟩ = some f := by
    unfold Verdict.stop
    dsimp only
    rw [hc]
    cases f <;> rfl
  have hsplit : verdicts source (before ++ c :: after) =
      verdicts source before ++ ⟨c.id, alone source c⟩ :: verdicts source after := by
    unfold verdicts
    rw [List.map_append, List.map_cons]
  rw [(cards_gather source false _).1, hsplit]
  have hgather := gather_collected (before.length + (after.length + 1)) (List.forall_mem_nil _) hnone
    (⟨c.id, alone source c⟩ :: verdicts source after)
  rw [gather_stop hstop] at hgather
  rw [List.length_append, List.length_cons]
  exact congrArg Prod.fst hgather

/-- Nothing but a fault ends a run that goes on past problems or has none. -/
theorem cards_goes_on (h : keepGoing = true ∨ ∀ c ∈ cs, ∃ r, alone source c = .ok r) :
    (cards source keepGoing cs (start source)).1 = none ∨
      ∃ fault, (cards source keepGoing cs (start source)).1 = some (.fault fault) := by
  rw [(cards_gather source keepGoing cs).1]
  obtain ⟨-, hall⟩ | ⟨before, o, rest, f, hsplit, -, hstop, hall⟩ :=
    gather_cases keepGoing cs.length (verdicts source cs)
  · exact .inl (congrArg Prod.fst hall)
  rcases h with rfl | h
  · obtain ⟨-, fault, rfl⟩ := Verdict.stop_eq_some hstop
    exact .inr ⟨fault, congrArg Prod.fst hall⟩
  · have ho : o ∈ verdicts source cs := hsplit ▸ List.mem_append_right _ List.mem_cons_self
    obtain ⟨c, hc, rfl⟩ := List.mem_map.mp ho
    obtain ⟨r, hr⟩ := h c hc
    unfold Verdict.stop at hstop
    dsimp only at hstop
    rw [hr] at hstop
    cases hstop

/-- A run that stops at problems goes through all cards only if every card works. -/
theorem cards_all_work (h : (cards source false cs (start source)).1 = none) :
    ∀ c ∈ cs, ∃ r, alone source c = .ok r := by
  rw [(cards_gather source false cs).1] at h
  obtain ⟨hnone, -⟩ | ⟨before, o, rest, f, -, -, -, hall⟩ :=
    gather_cases false cs.length (verdicts source cs)
  · intro c hc
    obtain ⟨r, hr, -⟩ | ⟨_, hkeep, -⟩ := Verdict.cases_of_stop
      (hnone ⟨c.id, alone source c⟩ (List.mem_map_of_mem hc))
    · exact ⟨r, hr⟩
    · cases hkeep
  · rw [hall] at h
    cases h

/-- Every card that works is rendered and every other one has failed, both in order. -/
structure Parts (source : Source α) (cs : List Card) (r : RenderResult α) : Prop where
  rendered : r.rendered.map RenderedCard.outline =
    cs.filterMap fun c => (alone source c).toOption.map RenderedCard.outline
  failures : r.failures = cs.filterMap fun c => Verdict.failure? ⟨c.id, alone source c⟩
  renderedIds : r.rendered.map RenderedCard.id =
    (cs.map Card.id).filter fun id => id ∉ r.failures.map RenderFailure.id
  failedIds : r.failures.map RenderFailure.id =
    (cs.map Card.id).filter fun id => id ∉ r.rendered.map RenderedCard.id

/-- Things of a kind by their names, if no two have one name. -/
theorem filter_not_mem_map {β γ : Type} [DecidableEq γ] {f : β → γ} {xs : List β}
    (h : (xs.map f).Nodup) (kind other : β → Bool) (hkind : ∀ x ∈ xs, other x = !kind x) :
    (xs.map f).filter (fun y => y ∉ (xs.filter other).map f) = (xs.filter kind).map f := by
  rw [List.filter_map]
  refine congrArg (List.map f) (List.filter_congr fun x hx => ?_)
  have hiff : f x ∈ (xs.filter other).map f ↔ other x = true := by
    refine ⟨fun hmem => ?_, fun hother => List.mem_map_of_mem (List.mem_filter.mpr ⟨hx, hother⟩)⟩
    obtain ⟨y, hy, hyx⟩ := List.mem_map.mp hmem
    obtain ⟨hy, hother⟩ := List.mem_filter.mp hy
    rwa [← List.inj_on_of_nodup_map h hy hx hyx]
  simp only [Function.comp_apply, hiff, hkind x hx]
  cases kind x <;> rfl

theorem filterMap_eq_map_filter {β γ : Type} {f : β → Option γ} {g : β → γ} {kind : β → Bool}
    {xs : List β} (h : ∀ x ∈ xs, f x = bif kind x then some (g x) else none) :
    xs.filterMap f = (xs.filter kind).map g := by
  induction xs with
  | nil => rfl
  | cons x xs ih =>
    have hx := h x List.mem_cons_self
    have hxs := ih fun y hy => h y (List.mem_cons_of_mem _ hy)
    cases hk : kind x with
    | true =>
      rw [List.filterMap_cons_some (by rw [hx, hk, cond_true]), List.filter_cons_of_pos hk,
        List.map_cons, hxs]
    | false =>
      rw [List.filterMap_cons_none (by rw [hx, hk, cond_false]),
        List.filter_cons_of_neg (Bool.not_eq_true _ ▸ hk), hxs]

theorem cards_parts (hnodup : (cs.map Card.id).Nodup)
    (h : (cards source keepGoing cs (start source)).1 = none) :
    Parts source cs (cards source keepGoing cs (start source)).2.1 := by
  obtain ⟨hfailure, houtline⟩ := cards_gather source keepGoing cs
  obtain ⟨hnone, hall⟩ | ⟨before, o, rest, f, -, -, -, hall⟩ :=
    gather_cases keepGoing cs.length (verdicts source cs)
  · rw [hall] at houtline
    simp only [RenderResult.outline, Prod.mk.injEq] at houtline
    obtain ⟨hrendered, hfailures, -⟩ := houtline
    rw [rendered_verdicts, List.map_filterMap] at hrendered
    rw [failures_verdicts] at hfailures
    let works (c : Card) : Bool := (alone source c).toOption.isSome
    have hrenderedIds : (cards source keepGoing cs (start source)).2.1.rendered.map RenderedCard.id =
        (cs.filter works).map Card.id := by
      have hfst := congrArg (List.map Prod.fst) hrendered
      rw [List.map_map, List.map_filterMap] at hfst
      refine hfst.trans (filterMap_eq_map_filter fun c _ => ?_)
      dsimp only [works]
      cases hc : alone source c with
      | error f => rfl
      | ok r =>
        obtain ⟨layout, -, -, hid, -⟩ := layout_of_card hc
        exact congrArg some hid
    have hfailedIds : (cards source keepGoing cs (start source)).2.1.failures.map RenderFailure.id =
        (cs.filter fun c => !works c).map Card.id := by
      rw [hfailures, List.map_filterMap]
      refine filterMap_eq_map_filter fun c hc => ?_
      dsimp only [works]
      obtain ⟨r, hr, -, hfailure⟩ | ⟨p, -, hp, -, hfailure⟩ := Verdict.cases_of_stop
        (hnone ⟨c.id, alone source c⟩ (List.mem_map_of_mem hc))
      · replace hr : alone source c = .ok r := hr
        rw [hfailure, hr]
        rfl
      · replace hp : alone source c = .error (.problem p) := hp
        rw [hfailure, hp]
        rfl
    refine ⟨hrendered, hfailures, ?_, ?_⟩
    · rw [hrenderedIds, hfailedIds, filter_not_mem_map hnodup works _ fun _ _ => rfl]
    · rw [hrenderedIds, hfailedIds, filter_not_mem_map hnodup _ works fun _ _ => (Bool.not_not _).symm]
  · rw [hfailure, hall] at h
    cases h

end CardPress.Render
