import CardPress.Proofs.Command.Stages
import CardPress.Proofs.Render.Jobs

/-! What a run delivers: the cards of its selection, each once, and the deck in the order of the
selection. -/
namespace CardPress.Run

open Render

variable {s : RunSettings} {tree : FileTree} {project : Project Float} {ws : List Warning}
  {sheet : Option (Sheet Float)} {ids : List String} {q : Progression}

/-! How a run ends. -/

theorem perform_of_ok {status : Nat} (h : (pipeline s).outcome { tree } = (.ok status, q)) :
    perform s tree = ⟨.finished status, q.output, "", q.warnings, q.tree⟩ := by
  unfold perform
  unfold outcome at h
  rw [h]

theorem perform_of_problem {problem : Problem}
    (h : (pipeline s).outcome { tree } = (.error (.problem problem), q)) :
    perform s tree =
      ⟨.finished 2, q.output, "Error: " ++ problem.message ++ "\n", q.warnings, q.tree⟩ := by
  unfold perform
  unfold outcome at h
  rw [h]

theorem perform_of_fault {fault : Fault}
    (h : (pipeline s).outcome { tree } = (.error (.fault fault), q)) :
    (perform s tree).ending = .failed (.fault fault) := by
  unfold perform
  unfold outcome at h
  rw [h]

/-- A run that ends with status 2 and tells of a problem. -/
structure Aborted (problem : Problem) (e : Execution) : Prop where
  ending : e.ending = .finished 2
  told : e.errorOutput = "Error: " ++ problem.message ++ "\n"

/-- A run that ends before any card is rendered, where preparing it came to a problem. -/
def EndsEarly (s : RunSettings) (tree : FileTree) (e : Execution) : Prop :=
  ∃ problem q, (prepare s).outcome { tree } = (.error (.problem problem), q) ∧ Aborted problem e ∧
    e.output = q.output ∧ e.tree = tree

/-- A run that has gone through its cards. It gives up if the cards cannot be put on the sheet, and
its status tells whether cards failed if not. -/
structure Finishes (s : RunSettings) (tree : FileTree) (sheet : Option (Sheet Float))
    (ids : List String) (source : Source Float) (cards : List Card) (r : RenderResult Float)
    (e : Execution) : Prop where
  parts : Parts source cards r
  order : (inOrder ids r.rendered).map RenderedCard.id =
    ids.filter fun id => id ∉ r.failures.map RenderFailure.id
  lacksSlots : LacksSlots sheet (inOrder ids r.rendered) →
    Aborted (.configuration .noSlots none) e ∧ ∃ stems, tree.Holds
      (r.rendered.flatMap (cardFiles s (Path.ofString s.outputFolder) stems)) e.tree
  delivered : ¬ LacksSlots sheet (inOrder ids r.rendered) →
    Delivered s tree sheet ids r.rendered e.tree ∧
      e.ending = .finished (if r.failures.isEmpty then 0 else 1) ∧
      ∃ before, e.output = before ++ .timing :: failureReport r.failures

/-- A run that renders the cards of a selection, each once. -/
structure Renders (s : RunSettings) (tree : FileTree) (project : Project Float)
    (sheet : Option (Sheet Float)) (ids : List String) (e : Execution) : Prop where
  once : (chosen project ids).map Card.id = ids.eraseDups
  jobs : ∀ begun : Card → RunState Float,
    (∀ c ∈ chosen project ids, Settled (sourceOf project tree) (begun c)) →
    let run := cards (sourceOf project tree) s.keepGoing (chosen project ids)
      (start (sourceOf project tree))
    let all := gather s.keepGoing (chosen project ids).length ((chosen project ids).map fun c =>
      ⟨c.id, (card (sourceOf project tree) c (begun c)).1⟩) {}
    all.1 = run.1 ∧ all.2.outline = run.2.1.outline
  stops : s.keepGoing = false → ∀ before c after f, chosen project ids = before ++ c :: after →
    (∀ b ∈ before, ∃ r, alone (sourceOf project tree) b = .ok r) →
    alone (sourceOf project tree) c = .error f →
    ∃ problem, f = .problem problem ∧ Aborted problem e ∧ e.tree = tree
  succeeds : s.keepGoing = false → e.ending = .finished 0 →
    ∀ c ∈ chosen project ids, ∃ r, alone (sourceOf project tree) c = .ok r
  finishes : (s.keepGoing = true ∨
      ∀ c ∈ chosen project ids, ∃ r, alone (sourceOf project tree) c = .ok r) →
    Finishes s tree sheet ids (sourceOf project tree) (chosen project ids)
      (cards (sourceOf project tree) s.keepGoing (chosen project ids)
        (start (sourceOf project tree))).2.1 e

/-- What becomes of a selection: a run ends early if there is no card for one of its ids, or if it
cannot be read, or if there is no sheet as it is asked for; its cards are rendered if not. -/
structure Follows (s : RunSettings) (tree : FileTree) (project : Project Float) (e : Execution) :
    Prop where
  unknown : ∀ ids, wanted s project tree = .ok ids →
    (∃ id ∈ ids, project.cards.contains id = false) → EndsEarly s tree e
  noSelection : ∀ f, wanted s project tree = .error f → EndsEarly s tree e
  noSheet : ∀ f, sheetAsked s project = .error f → EndsEarly s tree e
  renders : ∀ sheet ids, sheetAsked s project = .ok sheet → wanted s project tree = .ok ids →
    (∀ id ∈ ids, project.cards.contains id = true) → Renders s tree project sheet ids e

/-! From the stages to the whole run. -/

/-- What a run does once it is prepared. -/
def complete (s : RunSettings) (task : Task) : Run Nat := do
  let result ← render s task.project task.ids
  deliver s task result.rendered
  conclude result.failures

theorem pipeline_eq (s : RunSettings) : pipeline s = prepare s >>= complete s := rfl

/-- Rendering comes to what the cards come to. -/
theorem rendering_eq_ok {keepGoing : Bool} {source : Source Float} {cs : List Card}
    {r : RenderResult Float} (h : rendering keepGoing source cs = .ok r) :
    (cards source keepGoing cs (start source)).1 = none ∧
      r = (cards source keepGoing cs (start source)).2.1 := by
  unfold rendering at h
  dsimp only at h
  split at h
  · cases h
  · rename_i hnone
    cases h
    exact ⟨hnone, rfl⟩

theorem rendering_eq_error {keepGoing : Bool} {source : Source Float} {cs : List Card} {f : Failure}
    (h : rendering keepGoing source cs = .error f) :
    (cards source keepGoing cs (start source)).1 = some f := by
  unfold rendering at h
  dsimp only at h
  split at h
  · rename_i f' hf
    cases h
    exact hf
  · cases h

theorem complete_ends (hown : project.OwnIds)
    (hknown : ∀ id ∈ ids, project.cards.contains id = true) :
    Ends (complete s ⟨project, sheet, ids⟩) q fun e u =>
      (∃ f, rendering s.keepGoing (sourceOf project q.tree) (chosen project ids) = .error f ∧
          e = .error f ∧ u.tree = q.tree) ∨
        ∃ r, rendering s.keepGoing (sourceOf project q.tree) (chosen project ids) = .ok r ∧
          ((LacksSlots sheet (inOrder ids r.rendered) ∧ e = .error (.configuration .noSlots) ∧
              ∃ stems, q.tree.Holds
                (r.rendered.flatMap (cardFiles s (Path.ofString s.outputFolder) stems)) u.tree) ∨
            (¬ LacksSlots sheet (inOrder ids r.rendered) ∧
              e = .ok (if r.failures.isEmpty then 0 else 1) ∧
              Delivered s q.tree sheet ids r.rendered u.tree ∧
              ∃ before, u.output = before ++ .timing :: failureReport r.failures)) := by
  have hids : ((chosen project ids).map Card.id).Nodup := by
    rw [ids_chosen hown hknown]
    exact nodup_eraseDups ids
  refine Ends.bind (render_reads s hknown) (fun r u ⟨hr, hu⟩ => ?_) fun f u ⟨hf, hu⟩ =>
    .inl ⟨f, hf.symm, rfl, hu⟩
  obtain ⟨hnone, hrun⟩ := rendering_eq_ok hr.symm
  have hnodup : (r.rendered.map RenderedCard.id).Nodup := by
    rw [hrun, (cards_parts hids hnone).renderedIds]
    exact hids.filter _
  rw [← hu]
  refine (deliver_ends hnodup).bind (fun _ v hv => ?_) fun f v hv => .inr ⟨r, hu ▸ hr.symm, ?_⟩
  · obtain ⟨he, -⟩ | ⟨-, hdelivered⟩ := hv
    · cases he
    · unfold Ends
      rw [conclude_outcome]
      obtain ⟨stems, deck, hdeck, -⟩ := id hdelivered
      exact .inr (.inr ⟨r, hu ▸ hr.symm, .inr ⟨hdeck.not_lacksSlots, rfl, hdelivered, v.output, rfl⟩⟩)
  · obtain ⟨he, hlacks, hcards⟩ | ⟨he, -⟩ := hv
    · cases he
      exact .inl ⟨hlacks, rfl, hcards⟩
    · cases he

/-- A run without faults is prepared as it was planned. -/
theorem prepare_of_planned
    (hload : (Project.load tree (Path.ofString s.projectFolder)).outcome = (.ok project, ws))
    (hfault : ∀ f, (perform s tree).ending ≠ .failed f) :
    ∃ q, (prepare s).outcome { tree } = (planned s project tree, q) ∧ q.tree = tree := by
  have hprepared := prepare_reads (p := { tree }) hload
  rcases hprepare : (prepare s).outcome { tree } with ⟨e, q⟩
  unfold Reads Ends at hprepared
  rw [hprepare] at hprepared
  obtain ⟨fault, rfl⟩ | ⟨rfl, htree⟩ := hprepared
  · exact absurd (perform_of_fault (outcome_of_error hprepare)) (hfault _)
  · exact ⟨q, rfl, htree⟩

theorem perform_ends_early
    (hload : (Project.load tree (Path.ofString s.projectFolder)).outcome = (.ok project, ws))
    (hfault : ∀ f, (perform s tree).ending ≠ .failed f) {f : Failure}
    (hplanned : planned s project tree = .error f) : EndsEarly s tree (perform s tree) := by
  obtain ⟨q, hprepare, htree⟩ := prepare_of_planned hload hfault
  rw [hplanned] at hprepare
  have hpipeline : (pipeline s).outcome { tree } = (.error f, q) := outcome_of_error hprepare
  cases f with
  | fault fault => exact absurd (perform_of_fault hpipeline) (hfault _)
  | problem problem =>
    rw [perform_of_problem hpipeline]
    exact ⟨problem, q, hprepare, ⟨rfl, rfl⟩, rfl, htree⟩

/-- The ids of a deck are those of the selection without the ones that failed. -/
theorem order_of_parts {source : Source Float} {r : RenderResult Float}
    (honce : (chosen project ids).map Card.id = ids.eraseDups)
    (h : Parts source (chosen project ids) r) :
    (inOrder ids r.rendered).map RenderedCard.id =
      ids.filter fun id => id ∉ r.failures.map RenderFailure.id := by
  rw [ids_inOrder]
  refine List.filter_congr fun id hid => ?_
  have hiff : id ∈ r.rendered.map RenderedCard.id ↔ id ∉ r.failures.map RenderFailure.id := by
    rw [h.renderedIds, honce, List.mem_filter, List.mem_eraseDups, decide_eq_true_iff]
    exact and_iff_right hid
  exact decide_eq_decide.mpr hiff

theorem perform_renders
    (hload : (Project.load tree (Path.ofString s.projectFolder)).outcome = (.ok project, ws))
    (hfault : ∀ f, (perform s tree).ending ≠ .failed f)
    (hknown : ∀ id ∈ ids, project.cards.contains id = true)
    (hplanned : planned s project tree = .ok ⟨project, sheet, ids⟩) :
    Renders s tree project sheet ids (perform s tree) := by
  have hown : project.OwnIds :=
    Project.load_ownIds tree (Path.ofString s.projectFolder) [] project ws hload
  have honce := ids_chosen hown hknown
  have hids : ((chosen project ids).map Card.id).Nodup := honce ▸ nodup_eraseDups ids
  obtain ⟨q, hprepare, htree⟩ := prepare_of_planned hload hfault
  rw [hplanned] at hprepare
  have hpipeline : (pipeline s).outcome { tree } = (complete s ⟨project, sheet, ids⟩).outcome q :=
    outcome_of_ok hprepare
  have hends : Ends (complete s ⟨project, sheet, ids⟩) q _ := complete_ends hown hknown
  unfold Ends at hends
  rw [htree] at hends
  rcases hcomplete : (complete s ⟨project, sheet, ids⟩).outcome q with ⟨e, u⟩
  rw [hcomplete] at hpipeline hends
  have hjobs := gather_begun (sourceOf project tree) s.keepGoing (chosen project ids)
  obtain ⟨fault, rfl⟩ | ⟨f, hrendering, rfl, hu⟩ | ⟨r, hrendering, hfinal⟩ := hends
  · exact absurd (perform_of_fault hpipeline) (hfault _)
  · obtain ⟨problem, rfl⟩ : ∃ problem, f = .problem problem := by
      cases f with
      | fault fault => exact absurd (perform_of_fault hpipeline) (hfault _)
      | problem problem => exact ⟨problem, rfl⟩
    rw [perform_of_problem hpipeline]
    have hfailure := rendering_eq_error hrendering
    refine ⟨honce, hjobs, fun hkeep before c after f hsplit hbefore hc => ?_, fun _ hends => ?_,
      fun hgoes => ?_⟩
    · have hstop := cards_stop after hbefore hc
      rw [hkeep, hsplit, hstop] at hfailure
      cases hfailure
      exact ⟨problem, rfl, ⟨rfl, rfl⟩, hu⟩
    · cases hends
    · obtain hnone | ⟨fault, hsome⟩ := cards_goes_on hgoes
      · rw [hnone] at hfailure
        cases hfailure
      · rw [hsome] at hfailure
        cases hfailure
  · obtain ⟨hnone, rfl⟩ := rendering_eq_ok hrendering
    have hparts := cards_parts hids hnone
    refine ⟨honce, hjobs, fun hkeep before c after f hsplit hbefore hc => ?_, fun hkeep _ =>
      cards_all_work (hkeep ▸ hnone), fun hgoes =>
      ⟨hparts, order_of_parts honce hparts, fun hlacks => ?_, fun hlacks => ?_⟩⟩
    · have hstop := cards_stop after hbefore hc
      rw [hkeep, hsplit, hstop] at hnone
      cases hnone
    · obtain ⟨-, rfl, hfiles⟩ | ⟨hroom, -⟩ := hfinal
      · rw [perform_of_problem hpipeline]
        exact ⟨⟨rfl, rfl⟩, hfiles⟩
      · exact absurd hlacks hroom
    · obtain ⟨hlacking, -⟩ | ⟨-, rfl, hdelivered, htold⟩ := hfinal
      · exact absurd hlacking hlacks
      · rw [perform_of_ok hpipeline]
        exact ⟨hdelivered, rfl, htold⟩

/-- The pipeline delivers what was selected. -/
theorem perform_follows
    (hload : (Project.load tree (Path.ofString s.projectFolder)).outcome = (.ok project, ws))
    (hfault : ∀ f, (perform s tree).ending ≠ .failed f) :
    Follows s tree project (perform s tree) where
  unknown ids hwanted hunknown := by
    obtain ⟨id, -, hselected⟩ := selected_of_unknown hwanted hunknown
    obtain ⟨f, hplanned⟩ := planned_of_no_selection hselected
    exact perform_ends_early hload hfault hplanned
  noSelection f hwanted := by
    have hselected : selected s project tree = .error f := by
      rw [selected, hwanted]
      rfl
    obtain ⟨f, hplanned⟩ := planned_of_no_selection hselected
    exact perform_ends_early hload hfault hplanned
  noSheet f hsheet := by
    have hplanned : planned s project tree = .error f := by
      rw [planned, hsheet]
      rfl
    exact perform_ends_early hload hfault hplanned
  renders sheet ids hsheet hwanted hknown :=
    perform_renders hload hfault hknown (planned_of_known hsheet hwanted hknown)

/-- A project with three cards, one of a layout that is missing, and a sheet with two slots. -/
def cardFolder : FileTree where
  files := [
    (["p", "layouts", "default.xml"],
      "<layout><geometry width=\"9\" height=\"9\" dpi=\"72\"/></layout>"),
    (["p", "data", "cards.csv"], "id,layout\nA,\nB,gone\nC,\n"),
    (["p", "project.xml"],
      "<project><sheet-type name=\"s\"><page-size width=\"8\" height=\"8\"/>" ++
        "<card-size width=\"1\" height=\"1\"/>" ++
        "<manual><card x=\"0\" y=\"0\"/><card x=\"1\" y=\"0\"/></manual></sheet-type></project>")].map
    fun (path, text) => (path, .bytes text.toUTF8.toList)

/-- The cards of the folder that are asked for, on sheets of a type. -/
def asked (sheetType : String) : RunSettings where
  projectFolder := "p"
  outputFolder := "out"
  sheetType := some sheetType
  cardIds := some ["A", "B", "A", "C"]
  keepGoing := true

/-- What was loaded from the folder. -/
def cardProject : Except Failure (Project Float) × List Warning :=
  (Project.load cardFolder (Path.ofString "p")).outcome

/-- It has all the cards, of which one fails, and it has one of the two sheets. -/
theorem cardProject_loaded : ∃ project ws sheet f, cardProject = (.ok project, ws) ∧
    (∀ id ∈ ["A", "B", "A", "C"], project.cards.contains id = true) ∧
    sheetAsked (asked "s") project = .ok sheet ∧ sheetAsked (asked "nope") project = .error f ∧
    ((chosen project ["A", "B", "A", "C"]).filterMap fun c => Verdict.failure?
      ⟨c.id, alone (sourceOf project cardFolder) c⟩).map RenderFailure.id = ["B"] := by
  have hall : (cardProject.1.toOption.any fun p =>
      ["A", "B", "A", "C"].all p.cards.contains && (sheetAsked (asked "s") p).isOk &&
        !(sheetAsked (asked "nope") p).isOk &&
        ((chosen p ["A", "B", "A", "C"]).filterMap fun c => Verdict.failure?
          ⟨c.id, alone (sourceOf p cardFolder) c⟩).map RenderFailure.id == ["B"]) = true := by
    decide +kernel
  rcases hloaded : cardProject with ⟨f | project, ws⟩ <;> rw [hloaded] at hall
  · cases hall
  · obtain ⟨hall, hfailed⟩ := Bool.and_eq_true_iff.mp hall
    obtain ⟨hall, hnope⟩ := Bool.and_eq_true_iff.mp hall
    obtain ⟨hknown, hsheet⟩ := Bool.and_eq_true_iff.mp hall
    cases hasked : sheetAsked (asked "s") project <;> rw [hasked] at hsheet
    · cases hsheet
    cases hother : sheetAsked (asked "nope") project <;> rw [hother] at hnope
    · exact ⟨project, ws, _, _, rfl, List.all_eq_true.mp hknown, hasked, hother, beq_iff_eq.mp hfailed⟩
    · cases hnope

/-- The card that fails leaves its place in the deck to those after it. -/
theorem perform_follows_keeping_going : ∃ project sheet r,
    Finishes (asked "s") cardFolder sheet ["A", "B", "A", "C"] (sourceOf project cardFolder)
      (chosen project ["A", "B", "A", "C"]) r (perform (asked "s") cardFolder) ∧
    r.failures.map RenderFailure.id = ["B"] ∧
    (inOrder ["A", "B", "A", "C"] r.rendered).map RenderedCard.id = ["A", "A", "C"] ∧
    (perform (asked "s") cardFolder).ending = .finished 1 := by
  obtain ⟨project, ws, sheet, f, hloaded, hknown, hsheet, -, hfailed⟩ := cardProject_loaded
  have hending : (perform (asked "s") cardFolder).ending = .finished 1 := by decide +kernel
  have hfollows := perform_follows (s := asked "s") hloaded fun f hf => by
    rw [hending] at hf
    cases hf
  have hfinishes := (hfollows.renders sheet ["A", "B", "A", "C"] hsheet rfl hknown).finishes (.inl rfl)
  have hfailures := congrArg (List.map RenderFailure.id) hfinishes.parts.failures
  rw [hfailed] at hfailures
  refine ⟨project, sheet, _, hfinishes, hfailures, ?_, hending⟩
  rw [hfinishes.order, hfailures]
  rfl

/-- No card is rendered if there is no sheet of the type that is asked for, though each has an id that is
known. -/
theorem perform_unknown_sheet : ∃ project ws,
    (Project.load cardFolder (Path.ofString (asked "nope").projectFolder)).outcome = (.ok project, ws) ∧
    (∀ f, (perform (asked "nope") cardFolder).ending ≠ .failed f) ∧
    wanted (asked "nope") project cardFolder = .ok ["A", "B", "A", "C"] ∧
    (∀ id ∈ ["A", "B", "A", "C"], project.cards.contains id = true) ∧
    EndsEarly (asked "nope") cardFolder (perform (asked "nope") cardFolder) := by
  obtain ⟨project, ws, _, f, hloaded, hknown, -, hsheet, -⟩ := cardProject_loaded
  have hending : (perform (asked "nope") cardFolder).ending = .finished 2 := by decide +kernel
  have hfault : ∀ f, (perform (asked "nope") cardFolder).ending ≠ .failed f := by
    rw [hending]
    exact nofun
  have hplanned : planned (asked "nope") project cardFolder = .error f := by
    rw [planned, hsheet]
    rfl
  exact ⟨project, ws, hloaded, hfault, rfl, hknown, perform_ends_early hloaded hfault hplanned⟩

end CardPress.Run
