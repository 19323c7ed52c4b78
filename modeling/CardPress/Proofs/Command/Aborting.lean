import CardPress.Proofs.Command.Delivery

/-! What an aborted run leaves behind: nothing, unless it finds out that its sheet has no slots when the
files of the cards are written. -/
namespace CardPress.Run

open Render

variable {s : RunSettings} {tree : FileTree} {project : Project Float} {ids : List String}
  {words : List String} {p q : Progression} {f : Failure}

/-! Before any card is rendered. -/

theorem Reads.error {α β : Type} {r : Run α} (h : Reads r p (.error f)) (g : α → Run β) :
    Reads (r >>= g) p (.error f) :=
  Ends.bind h (fun _ _ ⟨ha, _⟩ => nomatch ha) fun _ _ ⟨hf, hq⟩ => ⟨congrArg _ (Except.error.inj hf), hq⟩

/-- A project that cannot be loaded ends the preparation. -/
theorem prepare_unloaded
    (hload : (Project.load tree (Path.ofString s.projectFolder) : Report (Project Float)).outcome.1 =
      .error f) : Reads (prepare s) { tree } (.error f) := by
  unfold prepare
  dsimp only
  refine (announce_reads s _).after fun q hq => Ends.of_ok outcome_get ?_
  refine Reads.error (.of_outcome ?_ rfl) _
  rw [hq, outcome_report, hload]

/-- What is to be done is settled by the files alone. -/
theorem prepare_plans (s : RunSettings) (tree : FileTree) :
    Reads (prepare s) { tree } (do
      let project ← (Project.load tree (Path.ofString s.projectFolder)).outcome.1
      planned s project tree) := by
  rcases hload : (Project.load tree (Path.ofString s.projectFolder) :
    Report (Project Float)).outcome with ⟨f | project, ws⟩
  · exact prepare_unloaded (congrArg Prod.fst hload)
  · exact prepare_reads (p := { tree }) hload

/-- Of a selection all cards are known. -/
theorem known_of_selected (h : selected s project tree = .ok ids) :
    ∀ id ∈ ids, project.cards.contains id = true := by
  obtain ⟨ids', hwanted, h⟩ := bind_eq_ok.mp h
  obtain ⟨⟨⟩, hknown, h⟩ := bind_eq_ok.mp h
  cases h
  by_contra hunknown
  obtain ⟨id, hid, hnot⟩ : ∃ id ∈ ids, project.cards.contains id = false := by
    simpa using hunknown
  obtain ⟨other, -, hfails⟩ := forM_unknown ⟨id, hid, hnot⟩
  rw [hknown] at hfails
  cases hfails

theorem task_of_planned {task : Task} (h : planned s project tree = .ok task) :
    task.project = project ∧ ∀ id ∈ task.ids, project.cards.contains id = true := by
  obtain ⟨sheet, -, h⟩ := bind_eq_ok.mp h
  obtain ⟨ids, hselected, h⟩ := bind_eq_ok.mp h
  cases h
  exact ⟨rfl, known_of_selected hselected⟩

/-! The whole run. -/

/-- Cards were rendered for a sheet that has no slots. -/
structure FindsNoSlots (s : RunSettings) (tree : FileTree) (project : Project Float)
    (ids : List String) (r : RenderResult Float) : Prop where
  loaded : (Project.load tree (Path.ofString s.projectFolder)).outcome.1 = .ok project
  planned : ∃ sheet, planned s project tree = .ok ⟨project, some sheet, ids⟩ ∧ sheet.slots = []
  rendering : rendering s.keepGoing (sourceOf project tree) (chosen project ids) = .ok r
  rendered : r.rendered ≠ []

/-- What a run that is given up leaves behind: all as it was, or the files of the cards where their sheet
turned out to have no slots, and of a deck nothing. -/
inductive GivenUp (s : RunSettings) (tree tree' : FileTree) : Prop where
  | early (htree : tree' = tree) (hnever : ∀ project ids r, ¬ FindsNoSlots s tree project ids r)
  | late (project : Project Float) (ids : List String) (r : RenderResult Float) (stems : Named String)
      (h : FindsNoSlots s tree project ids r)
      (hfiles : tree.Holds (r.rendered.flatMap (cardFiles s (Path.ofString s.outputFolder) stems)) tree')

/-- All cards that were rendered are in the order of the selection. -/
theorem inOrder_eq_nil {r : RenderResult Float}
    (hids : (chosen project ids).map Card.id = ids.eraseDups)
    (h : rendering s.keepGoing (sourceOf project tree) (chosen project ids) = .ok r) :
    inOrder ids r.rendered = [] ↔ r.rendered = [] := by
  obtain ⟨hnone, hrun⟩ := rendering_eq_ok h
  have hparts := cards_parts (hids ▸ nodup_eraseDups ids) hnone
  rw [← hrun] at hparts
  rw [← List.map_eq_nil_iff (f := RenderedCard.id), ids_inOrder, List.filter_eq_nil_iff,
    ← List.map_eq_nil_iff (f := RenderedCard.id), List.eq_nil_iff_forall_not_mem]
  refine ⟨fun hnot id hmem => ?_, fun hnot id _ hmem => hnot id (by simpa using hmem)⟩
  have hid : id ∈ ids := by
    rw [hparts.renderedIds, hids] at hmem
    exact List.mem_eraseDups.mp (List.mem_of_mem_filter hmem)
  exact hnot id hid (by simpa using hmem)

/-- The sheet without slots is the one of the task. -/
theorem task_of_findsNoSlots {task : Task} {project' : Project Float} {r : RenderResult Float}
    (hload : (Project.load tree (Path.ofString s.projectFolder)).outcome.1 = .ok project)
    (hplanned : planned s project tree = .ok task) (h : FindsNoSlots s tree project' ids r) :
    project' = project ∧ ids = task.ids := by
  cases h.loaded.symm.trans hload
  obtain ⟨sheet, hsheet, -⟩ := h.planned
  cases hsheet.symm.trans hplanned
  exact ⟨rfl, rfl⟩

/-- A run comes to a status below 2, or it is given up. -/
theorem pipeline_ends (s : RunSettings) (tree : FileTree) :
    Ends (pipeline s) { tree } fun e q =>
      (∃ status < 2, e = .ok status) ∨ (∃ f, e = .error f) ∧ GivenUp s tree q.tree := by
  rw [pipeline_eq]
  refine Ends.bind (prepare_plans s tree) (fun task u hu => ?_) fun f u hu =>
    .inr ⟨⟨f, rfl⟩, .early hu.2 fun project ids r hfinds => ?_⟩
  · obtain ⟨project, hload, hplanned⟩ := bind_eq_ok.mp hu.1.symm
    obtain ⟨rfl, hknown⟩ := task_of_planned hplanned
    have hown : task.project.OwnIds :=
      Project.load_ownIds tree (Path.ofString s.projectFolder) [] task.project _ (Prod.ext hload rfl)
    have hids := ids_chosen hown hknown
    refine (complete_ends hown hknown).mono fun e q hends => ?_
    rw [show u.tree = tree from hu.2] at hends
    obtain ⟨f, hrendering, rfl, hq⟩ | ⟨r, hrendering, hdelivering⟩ := hends
    · refine .inr ⟨⟨f, rfl⟩, .early hq fun project ids r hfinds => ?_⟩
      obtain ⟨rfl, rfl⟩ := task_of_findsNoSlots hload hplanned hfinds
      cases hrendering.symm.trans hfinds.rendering
    obtain ⟨⟨hsome, sheet, hsheet, hslots⟩, rfl, stems, hfiles⟩ | ⟨-, rfl, -⟩ := hdelivering
    · have hrendered : r.rendered ≠ [] := fun hnone => hsome ((inOrder_eq_nil hids hrendering).mpr hnone)
      exact .inr ⟨⟨_, rfl⟩, .late task.project task.ids r stems
        ⟨hload, ⟨sheet, by rw [hplanned, ← hsheet], hslots⟩, hrendering, hrendered⟩ hfiles⟩
    · exact .inl ⟨_, by split <;> decide, rfl⟩
  · obtain ⟨sheet, hsheet, -⟩ := hfinds.planned
    have hf := hu.1
    rw [hfinds.loaded] at hf
    cases hf.trans hsheet

theorem perform_aborted (h : (perform s tree).ending = .finished 2) :
    GivenUp s tree (perform s tree).tree := by
  have hends := pipeline_ends s tree
  unfold Ends at hends
  rcases hpipeline : (pipeline s).outcome { tree } with ⟨e, q⟩
  rw [hpipeline] at hends
  obtain ⟨fault, rfl⟩ | ⟨status, hstatus, rfl⟩ | ⟨⟨f, rfl⟩, hgivenUp⟩ := hends
  · rw [perform_of_fault hpipeline] at h
    cases h
  · rw [perform_of_ok hpipeline] at h
    cases h
    exact absurd hstatus (Nat.lt_irrefl 2)
  · cases f with
    | fault fault =>
      rw [perform_of_fault hpipeline] at h
      cases h
    | problem problem =>
      rw [perform_of_problem hpipeline]
      exact hgivenUp

theorem perform_ne_dismissed (s : RunSettings) (tree : FileTree) (status : Nat) :
    (perform s tree).ending ≠ .dismissed status := by
  rcases hpipeline : (pipeline s).outcome { tree } with ⟨f | done, q⟩
  · cases f with
    | problem problem =>
      rw [perform_of_problem hpipeline]
      exact nofun
    | fault fault =>
      rw [perform_of_fault hpipeline]
      exact nofun
  · rw [perform_of_ok hpipeline]
    exact nofun

/-- A run that ends with status 2 leaves everything as it was, unless it is told of a sheet without slots
by the time the files of its cards are written. -/
theorem execute_aborted
    (h : (execute tree words).ending = .finished 2 ∨ (execute tree words).ending = .dismissed 2) :
    (∃ d, RunSettings.ofArguments words = .error d ∧ (execute tree words).tree = tree) ∨
      ∃ s, RunSettings.ofArguments words = .ok s ∧ GivenUp s tree (execute tree words).tree := by
  cases hwords : RunSettings.ofArguments words with
  | error d => exact .inl ⟨d, rfl, by rw [execute, hwords]⟩
  | ok s =>
    rw [execute, hwords] at h ⊢
    exact .inr ⟨s, rfl, perform_aborted (h.resolve_right (perform_ne_dismissed s tree 2))⟩

/-- A project with a card and a sheet on which it does not fit. -/
def slotlessFolder : FileTree where
  files := [
    (["p", "layouts", "default.xml"],
      "<layout><geometry width=\"9\" height=\"9\" dpi=\"72\"/></layout>"),
    (["p", "data", "cards.csv"], "id\nA\n"),
    (["p", "project.xml"],
      "<project><sheet-type name=\"s\"><page-size width=\"1\" height=\"1\"/>" ++
        "<card-size width=\"2\" height=\"2\"/><automatic/></sheet-type></project>")].map
    fun (path, text) => (path, .bytes text.toUTF8.toList)

def slotlessWords : List String := ["p", "-o", "out", "-s", "s"]

/-- The run ends with status 2, and the image of the card is there. -/
theorem execute_writes_before_it_aborts :
    (execute slotlessFolder slotlessWords).ending = .finished 2 ∧
      (slotlessFolder.file? ["out", "png", "A.png"]).isSome = false ∧
      ((execute slotlessFolder slotlessWords).tree.file? ["out", "png", "A.png"]).isSome = true := by
  decide +kernel

/-- Of the sheet it is known that no card fits, but that counts only when the card has been written. -/
theorem execute_aborted_slotless : ∃ s project ids r stems,
    RunSettings.ofArguments slotlessWords = .ok s ∧ FindsNoSlots s slotlessFolder project ids r ∧
      slotlessFolder.Holds (r.rendered.flatMap (cardFiles s (Path.ofString s.outputFolder) stems))
        (execute slotlessFolder slotlessWords).tree := by
  have hends : (execute slotlessFolder slotlessWords).ending = .finished 2 := by decide +kernel
  have hwritten : (execute slotlessFolder slotlessWords).tree.files.length ≠
      slotlessFolder.files.length := by decide +kernel
  obtain ⟨d, -, htree⟩ | ⟨s, hwords, htree | ⟨project, ids, r, stems, hfinds, hfiles⟩⟩ :=
    execute_aborted (.inl hends)
  · exact absurd (by rw [htree]) hwritten
  · exact absurd (by rw [htree]) hwritten
  · exact ⟨s, project, ids, r, stems, hwords, hfinds, hfiles⟩

end CardPress.Run
