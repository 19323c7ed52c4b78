import CardPress.Proofs.Command.Outcome
import CardPress.Proofs.Files.Names
import CardPress.Proofs.Impose.Pages
import CardPress.Proofs.Project.Cards

/-! What each stage of a run comes to and which files it writes, from the selection to the deck. -/
namespace CardPress.Run

variable {s : RunSettings} {p : Progression} {tree : FileTree} {project : Project Float}
  {ids : List String} {ws : List Warning}

/-! Before any card is rendered. -/

/-- The sheet of the type that is asked for. -/
def sheetAsked (s : RunSettings) (project : Project Float) : Except Failure (Option (Sheet Float)) :=
  match s.sheetType.filter (· != "") with
  | none => .ok none
  | some name => do
    let t ← project.sheetType name
    let sheet ← t.compile.outcome.1
    return some sheet

/-- The ids that are asked for, if there is a card for each. -/
def selected (s : RunSettings) (project : Project Float) (tree : FileTree) :
    Except Failure (List String) := do
  let ids ← wanted s project tree
  ids.forM fun id => do
    let _ ← project.card id
  return ids

/-- What a run has to do, or why there is nothing to do. -/
def planned (s : RunSettings) (project : Project Float) (tree : FileTree) : Except Failure Task := do
  let sheet ← sheetAsked s project
  let ids ← selected s project tree
  return ⟨project, sheet, ids⟩

theorem announce_reads (s : RunSettings) (sheetType : Option String) :
    Reads (announce s sheetType) p (.ok ()) := by
  unfold announce
  cases sheetType <;> exact .of_outcome rfl rfl

theorem sheetFor_reads (s : RunSettings) (project : Project Float) :
    Reads (sheetFor project (s.sheetType.filter (· != ""))) p (sheetAsked s project) := by
  unfold sheetAsked
  cases s.sheetType.filter (· != "") with
  | none => exact .pure none
  | some name =>
    exact (Reads.lift _).bind fun t q _ => (Reads.report _).bind fun sheet u _ =>
      (Reads.say _).after fun v _ => .pure (some sheet)

theorem select_reads (s : RunSettings) (project : Project Float) :
    Reads (select s project) p (selected s project p.tree) := by
  unfold select selected
  refine Ends.of_ok outcome_get ((Reads.lift _).bind fun ids q _ => ?_)
  refine (Reads.forM ids fun id u _ => ?_).bind fun _ u _ => .pure ids
  exact (Reads.lift (project.card id)).bind fun _ v _ => .pure ()

theorem prepare_reads
    (hload : (Project.load p.tree (Path.ofString s.projectFolder)).outcome = (.ok project, ws)) :
    Reads (prepare s) p (planned s project p.tree) := by
  unfold prepare
  dsimp only
  unfold planned
  refine (announce_reads s _).after fun q hq => Ends.of_ok outcome_get ?_
  have hproject : Reads (report (Project.load q.tree (Path.ofString s.projectFolder))) q
      (.ok project) := .of_outcome (by rw [hq, outcome_report, hload]) rfl
  refine hproject.after fun q' hq' => (Reads.say _).after fun u hu => (Reads.say _).after fun v hv => ?_
  have htree : v.tree = p.tree := by rw [hv, hu, hq', hq]
  rw [← htree]
  refine (sheetFor_reads s project).bind fun sheet w hw => ?_
  rw [← hw]
  exact (select_reads s project).bind fun ids x _ => (Reads.say _).after fun y _ => .pure _

theorem card_of_contains {id : String} (h : project.cards.contains id = true) :
    ∃ c, project.cards.get? id = some c ∧ project.card id = .ok c := by
  obtain ⟨c, hc⟩ := Option.isSome_iff_exists.mp h
  exact ⟨c, hc, by rw [Project.card, hc]⟩

theorem forM_known (h : ∀ id ∈ ids, project.cards.contains id = true) :
    (ids.forM fun id => do
      let _ ← project.card id : Except Failure Unit) = .ok () := by
  induction ids with
  | nil => rfl
  | cons id rest ih =>
    obtain ⟨c, -, hc⟩ := card_of_contains (h id List.mem_cons_self)
    change ((project.card id >>= fun _ => _) >>= fun _ => _) = _
    rw [hc]
    exact ih fun id hid => h id (List.mem_cons_of_mem _ hid)

theorem forM_unknown (h : ∃ id ∈ ids, project.cards.contains id = false) :
    ∃ id ∈ ids, (ids.forM fun id => do
      let _ ← project.card id : Except Failure Unit) = .error (.problem (.noSuchCard id)) := by
  induction ids with
  | nil => simp at h
  | cons id rest ih =>
    cases hc : project.cards.get? id with
    | none =>
      refine ⟨id, List.mem_cons_self, ?_⟩
      change ((project.card id >>= fun _ => _) >>= fun _ => _) = _
      rw [Project.card, hc]
      rfl
    | some c =>
      have hrest : ∃ id ∈ rest, project.cards.contains id = false := by
        simpa [Named.contains, hc] using h
      obtain ⟨other, hother, hfails⟩ := ih hrest
      refine ⟨other, List.mem_cons_of_mem _ hother, ?_⟩
      change ((project.card id >>= fun _ => _) >>= fun _ => _) = _
      rw [Project.card, hc]
      exact hfails

theorem selected_of_known (hwanted : wanted s project tree = .ok ids)
    (hknown : ∀ id ∈ ids, project.cards.contains id = true) :
    selected s project tree = .ok ids := by
  rw [selected, hwanted]
  exact congrArg (fun e => e >>= fun _ => pure ids) (forM_known hknown)

theorem planned_of_known {sheet : Option (Sheet Float)} (hsheet : sheetAsked s project = .ok sheet)
    (hwanted : wanted s project tree = .ok ids)
    (hknown : ∀ id ∈ ids, project.cards.contains id = true) :
    planned s project tree = .ok ⟨project, sheet, ids⟩ := by
  rw [planned, hsheet, selected_of_known hwanted hknown]
  rfl

theorem planned_of_no_selection {f : Failure} (h : selected s project tree = .error f) :
    ∃ f, planned s project tree = .error f := by
  unfold planned
  rw [h]
  cases sheetAsked s project with
  | error f => exact ⟨f, rfl⟩
  | ok sheet => exact ⟨f, rfl⟩

theorem selected_of_unknown (hwanted : wanted s project tree = .ok ids)
    (h : ∃ id ∈ ids, project.cards.contains id = false) :
    ∃ id ∈ ids, selected s project tree = .error (.problem (.noSuchCard id)) := by
  obtain ⟨id, hid, hfails⟩ := forM_unknown h
  refine ⟨id, hid, ?_⟩
  rw [selected, hwanted]
  exact congrArg (fun e => e >>= fun _ => pure ids) hfails

/-! The cards. -/

/-- What cards are rendered from. -/
def sourceOf (project : Project Float) (tree : FileTree) : Source Float :=
  ⟨project, Project.photos tree⟩

/-- The cards of a selection, each once. -/
def chosen (project : Project Float) (ids : List String) : List Card :=
  ids.eraseDups.filterMap project.cards.get?

theorem mapM_chosen (h : ∀ id ∈ ids, project.cards.contains id = true) :
    ids.eraseDups.mapM project.card = .ok (chosen project ids) := by
  have hmapM (xs : List String) (hxs : ∀ id ∈ xs, project.cards.contains id = true) :
      xs.mapM project.card = .ok (xs.filterMap project.cards.get?) := by
    induction xs with
    | nil => rfl
    | cons id rest ih =>
      obtain ⟨c, hget, hc⟩ := card_of_contains (hxs id List.mem_cons_self)
      rw [List.mapM_cons, hc, ih fun id hid => hxs id (List.mem_cons_of_mem _ hid),
        List.filterMap_cons_some hget]
      rfl
  exact hmapM _ fun id hid => h id (List.mem_eraseDups.mp hid)

/-- Each id that is selected stands for one card, in the order in which they come first. -/
theorem ids_chosen (hown : project.OwnIds) (h : ∀ id ∈ ids, project.cards.contains id = true) :
    (chosen project ids).map Card.id = ids.eraseDups := by
  have hmap (xs : List String) (hxs : ∀ id ∈ xs, project.cards.contains id = true) :
      (xs.filterMap project.cards.get?).map Card.id = xs := by
    induction xs with
    | nil => rfl
    | cons id rest ih =>
      obtain ⟨c, hget, -⟩ := card_of_contains (hxs id List.mem_cons_self)
      rw [List.filterMap_cons_some hget, List.map_cons, hown id c hget,
        ih fun id hid => hxs id (List.mem_cons_of_mem _ hid)]
  exact hmap _ fun id hid => h id (List.mem_eraseDups.mp hid)

/-- What rendering comes to. -/
def rendering (keepGoing : Bool) (source : Source Float) (cards : List Card) :
    Except Failure (RenderResult Float) :=
  let run := Render.cards source keepGoing cards (Render.start source)
  match run.1 with
  | some f => .error f
  | none => .ok run.2.1

theorem progress_reads (steps : List (Nat × Nat)) :
    Reads (steps.forM fun (done, total) =>
      match Progress.bar "Rendering" done total with
      | .ok text => put (.text text)
      | .error f => throw (.arithmetic f)) p (.ok ()) := by
  induction steps generalizing p with
  | nil => exact .pure ()
  | cons step rest ih =>
    obtain ⟨done, total⟩ := step
    refine Reads.after (a := ()) ?_ fun q _ => ih
    dsimp only
    cases Progress.bar "Rendering" done total with
    | ok text => exact .put (.text text)
    | error f => exact .fault (.arithmetic f)

theorem render_reads (s : RunSettings) (h : ∀ id ∈ ids, project.cards.contains id = true) :
    Reads (render s project ids) p
      (rendering s.keepGoing (sourceOf project p.tree) (chosen project ids)) := by
  unfold render
  have hcards : Reads (ids.eraseDups.mapM fun id => do return ← project.card id) p
      (.ok (chosen project ids)) := by
    rw [← mapM_chosen h]
    exact Reads.mapM _ fun id q _ => .lift (project.card id)
  refine hcards.after fun q hq => Ends.of_ok outcome_get ?_
  rw [← hq]
  rcases hrun : Render.cards (sourceOf project q.tree) s.keepGoing (chosen project ids)
    (Render.start (sourceOf project q.tree)) with ⟨failure, result, state⟩
  rw [rendering, hrun]
  unfold sourceOf Render.start at hrun
  dsimp only at hrun ⊢
  rw [hrun]
  refine (Reads.note _).after fun u _ => (progress_reads _).after fun v _ => ?_
  cases failure with
  | some f => exact .of_outcome rfl rfl
  | none => exact .pure result

/-! The files of the cards. -/

/-- A file of each kind that is wanted. -/
def cardFiles (s : RunSettings) (out : Path) (stems : Named String) (c : RenderedCard Float) :
    List (Path × FileContent) :=
  let stem := (stems.get? c.id).getD ""
  (if s.writePng then [(out ++ ["png", stem ++ ".png"], .picture (image c))] else []) ++
    if s.writePdf then [(out ++ ["pdf", stem ++ ".pdf"], .document 1)] else []

theorem append_ne_up (stem : String) {ending : String} (h : 2 < ending.length) :
    stem ++ ending ≠ ".." := by
  intro heq
  have hlength := congrArg String.length heq
  rw [String.length_append, show "..".length = 2 from rfl] at hlength
  omega

/-- The files of a card by folder and ending. -/
theorem resolve_cardFile (out : Path) {folder ending : String} (stem : String)
    (hfolder : folder ≠ "..") (hending : 2 < ending.length) :
    (out ++ [folder, stem ++ ending]).resolve = out.resolve ++ [folder, stem ++ ending] := by
  have hconcat (q : Path) : q ++ [folder, stem ++ ending] = (q ++ [folder]) ++ [stem ++ ending] := by
    simp
  rw [hconcat, hconcat, Path.resolve_concat _ (append_ne_up stem hending),
    Path.resolve_concat _ hfolder]

theorem resolve_cardFiles (s : RunSettings) (out : Path) (stems : Named String)
    (c : RenderedCard Float) :
    (cardFiles s out stems c).map (fun f => f.1.resolve) =
      (if s.writePng then [out.resolve ++ ["png", (stems.get? c.id).getD "" ++ ".png"]] else []) ++
        if s.writePdf then [out.resolve ++ ["pdf", (stems.get? c.id).getD "" ++ ".pdf"]] else [] := by
  have hpng := resolve_cardFile out ((stems.get? c.id).getD "") (by decide : "png" ≠ "..")
    (by decide : 2 < ".png".length)
  have hpdf := resolve_cardFile out ((stems.get? c.id).getD "") (by decide : "pdf" ≠ "..")
    (by decide : 2 < ".pdf".length)
  unfold cardFiles
  cases s.writePng <;> cases s.writePdf <;> simp [hpng, hpdf]

theorem cardFiles_cases {out q : Path} {stems : Named String} {c : RenderedCard Float}
    (h : q ∈ (cardFiles s out stems c).map fun f => f.1.resolve) :
    ∃ folder ending, (folder = "png" ∧ ending = ".png" ∨ folder = "pdf" ∧ ending = ".pdf") ∧
      q = out.resolve ++ [folder, (stems.get? c.id).getD "" ++ ending] := by
  rw [resolve_cardFiles, List.mem_append] at h
  rcases h with h | h <;> split at h <;> simp only [List.mem_singleton, List.not_mem_nil] at h
  · exact ⟨"png", ".png", .inl ⟨rfl, rfl⟩, h⟩
  · exact ⟨"pdf", ".pdf", .inr ⟨rfl, rfl⟩, h⟩

/-- The paths of files where names count as the same if their keys are. -/
def keys (key : String → List Char) (files : List (Path × FileContent)) : List (List (List Char)) :=
  files.map fun f => f.1.resolve.map key

theorem keys_append (key : String → List Char) (files more : List (Path × FileContent)) :
    keys key (files ++ more) = keys key files ++ keys key more := List.map_append

theorem keys_eq (key : String → List Char) (files : List (Path × FileContent)) :
    keys key files = (files.map fun f => f.1.resolve).map (List.map key) := by
  rw [List.map_map]
  rfl

theorem nodup_keys_toList {files : List (Path × FileContent)} :
    (keys String.toList files).Nodup ↔ (files.map fun f => f.1.resolve).Nodup := by
  have hinjective : Function.Injective (List.map String.toList) :=
    List.map_injective_iff.mpr fun _ _ h => String.toList_inj.mp h
  rw [keys_eq]
  exact ⟨List.Nodup.of_map _, List.Nodup.map hinjective⟩

section Keys

variable {key : String → List Char} {out : Path} {stems : Named String}
  {cards : List (RenderedCard Float)}

/-- The files of cards whose names are told apart are told apart. -/
theorem disjoint_cardFiles {c d : RenderedCard Float} (hkey : ∀ x y, key (x ++ y) = key x ++ key y)
    (hfolders : key "png" ≠ key "pdf")
    (h : key ((stems.get? c.id).getD "") ≠ key ((stems.get? d.id).getD "")) :
    (keys key (cardFiles s out stems c)).Disjoint (keys key (cardFiles s out stems d)) := by
  have hcases {c : RenderedCard Float} {q : List (List Char)}
      (hq : q ∈ keys key (cardFiles s out stems c)) : ∃ folder ending,
        (folder = "png" ∧ ending = ".png" ∨ folder = "pdf" ∧ ending = ".pdf") ∧
        q = out.resolve.map key ++ [key folder, key ((stems.get? c.id).getD "") ++ key ending] := by
    obtain ⟨f, hf, rfl⟩ := List.mem_map.mp hq
    obtain ⟨folder, ending, hkind, hpath⟩ := cardFiles_cases (List.mem_map_of_mem hf)
    exact ⟨folder, ending, hkind, by simp [hpath, hkey]⟩
  intro q hqc hqd
  obtain ⟨folder, ending, hkind, rfl⟩ := hcases hqc
  obtain ⟨folder', ending', hkind', hq⟩ := hcases hqd
  simp only [List.append_cancel_left_eq, List.cons.injEq, and_true] at hq
  obtain ⟨hfolder, hname⟩ := hq
  rcases hkind with ⟨rfl, rfl⟩ | ⟨rfl, rfl⟩ <;> rcases hkind' with ⟨rfl, rfl⟩ | ⟨rfl, rfl⟩
  · exact h (List.append_cancel_right hname)
  · exact hfolders hfolder
  · exact hfolders hfolder.symm
  · exact h (List.append_cancel_right hname)

/-- No two cards have a file in common, and no card has a file twice. -/
theorem nodup_cardFiles (hkey : ∀ x y, key (x ++ y) = key x ++ key y)
    (hfolders : key "png" ≠ key "pdf") (hnodup : (cards.map RenderedCard.id).Nodup)
    (hstems : ∀ id ∈ cards.map RenderedCard.id, stems.contains id = true)
    (hapart : ∀ a ∈ cards.map RenderedCard.id, ∀ b ∈ cards.map RenderedCard.id, ∀ x y,
      stems.get? a = some x → stems.get? b = some y → key x = key y → a = b) :
    (keys key (cards.flatMap (cardFiles s out stems))).Nodup := by
  rw [keys, List.map_flatMap, List.nodup_flatMap]
  refine ⟨fun c _ => ?_, ?_⟩
  · change (keys key (cardFiles s out stems c)).Nodup
    rw [keys_eq, resolve_cardFiles]
    cases s.writePng <;> cases s.writePdf <;> simp [hfolders]
  · refine List.Pairwise.imp_of_mem ?_ (List.pairwise_map.mp hnodup)
    intro c d hc hd hne
    refine disjoint_cardFiles hkey hfolders fun hsame => hne ?_
    have hcid := List.mem_map_of_mem (f := RenderedCard.id) hc
    have hdid := List.mem_map_of_mem (f := RenderedCard.id) hd
    obtain ⟨x, hx⟩ := Option.isSome_iff_exists.mp (hstems c.id hcid)
    obtain ⟨y, hy⟩ := Option.isSome_iff_exists.mp (hstems d.id hdid)
    rw [hx, hy] at hsame
    exact hapart _ hcid _ hdid x y hx hy hsame

end Keys

theorem writeCards_ends {out : Path} {cards : List (RenderedCard Float)}
    (hnodup : (cards.map RenderedCard.id).Nodup) :
    Ends (writeCards s out cards) p fun e q => e = .ok () ∧
      ∃ stems, p.tree.Holds (cards.flatMap (cardFiles s out stems)) q.tree := by
  obtain ⟨stems, ws, hstems, hnames, hearned⟩ := FileName.stems_returns (cards.map RenderedCard.id) []
  have hgiven : ∀ id ∈ cards.map RenderedCard.id, stems.contains id = true := fun id hid =>
    Named.mem_names.mp (hnames ▸ List.mem_eraseDups.mpr hid)
  have hpaths : ((cards.flatMap (cardFiles s out stems)).map fun f => f.1.resolve).Nodup :=
    nodup_keys_toList.mp (nodup_cardFiles (fun _ _ => String.toList_append) (by decide) hnodup hgiven
      fun a _ b _ x y hx hy hxy => hearned.apart hx hy (congrArg Text.lower (String.toList_inj.mp hxy)))
  have hreport : (report (FileName.stems (cards.map RenderedCard.id))).outcome p =
      (.ok stems, { p with warnings := p.warnings ++ ws }) := by
    rw [outcome_report, Report.outcome, hstems]
  refine Ends.of_ok hreport ?_
  have hwrites : Writes (cards.forM fun c => do
      let stem := (stems.get? c.id).getD ""
      if s.writePng then write (out ++ ["png", stem ++ ".png"]) (.picture (image c))
      if s.writePdf then write (out ++ ["pdf", stem ++ ".pdf"]) (.document 1))
      { p with warnings := p.warnings ++ ws } (cards.flatMap (cardFiles s out stems)) := by
    refine Writes.forM cards fun c q => ?_
    have hpdf (u : Progression) : Writes
        (if s.writePdf then write (out ++ ["pdf", (stems.get? c.id).getD "" ++ ".pdf"]) (.document 1)
          else pure ()) u
        (if s.writePdf then [(out ++ ["pdf", (stems.get? c.id).getD "" ++ ".pdf"], .document 1)]
          else []) := by
      split
      · exact .write _ _
      · exact .of_reads (.pure ())
    unfold cardFiles
    dsimp only
    split
    · exact (Writes.write _ _).bind hpdf
    · exact hpdf q
  exact hwrites.mono fun e q ⟨he, hholds⟩ => ⟨he, stems, hholds hpaths⟩

/-! The deck. -/

theorem get?_byId {cards : List (RenderedCard Float)} {id : String} {c : RenderedCard Float}
    (h : (Named.ofList (cards.map fun c => (c.id, c))).get? id = some c) : c ∈ cards ∧ c.id = id := by
  obtain ⟨d, hd, heq⟩ := List.mem_map.mp (Named.mem_of_get?_ofList h)
  cases heq
  exact ⟨hd, rfl⟩

theorem not_mem_of_get?_byId {cards : List (RenderedCard Float)} {id : String}
    (h : (Named.ofList (cards.map fun c => (c.id, c))).get? id = none) :
    id ∉ cards.map RenderedCard.id := by
  rw [Named.get?_ofList, List.lookup_eq_none_iff] at h
  intro hid
  obtain ⟨c, hc, rfl⟩ := List.mem_map.mp hid
  have hne := h (c.id, c) (List.mem_reverse.mpr (List.mem_map_of_mem hc))
  simp at hne

theorem inOrder_same {cards : List (RenderedCard Float)} :
    ∀ c ∈ inOrder ids cards, ∀ d ∈ inOrder ids cards, c.id = d.id → c = d := by
  intro c hc d hd hid
  obtain ⟨a, -, ha⟩ := List.mem_filterMap.mp hc
  obtain ⟨b, -, hb⟩ := List.mem_filterMap.mp hd
  have hab : a = b := by rw [← (get?_byId ha).2, ← (get?_byId hb).2, hid]
  rw [hab, hb] at ha
  exact Option.some.inj ha.symm

/-- The cards come in the order of the selection and as often as it names them. -/
theorem ids_inOrder (ids : List String) (cards : List (RenderedCard Float)) :
    (inOrder ids cards).map RenderedCard.id =
      ids.filter fun id => id ∈ cards.map RenderedCard.id := by
  unfold inOrder
  dsimp only
  induction ids with
  | nil => rfl
  | cons id rest ih =>
    cases hc : (Named.ofList (cards.map fun c => (c.id, c))).get? id with
    | none =>
      rw [List.filterMap_cons_none hc,
        List.filter_cons_of_neg (by simpa using not_mem_of_get?_byId hc), ih]
    | some c =>
      have hmem : id ∈ cards.map RenderedCard.id := by
        obtain ⟨hmem, rfl⟩ := get?_byId hc
        exact List.mem_map_of_mem hmem
      rw [List.filterMap_cons_some hc, List.map_cons, (get?_byId hc).2,
        List.filter_cons_of_pos (by simpa using hmem), ih]

/-- What there is of a deck: nothing without a sheet or without cards, and else pages that are
filled. -/
inductive HasDeck (sheet : Option (Sheet Float)) (order : List (RenderedCard Float)) :
    Option (Deck Float) → Prop where
  | noSheet (h : sheet = none) : HasDeck sheet order none
  | noCards (h : order = []) : HasDeck sheet order none
  | filled {used : Sheet Float} {deck : Deck Float} (husing : sheet = some used)
      (hcards : order ≠ []) (hslots : used.slots ≠ [])
      (h : Impose.Filled .float used hslots order deck) : HasDeck sheet order (some deck)

def deckFiles (s : RunSettings) (out : Path) (deck : Option (Deck Float)) :
    List (Path × FileContent) :=
  deck.toList.map fun d => (out ++ [FileName.sanitize s.deckName ++ ".pdf"], .document d.pages.length)

/-- The cards cannot be put on a sheet that has no room for any. -/
def LacksSlots (sheet : Option (Sheet Float)) (order : List (RenderedCard Float)) : Prop :=
  order ≠ [] ∧ ∃ used, sheet = some used ∧ used.slots = []

theorem HasDeck.not_lacksSlots {sheet : Option (Sheet Float)} {order : List (RenderedCard Float)}
    {deck : Option (Deck Float)} (h : HasDeck sheet order deck) : ¬ LacksSlots sheet order := by
  intro ⟨hcards, used, hused, hslots⟩
  cases h with
  | noSheet h => cases h.symm.trans hused
  | noCards h => exact hcards h
  | filled husing _ h _ =>
    cases husing.symm.trans hused
    exact h hslots

theorem float_noProblem (d : Float) : Impose.NoProblem (Trigonometry.float d) := by
  unfold Trigonometry.float
  dsimp only
  split
  · exact fun _ h => by cases h
  · exact .ok _

theorem impose_ends {sheet : Sheet Float} {m : Metadata} {path : Path}
    {order : List (RenderedCard Float)}
    (hsame : ∀ c ∈ order, ∀ d ∈ order, c.id = d.id → c = d) :
    Ends (impose sheet m path order) p fun e q =>
      (e = .error (.configuration .noSlots) ∧ LacksSlots (some sheet) order ∧ q.tree = p.tree) ∨
        ∃ imposed, e = .ok imposed ∧ HasDeck (some sheet) order imposed.deck ∧
          p.tree.Holds (imposed.deck.toList.map fun d => (path, .document d.pages.length)) q.tree := by
  by_cases hcards : order = []
  · subst hcards
    exact .inr (.inr ⟨_, rfl, .noCards rfl, .refl _⟩)
  have hreport := outcome_report (p := p) (Impose.cards .float sheet m path.text order)
  rw [Impose.cards_outcome m path.text hcards] at hreport
  by_cases hslots : sheet.slots = []
  · rw [dif_pos hslots] at hreport
    unfold Ends impose
    rw [outcome_of_error hreport]
    exact .inr (.inl ⟨rfl, ⟨hcards, sheet, rfl, hslots⟩, rfl⟩)
  · rw [dif_neg hslots] at hreport
    cases hplaced : Impose.placeFrom .float sheet hslots 0 order {} with
    | error f =>
      cases f with
      | problem problem =>
        exact absurd hplaced (Impose.placeFrom_noProblem float_noProblem problem)
      | fault fault =>
        rw [hplaced] at hreport
        unfold Ends impose
        rw [outcome_of_error hreport]
        exact .inl ⟨fault, rfl⟩
    | ok placed =>
      rw [hplaced] at hreport
      have hfilled := Impose.filled_of_placeFrom hsame hplaced (Impose.info m)
      refine Ends.of_ok hreport ?_
      refine Ends.bind (Writes.write path (.document placed.pages.length)) (fun _ q hq => ?_)
        fun f q hq => nomatch hq.1
      exact .inr (.inr ⟨_, rfl, .filled rfl hcards hslots hfilled, hq.2 (List.pairwise_singleton ..)⟩)

theorem writeDeck_ends (s : RunSettings) (sheet : Sheet Float) (m : Metadata) (out : Path)
    (ids : List String) (cards : List (RenderedCard Float)) :
    Ends (writeDeck s sheet m out ids cards) p fun e q =>
      (e = .error (.configuration .noSlots) ∧ LacksSlots (some sheet) (inOrder ids cards) ∧
          q.tree = p.tree) ∨
        (e = .ok () ∧ ∃ deck, HasDeck (some sheet) (inOrder ids cards) deck ∧
          p.tree.Holds (deckFiles s out deck) q.tree) := by
  refine (impose_ends inOrder_same).bind (fun imposed q hq => ?_) fun f q hq => ?_
  · obtain ⟨he, -⟩ | ⟨_, he, hdeck, hholds⟩ := hq
    · cases he
    · cases he
      have htold (path : Path) : Reads (do
          say s!"Sheet pages written: {imposed.pages}"
          if imposed.deck.isSome then say s!"Deck PDF: {path.text}") q (.ok ()) := by
        refine (Reads.say _).after fun u _ => ?_
        split
        · exact .say _
        · exact .pure ()
      exact (htold _).mono fun e u ⟨he, hu⟩ => .inr ⟨he, imposed.deck, hdeck, hu ▸ hholds⟩
  · obtain ⟨he, hlacks, hq⟩ | ⟨_, he, -⟩ := hq
    · cases he
      exact .inl ⟨rfl, hlacks, hq⟩
    · cases he

/-! What is delivered. -/

/-- The files of the cards and of the deck, if there is one, were put into the tree, and no others. -/
def Delivered (s : RunSettings) (tree : FileTree) (sheet : Option (Sheet Float))
    (ids : List String) (cards : List (RenderedCard Float)) (tree' : FileTree) : Prop :=
  ∃ stems deck, HasDeck sheet (inOrder ids cards) deck ∧
    tree.Holds (cards.flatMap (cardFiles s (Path.ofString s.outputFolder) stems) ++
      deckFiles s (Path.ofString s.outputFolder) deck) tree'

theorem resolve_deckFiles (s : RunSettings) (out : Path) (deck : Option (Deck Float)) :
    (deckFiles s out deck).map (fun f => f.1.resolve) =
      deck.toList.map fun _ => out.resolve ++ [FileName.sanitize s.deckName ++ ".pdf"] := by
  have hname : FileName.sanitize s.deckName ++ ".pdf" ≠ ".." := append_ne_up _ (by decide)
  unfold deckFiles
  cases deck <;> simp [Path.resolve_concat _ hname]

/-- The deck goes to a path of its own. -/
theorem nodup_deckFiles {key : String → List Char} {out : Path} {stems : Named String}
    {cards : List (RenderedCard Float)}
    (h : (keys key (cards.flatMap (cardFiles s out stems))).Nodup) (deck : Option (Deck Float)) :
    (keys key (cards.flatMap (cardFiles s out stems) ++ deckFiles s out deck)).Nodup := by
  rw [keys_append, List.nodup_append]
  refine ⟨h, ?_, fun q hq r hr hqr => ?_⟩
  · rw [keys_eq, resolve_deckFiles]
    cases deck <;> simp
  · obtain ⟨f, hf, rfl⟩ := List.mem_map.mp hq
    obtain ⟨c, -, hc⟩ := List.mem_flatMap.mp hf
    obtain ⟨folder, ending, -, hfile⟩ := cardFiles_cases (List.mem_map_of_mem hc)
    obtain ⟨g, hg, rfl⟩ := List.mem_map.mp hr
    have hpath := List.mem_map_of_mem (f := fun f : Path × FileContent => f.1.resolve) hg
    rw [resolve_deckFiles, List.mem_map] at hpath
    obtain ⟨-, -, hpath⟩ := hpath
    rw [hfile, ← hpath] at hqr
    simpa using congrArg List.length hqr

theorem deliver_ends {task : Task} {cards : List (RenderedCard Float)}
    (hnodup : (cards.map RenderedCard.id).Nodup) :
    Ends (deliver s task cards) p fun e q =>
      (e = .error (.configuration .noSlots) ∧ LacksSlots task.sheet (inOrder task.ids cards) ∧
        ∃ stems, p.tree.Holds
          (cards.flatMap (cardFiles s (Path.ofString s.outputFolder) stems)) q.tree) ∨
        (e = .ok () ∧ Delivered s p.tree task.sheet task.ids cards q.tree) := by
  refine (writeCards_ends hnodup).bind (fun _ q hq => ?_) fun f q hq => nomatch hq.1
  obtain ⟨-, stems, hcards⟩ := hq
  refine Ends.of_ok (outcome_say _) ?_
  cases hsheet : task.sheet with
  | none =>
    refine .inr (.inr ⟨rfl, stems, none, .noSheet rfl, ?_⟩)
    rw [show deckFiles s (Path.ofString s.outputFolder) none = [] from rfl, List.append_nil]
    exact hcards
  | some sheet =>
    refine (writeDeck_ends s sheet _ _ _ _).mono fun e u hu => ?_
    obtain ⟨he, hlacks, htree⟩ | ⟨he, deck, hdeck, hholds⟩ := hu
    · exact .inl ⟨he, hlacks, stems, htree ▸ hcards⟩
    · exact .inr ⟨he, stems, deck, hdeck, hcards.append hholds
        (nodup_keys_toList.mp (nodup_deckFiles (nodup_keys_toList.mpr hcards.apart) deck))⟩

/-- What is told of a card that failed. -/
def failureLine (f : RenderFailure) : Output := .text (s!"  {f.id}: {f.problem.message}" ++ "\n")

/-- What is told of the cards that failed, if there are any. -/
def failureReport (failures : List RenderFailure) : List Output :=
  if failures.isEmpty then []
  else .text (s!"Cards failed: {failures.length}" ++ "\n") :: failures.map failureLine

theorem failureLines_outcome (failures : List RenderFailure) (p : Progression) :
    (failures.forM fun f => say s!"  {f.id}: {f.problem.message}").outcome p =
      (.ok (), { p with output := p.output ++ failures.map failureLine }) := by
  induction failures generalizing p with
  | nil => simp [List.forM]
  | cons f rest ih =>
    refine (outcome_of_ok (outcome_say _)).trans ?_
    rw [ih, List.append_assoc]
    rfl

theorem conclude_outcome (failures : List RenderFailure) (p : Progression) :
    (conclude failures).outcome p =
      (.ok (if failures.isEmpty then 0 else 1),
        { p with output := p.output ++ .timing :: failureReport failures }) := by
  unfold conclude failureReport
  rw [outcome_of_ok (outcome_put _)]
  split
  · rfl
  · rw [outcome_of_ok (outcome_say _), outcome_of_ok (failureLines_outcome failures _)]
    simp

end CardPress.Run
