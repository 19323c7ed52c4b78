import CardPress.Proofs.Command.Stages
import CardPress.Proofs.Files.Fit
import Mathlib.Data.List.Pairwise

/-! The paths of a run: all files lie in the output folder, and no two of them at one path. -/
namespace CardPress.Run

open FileName

variable {s : RunSettings} {out : Path} {ids : List String} {stems : Named String}
  {cards : List (RenderedCard Float)} {deck : Option (Deck Float)}

/-- The files of the cards and of the deck, if there is one. -/
def runFiles (s : RunSettings) (out : Path) (stems : Named String) (cards : List (RenderedCard Float))
    (deck : Option (Deck Float)) : List (Path × FileContent) :=
  cards.flatMap (cardFiles s out stems) ++ deckFiles s out deck

/-- The names that cards are given by their ids. -/
structure NamesCards (ids : List String) (stems : Named String) : Prop where
  each : stems.names = ids.eraseDups
  first : Earned stems.entries
  apart : ∀ a b x y, stems.get? a = some x → stems.get? b = some y →
    Text.lower x = Text.lower y → a = b
  fit : ∀ id x, stems.get? id = some x → Fit x ∧ Stays x

/-- Files that lie in a folder and in its folders for images and documents, each at a path of its own.
Where letter case does not count they do so just if the names of the cards do, and they do if no id has
a capital sigma. -/
structure FilesApart (s : RunSettings) (out : Path) (stems : Named String)
    (cards : List (RenderedCard Float)) (deck : Option (Deck Float)) : Prop where
  inside : ∀ f ∈ runFiles s out stems cards deck, ∃ folders name ending,
    folders ∈ [["png"], ["pdf"], []] ∧ Fit name ∧ ending ∈ [".png", ".pdf"] ∧
      f.1 = out ++ folders ++ [name ++ ending] ∧
      f.1.resolve = out.resolve ++ folders ++ [name ++ ending]
  apart : ((runFiles s out stems cards deck).map fun f => f.1.resolve).Nodup
  caseless : (s.writePng || s.writePdf) = true →
    ((keys Text.caseless (runFiles s out stems cards deck)).Nodup ↔
      ∀ c ∈ cards, ∀ d ∈ cards, ∀ x y, stems.get? c.id = some x → stems.get? d.id = some y →
        Text.caseless x = Text.caseless y → c.id = d.id)
  noSigma : (∀ c ∈ cards, 'Σ' ∉ c.id.toList) →
    (keys Text.caseless (runFiles s out stems cards deck)).Nodup

theorem namesCards (hnames : stems.names = ids.eraseDups) (hearned : Earned stems.entries) :
    NamesCards ids stems where
  each := hnames
  first := hearned
  apart _ _ _ _ hx hy := hearned.apart hx hy
  fit id x hx := by
    obtain ⟨taken, hfree⟩ := hearned.of_mem (Named.mem_of_get? hx)
    have hfit := hfree.fit (sanitize_fit id)
    exact ⟨hfit, hfit.stays⟩

theorem cardFiles_inside {c : RenderedCard Float} {f : Path × FileContent} {stem : String}
    (hstem : stems.get? c.id = some stem) (hfit : Fit stem) (hf : f ∈ cardFiles s out stems c) :
    ∃ folders name ending, folders ∈ [["png"], ["pdf"], []] ∧ Fit name ∧
      ending ∈ [".png", ".pdf"] ∧ f.1 = out ++ folders ++ [name ++ ending] := by
  rw [cardFiles, hstem, List.mem_append] at hf
  obtain hf | hf := hf <;> split at hf <;> simp only [List.mem_singleton, List.not_mem_nil] at hf
  · exact ⟨["png"], stem, ".png", by simp, hfit, by simp, by simp [hf]⟩
  · exact ⟨["pdf"], stem, ".pdf", by simp, hfit, by simp, by simp [hf]⟩

theorem resolve_inside {folders : List String} {name ending : String}
    (hfolders : folders ∈ [["png"], ["pdf"], []]) (hending : ending ∈ [".png", ".pdf"]) :
    (out ++ folders ++ [name ++ ending]).resolve = out.resolve ++ folders ++ [name ++ ending] := by
  have hlong : 2 < ending.length := by
    simp only [List.mem_cons, List.not_mem_nil, or_false] at hending
    obtain rfl | rfl := hending <;> decide
  have hfolder (folder : String) (h : folder ≠ "..") :
      (out ++ [folder]).resolve = out.resolve ++ [folder] := Path.resolve_concat out h
  rw [Path.resolve_concat _ (append_ne_up name hlong)]
  simp only [List.mem_cons, List.not_mem_nil, or_false] at hfolders
  obtain rfl | rfl | rfl := hfolders
  · rw [hfolder "png" (by decide)]
  · rw [hfolder "pdf" (by decide)]
  · rw [List.append_nil, List.append_nil]

/-- If the files of cards are told apart, so are the names of the cards, each of which has a file. -/
theorem names_apart_of_keys {key : String → List Char} (hkey : ∀ x y, key (x ++ y) = key x ++ key y)
    (hwritten : (s.writePng || s.writePdf) = true)
    (h : (keys key (cards.flatMap (cardFiles s out stems))).Nodup) :
    ∀ c ∈ cards, ∀ d ∈ cards, ∀ x y, stems.get? c.id = some x → stems.get? d.id = some y →
      key x = key y → c.id = d.id := by
  intro c hc d hd x y hx hy hxy
  by_contra hne
  rw [keys, List.map_flatMap, List.nodup_flatMap] at h
  have hpairs : cards.Pairwise (Function.onFun List.Disjoint fun c =>
      keys key (cardFiles s out stems c)) := h.2
  have hsymm : Std.Symm (Function.onFun List.Disjoint fun c : RenderedCard Float =>
      keys key (cardFiles s out stems c)) := ⟨fun _ _ h _ hd hc => h hc hd⟩
  have hdisjoint : (keys key (cardFiles s out stems c)).Disjoint (keys key (cardFiles s out stems d)) :=
    hpairs.forall hc hd fun heq => hne (congrArg _ heq)
  have hsame : keys key (cardFiles s out stems c) = keys key (cardFiles s out stems d) := by
    rw [keys_eq, keys_eq, resolve_cardFiles, resolve_cardFiles, hx, hy]
    cases s.writePng <;> cases s.writePdf <;> simp [hkey, hxy]
  have hsome : keys key (cardFiles s out stems d) ≠ [] := by
    rw [keys_eq, resolve_cardFiles]
    revert hwritten
    cases s.writePng <;> cases s.writePdf <;> simp
  obtain ⟨q, hq⟩ := List.exists_mem_of_ne_nil _ hsome
  exact hdisjoint (hsame ▸ hq) hq

theorem filesApart (h : NamesCards ids stems) (hnodup : (cards.map RenderedCard.id).Nodup)
    (hids : ∀ c ∈ cards, c.id ∈ ids) (deck : Option (Deck Float)) :
    FilesApart s out stems cards deck := by
  have hstems : ∀ id ∈ cards.map RenderedCard.id, stems.contains id = true := by
    intro id hid
    obtain ⟨c, hc, rfl⟩ := List.mem_map.mp hid
    exact Named.mem_names.mp (h.each ▸ List.mem_eraseDups.mpr (hids c hc))
  have hcaseless (hapart : ∀ c ∈ cards, ∀ d ∈ cards, ∀ x y, stems.get? c.id = some x →
      stems.get? d.id = some y → Text.caseless x = Text.caseless y → c.id = d.id) :
      (keys Text.caseless (runFiles s out stems cards deck)).Nodup := by
    refine nodup_deckFiles (nodup_cardFiles Text.caseless_append (by decide +kernel) hnodup hstems ?_) deck
    intro a ha b hb x y hx hy hxy
    obtain ⟨c, hc, rfl⟩ := List.mem_map.mp ha
    obtain ⟨d, hd, rfl⟩ := List.mem_map.mp hb
    exact hapart c hc d hd x y hx hy hxy
  refine ⟨fun f hf => ?_, ?_, fun hwritten => ⟨fun hkeys => ?_, hcaseless⟩, fun hsigma => ?_⟩
  · suffices hplace : ∃ folders name ending, folders ∈ [["png"], ["pdf"], []] ∧ Fit name ∧
        ending ∈ [".png", ".pdf"] ∧ f.1 = out ++ folders ++ [name ++ ending] by
      obtain ⟨folders, name, ending, hfolders, hfit, hending, hpath⟩ := hplace
      exact ⟨folders, name, ending, hfolders, hfit, hending, hpath,
        hpath ▸ resolve_inside hfolders hending⟩
    obtain hf | hf := List.mem_append.mp hf
    · obtain ⟨c, hc, hf⟩ := List.mem_flatMap.mp hf
      obtain ⟨x, hx⟩ := Option.isSome_iff_exists.mp (hstems c.id (List.mem_map_of_mem hc))
      exact cardFiles_inside hx (h.fit c.id x hx).1 hf
    · obtain ⟨d, -, rfl⟩ := List.mem_map.mp hf
      exact ⟨[], sanitize s.deckName, ".pdf", by simp, sanitize_fit _, by simp, by simp⟩
  · exact nodup_keys_toList.mp (nodup_deckFiles (nodup_cardFiles (fun _ _ => String.toList_append)
      (by decide) hnodup hstems fun a _ b _ x y hx hy hxy =>
        h.apart a b x y hx hy (congrArg Text.lower (String.toList_inj.mp hxy))) deck)
  · rw [runFiles, keys_append, List.nodup_append] at hkeys
    exact names_apart_of_keys Text.caseless_append hwritten hkeys.1
  · have hlower (c : RenderedCard Float) (hc : c ∈ cards) (x : String) (hx : stems.get? c.id = some x) :
        Text.lower x = String.ofList (Text.caseless x) := by
      obtain ⟨taken, hfree⟩ := h.first.of_mem (Named.mem_of_get? hx)
      exact Text.lower_eq_caseless (hfree.sigma_not_mem (hsigma c hc))
    refine hcaseless fun c hc d hd x y hx hy hxy => h.apart _ _ x y hx hy ?_
    rw [hlower c hc x hx, hlower d hd y hy, hxy]

/-- All names are fit for files, those of cards are never the same but for the case of their letters, and
no file of a run takes the place of another. -/
theorem stems_keep_files_apart (ids : List String) :
    (∀ name, Fit (sanitize name) ∧ sanitize (sanitize name) = sanitize name) ∧
      (FileName.stems ids).Returns fun stems => NamesCards ids stems ∧
        ∀ s out cards deck, (cards.map RenderedCard.id).Nodup → (∀ c ∈ cards, c.id ∈ ids) →
          FilesApart s out stems cards deck := by
  refine ⟨fun name => ⟨sanitize_fit name, sanitize_eq_self_iff.mpr (sanitize_fit name)⟩,
    (stems_returns ids).mono fun stems ⟨hnames, hearned⟩ => ?_⟩
  have hcards := namesCards hnames hearned
  exact ⟨hcards, fun s out cards deck hnodup hids => filesApart hcards hnodup hids deck⟩

/-- A page without anything on it. -/
def blankCard (id : String) : RenderedCard Float :=
  ⟨id, ⟨9, 9, ⟨0, 0, 0, 0⟩, ⟨0, 0, 0, 0⟩, 72⟩, ⟨9, 9, []⟩⟩

/-- Ids of one letter are told apart in the names of their files. -/
theorem stems_keep_files_apart_letter : ∃ stems ws,
    (FileName.stems ["A", "a", "A"]).outcome = (.ok stems, ws) ∧
      FilesApart ⟨{}, "p", "out"⟩ ["out"] stems (["A", "a"].map blankCard) none ∧
      (keys Text.caseless
        (runFiles ⟨{}, "p", "out"⟩ ["out"] stems (["A", "a"].map blankCard) none)).Nodup := by
  obtain ⟨stems, ws, hrun, -, hfiles⟩ := (stems_keep_files_apart ["A", "a", "A"]).2 []
  have hapart := hfiles ⟨{}, "p", "out"⟩ ["out"] (["A", "a"].map blankCard) none (by decide) (by decide)
  exact ⟨stems, ws, hrun, hapart, hapart.noSigma (by decide)⟩

def sigmaIds : List String := ["AΣ", "Aσ"]

/-- Both ids stay as they are. -/
def sigmaNames : Named String := ⟨[("AΣ", "AΣ"), ("Aσ", "Aσ")], by decide⟩

/-- The last letter of the first name, behind which the ending of the file comes, is a sigma like any
other in the names of the files. -/
theorem stems_share_path : (FileName.stems sigmaIds).outcome = (.ok sigmaNames, []) ∧
    Text.lower "AΣ.png" = Text.lower "Aσ.png" ∧
    ¬ (keys Text.caseless
      (runFiles ⟨{}, "p", "out"⟩ ["out"] sigmaNames (sigmaIds.map blankCard) none)).Nodup := by
  refine ⟨?_, by decide +kernel, by decide +kernel⟩
  rfl

end CardPress.Run
