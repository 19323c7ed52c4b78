import CardPress.Project.Folder
import CardPress.Proofs.Project.Failures
import CardPress.Proofs.Table

/-! The cards of a project: those that the rows of its data files make, each under an id of its own. -/
namespace CardPress

open Report Failure

/-! What data files hold. -/

namespace Card

/-- The header of a data file that can be read, and what stands below it. A file without a line has neither,
nor has a sheet with nothing but one blank row. -/
def table? (t : FileTree) (p : Path) : Option (List Cell × List (List Cell)) :=
  if p.kind = ".csv" then
    match t.readBytes p with
    | .error _ => none
    | .ok bytes =>
      match Text.Utf8.decodeMarked bytes with
      | .error _ => none
      | .ok text =>
        match Csv.rows? text with
        | none => none
        | some [] => some ([], [])
        | some (header :: body) => some (header.map Cell.text, body.map fun row => row.map Cell.text)
  else if p.kind = ".xlsx" || p.kind = ".xlsm" then
    match t.file? p with
    | some (.workbook (sheet :: _)) =>
      match sheet.map fun row => row.map Cell.stored with
      | [] | [[]] => some ([], [])
      | header :: body => some (header, body)
    | _ => none
  else none

theorem ofCsv_cases (t : FileTree) (p : Path) (hkind : p.kind = ".csv") :
    (∃ header body, table? t p = some (header, body) ∧
      (ofCsv t p).Returns (· = ofTable p.stem header body)) ∨
    table? t p = none ∧ (ofCsv t p).Fails fun _ => True := by
  unfold table? ofCsv
  rw [if_pos hkind]
  cases t.readBytes p with
  | error f => exact .inr ⟨rfl, (Fails.lift rfl trivial).bind _⟩
  | ok bytes =>
    rw [lift_ok_bind]
    dsimp only
    cases Text.Utf8.decodeMarked bytes with
    | error f => exact .inr ⟨rfl, .throw trivial⟩
    | ok text =>
      dsimp only
      cases Csv.rows? text with
      | none => exact .inr ⟨rfl, .throw trivial⟩
      | some rows =>
        cases rows with
        | nil => exact .inl ⟨[], [], rfl, (Returns.warn _).bind fun _ _ => .pure rfl⟩
        | cons header body => exact .inl ⟨_, _, rfl, .pure rfl⟩

theorem ofWorkbook_cases (t : FileTree) (p : Path) (hkind : p.kind = ".xlsx" ∨ p.kind = ".xlsm") :
    (∃ header body, table? t p = some (header, body) ∧
      (ofWorkbook t p).Returns (· = ofTable p.stem header body)) ∨
    table? t p = none ∧ (ofWorkbook t p).Fails fun _ => True := by
  have hcsv : p.kind ≠ ".csv" := by
    obtain h | h := hkind <;> rw [h] <;> decide
  unfold table? ofWorkbook
  rw [if_neg hcsv, if_pos (by simpa using hkind)]
  rcases t.file? p with _ | ⟨_ | _ | _ | ⟨_ | ⟨sheet, more⟩⟩ | _⟩
  case some.workbook.cons =>
    dsimp only
    generalize sheet.map (fun row => row.map Cell.stored) = rows
    rcases rows with _ | ⟨_ | _, _ | _⟩
    case nil | cons.nil.nil => exact .inl ⟨_, _, rfl, (Returns.warn _).bind fun _ _ => .pure rfl⟩
    all_goals exact .inl ⟨_, _, rfl, .pure rfl⟩
  all_goals exact .inr ⟨rfl, .throw trivial⟩

/-- A data file makes the cards of its table, and fails only if it cannot be read. -/
theorem ofFile_cases (t : FileTree) (p : Path) :
    (∃ header body, table? t p = some (header, body) ∧
      (ofFile t p).Returns (· = ofTable p.stem header body)) ∨
    table? t p = none ∧ (ofFile t p).Fails fun _ => True := by
  unfold ofFile
  by_cases hcsv : p.kind = ".csv"
  · rw [if_pos hcsv]
    exact ofCsv_cases t p hcsv
  · rw [if_neg hcsv]
    by_cases hbook : p.kind = ".xlsx" ∨ p.kind = ".xlsm"
    · rw [if_pos (by simpa using hbook)]
      exact ofWorkbook_cases t p hbook
    · rw [if_neg (by simpa using hbook)]
      refine .inr ⟨?_, .throw trivial⟩
      rw [table?, if_neg hcsv, if_neg (by simpa using hbook)]

end Card

/-! Ids that are given, and ids that are made. -/

/-- A row of a data file that says something, with its number among those that do. -/
structure DataRow where
  stem : String
  header : List Cell
  number : Nat
  cells : List Cell

namespace DataRow

variable {rows : List DataRow} {r s : DataRow}

def named (r : DataRow) : Named String :=
  Table.named (r.header.map Cell.content) (r.cells.map Cell.content)

/-- The id that stands in the row; empty if there is none. -/
def givenId (r : DataRow) : String := Card.givenId r.named

/-- The id that is made for the row if it gives none. -/
def madeId (r : DataRow) : String := Card.numberedId (some r.stem) r.number

def card (r : DataRow) : Card := Card.ofRow (some r.stem) r.number r.named

theorem id_card (r : DataRow) : r.card.id = if r.givenId = "" then r.madeId else r.givenId :=
  Card.id_ofRow (some r.stem) r.number r.named

theorem isOfRow_card (r : DataRow) : Card.IsOfRow (some r.stem) r.header r.number r.cells r.card :=
  Card.isOfRow_ofRow (some r.stem) r.header r.number r.cells

theorem madeId_ne_empty (r : DataRow) : r.madeId ≠ "" := by
  intro h
  have hlist := congrArg String.toList h
  rw [madeId, Card.toList_numberedId, Card.padded] at hlist
  simp [Nat.toDigits_ne_nil] at hlist

/-- No id that is made for a row is given in another, and none is made for two rows: these would be rows with
the same number, in two files with the same stem. -/
structure IdsApart (rows : List DataRow) : Prop where
  given : ∀ r ∈ rows, r.givenId = "" → ∀ s ∈ rows, s.givenId ≠ r.madeId
  made : rows.Pairwise fun r s => r.givenId = "" → s.givenId = "" → r.stem = s.stem → r.number ≠ s.number

/-- If no id is given twice, only those that are made can stand in the way of ids. -/
theorem nodup_ids_iff (hstem : ∀ r ∈ rows, r.stem ≠ "")
    (hgiven : ((rows.map givenId).filter (· != "")).Nodup) :
    (rows.map fun r => r.card.id).Nodup ↔ IdsApart rows := by
  have hgiven : rows.Pairwise fun r s => r.givenId ≠ "" → s.givenId ≠ "" → r.givenId ≠ s.givenId := by
    have hpairwise := List.pairwise_map.mp (List.pairwise_filter.mp hgiven)
    exact hpairwise.imp fun h hr hs => h (by simpa using hr) (by simpa using hs)
  constructor
  · intro hnodup
    refine ⟨fun r hr hblank s hs hsame => ?_, ?_⟩
    · have hne : s.givenId ≠ "" := hsame ▸ r.madeId_ne_empty
      have hid : r.card.id = s.card.id := by
        rw [id_card, id_card, if_pos hblank, if_neg hne, hsame]
      obtain rfl := List.inj_on_of_nodup_map hnodup hr hs hid
      exact hne hblank
    · refine (List.pairwise_map.mp hnodup).imp fun hne hr hs hstem hnumber => hne ?_
      rw [id_card, id_card, if_pos hr, if_pos hs, madeId, madeId, hstem, hnumber]
  · rintro ⟨hapart, hmade⟩
    refine List.pairwise_map.mpr ((hgiven.and hmade).imp_of_mem fun {r s} hr hs ⟨hgiven, hmade⟩ hid => ?_)
    rw [id_card, id_card] at hid
    split at hid
    next hrblank =>
      split at hid
      next hsblank =>
        obtain ⟨hsame, hnumber⟩ := Card.numberedId_inj_some (hstem r hr) (hstem s hs) hid
        exact hmade hrblank hsblank hsame hnumber
      next => exact hapart r hr hrblank s hs hid.symm
    next hrgiven =>
      split at hid
      next hsblank => exact hapart s hs hsblank r hr hid
      next hsgiven => exact hgiven hrgiven hsgiven hid

end DataRow

namespace Project

variable {α : Type} {p p' q : Project α}

/-! What is read up to a failure. -/

theorem run_settled (r : StateM (List Warning) (Project α × Option Failure)) (ws : List Warning) :
    (settled r).run.run ws =
      match r.run ws with
      | ((p, none), t) => (.ok p, t)
      | ((_, some f), t) => (.error f, t) := by
  have hlift : (liftM r : Report (Project α × Option Failure)).run.run ws =
      (.ok (r.run ws).1, (r.run ws).2) := rfl
  unfold settled
  rw [run_bind, hlift]
  rcases r.run ws with ⟨⟨p, _ | f⟩, t⟩ <;> rfl

theorem settled_gives {r : StateM (List Warning) (Project α × Option Failure)} {Q : Project α → Prop}
    (h : ∀ ws, Q (r.run ws).1.1) : Gives (settled r) Q := by
  intro ws q ws' hrun
  have hq := h ws
  rw [run_settled] at hrun
  rcases hr : r.run ws with ⟨⟨p, _ | f⟩, t⟩ <;> rw [hr] at hrun hq <;> cases hrun
  exact hq

theorem settled_failsAs {r : StateM (List Warning) (Project α × Option Failure)} {Q : Failure → Prop}
    (h : ∀ ws f, (r.run ws).1.2 = some f → Q f) : Report.FailsAs Q (settled r) := by
  intro ws f ws' hrun
  have hq := h ws
  rw [run_settled] at hrun
  rcases hr : r.run ws with ⟨⟨p, _ | g⟩, t⟩ <;> rw [hr] at hrun hq <;> cases hrun
  exact hq f rfl

/-! Cards that are taken in. -/

/-- Cards go by their own ids. -/
def OwnIds (p : Project α) : Prop := ∀ id c, p.cards.get? id = some c → c.id = id

theorem ownIds_empty : OwnIds ({} : Project α) := fun _ _ h => absurd h nofun

theorem OwnIds.of_cards (h : p.OwnIds) (hcards : p'.cards = p.cards) : p'.OwnIds := by
  unfold OwnIds
  rwa [hcards]

theorem OwnIds.addCards (h : p.OwnIds) (source : String) (cards : List Card) :
    (p.addCards source cards).1.OwnIds := by
  induction cards generalizing p with
  | nil => exact h
  | cons card rest ih =>
    rw [Project.addCards]
    split
    · exact h
    · refine ih fun id c hc => ?_
      rw [Named.get?_put] at hc
      split at hc
      · cases hc
        exact Eq.symm ‹_›
      · exact h id c hc

/-- The entries of cards under their ids. -/
def entriesOf (cards : List Card) : List (String × Card) := cards.map fun c => (c.id, c)

/-- Cards are added to those that are there already, each under its id, unless an id is taken. -/
structure TakesIn (r : Report (Project α)) (p : Project α) (cards : List Card) : Prop where
  all : (p.cards.names ++ cards.map Card.id).Nodup →
    r.Returns fun q => q.cards.entries = p.cards.entries ++ entriesOf cards
  taken : ¬ (p.cards.names ++ cards.map Card.id).Nodup → r.Fails IsDuplicate

theorem names_of_entries {cards : List Card} (h : q.cards.entries = p.cards.entries ++ entriesOf cards) :
    q.cards.names = p.cards.names ++ cards.map Card.id := by
  rw [Named.names, h, List.map_append, entriesOf, List.map_map]
  rfl

namespace TakesIn

variable {r : Report (Project α)} {f : Project α → Report (Project α)} {cards more : List Card}

theorem pure (p : Project α) : TakesIn (Pure.pure p) p [] where
  all _ := .pure (List.append_nil _).symm
  taken h := absurd (by rw [List.map_nil, List.append_nil]; exact p.cards.nodup) h

theorem bind (h : TakesIn r p cards)
    (hf : ∀ q, q.cards.entries = p.cards.entries ++ entriesOf cards → TakesIn (f q) q more) :
    TakesIn (r >>= f) p (cards ++ more) := by
  -- what the second part meets are the names that were there and those that the first has added
  have hsplit (q : Project α) (hq : q.cards.entries = p.cards.entries ++ entriesOf cards) :
      p.cards.names ++ (cards ++ more).map Card.id = q.cards.names ++ more.map Card.id := by
    rw [names_of_entries hq, List.map_append, List.append_assoc]
  constructor
  · intro hnodup
    have hfirst : (p.cards.names ++ cards.map Card.id).Nodup := by
      rw [List.map_append, ← List.append_assoc] at hnodup
      exact hnodup.of_append_left
    refine (h.all hfirst).bind fun q hq => ((hf q hq).all (hsplit q hq ▸ hnodup)).mono fun s hs => ?_
    rw [hs, hq, entriesOf, entriesOf, entriesOf, List.map_append, List.append_assoc]
  · intro htaken
    by_cases hfirst : (p.cards.names ++ cards.map Card.id).Nodup
    · exact (h.all hfirst).bind_fails fun q hq => (hf q hq).taken (hsplit q hq ▸ htaken)
    · exact (h.taken hfirst).bind f

theorem foldlM {β : Type} {step : Project α → β → Report (Project α)} {cardsOf : β → List Card}
    {xs : List β} (h : ∀ x ∈ xs, ∀ p, TakesIn (step p x) p (cardsOf x)) (p : Project α) :
    TakesIn (xs.foldlM step p) p (xs.flatMap cardsOf) := by
  induction xs generalizing p with
  | nil => exact pure p
  | cons x xs ih =>
    obtain ⟨hx, hxs⟩ := List.forall_mem_cons.mp h
    rw [List.foldlM_cons, List.flatMap_cons]
    exact (hx p).bind fun q _ => ih hxs q

end TakesIn

theorem put_takesIn {card : Card} (h : p.cards.contains card.id = false) :
    TakesIn (pure { p with cards := p.cards.put card.id card }) p [card] := by
  have hnew : card.id ∉ p.cards.names := fun hmem => by
    rw [Named.mem_names, h] at hmem
    cases hmem
  constructor
  · exact fun _ => .pure (Named.entries_put hnew card)
  · refine fun htaken => absurd (List.nodup_append.mpr ⟨p.cards.nodup, List.nodup_singleton _, ?_⟩) htaken
    rintro id hid _ hcard rfl
    exact hnew (List.mem_singleton.mp hcard ▸ hid)

theorem addCards_takesIn (p : Project α) (source : String) (cards : List Card) :
    TakesIn (settled (pure (p.addCards source cards))) p cards := by
  induction cards generalizing p with
  | nil => exact .pure p
  | cons card rest ih =>
    rw [addCards]
    split
    next hcontains =>
      -- the id that is taken ends it, whatever cards come after
      constructor
      · intro hnodup
        have hmem := Named.mem_names.mpr hcontains
        exact absurd rfl ((List.nodup_append.mp hnodup).2.2 _ hmem card.id List.mem_cons_self)
      · exact fun _ ws => ⟨_, ws, rfl, ⟨_, _, _⟩⟩
    next hnew =>
      have hput := put_takesIn (p := p) (Bool.eq_false_iff.mpr hnew)
      have hall := hput.bind fun q _ => ih q
      rwa [pure_bind] at hall

theorem forall₂_entriesOf {β : Type} {R : β → Card → Prop} {cardOf : β → Card} (h : ∀ x, R x (cardOf x))
    (xs : List β) :
    List.Forall₂ (fun x (e : String × Card) => e.1 = e.2.id ∧ R x e.2) xs (entriesOf (xs.map cardOf)) := by
  induction xs with
  | nil => exact .nil
  | cons x xs ih => exact .cons ⟨rfl, h x⟩ ih

/-! The cards of data files. -/

/-- The data files of a project, in order of names. -/
def dataFiles (t : FileTree) (root : Path) : List Path := (t.children (root ++ ["data"])).filter isDataFile

/-- The rows of a data file that say something. -/
def rowsOf (t : FileTree) (path : Path) : List DataRow :=
  (Card.table? t path).toList.flatMap fun (header, body) =>
    ((body.filter Table.isFilled).zipIdx 1).map fun r => ⟨path.stem, header, r.2, r.1⟩

theorem ofTable_rowsOf {t : FileTree} {path : Path} {header : List Cell} {body : List (List Cell)}
    (h : Card.table? t path = some (header, body)) :
    Card.ofTable path.stem header body = (rowsOf t path).map DataRow.card := by
  rw [Card.ofTable, Card.ofRows_rows, rowsOf, h, Option.toList_some, List.flatMap_singleton, List.map_map]
  rfl

theorem stem_of_mem_rowsOf {t : FileTree} {path : Path} {r : DataRow} (h : r ∈ rowsOf t path) :
    r.stem = path.stem := by
  obtain ⟨_, -, hr⟩ := List.mem_flatMap.mp h
  obtain ⟨_, -, rfl⟩ := List.mem_map.mp hr
  rfl

/-- The rows of all data files that say something. -/
def dataRows (t : FileTree) (root : Path) : List DataRow := (dataFiles t root).flatMap (rowsOf t)

theorem stem_ne_empty {t : FileTree} {root : Path} {r : DataRow} (h : r ∈ dataRows t root) : r.stem ≠ "" := by
  obtain ⟨path, hpath, hr⟩ := List.mem_flatMap.mp h
  rw [stem_of_mem_rowsOf hr]
  refine Path.stem_ne_empty fun hending => ?_
  have hkind := (Bool.and_eq_true_iff.mp (List.mem_filter.mp hpath).2).1
  rw [Path.kind, hending] at hkind
  exact absurd hkind (by decide)

theorem loadCards_ownIds (t : FileTree) (h : p.OwnIds) (path : Path) :
    Gives (loadCards t p path) OwnIds := by
  unfold loadCards
  exact Gives.any.bind fun cards _ => settled_gives fun ws => h.addCards _ cards

theorem loadCards_takesIn {t : FileTree} {path : Path} (h : (Card.table? t path).isSome) (p : Project α) :
    TakesIn (loadCards t p path) p ((rowsOf t path).map DataRow.card) := by
  unfold loadCards
  obtain ⟨header, body, htable, hcards⟩ | ⟨hnone, -⟩ := Card.ofFile_cases t path
  · rw [ofTable_rowsOf htable] at hcards
    constructor
    · refine fun hnodup => hcards.bind fun cards hcards => ?_
      rw [hcards]
      exact (addCards_takesIn p _ _).all hnodup
    · refine fun htaken => hcards.bind_fails fun cards hcards => ?_
      rw [hcards]
      exact (addCards_takesIn p _ _).taken htaken
  · rw [hnone] at h
    cases h

/-! What is loaded before the cards. -/

theorem cards_foldl {β : Type} (f : Project α → β → Project α) (hf : ∀ p x, (f p x).cards = p.cards)
    (xs : List β) (p : Project α) : (xs.foldl f p).cards = p.cards := by
  induction xs generalizing p with
  | nil => rfl
  | cons x xs ih => rw [List.foldl_cons, ih, hf]

theorem readBytes_spares (t : FileTree) (p : Path) : CardPress.FailsAs (¬ ·.IsDuplicate) (t.readBytes p) := by
  unfold FileTree.readBytes
  split
  · exact .ok _
  · exact .ok _
  · exact .error nofun

variable [Scalar α]

theorem addSetting_cards (p : Project α) (e : Xml.Element) :
    Gives (addSetting p e) fun p' => p'.cards = p.cards := by
  unfold addSetting
  split
  · exact .pure rfl
  split
  · exact Gives.any.bind fun _ _ => .pure rfl
  split
  · exact Gives.any.bind fun _ _ => Gives.any.bind fun _ _ => .pure rfl
  split
  · exact Gives.any.bind fun _ _ => .pure rfl
  · exact .throw _

theorem addSettings_cards (p : Project α) (es : List Xml.Element) (ws : List Warning) :
    ((addSettings p es).run ws).1.1.cards = p.cards := by
  induction es generalizing p ws with
  | nil => rfl
  | cons e rest ih =>
    have hsetting := addSetting_cards p e ws
    rw [addSettings, StateT.run_bind]
    rcases hr : (addSetting p e).run.run ws with ⟨f | q, t⟩
    · rfl
    · exact (ih q t).trans (hsetting q t hr)

theorem addDocument_cards (p : Project α) (document : Except Xml.Refusal Xml.Element)
    (source : Option String) (ws : List Warning) :
    ((addDocument p document source).run ws).1.1.cards = p.cards := by
  unfold addDocument
  split
  · rfl
  · rename_i root _
    rw [StateT.run_bind]
    have hcards := addSettings_cards p root.children ws
    exact hcards

theorem loadSettings_cards (t : FileTree) (root : Path) (p : Project α) :
    Gives (loadSettings t root p) fun p' => p'.cards = p.cards := by
  unfold loadSettings
  dsimp only
  split
  · exact Gives.any.bind fun _ _ => settled_gives fun ws => addDocument_cards p _ _ ws
  · exact .pure rfl

theorem loadLayout_cards (t : FileTree) (p : Project α) (path : Path) :
    Gives (loadLayout t p path) fun p' => p'.cards = p.cards := by
  unfold loadLayout
  exact Gives.any.bind fun _ _ => Gives.any.bind fun _ _ => .pure rfl

/-- Everything of a project but its cards. -/
def materials (t : FileTree) (root : Path) : Report (Project α) := do
  if !t.isFolder root then throw (.configuration (.noProjectFolder root.text))
  let p ← loadSettings t root {}
  let p ← ((t.children (root ++ ["layouts"])).filter isLayoutFile).foldlM (loadLayout t) p
  let p := ((t.filesBelow (root ++ ["images"])).filter isImageFile).foldl (addImage root) p
  return ((t.children (root ++ ["fonts"])).filter (·.kind = ".ttf")).foldl addFont p

theorem load_eq (t : FileTree) (root : Path) : (load t root : Report (Project α)) = do
    let p ← materials t root
    let p ← (dataFiles t root).foldlM (loadCards t) p
    if p.layouts.entries.isEmpty then warn (.noLayouts root.text)
    return p := by
  unfold load materials
  dsimp only
  split
  · simp only [bind_assoc]
    rfl
  · simp only [bind_assoc, pure_bind]
    rfl

theorem materials_cards (t : FileTree) (root : Path) :
    Gives (materials t root : Report (Project α)) fun p => p.cards = .empty := by
  unfold materials
  dsimp only
  split
  · exact (Gives.throw (Q := fun _ => False) _).bind fun _ h => h.elim
  refine (loadSettings_cards t root {}).bind fun p hp => ?_
  refine (Gives.foldlM (fun q path hq => (loadLayout_cards t q path).mono fun _ h => h.trans hq) _ hp).bind
    fun p hp => .pure ?_
  exact ((cards_foldl addFont (fun _ _ => rfl) _ _).trans
    (cards_foldl (addImage root) (fun _ _ => rfl) _ _)).trans hp

theorem loadSettings_spares (t : FileTree) (root : Path) (p : Project α) :
    Report.FailsAs (¬ ·.IsDuplicate) (loadSettings t root p) := by
  unfold loadSettings
  dsimp only
  split
  · exact (Report.FailsAs.lift (readBytes_spares t _)).bind fun _ =>
      settled_failsAs fun ws f => addDocument_spares p _ _ ws
  · exact .pure _

theorem loadLayout_spares (t : FileTree) (p : Project α) (path : Path) :
    Report.FailsAs (¬ ·.IsDuplicate) (loadLayout t p path) :=
  (Report.FailsAs.lift (readBytes_spares t _)).bind fun _ =>
    (Layout.ofDocument_spares _ _ _).bind fun _ => .pure _

theorem materials_spares (t : FileTree) (root : Path) :
    Report.FailsAs (¬ ·.IsDuplicate) (materials t root : Report (Project α)) := by
  unfold materials
  dsimp only
  split
  · exact (Report.FailsAs.throw nofun).bind fun _ => (loadSettings_spares t root _).bind fun _ =>
      (Report.FailsAs.foldlM (loadLayout_spares t) _ _).bind fun _ => .pure _
  · exact (loadSettings_spares t root _).bind fun _ =>
      (Report.FailsAs.foldlM (loadLayout_spares t) _ _).bind fun _ => .pure _

/-! The whole project. -/

/-- Cards of a project that was loaded go by their own ids. -/
theorem load_ownIds (t : FileTree) (root : Path) : Gives (load t root : Report (Project α)) OwnIds := by
  rw [load_eq]
  refine (materials_cards t root).bind fun p hp => ?_
  refine (Gives.foldlM (fun q path hq => loadCards_ownIds t hq path) _ (ownIds_empty.of_cards hp)).bind
    fun p hp => ?_
  split
  · exact Gives.any.bind fun _ _ => .pure hp
  · exact .pure hp

omit [Scalar α] in
theorem returns_warned {cards : List (String × Card)} (root : Path) (p : Project α)
    (h : p.cards.entries = cards) :
    (do
      if p.layouts.entries.isEmpty then warn (.noLayouts root.text)
      return p : Report (Project α)).Returns fun q => q.cards.entries = cards := by
  dsimp only
  split
  · exact (Returns.warn _).bind fun _ _ => .pure h
  · exact .pure h

/-- The cards of a project whose data files can be read and give no id twice. If the rest of it can be loaded,
then it has one card for each row that says something, in order of files and rows, as long as the ids that are
made for rows are not given in others, nor made again in another file; or else an id is told to be taken. -/
theorem load_keeps_cards (t : FileTree) (root : Path)
    (hread : ∀ path ∈ dataFiles t root, (Card.table? t path).isSome)
    (hgiven : (((dataRows t root).map DataRow.givenId).filter (· != "")).Nodup) (ws : List Warning) :
    (dataFiles t root).Pairwise (fun p q => p.name < q.name) ∧
    (∀ f ws', (materials t root : Report (Project α)).run.run ws = (.error f, ws') →
      (load t root : Report (Project α)).run.run ws = (.error f, ws') ∧ ¬ f.IsDuplicate) ∧
    ∀ q ws', (materials t root : Report (Project α)).run.run ws = (.ok q, ws') →
      (DataRow.IdsApart (dataRows t root) →
        ∃ p ws'', (load t root : Report (Project α)).run.run ws = (.ok p, ws'') ∧
          List.Forall₂ (fun (r : DataRow) (e : String × Card) =>
            e.1 = e.2.id ∧ Card.IsOfRow (some r.stem) r.header r.number r.cells e.2)
            (dataRows t root) p.cards.entries) ∧
      (¬ DataRow.IdsApart (dataRows t root) →
        ∃ f ws'', (load t root : Report (Project α)).run.run ws = (.error f, ws'') ∧ f.IsDuplicate) := by
  have hapart := DataRow.nodup_ids_iff (fun r => stem_ne_empty) hgiven
  have hloads (q : Project α) : TakesIn ((dataFiles t root).foldlM (loadCards t) q) q
      ((dataRows t root).map DataRow.card) := by
    rw [dataRows, List.map_flatMap]
    exact .foldlM (fun path hpath => loadCards_takesIn (hread path hpath)) q
  have hempty (q : Project α) (ws' : List Warning) (hrun : (materials t root).run.run ws = (.ok q, ws')) :
      q.cards.names ++ ((dataRows t root).map DataRow.card).map Card.id =
        (dataRows t root).map fun r => r.card.id := by
    rw [materials_cards t root ws q ws' hrun, List.map_map]
    rfl
  refine ⟨(t.children_pairwise _).filter _, fun f ws' hrun => ?_,
    fun q ws' hrun => ⟨fun hids => ?_, fun hids => ?_⟩⟩
  · refine ⟨?_, materials_spares t root ws f ws' hrun⟩
    rw [load_eq, run_bind, hrun]
  · have hall := (hloads q).all (by rw [hempty q ws' hrun]; exact hapart.mpr hids)
    obtain ⟨p, ws'', hp, hentries⟩ := (hall.bind (returns_warned root)) ws'
    refine ⟨p, ws'', ?_, ?_⟩
    · rw [load_eq, run_bind, hrun]
      exact hp
    · rw [hentries, materials_cards t root ws q ws' hrun, Named.empty, List.nil_append]
      exact forall₂_entriesOf DataRow.isOfRow_card _
  · have htaken := (hloads q).taken (by rw [hempty q ws' hrun]; exact hapart.not.mpr hids)
    obtain ⟨f, ws'', hf, hduplicate⟩ := (htaken.bind _) ws'
    refine ⟨f, ws'', ?_, hduplicate⟩
    rw [load_eq, run_bind, hrun]
    exact hf

/-- A folder whose data files are these texts. -/
def dataFolder (texts : List (String × String)) : FileTree where
  files := texts.map fun (name, text) => (["project", "data", name], .bytes text.toUTF8.toList)

/-- The rows of two files; of the three without an id two have the same number. -/
def twoFiles : FileTree :=
  dataFolder [("cards.csv", "id,title\n,Ace\nking,King\n, Ten\n"), ("beasts.csv", "title\nGoblin\n")]

theorem load_keeps_cards_two_files :
    (∀ path ∈ dataFiles twoFiles ["project"], (Card.table? twoFiles path).isSome) ∧
    (((dataRows twoFiles ["project"]).map DataRow.givenId).filter (· != "")).Nodup ∧
    ∃ p ws, (load twoFiles ["project"] : Report (Project Float)).run.run [] = (.ok p, ws) ∧
      List.Forall₂ (fun (r : DataRow) (e : String × Card) =>
        e.1 = e.2.id ∧ Card.IsOfRow (some r.stem) r.header r.number r.cells e.2)
        (dataRows twoFiles ["project"]) p.cards.entries ∧
      (dataRows twoFiles ["project"]).map (fun r => r.card.id) =
        ["beasts_0001", "cards_0001", "king", "cards_0003"] := by
  have hread : ∀ path ∈ dataFiles twoFiles ["project"], (Card.table? twoFiles path).isSome := by
    decide +kernel
  have hgiven : (((dataRows twoFiles ["project"]).map DataRow.givenId).filter (· != "")).Nodup := by
    decide +kernel
  have hids : (dataRows twoFiles ["project"]).map (fun r => r.card.id) =
      ["beasts_0001", "cards_0001", "king", "cards_0003"] := by
    decide +kernel
  have hapart : DataRow.IdsApart (dataRows twoFiles ["project"]) := by
    refine (DataRow.nodup_ids_iff (fun r => stem_ne_empty) hgiven).mp ?_
    rw [hids]
    decide
  have hloaded : ((materials twoFiles ["project"] : Report (Project Float)).run.run []).1.isOk = true := by
    decide +kernel
  obtain ⟨-, -, hkeeps⟩ := load_keeps_cards (α := Float) twoFiles ["project"] hread hgiven []
  rcases hrun : (materials twoFiles ["project"] : Report (Project Float)).run.run [] with ⟨f | q, ws'⟩ <;>
    rw [hrun] at hloaded
  · cases hloaded
  · obtain ⟨p, ws, hp, hentries⟩ := (hkeeps q ws' hrun).1 hapart
    exact ⟨hread, hgiven, p, ws, hp, hentries, hids⟩

/-- The id that stands in one row is the one that is made for another, though no id is given twice. -/
theorem load_given_id_made :
    let t := dataFolder [("cards.csv", "id,title\ncards_0002,Ace\n,King\n")]
    (∀ path ∈ dataFiles t ["project"], (Card.table? t path).isSome) ∧
    ((dataRows t ["project"]).map DataRow.givenId) = ["cards_0002", ""] ∧
    (match (load t ["project"] : Report (Project Float)).outcome.1 with
      | .ok _ => none
      | .error f => some f) =
      some (.configuration (.duplicateCard "cards_0002" "in project/data/cards.csv")) := by
  decide +kernel

end Project

end CardPress
