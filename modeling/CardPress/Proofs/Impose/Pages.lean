import CardPress.Proofs.Command.Outcome
import CardPress.Proofs.Render.Alone

/-! Which cards come to lie on which page of a deck: each once, on the slot whose turn it is. -/
namespace CardPress

variable {α : Type} [Scalar α]

/-- Cards come from rendering and from nowhere else. -/
def RenderedCard.IsRendered (c : RenderedCard α) : Prop :=
  ∃ source card s, (Render.card source card s).1 = .ok c

theorem RenderedCard.IsRendered.contentBox {c : RenderedCard α} (h : c.IsRendered) :
    ∃ box, c.geometry.contentBox = .ok box := by
  obtain ⟨source, card, s, hcard⟩ := h
  obtain ⟨layout, -, hgeometry, -, hdpi⟩ := Render.layout_of_card hcard
  rw [← hgeometry] at hdpi
  unfold Geometry.contentBox
  simp only [pointsOfPixels_of_dpi hdpi]
  exact ⟨_, rfl⟩

/-- The slot is not turned, or by an angle that has a cosine and a sine. -/
def Slot.Turns (trig : Trigonometry α) (slot : Slot α) : Prop :=
  ∀ d, slot.rotate = some d → ∃ v, trig (-d) = .ok v

theorem Slot.Turns.transform {trig : Trigonometry α} {slot : Slot α} (h : slot.Turns trig)
    (box : Area α) (pageHeight : α) : ∃ t, slot.transform trig box pageHeight = .ok t := by
  have hturned : ∀ t, ∃ t', turned trig slot.reflect
      (slot.rotate.filter fun d => !Scalar.isZero d) box t = .ok t' := by
    intro t
    unfold turned
    cases hangle : slot.rotate.filter fun d => !Scalar.isZero d with
    | none => exact ⟨_, rfl⟩
    | some d =>
      obtain ⟨v, hv⟩ := h d (Option.filter_eq_some_iff.mp hangle).1
      dsimp only
      rw [hv]
      exact ⟨_, rfl⟩
  unfold Slot.transform
  dsimp only
  split
  · obtain ⟨t, ht⟩ := hturned (Transform.identity.translate (-box.x) (-box.y))
    rw [ht]
    exact ⟨_, rfl⟩
  · exact ⟨_, rfl⟩

namespace Impose

variable {trig : Trigonometry α} {sheet : Sheet α} {h : sheet.slots ≠ []}
  {cs rest : List (RenderedCard α)} {c : RenderedCard α} {tiles : Named (Tile α)}
  {s : Imposing α} {i n : Nat}

/-! Pages that are filled in turn. -/

omit [Scalar α] in
theorem lay_append (m : Merged α) (pages : List (List (Merged α))) (page : List (Merged α)) :
    lay m (pages ++ [page]) = pages ++ [page ++ [m]] := by
  induction pages with
  | nil => rfl
  | cons first more ih =>
    obtain ⟨next, later, hmore⟩ := List.exists_cons_of_ne_nil (List.append_ne_nil_of_right_ne_nil more
      (List.cons_ne_nil page []))
    rw [hmore] at ih
    rw [List.cons_append, hmore, lay, ih, List.cons_append]
    exact nofun

/-- Page `k` of so many things that are dealt out in turn, `n` of them to a page. -/
def dealt (opening : List (Merged α)) (laid : Nat → Merged α) (n count k : Nat) : List (Merged α) :=
  opening ++ ((List.range count).filter fun i => i / n = k).map laid

/-- All pages of them. -/
def pagesOf (opening : List (Merged α)) (laid : Nat → Merged α) (n count : Nat) :
    List (List (Merged α)) :=
  (List.range ((count + n - 1) / n)).map (dealt opening laid n count)

omit [Scalar α] in
theorem dealt_succ (opening : List (Merged α)) (laid : Nat → Merged α) (n i k : Nat) :
    dealt opening laid n (i + 1) k =
      if i / n = k then dealt opening laid n i k ++ [laid i] else dealt opening laid n i k := by
  unfold dealt
  have hself : [i].filter (fun j => j / n = k) = if i / n = k then [i] else [] := by
    by_cases hk : i / n = k <;> simp [hk]
  rw [List.range_succ, List.filter_append, List.map_append, hself]
  split
  · exact (List.append_assoc ..).symm
  · rw [List.map_nil, List.append_nil]

/-- All pages are full when a new one is begun. -/
theorem pages_div (hn : 0 < n) (hi : i % n = 0) : (i + n - 1) / n = i / n := by
  obtain ⟨q, rfl⟩ := Nat.dvd_of_mod_eq_zero hi
  rw [Nat.add_sub_assoc hn, Nat.mul_add_div hn, Nat.div_eq_of_lt (by omega),
    Nat.mul_div_cancel_left q hn, Nat.add_zero]

theorem pages_div_succ (hn : 0 < n) (hi : i % n ≠ 0) : (i + n - 1) / n = i / n + 1 := by
  have hdiv := Nat.div_add_mod i n
  have hlt := Nat.mod_lt i hn
  have hsum : i + n - 1 = n * (i / n + 1) + (i % n - 1) := by
    rw [Nat.mul_add, Nat.mul_one]
    omega
  have hrest : i % n - 1 < n := by omega
  rw [hsum, Nat.mul_add_div hn, Nat.div_eq_of_lt hrest, Nat.add_zero]

omit [Scalar α] in
/-- A page that is begun holds nothing yet. -/
theorem dealt_begun (hi : i % n = 0) (opening : List (Merged α))
    (laid : Nat → Merged α) : dealt opening laid n i (i / n) = opening := by
  have hnone : (List.range i).filter (fun j => j / n = i / n) = [] := by
    refine List.filter_eq_nil_iff.mpr fun j hj hjn => ?_
    have hdiv := Nat.div_add_mod i n
    have hlt : j < n * (i / n) := by
      have := List.mem_range.mp hj
      omega
    exact Nat.ne_of_lt (Nat.div_lt_of_lt_mul hlt) (of_decide_eq_true hjn)
  rw [dealt, hnone, List.map_nil, List.append_nil]

omit [Scalar α] in
/-- One more thing goes on the last page, which is a new one if the pages before it are full. -/
theorem lay_pagesOf (hn : 0 < n) (opening : List (Merged α)) (laid : Nat → Merged α) (i : Nat) :
    lay (laid i) (if i % n = 0 then pagesOf opening laid n i ++ [opening]
      else pagesOf opening laid n i) = pagesOf opening laid n (i + 1) := by
  have hlast : (if i % n = 0 then pagesOf opening laid n i ++ [opening]
      else pagesOf opening laid n i) =
        (List.range (i / n)).map (dealt opening laid n i) ++ [dealt opening laid n i (i / n)] := by
    unfold pagesOf
    split
    · rename_i hi
      rw [pages_div hn hi, dealt_begun hi]
    · rename_i hi
      rw [pages_div_succ hn hi, List.range_succ, List.map_append]
      rfl
  have hcount : (i + 1 + n - 1) / n = i / n + 1 := by
    rw [show i + 1 + n - 1 = i + n by omega, Nat.add_div_right i hn]
  have hbefore : ∀ k ∈ List.range (i / n),
      dealt opening laid n i k = dealt opening laid n (i + 1) k := by
    intro k hk
    have hne : i / n ≠ k := Nat.ne_of_gt (List.mem_range.mp hk)
    rw [dealt_succ, if_neg hne]
  rw [hlast, lay_append, pagesOf, hcount, List.range_succ, List.map_append, List.map_congr_left hbefore]
  rw [List.map_singleton, dealt_succ, if_pos rfl]

/-! Tiles. -/

/-- Tiles that were made are the cards' own. -/
def Own (tiles : Named (Tile α)) (cs : List (RenderedCard α)) : Prop :=
  ∀ c ∈ cs, ∀ tile, tiles.get? c.id = some tile →
    tile.page = c.page ∧ c.geometry.contentBox = .ok tile.box

/-- A card gets its own tile, and those that are kept stay the cards' own. -/
theorem Own.tileOf (hown : Own tiles cs) (hsame : ∀ c ∈ cs, ∀ d ∈ cs, c.id = d.id → c = d)
    (hc : c ∈ cs) {box : Area α} (hbox : c.geometry.contentBox = .ok box) :
    ∃ tiles', tileOf c tiles = .ok (⟨c.page, box⟩, tiles') ∧ Own tiles' cs := by
  unfold Impose.tileOf
  cases htile : tiles.get? c.id with
  | some tile =>
    obtain ⟨hpage, hboxes⟩ := hown c hc tile htile
    rw [hbox] at hboxes
    cases hboxes
    exact ⟨tiles, by rw [← hpage], hown⟩
  | none =>
    dsimp only
    rw [hbox]
    refine ⟨tiles.put c.id ⟨c.page, box⟩, rfl, fun d hd tile htile => ?_⟩
    rw [Named.get?_put] at htile
    split at htile
    · rename_i hid
      cases hsame d hd c hc hid
      cases htile
      exact ⟨rfl, hbox⟩
    · exact hown d hd tile htile

/-! Imposition. -/

/-- What is laid for a card: its own page, cut to its own box, where the slot whose turn it is puts
it. -/
def Laid (trig : Trigonometry α) (sheet : Sheet α) (h : sheet.slots ≠ []) (i : Nat)
    (c : RenderedCard α) (m : Merged α) : Prop :=
  ∃ box t, c.geometry.contentBox = .ok box ∧
    (slotAt sheet h i).transform trig box sheet.pageHeight = .ok t ∧ m = .tile c.page t box

theorem exists_laid (hturns : ∀ slot ∈ sheet.slots, slot.Turns trig) (h : sheet.slots ≠ []) (i : Nat)
    (hc : c.IsRendered) : ∃ m, Laid trig sheet h i c m := by
  obtain ⟨box, hbox⟩ := hc.contentBox
  obtain ⟨t, ht⟩ := (hturns (slotAt sheet h i) (List.get_mem ..)).transform box sheet.pageHeight
  exact ⟨_, box, t, hbox, ht, rfl⟩

/-- A card lies on the last page after those before it. -/
theorem place_laid (hown : Own s.tiles cs) (hsame : ∀ c ∈ cs, ∀ d ∈ cs, c.id = d.id → c = d)
    (hc : c ∈ cs) {m : Merged α} (hm : Laid trig sheet h i c m) :
    ∃ tiles, place trig sheet (slotAt sheet h i) c s = .ok ⟨lay m s.pages, tiles⟩ ∧
      Own tiles cs := by
  obtain ⟨box, t, hbox, ht, rfl⟩ := hm
  obtain ⟨tiles, htile, hown⟩ := hown.tileOf hsame hc hbox
  refine ⟨tiles, ?_, hown⟩
  rw [place, htile]
  dsimp only [bind, Except.bind]
  rw [hbox]
  dsimp only
  rw [ht]
  rfl

/-- The pages of the cards so far become those of all cards. -/
theorem placeFrom_laid (laid : Nat → Merged α)
    (hsame : ∀ c ∈ cs, ∀ d ∈ cs, c.id = d.id → c = d)
    (hrest : ∀ c ∈ rest, c ∈ cs) (hlaid : ∀ j c, rest[j]? = some c → Laid trig sheet h (i + j) c
      (laid (i + j)))
    (hown : Own s.tiles cs) (hpages : s.pages = pagesOf (newPage sheet) laid sheet.slots.length i) :
    ∃ s', placeFrom trig sheet h i rest s = .ok s' ∧
      s'.pages = pagesOf (newPage sheet) laid sheet.slots.length (i + rest.length) := by
  induction rest generalizing i s with
  | nil => exact ⟨s, rfl, hpages⟩
  | cons c rest ih =>
    have hturned : (turnPage sheet i s).pages = if i % sheet.slots.length = 0 then
        pagesOf (newPage sheet) laid sheet.slots.length i ++ [newPage sheet]
        else pagesOf (newPage sheet) laid sheet.slots.length i := by
      unfold turnPage
      split <;> simp only [hpages]
    have htiles : (turnPage sheet i s).tiles = s.tiles := by
      unfold turnPage
      split <;> rfl
    obtain ⟨tiles, hplace, hown⟩ := place_laid (s := turnPage sheet i s) (by rwa [htiles]) hsame
      (hrest c List.mem_cons_self) (hlaid 0 c rfl)
    rw [Nat.add_zero] at hplace
    rw [hturned, lay_pagesOf (List.length_pos_iff.mpr h)] at hplace
    obtain ⟨s', hs', hs'pages⟩ := ih (i := i + 1) (s := ⟨_, tiles⟩)
      (fun c hc => hrest c (List.mem_cons_of_mem _ hc))
      (fun j c hj => by
        rw [Nat.add_right_comm, Nat.add_assoc]
        exact hlaid (j + 1) c hj) hown rfl
    refine ⟨s', ?_, ?_⟩
    · rw [placeFrom, hplace]
      exact hs'
    · rw [hs'pages, List.length_cons, Nat.add_assoc, Nat.add_comm 1]

theorem newPage_eq (sheet : Sheet α) :
    newPage sheet = if sheet.segments = [] then [] else [.cropLines] := by
  unfold newPage cropPage
  cases hsegments : sheet.segments <;> simp

/-- Every card lies on the page and the slot whose turn it is, over the crop lines, and there is
nothing else on the pages. -/
structure Filled (trig : Trigonometry α) (sheet : Sheet α) (h : sheet.slots ≠ [])
    (cs : List (RenderedCard α)) (deck : Deck α) : Prop where
  count : deck.pages.length = (cs.length + sheet.slots.length - 1) / sheet.slots.length
  pages : ∃ laid : Nat → Merged α, (∀ i c, cs[i]? = some c → Laid trig sheet h i c (laid i)) ∧
    deck.pages = (List.range ((cs.length + sheet.slots.length - 1) / sheet.slots.length)).map fun k =>
      (if sheet.segments = [] then [] else [.cropLines]) ++
        ((List.range cs.length).filter fun i => i / sheet.slots.length = k).map laid
  inhabited : ∀ k < deck.pages.length, ∃ i < cs.length, i / sheet.slots.length = k
  cropLines : deck.cropLines = cropPage sheet

/-- If there is a way to lay each card, the pages are filled with them. -/
theorem placeFrom_filled (hlaid : ∀ i c, cs[i]? = some c → ∃ m, Laid trig sheet h i c m)
    (hsame : ∀ c ∈ cs, ∀ d ∈ cs, c.id = d.id → c = d) :
    ∃ s, placeFrom trig sheet h 0 cs {} = .ok s ∧ ∀ info, Filled trig sheet h cs
      ⟨sheet.pageWidth, sheet.pageHeight, cropPage sheet, s.pages, info⟩ := by
  have hn : 0 < sheet.slots.length := List.length_pos_iff.mpr h
  have hexists : ∀ i, ∃ m, ∀ c, cs[i]? = some c → Laid trig sheet h i c m := by
    intro i
    cases hi : cs[i]? with
    | none => exact ⟨.cropLines, nofun⟩
    | some c =>
      obtain ⟨m, hm⟩ := hlaid i c hi
      exact ⟨m, fun d hd => Option.some.inj hd ▸ hm⟩
  choose laid hlaid using hexists
  obtain ⟨s, hs, hpages⟩ := placeFrom_laid (i := 0) (s := {}) laid hsame (fun c hc => hc)
    (fun j c hj => by simpa using hlaid j c hj) (fun c hc tile htile => by cases htile)
    (by rw [pagesOf, Nat.zero_add, Nat.div_eq_of_lt (Nat.sub_lt hn Nat.one_pos)]; rfl)
  rw [Nat.zero_add] at hpages
  have hcount : s.pages.length = (cs.length + sheet.slots.length - 1) / sheet.slots.length := by
    rw [hpages, pagesOf, List.length_map, List.length_range]
  refine ⟨s, hs, fun info => ⟨hcount, ⟨laid, hlaid, ?_⟩, fun k hk => ?_, rfl⟩⟩
  · rw [hpages, pagesOf, ← newPage_eq]
    rfl
  · replace hk := hcount ▸ hk
    refine ⟨k * sheet.slots.length, ?_, Nat.mul_div_cancel k hn⟩
    have hle := (Nat.le_div_iff_mul_le hn).mp hk
    rw [Nat.succ_mul] at hle
    omega

theorem exists_laid_of_placeFrom {s' : Imposing α}
    (hplaced : placeFrom trig sheet h i rest s = .ok s') :
    ∀ j c, rest[j]? = some c → ∃ m, Laid trig sheet h (i + j) c m := by
  induction rest generalizing i s with
  | nil => exact fun j c hc => absurd hc nofun
  | cons first rest ih =>
    rw [placeFrom] at hplaced
    obtain ⟨next, hplace, hrest⟩ := bind_eq_ok.mp hplaced
    obtain ⟨tile, -, hplace⟩ := bind_eq_ok.mp hplace
    obtain ⟨box, hbox, hplace⟩ := bind_eq_ok.mp hplace
    obtain ⟨t, ht, -⟩ := bind_eq_ok.mp hplace
    intro j c hc
    cases j with
    | zero =>
      cases hc
      exact ⟨_, box, t, hbox, ht, rfl⟩
    | succ j =>
      rw [← Nat.add_assoc, Nat.add_right_comm]
      exact ih hrest j c hc

/-- Where cards could be placed, the pages are filled with them. -/
theorem filled_of_placeFrom (hsame : ∀ c ∈ cs, ∀ d ∈ cs, c.id = d.id → c = d)
    (hplaced : placeFrom trig sheet h 0 cs {} = .ok s) (info : List (String × String)) :
    Filled trig sheet h cs
      ⟨sheet.pageWidth, sheet.pageHeight, cropPage sheet, s.pages, info⟩ := by
  have hlaid := exists_laid_of_placeFrom hplaced
  simp only [Nat.zero_add] at hlaid
  obtain ⟨s', hs', hfilled⟩ := placeFrom_filled hlaid hsame
  rw [hplaced] at hs'
  cases hs'
  exact hfilled info

/-! What can go wrong. -/

/-- It came to no problem, though it may have come to a fault. -/
def NoProblem {β : Type} (e : Except Failure β) : Prop := ∀ p, e ≠ .error (.problem p)

theorem NoProblem.ok {β : Type} (b : β) : NoProblem (.ok b) := fun _ h => by cases h

theorem NoProblem.bind {β γ : Type} {e : Except Failure β} {g : β → Except Failure γ}
    (he : NoProblem e) (hg : ∀ b, NoProblem (g b)) : NoProblem (e >>= g) := by
  cases e with
  | error f => exact fun p h => he p (by cases h; rfl)
  | ok b => exact hg b

theorem contentBox_noProblem (g : Geometry α) : NoProblem g.contentBox := by
  have hpoints (x : α) : NoProblem (pointsOfPixels x g.dpi) := by
    cases hdpi : Scalar.isZero g.dpi with
    | true =>
      rw [pointsOfPixels_of_no_dpi hdpi]
      exact fun _ h => by cases h
    | false =>
      rw [pointsOfPixels_of_dpi hdpi]
      exact .ok _
  exact (hpoints _).bind fun x => (hpoints _).bind fun y => (hpoints _).bind fun width =>
    (hpoints _).bind fun height => .ok _

theorem transform_noProblem (htrig : ∀ d, NoProblem (trig d)) (slot : Slot α) (box : Area α)
    (pageHeight : α) : NoProblem (slot.transform trig box pageHeight) := by
  have hturned (angle : Option α) (t : Transform α) :
      NoProblem (Slot.turned trig slot.reflect angle box t) := by
    unfold Slot.turned
    cases angle with
    | none => exact .ok _
    | some d => exact (htrig (-d)).bind fun v => .ok _
  unfold Slot.transform
  dsimp only
  split
  · exact (hturned _ _).bind fun t => .ok _
  · exact .ok _

/-- Cards fail to be placed by faults only. -/
theorem placeFrom_noProblem (htrig : ∀ d, NoProblem (trig d)) :
    NoProblem (placeFrom trig sheet h i rest s) := by
  have htile (c : RenderedCard α) (tiles : Named (Tile α)) : NoProblem (tileOf c tiles) := by
    unfold tileOf
    split
    · exact .ok _
    · exact (contentBox_noProblem _).bind fun box => .ok _
  induction rest generalizing i s with
  | nil => exact .ok s
  | cons c rest ih =>
    rw [placeFrom]
    refine NoProblem.bind ?_ fun _ => ih
    exact (htile _ _).bind fun _ => (contentBox_noProblem _).bind fun _ =>
      (transform_noProblem htrig _ _ _).bind fun _ => .ok _

/-- The sheet and its cards decide what imposition comes to. -/
theorem cards_outcome (m : Metadata) (path : String) (hcs : cs ≠ []) :
    (cards trig sheet m path cs).outcome =
      if h : sheet.slots = [] then (.error (.configuration .noSlots), [])
      else ((placeFrom trig sheet h 0 cs {}).map fun s =>
        ⟨cs.length, sheet.slots.length, (cs.length + sheet.slots.length - 1) / sheet.slots.length,
          some ⟨sheet.pageWidth, sheet.pageHeight, cropPage sheet, s.pages, info m⟩⟩, []) := by
  unfold cards
  rw [if_neg (by simpa using hcs)]
  split
  · rfl
  · rename_i h
    cases hplaced : placeFrom trig sheet h 0 cs {} <;> rfl

end Impose

namespace Run

/-- What imposition does to a run, and what it gives: nothing for no cards, a problem for a sheet
without slots, and a filled deck, which is written, for any others. -/
structure Imposes (sheet : Sheet Float) (m : Metadata) (path : Path)
    (cs : List (RenderedCard Float)) (p : Progression) : Prop where
  nothing : cs = [] → (impose sheet m path cs).outcome p =
    (.ok ⟨0, sheet.slots.length, 0, none⟩,
      { p with warnings := p.warnings ++ [.nothingToImpose path.text] })
  noSlots : cs ≠ [] → sheet.slots = [] →
    (impose sheet m path cs).outcome p = (.error (.configuration .noSlots), p)
  filled : cs ≠ [] → (∀ slot ∈ sheet.slots, slot.Turns .float) → ∀ h : sheet.slots ≠ [],
    ∃ deck, Impose.Filled .float sheet h cs deck ∧
      (impose sheet m path cs).outcome p =
        ((p.tree.write path (.document deck.pages.length)).1.map fun _ =>
            ⟨cs.length, sheet.slots.length, deck.pages.length, some deck⟩,
          { p with tree := (p.tree.write path (.document deck.pages.length)).2 })

/-- Imposition places every card once. -/
theorem impose_places (sheet : Sheet Float) (m : Metadata) (path : Path)
    (cs : List (RenderedCard Float)) (hcards : ∀ c ∈ cs, c.IsRendered)
    (hsame : ∀ c ∈ cs, ∀ d ∈ cs, c.id = d.id → c = d) (p : Progression) :
    Imposes sheet m path cs p where
  nothing h := by
    subst h
    rfl
  noSlots hcs h := by
    have hreport := outcome_report (p := p) (Impose.cards .float sheet m path.text cs)
    rw [Impose.cards_outcome m path.text hcs, dif_pos h] at hreport
    rw [impose, outcome_of_error hreport, List.append_nil]
  filled hcs hturns h := by
    obtain ⟨s, hs, hfilled⟩ := Impose.placeFrom_filled (h := h)
      (fun i c hc => Impose.exists_laid hturns h i (hcards c (List.mem_of_getElem? hc))) hsame
    have hreport := outcome_report (p := p) (Impose.cards .float sheet m path.text cs)
    rw [Impose.cards_outcome m path.text hcs, dif_neg h, hs, ← (hfilled (Impose.info m)).count,
      List.append_nil] at hreport
    refine ⟨_, hfilled (Impose.info m), ?_⟩
    rw [impose, outcome_of_ok hreport]
    dsimp only
    rw [outcome_bind, outcome_write]
    cases p.tree.write path (.document s.pages.length) with
    | mk result tree => cases result <;> rfl

/-- A layout with nothing on it. -/
def blankLayout : Layout Float := ⟨"default", ⟨100.0, 50.0, .zero, .zero, 72.0⟩, [], [], []⟩

def blankDeck : Source Float where
  project := { layouts := Named.empty.put "default" blankLayout }
  photos := fun _ => none

theorem exists_blankCard (id : String) : ∃ c : RenderedCard Float, c.IsRendered ∧ c.id = id := by
  have hlayout : blankDeck.project.layoutFor ⟨id, .empty⟩ = .ok blankLayout := rfl
  obtain ⟨width, height, opening, hcard⟩ :=
    Render.card_of_dpi hlayout (by decide +kernel : Scalar.isZero (72.0 : Float) = false)
  exact ⟨_, ⟨blankDeck, ⟨id, .empty⟩, {}, congrArg Prod.fst (hcard {})⟩, rfl⟩

/-- A sheet with one slot turned by a right angle and mirrored, and with a line across its pages. -/
def pairSheet : Sheet Float :=
  ⟨612.0, 792.0, 100.0, 50.0, [⟨.horizontal, 50.0, 612.0⟩],
    [⟨0.0, 0.0, none, none⟩, ⟨0.0, 50.0, some 90.0, some .horizontal⟩]⟩

theorem turns_pairSheet : ∀ slot ∈ pairSheet.slots, slot.Turns .float := by
  intro slot hslot d hd
  have hfinite : ((-90.0 : Float) * (3.141592653589793 / 180.0)).isInf = false := by decide +kernel
  simp only [pairSheet, List.mem_cons, List.not_mem_nil, or_false] at hslot
  rcases hslot with rfl | rfl
  · cases hd
  · cases hd
    exact ⟨_, by rw [Trigonometry.float, hfinite]; rfl⟩

/-- Three cards, one of them twice, fill two pages of two slots. -/
theorem impose_places_twice : ∃ c d : RenderedCard Float, ∃ deck,
    c.id = "A" ∧ d.id = "B" ∧ deck.pages.map List.length = [3, 2] ∧
      ((impose pairSheet {} ["deck.pdf"] [c, d, c]).outcome ⟨{}, [], []⟩).1 =
        .ok ⟨3, 2, 2, some deck⟩ := by
  obtain ⟨c, hc, hcid⟩ := exists_blankCard "A"
  obtain ⟨d, hd, hdid⟩ := exists_blankCard "B"
  have hne : c.id ≠ d.id := by
    rw [hcid, hdid]
    decide
  have hplaces := impose_places pairSheet {} ["deck.pdf"] [c, d, c] (by simp [hc, hd])
    (by simp [hne, hne.symm]) ⟨{}, [], []⟩
  obtain ⟨deck, hfilled, houtcome⟩ := hplaces.filled (by simp) turns_pairSheet (by simp [pairSheet])
  have hlines : pairSheet.segments ≠ [] := by
    have hcount : pairSheet.segments.isEmpty = false := by decide +kernel
    exact fun h => by simp [h] at hcount
  have hslots : pairSheet.slots.length = 2 := rfl
  have hcards : [c, d, c].length = 3 := rfl
  have hcount : deck.pages.length = 2 := by rw [hfilled.count, hslots, hcards]
  obtain ⟨laid, -, hpages⟩ := hfilled.pages
  refine ⟨c, d, deck, hcid, hdid, ?_, ?_⟩
  · rw [hpages, if_neg hlines, hslots, hcards]
    rfl
  · rw [houtcome, hcount, hslots, hcards]
    rfl

/-- A sheet whose only slot is turned by an infinite angle. -/
def spinningSheet : Sheet Float :=
  ⟨612.0, 792.0, 100.0, 50.0, [], [⟨0.0, 0.0, some (1.0 / 0.0), none⟩]⟩

/-- It takes no card. -/
theorem impose_infinite_angle : ∃ c : RenderedCard Float, c.IsRendered ∧
    (impose spinningSheet {} ["deck.pdf"] [c]).outcome ⟨{}, [], []⟩ =
      (.error (.fault .infiniteAngle), ⟨{}, [], []⟩) := by
  obtain ⟨c, hc, -⟩ := exists_blankCard "A"
  obtain ⟨box, hbox⟩ := hc.contentBox
  have hangle : (some (1.0 / 0.0 : Float)).filter (fun d => !Scalar.isZero d) = some (1.0 / 0.0) := by
    have hzero : Scalar.isZero (1.0 / 0.0 : Float) = false := by decide +kernel
    rw [Option.filter_some, hzero]
    rfl
  have htrig : Trigonometry.float (-(1.0 / 0.0)) = .error (.fault .infiniteAngle) := by
    have hinfinite : ((-(1.0 / 0.0) : Float) * (3.141592653589793 / 180.0)).isInf = true := by
      decide +kernel
    rw [Trigonometry.float, hinfinite]
    rfl
  have htransform : Slot.transform .float ⟨0.0, 0.0, some (1.0 / 0.0), none⟩ box 792.0 =
      .error (.fault .infiniteAngle) := by
    unfold Slot.transform
    dsimp only
    rw [hangle]
    dsimp only [Slot.turned]
    rw [htrig]
    rfl
  have hslots : spinningSheet.slots ≠ [] := List.cons_ne_nil _ _
  have hplace : Impose.place .float spinningSheet (Impose.slotAt spinningSheet hslots 0) c
      (Impose.turnPage spinningSheet 0 {}) = .error (.fault .infiniteAngle) := by
    have htile : Impose.tileOf c (Impose.turnPage spinningSheet 0 {}).tiles =
        .ok (⟨c.page, box⟩, Named.empty.put c.id ⟨c.page, box⟩) := by
      change (c.geometry.contentBox >>= _) = _
      rw [hbox]
      rfl
    have hslot : (Impose.slotAt spinningSheet hslots 0).transform .float box
        spinningSheet.pageHeight = .error (.fault .infiniteAngle) := htransform
    rw [Impose.place, htile]
    dsimp only [bind, Except.bind]
    rw [hbox]
    dsimp only
    rw [hslot]
  have hplaced : Impose.placeFrom .float spinningSheet hslots 0 [c] {} =
      .error (.fault .infiniteAngle) := by
    change (Impose.place _ _ _ c _ >>= _) = _
    rw [hplace]
    rfl
  have hreport := outcome_report (p := ⟨{}, [], []⟩)
    (Impose.cards .float spinningSheet {} (Path.text ["deck.pdf"]) [c])
  rw [Impose.cards_outcome _ _ (by simp), dif_neg hslots, hplaced] at hreport
  exact ⟨c, hc, outcome_of_error hreport⟩

end Run

end CardPress
