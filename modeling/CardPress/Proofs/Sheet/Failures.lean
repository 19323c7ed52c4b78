import CardPress.Proofs.Sheet.Units

/-! What can go wrong with a sheet type. It is read, or told to be wrong; and its sheet is made, unless an
automatic placement cannot count how many cards fit. -/
namespace CardPress

/-- A problem of a piece of a document, told without the file that it stands in. -/
inductive Failure.IsLocal : Failure → Prop where
  | parse (cause : ParseCause) : IsLocal (.parse cause)
  | configuration (cause : ConfigurationCause) : IsLocal (.configuration cause)

/-- Whether the id of a card is taken. -/
def ConfigurationCause.isDuplicate : ConfigurationCause → Bool
  | .duplicateCard _ _ => true
  | _ => false

/-- The id of a card is taken, wherever this was met. -/
inductive Failure.IsDuplicate : Failure → Prop where
  | mk (id place : String) (source : Option String) :
      IsDuplicate (.problem (.configuration (.duplicateCard id place) source))

/-- A problem of a piece of a document as it is told there. No piece knows which ids are taken. -/
inductive Failure.IsOfPiece : Failure → Prop where
  | parse (cause : ParseCause) : IsOfPiece (.parse cause)
  | configuration (cause : ConfigurationCause) (h : cause.isDuplicate = false) :
      IsOfPiece (.configuration cause)

theorem Failure.IsOfPiece.isLocal {f : Failure} (h : f.IsOfPiece) : f.IsLocal := by
  cases h with
  | parse cause => exact .parse cause
  | configuration cause _ => exact .configuration cause

open Failure

variable {α : Type} [Scalar α]

/-- What comes to something, or is told to be wrong, or ends in an arithmetic fault: in those of a kind, and
in no others. -/
structure Ends {β : Type} (r : Except Failure β) (Q : ArithmeticFault → Prop) : Prop where
  outcome : (∃ b, r = .ok b) ∨ (∃ f, r = .error f ∧ f.IsLocal) ∨ ∃ fault, r = .error (.arithmetic fault)
  faults : ∀ fault, r = .error (.arithmetic fault) ↔ Q fault

namespace Ends

variable {β : Type} {Q : ArithmeticFault → Prop}

theorem ok (b : β) (h : ∀ fault, ¬ Q fault) : Ends (.ok b) Q :=
  ⟨.inl ⟨b, rfl⟩, fun fault => ⟨nofun, fun hfault => absurd hfault (h fault)⟩⟩

theorem problem {f : Failure} (hf : f.IsLocal) (h : ∀ fault, ¬ Q fault) :
    Ends (.error f : Except Failure β) Q := by
  refine ⟨.inr (.inl ⟨f, rfl, hf⟩), fun fault => ⟨fun he => ?_, fun hfault => absurd hfault (h fault)⟩⟩
  cases he
  cases hf

end Ends

/-! Fields of elements. -/

theorem numbers_failsAs (what s : String) :
    FailsAs IsOfPiece (numbers what s : Except Failure (List α)) := by
  refine .mapM (fun word => ?_) _
  split
  · exact .ok _
  · exact .error (.parse _)

namespace Xml.Element

variable (e : Element)

omit [Scalar α] in
theorem field_failsAs (name : String) : FailsAs IsOfPiece (e.field name) := by
  unfold field
  split
  · exact .ok _
  · exact .error (.parse _)

theorem numberField?_failsAs (names : List String) :
    FailsAs IsOfPiece (e.numberField? names : Except Failure (Option α)) := by
  induction names with
  | nil => exact .ok none
  | cons name more ih =>
    unfold numberField?
    split
    · exact ih
    · split
      · exact .ok _
      · exact .error (.parse _)

theorem numberField_failsAs (names : List String) :
    FailsAs IsOfPiece (e.numberField names : Except Failure α) := by
  refine (e.numberField?_failsAs names).bind fun found => ?_
  cases found with
  | none => exact .error (.parse _)
  | some x => exact .ok x

theorem numberFieldOr_failsAs (name : String) (default : α) :
    FailsAs IsOfPiece (e.numberFieldOr name default) :=
  (e.numberField?_failsAs [name]).bind fun _ => .ok _

theorem singleNumber?_failsAs (name : String) :
    FailsAs IsOfPiece (e.singleNumber? name : Except Failure (Option α)) := by
  unfold singleNumber?
  split
  · exact .ok none
  · refine (numbers_failsAs _ _).bind fun xs => ?_
    split
    · exact .ok _
    · exact .error (.parse _)

end Xml.Element

omit [Scalar α] in
theorem Insets.ofList_failsAs (what : String) (xs : List α) : FailsAs IsOfPiece (Insets.ofList what xs) := by
  unfold ofList
  split
  · exact .ok _
  · exact .ok _
  · exact .ok _
  · exact .error (.parse _)

/-! The parts of a sheet type. -/

omit [Scalar α] in
theorem LengthUnit.ofString_failsAs (s : String) : FailsAs IsOfPiece (LengthUnit.ofString s) := by
  unfold ofString
  split
  · exact .ok _
  · exact .error (.configuration _ rfl)

namespace Size

theorem oriented_failsAs (s : Size α) (orientation : Option String) :
    FailsAs IsOfPiece (s.oriented orientation) := by
  unfold oriented
  split
  · exact .ok _
  · dsimp only
    split
    · exact .ok _
    · split
      · exact .ok _
      · exact .error (.configuration _ rfl)

theorem ofPageName_failsAs (name : String) (orientation : Option String) :
    FailsAs IsOfPiece (ofPageName name orientation : Except Failure (Size α)) := by
  unfold ofPageName
  dsimp only
  split
  · exact oriented_failsAs _ _
  · split
    · exact oriented_failsAs _ _
    · exact .error (.configuration _ rfl)

theorem ofCardName_failsAs (name : String) (orientation : Option String) :
    FailsAs IsOfPiece (ofCardName name orientation : Except Failure (Size α)) := by
  unfold ofCardName
  split
  · exact oriented_failsAs _ _
  · exact .error (.configuration _ rfl)

theorem ofXml_failsAs (e : Xml.Element) (scale : α)
    {named : String → Option String → Except Failure (Size α)}
    (h : ∀ name orientation, FailsAs IsOfPiece (named name orientation)) :
    FailsAs IsOfPiece (Size.ofXml e scale named) := by
  unfold ofXml
  dsimp only
  split
  · exact h _ _
  · refine (e.singleNumber?_failsAs _).bind fun width => (e.singleNumber?_failsAs _).bind fun height => ?_
    split
    · exact oriented_failsAs _ _
    · exact .error (.configuration _ rfl)

end Size

omit [Scalar α] in
theorem Insets.marginsOfList_failsAs (xs : List α) : FailsAs IsOfPiece (Insets.marginsOfList xs) := by
  intro f hf
  unfold marginsOfList at hf
  cases hlist : Insets.ofList "margins" xs <;> rw [hlist] at hf <;> cases hf
  exact .configuration _ rfl

omit [Scalar α] in
theorem Gutter.ofList_failsAs (xs : List α) : FailsAs IsOfPiece (Gutter.ofList xs) := by
  unfold ofList
  split
  · exact .ok _
  · exact .ok _
  · exact .error (.configuration _ rfl)

theorem GridAlignment.ofName_failsAs (s : String) : FailsAs IsOfPiece (GridAlignment.ofName s) := by
  unfold ofName
  split
  · exact .ok _
  · exact .error (.configuration _ rfl)

namespace AutomaticPlacement

theorem addXml_failsAs (p : AutomaticPlacement α) (e : Xml.Element) :
    Report.FailsAs IsOfPiece (p.addXml e) := by
  unfold addXml
  split
  · exact (Report.FailsAs.lift (numbers_failsAs _ _)).bind fun _ =>
      (Report.FailsAs.lift (Insets.marginsOfList_failsAs _)).bind fun _ => .pure _
  split
  · exact (Report.FailsAs.lift (numbers_failsAs _ _)).bind fun _ =>
      (Report.FailsAs.lift (Gutter.ofList_failsAs _)).bind fun _ => .pure _
  split
  · dsimp only
    split
    · exact .pure _
    · exact (Report.FailsAs.warn _).bind fun _ => .pure _
  · exact .throw (.parse _)

theorem ofXml_failsAs (e : Xml.Element) :
    Report.FailsAs IsOfPiece (ofXml e : Report (AutomaticPlacement α)) :=
  (Report.FailsAs.foldlM addXml_failsAs _ _).bind fun _ =>
    (Report.FailsAs.lift (GridAlignment.ofName_failsAs _)).bind fun _ => .pure _

end AutomaticPlacement

theorem Axis.ofField?_failsAs (e : Xml.Element) : FailsAs IsOfPiece (Axis.ofField? e) := by
  unfold ofField?
  split
  · exact .ok none
  · dsimp only
    split
    · exact .ok _
    · exact .error (.configuration _ rfl)

theorem Slot.ofXml_failsAs (e : Xml.Element) :
    FailsAs IsOfPiece (Slot.ofXml e : Except Failure (Slot α)) :=
  (Axis.ofField?_failsAs e).bind fun _ => (e.numberField_failsAs _).bind fun _ =>
    (e.numberField_failsAs _).bind fun _ => (e.singleNumber?_failsAs _).bind fun _ => .ok _

theorem ManualCropLine.ofXml_failsAs (e : Xml.Element) :
    FailsAs IsOfPiece (ofXml e : Except Failure (ManualCropLine α)) := by
  unfold ofXml
  split
  · exact .error (.parse _)
  · exact (e.numberField_failsAs _).bind fun _ => (e.singleNumber?_failsAs _).bind fun _ => .ok _

namespace ManualPlacement

theorem addXml_failsAs (p : ManualPlacement α) (e : Xml.Element) :
    FailsAs IsOfPiece (p.addXml e) := by
  unfold addXml
  split
  · exact (Slot.ofXml_failsAs e).bind fun _ => .ok _
  split
  · exact (e.singleNumber?_failsAs _).bind fun _ =>
      (FailsAs.mapM ManualCropLine.ofXml_failsAs _).bind fun _ => .ok _
  · exact .error (.parse _)

theorem ofXml_failsAs (e : Xml.Element) :
    FailsAs IsOfPiece (ofXml e : Except Failure (ManualPlacement α)) :=
  .foldlM addXml_failsAs _ _

end ManualPlacement

namespace SheetType

theorem Draft.add_failsAs (scale : α) (d : Draft α) (e : Xml.Element) :
    Report.FailsAs IsOfPiece (Draft.add scale d e) := by
  unfold add
  split
  · exact (Report.FailsAs.lift (Size.ofXml_failsAs e scale Size.ofPageName_failsAs)).bind fun _ => .pure _
  split
  · exact (Report.FailsAs.lift (Size.ofXml_failsAs e scale Size.ofCardName_failsAs)).bind fun _ => .pure _
  split
  · exact (AutomaticPlacement.ofXml_failsAs e).bind fun _ => .pure _
  split
  · exact (Report.FailsAs.lift (ManualPlacement.ofXml_failsAs e)).bind fun _ => .pure _
  · exact .throw (.parse _)

/-- A sheet type is read, or told to be wrong. -/
theorem ofXml_tells (e : Xml.Element) : Report.FailsAs IsOfPiece (ofXml e : Report (SheetType α)) := by
  refine (Report.FailsAs.lift (e.field_failsAs _)).bind fun name => ?_
  refine (Report.FailsAs.lift (LengthUnit.ofString_failsAs _)).bind fun unit => ?_
  refine (Report.FailsAs.foldlM (Draft.add_failsAs _) _ _).bind fun d => ?_
  split
  · exact .throw (.configuration _ rfl)
  · exact .throw (.configuration _ rfl)
  · exact .pure _

theorem ofXml_failsAs (e : Xml.Element) : Report.FailsAs IsLocal (ofXml e : Report (SheetType α)) :=
  (ofXml_tells e).mono fun _ => IsOfPiece.isLocal

end SheetType

/-! The count of cards on a page. -/

/-- Why it cannot be told how many items fit: an item with its gap has no length, or the quotient is no
whole number. -/
inductive Uncounted (available item gap : Float) : ArithmeticFault → Prop where
  | noStep (hitem : ¬ item ≤ Scalar.zero) (h : Scalar.isZero (item + gap) = true) :
      Uncounted available item gap .floorDivisionByZero
  | infinite (hitem : ¬ item ≤ Scalar.zero) (hstep : Scalar.isZero (item + gap) = false) {negative : Bool}
      (h : FloatShape.ofFloat (FloatDivision.floorDivide (available + gap) (item + gap)).1 =
        .infinite negative) : Uncounted available item gap .infinityToWhole
  | undefined (hitem : ¬ item ≤ Scalar.zero) (hstep : Scalar.isZero (item + gap) = false)
      (h : FloatShape.ofFloat (FloatDivision.floorDivide (available + gap) (item + gap)).1 = .nan) :
      Uncounted available item gap .nanToWhole

theorem floorDivide_eq_error_iff {available item gap : Float} {fault : ArithmeticFault}
    (hitem : ¬ item ≤ Scalar.zero) :
    Scalar.floorDivide (available + gap) (item + gap) = .error fault ↔
      Uncounted available item gap fault := by
  have hquotient : Scalar.floorQuotient (available + gap) (item + gap) =
      FloatDivision.toWhole (FloatDivision.floorDivide (available + gap) (item + gap)).1 := rfl
  unfold Scalar.floorDivide
  rw [hquotient]
  unfold FloatDivision.toWhole
  constructor
  · intro h
    split at h
    · cases h
      exact .noStep hitem (by assumption)
    · rename_i hstep
      rw [Bool.not_eq_true] at hstep
      split at h <;> cases h
      · exact .undefined hitem hstep (by assumption)
      · exact .infinite hitem hstep (by assumption)
  · intro h
    cases h with
    | noStep _ h => rw [if_pos h]
    | infinite _ hstep h | undefined _ hstep h =>
      rw [if_neg (Bool.eq_false_iff.mp hstep)]
      split <;> simp_all

theorem fitCount_eq_error_iff {available item gap : Float} {f : Failure} :
    fitCount available item gap = .error f ↔
      ∃ fault, Uncounted available item gap fault ∧ f = .arithmetic fault := by
  unfold fitCount
  split
  · rename_i hitem
    refine ⟨nofun, ?_⟩
    rintro ⟨fault, h, -⟩
    cases h <;> exact absurd hitem (by assumption)
  · rename_i hitem
    simp only [← floorDivide_eq_error_iff hitem]
    cases Scalar.floorDivide (available + gap) (item + gap) with
    | ok n => simp
    | error fault => simp [eq_comm]

theorem exists_fitCount_iff {available item gap : Float} :
    (∃ n, fitCount available item gap = .ok n) ↔ ∀ fault, ¬ Uncounted available item gap fault := by
  cases hcount : fitCount available item gap with
  | ok n =>
    refine ⟨fun _ fault h => ?_, fun _ => ⟨n, rfl⟩⟩
    rw [fitCount_eq_error_iff.mpr ⟨fault, h, rfl⟩] at hcount
    cases hcount
  | error f =>
    obtain ⟨fault, h, -⟩ := fitCount_eq_error_iff.mp hcount
    exact ⟨nofun, fun hnone => absurd h (hnone fault)⟩

namespace AutomaticPlacement

theorem grid_eq_error_iff {align : GridAlignment} {margins : Insets α} {gutter : Gutter α}
    {page card : Size α} {f : Failure} : grid align margins gutter page card = .error f ↔
      fitCount (page.width - margins.left - margins.right) card.width gutter.horizontal = .error f ∨
      (∃ n, fitCount (page.width - margins.left - margins.right) card.width gutter.horizontal = .ok n) ∧
        fitCount (page.height - margins.top - margins.bottom) card.height gutter.vertical = .error f := by
  unfold grid
  dsimp only
  rw [bind_eq_error]
  refine or_congr Iff.rfl ⟨?_, ?_⟩
  · rintro ⟨columns, hcolumns, h⟩
    obtain hrows | ⟨rows, -, h⟩ := bind_eq_error.mp h
    · exact ⟨⟨columns, hcolumns⟩, hrows⟩
    · split at h <;> cases h
  · rintro ⟨⟨columns, hcolumns⟩, hrows⟩
    exact ⟨columns, hcolumns, bind_eq_error.mpr (.inl hrows)⟩

/-- The room between the margins, in points. -/
def room (p : AutomaticPlacement Float) (page : Size Float) (scale : Float) : Size Float :=
  ⟨page.width - (p.margins.scaled scale).left - (p.margins.scaled scale).right,
    page.height - (p.margins.scaled scale).top - (p.margins.scaled scale).bottom⟩

/-- The columns cannot be counted; or they can, and the rows cannot. -/
def IsUncounted (p : AutomaticPlacement Float) (page card : Size Float) (scale : Float)
    (fault : ArithmeticFault) : Prop :=
  let gutter := p.gutter.scaled scale
  let room := p.room page scale
  Uncounted room.width card.width gutter.horizontal fault ∨
    (∀ other, ¬ Uncounted room.width card.width gutter.horizontal other) ∧
      Uncounted room.height card.height gutter.vertical fault

theorem compile_eq_error_iff {p : AutomaticPlacement Float} {page card : Size Float} {scale : Float}
    {f : Failure} : p.compile page card scale = .error f ↔
      ∃ fault, p.IsUncounted page card scale fault ∧ f = .arithmetic fault := by
  have hgrid : p.compile page card scale = .error f ↔
      grid p.align (p.margins.scaled scale) (p.gutter.scaled scale) page card = .error f := by
    unfold compile
    rw [bind_eq_error]
    exact ⟨fun h => h.elim id nofun, .inl⟩
  rw [hgrid, grid_eq_error_iff, fitCount_eq_error_iff, exists_fitCount_iff, fitCount_eq_error_iff]
  constructor
  · rintro (⟨fault, hcolumns, rfl⟩ | ⟨hcounted, fault, hrows, rfl⟩)
    · exact ⟨fault, .inl hcolumns, rfl⟩
    · exact ⟨fault, .inr ⟨hcounted, hrows⟩, rfl⟩
  · rintro ⟨fault, hcolumns | ⟨hcounted, hrows⟩, rfl⟩
    · exact .inl ⟨fault, hcolumns, rfl⟩
    · exact .inr ⟨hcounted, fault, hrows, rfl⟩

end AutomaticPlacement

namespace SheetType

/-- The sheet type is placed automatically, and that cannot be counted. -/
def IsUncounted (t : SheetType Float) (fault : ArithmeticFault) : Prop :=
  t.manual = none ∧ ∃ p unit, t.automatic = some p ∧ LengthUnit.ofString t.units = .ok unit ∧
    p.IsUncounted t.page t.card unit.points fault

/-- The sheet with what was placed on it. -/
def sheet (t : SheetType α) (placed : List (Slot α) × List (CropLine α)) : Sheet α :=
  ⟨t.page.width, t.page.height, t.card.width, t.card.height, placed.2, placed.1⟩

theorem run_compile (t : SheetType α) (ws : List Warning) :
    (t.compile.run.run ws).1 = LengthUnit.ofString t.units >>= fun unit =>
      match t.manual, t.automatic with
      | some manual, _ => .ok (t.sheet (manual.compile unit.points))
      | none, some p => (p.compile t.page t.card unit.points).map t.sheet
      | none, none => .error (.configuration (.noPlacement t.name)) := by
  obtain ⟨name, units, page, card, automatic, manual⟩ := t
  unfold compile
  dsimp only
  rcases LengthUnit.ofString units with f | unit
  · rfl
  cases manual with
  | some manual => cases automatic <;> rfl
  | none =>
    cases automatic with
    | none => rfl
    | some p =>
      change ((liftM (p.compile page card unit.points) >>= _ : Report (Sheet α)).run.run ws).1 =
        (p.compile page card unit.points).map _
      cases p.compile page card unit.points <;> rfl

/-- A sheet type that was read comes to a sheet, unless it is told to be wrong or cannot be counted. -/
theorem compile_ends (t : SheetType Float) (ws : List Warning) :
    Ends (t.compile.run.run ws).1 t.IsUncounted := by
  rw [run_compile]
  cases hunit : LengthUnit.ofString t.units with
  | error f =>
    refine .problem (LengthUnit.ofString_failsAs t.units f hunit).isLocal ?_
    rintro fault ⟨-, p, unit, -, hok, -⟩
    rw [hunit] at hok
    cases hok
  | ok unit =>
    cases hmanual : t.manual with
    | some manual =>
      refine .ok (t.sheet (manual.compile unit.points)) ?_
      rintro fault ⟨hnone, -⟩
      cases hmanual.symm.trans hnone
    | none =>
      cases hautomatic : t.automatic with
      | none =>
        refine .problem (.configuration (.noPlacement t.name)) ?_
        rintro fault ⟨-, p, _, hsome, -⟩
        cases hautomatic.symm.trans hsome
      | some p =>
        change Ends ((p.compile t.page t.card unit.points).map t.sheet) t.IsUncounted
        have hcounted : ∀ fault, t.IsUncounted fault ↔ p.IsUncounted t.page t.card unit.points fault := by
          intro fault
          constructor
          · rintro ⟨-, _, _, hsome, hok, h⟩
            cases hautomatic.symm.trans hsome
            cases hunit.symm.trans hok
            exact h
          · exact fun h => ⟨hmanual, p, unit, hautomatic, hunit, h⟩
        constructor
        · cases hplaced : p.compile t.page t.card unit.points with
          | ok placed => exact .inl ⟨t.sheet placed, rfl⟩
          | error f =>
            obtain ⟨fault, -, rfl⟩ := AutomaticPlacement.compile_eq_error_iff.mp hplaced
            exact .inr (.inr ⟨fault, rfl⟩)
        · intro fault
          rw [map_eq_error, AutomaticPlacement.compile_eq_error_iff, hcounted]
          constructor
          · rintro ⟨_, h, heq⟩
            cases heq
            exact h
          · exact fun h => ⟨fault, h, rfl⟩

end SheetType

/-- Every sheet type comes to a sheet, or is told to be wrong, or an automatic placement of it cannot be
counted. -/
theorem Sheet.ofXml_ends (e : Xml.Element) (ws : List Warning) :
    Ends ((Sheet.ofXml e : Report (Sheet Float)).run.run ws).1 fun fault =>
      ∃ t ws', (SheetType.ofXml e).run.run ws = (.ok t, ws') ∧ t.IsUncounted fault := by
  unfold Sheet.ofXml
  rw [Report.run_bind]
  rcases hread : (SheetType.ofXml e : Report (SheetType Float)).run.run ws with ⟨f | t, ws'⟩
  · refine .problem (SheetType.ofXml_failsAs e ws f ws' hread) ?_
    rintro fault ⟨t, _, hok, -⟩
    cases hok
  · obtain ⟨houtcome, hfaults⟩ := t.compile_ends ws'
    refine ⟨houtcome, fun fault => (hfaults fault).trans ⟨fun h => ⟨t, ws', rfl, h⟩, ?_⟩⟩
    rintro ⟨_, _, hok, h⟩
    cases hok
    exact h

/-- Cards that would stand on each other: the gap between them is as wide as they are, and negative. -/
def overlappingSheet : Xml.Element :=
  .mk "sheet-type" [("name", "s"), ("units", "pt")] "" [
    .mk "page-size" [("width", "10"), ("height", "10")] "" [],
    .mk "card-size" [("width", "1"), ("height", "1")] "" [],
    .mk "automatic" [] "" [.mk "gutter" [] "-1" []]]

theorem Sheet.ofXml_overlapping :
    (match (Sheet.ofXml overlappingSheet : Report (Sheet Float)).outcome.1 with
      | .ok _ => none
      | .error f => some f) = some (.fault (.arithmetic .floorDivisionByZero)) := by
  decide +kernel

end CardPress
