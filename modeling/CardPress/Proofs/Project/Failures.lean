import CardPress.Proofs.Project.Colors
import CardPress.Proofs.Sheet.Failures
import CardPress.Proofs.Style.ColorText

/-! What goes wrong with the documents of a project is told with the file that it was met in. -/
namespace CardPress

namespace Failure

/-- A problem of a document that names no file yet, or one of a kind that names none. -/
def IsUnplaced : Failure → Prop
  | .problem (.parse _ path _) => path = none
  | .problem (.configuration cause source) => source = none ∧ cause.isDuplicate = false
  | _ => True

/-- A problem of reading that names the file. -/
def IsPlaced (path : String) : Failure → Prop
  | .problem (.parse _ path' _) => path' = some path
  | _ => True

/-- A problem of a project's settings that names the file. -/
def IsPlacedSetting (path : String) : Failure → Prop
  | .problem (.parse _ path' _) => path' = some path
  | .problem (.configuration _ source) => source = some path
  | _ => True

variable {f : Failure}

theorem IsOfPiece.unplaced (h : f.IsOfPiece) : f.IsUnplaced := by
  cases h with
  | parse cause => rfl
  | configuration cause h => exact ⟨rfl, h⟩

theorem IsUnplaced.not_isDuplicate (h : f.IsUnplaced) : ¬ f.IsDuplicate := by
  rintro ⟨id, place, source⟩
  cases h.2

theorem not_isDuplicate_readFrom (h : ¬ f.IsDuplicate) (path : Option String) :
    ¬ (f.readFrom path).IsDuplicate := by
  unfold Failure.readFrom
  split
  · split <;> rintro ⟨⟩
  · exact h

theorem not_isDuplicate_configuredBy (h : ¬ f.IsDuplicate) (path : Option String) :
    ¬ (f.configuredBy path).IsDuplicate := by
  unfold Failure.configuredBy
  split
  · rintro ⟨id, place, source⟩
    exact h ⟨id, place, none⟩
  · exact not_isDuplicate_readFrom h path

theorem IsUnplaced.readFrom (h : f.IsUnplaced) (path : String) :
    (f.readFrom (some path)).IsPlaced path := by
  unfold Failure.readFrom
  split
  · rfl
  · rename_i hother
    cases f with
    | fault _ => trivial
    | problem p =>
      cases p with
      | parse cause path' line =>
        obtain rfl : path' = none := h
        exact absurd rfl (hother cause line)
      | _ => trivial

theorem IsUnplaced.configuredBy (h : f.IsUnplaced) (path : String) :
    (f.configuredBy (some path)).IsPlacedSetting path := by
  unfold Failure.configuredBy
  split
  · rfl
  · rename_i hother
    cases f with
    | fault _ => trivial
    | problem p =>
      cases p with
      | parse cause path' line =>
        obtain rfl : path' = none := h
        rfl
      | configuration cause source =>
        obtain rfl : source = none := h.1
        exact absurd rfl (hother cause)
      | _ => trivial

end Failure

open Failure

variable {α : Type}

/-! Pieces of a layout. -/

theorem CardText.ofString_failsAs (source : String) : FailsAs IsUnplaced (CardText.ofString source) := by
  intro f hf
  obtain ⟨flaw, offset, rfl⟩ | ⟨t, -, rfl⟩ := CardText.ofString_eq_error hf <;> trivial

theorem Color.literal?_failsAs (source : String) : FailsAs IsUnplaced (Color.literal? source) := by
  intro f hf
  obtain ⟨hasAlpha, parts, -, hfails⟩ := Color.literal?_eq_error_iff.mp hf
  cases hfails <;> trivial

theorem ColorRef.ofString_failsAs (source : String) : FailsAs IsUnplaced (ColorRef.ofString source) := by
  intro f hf
  obtain ⟨hasAlpha, parts, -, hfails⟩ | ⟨-, hname⟩ := ColorRef.ofString_eq_error_iff.mp hf
  · cases hfails <;> trivial
  · exact CardText.ofString_failsAs _ f hname

theorem DashPattern.ofString_failsAs (s : String) : FailsAs IsUnplaced (DashPattern.ofString s) := by
  unfold ofString
  dsimp only
  repeat' split
  · exact .ok _
  · exact .ok _
  · exact .ok _
  · exact .ok _
  · exact .error rfl

theorem Operator.ofString?_failsAs (s : String) : FailsAs IsUnplaced (Operator.ofString? s) := by
  unfold ofString?
  dsimp only
  split
  · exact .ok _
  · split
    · exact .error rfl
    · exact .ok _

theorem failsAs_parse {β : Type} (cause : ParseCause) :
    Report.FailsAs IsUnplaced (throw (Failure.parse cause) : Report β) :=
  .throw (IsOfPiece.parse cause).unplaced

theorem failsAs_local {β : Type} {r : Except Failure β} (h : FailsAs IsOfPiece r) :
    Report.FailsAs IsUnplaced (liftM r : Report β) :=
  .lift (h.mono fun _ => IsOfPiece.unplaced)

namespace Condition

theorem make_failsAs (left : CardText) (operator : Option Operator) (right : List CardText) :
    Report.FailsAs IsUnplaced (make left operator right) := by
  unfold make
  cases operator with
  | none => exact .pure _
  | some op =>
    dsimp only
    split
    · exact (Report.FailsAs.warn _).bind fun _ => .pure _
    · exact .pure _

theorem ofXml_failsAs (e : Xml.Element) : Report.FailsAs IsUnplaced (ofXml e) := by
  have hmade (left : CardText) (op : Operator) (right : List CardText) : Report.FailsAs IsUnplaced
      (if right.isEmpty then do
        let _ ← (throw (.parse (.noRightValue op.text)) : Report Unit)
        make left (some op) right
      else make left (some op) right) := by
    split
    · exact (failsAs_parse _).bind fun _ => make_failsAs _ _ _
    · exact make_failsAs _ _ _
  have htext (s : String) : Report.FailsAs IsUnplaced (liftM (CardText.ofString s) : Report CardText) :=
    .lift (CardText.ofString_failsAs s)
  have hchild (child : Xml.Element) : Report.FailsAs IsUnplaced (do
      if child.tag != "value" then throw (.parse (.unexpectedChild child.tag "only-if"))
      (CardText.ofString child.text : Except Failure CardText) : Report CardText) := by
    split
    · exact (failsAs_parse _).bind fun _ => htext _
    · exact htext _
  unfold ofXml
  refine (failsAs_local (e.field_failsAs _)).bind fun field => (htext _).bind fun left => ?_
  dsimp only
  split
  case' h_1 => refine (Report.FailsAs.pure none).bind fun operator => ?_
  case' h_2 => refine (Report.FailsAs.lift (Operator.ofString?_failsAs _)).bind fun operator => ?_
  all_goals
    split
    case' h_1 => refine (Report.FailsAs.pure _).bind fun _ => (Report.FailsAs.mapM hchild _).bind fun _ => ?_
    case' h_2 =>
      refine (htext _).bind fun _ => (Report.FailsAs.pure _).bind fun _ =>
        (Report.FailsAs.mapM hchild _).bind fun _ => ?_
    all_goals
      cases operator with
      | none => exact make_failsAs left none _
      | some op => exact hmade left op _

end Condition

theorem ColorRef.ofField_failsAs (e : Xml.Element) :
    Report.FailsAs IsUnplaced (liftM (ColorRef.ofField e) : Report ColorRef) :=
  .lift (((e.field_failsAs _).mono fun _ => IsOfPiece.unplaced).bind fun _ => ofString_failsAs _)

variable [Scalar α]

theorem Insets.ofField_failsAs (what : String) (text : Option String) :
    FailsAs IsOfPiece (Insets.ofField what text : Except Failure (Insets α)) := by
  unfold ofField
  split
  · exact .ok _
  · split
    · exact .ok _
    · exact (numbers_failsAs _ _).bind fun _ => Insets.ofList_failsAs _ _

theorem Frame.ofXml_failsAs (e : Xml.Element) :
    FailsAs IsOfPiece (Frame.ofXml e : Except Failure (Frame α)) :=
  (e.numberFieldOr_failsAs _ _).bind fun _ => (e.numberFieldOr_failsAs _ _).bind fun _ =>
    (e.numberField_failsAs _).bind fun _ => (e.numberField_failsAs _).bind fun _ => .ok _

theorem Geometry.ofXml_failsAs (e : Xml.Element) :
    FailsAs IsOfPiece (Geometry.ofXml e : Except Failure (Geometry α)) :=
  (e.numberField_failsAs _).bind fun _ => (e.numberField_failsAs _).bind fun _ =>
    (Insets.ofField_failsAs _ _).bind fun _ => (Insets.ofField_failsAs _ _).bind fun _ =>
      (e.numberFieldOr_failsAs _ _).bind fun _ => .ok _

theorem TextSize.ofXml_failsAs (e : Xml.Element) :
    FailsAs IsOfPiece (TextSize.ofXml e : Except Failure (TextSize α)) := by
  unfold ofXml
  dsimp only
  split
  · exact .error (.parse _)
  · exact (e.numberField_failsAs _).bind fun _ => .ok _

theorem PathStyle.ofXml_failsAs (e : Xml.Element) :
    Report.FailsAs IsUnplaced (PathStyle.ofXml e : Report (PathStyle α)) := by
  unfold ofXml
  split
  · exact (failsAs_local (e.numberFieldOr_failsAs _ _)).bind fun _ =>
      (Report.FailsAs.lift (ColorRef.ofString_failsAs _)).bind fun _ =>
        (Report.FailsAs.lift (DashPattern.ofString_failsAs _)).bind fun _ => .pure _
  split
  · exact (ColorRef.ofField_failsAs e).bind fun _ => .pure _
  split
  · exact (Condition.ofXml_failsAs e).bind fun _ => .pure _
  · exact failsAs_parse _

theorem TextStyle.ofXml_failsAs (e : Xml.Element) :
    Report.FailsAs IsUnplaced (TextStyle.ofXml e : Report (TextStyle α)) := by
  unfold ofXml
  split
  · exact .pure _
  split
  · exact (failsAs_local (TextSize.ofXml_failsAs e)).bind fun _ => .pure _
  split
  · exact .pure _
  split
  · exact (ColorRef.ofField_failsAs e).bind fun _ => .pure _
  split
  · exact (ColorRef.ofField_failsAs e).bind fun _ => .pure _
  split
  · exact (Condition.ofXml_failsAs e).bind fun _ => .pure _
  · exact failsAs_parse _

/-! Elements, and whole layouts. -/

namespace Element

theorem textParts_failsAs (contents : Option String) (styles : List (TextStyle α))
    (es : List Xml.Element) : Report.FailsAs IsUnplaced (textParts contents styles es) := by
  induction es generalizing contents styles with
  | nil => exact .pure _
  | cons e rest ih =>
    unfold textParts
    split
    · exact ih _ _
    · exact (TextStyle.ofXml_failsAs e).bind fun _ => ih _ _

theorem textOfXml_failsAs (e : Xml.Element) :
    Report.FailsAs IsUnplaced (textOfXml e : Report (Element α)) := by
  unfold textOfXml
  exact (textParts_failsAs _ _ _).bind fun _ =>
    (Report.FailsAs.lift (CardText.ofString_failsAs _)).bind fun _ =>
      (failsAs_local (Frame.ofXml_failsAs e)).bind fun _ => .pure _

theorem imageOfXml_failsAs (e : Xml.Element) :
    Report.FailsAs IsUnplaced (imageOfXml e : Report (Element α)) := by
  unfold imageOfXml
  dsimp only
  split
  · exact failsAs_parse _
  · exact (failsAs_local (e.field_failsAs _)).bind fun _ =>
      (Report.FailsAs.lift (CardText.ofString_failsAs _)).bind fun _ =>
        (failsAs_local (Frame.ofXml_failsAs e)).bind fun _ => .pure _

mutual

theorem ofXml_failsAs : ∀ e : Xml.Element, Report.FailsAs IsUnplaced (ofXml e : Report (Element α))
  | .mk tag fields inside children => by
    unfold ofXml
    dsimp only
    split
    · exact (Report.FailsAs.mapM PathStyle.ofXml_failsAs children).bind fun _ => .pure _
    split
    · exact (failsAs_local (Frame.ofXml_failsAs _)).bind fun _ =>
        (Report.FailsAs.mapM PathStyle.ofXml_failsAs children).bind fun _ => .pure _
    split
    · exact textOfXml_failsAs _
    split
    · exact imageOfXml_failsAs _
    split
    · exact (failsAs_local (Frame.ofXml_failsAs _)).bind fun _ =>
        (ofXmls_failsAs children).bind fun _ => .pure _
    · exact failsAs_parse _

theorem ofXmls_failsAs : ∀ es : List Xml.Element,
    Report.FailsAs IsUnplaced (ofXmls es : Report (List (Element α)))
  | [] => .pure _
  | e :: rest => by
    unfold ofXmls
    exact (ofXml_failsAs e).bind fun _ => (ofXmls_failsAs rest).bind fun _ => .pure _

end

end Element

omit [Scalar α] in
theorem rootNamed_failsAs (document : Except Xml.Refusal Xml.Element) (expected path : String) :
    FailsAs (fun f => f.IsPlaced path ∧ f.IsPlacedSetting path ∧ ¬ f.IsDuplicate)
      (Xml.rootNamed (some path) expected document) := by
  unfold Xml.rootNamed
  cases document with
  | ok root =>
    change FailsAs _ (if root.tag = expected then _ else _)
    split
    · exact .ok _
    · exact .error ⟨rfl, rfl, nofun⟩
  | error refusal =>
    cases refusal with
    | malformed m => exact .error ⟨rfl, rfl, nofun⟩
    | entity _ | encoding _ => exact .error ⟨trivial, trivial, nofun⟩

namespace Layout

theorem Draft.addBase_failsAs (d : Draft α) (e : Xml.Element) :
    Report.FailsAs IsUnplaced (d.addBase e) := by
  unfold addBase
  split
  · exact (Report.FailsAs.mapM PathStyle.ofXml_failsAs _).bind fun _ => .pure _
  split
  · exact (Report.FailsAs.mapM TextStyle.ofXml_failsAs _).bind fun _ => .pure _
  · exact failsAs_parse _

theorem Draft.add_failsAs (d : Draft α) (e : Xml.Element) : Report.FailsAs IsUnplaced (d.add e) := by
  unfold add
  split
  · exact (failsAs_local (Geometry.ofXml_failsAs e)).bind fun _ => .pure _
  split
  · exact Report.FailsAs.foldlM Draft.addBase_failsAs _ _
  · exact (Element.ofXml_failsAs e).bind fun _ => .pure _

theorem ofRoot_failsAs (root : Xml.Element) (name : String) :
    Report.FailsAs IsUnplaced (ofRoot root name : Report (Layout α)) := by
  refine (Report.FailsAs.foldlM Draft.add_failsAs _ _).bind fun d => ?_
  cases d.geometry with
  | none => exact failsAs_parse _
  | some _ => exact .pure _

/-- A problem of reading a layout names the file of the layout. -/
theorem ofDocument_failsAs (document : Except Xml.Refusal Xml.Element) (name path : String) :
    Report.FailsAs (IsPlaced path) (ofDocument document name (some path) : Report (Layout α)) := by
  unfold ofDocument
  refine (Report.FailsAs.lift ((rootNamed_failsAs document "layout" path).mono fun _ => And.left)).bind
    fun root => ?_
  exact (ofRoot_failsAs root name).mapFailure fun f hf => hf.readFrom path

/-- No layout knows which ids are taken. -/
theorem ofDocument_spares (document : Except Xml.Refusal Xml.Element) (name path : String) :
    Report.FailsAs (¬ ·.IsDuplicate) (ofDocument document name (some path) : Report (Layout α)) := by
  unfold ofDocument
  refine (Report.FailsAs.lift ((rootNamed_failsAs document "layout" path).mono fun _ h => h.2.2)).bind
    fun root => ?_
  exact (ofRoot_failsAs root name).mapFailure fun f hf => not_isDuplicate_readFrom hf.not_isDuplicate _

end Layout

namespace Project

omit [Scalar α] in
theorem colorOfXml_failsAs (e : Xml.Element) : FailsAs IsUnplaced (colorOfXml e) := by
  refine ((e.field_failsAs _).mono fun _ => IsOfPiece.unplaced).bind fun name => ?_
  refine ((e.field_failsAs _).mono fun _ => IsOfPiece.unplaced).bind fun value => ?_
  refine (Color.literal?_failsAs _).bind fun found => ?_
  cases found with
  | none => exact .error ⟨rfl, rfl⟩
  | some c => exact .ok _

theorem addSetting_failsAs (p : Project α) (e : Xml.Element) :
    Report.FailsAs IsUnplaced (addSetting p e) := by
  unfold addSetting
  split
  · exact .pure _
  split
  · exact (Report.FailsAs.lift (colorOfXml_failsAs e)).bind fun _ => .pure _
  split
  · exact (failsAs_local (e.field_failsAs _)).bind fun _ =>
      (Report.FailsAs.mapM TextStyle.ofXml_failsAs _).bind fun _ => .pure _
  split
  · exact ((SheetType.ofXml_tells e).mono fun _ => IsOfPiece.unplaced).bind fun _ => .pure _
  · exact failsAs_parse _

theorem addSettings_failure (p : Project α) (es : List Xml.Element) (ws : List Warning) {f : Failure}
    (h : ((addSettings p es).run ws).1.2 = some f) : f.IsUnplaced := by
  induction es generalizing p ws with
  | nil => cases h
  | cons e rest ih =>
    rw [addSettings_cons] at h
    rcases hr : (addSetting p e).run.run ws with ⟨g | q, t⟩ <;> rw [hr] at h
    · cases h
      exact addSetting_failsAs p e ws _ t hr
    · exact ih q t h

/-- A problem of reading the settings of a project names their file. -/
theorem addDocument_failure (p : Project α) (document : Except Xml.Refusal Xml.Element) (path : String)
    (ws : List Warning) {f : Failure}
    (h : ((addDocument p document (some path)).run ws).1.2 = some f) : f.IsPlacedSetting path := by
  unfold addDocument at h
  split at h
  · rename_i hread
    cases h
    exact (rootNamed_failsAs document "project" path f hread).2.1
  · rename_i root _
    obtain ⟨g, hg, rfl⟩ := Option.map_eq_some_iff.mp h
    exact (addSettings_failure p root.children ws hg).configuredBy path

/-- The settings of a project do not know which ids are taken. -/
theorem addDocument_spares (p : Project α) (document : Except Xml.Refusal Xml.Element) (path : String)
    (ws : List Warning) {f : Failure}
    (h : ((addDocument p document (some path)).run ws).1.2 = some f) : ¬ f.IsDuplicate := by
  unfold addDocument at h
  split at h
  · rename_i hread
    cases h
    exact (rootNamed_failsAs document "project" path f hread).2.2
  · rename_i root _
    obtain ⟨g, hg, rfl⟩ := Option.map_eq_some_iff.mp h
    exact not_isDuplicate_configuredBy (addSettings_failure p root.children ws hg).not_isDuplicate _

end Project

namespace ColorRef

open Color Text

/-- What the text of a colour comes to. It is a literal, or a name if it has the shape of no literal. A
function fails for the number of its components or for the first bad one, and a name as a template; and a
problem of reading it, in a layout or in the settings of a project, names the file. -/
theorem ofString_reads (source : String) :
    (∀ color, ofString source = .ok (.fixed color) ↔ IsLiteral (trimList source.toList) color) ∧
    (∀ color, IsLiteral (trimList source.toList) color →
      color.red ≤ 255 ∧ color.green ≤ 255 ∧ color.blue ≤ 255 ∧ color.alpha ≤ 255) ∧
    (∀ name, ofString source = .ok (.named name) ↔
      Shapeless (trimList source.toList) ∧ CardText.ofString (trim source) = .ok name) ∧
    (∀ f, ofString source = .error f ↔
      (∃ hasAlpha parts, IsCall (trimList source.toList) hasAlpha parts ∧ Fails source hasAlpha parts f) ∨
        Shapeless (trimList source.toList) ∧ CardText.ofString (trim source) = .error f) ∧
    (∀ f, CardText.ofString (trim source) = .error f →
      (∃ flaw offset, f = .problem (.template (.flaw flaw offset) (trim source))) ∨
        ∃ t, Template.compile (trim source) = .error (.trouble t) ∧ f = .fault (.template t)) ∧
    ∀ path,
      (∀ document name, Report.FailsAs (IsPlaced path)
        (Layout.ofDocument document name (some path) : Report (Layout α))) ∧
      ∀ (p : Project α) document ws f,
        ((p.addDocument document (some path)).run ws).1.2 = some f → f.IsPlacedSetting path :=
  ⟨fun _ => ofString_eq_fixed_iff, fun _ => IsLiteral.bounded, fun _ => ofString_eq_named_iff,
    fun _ => ofString_eq_error_iff, fun _ => CardText.ofString_eq_error,
    fun path => ⟨fun document name => Layout.ofDocument_failsAs document name path,
      fun p document ws _ => Project.addDocument_failure p document path ws⟩⟩

/-- A superscript counts as a digit, but makes no number. -/
theorem ofString_superscript :
    (match ofString "rgb(²,0,0)" with
      | .ok _ => none
      | .error f => some f) = some (.fault (.notWhole "²")) := by
  decide +kernel

end ColorRef

end CardPress
