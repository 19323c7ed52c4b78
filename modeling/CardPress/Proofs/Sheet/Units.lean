import CardPress.Proofs.Agreement
import CardPress.Proofs.Number.Exact
import CardPress.Sheet.Type
import Mathlib.Algebra.Order.Field.Rat
import Mathlib.Algebra.Order.Ring.Defs
import Mathlib.Data.Option.Defs

/-! Sheets in other units: a sheet type with all its lengths converted to points comes to the same
sheet. -/
namespace CardPress

/-- Numbers that are scaled exactly. Which of them number text stands for is left open, so that every
length has a text in every unit. -/
class Scalar.IsExact (α : Type) [Scalar α] : Prop where
  mul_one (x : α) : x * ofNat 1 = x
  zero_mul (x : α) : zero * x = zero
  mul_le_zero (x : α) {factor : α} (h : zero < factor) : x * factor ≤ zero ↔ x ≤ zero
  points_pos (u : LengthUnit) : zero < (u.points : α)

instance : Scalar.IsExact Rat where
  mul_one := Rat.mul_one
  zero_mul := Rat.zero_mul
  mul_le_zero x _ h := by
    rw [← not_lt, ← not_lt]
    exact not_congr (mul_pos_iff_of_pos_right h)
  points_pos u := by cases u <;> decide +kernel

open Scalar

variable {α : Type} [Scalar α] {factor : α} {e e' : Xml.Element}

/-! Text and fields in another unit. -/

/-- Number text for the length that is `factor` times that of the other; text that is no number stays
none. -/
def Converts (factor : α) (s s' : String) : Prop := number? s' = (number? s).map (· * factor)

/-- The words that lengths are read from. -/
def lengthWords (s : String) : List String :=
  Text.words (String.ofList (s.toList.map fun c => if c = ',' then ' ' else c))

def ConvertsAll (factor : α) (s s' : String) : Prop :=
  List.Forall₂ (Converts factor) (lengthWords s) (lengthWords s')

namespace Xml.Element

/-- What becomes of the text in a field: it is converted if it holds one length or a list of them, and
kept if not. -/
structure ConvertsField (factor : α) (ones lists : List String) (name s s' : String) : Prop where
  one : name ∈ ones → Converts factor s s'
  list : name ∈ lists → ConvertsAll factor s s'
  kept : name ∉ ones → name ∉ lists → s' = s

structure ConvertsFields (factor : α) (ones lists : List String) (e e' : Element) : Prop where
  tag : e'.tag = e.tag
  fields : ∀ name, Option.Rel (ConvertsField factor ones lists name) (e.get? name) (e'.get? name)

namespace ConvertsFields

variable {ones lists : List String} {name : String}

theorem kept (h : e.ConvertsFields factor ones lists e') (hones : name ∉ ones)
    (hlists : name ∉ lists) : e'.get? name = e.get? name := by
  have hfield := h.fields name
  generalize e.get? name = s at hfield
  generalize e'.get? name = s' at hfield
  cases hfield with
  | none => rfl
  | some hfield => rw [hfield.kept hones hlists]

/-- Field by field, if they stand in the same order. -/
theorem of_attributes (htag : e'.tag = e.tag)
    (h : List.Forall₂ (fun f f' => f'.1 = f.1 ∧ ConvertsField factor ones lists f.1 f.2 f'.2)
      e.attributes e'.attributes) : e.ConvertsFields factor ones lists e' := by
  refine ⟨htag, fun name => ?_⟩
  unfold get?
  generalize e.attributes = fs at h
  generalize e'.attributes = fs' at h
  induction h with
  | nil => exact .none
  | @cons f f' _ _ hfield _ ih =>
    obtain ⟨field, s⟩ := f
    obtain ⟨field', s'⟩ := f'
    obtain ⟨rfl, hfield⟩ := hfield
    rw [List.lookup_cons, List.lookup_cons]
    by_cases hname : name = field'
    · subst hname
      simpa using hfield
    · simpa [beq_false_of_ne hname] using ih

end ConvertsFields

end Xml.Element

theorem eq_map_of_forall₂ {β γ : Type} {f : β → γ} {xs : List β} {ys : List γ}
    (h : List.Forall₂ (fun x y => y = f x) xs ys) : ys = xs.map f := by
  induction h with
  | nil => rfl
  | cons hxy _ ih => rw [hxy, ih, List.map_cons]

theorem numbers_agree (what : String) {s s' : String} (h : ConvertsAll factor s s') :
    Agree (fun xs ys => ys = xs.map (· * factor)) (numbers what s) (numbers what s') := by
  have hwords : Agree (List.Forall₂ fun x y => y = x * factor) (numbers what s) (numbers what s') := by
    refine Agree.mapM (fun word word' hword => ?_) h
    unfold Converts at hword
    rw [hword]
    cases (number? word : Option α) with
    | none => exact .error _ _
    | some x => exact .ok rfl
  exact hwords.mono fun _ _ => eq_map_of_forall₂

namespace Xml.Element

variable {ones lists : List String} {name : String}

theorem singleNumber?_agree (h : e.ConvertsFields factor ones lists e') (hname : name ∈ lists) :
    Agree (fun x y : Option α => y = x.map (· * factor)) (e.singleNumber? name)
      (e'.singleNumber? name) := by
  have hfield := h.fields name
  unfold singleNumber?
  rw [h.tag]
  generalize e.get? name = s at hfield
  generalize e'.get? name = s' at hfield
  cases hfield with
  | none => exact .ok rfl
  | some hfield =>
    refine (numbers_agree _ (hfield.list hname)).bind fun xs ys hys => ?_
    subst hys
    match xs with
    | [] | _ :: _ :: _ => exact .error _ _
    | [x] => exact .ok rfl

theorem singleNumber?_kept (h : e.ConvertsFields factor ones lists e') (hones : name ∉ ones)
    (hlists : name ∉ lists) :
    e'.singleNumber? name = (e.singleNumber? name : Except Failure (Option α)) := by
  unfold singleNumber?
  rw [h.tag, h.kept hones hlists]

theorem numberField_agree (h : e.ConvertsFields factor ones lists e') (hname : name ∈ ones) :
    Agree (fun x y => y = x * factor) (e.numberField [name] : Except Failure α)
      (e'.numberField [name]) := by
  have hread : Agree (fun x y => y = x.map (· * factor))
      (e.numberField? [name] : Except Failure (Option α)) (e'.numberField? [name]) := by
    have hfield := h.fields name
    unfold numberField? numberField?
    rw [h.tag]
    generalize e.get? name = s at hfield
    generalize e'.get? name = s' at hfield
    cases hfield with
    | none => exact .ok rfl
    | @some s s' hfield =>
      have hconverts : number? s' = (number? s).map (· * factor) := hfield.one hname
      dsimp only
      rw [hconverts]
      cases (number? s : Option α) with
      | none => exact .error _ _
      | some x => exact .ok rfl
  refine hread.bind fun x y hy => ?_
  subst hy
  cases x with
  | none => exact .error _ _
  | some x => exact .ok rfl

end Xml.Element

/-! The parts of a sheet type in another unit. -/

/-- A size is read in either unit as the same number of points. -/
theorem Size.ofXml_agree [IsExact α] {named : String → Option String → Except Failure (Size α)}
    (h : e.ConvertsFields factor [] ["width", "height"] e') :
    Agree Eq (Size.ofXml e factor named) (Size.ofXml e' (ofNat 1) named) := by
  unfold Size.ofXml
  rw [h.kept (by decide : "name" ∉ _) (by decide),
    h.kept (by decide : "orientation" ∉ _) (by decide)]
  cases e.get? "name" with
  | some name => exact .same _
  | none =>
    refine (Xml.Element.singleNumber?_agree h (by decide : "width" ∈ _)).bind fun w w' hw => ?_
    refine (Xml.Element.singleNumber?_agree h (by decide : "height" ∈ _)).bind fun t t' ht => ?_
    subst hw ht
    cases w with
    | none => cases t <;> exact .error _ _
    | some w =>
      cases t with
      | none => exact .error _ _
      | some t =>
        dsimp only [Option.map_some]
        rw [IsExact.mul_one, IsExact.mul_one]
        exact .same _

namespace AutomaticPlacement

def scaled (p : AutomaticPlacement α) (factor : α) : AutomaticPlacement α :=
  { p with margins := p.margins.scaled factor, gutter := p.gutter.scaled factor }

/-- The keyword for the length of crop lines. -/
def cropWord (e : Xml.Element) : Option CropLength :=
  CropLength.ofName? (Text.lower (Text.trim ((e.get? "length").getD "margin")))

/-- Margins and gutter are converted; what is no keyword may be converted too. -/
structure ConvertsPart (factor : α) (e e' : Xml.Element) : Prop where
  tag : e'.tag = e.tag
  lengths : e.tag = "margins" ∨ e.tag = "gutter" → ConvertsAll factor e.text e'.text
  crop : e.tag = "crop-lines" → cropWord e' = cropWord e

structure ConvertsXml (factor : α) (e e' : Xml.Element) : Prop where
  align : e'.get? "align" = e.get? "align"
  parts : List.Forall₂ (ConvertsPart factor) e.children e'.children

end AutomaticPlacement

theorem Insets.marginsOfList_agree (xs : List α) (factor : α) :
    Agree (fun m n => n = m.scaled factor) (Insets.marginsOfList xs)
      (Insets.marginsOfList (xs.map (· * factor))) :=
  match xs with
  | [] | [_, _, _] | _ :: _ :: _ :: _ :: _ :: _ => .error _ _
  | [_] | [_, _] | [_, _, _, _] => .ok rfl

theorem Gutter.ofList_agree (xs : List α) (factor : α) :
    Agree (fun g g' => g' = g.scaled factor) (Gutter.ofList xs)
      (Gutter.ofList (xs.map (· * factor))) :=
  match xs with
  | [] | _ :: _ :: _ :: _ => .error _ _
  | [_] | [_, _] => .ok rfl

namespace AutomaticPlacement

theorem addXml_agree {p q : AutomaticPlacement α} (hp : q = p.scaled factor)
    (h : ConvertsPart factor e e') :
    Report.Agree (fun p q => q = p.scaled factor) (p.addXml e) (q.addXml e') := by
  subst hp
  unfold addXml
  rw [h.tag]
  split
  · rename_i htag
    refine (Report.Agree.lift (numbers_agree _ (h.lengths (.inl htag)))).bind fun xs ys hys => ?_
    subst hys
    refine (Report.Agree.lift (Insets.marginsOfList_agree xs factor)).bind fun m n hn => ?_
    exact .pure (by rw [hn]; rfl)
  split
  · rename_i htag
    refine (Report.Agree.lift (numbers_agree _ (h.lengths (.inr htag)))).bind fun xs ys hys => ?_
    subst hys
    refine (Report.Agree.lift (Gutter.ofList_agree xs factor)).bind fun g g' hg => ?_
    exact .pure (by rw [hg]; rfl)
  split
  · rename_i htag
    have hcrop := h.crop htag
    unfold cropWord at hcrop
    dsimp only
    rw [hcrop]
    cases CropLength.ofName? (Text.lower (Text.trim ((e.get? "length").getD "margin"))) with
    | some crop => exact .pure rfl
    | none => exact (Report.Agree.warn _ _).bind fun _ _ _ => .pure rfl
  · exact .throw _ _

theorem ofXml_agree [IsExact α] (h : ConvertsXml factor e e') :
    Report.Agree (fun p q => q = p.scaled factor) (ofXml e) (ofXml e') := by
  have hnone : (⟨.zero, .zero, .left, none⟩ : AutomaticPlacement α) =
      scaled ⟨.zero, .zero, .left, none⟩ factor := by
    simp only [scaled, Insets.scaled, Gutter.scaled, Insets.zero, Gutter.zero, IsExact.zero_mul]
  have hparts : Report.Agree (fun p q => q = p.scaled factor)
      (e.children.foldlM addXml ⟨.zero, .zero, .left, none⟩)
      (e'.children.foldlM addXml ⟨.zero, .zero, .left, none⟩) :=
    Report.Agree.foldlM (f := addXml) (g := addXml) (fun _ _ _ _ => addXml_agree) h.parts hnone
  unfold ofXml
  rw [h.align]
  refine hparts.bind fun p q hq => ?_
  refine (Report.Agree.lift (.same _)).bind fun align align' halign => .pure ?_
  rw [hq, halign]
  rfl

/-- Margins and gutter in points need no scaling. -/
theorem compile_scaled [IsExact α] (p : AutomaticPlacement α) (page card : Size α) (factor : α) :
    (p.scaled factor).compile page card (ofNat 1) = p.compile page card factor := by
  simp only [compile, scaled, Insets.scaled, Gutter.scaled, IsExact.mul_one]

end AutomaticPlacement

def Slot.scaled (s : Slot α) (factor : α) : Slot α := { s with x := s.x * factor, y := s.y * factor }

def ManualCropLine.scaled (l : ManualCropLine α) (factor : α) : ManualCropLine α :=
  { l with offset := l.offset * factor, length := l.length.map (· * factor) }

namespace ManualPlacement

def scaled (p : ManualPlacement α) (factor : α) : ManualPlacement α where
  slots := p.slots.map (·.scaled factor)
  cropLines := p.cropLines.map (·.scaled factor)
  cropLength := p.cropLength.map (· * factor)

/-- Crop lines are converted with their offsets and lengths, and slots with their places but not with
the angles that they are turned by. -/
structure ConvertsPart (factor : α) (e e' : Xml.Element) : Prop where
  tag : e'.tag = e.tag
  card : e.tag = "card" → e.ConvertsFields factor ["x", "y"] [] e'
  crop : e.tag = "crop-lines" → e.ConvertsFields factor [] ["length"] e' ∧
    List.Forall₂ (fun line line' => line.ConvertsFields factor ["x", "y"] ["length"] line')
      e.children e'.children

def ConvertsXml (factor : α) (e e' : Xml.Element) : Prop :=
  List.Forall₂ (ConvertsPart factor) e.children e'.children

end ManualPlacement

theorem Slot.ofXml_agree (h : e.ConvertsFields factor ["x", "y"] [] e') :
    Agree (fun s s' => s' = s.scaled factor) (Slot.ofXml e) (Slot.ofXml e') := by
  unfold Slot.ofXml
  have hflip := h.kept (by decide : "flip" ∉ _) (by decide)
  have hreflect := h.kept (by decide : "reflect" ∉ _) (by decide)
  have haxis : Axis.ofField? e' = Axis.ofField? e := by
    unfold Axis.ofField?
    rw [hflip, hreflect]
  rw [haxis, Xml.Element.singleNumber?_kept h (by decide : "rotate" ∉ _) (by decide)]
  refine (Agree.same (Axis.ofField? e)).bind fun axis axis' haxis => ?_
  refine (Xml.Element.numberField_agree h (by decide : "x" ∈ _)).bind fun x x' hx => ?_
  refine (Xml.Element.numberField_agree h (by decide : "y" ∈ _)).bind fun y y' hy => ?_
  refine (Agree.same _).bind fun rotate rotate' hrotate => .ok ?_
  rw [← haxis, hx, hy, ← hrotate]
  rfl

theorem ManualCropLine.ofXml_agree (h : e.ConvertsFields factor ["x", "y"] ["length"] e') :
    Agree (fun l l' => l' = l.scaled factor) (ManualCropLine.ofXml e) (ManualCropLine.ofXml e') := by
  unfold ManualCropLine.ofXml
  rw [h.tag]
  cases Axis.ofName? e.tag with
  | none => exact .error _ _
  | some axis =>
    have hoffset : (if axis = .horizontal then "y" else "x") ∈ ["x", "y"] := by
      split <;> decide
    refine (Xml.Element.numberField_agree h hoffset).bind fun o o' ho => ?_
    refine (Xml.Element.singleNumber?_agree h (by decide : "length" ∈ _)).bind
      fun l l' hl => .ok ?_
    rw [ho, hl]
    rfl

namespace ManualPlacement

theorem addXml_agree {p q : ManualPlacement α} (hp : q = p.scaled factor)
    (h : ConvertsPart factor e e') :
    Agree (fun p q => q = p.scaled factor) (p.addXml e) (q.addXml e') := by
  subst hp
  unfold addXml
  rw [h.tag]
  split
  · rename_i htag
    refine (Slot.ofXml_agree (h.card htag)).bind fun s s' hs => .ok ?_
    simp only [scaled, hs, List.map_append, List.map_singleton]
  split
  · rename_i htag
    obtain ⟨hlength, hlines⟩ := h.crop htag
    refine (Xml.Element.singleNumber?_agree hlength (by decide : "length" ∈ _)).bind
      fun l l' hl => ?_
    refine (Agree.mapM (fun _ _ => ManualCropLine.ofXml_agree) hlines).bind fun ls ls' hls => .ok ?_
    simp only [scaled, hl, eq_map_of_forall₂ hls, List.map_append]
  · exact .error _ _

theorem ofXml_agree (h : ConvertsXml factor e e') :
    Agree (fun p q => q = p.scaled factor) (ofXml e) (ofXml e') := by
  unfold ofXml
  exact Agree.foldlM (f := addXml) (g := addXml) (fun _ _ _ _ => addXml_agree) h rfl

theorem cropLine?_scaled [IsExact α] (hfactor : zero < factor) (p : ManualPlacement α)
    (l : ManualCropLine α) :
    (p.scaled factor).cropLine? (ofNat 1) (l.scaled factor) = p.cropLine? factor l := by
  have hlength : (l.scaled factor).length.or (p.scaled factor).cropLength =
      (l.length.or p.cropLength).map (· * factor) := by
    cases hl : l.length <;> simp [ManualCropLine.scaled, scaled, hl]
  unfold cropLine?
  rw [hlength]
  cases l.length.or p.cropLength with
  | none => rfl
  | some length =>
    dsimp only [Option.map_some]
    rw [if_congr (IsExact.mul_le_zero length hfactor) rfl rfl, IsExact.mul_one, IsExact.mul_one]
    rfl

/-- Slots and crop lines in points need no scaling; as many lines are dropped. -/
theorem compile_scaled [IsExact α] (hfactor : zero < factor) (p : ManualPlacement α) :
    (p.scaled factor).compile (ofNat 1) = p.compile factor := by
  have hlines : (p.scaled factor).cropLines.filterMap ((p.scaled factor).cropLine? (ofNat 1)) =
      p.cropLines.filterMap (p.cropLine? factor) := by
    rw [scaled, List.filterMap_map]
    exact List.filterMap_congr fun l _ => cropLine?_scaled hfactor p l
  have hslots : (p.scaled factor).slots.map
      (fun s => { s with x := s.x * ofNat 1, y := s.y * ofNat 1 }) =
      p.slots.map fun s => { s with x := s.x * factor, y := s.y * factor } := by
    rw [scaled, List.map_map]
    refine List.map_congr_left fun s _ => ?_
    simp only [Function.comp_apply, Slot.scaled, IsExact.mul_one]
  rw [compile, hlines, hslots, compile]

end ManualPlacement

/-! Sheet types in another unit. -/

namespace SheetType

def scaled (t : SheetType α) (factor : α) (units : String) : SheetType α :=
  { t with
    units
    automatic := t.automatic.map (·.scaled factor)
    manual := t.manual.map (·.scaled factor) }

/-- A part of a sheet type with its lengths converted; a size that has a name keeps it. -/
structure ConvertsPart (factor : α) (e e' : Xml.Element) : Prop where
  tag : e'.tag = e.tag
  size : e.tag = "page-size" ∨ e.tag = "card-size" →
    e.ConvertsFields factor [] ["width", "height"] e'
  automatic : e.tag = "automatic" → AutomaticPlacement.ConvertsXml factor e e'
  manual : e.tag = "manual" → ManualPlacement.ConvertsXml factor e e'

/-- The same sheet type in points. -/
structure ConvertsXml (factor : α) (e e' : Xml.Element) : Prop where
  tag : e'.tag = e.tag
  name : e'.get? "name" = e.get? "name"
  units : LengthUnit.ofString ((e'.get? "units").getD "in") = .ok .point
  parts : List.Forall₂ (ConvertsPart factor) e.children e'.children

def Draft.scaled (d : Draft α) (factor : α) : Draft α :=
  { d with
    automatic := d.automatic.map (·.scaled factor)
    manual := d.manual.map (·.scaled factor) }

theorem Draft.add_agree [IsExact α] {d d' : Draft α} (hd : d' = d.scaled factor)
    (h : ConvertsPart factor e e') :
    Report.Agree (fun d d' => d' = d.scaled factor) (d.add factor e) (d'.add (ofNat 1) e') := by
  subst hd
  unfold Draft.add
  rw [h.tag]
  split
  · rename_i htag
    exact (Report.Agree.lift (Size.ofXml_agree (h.size (.inl htag)))).bind fun s s' hs =>
      .pure (by rw [hs]; rfl)
  split
  · rename_i htag
    exact (Report.Agree.lift (Size.ofXml_agree (h.size (.inr htag)))).bind fun s s' hs =>
      .pure (by rw [hs]; rfl)
  split
  · rename_i htag
    exact (AutomaticPlacement.ofXml_agree (h.automatic htag)).bind fun p q hq =>
      .pure (by rw [hq]; rfl)
  split
  · rename_i htag
    exact (Report.Agree.lift (ManualPlacement.ofXml_agree (h.manual htag))).bind fun p q hq =>
      .pure (by rw [hq]; rfl)
  · exact .throw _ _

theorem ofXml_agree [IsExact α] {u : LengthUnit}
    (hunit : LengthUnit.ofString ((e.get? "units").getD "in") = .ok u)
    (h : ConvertsXml (u.points : α) e e') :
    Report.Agree (fun t t' => t.units = (e.get? "units").getD "in" ∧
        t' = t.scaled u.points ((e'.get? "units").getD "in"))
      (ofXml e : Report (SheetType α)) (ofXml e') := by
  have hname : e'.field "name" = e.field "name" := by
    unfold Xml.Element.field
    rw [h.name, h.tag]
  unfold ofXml
  rw [hname]
  refine (Report.Agree.lift (.same _)).bind fun name name' heq => ?_
  subst heq
  dsimp only
  rw [hunit, h.units]
  refine Report.Agree.bind (R := fun v w => u = v ∧ .point = w) (.lift (.ok ⟨rfl, rfl⟩)) ?_
  rintro _ _ ⟨rfl, rfl⟩
  have hparts : Report.Agree (fun d d' => d' = d.scaled (u.points : α))
      (e.children.foldlM (Draft.add u.points) {})
      (e'.children.foldlM (Draft.add (LengthUnit.point.points : α)) {}) :=
    Report.Agree.foldlM (f := Draft.add u.points) (g := Draft.add (ofNat 1))
      (fun _ _ _ _ => Draft.add_agree) h.parts rfl
  refine hparts.bind fun d d' hd => ?_
  subst hd
  dsimp only [Draft.scaled]
  cases d.page with
  | none => exact .throw _ _
  | some page =>
    cases d.card with
    | none => exact .throw _ _
    | some card => exact .pure ⟨rfl, rfl⟩

theorem compile_agree [IsExact α] {u : LengthUnit} {t : SheetType α} {units : String}
    (hunit : LengthUnit.ofString t.units = .ok u) (hunits : LengthUnit.ofString units = .ok .point) :
    Report.Agree Eq t.compile (t.scaled u.points units).compile := by
  unfold compile
  rw [hunit]
  dsimp only [scaled]
  rw [hunits]
  refine Report.Agree.bind (R := fun v w => u = v ∧ .point = w) (.lift (.ok ⟨rfl, rfl⟩)) ?_
  rintro _ _ ⟨rfl, rfl⟩
  have hmanual (p : ManualPlacement α) :
      (p.scaled u.points).compile LengthUnit.point.points = p.compile u.points :=
    p.compile_scaled (IsExact.points_pos u)
  have hautomatic (p : AutomaticPlacement α) :
      (p.scaled u.points).compile t.page t.card LengthUnit.point.points =
        p.compile t.page t.card u.points := p.compile_scaled t.page t.card u.points
  cases t.manual with
  | some manual =>
    simp only [Option.map_some, Option.isSome_map, hmanual]
    split
    · exact (Report.Agree.warn _ _).bind fun _ _ _ => .pure rfl
    · exact .pure rfl
  | none =>
    cases t.automatic with
    | none => exact .throw _ _
    | some automatic =>
      simp only [Option.map_some, Option.map_none, hautomatic]
      refine (Report.Agree.lift (.same _)).bind fun placed placed' heq => ?_
      exact .pure (by rw [heq])

end SheetType

/-- The sheet that a sheet type comes to. -/
def Sheet.ofXml (e : Xml.Element) : Report (Sheet α) := do
  let t ← SheetType.ofXml e
  t.compile

/-- A sheet does not depend on the unit that it is written in. -/
theorem Sheet.ofXml_converts [IsExact α] {u : LengthUnit}
    (hunit : LengthUnit.ofString ((e.get? "units").getD "in") = .ok u)
    (h : SheetType.ConvertsXml (u.points : α) e e') :
    (Sheet.ofXml e' : Report (Sheet α)).outcome.1.toOption =
      (Sheet.ofXml e : Report (Sheet α)).outcome.1.toOption := by
  have hagree : Report.Agree Eq (Sheet.ofXml e : Report (Sheet α)) (Sheet.ofXml e') := by
    unfold Sheet.ofXml
    refine (SheetType.ofXml_agree hunit h).bind fun t t' ⟨hunits, ht⟩ => ?_
    subst ht
    rw [← hunits] at hunit
    exact SheetType.compile_agree hunit h.units
  exact (hagree [] []).toOption_eq

section

variable [DecidableEq α] (factor : α)

instance (s s' : String) : Decidable (Converts factor s s') := inferInstanceAs (Decidable (_ = _))

instance (s s' : String) : Decidable (ConvertsAll factor s s') :=
  inferInstanceAs (Decidable (List.Forall₂ _ _ _))

instance (ones lists : List String) (name s s' : String) :
    Decidable (Xml.Element.ConvertsField factor ones lists name s s') :=
  decidable_of_iff
    ((name ∈ ones → Converts factor s s') ∧ (name ∈ lists → ConvertsAll factor s s') ∧
      (name ∉ ones → name ∉ lists → s' = s))
    ⟨fun h => ⟨h.1, h.2.1, h.2.2⟩, fun h => ⟨h.one, h.list, h.kept⟩⟩

end

/-- A page with a card turned to its side, and a line to cut along at its left. -/
def turnedSheet (units width height x y length : String) : Xml.Element :=
  .mk "sheet-type" [("name", "s"), ("units", units)] "" [
    .mk "page-size" [("width", width), ("height", height)] "" [],
    .mk "card-size" [("name", "poker")] "" [],
    .mk "manual" [] "" [
      .mk "card" [("x", x), ("y", y), ("rotate", "90")] "" [],
      .mk "crop-lines" [("length", length)] "" [.mk "vertical" [("x", x)] "" []]]]

def metricSheet : Xml.Element := turnedSheet "mm" "254" "381" "12.7" "25.4" "12.7"

def pointSheet : Xml.Element := turnedSheet "pt" "720" "1080" "36" "72" "36"

theorem metricSheet_converts :
    SheetType.ConvertsXml (LengthUnit.millimeter.points : Rat) metricSheet pointSheet := by
  have other {a b : String} (h : a ≠ b) {P : Prop} : a = b → P := fun hab => absurd hab h
  refine ⟨rfl, rfl, by decide +kernel, .cons ?page (.cons ?card (.cons ?manual .nil))⟩
  case page =>
    exact ⟨rfl, fun _ => .of_attributes rfl (by decide +kernel), other (by decide), other (by decide)⟩
  case card =>
    exact ⟨rfl, fun _ => .of_attributes rfl (by decide +kernel), other (by decide), other (by decide)⟩
  case manual =>
    refine ⟨rfl, (absurd · (by decide)), other (by decide), fun _ => .cons ?slot (.cons ?lines .nil)⟩
    case slot => exact ⟨rfl, fun _ => .of_attributes rfl (by decide +kernel), other (by decide)⟩
    case lines =>
      exact ⟨rfl, other (by decide), fun _ => ⟨.of_attributes rfl (by decide +kernel),
        .cons (.of_attributes rfl (by decide +kernel)) .nil⟩⟩

theorem Sheet.ofXml_converts_millimeters :
    LengthUnit.ofString ((metricSheet.get? "units").getD "in") = .ok .millimeter ∧
      SheetType.ConvertsXml (LengthUnit.millimeter.points : Rat) metricSheet pointSheet ∧
      ∃ sheet : Sheet Rat, (Sheet.ofXml pointSheet).outcome.1.toOption = some sheet ∧
        (Sheet.ofXml metricSheet).outcome.1.toOption = some sheet ∧ sheet.pageWidth = 720 ∧
        sheet.slots.map (·.x) = [36] ∧ sheet.cropLines.map (·.length) = [36] := by
  have hunit : LengthUnit.ofString ((metricSheet.get? "units").getD "in") = .ok .millimeter := by
    decide +kernel
  have hread : ((Sheet.ofXml metricSheet : Report (Sheet Rat)).outcome.1.toOption.any fun s =>
      s.pageWidth == 720 && s.slots.map (·.x) == [36] && s.cropLines.map (·.length) == [36]) = true := by
    decide +kernel
  obtain ⟨sheet, hmetric, hlengths⟩ := (Option.any_eq_true _ _).mp hread
  refine ⟨hunit, metricSheet_converts, sheet, ?_, hmetric, by simpa [and_assoc] using hlengths⟩
  rw [Sheet.ofXml_converts hunit metricSheet_converts, hmetric]

end CardPress
