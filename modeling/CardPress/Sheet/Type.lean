import CardPress.Layout.Field
import CardPress.Report
import CardPress.Sheet.Automatic
import CardPress.Sheet.Manual

/-! Sheet types: what a project says about its sheets, and the sheets that this comes to. -/
namespace CardPress

structure SheetType (α : Type) where
  name : String
  units : String
  page : Size α
  card : Size α
  automatic : Option (AutomaticPlacement α)
  manual : Option (ManualPlacement α)

variable {α : Type} [Scalar α]

namespace SheetType

/-- The sheet; manual placement goes before automatic. -/
def compile (t : SheetType α) : Report (Sheet α) := do
  let unit ← LengthUnit.ofString t.units
  let (slots, lines) ←
    match t.manual, t.automatic with
    | some manual, automatic => do
      if automatic.isSome then warn (.twoPlacements t.name)
      pure (manual.compile unit.points)
    | none, some automatic => automatic.compile t.page t.card unit.points
    | none, none => throw (.configuration (.noPlacement t.name))
  return ⟨t.page.width, t.page.height, t.card.width, t.card.height, lines, slots⟩

end SheetType

/-- A size by its name, or by width and height in the unit of the sheet. -/
def Size.ofXml (e : Xml.Element) (scale : α)
    (named : String → Option String → Except Failure (Size α)) : Except Failure (Size α) := do
  let orientation := e.get? "orientation"
  match e.get? "name" with
  | some name => named name orientation
  | none =>
    let width ← e.singleNumber? "width"
    let height ← e.singleNumber? "height"
    match width, height with
    | some w, some h => Size.oriented ⟨w * scale, h * scale⟩ orientation
    | _, _ => throw (.configuration (.incompleteSize e.tag))

namespace AutomaticPlacement

def addXml (p : AutomaticPlacement α) (e : Xml.Element) : Report (AutomaticPlacement α) := do
  if e.tag = "margins" then
    return { p with margins := ← Insets.marginsOfList (← numbers "margins" e.text) }
  else if e.tag = "gutter" then
    return { p with gutter := ← Gutter.ofList (← numbers "gutter" e.text) }
  else if e.tag = "crop-lines" then
    let word := Text.lower (Text.trim ((e.get? "length").getD "margin"))
    match CropLength.ofName? word with
    | some crop => return { p with crop := some crop }
    | none => do
      warn (.unknownCropLength word)
      return { p with crop := some .margin }
  else throw (.parse (.unexpectedChild e.tag "automatic"))

def ofXml (e : Xml.Element) : Report (AutomaticPlacement α) := do
  let p ← e.children.foldlM addXml ⟨.zero, .zero, .left, none⟩
  let align ← GridAlignment.ofName (Text.lower (Text.trim ((e.get? "align").getD "left")))
  return { p with align }

end AutomaticPlacement

/-- The axis along which a card is mirrored. -/
def Axis.ofField? (e : Xml.Element) : Except Failure (Option Axis) :=
  match (e.get? "flip").or (e.get? "reflect") with
  | none => .ok none
  | some s =>
    let word := Text.lower (Text.trim s)
    match Axis.ofName? word with
    | some axis => .ok (some axis)
    | none => .error (.configuration (.badFlipAxis word))

def Slot.ofXml (e : Xml.Element) : Except Failure (Slot α) := do
  let reflect ← Axis.ofField? e
  let x ← e.numberField ["x"]
  let y ← e.numberField ["y"]
  let rotate ← e.singleNumber? "rotate"
  return ⟨x, y, rotate, reflect⟩

def ManualCropLine.ofXml (e : Xml.Element) : Except Failure (ManualCropLine α) := do
  match Axis.ofName? e.tag with
  | none => throw (.parse (.unexpectedChild e.tag "crop-lines"))
  | some axis =>
    let offset ← e.numberField [if axis = .horizontal then "y" else "x"]
    return ⟨axis, offset, ← e.singleNumber? "length"⟩

namespace ManualPlacement

/-- The length of the last block of crop lines is that of all lines that give none. -/
def addXml (p : ManualPlacement α) (e : Xml.Element) : Except Failure (ManualPlacement α) := do
  if e.tag = "card" then return { p with slots := p.slots ++ [← Slot.ofXml e] }
  else if e.tag = "crop-lines" then
    let cropLength ← e.singleNumber? "length"
    let lines ← e.children.mapM ManualCropLine.ofXml
    return { p with cropLines := p.cropLines ++ lines, cropLength }
  else throw (.parse (.unexpectedChild e.tag "manual"))

def ofXml (e : Xml.Element) : Except Failure (ManualPlacement α) :=
  e.children.foldlM addXml ⟨[], [], none⟩

end ManualPlacement

namespace SheetType

/-- The parts of a sheet type that were read so far. -/
structure Draft (α : Type) where
  page : Option (Size α) := none
  card : Option (Size α) := none
  automatic : Option (AutomaticPlacement α) := none
  manual : Option (ManualPlacement α) := none

def Draft.add (scale : α) (d : Draft α) (e : Xml.Element) : Report (Draft α) := do
  if e.tag = "page-size" then return { d with page := some (← Size.ofXml e scale Size.ofPageName) }
  else if e.tag = "card-size" then
    return { d with card := some (← Size.ofXml e scale Size.ofCardName) }
  else if e.tag = "automatic" then return { d with automatic := some (← AutomaticPlacement.ofXml e) }
  else if e.tag = "manual" then return { d with manual := some (← ManualPlacement.ofXml e) }
  else throw (.parse (.unexpectedChild e.tag "sheet-type"))

def ofXml (e : Xml.Element) : Report (SheetType α) := do
  let name ← e.field "name"
  let units := (e.get? "units").getD "in"
  let unit ← LengthUnit.ofString units
  let d ← e.children.foldlM (Draft.add unit.points) {}
  match d.page, d.card with
  | none, _ => throw (.configuration (.noPageSize name))
  | _, none => throw (.configuration (.noCardSize name))
  | some page, some card => return ⟨name, units, page, card, d.automatic, d.manual⟩

end SheetType

end CardPress
