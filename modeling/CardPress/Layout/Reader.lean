import CardPress.Layout.Field
import CardPress.Xml.Encoding

/-! Reading layouts and the styles in them from documents. -/
namespace CardPress

variable {α : Type} [Scalar α]

namespace Condition

/-- Reads a condition; more right values may stand in children. -/
def ofXml (e : Xml.Element) : Report Condition := do
  let left ← CardText.ofString (← e.field "left")
  let operator ←
    match (e.get? "op").or (e.get? "operator") with
    | none => pure none
    | some s => Operator.ofString? s
  let first ←
    match e.get? "right" with
    | none => pure []
    | some s => do
      let t ← CardText.ofString s
      pure [t]
  let more ← e.children.mapM fun child => do
    if child.tag != "value" then throw (.parse (.unexpectedChild child.tag "only-if"))
    (CardText.ofString child.text : Except Failure CardText)
  let right := first ++ more
  match operator with
  | some op => if right.isEmpty then throw (.parse (.noRightValue op.text))
  | none => pure ()
  make left operator right

end Condition

/-- Reads the field of an element that names a colour. -/
def ColorRef.ofField (e : Xml.Element) : Except Failure ColorRef := do
  ColorRef.ofString (← e.field "color")

def PathStyle.ofXml (e : Xml.Element) : Report (PathStyle α) := do
  if e.tag = "stroke" then
    let width ← e.numberFieldOr "width" (Scalar.ofNat 1)
    let color ← ColorRef.ofString ((e.get? "color").getD "black")
    let pattern ← DashPattern.ofString ((e.get? "pattern").getD "solid")
    return .stroke width color pattern
  else if e.tag = "solid" || e.tag = "fill" then return .solid (← ColorRef.ofField e)
  else if e.tag = "only-if" then return .onlyIf (← Condition.ofXml e)
  else throw (.parse (.unknownPathStyle e.tag))

def TextSize.ofXml (e : Xml.Element) : Except Failure (TextSize α) := do
  let name := Text.lower (Text.trim ((e.get? "units").getD "px"))
  match SizeUnit.ofName? name with
  | none => throw (.parse (.badSizeUnits name))
  | some unit => return ⟨← e.numberField ["value"], unit⟩

def TextStyle.ofXml (e : Xml.Element) : Report (TextStyle α) := do
  if e.tag = "font" then
    let slant := (e.get? "slant").or (e.get? "style")
    return .font (e.get? "family") ((e.get? "weight").map FontWeight.ofKeyword)
      ((e.get? "width").map FontWidth.ofKeyword) (slant.map FontSlant.ofKeyword)
  else if e.tag = "size" then return .size (← TextSize.ofXml e)
  else if e.tag = "align" then return .align (Alignment.ofKeyword ((e.get? "mode").getD e.text))
  else if e.tag = "foreground" || e.tag = "color" then
    return .foreground (← ColorRef.ofField e)
  else if e.tag = "background" then return .background (← ColorRef.ofField e)
  else if e.tag = "only-if" then return .onlyIf (← Condition.ofXml e)
  else throw (.parse (.unknownTextStyle e.tag))

def Frame.ofXml (e : Xml.Element) : Except Failure (Frame α) := do
  let x ← e.numberFieldOr "x" Scalar.zero
  let y ← e.numberFieldOr "y" Scalar.zero
  let width ← e.numberField ["w", "width"]
  let height ← e.numberField ["h", "height"]
  return ⟨x, y, width, height⟩

def Geometry.ofXml (e : Xml.Element) : Except Failure (Geometry α) := do
  let width ← e.numberField ["width", "w"]
  let height ← e.numberField ["height", "h"]
  let cut ← Insets.ofField "cut" (e.get? "cut")
  let safe ← Insets.ofField "safe" (e.get? "safe")
  let dpi ← e.numberFieldOr "dpi" (Scalar.ofNat 300)
  return ⟨width, height, cut, safe, dpi⟩

namespace Element

/-- The contents of a text element, where the last child of that name wins, and its styles. -/
def textParts (contents : Option String) (styles : List (TextStyle α)) :
    List Xml.Element → Report (Option String × List (TextStyle α))
  | [] => return (contents, styles)
  | child :: rest => do
    if child.tag = "contents" then textParts (some child.text) styles rest
    else
      let style ← TextStyle.ofXml child
      textParts contents (styles ++ [style]) rest

def textOfXml (e : Xml.Element) : Report (Element α) := do
  let (contents, styles) ← textParts (e.get? "contents") [] e.children
  let contents ← CardText.ofString (contents.getD "")
  let frame ← Frame.ofXml e
  return .text contents frame (e.get? "style") styles

def imageOfXml (e : Xml.Element) : Report (Element α) := do
  let name := Text.lower (Text.trim ((e.get? "scale").getD "fit"))
  match ScaleMode.ofName? name with
  | none => throw (.parse (.badScaleMode name))
  | some scale =>
    let name ← CardText.ofString (← e.field "name")
    let frame ← Frame.ofXml e
    return .image name frame scale

mutual

/-- Reads an element and everything in it. -/
def ofXml : Xml.Element → Report (Element α)
  | .mk tag fields inside children =>
    let e : Xml.Element := .mk tag fields inside children
    if tag = "background" then do
      let styles ← children.mapM PathStyle.ofXml
      return .background styles
    else if tag = "rectangle" || tag = "rect" then do
      let frame ← Frame.ofXml e
      let styles ← children.mapM PathStyle.ofXml
      return .rectangle frame styles
    else if tag = "text" then textOfXml e
    else if tag = "image" then imageOfXml e
    else if tag = "box" then do
      let frame ← Frame.ofXml e
      let inner ← ofXmls children
      return .box frame inner
    else throw (.parse (.unknownElement tag))

def ofXmls : List Xml.Element → Report (List (Element α))
  | [] => return []
  | e :: rest => do
    let first ← ofXml e
    let more ← ofXmls rest
    return first :: more

end

end Element

namespace Layout

/-- The parts of a layout that were read so far. -/
structure Draft (α : Type) where
  geometry : Option (Geometry α) := none
  path : List (PathStyle α) := []
  text : List (TextStyle α) := []
  elements : List (Element α) := []

namespace Draft

def addBase (d : Draft α) (e : Xml.Element) : Report (Draft α) := do
  if e.tag = "path" then
    let styles ← e.children.mapM PathStyle.ofXml
    return { d with path := d.path ++ styles }
  else if e.tag = "text" then
    let styles ← e.children.mapM TextStyle.ofXml
    return { d with text := d.text ++ styles }
  else throw (.parse (.unexpectedChild e.tag "base"))

def add (d : Draft α) (e : Xml.Element) : Report (Draft α) := do
  if e.tag = "geometry" then return { d with geometry := some (← Geometry.ofXml e) }
  else if e.tag = "base" then e.children.foldlM addBase d
  else
    let element ← Element.ofXml e
    return { d with elements := d.elements ++ [element] }

end Draft

def ofRoot (root : Xml.Element) (name : String) : Report (Layout α) := do
  let d ← root.children.foldlM Draft.add ({} : Draft α)
  match d.geometry with
  | none => throw (.parse .noGeometry)
  | some geometry => return ⟨name, geometry, d.path, d.text, d.elements⟩

end Layout

/-- A document that is refused, as a failure of the file that it stands in. -/
def Xml.Refusal.failure (source : Option String) : Refusal → Failure
  | .malformed m => .problem (.parse (.malformed m) source (some m.line))
  | r => .fault (.ofRefusal r)

/-- The root element of a document, which must have a certain name. -/
def Xml.rootNamed (source : Option String) (expected : String)
    (document : Except Refusal Xml.Element) : Except Failure Xml.Element := do
  let root ← document.mapError (Refusal.failure source)
  if root.tag = expected then return root
  else throw ((Failure.parse (.wrongRoot expected root.tag)).readFrom source)

/-- Reads a layout; `source` names its file in messages. -/
def Layout.ofDocument (document : Except Xml.Refusal Xml.Element) (name : String)
    (source : Option String) : Report (Layout α) := do
  let root ← Xml.rootNamed source "layout" document
  (Layout.ofRoot root name).mapFailure (·.readFrom source)

end CardPress
