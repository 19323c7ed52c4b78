import CardPress.Font.Registry
import CardPress.ImageStore
import CardPress.Layout.Reader
import CardPress.Project
import CardPress.Table.File
import CardPress.Xml.Encoding

/-! Loading a project from its folder, with its settings: metadata, colours, styles and sheet types. -/
namespace CardPress.Project

variable {α : Type} [Scalar α]

def colorOfXml (e : Xml.Element) : Except Failure (String × Color) := do
  let name ← e.field "name"
  let value ← e.field "value"
  match ← Color.literal? value with
  | some c => return (Color.canonicalName name, c)
  | none => throw (.configuration (.notLiteralColor name value))

/-- Takes in one setting. -/
def addSetting (p : Project α) (e : Xml.Element) : Report (Project α) := do
  if e.tag = "metadata" then
    return { p with metadata := ⟨e.get? "title", e.get? "author", e.get? "subject", e.get? "keywords"⟩ }
  else if e.tag = "color" then
    let (name, color) ← colorOfXml e
    return { p with colors := p.colors.put name color }
  else if e.tag = "style" then
    let name ← e.field "name"
    let styles ← e.children.mapM TextStyle.ofXml
    return { p with styles := p.styles.put name styles }
  else if e.tag = "sheet-type" then
    let t ← SheetType.ofXml e
    return { p with sheetTypes := p.sheetTypes.put t.name t }
  else throw (.parse (.unexpectedSetting e.tag))

/-- Takes in settings up to the first that fails. -/
def addSettings (p : Project α) : List Xml.Element → StateM (List Warning) (Project α × Option Failure)
  | [] => return (p, none)
  | e :: rest => do
    match ← (addSetting p e).run with
    | .ok p => addSettings p rest
    | .error f => return (p, some f)

/-- Takes in the settings of a document; what was read before a failure stays. -/
def addDocument (p : Project α) (document : Except Xml.Refusal Xml.Element)
    (source : Option String) : StateM (List Warning) (Project α × Option Failure) :=
  match Xml.rootNamed source "project" document with
  | .error f => return (p, some f)
  | .ok root => do
    let (p, failure) ← addSettings p root.children
    return (p, failure.map (·.configuredBy source))

variable {α : Type} [Scalar α]

/-- A computation that also keeps what was read when it fails, taken as one that does not. -/
def settled (r : StateM (List Warning) (Project α × Option Failure)) : Report (Project α) := do
  match ← (r : StateM (List Warning) (Project α × Option Failure)) with
  | (p, none) => return p
  | (_, some f) => throw f

def imageEndings : List String :=
  [".png", ".jpg", ".jpeg", ".gif", ".bmp", ".tif", ".tiff", ".webp"]

def dataEndings : List String := [".csv", ".xlsx", ".xlsm"]

/-- Takes in the settings, if there is a file with them. -/
def loadSettings (t : FileTree) (root : Path) (p : Project α) : Report (Project α) := do
  let path := root ++ ["project.xml"]
  if t.isFile path then
    let bytes ← t.readBytes path
    settled (p.addDocument (Xml.Element.ofBytes bytes) (some path.text))
  else return p

/-- Adds a layout, which is named by its file. -/
def loadLayout (t : FileTree) (p : Project α) (path : Path) : Report (Project α) := do
  let bytes ← t.readBytes path
  return p.addLayout (← Layout.ofDocument (Xml.Element.ofBytes bytes) path.stem (some path.text))

def isLayoutFile (path : Path) : Bool := ".xml".toList.isSuffixOf path.name.toList

/-- An image is named by its path below the folder of images, without the ending. -/
def addImage (root : Path) (p : Project α) (path : Path) : Project α :=
  let inner : Path := path.drop (root.length + 1)
  { p with images := p.images.put inner.withoutEnding.text path.text }

def isImageFile (path : Path) : Bool := imageEndings.contains path.kind

def addFont (p : Project α) (path : Path) : Project α := { p with fonts := p.fonts ++ [path.stem] }

/-- A name that begins so belongs to a file that is open elsewhere. -/
def isLock (path : Path) : Bool := "~$".toList.isPrefixOf path.name.toList

def isDataFile (path : Path) : Bool := dataEndings.contains path.kind && !isLock path

def loadCards (t : FileTree) (p : Project α) (path : Path) : Report (Project α) := do
  let cards ← Card.ofFile t path
  settled (pure (p.addCards s!"in {path.text}" cards))

/-- Loads settings, layouts, images, fonts and cards, in this order. -/
def load (t : FileTree) (root : Path) : Report (Project α) := do
  if !t.isFolder root then throw (.configuration (.noProjectFolder root.text))
  let p ← loadSettings t root {}
  let layouts := (t.children (root ++ ["layouts"])).filter isLayoutFile
  let p ← layouts.foldlM (loadLayout t) p
  let p := ((t.filesBelow (root ++ ["images"])).filter isImageFile).foldl (addImage root) p
  let p := ((t.children (root ++ ["fonts"])).filter (·.kind = ".ttf")).foldl addFont p
  let p ← ((t.children (root ++ ["data"])).filter isDataFile).foldlM (loadCards t) p
  if p.layouts.entries.isEmpty then warn (.noLayouts root.text)
  return p

/-- What the image files of a tree show. -/
def photos (t : FileTree) : Photos := fun path =>
  match t.file? (Path.ofString path) with
  | some (.picture p) => some p
  | _ => none

end CardPress.Project
