import CardPress.Font.Registry
import CardPress.ImageStore
import CardPress.Markup
import CardPress.Paint.Canvas
import CardPress.Project

/-! Drawing a card: its layout is walked in order, and what is seen is painted. -/
namespace CardPress

/-- What painting goes to: a page takes fonts into use, a listing does not. -/
inductive Surface where
  | page
  | listing
  deriving DecidableEq, Repr

/-- What is drawn from, and what it is drawn on. -/
structure Scene (α : Type) where
  project : Project α
  photos : Photos
  surface : Surface
  card : Card
  layout : Layout α

/-- What was painted so far, and what drawing leaves behind for the cards that follow. -/
structure Studio (α : Type) where
  calls : List (PaintCall α) := []
  fonts : FontRegistry := []
  images : ImageStore := {}
  warnings : List Warning := []

/-- What was painted before a failure stays painted. -/
abbrev Draw (α : Type) := ExceptT Failure (StateM (Studio α))

def ScaleMode.ofText (s : String) : Except Failure ScaleMode :=
  match ScaleMode.ofName? s with
  | some mode => .ok mode
  | _ => .error (.problem (.render (.badScaleMode s)))

/-- Where an image lies, and whether it is cut off at its frame. -/
def ScaleMode.place {α : Type} [Scalar α] (mode : ScaleMode) (frame : Frame α) (width height : α) :
    Except Failure (Frame α × Bool) := do
  let centered (factor : α) : Frame α :=
    let w := width * factor
    let h := height * factor
    let (x, y) := frame.center
    ⟨x - w / Scalar.ofNat 2, y - h / Scalar.ofNat 2, w, h⟩
  let ratios : Except Failure (α × α) := do
    let across ← (Scalar.divide frame.width width).mapError .arithmetic
    let down ← (Scalar.divide frame.height height).mapError .arithmetic
    return (across, down)
  match mode with
  | .stretch => return (frame, false)
  | .fit =>
    let (across, down) ← ratios
    return (centered (Scalar.smaller across down), false)
  | .fill =>
    let (across, down) ← ratios
    return (centered (Scalar.larger across down), true)
  | .none => return (centered (Scalar.ofNat 1), true)

namespace Draw

variable {α : Type} [Scalar α]

def note (w : Warning) : Draw α Unit := modify fun s => { s with warnings := s.warnings ++ [w] }

def paint (scene : Scene α) (call : PaintCall α) : Draw α Unit :=
  modify fun s =>
    { s with
      calls := s.calls ++ [call]
      fonts := if scene.surface = .page then s.fonts.useAll call.fontsUsed else s.fonts }

def paintAll (scene : Scene α) (calls : List (PaintCall α)) : Draw α Unit :=
  calls.forM (paint scene)

def loadImage (scene : Scene α) (name : String) : Draw α (Option Picture) := do
  let s ← get
  let (result, images) := s.images.load scene.photos scene.project.images name
  set { s with images }
  result

/-- A shape in a frame; the layout's base styles come before its own. -/
def shape (scene : Scene α) (frame : Frame α) (styles : List (PathStyle α)) : Draw α Unit := do
  let all := scene.layout.basePathStyles ++ styles
  match ← ShapeStyle.resolve all scene.card (scene.project.resolveColor scene.card) with
  | none => return
  | some style => do
    match style.fill with
    | some color => paint scene (.fill frame color)
    | none => pure ()
    match style.strokeColor with
    | some color =>
      if style.hasStroke then paint scene (.stroke frame style.strokeWidth color style.dashes)
    | none => pure ()

/-- What stands for an image that is not there: a crossed box with the name in it. -/
def missingImageCalls (fonts : FontRegistry) (dpi : α) (frame : Frame α) (name : String) :
    List (PaintCall α) :=
  let right := frame.x + frame.width
  let bottom := frame.y + frame.height
  let blue := Color.blueColor
  let one := Scalar.ofNat 1
  let run : TextRun α :=
    { text := name, font := Font.forStyle fonts none .normal none
      size := Scalar.ofNat 6 * dpi / Scalar.ofNat 72, color := blue }
  [.save, .clip frame, .fill frame .white, .stroke frame one blue none,
    .line frame.x frame.y right bottom one blue, .line right frame.y frame.x bottom one blue,
    .text [run] frame .left, .restore]

def image (scene : Scene α) (name : CardText) (frame : Frame α) (scale : ScaleMode) :
    Draw α Unit := do
  let name ← name.render scene.card
  match ← loadImage scene name with
  | none => do
    note (.missingImage scene.card.id name)
    let s ← get
    paintAll scene (missingImageCalls s.fonts scene.layout.geometry.dpi frame name)
  | some picture => do
    let (place, clipped) ←
      scale.place frame (Scalar.ofNat picture.width) (Scalar.ofNat picture.height)
    if clipped then paintAll scene [.save, .clip frame, .image picture place, .restore]
    else paint scene (.image picture place)

/-- The style of a text element: the layout's base, the named styles, and its own. -/
def baseStyle (scene : Scene α) (name : Option String) (styles : List (TextStyle α)) :
    Draw α (FlatTextStyle α) := do
  let base := ({} : FlatTextStyle α).apply scene.layout.baseTextStyles
  match name with
  | none => return base.apply styles
  | some "" => return base.apply styles
  | some name =>
    match scene.project.styleSet? name with
    | some named => return (base.apply named).apply styles
    | none => do
      note (.unknownTextStyle scene.card.id name)
      return base.apply styles

/-- A run of text, or of an icon, in a style. -/
def textRun (scene : Scene α) (text : String) (style : FlatTextStyle α) (icon : Option Picture) :
    Draw α (TextRun α) := do
  let size :=
    match style.size with
    | some s => s.pixels scene.layout.geometry.dpi
    | none => Scalar.ofNat 14
  let resolve := scene.project.resolveColor scene.card
  let color ←
    match style.foreground with
    | some c => resolve c
    | none => pure Color.black
  let background ←
    match style.background with
    | some c => do
      let b ← resolve c
      pure (some b)
    | none => pure none
  let s ← get
  let font := Font.forStyle s.fonts style.family style.weight style.slant
  return ⟨text, font, size, color, background, icon⟩

/-- The style inside a tag; a tag that is unknown, or whose conditions fail, changes nothing. -/
def pushed (scene : Scene α) (tag : String) (style : FlatTextStyle α) : Draw α (FlatTextStyle α) := do
  match scene.project.styleSet? tag with
  | none => do
    note (.unknownTag scene.card.id tag)
    return style
  | some styles => do
    let inner := style.apply styles
    if ← Condition.allHold scene.card (inner.conditions.drop style.conditions.length) then
      return inner
    else do
      note (.hiddenTag scene.card.id tag)
      return style

/-- The run of a placeholder: its icon, or its text if it has none. -/
def placeholderRun (scene : Scene α) (name : String) (style : FlatTextStyle α) :
    Draw α (TextRun α) := do
  match ← loadImage scene name with
  | some icon => textRun scene "" style (some icon)
  | none => do
    note (.missingIcon scene.card.id name)
    textRun scene (":" ++ name ++ ":") style none

/-- The runs of marked-up text; `tags` are the open tags with the styles inside them, the innermost
first. -/
def textRuns (scene : Scene α) (base : FlatTextStyle α) (tags : List (String × FlatTextStyle α)) :
    List Instruction → Draw α (List (TextRun α))
  | [] => return []
  | i :: rest => do
    let style := (tags.head?.map Prod.snd).getD base
    match i with
    | .text s => do
      let run ← textRun scene s style none
      let more ← textRuns scene base tags rest
      return run :: more
    | .placeholder name => do
      let run ← placeholderRun scene name style
      let more ← textRuns scene base tags rest
      return run :: more
    | .push tag => do
      let inner ← pushed scene tag style
      textRuns scene base ((tag, inner) :: tags) rest
    | .pop tag =>
      match tags with
      | [] => do
        note (.strayClosingTag scene.card.id tag)
        textRuns scene base [] rest
      | (opened, _) :: outer => do
        if opened != tag then note (.crossedTags scene.card.id tag opened)
        textRuns scene base outer rest

def text (scene : Scene α) (contents : CardText) (frame : Frame α) (name : Option String)
    (styles : List (TextStyle α)) : Draw α Unit := do
  let base ← baseStyle scene name styles
  if ← Condition.allHold scene.card base.conditions then do
    let s ← contents.render scene.card
    let runs ← textRuns scene base [] (Markup.parse s)
    if !runs.isEmpty then paint scene (.text runs frame base.align)

mutual

/-- Draws an element inside a frame of some width and height. -/
def element (scene : Scene α) (width height : α) : Element α → Draw α Unit
  | .background styles => shape scene ⟨Scalar.zero, Scalar.zero, width, height⟩ styles
  | .rectangle frame styles => shape scene frame styles
  | .text contents frame style styles => text scene contents frame style styles
  | .image name frame scale => image scene name frame scale
  | .box frame children => do
    paintAll scene [.save, .translate frame.x frame.y,
      .clip ⟨Scalar.zero, Scalar.zero, frame.width, frame.height⟩]
    elements scene frame.width frame.height children
    paint scene .restore

def elements (scene : Scene α) (width height : α) : List (Element α) → Draw α Unit
  | [] => return
  | e :: rest => do
    element scene width height e
    elements scene width height rest

end

/-- Draws a card. -/
def card (scene : Scene α) : Draw α Unit :=
  let g := scene.layout.geometry
  elements scene g.width g.height scene.layout.elements

end Draw

end CardPress
