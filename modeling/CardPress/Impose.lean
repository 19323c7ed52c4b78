import CardPress.Render
import CardPress.Sheet

/-! Imposition: finished cards are put on the slots of sheet pages. -/
namespace CardPress

/-- Sends (x, y) to (a x + c y + e, b x + d y + f). -/
structure Transform (α : Type) where
  a : α
  b : α
  c : α
  d : α
  e : α
  f : α

/-- A rectangle from its bottom left corner, in points. -/
abbrev Area := Frame

variable {α : Type} [Scalar α]

namespace Transform

def identity : Transform α :=
  ⟨Scalar.ofNat 1, Scalar.zero, Scalar.zero, Scalar.ofNat 1, Scalar.zero, Scalar.zero⟩

def apply (t : Transform α) (x y : α) : α × α := (t.a * x + t.c * y + t.e, t.b * x + t.d * y + t.f)

/-- First `t`, then `u`. -/
def andThen (t u : Transform α) : Transform α where
  a := t.a * u.a + t.b * u.c
  b := t.a * u.b + t.b * u.d
  c := t.c * u.a + t.d * u.c
  d := t.c * u.b + t.d * u.d
  e := t.e * u.a + t.f * u.c + u.e
  f := t.e * u.b + t.f * u.d + u.f

def translate (t : Transform α) (x y : α) : Transform α := { t with e := t.e + x, f := t.f + y }

def scale (t : Transform α) (x y : α) : Transform α :=
  t.andThen ⟨x, Scalar.zero, Scalar.zero, y, Scalar.zero, Scalar.zero⟩

/-- Turns counterclockwise by the angle with this cosine and sine. -/
def rotate (t : Transform α) (cos sin : α) : Transform α :=
  t.andThen ⟨cos, sin, -sin, cos, Scalar.zero, Scalar.zero⟩

end Transform

/-- What is left of a card once its edges are cut off, on its page in points. -/
def Geometry.contentBox (g : Geometry α) : Except Failure (Area α) := do
  let x ← pointsOfPixels g.cut.left g.dpi
  let y ← pointsOfPixels g.cut.bottom g.dpi
  let width ← pointsOfPixels g.contentWidth g.dpi
  let height ← pointsOfPixels g.contentHeight g.dpi
  return ⟨x, y, width, height⟩

/-- The cosine and the sine of an angle in degrees. -/
abbrev Trigonometry (α : Type) := α → Except Failure (α × α)

/-- An infinite angle has neither cosine nor sine. -/
def Trigonometry.float : Trigonometry Float := fun degrees =>
  let radians := degrees * (3.141592653589793 / 180.0)
  if radians.isInf then .error (.fault .infiniteAngle)
  else .ok (Float.cos radians, Float.sin radians)

namespace Slot

/-- Mirrored along an axis, if one is given. -/
def reflected (t : Transform α) : Option Axis → Transform α
  | none => t
  | some .horizontal => t.scale (-Scalar.ofNat 1) (Scalar.ofNat 1)
  | some .vertical => t.scale (Scalar.ofNat 1) (-Scalar.ofNat 1)

/-- Mirrored, and turned clockwise if there is an angle, about the middle of a box at the origin. -/
def turned (trig : Trigonometry α) (reflect : Option Axis) (angle : Option α) (box : Area α)
    (t : Transform α) : Except Failure (Transform α) := do
  let two := Scalar.ofNat 2
  let t := reflected (t.translate (-box.width / two) (-box.height / two)) reflect
  let t ←
    match angle with
    | none => pure t
    | some degrees => do
      let (cos, sin) ← trig (-degrees)
      pure (t.rotate cos sin)
  return t.translate (box.width / two) (box.height / two)

/-- Moves a card's page so that its content box lies on the slot, mirrored and turned clockwise about
the middle of the box. -/
def transform (trig : Trigonometry α) (slot : Slot α) (box : Area α) (pageHeight : α) :
    Except Failure (Transform α) := do
  let t := Transform.identity.translate (-box.x) (-box.y)
  let angle := slot.rotate.filter fun degrees => !Scalar.isZero degrees
  let t ←
    if slot.reflect.isSome || angle.isSome then turned trig slot.reflect angle box t else pure t
  return t.translate slot.x (pageHeight - slot.y - box.height)

end Slot

/-- A card's page and the box that it is cut to, as it is laid on sheets. -/
structure Tile (α : Type) where
  page : Canvas α
  box : Area α

/-- What is laid on a sheet page: the crop lines, or a card's page cut to a box. -/
inductive Merged (α : Type) where
  | cropLines
  | tile (page : Canvas α) (transform : Transform α) (box : Area α)

/-- A deck of sheet pages, each a list of what is laid on it in order. -/
structure Deck (α : Type) where
  width : α
  height : α
  cropLines : Option (Canvas α)
  pages : List (List (Merged α))
  info : List (String × String)

/-- Imposition under way: the pages that were begun, and the tiles that were made, by the ids of their
cards. -/
structure Imposing (α : Type) where
  pages : List (List (Merged α)) := []
  tiles : Named (Tile α) := .empty

/-- What imposition reports; there is no deck if there was nothing to put on it. -/
structure Imposed (α : Type) where
  totalCards : Nat
  cardsPerPage : Nat
  pages : Nat
  deck : Option (Deck α)

namespace Impose

/-- A page with nothing but the crop lines, if there are any. -/
def cropPage (sheet : Sheet α) : Option (Canvas α) :=
  let lines := sheet.segments.map fun s => CanvasCall.line s.x0 s.y0 s.x1 s.y1
  if lines.isEmpty then none
  else
    some ⟨sheet.pageWidth, sheet.pageHeight,
      [.setLineWidth (Scalar.decimal 5 1), .setStrokeBlack] ++ lines ++ [.save]⟩

/-- A new page has nothing on it but the crop lines. -/
def newPage (sheet : Sheet α) : List (Merged α) :=
  if (cropPage sheet).isSome then [.cropLines] else []

/-- Lays something on the last page. -/
def lay (m : Merged α) : List (List (Merged α)) → List (List (Merged α))
  | [] => []
  | [page] => [page ++ [m]]
  | page :: more => page :: lay m more

/-- The tile of a card, which is made when the first card of its id is met. -/
def tileOf (card : RenderedCard α) (tiles : Named (Tile α)) :
    Except Failure (Tile α × Named (Tile α)) :=
  match tiles.get? card.id with
  | some tile => .ok (tile, tiles)
  | none => do
    let box ← card.geometry.contentBox
    return (⟨card.page, box⟩, tiles.put card.id ⟨card.page, box⟩)

/-- Lays a card on a slot of the last page. -/
def place (trig : Trigonometry α) (sheet : Sheet α) (slot : Slot α) (card : RenderedCard α)
    (s : Imposing α) : Except Failure (Imposing α) := do
  let (tile, tiles) ← tileOf card s.tiles
  let box ← card.geometry.contentBox
  let transform ← slot.transform trig box sheet.pageHeight
  return ⟨lay (.tile tile.page transform tile.box) s.pages, tiles⟩

/-- Begins a page for every first of as many cards as there are slots. -/
def turnPage (sheet : Sheet α) (index : Nat) (s : Imposing α) : Imposing α :=
  if index % sheet.slots.length = 0 then { s with pages := s.pages ++ [newPage sheet] } else s

/-- The slot of a card by its number in the deck; slots are taken in turn. -/
def slotAt (sheet : Sheet α) (h : sheet.slots ≠ []) (index : Nat) : Slot α :=
  sheet.slots.get ⟨index % sheet.slots.length, Nat.mod_lt _ (List.length_pos_iff.mpr h)⟩

/-- Lays cards on the slots in turn; the first of them is card number `index` of the deck. -/
def placeFrom (trig : Trigonometry α) (sheet : Sheet α) (h : sheet.slots ≠ []) (index : Nat) :
    List (RenderedCard α) → Imposing α → Except Failure (Imposing α)
  | [], s => .ok s
  | card :: rest, s => do
    let s ← place trig sheet (slotAt sheet h index) card (turnPage sheet index s)
    placeFrom trig sheet h (index + 1) rest s

/-- What the finished document says about itself. -/
def info (m : Metadata) : List (String × String) :=
  let entry (key : String) (text : Option String) : List (String × String) :=
    (text.filter (· != "")).toList.map fun s => (key, s)
  [("/Creator", Metadata.creator), ("/Producer", Metadata.creator)] ++ entry "/Title" m.title
    ++ entry "/Author" m.author ++ entry "/Subject" m.subject ++ entry "/Keywords" m.keywords

/-- Puts cards on the slots of a sheet, page after page; `path` is where the deck is to go. -/
def cards (trig : Trigonometry α) (sheet : Sheet α) (m : Metadata) (path : String)
    (cs : List (RenderedCard α)) : Report (Imposed α) := do
  let count := sheet.slots.length
  if cs.isEmpty then
    warn (.nothingToImpose path)
    return ⟨0, count, 0, none⟩
  if h : sheet.slots = [] then throw (.configuration .noSlots)
  else
    let placed ← placeFrom trig sheet h 0 cs {}
    return ⟨cs.length, count, (cs.length + count - 1) / count,
      some ⟨sheet.pageWidth, sheet.pageHeight, cropPage sheet, placed.pages, info m⟩⟩

end Impose

end CardPress
