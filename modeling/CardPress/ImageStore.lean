import CardPress.Failure
import CardPress.Named
import CardPress.Typeset

/-! The images of a run: each file is decoded when it is first asked for and kept from then on. -/
namespace CardPress

/-- What the file at a path shows, if it shows anything. -/
abbrev Photos := String → Option Picture

/-- Pixels of a rare kind are decoded to colours with transparency. -/
def Picture.decoded (p : Picture) : Picture :=
  if p.mode = "RGB" || p.mode = "RGBA" || p.mode = "L" then p else { p with mode := "RGBA" }

/-- `κ` is what is kept for a name: the picture, or a copy of it that can be told from other copies. -/
structure ImageStore (κ : Type := Picture) where
  images : Named κ := .empty
  decodeCount : Nat := 0

namespace ImageStore

variable {κ : Type}

def lookUp (s : ImageStore κ) (name : String) : Option κ := s.images.get? name

/-- Counts a decoded picture and keeps it unless there is one of that name; gives the one kept. -/
def keep (s : ImageStore κ) (name : String) (picture : κ) : κ × ImageStore κ :=
  match s.images.get? name with
  | some first => (first, { s with decodeCount := s.decodeCount + 1 })
  | none => (picture, ⟨s.images.put name picture, s.decodeCount + 1⟩)

def decode (photos : Photos) (name path : String) : Except Failure Picture :=
  match photos path with
  | some p => .ok p.decoded
  | none => .error (.problem (.render (.undecodableImage name path)))

/-- The picture of a name, if the name leads to a file. -/
def load (photos : Photos) (paths : Named String) (name : String) (s : ImageStore) :
    Except Failure (Option Picture) × ImageStore :=
  match s.lookUp name with
  | some p => (.ok (some p), s)
  | none =>
    match paths.get? name with
    | none => (.ok none, s)
    | some path =>
      match decode photos name path with
      | .error f => (.error f, s)
      | .ok p =>
        let (kept, s) := s.keep name p
        (.ok (some kept), s)

end ImageStore

end CardPress
