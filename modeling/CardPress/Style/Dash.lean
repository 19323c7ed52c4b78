import CardPress.Failure
import CardPress.Number.Scalar
import CardPress.Text.Case

/-! Dash patterns: marks and gaps drawn as text, and as the lengths that they stand for. -/
namespace CardPress

/-- Mark and gap lengths in turn, a mark first. -/
inductive DashPattern where
  | solid
  | dashes (segments : List Nat)
  deriving DecidableEq, Repr

namespace DashPattern

/-- The length of a mark. -/
def markLength? (c : Char) : Option Nat :=
  if c = '.' then some 1 else if c = '-' then some 3 else none

/-- The lengths from inside a mark or a gap on, which is `length` long so far; of text that is no
pattern, its first wrong character and how far that is from here. -/
def segmentsFrom (inMark : Bool) (length : Nat) : List Char → Except (Char × Nat) (List Nat)
  | [] => .ok [length]
  | c :: cs =>
    let onward := fun e : Char × Nat => (e.1, e.2 + 1)
    match markLength? c with
    | some n =>
      if inMark then (segmentsFrom true (length + n) cs).mapError onward
      else ((segmentsFrom true n cs).map (length :: ·)).mapError onward
    | none =>
      if c != ' ' then .error (c, 0)
      else if inMark then ((segmentsFrom false 1 cs).map (length :: ·)).mapError onward
      else (segmentsFrom false (length + 1) cs).mapError onward

/-- Reads a pattern: a preset, or marks and gaps as they are drawn. -/
def ofString (s : String) : Except Failure DashPattern :=
  let word := Text.lower (Text.trim s)
  if word = "" || word = "solid" then .ok solid
  else if word = "dotted" then .ok (dashes [1, 1])
  else if word = "dashed" then .ok (dashes [3, 1])
  else
    match segmentsFrom true 0 s.toList with
    | .ok segments => .ok (dashes segments)
    | .error (c, offset) => .error (.parse (.dashCharacter c s offset))

/-- Lengths drawn as text, from a mark or a gap on. -/
def drawFrom (inMark : Bool) : List Nat → List Char
  | [] => []
  | n :: rest => List.replicate n (if inMark then '.' else ' ') ++ drawFrom (!inMark) rest

/-- Marks drawn as dots and gaps as spaces; reading the text gives the lengths back. -/
def draw (segments : List Nat) : String := String.ofList (drawFrom true segments)

variable {α : Type} [Scalar α]

/-- The lengths for a stroke of some width; nothing for a solid line. -/
def scaled (pattern : DashPattern) (width : α) : Except Failure (Option (List α)) :=
  match pattern with
  | solid => .ok none
  | dashes segments =>
    let lengths := segments.map fun n => Scalar.ofNat n * width
    if Scalar.sum lengths ≤ Scalar.zero then
      .error (.problem (.render (.noDashLength segments (Scalar.text width))))
    else .ok (some lengths)

end DashPattern

end CardPress
