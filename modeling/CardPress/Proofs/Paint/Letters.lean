import CardPress.Proofs.Paint.Fonts
import Mathlib.Data.List.SplitBy

/-! The letters that a page is asked to write: what is visible of the runs, in their order. -/
namespace CardPress

variable {α : Type}

namespace Text

/-- What is seen of characters in a row. -/
def visible (cs : List Char) : List Char := cs.filter (!isBlank ·)

theorem visible_of_blank {cs : List Char} (h : cs.all isBlank) : visible cs = [] := by
  refine List.filter_eq_nil_iff.mpr fun c hc => ?_
  simp [List.all_eq_true.mp h c hc]

theorem visible_flatMap {β : Type} (f : β → List Char) (xs : List β) :
    visible (xs.flatMap f) = xs.flatMap fun x => visible (f x) := List.filter_flatMap

end Text

open Text

/-- The characters that a call writes. -/
def CanvasCall.letters : CanvasCall α → List Char
  | drawString s => s.toList
  | _ => []

namespace Typeset

def Token.letters : Token → List Char
  | word s => visible s.toList
  | newline | blank _ => []

/-- What is visible of a fragment, unless its run is an icon or transparent. -/
def fragmentLetters (f : Fragment α) : List Char :=
  if f.run.icon.isSome || f.isBlank || f.run.color.isTransparent then [] else visible f.text.toList

theorem fragmentLetters_of_isBlank (f : Fragment α) (h : f.isBlank = true) :
    fragmentLetters f = [] := by
  simp [fragmentLetters, h]

theorem letters_ofStretch (cs : List Char) : (Token.ofStretch cs).letters = visible cs := by
  unfold Token.ofStretch
  split
  next => rfl
  next => rfl
  next cs =>
    split
    next h => exact (visible_of_blank h).symm
    next => simp [Token.letters]

/-- Cutting text into tokens loses blanks only. -/
theorem letters_tokens (s : String) : (tokens s).flatMap Token.letters = visible s.toList := by
  rw [tokens, List.flatMap_map]
  simp only [letters_ofStretch]
  rw [← visible_flatMap fun cs => cs, List.flatMap_id', List.flatten_splitBy]

variable [Scalar α] {run : TextRun α}

theorem letters_token (hicon : run.icon = none) (hcolor : run.color.isTransparent = false)
    (index : Nat) (t : Token) :
    ((pieceOfToken run index t).fragment?.toList).flatMap fragmentLetters = t.letters := by
  cases t <;> simp [pieceOfToken, Piece.fragment?, fragmentLetters, Token.letters, hicon, hcolor]

theorem letters_piecesOfRun (hicon : run.icon = none) (hcolor : run.color.isTransparent = false)
    (index : Nat) :
    ((piecesOfRun run index).filterMap Piece.fragment?).flatMap fragmentLetters =
      visible run.text.toList := by
  have hpieces : piecesOfRun run index = (tokens run.text).map (pieceOfToken run index) := by
    rw [piecesOfRun, hicon]
  rw [hpieces, List.filterMap_eq_flatMap_toList, List.flatMap_map, List.flatMap_assoc]
  simp only [letters_token hicon hcolor]
  exact letters_tokens run.text

end Typeset

namespace PaintCall

variable [Scalar α]

omit [Scalar α] in
theorem letters_fillCalls (frame : Frame α) (color : Color) :
    (fillCalls frame color).flatMap CanvasCall.letters = [] := by
  unfold fillCalls
  split <;> rfl

theorem letters_placedCalls (p : Placed α) :
    visible ((placedCalls p).flatMap CanvasCall.letters) = Typeset.fragmentLetters p.fragment := by
  rw [flatMap_placedCalls letters_fillCalls fun _ _ => rfl, Typeset.fragmentLetters]
  split
  · rfl
  · simp [stringCalls, CanvasCall.letters]

/-- Of runs without icons and without transparent colours, a page is asked to write all that is
visible, once and in order. -/
theorem letters_text {runs : List (TextRun α)}
    (hruns : ∀ run ∈ runs, run.icon = none ∧ run.color.isTransparent = false) (frame : Frame α)
    (align : Alignment) :
    visible ((text runs frame align).canvasCalls.flatMap CanvasCall.letters) =
      visible (runs.flatMap fun run => run.text.toList) := by
  have hplaced : visible ((text runs frame align).canvasCalls.flatMap CanvasCall.letters) =
      (Placed.text runs frame align).flatMap fun p => Typeset.fragmentLetters p.fragment := by
    rw [canvasCalls, List.flatMap_assoc, visible_flatMap]
    simp only [letters_placedCalls]
  rw [hplaced, visible_flatMap]
  exact Placed.flatMap_text Typeset.fragmentLetters_of_isBlank
    (fun run hrun index => Typeset.letters_piecesOfRun (hruns run hrun).1 (hruns run hrun).2 index)
    frame align

end PaintCall

end CardPress
