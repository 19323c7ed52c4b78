import CardPress.Proofs.Typeset.Words
import Mathlib.Data.List.Basic

/-! The fonts of text: those that its runs name, and those that a page is asked to set. -/
namespace CardPress

variable {α β : Type}

namespace Typeset

def Token.isWord : Token → Bool
  | word _ => true
  | newline | blank _ => false

/-- The font that a fragment is seen in; blanks, icons and transparent words are not seen in any. -/
def fragmentFonts (f : Fragment α) : List String :=
  if f.run.icon.isSome || f.isBlank || f.run.color.isTransparent then [] else [f.run.font]

theorem fragmentFonts_of_isBlank (f : Fragment α) (h : f.isBlank = true) : fragmentFonts f = [] := by
  simp [fragmentFonts, h]

end Typeset

/-- How many words of a run are seen. -/
def TextRun.wordCount (r : TextRun α) : Nat :=
  if r.icon.isSome || r.color.isTransparent then 0
  else ((Typeset.tokens r.text).filter Typeset.Token.isWord).length

def CanvasCall.font? : CanvasCall α → Option String
  | setFont name _ => some name
  | _ => none

namespace PaintCall

def runs : PaintCall α → List (TextRun α)
  | text runs _ _ => runs
  | _ => []

end PaintCall

/-- The fonts of the words that are seen, word by word. -/
def TextRun.wordFonts (runs : List (TextRun α)) : List String :=
  runs.flatMap fun r => List.replicate r.wordCount r.font

variable [Scalar α]

namespace Typeset

theorem fonts_token (run : TextRun α) (index : Nat) (hicon : run.icon = none) (t : Token) :
    ((pieceOfToken run index t).fragment?.toList).flatMap fragmentFonts =
      if run.color.isTransparent || !t.isWord then [] else [run.font] := by
  cases t <;> simp [pieceOfToken, Piece.fragment?, fragmentFonts, Token.isWord, hicon]

theorem fonts_tokens (run : TextRun α) (index : Nat) (hicon : run.icon = none) (ts : List Token) :
    ((ts.map (pieceOfToken run index)).filterMap Piece.fragment?).flatMap fragmentFonts =
      List.replicate (if run.color.isTransparent then 0 else (ts.filter Token.isWord).length)
        run.font := by
  induction ts with
  | nil => simp
  | cons t rest ih =>
    have hsplit : ((t :: rest).map (pieceOfToken run index)).filterMap Piece.fragment? =
        (pieceOfToken run index t).fragment?.toList ++
          (rest.map (pieceOfToken run index)).filterMap Piece.fragment? := by
      cases t <;> rfl
    rw [hsplit, List.flatMap_append, ih, fonts_token run index hicon]
    cases hc : run.color.isTransparent <;> cases ht : t.isWord <;> simp [ht, List.replicate_succ]

theorem fonts_piecesOfRun (run : TextRun α) (index : Nat) :
    ((piecesOfRun run index).filterMap Piece.fragment?).flatMap fragmentFonts =
      List.replicate run.wordCount run.font := by
  unfold piecesOfRun TextRun.wordCount
  cases hicon : run.icon with
  | some p => simp [Piece.fragment?, fragmentFonts, hicon]
  | none => simpa using fonts_tokens run index hicon (tokens run.text)

end Typeset

namespace PaintCall

omit [Scalar α] in
theorem fonts_fillCalls (frame : Frame α) (color : Color) :
    (fillCalls frame color).filterMap CanvasCall.font? = [] := by
  unfold fillCalls
  split <;> rfl

/-- Where neither backgrounds nor icons count, a fragment comes to its string, if it is seen. -/
theorem flatMap_placedCalls {F : CanvasCall α → List β}
    (hfill : ∀ frame color, (fillCalls frame color).flatMap F = [])
    (himage : ∀ picture frame, (imageCalls picture frame).flatMap F = []) (p : Placed α) :
    (placedCalls p).flatMap F =
      if p.fragment.run.icon.isSome || p.fragment.isBlank || p.fragment.run.color.isTransparent then []
      else (stringCalls p.fragment.text p.x p.baseline p.fragment.run).flatMap F := by
  unfold placedCalls
  dsimp only
  have hfront : ∀ behind front : List (CanvasCall α), behind.flatMap F = [] →
      (behind ++ front).flatMap F = front.flatMap F := by
    intro behind front h
    rw [List.flatMap_append, h, List.nil_append]
  rw [hfront]
  · cases p.fragment.run.icon with
    | some picture => exact himage _ _
    | none =>
      rw [Option.isSome_none, Bool.false_or]
      exact apply_ite (List.flatMap F) _ _ _
  · cases p.fragment.run.background with
    | none => rfl
    | some color => exact hfill _ color

theorem fonts_placedCalls (p : Placed α) :
    (placedCalls p).filterMap CanvasCall.font? = Typeset.fragmentFonts p.fragment := by
  rw [List.filterMap_eq_flatMap_toList, flatMap_placedCalls]
  · rfl
  · intro frame color
    rw [← List.filterMap_eq_flatMap_toList, fonts_fillCalls]
  · intro picture frame
    rfl

/-- A page is asked for the font of each word that is seen. -/
theorem fonts_canvasCalls (call : PaintCall α) :
    call.canvasCalls.filterMap CanvasCall.font? = TextRun.wordFonts call.runs := by
  cases call with
  | text runs frame align =>
    rw [canvasCalls, List.filterMap_flatMap]
    simp only [fonts_placedCalls]
    exact Placed.flatMap_text Typeset.fragmentFonts_of_isBlank
      (fun run _ index => Typeset.fonts_piecesOfRun run index) frame align
  | fill frame color => exact fonts_fillCalls frame color
  | stroke frame width color dashes =>
    rw [canvasCalls]
    split <;> rfl
  | _ => rfl

end PaintCall

end CardPress
