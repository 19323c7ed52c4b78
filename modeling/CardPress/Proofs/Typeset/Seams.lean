import CardPress.Proofs.Typeset.Glyphs
import CardPress.Proofs.Typeset.Tokens
import Mathlib.Data.List.DropRight

/-! Runs in two pieces: where a run of text is cut in two does not show, as long as the cut does not
part white space that is no separator from a word. -/
namespace CardPress

namespace Typeset

/-- The letters of a token; each of them is what its token is. -/
def Token.glyphs : Token → List Token
  | newline => [newline]
  | blank s => s.toList.map fun c => blank (String.singleton c)
  | word s => s.toList.map fun c => word (String.singleton c)

/-- The letters of all tokens of a text. -/
def textGlyphs (cs : List Char) : List Token :=
  (cs.splitBy isStretch).flatMap fun m => (Token.ofStretch m).glyphs

theorem space_eq_of_isStretch {c d : Char} (h : isStretch c d = true) :
    decide (c = ' ') = decide (d = ' ') := by
  obtain ⟨rfl, rfl⟩ | ⟨hc, hd⟩ := alike_of_isStretch h
  · rfl
  · simp_all [isSeparator]

theorem isSeparator_eq_of_isStretch {c d : Char} (h : isStretch c d = true) :
    isSeparator c = isSeparator d := by
  obtain ⟨rfl, rfl⟩ | ⟨hc, hd⟩ := alike_of_isStretch h
  · rfl
  · rw [hc, hd]

section TextGlyphs

variable {cs ds : List Char}

theorem textGlyphs_spaces (h : ∀ c ∈ cs, c = ' ') :
    textGlyphs cs = cs.map fun c => .blank (String.singleton c) := by
  by_cases hne : cs = []
  · simp [hne, textGlyphs]
  have hchain : cs.IsChain fun c d => isStretch c d = true := by
    refine (List.pairwise_of_forall_mem_list fun c hc d hd => ?_).isChain
    rw [h c hc, h d hd]
    decide
  rw [textGlyphs, List.splitBy_of_isChain hne hchain, List.flatMap_singleton,
    Stretch.ofStretch_spaces hne h]
  simp [Token.glyphs]

/-- Characters between two separators are blank if all of them are white space. -/
theorem textGlyphs_joined (h : ∀ c ∈ cs, isSeparator c = false) :
    textGlyphs cs = cs.map fun c =>
      if cs.all Text.isBlank then .blank (String.singleton c) else .word (String.singleton c) := by
  by_cases hne : cs = []
  · simp [hne, textGlyphs]
  have hchain : cs.IsChain fun c d => isStretch c d = true :=
    (List.pairwise_of_forall_mem_list fun c hc d hd =>
      isStretch_of_not_separator (h c hc) (h d hd)).isChain
  rw [textGlyphs, List.splitBy_of_isChain hne hchain, List.flatMap_singleton,
    Stretch.ofStretch_joined h]
  split <;> simp [Token.glyphs]

theorem textGlyphs_append_spaces (hcs : ∀ c ∈ cs, c = ' ') (hds : ∀ d ∈ ds, d = ' ') :
    textGlyphs (cs ++ ds) = textGlyphs cs ++ textGlyphs ds := by
  rw [textGlyphs_spaces (List.forall_mem_append.mpr ⟨hcs, hds⟩), textGlyphs_spaces hcs,
    textGlyphs_spaces hds, List.map_append]

theorem textGlyphs_append_joined (hcs : ∀ c ∈ cs, isSeparator c = false)
    (hds : ∀ d ∈ ds, isSeparator d = false)
    (hkind : cs.all Text.isBlank = ds.all Text.isBlank) :
    textGlyphs (cs ++ ds) = textGlyphs cs ++ textGlyphs ds := by
  have hboth : (cs ++ ds).all Text.isBlank = ds.all Text.isBlank := by
    rw [List.all_append, hkind, Bool.and_self]
  rw [textGlyphs_joined (List.forall_mem_append.mpr ⟨hcs, hds⟩), textGlyphs_joined hcs,
    textGlyphs_joined hds, hboth, hkind, List.map_append]

theorem textGlyphs_append_of_part
    (h : ∀ c ∈ cs.getLast?, ∀ d ∈ ds.head?, isStretch c d = false) :
    textGlyphs (cs ++ ds) = textGlyphs cs ++ textGlyphs ds := by
  rw [textGlyphs, List.splitBy_append h, List.flatMap_append]
  rfl

variable {p : Char → Bool} (hp : ∀ c d, isStretch c d = true → p c = p d)
include hp

theorem textGlyphs_append_of_ne (h : ∀ c ∈ cs.getLast?, ∀ d ∈ ds.head?, p c ≠ p d) :
    textGlyphs (cs ++ ds) = textGlyphs cs ++ textGlyphs ds :=
  textGlyphs_append_of_part fun c hc d hd => Bool.eq_false_iff.mpr (mt (hp c d) (h c hc d hd))

theorem textGlyphs_append_takeWhile (hfirst : ds.takeWhile p ≠ []) (cs : List Char) :
    textGlyphs (cs ++ ds) = textGlyphs (cs ++ ds.takeWhile p) ++ textGlyphs (ds.dropWhile p) := by
  conv_lhs => rw [← List.takeWhile_append_dropWhile (p := p) (l := ds), ← List.append_assoc]
  refine textGlyphs_append_of_ne hp fun c hc d hd => ?_
  rw [List.getLast?_append_of_ne_nil _ hfirst] at hc
  rw [List.mem_takeWhile_imp (List.mem_of_getLast? hc), ← List.head_of_mem_head? hd,
    List.head_dropWhile_not p]
  simp

theorem textGlyphs_rtakeWhile_append (hlast : cs.rtakeWhile p ≠ []) (ds : List Char) :
    textGlyphs (cs ++ ds) = textGlyphs (cs.rdropWhile p) ++ textGlyphs (cs.rtakeWhile p ++ ds) := by
  conv_lhs => rw [← List.rdropWhile_append_rtakeWhile (p := p) (l := cs), List.append_assoc]
  refine textGlyphs_append_of_ne hp fun c hc d hd => ?_
  obtain ⟨hne, rfl⟩ := List.mem_getLast?_eq_getLast hc
  rw [List.head?_append_of_ne_nil _ hlast] at hd
  rw [List.mem_rtakeWhile_imp (List.mem_of_mem_head? hd)]
  exact List.rdropWhile_last_not p cs hne

/-- Only what stands together at the seam matters. -/
theorem textGlyphs_append_of_seam {c d : Char} (hc : c ∈ cs.getLast?) (hd : d ∈ ds.head?)
    (hpc : p c = true) (hpd : p d = true)
    (h : cs.rtakeWhile p ≠ [] → ds.takeWhile p ≠ [] →
      textGlyphs (cs.rtakeWhile p ++ ds.takeWhile p) =
        textGlyphs (cs.rtakeWhile p) ++ textGlyphs (ds.takeWhile p)) :
    textGlyphs (cs ++ ds) = textGlyphs cs ++ textGlyphs ds := by
  have hlast : cs.rtakeWhile p ≠ [] := by
    obtain ⟨before, rfl⟩ := List.getLast?_eq_some_iff.mp hc
    simp [List.rtakeWhile_concat_pos, hpc]
  have hfirst : ds.takeWhile p ≠ [] := by
    obtain ⟨after, rfl⟩ := List.head?_eq_some_iff.mp hd
    simp [hpd]
  have hcs : textGlyphs cs = textGlyphs (cs.rdropWhile p) ++ textGlyphs (cs.rtakeWhile p) := by
    simpa using textGlyphs_rtakeWhile_append hp hlast []
  have hds : textGlyphs ds = textGlyphs (ds.takeWhile p) ++ textGlyphs (ds.dropWhile p) :=
    textGlyphs_append_takeWhile hp hfirst []
  rw [textGlyphs_append_takeWhile hp hfirst, textGlyphs_rtakeWhile_append hp hlast,
    h hlast hfirst, hcs, hds]
  simp only [List.append_assoc]

end TextGlyphs

/-- What stands together with the end of a text, if no separator does. -/
def lastStretch (cs : List Char) : List Char := cs.rtakeWhile (!isSeparator ·)

def firstStretch (cs : List Char) : List Char := cs.takeWhile (!isSeparator ·)

/-- The seam between two texts does not part white space that is no separator from other
characters. -/
def Seamless (s t : String) : Prop :=
  lastStretch s.toList = [] ∨ firstStretch t.toList = [] ∨
    (lastStretch s.toList).all Text.isBlank = (firstStretch t.toList).all Text.isBlank

instance (s t : String) : Decidable (Seamless s t) := inferInstanceAs (Decidable (_ ∨ _ ∨ _))

theorem isSeparator_lastStretch {cs : List Char} {c : Char} (h : c ∈ lastStretch cs) :
    isSeparator c = false := by
  simpa using List.mem_rtakeWhile_imp h

theorem isSeparator_firstStretch {cs : List Char} {c : Char} (h : c ∈ firstStretch cs) :
    isSeparator c = false := by
  simpa using List.mem_takeWhile_imp h

/-- Text with no white space but separators can be cut in two anywhere. -/
theorem seamless_of_separators {s t : String}
    (h : ∀ c ∈ s.toList ++ t.toList, Text.isBlank c = true → isSeparator c = true) :
    Seamless s t := by
  have hword : ∀ {cs : List Char}, cs ≠ [] → (∀ c ∈ cs, c ∈ s.toList ++ t.toList) →
      (∀ c ∈ cs, isSeparator c = false) → cs.all Text.isBlank = false := by
    intro cs hne hsub hcs
    obtain ⟨c, hc⟩ := List.exists_mem_of_ne_nil cs hne
    refine List.all_eq_false.mpr ⟨c, hc, fun hblank => ?_⟩
    simpa [hcs c hc] using h c (hsub c hc) hblank
  by_cases hlast : lastStretch s.toList = []
  · exact Or.inl hlast
  by_cases hfirst : firstStretch t.toList = []
  · exact Or.inr (Or.inl hfirst)
  have hs : ∀ c ∈ lastStretch s.toList, c ∈ s.toList ++ t.toList := fun c hc =>
    List.mem_append_left _ ((List.rtakeWhile_suffix _ _).subset hc)
  have ht : ∀ c ∈ firstStretch t.toList, c ∈ s.toList ++ t.toList := fun c hc =>
    List.mem_append_right _ ((List.takeWhile_prefix _).subset hc)
  refine Or.inr (Or.inr ?_)
  rw [hword hlast hs fun _ => isSeparator_lastStretch,
    hword hfirst ht fun _ => isSeparator_firstStretch]

theorem textGlyphs_append {s t : String} (h : Seamless s t) :
    textGlyphs (s.toList ++ t.toList) = textGlyphs s.toList ++ textGlyphs t.toList := by
  by_cases hpart : ∀ c ∈ s.toList.getLast?, ∀ d ∈ t.toList.head?, isStretch c d = false
  · exact textGlyphs_append_of_part hpart
  push Not at hpart
  obtain ⟨c, hc, d, hd, hcd⟩ := hpart
  -- what meets at the seam are spaces, or characters between two separators
  obtain ⟨hcspace, hdspace⟩ | ⟨hcjoined, hdjoined⟩ :=
    alike_of_isStretch (Bool.eq_true_of_not_eq_false hcd)
  · refine textGlyphs_append_of_seam (p := (· = ' ')) (fun _ _ => space_eq_of_isStretch) hc hd
      (by simpa) (by simpa) fun _ _ => ?_
    refine textGlyphs_append_spaces (fun c hc => ?_) fun d hd => ?_
    · simpa using List.mem_rtakeWhile_imp hc
    · simpa using List.mem_takeWhile_imp hd
  · refine textGlyphs_append_of_seam (p := (!isSeparator ·))
      (fun _ _ hcd => congrArg not (isSeparator_eq_of_isStretch hcd)) hc hd (by simpa) (by simpa)
      fun hlast hfirst => ?_
    exact textGlyphs_append_joined (fun _ => isSeparator_lastStretch)
      (fun _ => isSeparator_firstStretch) ((h.resolve_left hlast).resolve_left hfirst)

end Typeset

open Typeset

/-- The letters of a run, wherever it stands. -/
def TextRun.glyphs (run : TextRun Rat) : List (Piece Rat) :=
  (piecesOfRun run 0).flatMap Piece.glyphs

namespace Typeset

variable {run : TextRun Rat}

theorem glyphs_pieceOfToken (hicon : run.icon = none) (index : Nat) {t : Token} (ht : t.IsProper) :
    (pieceOfToken run index t).glyphs = t.glyphs.map (pieceOfToken run.bare 0) := by
  cases t with
  | newline => rfl
  | blank s =>
    obtain ⟨hne, -⟩ := ht
    rw [pieceOfToken, Piece.glyphs, Fragment.glyphs, if_pos ⟨hicon, hne, rfl⟩, Token.glyphs,
      List.map_map, List.map_map]
    rfl
  | word s =>
    obtain ⟨⟨c, hc, -⟩, -⟩ := ht
    rw [pieceOfToken, Piece.glyphs, Fragment.glyphs, if_pos ⟨hicon, List.ne_nil_of_mem hc, rfl⟩,
      Token.glyphs, List.map_map, List.map_map]
    rfl

theorem glyphs_piecesOfRun_text (hicon : run.icon = none) (index : Nat) :
    (piecesOfRun run index).flatMap Piece.glyphs =
      (textGlyphs run.text.toList).map (pieceOfToken run.bare 0) := by
  have htokens : (tokens run.text).flatMap (fun t => (pieceOfToken run index t).glyphs) =
      (tokens run.text).flatMap fun t => t.glyphs.map (pieceOfToken run.bare 0) :=
    List.flatMap_congr fun t ht =>
      glyphs_pieceOfToken hicon index ((tokens_isCut run.text).proper t ht)
  simp only [piecesOfRun, hicon]
  rw [List.flatMap_map, htokens, ← List.map_flatMap, tokens, List.flatMap_map]
  rfl

theorem glyphs_piecesOfRun (run : TextRun Rat) (index : Nat) :
    (piecesOfRun run index).flatMap Piece.glyphs = run.glyphs := by
  cases hicon : run.icon with
  | none => rw [TextRun.glyphs, glyphs_piecesOfRun_text hicon, glyphs_piecesOfRun_text hicon]
  | some p =>
    simp [TextRun.glyphs, piecesOfRun, hicon, Piece.glyphs, Fragment.glyphs, Fragment.IsMeasured]

theorem glyphs_pieces (runs : List (TextRun Rat)) :
    (pieces runs).flatMap Piece.glyphs = runs.flatMap TextRun.glyphs :=
  pieces_flatMap fun run _ index => glyphs_piecesOfRun run index

theorem glyphs_text (hicon : run.icon = none) :
    run.glyphs = (textGlyphs run.text.toList).map (pieceOfToken run.bare 0) :=
  glyphs_piecesOfRun_text hicon 0

theorem glyphs_split (hicon : run.icon = none) {s t : String} (htext : run.text = s ++ t)
    (hseam : Seamless s t) :
    run.glyphs =
      TextRun.glyphs { run with text := s } ++ TextRun.glyphs { run with text := t } := by
  have hicons : ∀ text, ({ run with text } : TextRun Rat).icon = none := fun _ => hicon
  rw [glyphs_text (hicons s), glyphs_text (hicons t), glyphs_text hicon, htext,
    String.toList_append, textGlyphs_append hseam, List.map_append]
  rfl

/-- A line looks the same wherever the runs of its letters end. -/
theorem look_lines (runs : List (TextRun Rat)) (maxWidth : Rat) :
    (lines runs maxWidth).map TextLine.look =
      (((runs.flatMap TextRun.glyphs).foldl (Setting.add maxWidth) {}).finish maxWidth
        (runs.getLast?.map TextRun.bare)).map TextLine.look := by
  have hlook : (lines runs maxWidth).map TextLine.look =
      ((lines runs maxWidth).map TextLine.glyphs).map TextLine.look := by
    rw [List.map_map]
    exact List.map_congr_left fun l _ => l.look_glyphs.symm
  rw [hlook, glyphs_lines, glyphs_pieces]

/-- It does not show where a run of text is cut in two, if the cut does not part white space that is
no separator from other characters. -/
theorem lines_split_run {run : TextRun Rat} (hicon : run.icon = none) {s t : String}
    (htext : run.text = s ++ t) (hseam : Seamless s t) (before after : List (TextRun Rat))
    (maxWidth : Rat) :
    (lines (before ++ { run with text := s } :: { run with text := t } :: after) maxWidth).map
        TextLine.look =
      (lines (before ++ run :: after) maxWidth).map TextLine.look := by
  have hlast : (before ++ { run with text := s } :: { run with text := t } :: after).getLast?.map
      TextRun.bare = (before ++ run :: after).getLast?.map TextRun.bare := by
    cases after with
    | nil => simp [TextRun.bare]
    | cons r rest => simp [List.getLast?_cons_cons]
  rw [look_lines, look_lines, hlast]
  simp only [List.flatMap_append, List.flatMap_cons, glyphs_split hicon htext hseam,
    List.append_assoc]

theorem lines_split_run_inside_word :
    Seamless "a b" "b c" ∧
      (lines [TextRun.plain "a b", TextRun.plain "b c"] 15).map TextLine.look =
        (lines [TextRun.plain "a bb c"] 15).map TextLine.look := by
  have hseam : Seamless "a b" "b c" := seamless_of_separators (by simp [isSeparator, Text.isBlank])
  have hicon : (TextRun.plain "a bb c").icon = none := rfl
  have htext : (TextRun.plain "a bb c").text = "a b" ++ "b c" := by decide
  exact ⟨hseam, lines_split_run hicon htext hseam [] [] 15⟩

/-- A no-break space that is cut off from its word is taken for a blank, and the line is wrapped
there. -/
theorem lines_split_loses_blank :
    (TextRun.plain "a\u00a0").text = "a" ++ "\u00a0" ∧
      (lines [TextRun.plain "a\u00a0", TextRun.plain "b"] 5).map (·.look.text) =
        [['a', '\u00a0', 'b']] ∧
      (lines [TextRun.plain "a", TextRun.plain "\u00a0", TextRun.plain "b"] 5).map (·.look.text) =
        [['a'], ['b']] := by
  refine ⟨by decide, ?_, ?_⟩ <;> decide +kernel

end Typeset

end CardPress
