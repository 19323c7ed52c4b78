import CardPress.Proofs.Paint.Fonts
import Mathlib.Data.List.Forall2

/-! Calls that differ in nothing but the fonts of their texts. -/
namespace CardPress

variable {α : Type}

namespace TextRun

variable {r r' : TextRun α} {rs rs' : List (TextRun α)}

/-- The runs differ in their fonts at most. -/
def Twin (r r' : TextRun α) : Prop := r' = { r with font := r'.font }

theorem Twin.refl (r : TextRun α) : Twin r r := rfl

theorem Twin.wordCount (h : Twin r r') : r'.wordCount = r.wordCount := by
  rw [h]
  rfl

theorem Twin.eq (h : Twin r r') (hfont : r.font = r'.font) : r = r' := by
  rw [h, ← hfont]

def fonts (rs : List (TextRun α)) : List String := rs.map (·.font)

/-- The fonts of the runs that show a word. -/
def seenFonts (rs : List (TextRun α)) : List String := (rs.filter (0 < ·.wordCount)).map (·.font)

theorem eq_of_fonts (h : List.Forall₂ Twin rs rs') (hfonts : fonts rs = fonts rs') : rs = rs' := by
  induction h with
  | nil => rfl
  | cons h _ ih =>
    obtain ⟨hfont, hrest⟩ := List.cons.inj hfonts
    rw [h.eq hfont, ih hrest]

theorem length_wordFonts (h : Twin r r') :
    (List.replicate r.wordCount r.font).length = (List.replicate r'.wordCount r'.font).length := by
  rw [List.length_replicate, List.length_replicate, h.wordCount]

/-- Words in the same fonts are words of runs in the same fonts. -/
theorem seenFonts_of_wordFonts (h : List.Forall₂ Twin rs rs') (hwords : wordFonts rs = wordFonts rs') :
    seenFonts rs = seenFonts rs' := by
  induction h with
  | nil => rfl
  | @cons r r' rs rs' h _ ih =>
    obtain ⟨hfirst, hrest⟩ := List.append_inj hwords (length_wordFonts h)
    have ih := ih hrest
    unfold seenFonts at ih ⊢
    by_cases hseen : 0 < r.wordCount
    · have hfont : r.font = r'.font := by
        have hwords : List.replicate r.wordCount r.font = List.replicate r'.wordCount r'.font := hfirst
        rwa [h.wordCount, List.replicate_right_inj (by omega)] at hwords
      simp [h.wordCount, hseen, hfont, ih]
    · simp [h.wordCount, hseen, ih]

theorem shown_of_twins (h : List.Forall₂ Twin rs rs') (hrs : ∀ r ∈ rs, 0 < r.wordCount) :
    ∀ r ∈ rs', 0 < r.wordCount := by
  induction h with
  | nil => exact hrs
  | cons h _ ih =>
    obtain ⟨hr, hrs⟩ := List.forall_mem_cons.mp hrs
    exact List.forall_mem_cons.mpr ⟨h.wordCount ▸ hr, ih hrs⟩

theorem seenFonts_of_shown (h : ∀ r ∈ rs, 0 < r.wordCount) : seenFonts rs = fonts rs := by
  rw [seenFonts, List.filter_eq_self.mpr (by simpa using h), fonts]

end TextRun

open TextRun

namespace PaintCall

variable {c c' : PaintCall α} {cs cs' : List (PaintCall α)}

/-- The calls differ in the fonts of their runs at most. -/
inductive Beside : PaintCall α → PaintCall α → Prop where
  | same (call : PaintCall α) : Beside call call
  | text {rs rs' : List (TextRun α)} (frame : Frame α) (align : Alignment)
      (h : List.Forall₂ Twin rs rs') : Beside (.text rs frame align) (.text rs' frame align)

def allRuns (cs : List (PaintCall α)) : List (TextRun α) := cs.flatMap runs

theorem Beside.runs (h : Beside c c') : List.Forall₂ Twin c.runs c'.runs := by
  cases h with
  | same => exact List.forall₂_same.mpr fun r _ => .refl r
  | text frame align h => exact h

theorem Beside.eq (h : Beside c c') (hfonts : fonts c.runs = fonts c'.runs) : c = c' := by
  cases h with
  | same => rfl
  | text frame align h => rw [eq_of_fonts h hfonts]

theorem twins_of_beside (h : List.Forall₂ Beside cs cs') :
    List.Forall₂ Twin (allRuns cs) (allRuns cs') := by
  induction h with
  | nil => exact .nil
  | cons h _ ih => exact List.rel_append h.runs ih

theorem eq_of_allFonts (h : List.Forall₂ Beside cs cs')
    (hfonts : fonts (allRuns cs) = fonts (allRuns cs')) : cs = cs' := by
  induction h with
  | nil => rfl
  | @cons c c' cs cs' h _ ih =>
    simp only [allRuns, fonts, List.flatMap_cons, List.map_append] at hfonts
    obtain ⟨hfirst, hrest⟩ := List.append_inj hfonts (by simp [h.runs.length_eq])
    rw [h.eq hfirst, ih hrest]

variable [Scalar α]

theorem fonts_flatMap_canvasCalls (cs : List (PaintCall α)) :
    (cs.flatMap canvasCalls).filterMap CanvasCall.font? = wordFonts (allRuns cs) := by
  induction cs with
  | nil => rfl
  | cons c rest ih =>
    rw [List.flatMap_cons, List.filterMap_append, ih, fonts_canvasCalls]
    simp [wordFonts, allRuns]

/-- Pages that are asked for the same have their words in the same fonts. -/
theorem seenFonts_of_canvasCalls (h : List.Forall₂ Beside cs cs')
    (hcalls : cs.flatMap canvasCalls = cs'.flatMap canvasCalls) :
    seenFonts (allRuns cs) = seenFonts (allRuns cs') := by
  refine seenFonts_of_wordFonts (twins_of_beside h) ?_
  rw [← fonts_flatMap_canvasCalls, hcalls, fonts_flatMap_canvasCalls]

end PaintCall

end CardPress
