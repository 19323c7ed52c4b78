import CardPress.Proofs.Typeset.WholeWords
import CardPress.Proofs.Typeset.Widths

/-! Text set letter by letter. Lines look the same whether whole tokens are put on them or one
letter after the other, so it does not matter into how many fragments text falls. -/
namespace CardPress

/-- The style of a run, without its text. -/
def TextRun.bare {α : Type} (run : TextRun α) : TextRun α := { run with text := "" }

namespace Fragment

/-- Text that is as wide as its letters, in contrast to icons. -/
def IsMeasured (f : Fragment Rat) : Prop :=
  f.run.icon = none ∧ f.text.toList ≠ [] ∧ f.width = Font.textWidth f.run.font f.run.size f.text

instance (f : Fragment Rat) : Decidable f.IsMeasured := inferInstanceAs (Decidable (_ ∧ _ ∧ _))

def letter (f : Fragment Rat) (c : Char) : Fragment Rat :=
  let text := String.singleton c
  ⟨f.run.bare, 0, text, Font.textWidth f.run.font f.run.size text, f.isBlank⟩

/-- The letters of a fragment; an icon stays whole. They do not know where their run stands. -/
def glyphs (f : Fragment Rat) : List (Fragment Rat) :=
  if f.IsMeasured then f.text.toList.map f.letter else [{ f with run := f.run.bare, index := 0 }]

theorem glyphs_ne_nil (f : Fragment Rat) : f.glyphs ≠ [] := by
  unfold glyphs
  split
  next h => simpa using h.2.1
  next => simp

theorem isBlank_glyphs {f g : Fragment Rat} (h : g ∈ f.glyphs) : g.isBlank = f.isBlank := by
  unfold glyphs at h
  split at h
  next =>
    obtain ⟨c, -, rfl⟩ := List.mem_map.mp h
    rfl
  next => rw [List.mem_singleton.mp h]

theorem any_glyphs (f : Fragment Rat) : f.glyphs.any (!·.isBlank) = !f.isBlank := by
  obtain ⟨g, hg⟩ := List.exists_mem_of_ne_nil _ f.glyphs_ne_nil
  rw [Bool.eq_iff_iff, List.any_eq_true]
  constructor
  · rintro ⟨g, hg, hword⟩
    rwa [isBlank_glyphs hg] at hword
  · intro hword
    exact ⟨g, hg, by rwa [isBlank_glyphs hg]⟩

theorem run_glyphs {f g : Fragment Rat} (h : g ∈ f.glyphs) : g.run = f.run.bare := by
  unfold glyphs at h
  split at h
  next =>
    obtain ⟨c, -, rfl⟩ := List.mem_map.mp h
    rfl
  next => rw [List.mem_singleton.mp h]

theorem totalWidth_glyphs (f : Fragment Rat) : Typeset.totalWidth f.glyphs = f.width := by
  rw [Typeset.totalWidth_eq]
  unfold glyphs
  split
  next h => rw [List.map_map, h.2.2, Font.textWidth_eq]; rfl
  next => simp

theorem text_glyphs (f : Fragment Rat) :
    (f.glyphs.flatMap fun g => g.text.toList) = f.text.toList := by
  unfold glyphs
  split
  next => simp [List.flatMap_map, letter]
  next => simp

end Fragment

namespace Typeset

section Lists

variable (fragments : List (Fragment Rat))

theorem totalWidth_flatMap_glyphs :
    totalWidth (fragments.flatMap Fragment.glyphs) = totalWidth fragments := by
  induction fragments with
  | nil => rfl
  | cons f rest ih =>
    rw [List.flatMap_cons, totalWidth_append, f.totalWidth_glyphs, ih, totalWidth_eq, totalWidth_eq,
      List.map_cons, List.sum_cons]

theorem isEmpty_flatMap_glyphs :
    (fragments.flatMap Fragment.glyphs).isEmpty = fragments.isEmpty := by
  cases fragments with
  | nil => rfl
  | cons f rest => simp [f.glyphs_ne_nil]

theorem any_flatMap_glyphs :
    (fragments.flatMap Fragment.glyphs).any (!·.isBlank) = fragments.any (!·.isBlank) := by
  rw [List.any_flatMap]
  exact congrArg fragments.any (funext Fragment.any_glyphs)

theorem dropEndBlanks_flatMap_glyphs :
    dropEndBlanks (fragments.flatMap Fragment.glyphs) =
      (dropEndBlanks fragments).flatMap Fragment.glyphs := by
  induction fragments using List.reverseRecOn with
  | nil => rfl
  | append_singleton rest f ih =>
    rw [List.flatMap_append, List.flatMap_singleton]
    cases hf : f.isBlank with
    | true =>
      rw [dropEndBlanks_concat_blank hf, ← ih]
      exact dropEndBlanks_append_blanks (fun g hg => (Fragment.isBlank_glyphs hg).trans hf) _
    | false =>
      rw [dropEndBlanks_concat_word hf, List.flatMap_append, List.flatMap_singleton]
      refine dropEndBlanks_of_last fun g hg => ?_
      rw [List.getLast?_append_of_ne_nil _ f.glyphs_ne_nil] at hg
      exact (Fragment.isBlank_glyphs (List.mem_of_getLast? hg)).trans hf

end Lists

end Typeset

open Typeset

/-- A line that was set letter by letter. -/
def TextLine.glyphs (l : TextLine Rat) : TextLine Rat :=
  ⟨l.fragments.flatMap Fragment.glyphs, l.fallback.map TextRun.bare, l.isHard⟩

namespace Typeset

def Piece.glyphs : Piece Rat → List (Piece Rat)
  | .fragment f => f.glyphs.map .fragment
  | .newline run => [.newline run.bare]

namespace Setting

/-- A setting that has come as far with the letters of a text. -/
def glyphs (s : Setting Rat) : Setting Rat where
  done := s.done.map TextLine.glyphs
  current := s.current.flatMap Fragment.glyphs
  word := s.word.flatMap Fragment.glyphs

variable (maxWidth : Rat) (s : Setting Rat)

theorem foldl_add_blanks {fragments : List (Fragment Rat)} (hne : fragments ≠ [])
    (h : ∀ f ∈ fragments, f.isBlank = true) :
    (fragments.map Piece.fragment).foldl (add maxWidth) s =
      { s.placeWord maxWidth with current := (s.placeWord maxWidth).current ++ fragments } := by
  induction fragments using List.reverseRecOn with
  | nil => exact absurd rfl hne
  | append_singleton rest f ih =>
    rw [List.map_append, List.foldl_append]
    have hf : f.isBlank = true := h f (by simp)
    by_cases hrest : rest = []
    · simp [hrest, add, hf]
    · rw [ih hrest fun g hg => h g (by simp [hg])]
      have hword := word_placeWord maxWidth s
      simp only [List.map_cons, List.map_nil, List.foldl_cons, List.foldl_nil, add, hf, if_true]
      rw [placeWord_of_nil maxWidth (s := { s.placeWord maxWidth with
        current := (s.placeWord maxWidth).current ++ rest }) hword, List.append_assoc]

theorem foldl_add_word {fragments : List (Fragment Rat)}
    (h : ∀ f ∈ fragments, f.isBlank = false) :
    (fragments.map Piece.fragment).foldl (add maxWidth) s =
      { s with word := s.word ++ fragments } := by
  induction fragments generalizing s with
  | nil => simp
  | cons f rest ih =>
    obtain ⟨hf, hrest⟩ := List.forall_mem_cons.mp h
    rw [List.map_cons, List.foldl_cons, ih _ hrest]
    simp [add, hf]

theorem glyphs_endLine (fallback : Option (TextRun Rat)) (isHard : Bool) :
    (s.endLine fallback isHard).glyphs =
      s.glyphs.endLine (fallback.map TextRun.bare) isHard := by
  simp [endLine, glyphs, TextLine.glyphs, dropEndBlanks_flatMap_glyphs]

theorem glyphs_placeWord : (s.placeWord maxWidth).glyphs = s.glyphs.placeWord maxWidth := by
  unfold placeWord
  have hempty : s.glyphs.word.isEmpty = s.word.isEmpty := isEmpty_flatMap_glyphs s.word
  have hany : s.glyphs.current.any (!·.isBlank) = s.current.any (!·.isBlank) :=
    any_flatMap_glyphs s.current
  have hcurrent : totalWidth s.glyphs.current = totalWidth s.current :=
    totalWidth_flatMap_glyphs s.current
  have hword : totalWidth s.glyphs.word = totalWidth s.word := totalWidth_flatMap_glyphs s.word
  rw [hempty, hany, hcurrent, hword]
  split
  next => rfl
  next =>
    dsimp only
    split
    next =>
      rw [← Option.map_none (f := TextRun.bare), ← glyphs_endLine]
      simp [glyphs]
    next => simp [glyphs]

theorem glyphs_add (p : Piece Rat) :
    (s.add maxWidth p).glyphs = p.glyphs.foldl (add maxWidth) s.glyphs := by
  cases p with
  | newline run =>
    rw [add, glyphs_endLine, glyphs_placeWord]
    rfl
  | fragment f =>
    rw [Piece.glyphs]
    cases hf : f.isBlank with
    | true =>
      rw [foldl_add_blanks maxWidth _ f.glyphs_ne_nil fun g hg =>
        (Fragment.isBlank_glyphs hg).trans hf, ← glyphs_placeWord]
      simp [add, hf, glyphs]
    | false =>
      rw [foldl_add_word maxWidth _ fun g hg => (Fragment.isBlank_glyphs hg).trans hf]
      simp [add, hf, glyphs]

theorem glyphs_foldl_add (ps : List (Piece Rat)) :
    (ps.foldl (add maxWidth) s).glyphs =
      (ps.flatMap Piece.glyphs).foldl (add maxWidth) s.glyphs := by
  induction ps generalizing s with
  | nil => rfl
  | cons p rest ih => rw [List.foldl_cons, ih, glyphs_add, List.flatMap_cons, List.foldl_append]

theorem glyphs_finish (last : Option (TextRun Rat)) :
    (s.finish maxWidth last).map TextLine.glyphs =
      s.glyphs.finish maxWidth (last.map TextRun.bare) := by
  have hcurrent : (s.glyphs.placeWord maxWidth).current.isEmpty =
      (s.placeWord maxWidth).current.isEmpty := by
    rw [← glyphs_placeWord]
    exact isEmpty_flatMap_glyphs _
  have hdone : (s.glyphs.placeWord maxWidth).done.isEmpty =
      (s.placeWord maxWidth).done.isEmpty := by
    rw [← glyphs_placeWord]
    exact List.isEmpty_map
  unfold finish
  dsimp only
  rw [hcurrent, hdone]
  split
  next => exact congrArg done (glyphs_placeWord maxWidth s)
  next => rw [← glyphs_placeWord, ← glyphs_endLine]; rfl

end Setting

/-- Text may be set letter by letter. -/
theorem glyphs_lines (runs : List (TextRun Rat)) (maxWidth : Rat) :
    (lines runs maxWidth).map TextLine.glyphs =
      (((pieces runs).flatMap Piece.glyphs).foldl (Setting.add maxWidth) {}).finish maxWidth
        (runs.getLast?.map TextRun.bare) := by
  rw [lines, Setting.glyphs_finish, Setting.glyphs_foldl_add]
  rfl

end Typeset

namespace TextLine

/-- What can be seen of a line, whatever fragments it is made of. -/
structure Look where
  text : List Char
  width : Rat
  ascent : Rat
  descent : Rat
  height : Rat
  isHard : Bool
  deriving DecidableEq

def look (l : TextLine Rat) : Look :=
  ⟨l.fragments.flatMap (·.text.toList), l.width, l.ascent, l.descent, l.height, l.isHard⟩

theorem largest_le {values : List Rat} {bound : Rat} :
    largest values ≤ bound ↔ 0 ≤ bound ∧ ∀ v ∈ values, v ≤ bound := by
  have hlarger : ∀ x y : Rat, Scalar.larger x y ≤ bound ↔ x ≤ bound ∧ y ≤ bound := by
    intro x y
    rw [Scalar.larger_eq_max, max_le_iff]
  have hfold : ∀ start : Rat, values.foldl Scalar.larger start ≤ bound ↔
      start ≤ bound ∧ ∀ v ∈ values, v ≤ bound := by
    induction values with
    | nil => simp
    | cons v rest ih =>
      intro start
      rw [List.foldl_cons, ih, hlarger, List.forall_mem_cons, and_assoc]
  exact hfold 0

theorem mem_runs_glyphs {l : TextLine Rat} {r : TextRun Rat} :
    r ∈ l.glyphs.runs ↔ ∃ run ∈ l.runs, run.bare = r := by
  unfold runs glyphs
  dsimp only
  rw [isEmpty_flatMap_glyphs]
  split
  next => simp
  next =>
    simp only [List.mem_map, List.mem_flatMap]
    constructor
    · rintro ⟨g, ⟨f, hf, hg⟩, rfl⟩
      exact ⟨f.run, ⟨f, hf, rfl⟩, (Fragment.run_glyphs hg).symm⟩
    · rintro ⟨_, ⟨f, hf, rfl⟩, rfl⟩
      obtain ⟨g, hg⟩ := List.exists_mem_of_ne_nil _ f.glyphs_ne_nil
      exact ⟨g, ⟨f, hf, hg⟩, Fragment.run_glyphs hg⟩

/-- How often a run stands on a line does not matter for the height of the line. -/
theorem largest_runs_glyphs (l : TextLine Rat) {value : TextRun Rat → Rat}
    (hvalue : ∀ run, value run.bare = value run) :
    largest (l.glyphs.runs.map value) = largest (l.runs.map value) := by
  refine eq_of_forall_ge_iff fun bound => ?_
  rw [largest_le, largest_le, List.forall_mem_map, List.forall_mem_map]
  refine and_congr_right fun _ => ⟨fun h run hrun => ?_, fun h r hr => ?_⟩
  · rw [← hvalue]
    exact h run.bare (mem_runs_glyphs.mpr ⟨run, hrun, rfl⟩)
  · obtain ⟨run, hrun, rfl⟩ := mem_runs_glyphs.mp hr
    rw [hvalue]
    exact h run hrun

theorem look_glyphs (l : TextLine Rat) : l.glyphs.look = l.look := by
  have htext : l.glyphs.fragments.flatMap (·.text.toList) =
      l.fragments.flatMap (·.text.toList) := by
    rw [glyphs, List.flatMap_assoc]
    exact List.flatMap_congr fun f _ => f.text_glyphs
  have hwidth : l.glyphs.width = l.width := totalWidth_flatMap_glyphs l.fragments
  have hascent : l.glyphs.ascent = l.ascent := largest_runs_glyphs l fun _ => rfl
  have hdescent : l.glyphs.descent = l.descent := largest_runs_glyphs l fun _ => rfl
  have hheight : l.glyphs.height = l.height := by
    unfold height
    rw [largest_runs_glyphs l fun _ => rfl]
  rw [look, htext, hwidth, hascent, hdescent, hheight]
  rfl

end TextLine

end CardPress
