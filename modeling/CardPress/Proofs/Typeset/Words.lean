import CardPress.Paint.Canvas
import Mathlib.Data.List.Basic

/-! Words on lines: breaking text into lines drops, doubles and moves blanks only. -/
namespace CardPress

variable {α β : Type}

namespace Typeset

/-- What is not blank, icons among it. -/
def words (fragments : List (Fragment α)) : List (Fragment α) := fragments.filter (!·.isBlank)

theorem words_append (xs ys : List (Fragment α)) : words (xs ++ ys) = words xs ++ words ys :=
  List.filter_append xs ys

theorem words_dropEndBlanks (fragments : List (Fragment α)) :
    words (dropEndBlanks fragments) = words fragments := by
  have hblank : words (fragments.reverse.takeWhile (·.isBlank)) = [] := by
    refine List.filter_eq_nil_iff.mpr fun f hf => ?_
    simp [List.all_eq_true.mp List.all_takeWhile f hf]
  have hsplit : words fragments.reverse = words (fragments.reverse.dropWhile (·.isBlank)) := by
    have := congrArg words
      (List.takeWhile_append_dropWhile (p := fun f : Fragment α => f.isBlank) (l := fragments.reverse))
    rw [words_append, hblank, List.nil_append] at this
    exact this.symm
  rw [dropEndBlanks, words, List.filter_reverse, ← words, ← hsplit, words, List.filter_reverse,
    List.reverse_reverse, words]

/-- What comes of nothing for blanks comes of the words. -/
theorem flatMap_words {F : Fragment α → List β} (hF : ∀ f, f.isBlank = true → F f = [])
    (fragments : List (Fragment α)) : (words fragments).flatMap F = fragments.flatMap F := by
  induction fragments with
  | nil => rfl
  | cons f rest ih =>
    rw [List.flatMap_cons, ← ih, words, List.filter_cons]
    cases hf : f.isBlank with
    | true => simp [words, hF f hf]
    | false => simp [words]

/-- The fragment of a piece, if it is not a line feed. -/
def Piece.fragment? : Piece α → Option (Fragment α)
  | fragment f => some f
  | newline _ => none

def Piece.run : Piece α → TextRun α
  | fragment f => f.run
  | newline run => run

namespace Setting

/-- Everything that was put somewhere, in reading order. -/
def fragments (s : Setting α) : List (Fragment α) :=
  s.done.flatMap (·.fragments) ++ s.current ++ s.word

theorem words_endLine (s : Setting α) (fallback : Option (TextRun α)) (isHard : Bool) :
    words (s.endLine fallback isHard).fragments = words s.fragments := by
  simp [endLine, fragments, words_append, words_dropEndBlanks]

variable [Scalar α]

theorem word_placeWord (maxWidth : α) (s : Setting α) : (s.placeWord maxWidth).word = [] := by
  unfold placeWord
  split
  next h => exact List.isEmpty_iff.mp h
  next => rfl

theorem placeWord_of_nil (maxWidth : α) {s : Setting α} (h : s.word = []) :
    s.placeWord maxWidth = s := if_pos (List.isEmpty_iff.mpr h)

/-- A word goes on a line of its own, or on the line being filled if it is the first one there or if
there is room. -/
theorem placeWord_cases (maxWidth : α) {s : Setting α} (hne : s.word ≠ []) :
    (s.current.any (!·.isBlank) = true ∧ maxWidth < totalWidth s.current + totalWidth s.word ∧
      s.placeWord maxWidth = { s.endLine none false with current := s.word, word := [] }) ∨
    ((s.current.any (!·.isBlank) = true →
        ¬ maxWidth < totalWidth s.current + totalWidth s.word) ∧
      s.placeWord maxWidth = { s with current := s.current ++ s.word, word := [] }) := by
  unfold placeWord
  rw [if_neg (mt List.isEmpty_iff.mp hne)]
  dsimp only
  split
  next hfull =>
    obtain ⟨hany, hwide⟩ := Bool.and_eq_true_iff.mp hfull
    exact Or.inl ⟨hany, of_decide_eq_true hwide, rfl⟩
  next hfull =>
    refine Or.inr ⟨fun hany hwide => hfull ?_, rfl⟩
    exact Bool.and_eq_true_iff.mpr ⟨hany, decide_eq_true hwide⟩

theorem words_placeWord (maxWidth : α) (s : Setting α) :
    words (s.placeWord maxWidth).fragments = words s.fragments := by
  by_cases hne : s.word = []
  · rw [placeWord_of_nil maxWidth hne]
  obtain ⟨-, -, hwrap⟩ | ⟨-, hjoin⟩ := placeWord_cases maxWidth hne
  · rw [hwrap, ← words_endLine s none false]
    simp [fragments, endLine]
  · rw [hjoin]
    simp [fragments]

theorem words_add (maxWidth : α) (s : Setting α) (p : Piece α) :
    words (s.add maxWidth p).fragments = words s.fragments ++ words p.fragment?.toList := by
  cases p with
  | newline run =>
    rw [add, words_endLine, words_placeWord]
    simp [Piece.fragment?, words]
  | fragment f =>
    unfold add
    dsimp only
    split
    next hf =>
      have hplaced := words_placeWord maxWidth s
      rw [← hplaced]
      simp [fragments, word_placeWord, words_append, Piece.fragment?]
    next => simp [fragments, words_append, Piece.fragment?]

theorem words_foldl_add (maxWidth : α) (s : Setting α) (ps : List (Piece α)) :
    words (ps.foldl (add maxWidth) s).fragments =
      words s.fragments ++ words (ps.filterMap Piece.fragment?) := by
  induction ps generalizing s with
  | nil => simp [words]
  | cons p rest ih =>
    rw [List.foldl_cons, ih, words_add, List.append_assoc, ← words_append]
    cases p <;> rfl

theorem words_finish (maxWidth : α) (last : Option (TextRun α)) (s : Setting α) :
    words ((s.finish maxWidth last).flatMap (·.fragments)) = words s.fragments := by
  have hplaced := words_placeWord maxWidth s
  unfold finish
  dsimp only
  split
  next h =>
    obtain ⟨hcurrent, -⟩ := Bool.and_eq_true_iff.mp h
    rw [← hplaced, fragments, word_placeWord, List.isEmpty_iff.mp hcurrent]
    simp
  next =>
    rw [← hplaced, ← words_endLine _ last true, fragments]
    simp [endLine, word_placeWord]

end Setting

variable [Scalar α]

/-- The lines hold the words of the runs in their order. -/
theorem words_lines (runs : List (TextRun α)) (maxWidth : α) :
    words ((lines runs maxWidth).flatMap (·.fragments)) =
      words ((pieces runs).filterMap Piece.fragment?) := by
  rw [lines, Setting.words_finish, Setting.words_foldl_add]
  rfl

/-- The runs of everything that was put somewhere, and of what gives empty lines their height. -/
structure Setting.From (runs : List (TextRun α)) (s : Setting α) : Prop where
  done : ∀ l ∈ s.done, (∀ f ∈ l.fragments, f.run ∈ runs) ∧ ∀ r ∈ l.fallback, r ∈ runs
  current : ∀ f ∈ s.current, f.run ∈ runs
  word : ∀ f ∈ s.word, f.run ∈ runs

namespace Setting.From

variable {runs : List (TextRun α)} {s : Setting α}

omit [Scalar α] in
theorem endLine (h : s.From runs) {fallback : Option (TextRun α)} (hf : ∀ r ∈ fallback, r ∈ runs)
    (isHard : Bool) : (s.endLine fallback isHard).From runs := by
  refine ⟨fun l hl => ?_, by simp [Setting.endLine], h.word⟩
  rcases List.mem_append.mp hl with hl | hl
  · exact h.done l hl
  · obtain rfl := List.mem_singleton.mp hl
    refine ⟨fun f hfs => h.current f ?_, hf⟩
    have := (List.dropWhile_sublist _).subset (List.mem_reverse.mp hfs)
    exact List.mem_reverse.mp this

theorem placeWord (h : s.From runs) (maxWidth : α) : (s.placeWord maxWidth).From runs := by
  by_cases hne : s.word = []
  · rwa [placeWord_of_nil maxWidth hne]
  obtain ⟨-, -, hwrap⟩ | ⟨-, hjoin⟩ := placeWord_cases maxWidth hne
  · have hend : (s.endLine none false).From runs := h.endLine (by simp) false
    rw [hwrap]
    exact ⟨hend.done, h.word, by simp⟩
  · rw [hjoin]
    refine ⟨h.done, fun f hf => ?_, by simp⟩
    rcases List.mem_append.mp hf with hf | hf
    · exact h.current f hf
    · exact h.word f hf

theorem add (h : s.From runs) (maxWidth : α) {p : Piece α} (hp : p.run ∈ runs) :
    (s.add maxWidth p).From runs := by
  have hplaced := h.placeWord maxWidth
  cases p with
  | newline run => exact hplaced.endLine (fun r hr => by cases hr; exact hp) true
  | fragment f =>
    unfold Setting.add
    dsimp only
    split
    next =>
      refine ⟨hplaced.done, fun g hg => ?_, hplaced.word⟩
      rcases List.mem_append.mp hg with hg | hg
      · exact hplaced.current g hg
      · rwa [List.mem_singleton.mp hg]
    next =>
      refine ⟨h.done, h.current, fun g hg => ?_⟩
      rcases List.mem_append.mp hg with hg | hg
      · exact h.word g hg
      · rwa [List.mem_singleton.mp hg]

theorem foldl_add (h : s.From runs) (maxWidth : α) {ps : List (Piece α)}
    (hps : ∀ p ∈ ps, p.run ∈ runs) : (ps.foldl (Setting.add maxWidth) s).From runs := by
  induction ps generalizing s with
  | nil => exact h
  | cons p rest ih =>
    exact ih (h.add maxWidth (hps p (by simp))) fun q hq => hps q (List.mem_cons_of_mem p hq)

theorem finish (h : s.From runs) (maxWidth : α) {last : Option (TextRun α)}
    (hlast : ∀ r ∈ last, r ∈ runs) :
    ∀ l ∈ s.finish maxWidth last, (∀ f ∈ l.fragments, f.run ∈ runs) ∧ ∀ r ∈ l.fallback, r ∈ runs := by
  have hplaced := h.placeWord maxWidth
  unfold Setting.finish
  dsimp only
  split
  next => exact hplaced.done
  next => exact (hplaced.endLine hlast true).done

end Setting.From

theorem run_pieces {runs : List (TextRun α)} {p : Piece α} (h : p ∈ pieces runs) : p.run ∈ runs := by
  obtain ⟨⟨run, index⟩, hrun, hp⟩ := List.mem_flatMap.mp h
  have hmem : run ∈ runs := List.fst_mem_of_mem_zipIdx hrun
  have hp : p ∈ piecesOfRun run index := hp
  unfold piecesOfRun at hp
  split at hp
  · rw [List.mem_singleton.mp hp]
    exact hmem
  · obtain ⟨token, -, rfl⟩ := List.mem_map.mp hp
    cases token <;> exact hmem

/-- What comes of the pieces of each run comes of all pieces, run by run. -/
theorem pieces_flatMap {F : Piece α → List β} {G : TextRun α → List β} {runs : List (TextRun α)}
    (h : ∀ run ∈ runs, ∀ index, (piecesOfRun run index).flatMap F = G run) :
    (pieces runs).flatMap F = runs.flatMap G := by
  have hindexed : ∀ k, ((runs.zipIdx k).flatMap fun p => piecesOfRun p.1 p.2).flatMap F =
      runs.flatMap G := by
    induction runs with
    | nil => simp
    | cons run rest ih =>
      obtain ⟨hrun, hrest⟩ := List.forall_mem_cons.mp h
      intro k
      rw [List.zipIdx_cons, List.flatMap_cons, List.flatMap_append, hrun k, ih hrest,
        List.flatMap_cons]
  exact hindexed 0

theorem flatMap_pieces {F : Fragment α → List β} {G : TextRun α → List β} {runs : List (TextRun α)}
    (h : ∀ run ∈ runs, ∀ index,
      ((piecesOfRun run index).filterMap Piece.fragment?).flatMap F = G run) :
    ((pieces runs).filterMap Piece.fragment?).flatMap F = runs.flatMap G := by
  simp only [List.filterMap_eq_flatMap_toList, List.flatMap_assoc] at h ⊢
  exact pieces_flatMap h

/-- Lines take their height from the runs that they were set from. -/
theorem runs_lines {runs : List (TextRun α)} {maxWidth : α} {l : TextLine α}
    (hl : l ∈ lines runs maxWidth) : ∀ r ∈ l.runs, r ∈ runs := by
  have hstart : Setting.From runs {} := ⟨by simp, by simp, by simp⟩
  obtain ⟨hfragments, hfallback⟩ := (hstart.foldl_add maxWidth fun p hp => run_pieces hp).finish
    maxWidth (fun r hr => List.mem_of_getLast? hr) l hl
  intro r hr
  unfold TextLine.runs at hr
  split at hr
  · exact hfallback r (by simpa using hr)
  · obtain ⟨f, hf, rfl⟩ := List.mem_map.mp hr
    exact hfragments f hf

/-- No font is used but those of the runs. -/
theorem mem_fontsUsed {runs : List (TextRun α)} {maxWidth : α} {name : String}
    (h : name ∈ fontsUsed runs (lines runs maxWidth)) : ∃ r ∈ runs, r.font = name := by
  rcases List.mem_append.mp h with h | h
  · obtain ⟨p, hp, hname⟩ := List.mem_filterMap.mp h
    have hrun := run_pieces hp
    cases p with
    | newline run => simp at hname
    | fragment f =>
      dsimp only at hname
      split at hname
      · simp at hname
      · exact ⟨f.run, hrun, Option.some.inj hname⟩
  · obtain ⟨r, hr, hname⟩ := List.mem_filterMap.mp h
    obtain ⟨l, hl, hr⟩ := List.mem_flatMap.mp hr
    split at hname
    · simp at hname
    · exact ⟨r, runs_lines hl r hr, Option.some.inj hname⟩

end Typeset

namespace Placed

variable [Scalar α]

theorem map_fragment_row (stretch baseline x : α) (fragments : List (Fragment α)) :
    (row stretch baseline x fragments).map (·.fragment) = fragments := by
  induction fragments generalizing x with
  | nil => rfl
  | cons f rest ih => simp [row, ih]

theorem map_fragment_lines (frame : Frame α) (align : Alignment) (y : α) (ls : List (TextLine α)) :
    (lines frame align y ls).map (·.fragment) = ls.flatMap (·.fragments) := by
  induction ls generalizing y with
  | nil => rfl
  | cons l rest ih => simp [lines, line, map_fragment_row, ih]

/-- Nothing is left out when the lines are put into their place. -/
theorem map_fragment_text (runs : List (TextRun α)) (frame : Frame α) (align : Alignment) :
    (text runs frame align).map (·.fragment) =
      (Typeset.lines runs frame.width).flatMap (·.fragments) :=
  map_fragment_lines frame align frame.y _

/-- Nothing is put into its place but fragments of the runs. -/
theorem run_text {runs : List (TextRun α)} {frame : Frame α} {align : Alignment} {p : Placed α}
    (h : p ∈ text runs frame align) : p.fragment.run ∈ runs := by
  have hfragment := List.mem_map_of_mem (f := Placed.fragment) h
  rw [map_fragment_text] at hfragment
  obtain ⟨l, hl, hp⟩ := List.mem_flatMap.mp hfragment
  refine Typeset.runs_lines hl _ ?_
  rw [TextLine.runs, if_neg (by simp [List.ne_nil_of_mem hp])]
  exact List.mem_map_of_mem hp

/-- What comes of the words of each run comes of them in their place, run by run. -/
theorem flatMap_text {F : Fragment α → List β} {G : TextRun α → List β} {runs : List (TextRun α)}
    (hF : ∀ f, f.isBlank = true → F f = [])
    (h : ∀ run ∈ runs, ∀ index,
      ((Typeset.piecesOfRun run index).filterMap Typeset.Piece.fragment?).flatMap F = G run)
    (frame : Frame α) (align : Alignment) :
    (text runs frame align).flatMap (fun p => F p.fragment) = runs.flatMap G := by
  rw [← List.flatMap_map Placed.fragment F, map_fragment_text, ← Typeset.flatMap_words hF,
    Typeset.words_lines, Typeset.flatMap_words hF, Typeset.flatMap_pieces h]

end Placed

end CardPress
