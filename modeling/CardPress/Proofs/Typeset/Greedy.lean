import CardPress.Proofs.Typeset.Rows
import CardPress.Proofs.Typeset.Widths

/-! As many words to a line as fit: no line could have taken the next word, and a wider frame never
needs more lines. -/
namespace CardPress.Typeset

theorem lineWords_ne_nil {α : Type} {fragments : List (Fragment α)} {f : Fragment α}
    (hlast : f ∈ fragments.getLast?) (hf : f.isBlank = false) : lineWords fragments ≠ [] := by
  -- the last word is what stands behind the last blank
  have hready : ∀ g ∈ (fragments.rdropWhile (!·.isBlank)).getLast?, g.isBlank = true := by
    intro g hg
    obtain ⟨hne, rfl⟩ := List.mem_getLast?_eq_getLast hg
    simpa using List.rdropWhile_last_not (fun g : Fragment α => !g.isBlank) fragments hne
  have hne : fragments.rtakeWhile (!·.isBlank) ≠ [] := by
    intro hnil
    obtain ⟨hne, rfl⟩ := List.mem_getLast?_eq_getLast hlast
    exact List.rtakeWhile_eq_nil_iff.mp hnil hne (by simp [hf])
  have hword : ∀ g ∈ fragments.rtakeWhile (!·.isBlank), g.isBlank = false := fun g hg => by
    simpa using List.mem_rtakeWhile_imp hg
  rw [← List.rdropWhile_append_rtakeWhile (p := (!·.isBlank)) (l := fragments),
    lineWords_append_word hready hne hword]
  simp

namespace Row.Sound

variable {maxWidth : Rat} {r : Row Rat}

theorem width_le (h : r.Sound maxWidth) (hmany : 2 ≤ (lineWords r.kept).length) :
    r.line.width ≤ maxWidth := by
  obtain ⟨before, word, hkept, hroom⟩ := h.fits hmany
  rw [dropEndBlanks_of_last h.kept] at hkept
  rw [TextLine.width, Row.line, hkept, totalWidth_append]
  exact not_lt.mp hroom

theorem single_or_empty (h : r.Sound maxWidth) (hwide : maxWidth < r.line.width) :
    (lineWords r.kept).length = 1 ∨ (r.kept = [] ∧ maxWidth < 0) := by
  have hfew : (lineWords r.kept).length < 2 :=
    not_le.mp fun hmany => absurd (h.width_le hmany) (not_le.mpr hwide)
  cases hlast : r.kept.getLast? with
  | none =>
    have hnil := List.getLast?_eq_none_iff.mp hlast
    have hwidth : r.line.width = 0 := by rw [TextLine.width, Row.line, hnil, totalWidth_nil]
    exact Or.inr ⟨hnil, hwidth ▸ hwide⟩
  | some f =>
    have hsome := List.length_pos_iff.mpr (lineWords_ne_nil hlast (h.kept f hlast))
    exact Or.inl (by omega)

end Row.Sound

/-- Words stay whole. A line that holds two of them or more is no wider than the frame, and a line
is wrapped only where the next word does not fit behind the blanks that are dropped. -/
theorem lines_fill_greedily (runs : List (TextRun Rat)) (maxWidth : Rat) :
    ((lines runs maxWidth).flatMap fun l => lineWords l.fragments) = wholeWords (pieces runs) ∧
    (∀ l ∈ lines runs maxWidth, 2 ≤ (lineWords l.fragments).length → l.width ≤ maxWidth) ∧
    (∀ l ∈ lines runs maxWidth, maxWidth < l.width →
      (lineWords l.fragments).length = 1 ∨ (l.fragments = [] ∧ maxWidth < 0)) ∧
    ∃ rows : List (Row Rat), lines runs maxWidth = rows.map Row.line ∧
      rows.flatMap Row.pieces = pieces runs ∧
      (∀ r ∈ rows, ∀ f ∈ r.dropped, f.isBlank = true) ∧
      (rows.IsChain fun r next => r.line.isHard = false →
        ∃ word ∈ (lineWords next.line.fragments).head?,
          maxWidth < r.line.width + totalWidth r.dropped + totalWidth word) ∧
      ∀ r ∈ rows.getLast?, r.line.isHard = true := by
  obtain ⟨rows, hlines, h⟩ := exists_broken runs maxWidth
  rw [hlines, List.flatMap_map, List.forall_mem_map, List.forall_mem_map]
  refine ⟨h.words, fun r hr => (h.sound r hr).width_le, fun r hr => (h.sound r hr).single_or_empty,
    rows, rfl, h.pieces, fun r hr => (h.sound r hr).dropped, ?_, h.last⟩
  refine h.wraps.imp fun r next hwraps hsoft => ?_
  obtain ⟨-, word, hword, hwide⟩ := hwraps (Ending.eq_full_of_isHard hsoft)
  refine ⟨word, hword, ?_⟩
  rwa [totalWidth_append] at hwide

/-- A line with nothing on it is wider than a frame of negative width. -/
theorem lines_empty_overwide :
    ∃ l ∈ lines ([] : List (TextRun Rat)) (-1), -1 < l.width ∧
      (lineWords l.fragments).length ≠ 1 := by
  refine ⟨⟨[], none, true⟩, List.mem_singleton_self _, by decide, by simp [lineWords]⟩

namespace Setting

/-- What is left when the text ends makes one more line, and there is always one. -/
theorem length_finish {α : Type} [Scalar α] (maxWidth : α) (last : Option (TextRun α))
    (s : Setting α) :
    (s.finish maxWidth last).length =
      if (s.placeWord maxWidth).current = [] then max (s.placeWord maxWidth).done.length 1
      else (s.placeWord maxWidth).done.length + 1 := by
  unfold Setting.finish
  generalize s.placeWord maxWidth = placed
  cases hcurrent : placed.current <;> cases hdone : placed.done <;> simp [endLine, hcurrent, hdone]

variable {s t : Setting Rat} {narrow wide : Rat}

/-- Holds the same text as another setting and has come no further with it: on fewer lines, or on as
many with no more on the line being filled. -/
structure Ahead (s t : Setting Rat) : Prop where
  word : s.word = t.word
  current : s.current = [] ↔ t.current = []
  widths : ∀ f ∈ t.current ++ t.word, 0 ≤ f.width
  lines : s.done.length < t.done.length ∨
    (s.done.length = t.done.length ∧ totalWidth s.current ≤ totalWidth t.current ∧
      (s.current.any (!·.isBlank) = true → t.current.any (!·.isBlank) = true))

namespace Ahead

theorem refl (h : ∀ f ∈ s.current ++ s.word, 0 ≤ f.width) : Ahead s s :=
  ⟨rfl, .rfl, h, .inr ⟨rfl, le_rfl, id⟩⟩

theorem length_le (h : Ahead s t) : s.done.length ≤ t.done.length := by
  obtain hlt | ⟨heq, -⟩ := h.lines
  · exact hlt.le
  · exact heq.le

theorem endLine (h : Ahead s t) (fallback : Option (TextRun Rat)) (isHard : Bool) :
    Ahead (s.endLine fallback isHard) (t.endLine fallback isHard) where
  word := h.word
  current := .rfl
  widths f hf := h.widths f (by simp_all [Setting.endLine])
  lines := by
    simp only [Setting.endLine, List.length_append, List.length_singleton]
    obtain hlt | ⟨heq, -⟩ := h.lines
    · exact .inl (by omega)
    · exact .inr ⟨by omega, le_rfl, id⟩

theorem blank (h : Ahead s t) (hplaced : t.word = []) {f : Fragment Rat} (hf : f.isBlank = true)
    (hwidth : 0 ≤ f.width) :
    Ahead { s with current := s.current ++ [f] } { t with current := t.current ++ [f] } where
  word := h.word
  current := by simp
  widths g hg := by
    have hold := h.widths g
    simp only [hplaced, List.append_nil, List.mem_append, List.mem_singleton] at hg hold
    rcases hg with hg | rfl
    · exact hold hg
    · exact hwidth
  lines := by
    refine h.lines.imp_right ?_
    rintro ⟨heq, hle, hany⟩
    refine ⟨heq, ?_, by simpa [hf] using hany⟩
    rw [totalWidth_append, totalWidth_append]
    exact add_le_add_left hle _

theorem letter (h : Ahead s t) {f : Fragment Rat} (hwidth : 0 ≤ f.width) :
    Ahead { s with word := s.word ++ [f] } { t with word := t.word ++ [f] } where
  word := by rw [h.word]
  current := h.current
  widths g hg := by
    rw [← List.append_assoc] at hg
    rcases List.mem_append.mp hg with hg | hg
    · exact h.widths g hg
    · rwa [List.mem_singleton.mp hg]
  lines := h.lines

theorem wrap_wrap (h : Ahead s t) :
    Ahead { s.endLine none false with current := t.word, word := [] }
      { t.endLine none false with current := t.word, word := [] } where
  word := rfl
  current := .rfl
  widths f hf := h.widths f (by simp_all)
  lines := by
    simp only [Setting.endLine, List.length_append, List.length_singleton]
    obtain hlt | ⟨heq, -⟩ := h.lines
    · exact .inl (by omega)
    · exact .inr ⟨by omega, le_rfl, id⟩

/-- The setting that is ahead may fall back to a line of its own, where the word stands alone. -/
theorem wrap_join (h : Ahead s t) (hne : t.word ≠ []) (hlt : s.done.length < t.done.length) :
    Ahead { s.endLine none false with current := t.word, word := [] }
      { t with current := t.current ++ t.word, word := [] } where
  word := rfl
  current := by simp [hne]
  widths f hf := h.widths f (by simp_all)
  lines := by
    have hcurrent := totalWidth_nonneg fun f hf => h.widths f (List.mem_append_left _ hf)
    simp only [Setting.endLine, List.length_append, List.length_singleton, totalWidth_append,
      List.any_append, Bool.or_eq_true]
    rcases Nat.lt_or_eq_of_le hlt with hlt | heq
    · exact .inl hlt
    · exact .inr ⟨heq, le_add_of_nonneg_left hcurrent, .inr⟩

theorem join_wrap (h : Ahead s t) (hne : t.word ≠ []) :
    Ahead { s with current := s.current ++ t.word, word := [] }
      { t.endLine none false with current := t.word, word := [] } where
  word := rfl
  current := by simp [hne]
  widths f hf := h.widths f (by simp_all)
  lines := by
    have hlength := h.length_le
    simp only [Setting.endLine, List.length_append, List.length_singleton]
    exact .inl (by omega)

theorem join_join (h : Ahead s t) (hne : t.word ≠ []) :
    Ahead { s with current := s.current ++ t.word, word := [] }
      { t with current := t.current ++ t.word, word := [] } where
  word := rfl
  current := by simp [hne]
  widths f hf := h.widths f (by simp_all)
  lines := by
    simp only [totalWidth_append, List.any_append, Bool.or_eq_true]
    exact h.lines.imp_right fun ⟨heq, hle, hany⟩ =>
      ⟨heq, add_le_add_left hle _, Or.imp_left hany⟩

/-- A line that has no room for a word has none in a narrower frame, unless it is ahead. -/
theorem lt_of_full (h : Ahead s t) (hle : narrow ≤ wide) (hs : s.current.any (!·.isBlank) = true)
    (hwide : wide < totalWidth s.current + totalWidth t.word)
    (ht : t.current.any (!·.isBlank) = true →
      ¬ narrow < totalWidth t.current + totalWidth t.word) :
    s.done.length < t.done.length := by
  refine h.lines.resolve_right fun ⟨_, hwidth, hany⟩ => ht (hany hs) ?_
  calc narrow ≤ wide := hle
    _ < totalWidth s.current + totalWidth t.word := hwide
    _ ≤ totalWidth t.current + totalWidth t.word := add_le_add_left hwidth _

theorem placeWord (h : Ahead s t) (hle : narrow ≤ wide) :
    Ahead (s.placeWord wide) (t.placeWord narrow) := by
  by_cases hne : t.word = []
  · rwa [placeWord_of_nil wide (h.word.trans hne), placeWord_of_nil narrow hne]
  have hwide := placeWord_cases wide (h.word ▸ hne)
  rw [h.word] at hwide
  obtain ⟨hany, hfull, hs⟩ | ⟨-, hs⟩ := hwide <;>
    obtain ⟨-, -, ht⟩ | ⟨hroom, ht⟩ := placeWord_cases narrow hne <;> rw [hs, ht]
  · exact h.wrap_wrap
  · exact h.wrap_join hne (h.lt_of_full hle hany hfull hroom)
  · exact h.join_wrap hne
  · exact h.join_join hne

theorem add (h : Ahead s t) (hle : narrow ≤ wide) {p : Piece Rat}
    (hp : ∀ f ∈ p.fragment?, 0 ≤ f.width) : Ahead (s.add wide p) (t.add narrow p) := by
  have hplaced := h.placeWord hle
  cases p with
  | newline run => exact hplaced.endLine (some run) true
  | fragment f =>
    unfold Setting.add
    dsimp only
    split
    next hf => exact hplaced.blank (word_placeWord narrow t) hf (hp f rfl)
    next => exact h.letter (hp f rfl)

theorem foldl_add (h : Ahead s t) (hle : narrow ≤ wide) {ps : List (Piece Rat)}
    (hps : ∀ p ∈ ps, ∀ f ∈ p.fragment?, 0 ≤ f.width) :
    Ahead (ps.foldl (Setting.add wide) s) (ps.foldl (Setting.add narrow) t) := by
  induction ps generalizing s t with
  | nil => exact h
  | cons p rest ih =>
    obtain ⟨hp, hrest⟩ := List.forall_mem_cons.mp hps
    exact ih (h.add hle hp) hrest

theorem finish (h : Ahead s t) (hle : narrow ≤ wide) (last : Option (TextRun Rat)) :
    (s.finish wide last).length ≤ (t.finish narrow last).length := by
  have hplaced := h.placeWord hle
  have hlength := hplaced.length_le
  rw [length_finish, length_finish]
  by_cases hcurrent : (t.placeWord narrow).current = []
  · rw [if_pos hcurrent, if_pos (hplaced.current.mpr hcurrent)]
    omega
  · rw [if_neg hcurrent, if_neg (mt hplaced.current.mp hcurrent)]
    omega

end Ahead

end Setting

/-- A wider frame never needs more lines. -/
theorem lines_wider_fewer {runs : List (TextRun Rat)} (hsize : ∀ r ∈ runs, 0 ≤ r.size)
    {narrow wide : Rat} (hle : narrow ≤ wide) :
    (lines runs wide).length ≤ (lines runs narrow).length ∧
      (lines runs wide).countP (·.isHard) = (lines runs narrow).countP (·.isHard) := by
  constructor
  · have hstart : Setting.Ahead ({} : Setting Rat) {} := .refl (by simp)
    exact (hstart.foldl_add hle (width_pieces_nonneg hsize)).finish hle runs.getLast?
  · rw [countP_hard_lines, countP_hard_lines]

theorem lines_wider_fewer_two_words :
    (∀ r ∈ [TextRun.plain "a bb"], 0 ≤ r.size) ∧ (6 : Rat) ≤ 20 ∧
      (lines [TextRun.plain "a bb"] 20).length ≤ (lines [TextRun.plain "a bb"] 6).length ∧
      (lines [TextRun.plain "a bb"] 20).countP (·.isHard) =
        (lines [TextRun.plain "a bb"] 6).countP (·.isHard) ∧
      (lines [TextRun.plain "a bb"] 20).length = 1 ∧
      (lines [TextRun.plain "a bb"] 6).length = 2 := by
  have hsize : ∀ r ∈ [TextRun.plain "a bb"], 0 ≤ r.size := by decide +kernel
  have hle : (6 : Rat) ≤ 20 := by decide +kernel
  obtain ⟨hlength, hhard⟩ := lines_wider_fewer hsize hle
  exact ⟨hsize, hle, hlength, hhard, by decide +kernel, by decide +kernel⟩

end CardPress.Typeset
