import CardPress.Proofs.Typeset.Words
import Mathlib.Data.List.DropRight

/-! Whole words: what stands between blanks and line feeds, however many runs it is made of, and
what is left of it when the blanks at the end of a line are dropped. -/
namespace CardPress.Typeset

variable {α : Type}

/-- Words end at blanks and line feeds, not where a run ends. -/
def Piece.isBreak : Piece α → Bool
  | fragment f => f.isBlank
  | newline _ => true

/-- The words of text: all that stands between two breaks, if anything does. -/
def wholeWords (ps : List (Piece α)) : List (List (Fragment α)) :=
  ((ps.splitOnP Piece.isBreak).map fun w => w.filterMap Piece.fragment?).filter (!·.isEmpty)

def lineWords (fragments : List (Fragment α)) : List (List (Fragment α)) :=
  wholeWords (fragments.map Piece.fragment)

variable {ps qs : List (Piece α)} {fragments word : List (Fragment α)}

theorem wholeWords_append_break {p : Piece α} (hp : p.isBreak = true) (ps qs : List (Piece α)) :
    wholeWords (ps ++ p :: qs) = wholeWords ps ++ wholeWords qs := by
  rw [wholeWords, List.splitOnP_append_cons ps qs hp, List.map_append, List.filter_append]
  rfl

@[simp] theorem wholeWords_nil : wholeWords ([] : List (Piece α)) = [] := by
  simp [wholeWords, List.splitOnP_nil]

theorem wholeWords_concat_break {p : Piece α} (hp : p.isBreak = true) (ps : List (Piece α)) :
    wholeWords (ps ++ [p]) = wholeWords ps := by
  rw [wholeWords_append_break hp, wholeWords_nil, List.append_nil]

theorem wholeWords_append_breaks (hqs : ∀ p ∈ qs, p.isBreak = true) (ps : List (Piece α)) :
    wholeWords (ps ++ qs) = wholeWords ps := by
  induction qs using List.reverseRecOn with
  | nil => rw [List.append_nil]
  | append_singleton qs p ih =>
    rw [← List.append_assoc, wholeWords_concat_break (hqs p (by simp))]
    exact ih fun q hq => hqs q (by simp [hq])

theorem wholeWords_ended {p : Piece α} (hps : p ∈ ps.getLast?) (hp : p.isBreak = true)
    (qs : List (Piece α)) : wholeWords (ps ++ qs) = wholeWords ps ++ wholeWords qs := by
  obtain ⟨before, rfl⟩ := List.getLast?_eq_some_iff.mp hps
  rw [List.append_assoc, List.singleton_append, wholeWords_append_break hp,
    wholeWords_concat_break hp]

theorem lineWords_word (hne : word ≠ []) (hword : ∀ f ∈ word, f.isBlank = false) :
    lineWords word = [word] := by
  have hbreaks : ∀ p ∈ word.map Piece.fragment, p.isBreak = false := by
    simpa [Piece.isBreak] using hword
  rw [lineWords, wholeWords, List.splitOnP_eq_singleton hbreaks]
  simp [List.filterMap_map, Function.comp_def, Piece.fragment?, hne]

theorem lineWords_blanks (h : ∀ f ∈ fragments, f.isBlank = true) : lineWords fragments = [] := by
  have hbreaks : ∀ p ∈ fragments.map Piece.fragment, p.isBreak = true := by
    simpa [Piece.isBreak] using h
  simpa [lineWords] using wholeWords_append_breaks hbreaks []

theorem lineWords_append_blanks {blanks : List (Fragment α)} (h : ∀ f ∈ blanks, f.isBlank = true)
    (fragments : List (Fragment α)) : lineWords (fragments ++ blanks) = lineWords fragments := by
  rw [lineWords, List.map_append]
  exact wholeWords_append_breaks (by simpa [Piece.isBreak] using h) _

/-- A word behind a blank is a word of its own. -/
theorem lineWords_append_word (hready : ∀ f ∈ fragments.getLast?, f.isBlank = true)
    (hne : word ≠ []) (hword : ∀ f ∈ word, f.isBlank = false) :
    lineWords (fragments ++ word) = lineWords fragments ++ [word] := by
  cases hlast : fragments.getLast? with
  | none =>
    rw [List.getLast?_eq_none_iff.mp hlast, List.nil_append, lineWords_word hne hword]
    simp [lineWords]
  | some f =>
    rw [lineWords, List.map_append, wholeWords_ended (p := .fragment f) (by simp [hlast])
      (hready f hlast), ← lineWords, ← lineWords, lineWords_word hne hword]

theorem dropEndBlanks_append_dropped (fragments : List (Fragment α)) :
    dropEndBlanks fragments ++ fragments.rtakeWhile (·.isBlank) = fragments :=
  List.rdropWhile_append_rtakeWhile

theorem isBlank_of_dropped {f : Fragment α} (h : f ∈ fragments.rtakeWhile (·.isBlank)) :
    f.isBlank = true := List.mem_rtakeWhile_imp h

theorem lineWords_dropEndBlanks (fragments : List (Fragment α)) :
    lineWords (dropEndBlanks fragments) = lineWords fragments := by
  conv_rhs => rw [← dropEndBlanks_append_dropped fragments]
  exact (lineWords_append_blanks (fun f hf => isBlank_of_dropped hf) _).symm

theorem dropEndBlanks_concat_blank {f : Fragment α} (hf : f.isBlank = true)
    (fragments : List (Fragment α)) : dropEndBlanks (fragments ++ [f]) = dropEndBlanks fragments :=
  List.rdropWhile_concat_pos _ fragments f hf

theorem dropEndBlanks_concat_word {f : Fragment α} (hf : f.isBlank = false)
    (fragments : List (Fragment α)) : dropEndBlanks (fragments ++ [f]) = fragments ++ [f] :=
  List.rdropWhile_concat_neg _ fragments f (by simp [hf])

theorem dropEndBlanks_append_blanks {blanks : List (Fragment α)}
    (h : ∀ f ∈ blanks, f.isBlank = true) (fragments : List (Fragment α)) :
    dropEndBlanks (fragments ++ blanks) = dropEndBlanks fragments := by
  induction blanks using List.reverseRecOn with
  | nil => rw [List.append_nil]
  | append_singleton blanks f ih =>
    rw [← List.append_assoc, dropEndBlanks_concat_blank (h f (by simp))]
    exact ih fun g hg => h g (by simp [hg])

theorem dropEndBlanks_of_last (h : ∀ f ∈ fragments.getLast?, f.isBlank = false) :
    dropEndBlanks fragments = fragments := by
  refine List.rdropWhile_eq_self_iff.mpr fun hne => ?_
  rw [h _ (List.getLast_mem_getLast? hne)]
  simp

theorem last_dropEndBlanks {f : Fragment α} (h : f ∈ (dropEndBlanks fragments).getLast?) :
    f.isBlank = false := by
  obtain ⟨hne, rfl⟩ := List.mem_getLast?_eq_getLast h
  exact Bool.eq_false_iff.mpr (List.rdropWhile_last_not _ fragments hne)

theorem dropEndBlanks_cons_word {f : Fragment α} (hf : f.isBlank = false)
    (rest : List (Fragment α)) : dropEndBlanks (f :: rest) = f :: dropEndBlanks rest := by
  induction rest using List.reverseRecOn with
  | nil => exact dropEndBlanks_concat_word hf []
  | append_singleton rest g ih =>
    rw [← List.cons_append]
    cases hg : g.isBlank with
    | true => rw [dropEndBlanks_concat_blank hg, dropEndBlanks_concat_blank hg, ih]
    | false => rw [dropEndBlanks_concat_word hg, dropEndBlanks_concat_word hg, List.cons_append]

end CardPress.Typeset
