import CardPress.Typeset
import Mathlib.Data.List.SplitBy

/-! Text and its tokens: nothing is lost by cutting, and text is cut at separators only. -/
namespace CardPress.Typeset

/-- Text is cut at line feeds, tabs and spaces. -/
def isSeparator (c : Char) : Bool := c = '\n' || c = '\t' || c = ' '

/-- A tab is shown as a space. -/
def shown (c : Char) : Char := if c = '\t' then ' ' else c

namespace Token

/-- The characters that a token shows. -/
def chars : Token → List Char
  | newline => ['\n']
  | blank s | word s => s.toList

/-- A blank is a separator if it is made of spaces; other white space is none. -/
def isSeparator : Token → Bool
  | newline => true
  | blank s => s.toList.all (· = ' ')
  | word _ => false

/-- A blank is white space, either spaces or free of separators; a word is free of separators and
shows something else than white space. -/
def IsProper : Token → Prop
  | newline => True
  | blank s => s.toList ≠ [] ∧ (∀ c ∈ s.toList, Text.isBlank c = true) ∧
      ((∀ c ∈ s.toList, c = ' ') ∨ ∀ c ∈ s.toList, Typeset.isSeparator c = false)
  | word s => (∃ c ∈ s.toList, Text.isBlank c = false) ∧
      ∀ c ∈ s.toList, Typeset.isSeparator c = false

end Token

/-- Tokens show the text, and between two separators there is one token. -/
structure IsCut (cs : List Char) (ts : List Token) : Prop where
  chars : ts.flatMap Token.chars = cs.map shown
  proper : ∀ t ∈ ts, t.IsProper
  whole : ts.IsChain fun t next => t.isSeparator = true ∨ next.isSeparator = true

theorem isStretch_of_not_separator {c d : Char} (hc : isSeparator c = false)
    (hd : isSeparator d = false) : isStretch c d = true := by
  simp only [isSeparator, Bool.or_eq_false_iff, decide_eq_false_iff_not] at hc hd
  simp [isStretch, hc, hd]

/-- Characters that stay together are all spaces or none of them is a separator. -/
theorem alike_of_isStretch {c d : Char} (h : isStretch c d = true) :
    (c = ' ' ∧ d = ' ') ∨ (isSeparator c = false ∧ isSeparator d = false) := by
  simp only [isStretch, Bool.not_or, Bool.and_eq_true, Bool.not_eq_true', decide_eq_false_iff_not,
    decide_eq_true_eq, eq_iff_iff] at h
  obtain ⟨⟨⟨hcn, hct⟩, hdn, hdt⟩, hspace⟩ := h
  by_cases hc : c = ' '
  · exact Or.inl ⟨hc, hspace.mp hc⟩
  · have hd : d ≠ ' ' := mt hspace.mpr hc
    exact Or.inr ⟨by simp [isSeparator, hcn, hct, hc], by simp [isSeparator, hdn, hdt, hd]⟩

/-- The four kinds of stretches that text is cut into. -/
inductive Stretch : List Char → Prop where
  | newline : Stretch ['\n']
  | tab : Stretch ['\t']
  | spaces {cs : List Char} : cs ≠ [] → (∀ c ∈ cs, c = ' ') → Stretch cs
  | joined {cs : List Char} : cs ≠ [] → (∀ c ∈ cs, isSeparator c = false) → Stretch cs

theorem Stretch.single (c : Char) : Stretch [c] := by
  cases hc : isSeparator c with
  | false => exact .joined (by simp) (by simpa using hc)
  | true =>
    simp only [isSeparator, Bool.or_eq_true, decide_eq_true_eq] at hc
    obtain (rfl | rfl) | rfl := hc
    · exact .newline
    · exact .tab
    · exact .spaces (by simp) (by simp)

theorem Stretch.cons {c d : Char} {cs : List Char} (hcd : isStretch c d = true)
    (h : Stretch (d :: cs)) : Stretch (c :: d :: cs) := by
  obtain ⟨rfl, rfl⟩ | ⟨hc, hd⟩ := alike_of_isStretch hcd
  · cases h with
    | spaces _ hall => exact .spaces (by simp) (by simpa using hall)
    | joined _ hall => exact absurd (hall ' ' (by simp)) (by decide)
  · cases h with
    | newline => exact absurd hd (by decide)
    | tab => exact absurd hd (by decide)
    | spaces _ hall => exact absurd (hall d (by simp) ▸ hd) (by decide)
    | joined _ hall => exact .joined (by simp) (List.forall_mem_cons.mpr ⟨hc, hall⟩)

theorem stretch_of_isChain {cs : List Char} (hne : cs ≠ [])
    (h : cs.IsChain fun c d => isStretch c d = true) : Stretch cs := by
  induction cs with
  | nil => exact absurd rfl hne
  | cons c rest ih =>
    cases rest with
    | nil => exact .single c
    | cons d rest =>
      obtain ⟨hcd, hrest⟩ := List.isChain_cons_cons.mp h
      exact (ih (by simp) hrest).cons hcd

theorem stretch_of_mem_splitBy {cs m : List Char} (h : m ∈ cs.splitBy isStretch) : Stretch m :=
  stretch_of_isChain (List.ne_nil_of_mem_splitBy h) (List.isChain_of_mem_splitBy h)

theorem map_shown {cs : List Char} (h : '\t' ∉ cs) : cs.map shown = cs := by
  have hkeeps : ∀ c ∈ cs, shown c = c := by
    intro c hc
    refine if_neg fun ht => ?_
    exact h (ht ▸ hc)
  rw [List.map_congr_left hkeeps, List.map_id']

namespace Stretch

variable {cs : List Char}

theorem ofStretch_spaces (hne : cs ≠ []) (h : ∀ c ∈ cs, c = ' ') :
    Token.ofStretch cs = .blank (String.ofList cs) := by
  have hall : cs.all Text.isBlank = true :=
    List.all_eq_true.mpr fun c hc => by rw [h c hc]; decide
  unfold Token.ofStretch
  split
  next => exact absurd (h '\n' (by simp)) (by decide)
  next => exact absurd (h '\t' (by simp)) (by decide)
  next => rw [if_pos hall]

theorem ofStretch_joined (h : ∀ c ∈ cs, isSeparator c = false) :
    Token.ofStretch cs =
      if cs.all Text.isBlank then .blank (String.ofList cs) else .word (String.ofList cs) := by
  unfold Token.ofStretch
  split
  next => exact absurd (h '\n' (by simp)) (by decide)
  next => exact absurd (h '\t' (by simp)) (by decide)
  next => rfl

theorem chars_ofStretch (h : Stretch cs) : (Token.ofStretch cs).chars = cs.map shown := by
  cases h with
  | newline => rfl
  | tab => rfl
  | spaces hne hall =>
    rw [ofStretch_spaces hne hall, map_shown fun ht => absurd (hall '\t' ht) (by decide)]
    exact String.toList_ofList
  | joined hne hall =>
    rw [ofStretch_joined hall, map_shown fun ht => absurd (hall '\t' ht) (by decide)]
    split <;> exact String.toList_ofList

theorem proper_ofStretch (h : Stretch cs) : (Token.ofStretch cs).IsProper := by
  cases h with
  | newline => trivial
  | tab =>
    have hspace : ∀ c ∈ " ".toList, c = ' ' := by simp
    refine ⟨by simp, fun c hc => ?_, Or.inl hspace⟩
    rw [hspace c hc]
    decide
  | spaces hne hall =>
    rw [ofStretch_spaces hne hall]
    refine ⟨by simpa, fun c hc => ?_, Or.inl (by simpa using hall)⟩
    rw [hall c (by simpa using hc)]
    decide
  | joined hne hall =>
    rw [ofStretch_joined hall]
    split
    next hblank => exact ⟨by simpa, by simpa using hblank, Or.inr (by simpa using hall)⟩
    next hblank => exact ⟨by simpa using hblank, by simpa using hall⟩

theorem isSeparator_ofStretch (h : Stretch cs) {c : Char} (hc : c ∈ cs)
    (hsep : isSeparator c = true) : (Token.ofStretch cs).isSeparator = true := by
  cases h with
  | newline => rfl
  | tab => decide
  | spaces hne hall =>
    rw [ofStretch_spaces hne hall]
    simpa [Token.isSeparator] using hall
  | joined hne hall => exact absurd hsep (by simp [hall c hc])

end Stretch

/-- Cutting text into tokens loses nothing. -/
theorem tokens_isCut (s : String) : IsCut s.toList (tokens s) where
  chars := by
    have hstretch : ∀ m ∈ s.toList.splitBy isStretch, (Token.ofStretch m).chars = m.map shown :=
      fun m hm => (stretch_of_mem_splitBy hm).chars_ofStretch
    rw [tokens, List.flatMap_map, List.flatMap_congr hstretch, ← List.map_flatMap, List.flatMap_id',
      List.flatten_splitBy]
  proper t ht := by
    obtain ⟨m, hm, rfl⟩ := List.mem_map.mp ht
    exact (stretch_of_mem_splitBy hm).proper_ofStretch
  whole := by
    refine (List.isChain_map Token.ofStretch).mpr ?_
    refine (List.isChain_getLast_head_splitBy isStretch s.toList).imp_of_mem_imp ?_
    rintro m next hm hnext ⟨hne, hne', hbreak⟩
    -- two characters part only where one of them is a separator, and it makes its token one
    by_cases hlast : isSeparator (m.getLast hne) = true
    · exact Or.inl ((stretch_of_mem_splitBy hm).isSeparator_ofStretch (List.getLast_mem hne) hlast)
    · refine Or.inr ((stretch_of_mem_splitBy hnext).isSeparator_ofStretch (List.head_mem hne') ?_)
      by_contra hhead
      simp only [Bool.not_eq_true] at hlast hhead
      simp [isStretch_of_not_separator hlast hhead] at hbreak

end CardPress.Typeset
