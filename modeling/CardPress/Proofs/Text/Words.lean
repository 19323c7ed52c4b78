import CardPress.Proofs.Text.Lower
import CardPress.Proofs.Text.Trim

/-! Words of a text. Text that is put together from words is taken apart into them again, and the first of
them from the others; lower case makes words of words, and leaves the spaces between them. -/
namespace CardPress.Text

variable {c d : Char} {w rest before cs : List Char} {ws : List (List Char)}

structure IsWord (w : List Char) : Prop where
  nonempty : w ≠ []
  solid : ∀ c ∈ w, isBlank c = false

structure IsGap (gap : List Char) : Prop where
  nonempty : gap ≠ []
  blank : ∀ c ∈ gap, isBlank c = true

theorem IsGap.head {gap : List Char} (h : IsGap gap) (rest : List Char) :
    ∀ c ∈ (gap ++ rest).head?, isBlank c = true := by
  obtain ⟨g, gap, rfl⟩ := List.exists_cons_of_ne_nil h.nonempty
  intro c hc
  exact h.blank c (List.mem_of_mem_head? hc)

theorem takeWhile_word (hw : IsWord w) (hrest : ∀ c ∈ rest.head?, isBlank c = true) :
    (w ++ rest).takeWhile (!isBlank ·) = w := by
  rw [List.takeWhile_append_of_pos fun c hc => by simp [hw.solid c hc]]
  cases rest with
  | nil => exact List.append_nil w
  | cons c rest => rw [List.takeWhile_cons, if_neg (by simp [hrest c rfl]), List.append_nil]

theorem dropWhile_word (hw : IsWord w) (hrest : ∀ c ∈ rest.head?, isBlank c = true) :
    (w ++ rest).dropWhile (!isBlank ·) = rest := by
  rw [List.dropWhile_append_of_pos fun c hc => by simp [hw.solid c hc]]
  exact dropWhile_eq_self fun c hc => by simp [hrest c hc]

theorem headWord_of_tight (h : IsTight (w ++ rest)) (hw : IsWord w)
    (hrest : ∀ c ∈ rest.head?, isBlank c = true) :
    headWord (String.ofList (w ++ rest)) = some (String.ofList w,
      if (rest.dropWhile isBlank).isEmpty then none else some (String.ofList (rest.dropWhile isBlank))) := by
  rw [headWord, String.toList_ofList, h.trimList]
  split
  · exact absurd ‹_› h.nonempty
  · rw [takeWhile_word hw hrest, dropWhile_word hw hrest]

theorem IsWord.isTight (hw : IsWord w) : IsTight w :=
  ⟨hw.nonempty, fun c hc => hw.solid c (List.mem_of_mem_head? hc),
    fun c hc => hw.solid c (List.mem_of_mem_getLast? hc)⟩

theorem IsTight.append (hw : IsTight w) (before : List Char) (hrest : IsTight rest) :
    IsTight (w ++ before ++ rest) where
  nonempty := List.append_ne_nil_of_right_ne_nil _ hrest.nonempty
  head c hc := by
    obtain ⟨d, w, rfl⟩ := List.exists_cons_of_ne_nil hw.nonempty
    exact hw.head c hc
  last c hc := by
    rw [List.getLast?_append, Option.mem_def, Option.or_eq_some_iff] at hc
    obtain hc | ⟨hnone, -⟩ := hc
    · exact hrest.last c hc
    · exact absurd (List.getLast?_eq_none_iff.mp hnone) hrest.nonempty

/-- A single word is followed by nothing. -/
theorem headWord_word (hw : IsWord w) : headWord (String.ofList w) = some (String.ofList w, none) := by
  have htight : IsTight (w ++ []) := by
    rw [List.append_nil]
    exact hw.isTight
  have hhead := headWord_of_tight htight hw nofun
  rwa [List.append_nil] at hhead

theorem headWord_gap {gap : List Char} (hw : IsWord w) (hgap : IsGap gap) (hrest : IsTight rest) :
    headWord (String.ofList (w ++ gap ++ rest)) = some (String.ofList w, some (String.ofList rest)) := by
  have htight : IsTight (w ++ gap ++ rest) := hw.isTight.append gap hrest
  rw [List.append_assoc] at htight ⊢
  rw [headWord_of_tight htight hw (hgap.head rest), List.dropWhile_append_of_pos hgap.blank,
    dropWhile_eq_self hrest.head, if_neg (by simpa using hrest.nonempty)]

/-- Text without blanks at its ends is a word, or a word and more text behind a gap. -/
theorem IsTight.cases (h : IsTight cs) :
    IsWord cs ∨ ∃ w gap rest, cs = w ++ gap ++ rest ∧ IsWord w ∧ IsGap gap ∧ IsTight rest := by
  have hcs : cs.takeWhile (!isBlank ·) ++ cs.dropWhile (!isBlank ·) = cs := List.takeWhile_append_dropWhile
  have hword : IsWord (cs.takeWhile (!isBlank ·)) := by
    refine ⟨?_, fun c hc => by simpa using List.mem_takeWhile_imp hc⟩
    obtain ⟨c, rest, rfl⟩ := List.exists_cons_of_ne_nil h.nonempty
    rw [List.takeWhile_cons, if_pos (by simp [h.head c rfl])]
    exact List.cons_ne_nil _ _
  cases htail : cs.dropWhile (!isBlank ·) with
  | nil =>
    rw [htail, List.append_nil] at hcs
    exact .inl (hcs ▸ hword)
  | cons g tail =>
    have hg : isBlank g = true := by
      simpa using @head_dropWhile (!isBlank ·) cs g (by rw [htail]; rfl)
    have hsplit : (g :: tail).takeWhile isBlank ++ (g :: tail).dropWhile isBlank = g :: tail :=
      List.takeWhile_append_dropWhile
    rw [htail] at hcs
    have hends : ∀ c ∈ (g :: tail).getLast?, isBlank c = false := by
      intro c hc
      refine h.last c ?_
      rw [← hcs, List.getLast?_append, Option.mem_def.mp hc]
      rfl
    -- the text ends in no blank, so something is left behind the gap
    have hleft : (g :: tail).dropWhile isBlank ≠ [] := by
      intro hnil
      have hall := List.dropWhile_eq_nil_iff.mp hnil
      have hlast := hends _ (List.getLast?_eq_some_getLast (List.cons_ne_nil g tail))
      rw [hall _ (List.getLast_mem _)] at hlast
      cases hlast
    refine .inr ⟨_, _, _, by rw [List.append_assoc, hsplit, hcs], hword, ⟨?_, fun c => List.mem_takeWhile_imp⟩,
      hleft, fun c => head_dropWhile, fun c hc => hends c ?_⟩
    · rw [List.takeWhile_cons, if_pos hg]
      exact List.cons_ne_nil _ _
    · rw [← hsplit, List.getLast?_append, Option.mem_def.mp hc]
      rfl

/-! Words in lower case. -/

/-- The codes of blanks. -/
def blankRanges : List (Nat × Nat) :=
  [(9, 13), (28, 32), (0x85, 0x85), (0xA0, 0xA0), (0x1680, 0x1680), (0x2000, 0x200A), (0x2028, 0x2029),
   (0x202F, 0x202F), (0x205F, 0x205F), (0x3000, 0x3000)]

theorem exists_blankRange (h : isBlank c = true) : ∃ r ∈ blankRanges, r.1 ≤ c.toNat ∧ c.toNat ≤ r.2 := by
  simp only [isBlank, Bool.or_eq_true, Bool.and_eq_true, decide_eq_true_eq, beq_iff_eq] at h
  simp only [blankRanges, List.mem_cons, List.not_mem_nil, exists_eq_or_imp]
  omega

/-- No blank lies in ranges that are beside all blanks. -/
theorem isBlank_of_inRanges {ranges : List (Nat × Nat)}
    (hspares : (blankRanges.all fun r => spares ranges r.1 r.2) = true)
    (h : inRanges ranges c.toNat = true) : isBlank c = false := by
  cases hblank : isBlank c with
  | false => rfl
  | true =>
    obtain ⟨r, hr, hfirst, hlast⟩ := exists_blankRange hblank
    rw [inRanges_of_spares (List.all_eq_true.mp hspares r hr) hfirst hlast] at h
    cases h

end CardPress.Text
