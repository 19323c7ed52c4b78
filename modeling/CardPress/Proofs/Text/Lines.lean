import CardPress.Proofs.Text.Trim

/-! Lines of a text: but for empty ones, they are what stands between the characters that end lines. -/
namespace CardPress.Text

variable {c : Char} {cs l ends before after : List Char} {ls ps : List (List Char)}

theorem flatten_consFirst (c : Char) (ls : List (List Char)) :
    (consFirst c ls).flatten = c :: ls.flatten := by
  cases ls with
  | nil => rfl
  | cons l ls => rfl

theorem length_consFirst {ls : List (List Char)} (h : ls ≠ []) (c : Char) :
    (consFirst c ls).length = ls.length := by
  cases ls with
  | nil => exact absurd rfl h
  | cons l ls => rfl

theorem consFirst_append {ls : List (List Char)} (h : ls ≠ []) (c : Char) (more : List (List Char)) :
    consFirst c (ls ++ more) = consFirst c ls ++ more := by
  cases ls with
  | nil => exact absurd rfl h
  | cons l ls => rfl

theorem lineList_ne_nil_of_mem {l : List Char} (h : l ∈ lineList cs) : l ≠ [] := by
  induction cs using lineList.induct generalizing l with
  | case1 => cases h
  | case2 cs ih =>
    rw [lineList, List.mem_cons] at h
    obtain rfl | h := h
    · exact List.cons_ne_nil _ _
    · exact ih h
  | case3 c cs hpair hend ih =>
    rw [lineList.eq_3 _ _ hpair, if_pos hend, List.mem_cons] at h
    obtain rfl | h := h
    · exact List.cons_ne_nil _ _
    · exact ih h
  | case4 c cs hpair hend ih =>
    rw [lineList.eq_3 _ _ hpair, if_neg hend] at h
    cases hlines : lineList cs with
    | nil =>
      rw [hlines] at h
      rw [List.mem_singleton.mp h]
      exact List.cons_ne_nil _ _
    | cons first ls =>
      rw [hlines] at h ih
      obtain rfl | h := List.mem_cons.mp h
      · exact List.cons_ne_nil _ _
      · exact ih (List.mem_cons_of_mem first h)

theorem flatten_lineList (cs : List Char) : (lineList cs).flatten = cs := by
  induction cs using lineList.induct with
  | case1 => rfl
  | case2 cs ih => rw [lineList, List.flatten_cons, ih]; rfl
  | case3 c cs hpair hend ih => rw [lineList.eq_3 _ _ hpair, if_pos hend, List.flatten_cons, ih]; rfl
  | case4 c cs hpair hend ih => rw [lineList.eq_3 _ _ hpair, if_neg hend, flatten_consFirst, ih]

/-- A character that ends a line, or the two that end one together. -/
def IsTerminator (cs : List Char) : Prop := cs = ['\r', '\n'] ∨ ∃ c, isLineEnd c = true ∧ cs = [c]

/-- Those lines that are not empty. -/
def full (ls : List (List Char)) : List (List Char) := ls.filter fun l => !l.isEmpty

theorem full_nil_cons (ls : List (List Char)) : full ([] :: ls) = full ls := rfl

theorem full_append (ls ps : List (List Char)) : full (ls ++ ps) = full ls ++ full ps :=
  List.filter_append ..

/-- Lines and the pieces between their ends: the first line makes the first piece, and the others make the
other pieces that are not empty. -/
structure Piecewise (ls ps : List (List Char)) (first : List Char) (rest : List (List Char)) : Prop where
  pieces : ps = first :: rest
  lines : ls = [] ∧ first = [] ∧ rest = [] ∨ ∃ l more, ls = l :: more ∧
    dropEndWhile isLineEnd l = first ∧ full (more.map (dropEndWhile isLineEnd)) = full rest

namespace Piecewise

variable {first : List Char} {rest more : List (List Char)}

theorem full_eq (h : Piecewise ls ps first rest) :
    full (ls.map (dropEndWhile isLineEnd)) = full ps := by
  obtain ⟨rfl, ⟨rfl, rfl, rfl⟩ | ⟨l, more, rfl, rfl, hrest⟩⟩ := h
  · rfl
  · rw [List.map_cons, ← List.singleton_append, full_append, hrest, ← full_append, List.singleton_append]

/-- An empty line in front. -/
theorem endLine (h : Piecewise ls ps first rest) (hends : ∀ c ∈ ends, isLineEnd c = true)
    (hmore : full more = full ps) : Piecewise (ends :: ls) ([] :: more) [] more :=
  ⟨rfl, .inr ⟨ends, ls, rfl, dropEndWhile_eq_nil_iff.mpr hends, h.full_eq.trans hmore.symm⟩⟩

theorem letter (h : Piecewise ls ps first rest) (hc : isLineEnd c = false) :
    Piecewise (consFirst c ls) (ps.modifyHead (List.cons c)) (c :: first) rest := by
  obtain ⟨rfl, ⟨rfl, rfl, rfl⟩ | ⟨l, more, rfl, rfl, hrest⟩⟩ := h
  · exact ⟨rfl, .inr ⟨[c], [], rfl, dropEndWhile_cons hc [], rfl⟩⟩
  · exact ⟨rfl, .inr ⟨c :: l, more, rfl, dropEndWhile_cons hc l, hrest⟩⟩

end Piecewise

theorem exists_piecewise (cs : List Char) :
    ∃ first rest, Piecewise (lineList cs) (cs.splitOnP isLineEnd) first rest := by
  induction cs using lineList.induct with
  | case1 => exact ⟨[], [], rfl, .inl ⟨rfl, rfl, rfl⟩⟩
  | case2 cs ih =>
    obtain ⟨first, rest, h⟩ := ih
    rw [lineList, List.splitOnP_cons_eq_if_modifyHead, if_pos (by decide),
      List.splitOnP_cons_eq_if_modifyHead, if_pos (by decide)]
    exact ⟨_, _, h.endLine (List.all_eq_true.mp (by decide)) (full_nil_cons _)⟩
  | case3 c cs hpair hend ih =>
    obtain ⟨first, rest, h⟩ := ih
    rw [lineList.eq_3 _ _ hpair, if_pos hend, List.splitOnP_cons_eq_if_modifyHead, if_pos hend]
    exact ⟨_, _, h.endLine (by simpa using hend) rfl⟩
  | case4 c cs hpair hgoes ih =>
    obtain ⟨first, rest, h⟩ := ih
    rw [lineList.eq_3 _ _ hpair, if_neg hgoes, List.splitOnP_cons_eq_if_modifyHead, if_neg hgoes]
    exact ⟨_, _, h.letter (Bool.eq_false_iff.mpr hgoes)⟩

theorem full_lines (s : String) :
    full ((lines s).map String.toList) = full (s.toList.splitOnP isLineEnd) := by
  obtain ⟨first, rest, h⟩ := exists_piecewise s.toList
  rw [← h.full_eq, lines, linesWithEnds, List.map_map]
  congr 2
  funext l
  exact String.toList_ofList

/-- The lines of two texts with the end of a line between them. -/
theorem full_lines_append {terminator : List Char} (h : IsTerminator terminator) (before after : String) :
    full ((lines (before ++ String.ofList terminator ++ after)).map String.toList) =
      full ((lines before).map String.toList) ++ full ((lines after).map String.toList) := by
  rw [full_lines, full_lines, full_lines, String.toList_append, String.toList_append,
    String.toList_ofList, List.append_assoc]
  obtain rfl | ⟨c, hc, rfl⟩ := h
  · rw [List.cons_append, List.splitOnP_append_cons _ _ (by decide), full_append, List.singleton_append,
      List.splitOnP_cons_eq_if_modifyHead, if_pos (by decide), full_nil_cons]
  · rw [List.singleton_append, List.splitOnP_append_cons _ _ hc, full_append]

theorem full_lines_single (h : ∀ c ∈ l, isLineEnd c = false) :
    full ((lines (String.ofList l)).map String.toList) = full [l] := by
  rw [full_lines, String.toList_ofList, List.splitOnP_eq_singleton h]

end CardPress.Text
