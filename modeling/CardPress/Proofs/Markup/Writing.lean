import CardPress.Proofs.Markup.Reading

/-! Reading undoes writing: instructions that are written one behind the other are read back. -/
namespace CardPress

namespace Markup

variable {rest : List Char} {i : Instruction} {is : List Instruction} {items : List Item}

/-- No character of a text can begin a token. -/
def Plain : Instruction → Prop
  | .text s => ∀ c ∈ s.toList, c ≠ '<' ∧ c ≠ ':'
  | _ => True

/-- What an instruction falls into where it is written: a text into its characters. -/
def itemsOf : Instruction → List Item
  | .text s => s.toList.map .literal
  | i => [.token i]

theorem begins_written (h : WellFormed i) (hi : i.isText = false) (rest : List Char) :
    Begins i (i.written.toList ++ rest) rest := by
  cases i with
  | text s => cases hi
  | push tag => simpa [Instruction.written] using @Begins.push tag.toList rest h
  | pop tag => simpa [Instruction.written] using @Begins.pop tag.toList rest h
  | placeholder name => simpa [Instruction.written] using @Begins.placeholder name.toList rest h

/-- Whatever stands behind an instruction, it falls into the same. -/
theorem Scans.instruction (hwell : WellFormed i) (hplain : Plain i) (h : Scans rest items) :
    Scans (i.written.toList ++ rest) (itemsOf i ++ items) := by
  cases i with
  | text s => exact h.literals hplain
  | push tag | pop tag | placeholder name => exact .token (begins_written hwell rfl rest) h

theorem scans_instructions (h : ∀ i ∈ is, WellFormed i ∧ Plain i) :
    Scans (is.flatMap (·.written.toList)) (is.flatMap itemsOf) := by
  induction is with
  | nil => exact .done
  | cons i is ih =>
    obtain ⟨⟨hwell, hplain⟩, his⟩ := List.forall_mem_cons.mp h
    rw [List.flatMap_cons, List.flatMap_cons]
    exact (ih his).instruction hwell hplain

theorem textOf_toList {s : String} (h : s ≠ "") : textOf s.toList = [.text s] := by
  rw [textOf, if_neg (mt String.toList_eq_nil_iff.mp h), String.ofList_toList]

/-- A text that no other text follows is gathered by itself. -/
theorem gather_text (l : List Char) (h : ∀ i ∈ is.head?, i.isText = false) :
    gather l (is.flatMap itemsOf) = textOf l ++ gather [] (is.flatMap itemsOf) := by
  cases is with
  | nil => simp [gather, textOf]
  | cons i is =>
    have hi : i.isText = false := h i rfl
    cases i with
    | text s => cases hi
    | push tag | pop tag | placeholder name => simp [itemsOf, gather, textOf]

theorem gather_instructions (hwell : ∀ i ∈ is, WellFormed i) (hapart : is.IsChain Apart) :
    gather [] (is.flatMap itemsOf) = is := by
  induction is with
  | nil => rfl
  | cons i is ih =>
    obtain ⟨hi, his⟩ := List.forall_mem_cons.mp hwell
    obtain ⟨hnext, hchain⟩ := List.isChain_cons.mp hapart
    have hrest : gather [] (is.flatMap itemsOf) = is := ih his hchain
    cases i with
    | text s =>
      have htokens : ∀ j ∈ is.head?, j.isText = false := fun j hj =>
        Bool.eq_false_iff.mpr fun htext => hnext j hj ⟨rfl, htext⟩
      rw [List.flatMap_cons, itemsOf, gather_literals, List.nil_append, gather_text _ htokens, hrest,
        textOf_toList hi, List.singleton_append]
    | push tag | pop tag | placeholder name => simp [itemsOf, gather, textOf, hrest]

/-- Instructions are read back from what is written of them, as long as their texts are not empty, hold
no beginning of a token and do not stand side by side. -/
theorem parse_undoes_writing (hwell : ∀ i ∈ is, WellFormed i ∧ Plain i) (hapart : is.IsChain Apart) :
    parse (String.join (is.map Instruction.written)) = is := by
  refine (parse_eq_iff _ is).mpr ⟨is.flatMap itemsOf, ?_, ?_⟩
  · rw [String.toList_join, List.flatMap_map]
    exact scans_instructions hwell
  · exact gather_instructions (fun i hi => (hwell i hi).1) hapart

instance : DecidablePred InTagClass := fun _ => decidable_of_iff _ isNameChar_iff

instance : DecidablePred InPlaceholderClass := fun _ => decidable_of_iff _ isPlaceholderChar_iff

instance (p : Char → Prop) [DecidablePred p] : DecidablePred (IsName p) := fun name =>
  decidable_of_iff (name ≠ [] ∧ (name.all fun c => p c) = true) (by simp [IsName])

instance : DecidablePred WellFormed
  | .text s => inferInstanceAs (Decidable (s ≠ ""))
  | .push tag | .pop tag => inferInstanceAs (Decidable (IsName InTagClass tag.toList))
  | .placeholder name => inferInstanceAs (Decidable (IsName InPlaceholderClass name.toList))

instance : DecidablePred Plain
  | .text s => decidable_of_iff ((s.toList.all fun c => c ≠ '<' ∧ c ≠ ':') = true) (by simp [Plain])
  | .push _ | .pop _ | .placeholder _ => .isTrue trivial

instance : DecidableRel Apart := fun i j =>
  inferInstanceAs (Decidable ¬ (i.isText = true ∧ j.isText = true))

/-- Icons side by side, one of them beside a tag. -/
def iconRow : List Instruction :=
  [.placeholder "a", .placeholder "b/c", .push "b", .placeholder "a", .pop "b", .text "x > /"]

theorem parse_undoes_writing_icons :
    (∀ i ∈ iconRow, WellFormed i ∧ Plain i) ∧ iconRow.IsChain Apart ∧
      String.join (iconRow.map Instruction.written) = ":a::b/c:<b>:a:</b>x > /" ∧
      parse ":a::b/c:<b>:a:</b>x > /" = iconRow := by
  have hwell : ∀ i ∈ iconRow, WellFormed i ∧ Plain i := by decide +kernel
  have hapart : iconRow.IsChain Apart := by decide +kernel
  have hwritten : String.join (iconRow.map Instruction.written) = ":a::b/c:<b>:a:</b>x > /" := by
    decide +kernel
  exact ⟨hwell, hapart, hwritten, hwritten ▸ parse_undoes_writing hwell hapart⟩

end Markup

end CardPress
