import CardPress.Text.Blank
import Mathlib.Data.List.TakeWhile

/-! Trimming: what is left begins and ends with something that stays, and nothing is left of what goes
all the way through. -/
namespace CardPress.Text

variable {p : Char → Bool} {cs : List Char} {c : Char}

theorem dropEndWhile_prefix (p : Char → Bool) (cs : List Char) : dropEndWhile p cs <+: cs := by
  have hsuffix := List.dropWhile_suffix p (l := cs.reverse)
  rw [← List.reverse_prefix, List.reverse_reverse] at hsuffix
  exact hsuffix

theorem head_dropWhile (h : c ∈ (cs.dropWhile p).head?) : p c = false := by
  have hnot := List.head?_dropWhile_not p cs
  rw [Option.mem_def.mp h] at hnot
  exact hnot

/-- What is trimmed on both sides begins and ends with something that stays. -/
theorem head_trimmed (h : c ∈ (dropEndWhile p (cs.dropWhile p)).head?) : p c = false := by
  obtain ⟨rest, hrest⟩ := dropEndWhile_prefix p (cs.dropWhile p)
  have hfirst : c ∈ (cs.dropWhile p).head? := by
    rw [← hrest, List.head?_append, Option.mem_def.mp h]
    rfl
  exact head_dropWhile hfirst

theorem last_trimmed (h : c ∈ (dropEndWhile p cs).getLast?) : p c = false := by
  rw [dropEndWhile, List.getLast?_reverse] at h
  exact head_dropWhile h

theorem dropWhile_eq_self (h : ∀ c ∈ cs.head?, p c = false) : cs.dropWhile p = cs := by
  cases cs with
  | nil => rfl
  | cons c cs => rw [List.dropWhile_cons, if_neg (by simp [h c rfl])]

theorem dropEndWhile_eq_self (h : ∀ c ∈ cs.getLast?, p c = false) : dropEndWhile p cs = cs := by
  rw [dropEndWhile, dropWhile_eq_self (by rwa [List.head?_reverse]), List.reverse_reverse]

theorem dropEndWhile_cons (h : p c = false) (cs : List Char) :
    dropEndWhile p (c :: cs) = c :: dropEndWhile p cs := by
  rw [dropEndWhile, dropEndWhile, List.reverse_cons, List.dropWhile_append]
  split
  · rename_i hnone
    rw [List.isEmpty_iff.mp hnone, dropWhile_eq_self (by simpa using h)]
    rfl
  · rw [List.reverse_append]
    rfl

theorem mem_of_mem_trimList (h : c ∈ trimList cs) : c ∈ cs := by
  have hstart := dropEndWhile_prefix isBlank (cs.dropWhile isBlank)
  exact (List.dropWhile_sublist _).mem (hstart.mem h)

theorem dropEndWhile_eq_nil_iff : dropEndWhile p cs = [] ↔ ∀ c ∈ cs, p c = true := by
  rw [dropEndWhile, List.reverse_eq_nil_iff, List.dropWhile_eq_nil_iff]
  simp only [List.mem_reverse]

theorem trimList_eq_nil_iff : trimList cs = [] ↔ ∀ c ∈ cs, isBlank c = true := by
  rw [trimList, dropEndWhile_eq_nil_iff]
  refine ⟨fun h => ?_, fun h c hc => h c ((List.dropWhile_sublist _).mem hc)⟩
  -- what stays in front is no blank, and all that is left is blank
  have hnil : cs.dropWhile isBlank = [] := by
    cases hcs : cs.dropWhile isBlank with
    | nil => rfl
    | cons c rest =>
      have hfirst : c ∈ (cs.dropWhile isBlank).head? := by rw [hcs]; rfl
      have hstays := head_dropWhile hfirst
      rw [h c (by simp [hcs])] at hstays
      cases hstays
  exact List.dropWhile_eq_nil_iff.mp hnil

theorem trim_eq_empty_iff {s : String} : trim s = "" ↔ ∀ c ∈ s.toList, isBlank c = true := by
  rw [trim, ← trimList_eq_nil_iff, String.ofList_eq_empty_iff]

/-- Of characters that are written out this can be evaluated. -/
theorem none_of_any (h : cs.any p = false) : ∀ c ∈ cs, p c = false := fun c hc =>
  Bool.eq_false_iff.mpr (List.any_eq_false.mp h c hc)

/-! Text that blanks may stand around. -/

/-- Text with something else than a blank at both ends. -/
structure IsTight (cs : List Char) : Prop where
  nonempty : cs ≠ []
  head : ∀ c ∈ cs.head?, isBlank c = false
  last : ∀ c ∈ cs.getLast?, isBlank c = false

instance : Decidable (IsTight cs) :=
  decidable_of_iff (cs ≠ [] ∧ cs.head?.any isBlank = false ∧ cs.getLast?.any isBlank = false) (by
    rw [Option.any_eq_false, Option.any_eq_false]
    exact ⟨fun h => ⟨h.1, h.2.1, h.2.2⟩, fun h => ⟨h.nonempty, h.head, h.last⟩⟩)

theorem IsTight.trimList (h : IsTight cs) : trimList cs = cs := by
  rw [Text.trimList, dropWhile_eq_self h.head, dropEndWhile_eq_self h.last]

theorem trimList_cases (cs : List Char) : trimList cs = [] ∨ IsTight (trimList cs) := by
  by_cases h : trimList cs = []
  · exact .inl h
  · exact .inr ⟨h, fun _ => head_trimmed, fun _ => last_trimmed⟩

theorem trim_ofList (h : IsTight cs) : trim (String.ofList cs) = String.ofList cs := by
  rw [trim, String.toList_ofList, h.trimList]

end CardPress.Text
