import CardPress.Proofs.Files.Names
import CardPress.Proofs.Text.Lower
import CardPress.Proofs.Text.Trim

/-! Names that are fit for files: which they are, and that all names for cards and decks are. -/
namespace CardPress

namespace FileName

variable {name base id stem : String} {taken : List String} {c : Char}

/-- A name that is fit for a file. -/
structure Fit (name : String) : Prop where
  nonempty : name ≠ ""
  safe : ∀ c ∈ name.toList, Text.isAlphanumeric c = true ∨ c ∈ ['-', '.', '_']
  head : ∀ c ∈ name.toList.head?, c ∉ ['.', '_']
  last : ∀ c ∈ name.toList.getLast?, c ∉ ['.', '_']

theorem not_mem_of_isTrimmed (h : isTrimmed c = false) : c ∉ ['.', '_'] := by
  simpa [isTrimmed, and_comm] using h

theorem isTrimmed_of_not_mem (h : c ∉ ['.', '_']) : isTrimmed c = false := by
  simpa [isTrimmed, and_comm] using h

/-- A name that does not lead to another folder. -/
structure Stays (name : String) : Prop where
  slash : '/' ∉ name.toList
  backslash : '\\' ∉ name.toList
  here : name ≠ "."
  above : name ≠ ".."

theorem Fit.stays (h : Fit name) : Stays name := by
  have hsafe (c : Char) (hc : Text.isAlphanumeric c = false) (hmarks : c ∉ ['-', '.', '_']) :
      c ∉ name.toList := by
    intro hmem
    obtain halnum | hmark := h.safe c hmem
    · rw [hc] at halnum
      cases halnum
    · exact hmarks hmark
  refine ⟨hsafe _ (by decide +kernel) (by decide), hsafe _ (by decide +kernel) (by decide), ?_, ?_⟩ <;>
    rintro rfl <;> exact h.head '.' rfl (by decide)

/-- The characters of a name that was made fit. -/
theorem mem_sanitize (h : c ∈ (sanitize name).toList) :
    c ∈ ['c', 'a', 'r', 'd'] ∨ c = '_' ∨ (isSafe c = true ∧ c ∈ name.toList) := by
  unfold sanitize at h
  dsimp only at h
  split at h
  · exact .inl h
  · rw [String.toList_ofList] at h
    have hmem := List.dropWhile_sublist _ |>.mem ((Text.dropEndWhile_prefix _ _).mem h)
    obtain ⟨d, hd, rfl⟩ := List.mem_map.mp hmem
    split
    · exact .inr (.inr ⟨‹_›, hd⟩)
    · exact .inr (.inl rfl)

theorem sanitize_fit (name : String) : Fit (sanitize name) where
  nonempty := by
    unfold sanitize
    dsimp only
    split
    · decide
    · rename_i hsome
      intro hnone
      rw [← String.toList_inj, String.toList_ofList] at hnone
      exact hsome (by rw [hnone]; rfl)
  safe c hc := by
    obtain hcard | rfl | ⟨hsafe, -⟩ := mem_sanitize hc
    · have hletters : ['c', 'a', 'r', 'd'].all Text.isAlphanumeric = true := by decide +kernel
      exact .inl (List.all_eq_true.mp hletters c hcard)
    · exact .inr (by decide)
    · simp only [isSafe, Bool.or_eq_true, decide_eq_true_eq] at hsafe
      obtain (halnum | rfl) | rfl := hsafe
      · exact .inl halnum
      · exact .inr (by decide)
      · exact .inr (by decide)
  head c hc := by
    unfold sanitize at hc
    dsimp only at hc
    split at hc
    · cases hc
      decide
    · rw [String.toList_ofList] at hc
      exact not_mem_of_isTrimmed (Text.head_trimmed hc)
  last c hc := by
    unfold sanitize at hc
    dsimp only at hc
    split at hc
    · cases hc
      decide
    · rw [String.toList_ofList] at hc
      exact not_mem_of_isTrimmed (Text.last_trimmed hc)

/-- Names that are fit already stay as they are, and no others do. -/
theorem sanitize_eq_self_iff : sanitize name = name ↔ Fit name := by
  refine ⟨fun h => h ▸ sanitize_fit name, fun h => ?_⟩
  have hmap : (name.toList.map fun c => if isSafe c then c else '_') = name.toList := by
    refine (List.map_congr_left fun c hc => ?_).trans (List.map_id _)
    split
    · rfl
    · rename_i hunsafe
      have hmark := (h.safe c hc).resolve_left fun halnum => hunsafe (by simp [isSafe, halnum])
      simp only [List.mem_cons, List.not_mem_nil, or_false] at hmark
      obtain rfl | rfl | rfl := hmark
      · exact absurd rfl hunsafe
      · exact absurd rfl hunsafe
      · rfl
  unfold sanitize
  dsimp only
  rw [hmap, Text.dropWhile_eq_self fun c hc => isTrimmed_of_not_mem (h.head c hc),
    Text.dropEndWhile_eq_self fun c hc => isTrimmed_of_not_mem (h.last c hc), if_neg, String.ofList_toList]
  simpa using h.nonempty

/-! Names with a number behind them. -/

theorem Fit.numbered (h : Fit base) (n : Nat) : Fit s!"{base}_{n}" := by
  have hsome : base.toList ≠ [] := fun hnone => h.nonempty (String.toList_eq_nil_iff.mp hnone)
  have hdigit {d : Char} (hd : d ∈ Nat.toDigits 10 n) :
      Text.isAlphanumeric d = true ∧ d ∉ ['.', '_'] :=
    Text.of_isDigit (P := fun d => Text.isAlphanumeric d = true ∧ d ∉ ['.', '_']) (by decide +kernel)
      (Text.isDigit_toDigits d hd)
  refine ⟨fun hnone => ?_, fun c hc => ?_, fun c hc => ?_, fun c hc => ?_⟩
  · have hlist := congrArg String.toList hnone
    rw [Text.toList_numbered] at hlist
    simp at hlist
  · rw [Text.toList_numbered, List.mem_append, List.mem_cons] at hc
    obtain hc | rfl | hc := hc
    · exact h.safe c hc
    · exact .inr (by decide)
    · exact .inl (hdigit hc).1
  · rw [Text.toList_numbered, List.head?_append_of_ne_nil _ hsome] at hc
    exact h.head c hc
  · rw [Text.toList_numbered, List.getLast?_append_of_ne_nil _ (List.cons_ne_nil _ _),
      List.getLast?_cons_of_ne_nil Nat.toDigits_ne_nil] at hc
    exact (hdigit (List.mem_of_getLast? hc)).2

theorem FirstFree.fit (h : FirstFree taken base stem) (hbase : Fit base) : Fit stem := by
  cases h with
  | whole => exact hbase
  | numbered n => exact hbase.numbered n

/-- A sigma in a name comes from the id. -/
theorem FirstFree.sigma_not_mem (h : FirstFree taken (sanitize id) stem) (hid : 'Σ' ∉ id.toList) :
    'Σ' ∉ stem.toList := by
  have hbase : 'Σ' ∉ (sanitize id).toList := by
    intro hmem
    obtain hcard | hmark | ⟨-, hmem⟩ := mem_sanitize hmem
    · exact absurd hcard (by decide)
    · exact absurd hmark (by decide)
    · exact hid hmem
  cases h with
  | whole => exact hbase
  | numbered n =>
    rw [Text.toList_numbered, List.mem_append, List.mem_cons]
    rintro (hmem | hmark | hdigit)
    · exact hbase hmem
    · exact absurd hmark (by decide)
    · exact absurd (Text.isDigit_toDigits _ hdigit) (by decide)

/-- What holds of all names that are free for an id holds of the names that were given. -/
theorem Earned.of_mem {entries : List (String × String)} (h : Earned entries) {e : String × String}
    (he : e ∈ entries) : ∃ taken, FirstFree taken (sanitize e.1) e.2 := by
  obtain ⟨before, after, heq⟩ := List.append_of_mem he
  exact ⟨_, h before e.1 e.2 after heq⟩

end FileName

end CardPress
