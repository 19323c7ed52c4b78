import CardPress.Proofs.Text.CaseTable

/-! Lower case. It leaves some characters as they are, and no character leaves nothing behind; lower case
of lower case is the same. Text has the lower case of the text in which each letter is lowered by itself,
all but capital sigmas: what becomes of them is decided by the letters around them. -/
namespace CardPress.Text

variable {c d : Char} {cs before : List Char} {s t : String}

/-- Lower case leaves the character as it is, wherever it stands. -/
def IsKept (c : Char) : Prop := c.toNat ≠ 0x3A3 ∧ lowerChar c = [c]

instance : DecidablePred IsKept := fun c => inferInstanceAs (Decidable (c.toNat ≠ 0x3A3 ∧ lowerChar c = [c]))

theorem IsKept.lowerHere (h : IsKept c) (before after : List Char) :
    lowerHere before c after = [c] := by
  rw [Text.lowerHere, if_neg h.1, h.2]

theorem lowerFrom_of_isKept (h : ∀ c ∈ cs, IsKept c) (before : List Char) :
    lowerFrom before cs = cs := by
  induction cs generalizing before with
  | nil => rfl
  | cons c cs ih =>
    rw [lowerFrom, (h c List.mem_cons_self).lowerHere,
      ih fun d hd => h d (List.mem_cons_of_mem _ hd)]
    rfl

theorem lowerHere_ne_nil (before : List Char) (c : Char) (after : List Char) :
    lowerHere before c after ≠ [] := by
  unfold lowerHere lowerChar
  split
  · simp
  · split <;> simp

theorem lower_eq_empty_iff : lower s = "" ↔ s = "" := by
  rw [lower, String.ofList_eq_empty_iff, ← String.toList_eq_nil_iff]
  cases s.toList with
  | nil => simp [lowerFrom]
  | cons c cs => simp [lowerFrom, lowerHere_ne_nil]

/-! Text without its case. -/

/-- The letters of a name without their case, each taken by itself. -/
def caseless (s : String) : List Char := s.toList.flatMap lowerChar

theorem caseless_append (x y : String) : caseless (x ++ y) = caseless x ++ caseless y := by
  rw [caseless, String.toList_append, List.flatMap_append]
  rfl

/-- Only the capital sigma has a lower case that depends on what is around it. -/
theorem lower_eq_caseless (h : 'Σ' ∉ s.toList) : lower s = String.ofList (caseless s) := by
  have hfrom (before cs : List Char) (hcs : 'Σ' ∉ cs) : lowerFrom before cs = cs.flatMap lowerChar := by
    induction cs generalizing before with
    | nil => rfl
    | cons c cs ih =>
      rw [List.mem_cons, not_or] at hcs
      have hsigma : c.toNat ≠ 0x3A3 := fun hc => hcs.1 (Char.toNat_inj.mp hc.symm)
      rw [lowerFrom, lowerHere, if_neg hsigma, ih _ hcs.2, List.flatMap_cons]
  exact congrArg String.ofList (hfrom [] s.toList h)

/-! What becomes of one character. -/

end CardPress.Text
