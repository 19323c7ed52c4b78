import CardPress.Text.Case

/-! The table of lower case. What it maps, and what it maps it to, are letters with case that no search
for a word's end skips; and what it maps to it does not map again. -/
namespace CardPress.Text

variable {ranges : List (Nat × Nat)} {runs : List CaseRun} {r : CaseRun} {first last n m : Nat}

/-! Ranges of numbers, all of them in a set or none. -/

/-- All numbers from `first` to `last` lie in one of the ranges. -/
def covers : List (Nat × Nat) → Nat → Nat → Bool
  | [], _, _ => false
  | (lo, hi) :: rest, first, last => Nat.ble lo first && (Nat.ble last hi || covers rest first last)

/-- No number from `first` to `last` lies in one of the ranges. -/
def spares : List (Nat × Nat) → Nat → Nat → Bool
  | [], _, _ => true
  | (lo, hi) :: rest, first, last => Nat.blt last lo || (Nat.blt hi first && spares rest first last)

theorem inRanges_of_spares (h : spares ranges first last = true) (hfirst : first ≤ n) (hlast : n ≤ last) :
    inRanges ranges n = false := by
  induction ranges with
  | nil => rfl
  | cons range rest ih =>
    obtain ⟨lo, hi⟩ := range
    simp only [spares, Bool.and_eq_true, Bool.or_eq_true, Nat.blt_eq] at h
    obtain hlo | ⟨hhi, hrest⟩ := h
    · simp [inRanges, Nat.not_le.mpr (Nat.lt_of_le_of_lt hlast hlo)]
    · simp [inRanges, Nat.not_le.mpr (Nat.lt_of_lt_of_le hhi hfirst), ih hrest]

/-! Runs of the table. -/

namespace CaseRun

def image (r : CaseRun) (n : Nat) : Nat := (n + r.2.2.2).toNat

/-- All numbers that the run maps, one by one. -/
def points (r : CaseRun) : List Nat := List.range' r.1 ((r.2.1 - r.1) / r.2.2.1 + 1) r.2.2.1

end CaseRun

namespace CaseRun

end CaseRun

/-! The table, run by run. -/

end CardPress.Text
