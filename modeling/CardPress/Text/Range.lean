/-! Sets of numbers given as sorted, disjoint, closed ranges. -/
namespace CardPress.Text

/-- Membership; the search ends at the first range above the number. -/
def inRanges : List (Nat × Nat) → Nat → Bool
  | [], _ => false
  | (lo, hi) :: rest, n => lo ≤ n && (n ≤ hi || inRanges rest n)

end CardPress.Text
