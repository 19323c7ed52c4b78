import CardPress.Number.Scalar
import Mathlib.Algebra.BigOperators.Group.List.Basic
import Mathlib.Algebra.Order.Ring.Rat

/-! Exact fractions as lengths: nothing is rounded, and what the library knows of numbers compared,
added up and divided applies. -/
namespace CardPress

/-- The fraction that number text names; an infinite number is none. -/
def Numeral.toFraction? : Numeral → Option Rat
  | .finite negative digits exponent =>
    some ((if negative then -1 else 1) * (digits : Rat) * (10 : Rat) ^ exponent)
  | .infinite _ | .nan => none

instance : Scalar Rat where
  decideLt := inferInstance
  decideLe := inferInstance
  ofNat n := n
  ofNumeral? := Numeral.toFraction?
  floorQuotient x y := .ok (x / y).floor
  text := toString

namespace Scalar

@[simp] theorem ofNat_eq_cast (n : Nat) : (ofNat n : Rat) = n := rfl

@[simp] theorem zero_eq : (zero : Rat) = 0 := rfl

theorem isZero_iff (x : Rat) : isZero x = true ↔ x = 0 := by
  unfold isZero
  rw [zero_eq, decide_eq_true_iff]
  exact ⟨fun h => Rat.le_antisymm h.1 h.2, fun h => by simp [h]⟩

theorem floorDivide_of_ne {x y : Rat} (h : y ≠ 0) : floorDivide x y = .ok (x / y).floor := by
  unfold floorDivide
  rw [if_neg (mt (isZero_iff y).mp h)]
  rfl

theorem smaller_le (x y : Rat) : smaller x y ≤ x ∧ smaller x y ≤ y := by
  unfold smaller
  split
  next h => exact ⟨Rat.le_of_lt h, Rat.le_refl⟩
  next h => exact ⟨Rat.le_refl, Rat.not_lt.mp h⟩

theorem sum_eq (xs : List Rat) : sum xs = xs.sum := by
  rw [sum, zero_eq, List.sum_eq_foldl]

theorem larger_eq_max (x y : Rat) : larger x y = max x y := by
  unfold larger
  split
  next h => exact (max_eq_right h.le).symm
  next h => exact (max_eq_left (not_lt.mp h)).symm

theorem smaller_eq_min (x y : Rat) : smaller x y = min x y := by
  unfold smaller
  split
  next h => exact (min_eq_right h.le).symm
  next h => exact (min_eq_left (not_lt.mp h)).symm

theorem divide_of_ne {x y : Rat} (h : y ≠ 0) : divide x y = .ok (x / y) := by
  unfold divide
  rw [if_neg (mt (isZero_iff y).mp h)]

end Scalar

end CardPress
