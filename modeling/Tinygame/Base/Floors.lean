import Mathlib.Algebra.Order.Archimedean.Basic
import Mathlib.Algebra.Order.Floor.Ring
import Mathlib.Tactic.Linarith
import Mathlib.Tactic.Ring

/-!
# Floored lines

Lines over an ordered field, read at the natural numbers and cut to whole numbers. What is cut off is less than one, so
two lines that stay close are the same line.
-/

namespace Floored

variable {K : Type} [Field K] [LinearOrder K] [IsStrictOrderedRing K] [FloorRing K] {p q c : K} {i j : Int}

theorem floors_apart (same : ⌊p⌋ + i = ⌊q⌋ + j) : |p - q| < |((j - i : Int) : K)| + 1 := by
  have floors : ((⌊p⌋ : Int) : K) - ⌊q⌋ = ((j - i : Int) : K) := by
    rw [← Int.cast_sub]
    congr 1
    omega
  have lower := Int.floor_le p
  have upper := Int.lt_floor_add_one p
  have lower' := Int.floor_le q
  have upper' := Int.lt_floor_add_one q
  have above := le_abs_self ((j - i : Int) : K)
  have below := neg_abs_le ((j - i : Int) : K)
  rw [abs_lt]
  constructor <;> linarith

/-- Two lines with one beginning that are as far apart as two whole numbers everywhere, when they are cut, are the same
line. -/
theorem lines_agree (same : ∀ n : Nat, 1 ≤ n → ⌊p * n + c⌋ + i = ⌊q * n + c⌋ + j) : p = q ∧ i = j := by
  have slopes : p = q := by
    by_contra different
    have positive : 0 < |p - q| := abs_pos.mpr (sub_ne_zero.mpr different)
    obtain ⟨n, far⟩ := exists_nat_gt ((|((j - i : Int) : K)| + 1) / |p - q|)
    have bound : 0 < (|((j - i : Int) : K)| + 1) / |p - q| := div_pos (add_pos_of_nonneg_of_pos (abs_nonneg _) one_pos) positive
    have some_ : 1 ≤ n := Nat.cast_pos.mp (bound.trans far)
    have near := floors_apart (same n some_)
    have distance : p * n + c - (q * n + c) = (p - q) * n := by ring
    rw [distance, abs_mul, Nat.abs_cast] at near
    rw [div_lt_iff₀ positive, mul_comm] at far
    exact lt_irrefl _ (far.trans near)
  have one := same 1 (le_refl 1)
  rw [slopes] at one
  exact ⟨slopes, Int.add_left_cancel one⟩

end Floored
