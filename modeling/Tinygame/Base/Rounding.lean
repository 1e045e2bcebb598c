import Tinygame.Base.Numbers

/-!
# How far rounding goes

A rational number is rounded past no whole number that has its own double, and onto one only from nearby.
-/

namespace Tinygame.Double

variable {k n m : Int} {value : ℚ}

/-! ### The nearest whole number -/

theorem le_nearest (above : (k : ℚ) ≤ value) : k ≤ nearest value := by
  have floor : k ≤ ⌊value⌋ := Int.le_floor.mpr above
  unfold nearest
  simp only
  split <;> omega

theorem nearest_le (under : value ≤ k) : nearest value ≤ k := by
  unfold nearest
  simp only
  split
  · exact Int.cast_le.mp ((Int.floor_le value).trans under)
  · rename_i far
    have short : (⌊value⌋ : ℚ) < k := by
      refine lt_of_le_of_ne ((Int.floor_le value).trans under) fun same => far (.inl ?_)
      have : value ≤ ⌊value⌋ := under.trans_eq same.symm
      linarith
    have : ⌊value⌋ < k := Int.cast_lt.mp short
    omega

/-- It is at most half away. -/
theorem nearest_sub_le (value : ℚ) : (nearest value : ℚ) - value ≤ 1 / 2 := by
  unfold nearest
  simp only
  split
  · have := Int.floor_le value
    linarith
  · rename_i far
    rw [not_or] at far
    push_cast
    linarith [not_lt.mp far.1]

/-! ### The nearest double -/

def gap (value : ℚ) : ℚ := 2 ^ lastPlace value

theorem gap_pos (value : ℚ) : 0 < gap value := zpow_pos (by norm_num) _

/-- What is left of a number whose size is no matter. -/
def rounded (value : ℚ) : ℚ := nearest (value / gap value) * gap value

theorem round_cases (value : ℚ) : round value = .infinite (decide (value < 0)) ∨ round value = .finite (rounded value) := by
  unfold round
  simp only
  split
  · exact .inl rfl
  · exact .inr rfl

theorem round_of_small (small : |rounded value| < 2 ^ 1024) : round value = .finite (rounded value) :=
  if_neg (not_le.mpr small)

/-- Below `2^53` the last place is no place before the point. -/
theorem gap_eq (small : |value| < 2 ^ 53) : ∃ places : ℕ, gap value = (2 ^ places)⁻¹ := by
  have low : lastPlace value ≤ 0 := by
    unfold lastPlace
    rcases eq_or_ne value 0 with rfl | nonzero
    · norm_num
    · have : Int.log 2 |value| < 53 := (Int.lt_zpow_iff_log_lt (by norm_num) (abs_pos.mpr nonzero)).mp (by exact_mod_cast small)
      omega
  refine ⟨(lastPlace value).natAbs, ?_⟩
  unfold gap
  rw [← zpow_natCast, ← zpow_neg]
  congr 1
  omega

/-- From `2^53` on the doubles are at least two apart, and a number is at least `2^52` such steps. -/
theorem gap_of_large (large : 2 ^ 53 ≤ |value|) : 2 ≤ gap value ∧ 2 ^ 52 * gap value ≤ |value| := by
  have positive : 0 < |value| := lt_of_lt_of_le (by norm_num) large
  have log : 53 ≤ Int.log 2 |value| := (Int.zpow_le_iff_le_log (by norm_num) positive).mp (by exact_mod_cast large)
  have place : lastPlace value = Int.log 2 |value| - 52 := by
    unfold lastPlace
    omega
  constructor
  · calc (2 : ℚ)
      _ = 2 ^ (1 : ℤ) := by norm_num
      _ ≤ gap value := zpow_le_zpow_right₀ (by norm_num) (by omega)
  · calc (2 : ℚ) ^ 52 * gap value
      _ = 2 ^ Int.log 2 |value| := by
        unfold gap
        rw [place, ← zpow_natCast, ← zpow_add₀ (by norm_num)]
        congr 1
        push_cast
        ring
      _ ≤ |value| := Int.zpow_log_le_self (by norm_num) positive

/-- The doubles about a number are no further apart than this. -/
theorem gap_le (value : ℚ) : gap value ≤ max (|value| / 2 ^ 52) (1 / 2 ^ 52) := by
  have far : gap value ≤ max (2 ^ (Int.log 2 |value| - 52)) (2 ^ (-1074 : ℤ)) := by
    unfold gap lastPlace
    rcases max_choice (Int.log 2 |value| - 52) (-1074) with first | second
    · rw [first]
      exact le_max_left ..
    · rw [second]
      exact le_max_right ..
  have near : (2 : ℚ) ^ (-1074 : ℤ) ≤ 1 / 2 ^ 52 := by
    rw [one_div, ← zpow_natCast, ← zpow_neg]
    exact zpow_le_zpow_right₀ (by norm_num) (by norm_num)
  have log : (2 : ℚ) ^ (Int.log 2 |value| - 52) ≤ max (|value| / 2 ^ 52) (1 / 2 ^ 52) := by
    rw [zpow_sub₀ (by norm_num)]
    rcases eq_or_ne value 0 with rfl | nonzero
    · rw [abs_zero, Int.log_zero_right]
      exact le_max_of_le_right (by norm_num)
    · refine le_max_of_le_left ?_
      have self : (2 : ℚ) ^ Int.log 2 |value| ≤ |value| := by
        exact_mod_cast Int.zpow_log_le_self (by norm_num) (abs_pos.mpr nonzero)
      have cast : (2 : ℚ) ^ (52 : ℤ) = 2 ^ 52 := by norm_num
      rw [cast]
      gcongr
  exact far.trans (max_le log (near.trans (le_max_right ..)))

theorem rounded_sub_le (value : ℚ) : rounded value - value ≤ gap value / 2 := by
  have close := nearest_sub_le (value / gap value)
  have positive := gap_pos value
  calc rounded value - value
    _ = (nearest (value / gap value) - value / gap value) * gap value := by
      unfold rounded
      field_simp
    _ ≤ 1 / 2 * gap value := by gcongr
    _ = gap value / 2 := by ring

theorem rounded_eq_mul {places : ℕ} (fine : gap value = (2 ^ places)⁻¹) :
    rounded value = nearest (value * 2 ^ places) / 2 ^ places := by
  unfold rounded
  rw [fine, div_inv_eq_mul, div_eq_mul_inv]

theorem le_rounded_of_large (large : 2 ^ 53 ≤ value) : 2 ^ 53 ≤ rounded value := by
  have positive : 0 ≤ value := le_trans (by norm_num) large
  have ⟨two, steps⟩ := gap_of_large (large.trans_eq (abs_of_nonneg positive).symm)
  rw [abs_of_nonneg positive] at steps
  have many : (2 ^ 52 : Int) ≤ nearest (value / gap value) :=
    le_nearest (by rw [le_div_iff₀ (gap_pos _)]; exact_mod_cast steps)
  have many : ((2 ^ 52 : Int) : ℚ) ≤ nearest (value / gap value) := Int.cast_le.mpr many
  push_cast at many
  calc (2 : ℚ) ^ 53
    _ = 2 ^ 52 * 2 := by norm_num
    _ ≤ nearest (value / gap value) * gap value := by
      gcongr
      linarith

theorem rounded_le_of_large (large : value ≤ -2 ^ 53) : rounded value ≤ -2 ^ 53 := by
  have negative : value ≤ 0 := large.trans (by norm_num)
  have ⟨two, steps⟩ := @gap_of_large value (by rw [abs_of_nonpos negative]; linarith)
  rw [abs_of_nonpos negative] at steps
  have many : nearest (value / gap value) ≤ (-2 ^ 52 : Int) :=
    nearest_le (by rw [div_le_iff₀ (gap_pos _)]; push_cast; linarith)
  have many : (nearest (value / gap value) : ℚ) ≤ ((-2 ^ 52 : Int) : ℚ) := Int.cast_le.mpr many
  push_cast at many
  unfold rounded
  nlinarith

/-- No whole number that has its own double is passed from above. -/
theorem le_rounded (small : k.natAbs < 2 ^ 53) (above : (k : ℚ) ≤ value) : (k : ℚ) ≤ rounded value := by
  have ends : (-2 ^ 53 : ℚ) < k ∧ (k : ℚ) < 2 ^ 53 := by
    constructor
    · exact_mod_cast (by omega : -2 ^ 53 < k)
    · exact_mod_cast (by omega : k < 2 ^ 53)
  by_cases large : 2 ^ 53 ≤ |value|
  · rcases le_abs'.mp large with negative | positive
    · linarith
    · exact ends.2.le.trans (le_rounded_of_large positive)
  · obtain ⟨places, fine⟩ := gap_eq (not_le.mp large)
    rw [rounded_eq_mul fine, le_div_iff₀ (by positivity)]
    have : ((k * 2 ^ places : Int) : ℚ) ≤ value * 2 ^ places := by
      push_cast
      gcongr
    exact_mod_cast le_nearest this

/-- Onto a whole number only what is at most half a step under it is rounded up. -/
theorem rounded_lt (fits : |value| < 2 ^ 53) (far : gap value / 2 < k - value) : rounded value < k := by
  obtain ⟨places, fine⟩ := gap_eq fits
  have two : (0 : ℚ) < 2 ^ places := by positivity
  have close := nearest_sub_le (value * 2 ^ places)
  rw [rounded_eq_mul fine, div_lt_iff₀ two]
  rw [fine, inv_eq_one_div, div_div, div_lt_iff₀ (by positivity)] at far
  nlinarith

/-- What is large stays large, and finite for a while. -/
theorem round_large (large : 2 ^ 52 ≤ value) (fits : value ≤ 2 ^ 60) :
    ∃ q, round value = .finite q ∧ 2 ^ 52 ≤ q ∧ q ≤ 2 * value := by
  have above : (((2 ^ 52 : Int)) : ℚ) ≤ rounded value := le_rounded (by decide) (by push_cast; exact large)
  push_cast at above
  have close := rounded_sub_le value
  have small : gap value ≤ value := by
    have bound := gap_le value
    rw [abs_of_nonneg (by linarith)] at bound
    rcases le_max_iff.mp bound with wide | fine <;> linarith
  have under : rounded value ≤ 2 * value := by linarith
  refine ⟨rounded value, round_of_small ?_, above, under⟩
  have wide : (2 : ℚ) ^ 62 ≤ 2 ^ 1024 := pow_le_pow_right₀ (by norm_num) (by norm_num)
  generalize (2 : ℚ) ^ 1024 = top at wide ⊢
  rw [abs_of_nonneg (by linarith)]
  linarith

/-- A whole number that has no double of its own becomes none that has. -/
theorem round_eq_whole (small : m.natAbs < 2 ^ 53) : round n = whole m ↔ n = m := by
  constructor
  · intro same
    by_cases own : n.natAbs < 2 ^ 53
    · exact whole_inj ((round_intCast own).symm.trans same)
    · rcases round_cases n with far | near
      · nomatch far.symm.trans same
      · have value : rounded n = m := finite.inj (near.symm.trans same)
        have large : (2 ^ 53 : ℚ) ≤ n ∨ (n : ℚ) ≤ -2 ^ 53 := by
          rcases (by omega : 2 ^ 53 ≤ n ∨ n ≤ -2 ^ 53) with positive | negative
          · exact .inl (by exact_mod_cast positive)
          · exact .inr (by exact_mod_cast negative)
        have reached : (2 ^ 53 : ℚ) ≤ m ∨ (m : ℚ) ≤ -2 ^ 53 := by
          rw [← value]
          exact large.imp le_rounded_of_large rounded_le_of_large
        have : 2 ^ 53 ≤ m ∨ m ≤ -2 ^ 53 := by exact_mod_cast reached
        omega
  · rintro rfl
    exact round_intCast small

/-! ### Whole numbers -/

theorem whole_sub : whole n - whole m = round ((n - m : Int) : ℚ) := by
  show round (n + -m) = _
  rw [← sub_eq_add_neg, Int.cast_sub]

theorem below_whole : (whole n).below (whole m) = decide (n < m) := by
  simp [whole, below]

theorem upTo_whole : (whole n).upTo (whole m) = decide (n ≤ m) := by
  rw [Bool.eq_iff_iff]
  simp [whole, upTo, below, le_iff_lt_or_eq]

end Tinygame.Double
