import Tinygame.Base.Rounding

/-!
# Remainders of a script

Lua has `a % b` of doubles, which its builds compute in one of two ways. Of whole numbers that have their own doubles
both give the remainder itself.
-/

namespace Tinygame.Double

def div : Double → Double → Double
  | .nan, _ | _, .nan => .nan
  | .infinite _, .infinite _ => .nan
  | .infinite a, .finite q => .infinite (a != decide (q < 0))
  | .finite _, .infinite _ => .finite 0
  | .finite p, .finite q =>
    if q = 0 then if p = 0 then .nan else .infinite (decide (p < 0))
    else round (p / q)

instance : Div Double := ⟨div⟩

def floor : Double → Double
  | .nan => .nan
  | .infinite a => .infinite a
  | .finite value => whole ⌊value⌋

/-- What a division towards zero leaves, which is a double. -/
def fmod : Double → Double → Double
  | .nan, _ | _, .nan => .nan
  | .infinite _, _ => .nan
  | .finite p, .infinite _ => .finite p
  | .finite p, .finite q =>
    if q = 0 then .nan
    else .finite (p - (if 0 ≤ p / q then ⌊p / q⌋ else ⌈p / q⌉) * q)

/-- `a - floor(a / b) * b`, or `fmod` with `b` added where the signs differ. -/
inductive Remainder where
  | floored
  | truncated
  deriving DecidableEq

def Remainder.of : Remainder → Double → Double → Double
  | .floored, a, b => a - (a / b).floor * b
  | .truncated, a, b =>
    let m := fmod a b
    if (m * b).below (whole 0) then m + b else m

/-! ### A quotient is rounded onto no whole number from below -/

variable {a b : Int}

theorem gap_div (least : 0 ≤ a) (most : a < 2 ^ 53) (positive : 0 < b) (large : b < 2 ^ 53) :
    gap ((a : ℚ) / b) / 2 < 1 / b := by
  have b' : (0 : ℚ) < b := Int.cast_pos.mpr positive
  have a' : (a : ℚ) < 2 ^ 53 := by exact_mod_cast most
  have b'' : (b : ℚ) < 2 ^ 53 := by exact_mod_cast large
  have bound := gap_le ((a : ℚ) / b)
  rw [abs_of_nonneg (div_nonneg (by exact_mod_cast least) b'.le)] at bound
  rw [lt_div_iff₀ b']
  rcases le_max_iff.mp bound with wide | fine
  · calc gap ((a : ℚ) / b) / 2 * b
      _ ≤ (a : ℚ) / b / 2 ^ 52 / 2 * b := by gcongr
      _ = a / 2 ^ 53 := by
        field_simp
      _ < 1 := by
        rw [div_lt_one (by norm_num)]
        exact a'
  · calc gap ((a : ℚ) / b) / 2 * b
      _ ≤ 1 / 2 ^ 52 / 2 * b := by gcongr
      _ < 1 := by linarith

/-- The division of whole numbers, below and above. -/
theorem div_bounds (positive : 0 < b) : ((a / b : Int) : ℚ) ≤ a / b ∧ (a : ℚ) / b + 1 / b ≤ (a / b + 1 : Int) := by
  have b' : (0 : ℚ) < b := Int.cast_pos.mpr positive
  have low : a / b * b ≤ a := Int.ediv_mul_le a positive.ne'
  have high : a + 1 ≤ (a / b + 1) * b := Int.lt_ediv_add_one_mul_self a positive
  constructor
  · rw [le_div_iff₀ b']
    exact_mod_cast low
  · rw [← add_div, div_le_iff₀ b']
    exact_mod_cast high

theorem floor_round {k : Int} {value : ℚ} (small : k.natAbs < 2 ^ 53) (above : (k : ℚ) ≤ value) (under : rounded value < (k + 1 : Int)) :
    (round value).floor = whole k := by
  have reached := le_rounded small above
  have ends : (-2 ^ 53 : ℚ) < k ∧ ((k + 1 : Int) : ℚ) ≤ 2 ^ 53 := by
    constructor
    · exact_mod_cast (by omega : -2 ^ 53 < k)
    · exact_mod_cast (by omega : k + 1 ≤ 2 ^ 53)
  have finite : |rounded value| < 2 ^ 1024 := by
    have wide : (2 : ℚ) ^ 53 ≤ 2 ^ 1024 := pow_le_pow_right₀ (by norm_num) (by norm_num)
    generalize (2 : ℚ) ^ 1024 = top at wide ⊢
    rw [abs_lt]
    constructor <;> linarith
  have same : ⌊rounded value⌋ = k := Int.floor_eq_iff.mpr ⟨reached, by exact_mod_cast under⟩
  rw [round_of_small finite, floor, same]

theorem whole_div (a : Int) {q : ℚ} (divisor : q ≠ 0) : whole a / finite q = round (a / q) := if_neg divisor

theorem floor_div_whole (least : 0 ≤ a) (most : a < 2 ^ 53) (positive : 0 < b) (large : b < 2 ^ 53) :
    (whole a / whole b).floor = whole (a / b) := by
  have b' : (0 : ℚ) < b := Int.cast_pos.mpr positive
  have ⟨low, high⟩ := div_bounds (a := a) positive
  have quotient : a / b ≤ a := Int.ediv_le_self b least
  have natural : 0 ≤ a / b := Int.ediv_nonneg least positive.le
  have sign : (0 : ℚ) ≤ (a : ℚ) / b := div_nonneg (by exact_mod_cast least) b'.le
  have fits : |(a : ℚ) / b| < 2 ^ 53 := by
    rw [abs_of_nonneg sign, div_lt_iff₀ b']
    have one : (1 : ℚ) ≤ b := by exact_mod_cast positive
    have a' : (a : ℚ) < 2 ^ 53 := by exact_mod_cast most
    linarith
  have under : rounded ((a : ℚ) / b) < (a / b + 1 : Int) :=
    rounded_lt fits (by linarith [gap_div least most positive large])
  have divided : whole a / whole b = round (a / b) := whole_div a b'.ne'
  rw [divided]
  exact floor_round (by omega) low under

/-- A divisor that is twice as large goes into nothing. -/
theorem floor_div_large {q : ℚ} (least : 0 ≤ a) (large : 2 * (a : ℚ) < q) : (whole a / finite q).floor = whole 0 := by
  have a' : (0 : ℚ) ≤ a := by exact_mod_cast least
  have positive : 0 < q := by linarith
  have half : (a : ℚ) / q < 1 / 2 := by
    rw [div_lt_iff₀ positive]
    linarith
  have sign : (0 : ℚ) ≤ (a : ℚ) / q := div_nonneg a' positive.le
  have fits : |(a : ℚ) / q| < 2 ^ 53 := by
    rw [abs_of_nonneg sign]
    linarith
  have close : gap ((a : ℚ) / q) / 2 < 1 / 2 := by
    have bound := gap_le ((a : ℚ) / q)
    rw [abs_of_nonneg sign] at bound
    rcases le_max_iff.mp bound with wide | fine <;> linarith
  rw [whole_div a positive.ne']
  exact floor_round (by decide) (by exact_mod_cast sign) (rounded_lt fits (by push_cast; linarith))

/-! ### Both ways -/

/-- What is left is not added to, where nothing is negative. -/
theorem mul_not_below {p q : ℚ} (first : 0 ≤ p) (second : 0 ≤ q) : (finite p * finite q).below (whole 0) = false := by
  have sign : 0 ≤ p * q := mul_nonneg first second
  show (round (p * q)).below (whole 0) = false
  rcases round_cases (p * q) with far | near
  · simp [far, below, whole, sign]
  · have least : ((0 : Int) : ℚ) ≤ rounded (p * q) := le_rounded (by decide) (by exact_mod_cast sign)
    simpa [near, below, whole] using least

theorem fmod_of_nonneg {p q : ℚ} (first : 0 ≤ p) (second : 0 < q) : fmod (finite p) (finite q) = finite (p - ⌊p / q⌋ * q) := by
  have sign : 0 ≤ p / q := div_nonneg first second.le
  simp only [fmod, if_neg second.ne', if_pos sign]

theorem truncated_of_nonneg {p q : ℚ} (first : 0 ≤ p) (second : 0 < q) :
    Remainder.truncated.of (finite p) (finite q) = finite (p - ⌊p / q⌋ * q) := by
  have left : 0 ≤ p - ⌊p / q⌋ * q := by
    have := Int.floor_le (p / q)
    rw [le_div_iff₀ second] at this
    linarith
  simp only [Remainder.of, fmod_of_nonneg first second, mul_not_below left second.le]
  rfl

theorem remainder_whole (way : Remainder) (least : 0 ≤ a) (most : a < 2 ^ 53) (positive : 0 < b) (large : b < 2 ^ 53) :
    way.of (whole a) (whole b) = whole (a % b) := by
  have natural : 0 ≤ a / b := Int.ediv_nonneg least positive.le
  have low : a / b * b ≤ a := Int.ediv_mul_le a positive.ne'
  have product : 0 ≤ a / b * b := mul_nonneg natural positive.le
  cases way with
  | floored =>
    simp only [Remainder.of]
    rw [floor_div_whole least most positive large, whole_mul (by omega), whole_sub, round_intCast (by omega), Int.emod_def,
      mul_comm b]
  | truncated =>
    have b' : (0 : ℚ) < b := Int.cast_pos.mpr positive
    have ⟨above, under⟩ := div_bounds (a := a) positive
    have floor : ⌊(a : ℚ) / b⌋ = a / b := by
      have rest : 0 < 1 / (b : ℚ) := one_div_pos.mpr b'
      rw [Int.floor_eq_iff]
      exact ⟨above, by push_cast at under; linarith⟩
    rw [whole, whole, truncated_of_nonneg (by exact_mod_cast least) b', floor, Int.emod_def, mul_comm b]
    simp [whole]

/-- A number is left whole by a divisor that is twice as large. -/
theorem remainder_large (way : Remainder) {q : ℚ} (least : 0 ≤ a) (most : a < 2 ^ 53) (large : 2 * (a : ℚ) < q) :
    way.of (whole a) (finite q) = whole a := by
  have a' : (0 : ℚ) ≤ a := by exact_mod_cast least
  have positive : 0 < q := by linarith
  cases way with
  | floored =>
    have nothing : whole 0 * finite q = whole 0 := by
      show round (((0 : Int) : ℚ) * q) = whole 0
      rw [Int.cast_zero, zero_mul]
      exact_mod_cast round_intCast (n := 0) (by decide)
    simp only [Remainder.of]
    rw [floor_div_large least large, nothing, whole_sub, sub_zero, round_intCast (by omega)]
  | truncated =>
    have floor : ⌊(a : ℚ) / q⌋ = 0 := by
      rw [Int.floor_eq_zero_iff]
      exact ⟨div_nonneg a' positive.le, (div_lt_one positive).mpr (by linarith)⟩
    rw [whole, truncated_of_nonneg a' positive, floor, Int.cast_zero, zero_mul, sub_zero]

end Tinygame.Double
