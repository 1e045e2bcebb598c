import Mathlib.Tactic.NormNum
import Mathlib.Data.Nat.Log

/-!
# Whole numbers as doubles

A double keeps 53 bits. A whole number that needs more becomes the nearest one that does not, and of two nearest
the one with the even last bit.
-/

namespace Tinygame.Double

/-- The distance between the doubles about a number. -/
def unit (n : Nat) : Nat := 2 ^ (n.log2 - 52)

def ofNat (n : Nat) : Nat :=
  let kept := n / unit n
  let rest := n % unit n
  if 2 * rest < unit n ∨ (2 * rest = unit n ∧ kept % 2 = 0) then kept * unit n else (kept + 1) * unit n

def ofInt : Int → Int
  | .ofNat n => ofNat n
  | .negSucc n => -ofNat (n + 1)

variable {n : Nat}

theorem unit_pos (n : Nat) : 0 < unit n := Nat.two_pow_pos _

/-- What lies on the grid stays. -/
theorem ofNat_of_dvd (grid : unit n ∣ n) : ofNat n = n := by
  have rest : n % unit n = 0 := Nat.mod_eq_zero_of_dvd grid
  have below : 2 * (n % unit n) < unit n := by rw [rest]; exact unit_pos n
  rw [ofNat, if_pos (.inl below), Nat.div_mul_cancel grid]

/-- Between 2^53 and 2^54 every other number is a double. -/
theorem unit_two (low : 2 ^ 53 ≤ n) (high : n < 2 ^ 54) : unit n = 2 := by
  have log : n.log2 = 53 := (Nat.log2_eq_iff (by omega)).mpr ⟨low, high⟩
  norm_num [unit, log]

/-- An odd number there goes to the neighbour that 4 divides. -/
theorem ofNat_odd (low : 2 ^ 53 ≤ n) (high : n < 2 ^ 54) (odd : n % 2 = 1) : ofNat n = (n + 1) / 4 * 4 := by
  rw [ofNat, unit_two low high, odd]
  split <;> omega

variable {value : Int}

theorem ofInt_even (low : 2 ^ 53 ≤ value) (high : value < 2 ^ 54) (even : value % 2 = 0) : ofInt value = value := by
  obtain ⟨n, rfl⟩ := Int.eq_ofNat_of_zero_le (by omega : 0 ≤ value)
  have grid : unit n ∣ n := by
    rw [unit_two (by omega) (by omega)]
    omega
  exact congrArg Int.ofNat (ofNat_of_dvd grid)

theorem ofInt_odd (low : 2 ^ 53 ≤ value) (high : value < 2 ^ 54) (odd : value % 2 = 1) : ofInt value = (value + 1) / 4 * 4 := by
  obtain ⟨n, rfl⟩ := Int.eq_ofNat_of_zero_le (by omega : 0 ≤ value)
  have rounded : ofNat n = (n + 1) / 4 * 4 := ofNat_odd (by omega) (by omega) (by omega)
  exact congrArg Int.ofNat rounded

end Tinygame.Double
