import Tinygame.Base.Double
import Mathlib.Algebra.Order.Floor.Ring
import Mathlib.Data.Int.Log
import Mathlib.Data.Rat.Floor
import Mathlib.Tactic.Positivity

/-!
# Numbers of a script

A number of a script is a double. Sums and products are those of the rational numbers, rounded to the nearest double.
-/

namespace Tinygame

/-- The sign of a zero is left out. -/
inductive Double where
  | nan
  | infinite (negative : Bool)
  | finite (value : ℚ)
  deriving DecidableEq

namespace Double

/-- The nearest whole number; of two, the even one. -/
def nearest (value : ℚ) : Int :=
  let rest := value - ⌊value⌋
  if rest < 1 / 2 ∨ (rest = 1 / 2 ∧ ⌊value⌋ % 2 = 0) then ⌊value⌋ else ⌊value⌋ + 1

/-- The place of the last bit that is kept. -/
def lastPlace (value : ℚ) : Int := max (Int.log 2 |value| - 52) (-1074)

def round (value : ℚ) : Double :=
  let unit : ℚ := 2 ^ lastPlace value
  let rounded : ℚ := nearest (value / unit) * unit
  if 2 ^ 1024 ≤ |rounded| then .infinite (decide (value < 0)) else .finite rounded

def whole (n : Int) : Double := .finite n

def add : Double → Double → Double
  | .nan, _ | _, .nan => .nan
  | .infinite a, .infinite b => if a = b then .infinite a else .nan
  | .infinite a, .finite _ | .finite _, .infinite a => .infinite a
  | .finite p, .finite q => round (p + q)

def neg : Double → Double
  | .nan => .nan
  | .infinite a => .infinite !a
  | .finite p => .finite (-p)

def mul : Double → Double → Double
  | .nan, _ | _, .nan => .nan
  | .infinite a, .infinite b => .infinite (a != b)
  | .infinite a, .finite p | .finite p, .infinite a => if p = 0 then .nan else .infinite (a != decide (p < 0))
  | .finite p, .finite q => round (p * q)

instance : Add Double := ⟨add⟩
instance : Sub Double := ⟨fun a b => add a (neg b)⟩
instance : Mul Double := ⟨mul⟩

/-- `a < b`. -/
def below : Double → Double → Bool
  | .nan, _ | _, .nan => false
  | .infinite a, .infinite b => a && !b
  | .infinite a, .finite _ => a
  | .finite _, .infinite b => !b
  | .finite p, .finite q => decide (p < q)

/-- `a <= b`. -/
def upTo (a b : Double) : Bool := a.below b || (a != .nan && a == b)

/-- The text of a whole number that has its own double. The text of another number has a point, an exponent or a name
in it, or more digits than a place in an array. -/
def digits? : Double → Option String
  | .finite value => if value.den = 1 ∧ value.num.natAbs < 2 ^ 53 then some (toString value.num) else none
  | .nan | .infinite _ => none

/-! ### Small whole numbers -/

theorem nearest_intCast (n : Int) : nearest n = n := by
  unfold nearest
  rw [Int.floor_intCast, sub_self]
  exact if_pos (.inl (by norm_num))

variable {n m : Int}

theorem whole_inj (same : whole n = whole m) : n = m := Int.cast_injective (finite.inj same)

theorem log_intCast (small : n.natAbs < 2 ^ 53) : Int.log 2 |(n : ℚ)| ≤ 52 := by
  rw [← Int.cast_abs, Int.abs_eq_natAbs, Int.cast_natCast, Int.log_natCast]
  have bound : Nat.log 2 n.natAbs < 53 := Nat.log_lt_of_lt_pow' (by norm_num) small
  omega

/-- They are doubles themselves. -/
theorem round_intCast (small : n.natAbs < 2 ^ 53) : round n = whole n := by
  have low : lastPlace n ≤ 0 := by
    have log := log_intCast small
    unfold lastPlace
    omega
  obtain ⟨k, place⟩ : ∃ k : ℕ, lastPlace n = -k := ⟨(lastPlace n).natAbs, by omega⟩
  have unit : (2 : ℚ) ^ (k : ℕ) ≠ 0 := by positivity
  have shifted : (n : ℚ) / 2 ^ lastPlace n = ((n * 2 ^ k : Int) : ℚ) := by
    rw [place, zpow_neg, zpow_natCast, div_inv_eq_mul]
    push_cast
    rfl
  have back : ((n * 2 ^ k : Int) : ℚ) * 2 ^ lastPlace n = n := by
    rw [place, zpow_neg, zpow_natCast]
    push_cast
    rw [mul_assoc, mul_inv_cancel₀ unit, mul_one]
  have bound : ¬ (2 : ℚ) ^ 1024 ≤ |(n : ℚ)| := by
    rw [← Int.cast_abs, Int.abs_eq_natAbs, Int.cast_natCast, not_le]
    calc (n.natAbs : ℚ)
      _ < 2 ^ 53 := by exact_mod_cast small
      _ ≤ 2 ^ 1024 := pow_le_pow_right₀ (by norm_num) (by norm_num)
  unfold round
  simp only [shifted, nearest_intCast, back]
  rw [if_neg bound]
  rfl

theorem whole_add (small : (n + m).natAbs < 2 ^ 53) : whole n + whole m = whole (n + m) := by
  show round (n + m) = _
  rw [← Int.cast_add, round_intCast small]

theorem whole_mul (small : (n * m).natAbs < 2 ^ 53) : whole n * whole m = whole (n * m) := by
  show round (n * m) = _
  rw [← Int.cast_mul, round_intCast small]

theorem digits_whole (small : n.natAbs < 2 ^ 53) : (whole n).digits? = some (toString n) :=
  if_pos ⟨Rat.den_intCast n, small⟩

end Double

end Tinygame
