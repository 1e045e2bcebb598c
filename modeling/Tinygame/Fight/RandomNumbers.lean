import Tinygame.Base.Remainder
import Tinygame.Fight.MiniFunc

/-!
# Random numbers in doubles

`minifunc.lua` as a build of Lua runs it, all of whose numbers are doubles. The seed stays a whole number that has its own
double, so that every build draws what `MiniFunc` draws over the integers.
-/

namespace Tinygame.Fight
open Double (whole)

/-- `fixed` prints a number with one digit after the point and reads it again. -/
instance : Number Double where
  add := Double.add
  sub a b := a - b
  mul := Double.mul
  div := Double.div
  lt a b := a.below b = true
  le a b := a.upTo b = true
  num := Double.round
  floor := Double.floor
  fixed
    | .finite value => .round (Exact.tenths value)
    | other => other
  decLt _ _ := inferInstanceAs (Decidable (_ = true))
  decLe _ _ := inferInstanceAs (Decidable (_ = true))

/-! ### The calls -/

namespace Doubles

/-- The number drawn and the next seed. What is missing has a default. -/
def random (way : Double.Remainder) (seed nBegin nEnd : Option Double) : Double × Double :=
  let nEnd := nEnd.getD (whole 1)
  let nBegin := nBegin.getD nEnd
  let seed := way.of (seed.getD (whole 1) * whole 3877 + whole 29573) (whole 0xffffffff)
  let low := if nEnd.below nBegin then nEnd else nBegin
  let high := if nEnd.below nBegin then nBegin else nEnd
  (low + way.of seed (high - low + whole 1), seed)

def getRandomIndex (way : Double.Remainder) (seed : Option Double) (tbPro : List Double) (nMaxNum : Option Double) : Nat × Double :=
  let drawn := random way seed (some (whole 1)) (some (nMaxNum.getD (whole 100)))
  (reach drawn.1 1 (whole 0) tbPro, drawn.2)

/-- What a run of calls draws, each number with the seed it leaves. -/
def draws (way : Double.Remainder) : Double → List (Double × Double) → List (Double × Double)
  | _, [] => []
  | seed, (nBegin, nEnd) :: calls =>
    let drawn := random way (some seed) (some nBegin) (some nEnd)
    drawn :: draws way drawn.2 calls

end Doubles

def draws : Int → List (Int × Int) → List (Int × Int)
  | _, [] => []
  | seed, (nBegin, nEnd) :: calls =>
    let drawn := random seed nBegin nEnd
    drawn :: draws drawn.2 calls

/-! ### Over the integers -/

theorem nextSeed_bounds (seed : Int) : 0 ≤ nextSeed seed ∧ nextSeed seed < 2 ^ 32 - 1 := by
  unfold nextSeed
  omega

theorem random_between (seed nBegin nEnd : Int) :
    min nBegin nEnd ≤ (random seed nBegin nEnd).1 ∧ (random seed nBegin nEnd).1 ≤ max nBegin nEnd := by
  have between {low high : Int} (order : low ≤ high) :
      low ≤ low + nextSeed seed % (high - low + 1) ∧ low + nextSeed seed % (high - low + 1) ≤ high := by
    have least := Int.emod_nonneg (nextSeed seed) (by omega : high - low + 1 ≠ 0)
    have most := Int.emod_lt_of_pos (nextSeed seed) (by omega : 0 < high - low + 1)
    omega
  unfold random
  by_cases swapped : nEnd < nBegin
  · have := between swapped.le
    simp only [if_pos swapped]
    omega
  · have := between (not_lt.mp swapped)
    simp only [if_neg swapped]
    omega

/-! ### In doubles -/

variable {seed : Int} (way : Double.Remainder)

/-- The product stays far below `2^53`. -/
theorem product_small (least : 0 ≤ seed) (most : seed < 2 ^ 32) : 0 ≤ seed * 3877 ∧ seed * 3877 + 29573 < 2 ^ 53 := by
  omega

theorem nextSeed_whole (least : 0 ≤ seed) (most : seed < 2 ^ 32) :
    way.of (whole seed * whole 3877 + whole 29573) (whole 0xffffffff) = whole (nextSeed seed) := by
  have small := product_small least most
  rw [Double.whole_mul (by omega), Double.whole_add (by omega)]
  exact Double.remainder_whole way (by omega) small.2 (by decide) (by decide)

theorem width_whole {low high : Int} (least : 0 ≤ seed) (most : seed < 2 ^ 32) (order : low ≤ high)
    (small : low.natAbs < 2 ^ 53) (small' : high.natAbs < 2 ^ 53) :
    way.of (whole seed) (whole high - whole low + whole 1) = whole (seed % (high - low + 1)) := by
  rw [Double.whole_sub]
  by_cases narrow : high - low + 1 < 2 ^ 53
  · rw [Double.round_intCast (by omega), Double.whole_add (by omega)]
    exact Double.remainder_whole way least (by omega) (by omega) narrow
  · -- the width itself may be rounded, but it is much larger than any seed
    have large : ((2 ^ 52 : Int) : ℚ) ≤ (high - low : Int) := Int.cast_le.mpr (by omega)
    have fits : ((high - low : Int) : ℚ) ≤ (2 ^ 54 : Int) := Int.cast_le.mpr (by omega)
    have seeds : (seed : ℚ) ≤ (2 ^ 32 : Int) := Int.cast_le.mpr most.le
    push_cast at large fits seeds
    obtain ⟨q, difference, large, fits'⟩ := @Double.round_large (high - low : Int) (by push_cast; exact large)
      (by push_cast; linarith)
    push_cast at fits'
    obtain ⟨q', width, large', -⟩ := @Double.round_large (q + 1) (by linarith) (by linarith)
    have sum : Double.finite q + whole 1 = .finite q' := by
      show Double.round (q + (1 : Int)) = _
      rw [Int.cast_one]
      exact width
    rw [difference, sum, Double.remainder_large way least (by omega) (by linarith), Int.emod_eq_of_lt least (by omega)]

theorem random_whole (least : 0 ≤ seed) (most : seed < 2 ^ 32) {nBegin nEnd : Int} (small : nBegin.natAbs < 2 ^ 53)
    (small' : nEnd.natAbs < 2 ^ 53) : Doubles.random way (some (whole seed)) (some (whole nBegin)) (some (whole nEnd)) =
      (whole (random seed nBegin nEnd).1, whole (random seed nBegin nEnd).2) := by
  have ⟨natural, short⟩ := nextSeed_bounds seed
  have between := random_between seed nBegin nEnd
  have next := nextSeed_whole way least most
  have draw {low high : Int} (order : low ≤ high) (small : low.natAbs < 2 ^ 53) (small' : high.natAbs < 2 ^ 53)
      (fits : (low + nextSeed seed % (high - low + 1)).natAbs < 2 ^ 53) :
      whole low + way.of (whole (nextSeed seed)) (whole high - whole low + whole 1) =
        whole (low + nextSeed seed % (high - low + 1)) := by
    rw [width_whole way natural (by omega) order small small', Double.whole_add fits]
  unfold random at between ⊢
  unfold Doubles.random
  simp only [Option.getD_some, next, Double.below_whole, decide_eq_true_eq]
  by_cases swapped : nEnd < nBegin
  · simp only [if_pos swapped] at between ⊢
    rw [draw swapped.le small' small (by omega)]
  · simp only [if_neg swapped] at between ⊢
    rw [draw (not_lt.mp swapped) small small' (by omega)]

/-! ### Runs -/

/-- The seeds that a number of calls leave. -/
def seeds : Int → Nat → List Int
  | _, 0 => []
  | seed, n + 1 => nextSeed seed :: seeds (nextSeed seed) n

theorem seeds_bounds (seed : Int) (n : Nat) : ∀ state ∈ seeds seed n, 0 ≤ state ∧ state < 2 ^ 32 - 1 := by
  induction n generalizing seed with
  | zero => nofun
  | succ n ih => exact List.forall_mem_cons.mpr ⟨nextSeed_bounds seed, ih (nextSeed seed)⟩

theorem draws_seeds (seed : Int) (calls : List (Int × Int)) : (draws seed calls).map Prod.snd = seeds seed calls.length := by
  induction calls generalizing seed with
  | nil => rfl
  | cons call calls ih => exact congrArg (nextSeed seed :: ·) (ih (nextSeed seed))

/-- Whatever the bounds are. -/
theorem draws_seeds_whole (least : 0 ≤ seed) (most : seed < 2 ^ 32) (bounds : List (Double × Double)) :
    (Doubles.draws way (whole seed) bounds).map Prod.snd = (seeds seed bounds.length).map whole := by
  induction bounds generalizing seed with
  | nil => rfl
  | cons bound bounds ih =>
    have ⟨natural, short⟩ := nextSeed_bounds seed
    have next : (Doubles.random way (some (whole seed)) (some bound.1) (some bound.2)).2 = whole (nextSeed seed) :=
      nextSeed_whole way least most
    simp only [Doubles.draws, List.map_cons, List.length_cons, seeds, next]
    rw [ih natural (by omega)]

theorem draws_between (seed : Int) (calls : List (Int × Int)) :
    List.Forall₂ (fun call drawn => min call.1 call.2 ≤ drawn.1 ∧ drawn.1 ≤ max call.1 call.2) calls (draws seed calls) := by
  induction calls generalizing seed with
  | nil => exact .nil
  | cons call calls ih => exact .cons (random_between seed call.1 call.2) (ih _)

def wholes (pair : Int × Int) : Double × Double := (whole pair.1, whole pair.2)

theorem draws_whole (least : 0 ≤ seed) (most : seed < 2 ^ 32) {calls : List (Int × Int)}
    (small : ∀ call ∈ calls, call.1.natAbs < 2 ^ 53 ∧ call.2.natAbs < 2 ^ 53) :
    Doubles.draws way (whole seed) (calls.map wholes) = (draws seed calls).map wholes := by
  induction calls generalizing seed with
  | nil => rfl
  | cons call calls ih =>
    obtain ⟨here, later⟩ := List.forall_mem_cons.mp small
    have ⟨natural, short⟩ := nextSeed_bounds seed
    have first := random_whole way least most here.1 here.2
    have rest : Doubles.draws way (whole (nextSeed seed)) (calls.map wholes) = (draws (nextSeed seed) calls).map wholes :=
      ih natural (by omega) later
    simp only [List.map_cons, Doubles.draws, draws, wholes, first]
    exact congrArg _ rest

/-! ### Tables -/

section
variable {N : Type} [Number N] {nRand nSum : N} {tbPro : List N}

/-- The sums that `getRandomIndex` compares. -/
def prefixSums : N → List N → List N
  | _, [] => []
  | nSum, pro :: rest => (nSum + pro) :: prefixSums (nSum + pro) rest

theorem reach_bounds (i : Nat) :
    reach nRand i nSum tbPro = 0 ∨ i ≤ reach nRand i nSum tbPro ∧ reach nRand i nSum tbPro < i + tbPro.length := by
  induction tbPro generalizing i nSum with
  | nil => exact .inl rfl
  | cons pro rest ih =>
    unfold reach
    simp only [List.length_cons]
    split
    · omega
    · have := @ih (nSum + pro) (i + 1)
      omega

theorem reach_ne_zero {i : Nat} (positive : 0 < i) (reached : ∃ total ∈ prefixSums nSum tbPro, nRand ≤ total) :
    reach nRand i nSum tbPro ≠ 0 := by
  induction tbPro generalizing i nSum with
  | nil =>
    obtain ⟨total, member, -⟩ := reached
    nomatch member
  | cons pro rest ih =>
    unfold reach
    dsimp only
    split
    · omega
    · rename_i short
      obtain ⟨total, member, most⟩ := reached
      rcases List.mem_cons.mp member with rfl | later
      · exact absurd most short
      · exact ih (Nat.succ_pos i) ⟨total, later, most⟩

end

/-- The largest number that `getRandomIndex` can draw. -/
def maximumDraw (nMaxNum : Option Int) : Int := max 1 (nMaxNum.getD 100)

theorem upTo_trans {a b : Int} (order : a ≤ b) {total : Double} (under : (whole b).upTo total = true) : (whole a).upTo total = true := by
  have order' : (a : ℚ) ≤ b := Int.cast_le.mpr order
  cases total with
  | nan => simp [whole, Double.upTo, Double.below] at under
  | infinite negative => simpa [whole, Double.upTo, Double.below] using under
  | finite value =>
    simp only [whole, Double.upTo, Double.below, Bool.or_eq_true, decide_eq_true_eq, Bool.and_eq_true, beq_iff_eq,
      Double.finite.injEq] at under ⊢
    rcases under with less | ⟨-, same⟩
    · exact .inl (order'.trans_lt less)
    · rw [← same]
      rcases order'.lt_or_eq with less | same
      · exact .inl less
      · exact .inr ⟨by simp, same⟩

/-- Sums of small whole numbers are not rounded. -/
theorem total_reached {pros : List Nat} {start bound : Int} (natural : 0 ≤ start) (small : start + pros.sum < 2 ^ 53)
    (reached : bound ≤ start + pros.sum) (under : start < bound) :
    ∃ total ∈ prefixSums (whole start) (pros.map fun pro => whole pro), (whole bound).upTo total = true := by
  induction pros generalizing start with
  | nil => simp at reached; omega
  | cons pro rest ih =>
    simp only [List.sum_cons, Nat.cast_add] at small reached
    have sum : whole start + whole pro = whole (start + pro) := Double.whole_add (by omega)
    by_cases here : bound ≤ start + pro
    · exact ⟨whole start + whole pro, List.mem_cons_self .., by rw [sum, Double.upTo_whole]; exact decide_eq_true here⟩
    · obtain ⟨total, member, met⟩ := @ih (start + pro) (by omega) (by omega) (by omega) (by omega)
      refine ⟨total, List.mem_cons_of_mem _ ?_, met⟩
      show total ∈ prefixSums (whole start + whole pro) _
      rwa [sum]

theorem getRandomIndex_eq (least : 0 ≤ seed) (most : seed < 2 ^ 32) (tbPro : List Double) {nMaxNum : Option Int}
    (small : (nMaxNum.getD 100).natAbs < 2 ^ 53) :
    Doubles.getRandomIndex way (some (whole seed)) tbPro (nMaxNum.map whole) =
      (reach (whole (random seed 1 (nMaxNum.getD 100)).1) 1 (whole 0) tbPro, whole (nextSeed seed)) := by
  have bound : (nMaxNum.map whole).getD (whole 100) = whole (nMaxNum.getD 100) := by cases nMaxNum <;> rfl
  have drawn : Doubles.random way (some (whole seed)) (some (whole 1)) (some (whole (nMaxNum.getD 100))) =
      (whole (random seed 1 (nMaxNum.getD 100)).1, whole (random seed 1 (nMaxNum.getD 100)).2) :=
    random_whole way least most (by decide) small
  unfold Doubles.getRandomIndex
  rw [bound, drawn]
  rfl

/-- The fight's own tables are drawn from as `MiniFunc` has it. -/
theorem getRandomIndex_whole (least : 0 ≤ seed) (most : seed < 2 ^ 32) (tbPro : List Double) :
    Doubles.getRandomIndex way (some (whole seed)) tbPro none =
      ((getRandomIndex seed tbPro).1, whole (getRandomIndex seed tbPro).2) := by
  have drawn := random_between seed 1 100
  have number (n : Int) (small : n.natAbs < 2 ^ 53) : (num (n : ℚ) : Double) = whole n := Double.round_intCast small
  have first := number (random seed 1 100).1 (by omega)
  have zero : (num 0 : Double) = whole 0 := by exact_mod_cast number 0 (by decide)
  unfold getRandomIndex
  simp only [first, zero]
  exact @getRandomIndex_eq seed way least most tbPro none (by decide)

/-- In a run from any seed the states stay in their range, every build computes them without rounding, and every number
drawn lies between its bounds. An index is drawn from a table whenever its sums go far enough. -/
theorem random_numbers (least : 0 ≤ seed) (most : seed < 2 ^ 32) (calls : List (Int × Int)) :
    (∀ state ∈ (draws seed calls).map Prod.snd, 0 ≤ state ∧ state < 2 ^ 32 - 1) ∧
    (∀ state ∈ seed :: (draws seed calls).map Prod.snd, 0 ≤ state * 3877 ∧ state * 3877 + 29573 < 2 ^ 53) ∧
    (∀ way, ∀ bounds : List (Double × Double), bounds.length = calls.length →
      (Doubles.draws way (whole seed) bounds).map Prod.snd = (draws seed calls).map (whole ∘ Prod.snd)) ∧
    List.Forall₂ (fun call drawn => min call.1 call.2 ≤ drawn.1 ∧ drawn.1 ≤ max call.1 call.2) calls (draws seed calls) ∧
    ((∀ call ∈ calls, call.1.natAbs < 2 ^ 53 ∧ call.2.natAbs < 2 ^ 53) →
      ∀ way, Doubles.draws way (whole seed) (calls.map wholes) = (draws seed calls).map wholes) ∧
    ∀ way, ∀ state ∈ seed :: (draws seed calls).map Prod.snd, ∀ nMaxNum : Option Int, (nMaxNum.getD 100).natAbs < 2 ^ 53 →
      (∀ tbPro : List Double,
        (Doubles.getRandomIndex way (some (whole state)) tbPro (nMaxNum.map whole)).1 ≤ tbPro.length ∧
        ((∃ total ∈ prefixSums (whole 0) tbPro, (whole (maximumDraw nMaxNum)).upTo total = true) →
          (Doubles.getRandomIndex way (some (whole state)) tbPro (nMaxNum.map whole)).1 ≠ 0)) ∧
      ∀ pros : List Nat, pros.sum < 2 ^ 53 → maximumDraw nMaxNum ≤ pros.sum →
        (Doubles.getRandomIndex way (some (whole state)) (pros.map fun pro => whole pro) (nMaxNum.map whole)).1 ≠ 0 := by
  rw [draws_seeds]
  have states : ∀ state ∈ seed :: seeds seed calls.length, 0 ≤ state ∧ state < 2 ^ 32 := by
    refine List.forall_mem_cons.mpr ⟨⟨least, most⟩, fun state member => ?_⟩
    have := seeds_bounds seed calls.length state member
    omega
  refine ⟨seeds_bounds seed calls.length, fun state member => ?_, fun way bounds same => ?_, draws_between seed calls,
    fun small way => draws_whole way least most small, fun way state member nMaxNum small => ?_⟩
  · exact product_small (states state member).1 (states state member).2
  · rw [draws_seeds_whole way least most, same, ← draws_seeds, List.map_map]
  · obtain ⟨natural, short⟩ := states state member
    have between := random_between state 1 (nMaxNum.getD 100)
    have top : (random state 1 (nMaxNum.getD 100)).1 ≤ maximumDraw nMaxNum := by
      unfold maximumDraw
      omega
    have found {tbPro : List Double}
        (reached : ∃ total ∈ prefixSums (whole 0) tbPro, (whole (maximumDraw nMaxNum)).upTo total = true) :
        (Doubles.getRandomIndex way (some (whole state)) tbPro (nMaxNum.map whole)).1 ≠ 0 := by
      rw [getRandomIndex_eq way natural short tbPro small]
      obtain ⟨total, listed, met⟩ := reached
      exact reach_ne_zero Nat.one_pos ⟨total, listed, upTo_trans top met⟩
    constructor
    · intro tbPro
      refine ⟨?_, found⟩
      rw [getRandomIndex_eq way natural short tbPro small]
      have := @reach_bounds Double _ (whole (random state 1 (nMaxNum.getD 100)).1) (whole 0) tbPro 1
      dsimp only
      omega
    · intro pros fits reached
      have positive : 0 < maximumDraw nMaxNum := by
        unfold maximumDraw
        omega
      exact found (total_reached le_rfl (by omega) (by omega) positive)

/-- The first seed of the scripts, and bounds that are swapped and that are equal. -/
theorem random_numbers_first :
    (∀ state ∈ (draws 31415926 [(1, 2), (100, 1), (7, 7)]).map Prod.snd, 0 ≤ state ∧ state < 2 ^ 32 - 1) ∧
      ∀ way, Doubles.draws way (whole 31415926) [(whole 1, whole 2), (whole 100, whole 1), (whole 7, whole 7)] =
        (draws 31415926 [(1, 2), (100, 1), (7, 7)]).map wholes :=
  have run := @random_numbers 31415926 (by decide) (by decide) [(1, 2), (100, 1), (7, 7)]
  ⟨run.1, run.2.2.2.2.1 (by decide)⟩

end Tinygame.Fight
