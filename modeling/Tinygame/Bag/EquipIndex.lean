import Tinygame.Bag.Award

/-!
# The index of an equip

`createEquip` packs the time, a random number and the server's number into one double by decimal shifts. From 2015 on
the sum needs more than the 53 bits a double keeps.
-/

namespace Tinygame.Bag

/-- A call of `createEquip` from the first of January 2015 on, on a server whose number is below 100. -/
structure EquipCall where
  moment : Moment
  since : 1420070400000 ≤ moment.now
  drawn : 1 ≤ moment.random ∧ moment.random ≤ 100
  server : 0 ≤ moment.seq ∧ moment.seq < 100

namespace EquipCall

/-- The sum without any rounding. -/
def sum (call : EquipCall) : Int := call.moment.now * 10000 + call.moment.random * 100 + call.moment.seq

def index (call : EquipCall) : Int := equipIndex call.moment

/-- Two calls that differ in something get different indices, by arithmetic that stays exact. -/
structure Kept (first second : EquipCall) : Prop where
  different : first.moment ≠ second.moment → first.index ≠ second.index
  exact : (first.sum < 2 ^ 53 ∧ first.index = first.sum) ∧ second.sum < 2 ^ 53 ∧ second.index = second.sum

/-- Sums that have the double between them in common: a multiple of 4 and the numbers beside it. -/
def Beside (first second : EquipCall) : Prop :=
  first.sum % 4 ≠ 2 ∧ second.sum % 4 ≠ 2 ∧ (first.sum + 1) / 4 = (second.sum + 1) / 4

/-- The multiple of 100 after the clock and the draw leaves the servers apart. -/
theorem sum_inj {first second : EquipCall} (same : first.sum = second.sum) : first.moment = second.moment := by
  obtain ⟨⟨now, random, seq⟩, since, drawn, server⟩ := first
  obtain ⟨⟨now', random', seq'⟩, since', drawn', server'⟩ := second
  simp only [sum] at same drawn server drawn' server'
  obtain rfl : seq = seq' := by omega
  obtain rfl : random = random' := by omega
  obtain rfl : now = now' := by omega
  rfl

theorem sum_large (call : EquipCall) : 2 ^ 53 ≤ call.sum := by
  have since := call.since
  have drawn := call.drawn
  have server := call.server
  unfold sum
  omega

/-- Below 2^54 only the last step is rounded: clock and draw make a multiple of 4. -/
theorem index_rounded (call : EquipCall) (high : call.sum < 2 ^ 54) : call.index = Double.ofInt call.sum := by
  have since := call.since
  have drawn := call.drawn
  have server := call.server
  unfold sum at high
  have clock : Double.ofInt (call.moment.now * 10000) = call.moment.now * 10000 :=
    Double.ofInt_even (by omega) (by omega) (by omega)
  have draw : Double.ofInt (call.moment.now * 10000 + call.moment.random * 100) =
      call.moment.now * 10000 + call.moment.random * 100 := Double.ofInt_even (by omega) (by omega) (by omega)
  rw [index, equipIndex, clock, draw, sum]

theorem index_even (call : EquipCall) (high : call.sum < 2 ^ 54) (even : call.sum % 2 = 0) : call.index = call.sum := by
  rw [index_rounded call high, Double.ofInt_even call.sum_large high even]

theorem index_odd (call : EquipCall) (high : call.sum < 2 ^ 54) (odd : call.sum % 2 = 1) : call.index = (call.sum + 1) / 4 * 4 := by
  rw [index_rounded call high, Double.ofInt_odd call.sum_large high odd]

theorem same_index_iff {first second : EquipCall} (high : first.sum < 2 ^ 54) (high' : second.sum < 2 ^ 54) :
    first.index = second.index ↔ first.sum = second.sum ∨ Beside first second := by
  unfold Beside
  rcases Int.emod_two_eq first.sum with even | odd <;> rcases Int.emod_two_eq second.sum with even' | odd'
  · rw [index_even first high even, index_even second high' even']
    omega
  · rw [index_even first high even, index_odd second high' odd']
    omega
  · rw [index_odd first high odd, index_even second high' even']
    omega
  · rw [index_odd first high odd, index_odd second high' odd']
    omega

end EquipCall

/-- The sums never stay exact; and while they are below 2^54 two calls that differ get one index exactly when their sums
round to one multiple of 4, which two calls on one server never do. -/
theorem equip_index_kept (first second : EquipCall) :
    ¬ EquipCall.Kept first second ∧
      (first.sum < 2 ^ 54 → second.sum < 2 ^ 54 → first.moment ≠ second.moment →
        (first.index = second.index ↔ EquipCall.Beside first second) ∧
          (first.moment.seq = second.moment.seq → first.index ≠ second.index)) := by
  refine ⟨fun kept => absurd first.sum_large (Int.not_le.mpr kept.exact.1.1), fun high high' differ => ?_⟩
  have apart : first.sum ≠ second.sum := fun same => differ (EquipCall.sum_inj same)
  have beside : first.index = second.index ↔ EquipCall.Beside first second :=
    (EquipCall.same_index_iff high high').trans (or_iff_right apart)
  refine ⟨beside, fun server same => ?_⟩
  obtain ⟨-, -, close⟩ := beside.mp same
  unfold EquipCall.sum at close apart
  omega

/-- Two servers at one moment of July 2015 with one draw. -/
def serverCall (seq : Fin 100) : EquipCall where
  moment := ⟨1436339037041, 7, seq.val⟩
  since := (by decide : (1420070400000 : Int) ≤ 1436339037041)
  drawn := (by decide : (1 : Int) ≤ 7 ∧ (7 : Int) ≤ 100)
  server := ⟨Int.natCast_nonneg _, Int.ofNat_lt.mpr seq.isLt⟩

theorem equip_index_kept_july :
    ¬ EquipCall.Kept (serverCall 0) (serverCall 2) ∧ (serverCall 0).index ≠ (serverCall 2).index := by
  have kept := equip_index_kept (serverCall 0) (serverCall 2)
  have differ : (serverCall 0).moment ≠ (serverCall 2).moment := fun same => absurd (congrArg Moment.seq same) (by decide)
  exact ⟨kept.1, fun same => ((kept.2 (by decide) (by decide) differ).1.mp same).2.1 (by decide)⟩

theorem equip_index_shared :
    ¬ EquipCall.Kept (serverCall 0) (serverCall 1) ∧ (serverCall 0).moment ≠ (serverCall 1).moment ∧
      (serverCall 0).index = (serverCall 1).index ∧ (serverCall 0).index = 14363390370410700 := by
  have differ : (serverCall 0).moment ≠ (serverCall 1).moment := fun same => absurd (congrArg Moment.seq same) (by decide)
  have same : (serverCall 0).index = (serverCall 1).index := by decide
  exact ⟨fun kept => kept.different differ same, differ, same, by decide⟩

end Tinygame.Bag
