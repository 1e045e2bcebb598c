import Tinygame.Base.Loop
import Mathlib.Algebra.Order.BigOperators.Group.Finset

/-!
# Experience and levels

`calExpAndLevel`, `calHeroExpAndLevel`, `limitLevel` and `addHeroExp` of `hero_handle.js`, and `addPlayerExp` of
`player_handle.js`. The table of costs is a parameter. A player's loop asks the store for the book of summons on
its way; the levels at which it does are part of what it leaves.
-/

namespace Tinygame.Hero

def expLevelLimit : Int := 10000000
def playerLevelLimit : Int := 100

/-- `config/player/experience`. -/
structure Exprience where
  rows : Int → Option Int
  positive : ∀ level experience, rows level = some experience → 0 < experience

/-- The fields of a hero or a player that a level comes from. -/
structure Grown where
  level : Int
  curExp : Int
  deriving DecidableEq

section
variable (table : Exprience)

def getExpForUpgradeLevel (curLevel : Int) : Int :=
  match table.rows curLevel with
  | some experience => if experience ≠ 0 then experience else expLevelLimit
  | none => expLevelLimit

/-! ### The loops -/

def canUpgrade (object : Grown) : Bool := getExpForUpgradeLevel table object.level ≤ object.curExp

def upgrade (object : Grown) : Grown :=
  ⟨object.level + 1, object.curExp - getExpForUpgradeLevel table object.level⟩

/-- The loop of `calHeroExpAndLevel`. -/
def climb (object : Grown) : Grown := whileDo (fun object => object.curExp.toNat) (canUpgrade table) (upgrade table) object

/-- The hero and the number returned. -/
def calHeroExpAndLevel (heroInfo : Grown) : Grown × Int :=
  if heroInfo.level ≠ 0 then (climb table heroInfo, (climb table heroInfo).level) else (heroInfo, -1)

/-- A round of the loop of `calExpAndLevel`, with the levels at which the book was asked for. -/
def upgradeAsking (state : Grown × List Int) : Grown × List Int :=
  let object := upgrade table state.1
  (object, if object.level ≠ 0 ∧ object.level % 5 = 0 then state.2 ++ [object.level] else state.2)

/-- The loop of `calExpAndLevel`. -/
def climbAsking (object : Grown) : Grown × List Int :=
  whileDo (fun state => state.1.curExp.toNat) (fun state => canUpgrade table state.1) (upgradeAsking table) (object, [])

/-- The player, the levels at which the book was asked for, and the number returned. -/
def calExpAndLevel (object : Grown) : Grown × List Int × Int :=
  if object.level ≠ 0 then
    let climbed := climbAsking table object
    (climbed.1, climbed.2, climbed.1.level)
  else (object, [], -1)

def limitLevel (level : Int) : Int := if level > playerLevelLimit then playerLevelLimit else level

def addHeroExp (exp : Int) (heroInfo : Grown) : Grown :=
  let exp := if exp > expLevelLimit then expLevelLimit else exp
  let upgraded := calHeroExpAndLevel table { heroInfo with curExp := heroInfo.curExp + exp }
  { upgraded.1 with level := limitLevel upgraded.2 }

/-- The player, and the levels at which the book was asked for. -/
def addPlayerExp (exp : Int) (playerInfo : Grown) : Grown × List Int :=
  let upgraded := calExpAndLevel table { playerInfo with curExp := playerInfo.curExp + exp }
  ({ upgraded.1 with level := limitLevel upgraded.2.2 }, upgraded.2.1)

end

/-! ### One round -/

section
variable {table : Exprience} {object : Grown}

theorem cost_pos (table : Exprience) (level : Int) : 0 < getExpForUpgradeLevel table level := by
  unfold getExpForUpgradeLevel
  split
  · rename_i experience found
    have positive := table.positive level experience found
    rw [if_pos (by omega)]
    exact positive
  · decide

theorem canUpgrade_iff : canUpgrade table object = true ↔ getExpForUpgradeLevel table object.level ≤ object.curExp := by
  simp [canUpgrade]

theorem canUpgrade_eq_false : canUpgrade table object = false ↔ object.curExp < getExpForUpgradeLevel table object.level := by
  simp [canUpgrade]

theorem upgrade_lowers : Lowers (fun object : Grown => object.curExp.toNat) (canUpgrade table) (upgrade table) := by
  intro object going
  have enough := canUpgrade_iff.mp going
  have cost := cost_pos table object.level
  simp only [upgrade]
  omega

theorem upgradeAsking_lowers : Lowers (fun state : Grown × List Int => state.1.curExp.toNat)
    (fun state => canUpgrade table state.1) (upgradeAsking table) :=
  fun state going => upgrade_lowers state.1 going

theorem climb_eq (table : Exprience) (object : Grown) :
    climb table object = if canUpgrade table object then climb table (upgrade table object) else object :=
  whileDo_eq upgrade_lowers object

/-- The loop ends where the experience is short of the next level. -/
theorem climb_low (table : Exprience) (object : Grown) :
    (climb table object).curExp < getExpForUpgradeLevel table (climb table object).level :=
  canUpgrade_eq_false.mp (whileDo_stopped upgrade_lowers object)

/-- Asking for the book changes nothing of the player. -/
theorem climbAsking_fst (table : Exprience) (object : Grown) : (climbAsking table object).1 = climb table object := by
  apply whileDo_view Prod.fst upgradeAsking_lowers upgrade_lowers
  · intro state
    rfl
  · intro state _
    rfl

theorem climb_level_le (table : Exprience) (object : Grown) : object.level ≤ (climb table object).level := by
  apply whileDo_related (R := fun s t => s.level ≤ t.level) upgrade_lowers
  · intro s _
    exact le_refl _
  · intro s t _ later
    simp only [upgrade] at later
    omega

theorem climb_curExp_nonneg (start : 0 ≤ object.curExp) : 0 ≤ (climb table object).curExp := by
  apply whileDo_keeps (P := fun object : Grown => 0 ≤ object.curExp) upgrade_lowers _ start
  intro object going _
  have enough := canUpgrade_iff.mp going
  simp only [upgrade]
  omega

/-- What is added later can be added at once. -/
theorem climb_add (table : Exprience) {more : Int} (nonneg : 0 ≤ more) (object : Grown) :
    climb table { climb table object with curExp := (climb table object).curExp + more } =
      climb table { object with curExp := object.curExp + more } := by
  apply whileDo_related (R := fun s t : Grown => climb table { t with curExp := t.curExp + more } =
    climb table { s with curExp := s.curExp + more }) upgrade_lowers
  · intro s _
    rfl
  · intro s t going later
    have enough := canUpgrade_iff.mp going
    have still : canUpgrade table { s with curExp := s.curExp + more } = true := by
      apply canUpgrade_iff.mpr
      dsimp only
      omega
    rw [later, climb_eq table { s with curExp := s.curExp + more }, if_pos still]
    congr 1
    simp only [upgrade, Grown.mk.injEq, true_and]
    omega

end

/-! ### The total -/

/-- The costs of the levels passed on the way to `level`. -/
def passed (table : Exprience) (level : Int) : Int :=
  ∑ k ∈ Finset.range (level - 1).toNat, getExpForUpgradeLevel table (k + 1)

def Grown.total (table : Exprience) (object : Grown) : Int := passed table object.level + object.curExp

theorem passed_succ (table : Exprience) {level : Int} (start : 1 ≤ level) :
    passed table (level + 1) = passed table level + getExpForUpgradeLevel table level := by
  have next : (level + 1 - 1).toNat = (level - 1).toNat + 1 := by omega
  unfold passed
  rw [next, Finset.sum_range_succ]
  congr 2
  omega

theorem climb_total {table : Exprience} {object : Grown} (start : 1 ≤ object.level) :
    (climb table object).total table = object.total table := by
  suffices 1 ≤ (climb table object).level ∧ (climb table object).total table = object.total table from this.2
  apply whileDo_keeps (P := fun reached : Grown => 1 ≤ reached.level ∧ reached.total table = object.total table)
    upgrade_lowers _ ⟨start, rfl⟩
  intro reached _ ⟨above, same⟩
  refine ⟨?_, ?_⟩
  · simp only [upgrade]
    omega
  · rw [← same]
    simp only [Grown.total, upgrade, passed_succ table above]
    omega

theorem passed_mono (table : Exprience) {low high : Int} (more : low ≤ high) : passed table low ≤ passed table high := by
  refine Finset.sum_le_sum_of_subset_of_nonneg (Finset.range_subset_range.mpr (by omega)) fun k _ _ => ?_
  exact Int.le_of_lt (cost_pos table (k + 1))

/-- Who owes experience does not climb. -/
theorem climb_of_neg {table : Exprience} {object : Grown} (owes : object.curExp < 0) : climb table object = object := by
  have cost := cost_pos table object.level
  have short : canUpgrade table object = false := canUpgrade_eq_false.mpr (by omega)
  rw [climb_eq, short]
  rfl

/-- The loop goes beyond a level exactly when all there is pays for that level as well. -/
theorem climb_level_le_iff {table : Exprience} {object : Grown} {level : Int} (start : 1 ≤ object.level) (upward : object.level ≤ level) :
    (climb table object).level ≤ level ↔ object.total table < passed table (level + 1) := by
  have total : (climb table object).total table = object.total table := climb_total start
  have low := climb_low table object
  have climbed := climb_level_le table object
  have next := passed_succ table (show 1 ≤ (climb table object).level by omega)
  rw [← total]
  unfold Grown.total
  constructor
  · intro within
    have mono := passed_mono table (show (climb table object).level + 1 ≤ level + 1 by omega)
    omega
  · intro short
    by_contra above
    have mono := passed_mono table (show level + 1 ≤ (climb table object).level by omega)
    have owes : object.curExp < 0 := by
      by_contra pays
      have left : 0 ≤ (climb table object).curExp := climb_curExp_nonneg (Int.not_lt.mp pays)
      omega
    rw [climb_of_neg owes] at above
    omega

/-! ### Grants -/

def Grown.granted (object : Grown) (exp : Int) : Grown := { object with curExp := object.curExp + exp }

/-- The level that is reached before the limit is applied. -/
def uncapped (table : Exprience) (object : Grown) (exp : Int) : Int := (climb table (object.granted exp)).level

section
variable {table : Exprience} {object : Grown} {exp : Int}

theorem limitLevel_of_le {level : Int} (within : level ≤ playerLevelLimit) : limitLevel level = level := by
  unfold limitLevel
  rw [if_neg (by omega)]

theorem limitLevel_cases (level : Int) : limitLevel level = level ∧ level ≤ playerLevelLimit ∨
    limitLevel level = playerLevelLimit ∧ playerLevelLimit < level := by
  unfold limitLevel
  split
  · exact .inr ⟨rfl, by omega⟩
  · exact .inl ⟨rfl, by omega⟩

theorem granted_total : (object.granted exp).total table = object.total table + exp := by
  unfold Grown.total Grown.granted
  dsimp only
  omega

/-- Climbing with a grant keeps what there is and what was granted. -/
theorem climb_granted_total (start : 1 ≤ object.level) :
    (climb table (object.granted exp)).total table = object.total table + exp := by
  have low : 1 ≤ (object.granted exp).level := start
  rw [climb_total low, granted_total]

/-- Both functions loop and then cut the level. -/
theorem addHeroExp_eq (alive : object.level ≠ 0) (small : exp ≤ expLevelLimit) :
    addHeroExp table exp object =
      { climb table (object.granted exp) with level := limitLevel (uncapped table object exp) } := by
  unfold addHeroExp calHeroExpAndLevel
  rw [if_neg (by omega)]
  dsimp only
  rw [if_pos alive]
  rfl

theorem addHeroExp_cut (beyond : expLevelLimit < exp) : addHeroExp table exp object = addHeroExp table expLevelLimit object := by
  unfold addHeroExp
  rw [if_pos beyond, if_neg (lt_irrefl _)]

theorem addPlayerExp_eq (alive : object.level ≠ 0) :
    (addPlayerExp table exp object).1 =
      { climb table (object.granted exp) with level := limitLevel (uncapped table object exp) } := by
  unfold addPlayerExp calExpAndLevel
  dsimp only
  rw [if_pos alive]
  dsimp only
  rw [climbAsking_fst]
  rfl

/-- The loop ends short of a level, no level is lost or gained beyond the limit, and below the limit neither is
any experience. -/
structure Conserved (table : Exprience) (object : Grown) (exp : Int) (after : Grown) : Prop where
  ends : (climb table (object.granted exp)).curExp < getExpForUpgradeLevel table (uncapped table object exp)
  higher : object.level ≤ after.level
  capped : after.level ≤ playerLevelLimit
  short : uncapped table object exp ≤ playerLevelLimit → 0 ≤ after.curExp ∧ after.curExp < getExpForUpgradeLevel table after.level
  total : uncapped table object exp ≤ playerLevelLimit → after.total table = object.total table + exp

theorem climb_conserved (table : Exprience) (start : 1 ≤ object.level) (within : object.level ≤ playerLevelLimit) (cur : 0 ≤ object.curExp)
    (nonneg : 0 ≤ exp) :
    Conserved table object exp { climb table (object.granted exp) with level := limitLevel (uncapped table object exp) } := by
  have climbed : object.level ≤ uncapped table object exp := climb_level_le table (object.granted exp)
  have low := climb_low table (object.granted exp)
  refine ⟨low, ?_, ?_, ?_, ?_⟩
  · simp only [limitLevel]
    split <;> omega
  · simp only [limitLevel]
    split <;> omega
  · intro below
    rw [limitLevel_of_le below]
    refine ⟨?_, low⟩
    apply climb_curExp_nonneg
    simp only [Grown.granted]
    omega
  · intro below
    rw [limitLevel_of_le below]
    exact climb_granted_total start

/-- Two grants reach what one of their sum reaches. -/
theorem climb_granted_twice (table : Exprience) {object : Grown} {a b : Int} (nonneg : 0 ≤ b)
    (below : uncapped table object a ≤ playerLevelLimit) :
    climb table (Grown.granted { climb table (object.granted a) with level := limitLevel (uncapped table object a) } b) =
      climb table (object.granted (a + b)) := by
  rw [limitLevel_of_le below]
  have added := climb_add table nonneg (object.granted a)
  simp only [Grown.granted, uncapped] at added ⊢
  rw [added, add_assoc]

theorem uncapped_mono {a b : Int} (nonneg : 0 ≤ b) : uncapped table object a ≤ uncapped table object (a + b) := by
  have added := climb_add table nonneg (object.granted a)
  have climbed := climb_level_le table { climb table (object.granted a) with curExp := (climb table (object.granted a)).curExp + b }
  rw [added] at climbed
  simp only [Grown.granted, add_assoc] at climbed
  exact climbed

end

theorem experience_conserved (table : Exprience) (object : Grown) (start : 1 ≤ object.level)
    (within : object.level ≤ playerLevelLimit) (cur : 0 ≤ object.curExp) :
    (∀ exp, 0 ≤ exp → exp ≤ expLevelLimit → Conserved table object exp (addHeroExp table exp object) ∧
      Conserved table object exp (addPlayerExp table exp object).1) ∧
    ∀ a b, 0 ≤ a → 0 ≤ b → a + b ≤ expLevelLimit → uncapped table object (a + b) ≤ playerLevelLimit →
      addHeroExp table b (addHeroExp table a object) = addHeroExp table (a + b) object ∧
      (addPlayerExp table b (addPlayerExp table a object).1).1 = (addPlayerExp table (a + b) object).1 := by
  have alive : object.level ≠ 0 := by omega
  refine ⟨fun exp nonneg small => ?_, fun a b first second small below => ?_⟩
  · rw [addHeroExp_eq alive small, addPlayerExp_eq alive]
    have conserved := climb_conserved table start within cur nonneg
    exact ⟨conserved, conserved⟩
  · have under : uncapped table object a ≤ playerLevelLimit := le_trans (uncapped_mono second) below
    have climbed : object.level ≤ uncapped table object a := climb_level_le table (object.granted a)
    have twice := climb_granted_twice table second under
    rw [addHeroExp_eq alive (show a ≤ expLevelLimit by omega), addHeroExp_eq alive small, addPlayerExp_eq alive,
      addPlayerExp_eq alive]
    have high : limitLevel (uncapped table object a) ≠ 0 := by
      rw [limitLevel_of_le under]
      omega
    rw [addHeroExp_eq high (show b ≤ expLevelLimit by omega), addPlayerExp_eq high]
    unfold uncapped at twice ⊢
    rw [twice]
    exact ⟨rfl, rfl⟩

/-- The first rows of the table. -/
def firstRows (level : Int) : Option Int := if level = 1 ∨ level = 2 then some 10 else none

theorem firstRows_positive (level experience : Int) (found : firstRows level = some experience) : 0 < experience := by
  unfold firstRows at found
  split at found
  · cases found
    decide
  · cases found

def firstLevels : Exprience := ⟨firstRows, firstRows_positive⟩

theorem experience_conserved_first : addHeroExp firstLevels 25 ⟨1, 3⟩ = ⟨3, 8⟩ ∧
    Conserved firstLevels ⟨1, 3⟩ 25 (addHeroExp firstLevels 25 ⟨1, 3⟩) ∧
    addHeroExp firstLevels 13 (addHeroExp firstLevels 12 ⟨1, 3⟩) = addHeroExp firstLevels (12 + 13) ⟨1, 3⟩ := by
  have conserved := experience_conserved firstLevels ⟨1, 3⟩ (by decide) (by decide) (by decide)
  refine ⟨by decide, (conserved.1 25 (by decide) (by decide)).1, ?_⟩
  exact (conserved.2 12 13 (by decide) (by decide) (by decide) (by decide)).1

end Tinygame.Hero
