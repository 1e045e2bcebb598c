import Tinygame.Hero.Experience
import Tinygame.Hero.Growth
import Mathlib.Tactic.GCongr

/-!
# Upgrades

`upgradeHeroStarLevel` and `upgradeHeroQualityLevel` of `hero_handle.js`, and experience that raises the level. Where the
tables have a row for every star and quality there is, and no row is below the one before it, a hero never gets weaker.
-/

namespace Tinygame.Hero.Growth

def heroStarLevelLimit : Nat := 5
def heroQualityLevelLimit : Nat := 13

/-- Nothing where the limit is reached. -/
def upgradeHeroStarLevel (heroInfo : HeroInfo) : Option HeroInfo :=
  if heroInfo.star < heroStarLevelLimit then some { heroInfo with star := heroInfo.star + 1 } else none

def upgradeHeroQualityLevel (heroInfo : HeroInfo) : Option HeroInfo :=
  if heroInfo.quality < heroQualityLevelLimit then some { heroInfo with quality := heroInfo.quality + 1 } else none

/-- Nothing where `addHeroExp` does not raise the level. -/
def gainLevel (table : Exprience) (exp : Int) (heroInfo : HeroInfo) : Option HeroInfo :=
  let grown := addHeroExp table exp ⟨heroInfo.level, heroInfo.curExp⟩
  if heroInfo.level < grown.level then some { heroInfo with level := grown.level.toNat, curExp := grown.curExp } else none

inductive Upgrade where
  | star
  | quality
  | exp (amount : Int)

def upgrade (table : Exprience) (heroInfo : HeroInfo) : Upgrade → Option HeroInfo
  | .star => upgradeHeroStarLevel heroInfo
  | .quality => upgradeHeroQualityLevel heroInfo
  | .exp amount => gainLevel table amount heroInfo

/-! ### Tables that do not fall -/

/-- Each number is at least the other's. -/
instance {α : Type} [LE α] : LE (Stats α) := ⟨fun a b => a.hp ≤ b.hp ∧ a.attack ≤ b.attack ∧ a.defend ≤ b.defend⟩

instance {α : Type} [LE α] [DecidableLE α] : DecidableLE (Stats α) := fun _ _ => inferInstanceAs (Decidable (_ ∧ _ ∧ _))

def QualityRow.stats (row : QualityRow) : Stats Int := ⟨row.hp, row.ap, row.def_⟩

/-- There are rates for each star, counted from one and counted from zero. -/
structure CharacterRow.Grows (row : CharacterRow) : Prop where
  base : ∃ base, row.growBase = some base ∧ 0 ≤ base.hp ∧ 0 ≤ base.ad
  rates : ∃ rates, row.growRate = some rates ∧ heroStarLevelLimit < rates.length ∧ rates.Pairwise (· ≤ ·) ∧
    ∀ rate ∈ rates, (⟨0, 0, 0⟩ : Stats ℚ) ≤ rate
  stars : ∃ stars, row.starGrowing = some stars ∧ heroStarLevelLimit ≤ stars.length

structure Tables.Grow (tables : Tables) : Prop where
  characters : ∀ id row, tables.character id = some row → row.Grows
  qualities : ∀ quality, 0 < quality → quality ≤ heroQualityLevelLimit →
    ∃ row, tables.heroQuality quality = some row ∧ (⟨0, 0, 0⟩ : Stats Int) ≤ row.stats
  ascend : ∀ quality quality' row row', quality ≤ quality' → tables.heroQuality quality = some row →
    tables.heroQuality quality' = some row' → row.stats ≤ row'.stats

/-- A suit adds. -/
structure Worn.Adds (worn : Worn) : Prop where
  attack : 0 ≤ worn.attackAdd
  defend : 0 ≤ worn.defendAdd

/-- Nothing of what counts is less. -/
structure NoWeaker (tables : Tables) (worn : Worn) (hero hero' : HeroInfo) : Prop where
  hp : getHP tables worn hero ≤ getHP tables worn hero'
  attack : getAttack tables worn hero ≤ getAttack tables worn hero'
  defend : getDefend tables worn hero ≤ getDefend tables worn hero'
  power : ∀ power, getHeroPower tables hero = some power → ∃ power', getHeroPower tables hero' = some power' ∧ power ≤ power'

/-! ### What an upgrade does -/

/-- Nothing goes down, and what goes up stays within its limit. -/
structure Rises (hero hero' : HeroInfo) : Prop where
  heroId : hero'.heroId = hero.heroId
  level : hero.level ≤ hero'.level
  star : hero'.star = hero.star ∨ hero.star ≤ hero'.star ∧ hero'.star ≤ heroStarLevelLimit
  quality : hero'.quality = hero.quality ∨ hero.quality ≤ hero'.quality ∧ hero'.quality ≤ heroQualityLevelLimit

variable {tables : Tables} {row : CharacterRow} {hero hero' : HeroInfo} {worn : Worn} {star star' : Nat}

theorem upgrade_rises {table : Exprience} {kind : Upgrade} (done : upgrade table hero kind = some hero') : Rises hero hero' := by
  cases kind with
  | star =>
    obtain ⟨below, ⟨⟩⟩ := Option.ite_none_right_eq_some.mp done
    exact ⟨rfl, le_refl _, .inr ⟨Nat.le_succ _, below⟩, .inl rfl⟩
  | quality =>
    obtain ⟨below, ⟨⟩⟩ := Option.ite_none_right_eq_some.mp done
    exact ⟨rfl, le_refl _, .inl rfl, .inr ⟨Nat.le_succ _, below⟩⟩
  | exp amount =>
    obtain ⟨above, ⟨⟩⟩ := Option.ite_none_right_eq_some.mp done
    refine ⟨rfl, ?_, .inl rfl, .inl rfl⟩
    dsimp only
    omega

/-! ### The rates of a star -/

theorem stats_refl {α : Type} [Preorder α] (a : Stats α) : a ≤ a := ⟨le_refl _, le_refl _, le_refl _⟩

theorem rates_ascend {rates : List (Stats ℚ)} (ascending : rates.Pairwise (· ≤ ·)) {i j : Nat} {rate rate' : Stats ℚ}
    (first : rates[i]? = some rate) (second : rates[j]? = some rate') (upward : i ≤ j) : rate ≤ rate' := by
  obtain ⟨within, rfl⟩ := List.getElem?_eq_some_iff.mp first
  obtain ⟨within', rfl⟩ := List.getElem?_eq_some_iff.mp second
  rcases Nat.lt_or_eq_of_le upward with earlier | rfl
  · exact List.pairwise_iff_getElem.mp ascending i j within within' earlier
  · exact stats_refl _

theorem getStarGrowing_nonneg (grows : row.Grows) (star : Nat) : (⟨0, 0, 0⟩ : Stats ℚ) ≤ getStarGrowing row star := by
  obtain ⟨rates, has, -, -, nonneg⟩ := grows.rates
  unfold getStarGrowing
  rw [Option.bind_some, has, Option.bind_some]
  cases found : rates[star]? with
  | none => exact stats_refl _
  | some rate => exact nonneg rate (List.mem_of_getElem? found)

theorem getStarGrowing_ascends (grows : row.Grows) (upward : star' = star ∨ star ≤ star' ∧ star' ≤ heroStarLevelLimit) :
    getStarGrowing row star ≤ getStarGrowing row star' := by
  rcases upward with rfl | ⟨upward, within⟩
  · exact stats_refl _
  · obtain ⟨rates, has, covered, ascending, -⟩ := grows.rates
    have here : star < rates.length := by omega
    have there : star' < rates.length := by omega
    unfold getStarGrowing
    rw [Option.bind_some, has, Option.bind_some, Option.bind_some, List.getElem?_eq_getElem here, List.getElem?_eq_getElem there]
    exact rates_ascend ascending (List.getElem?_eq_getElem here) (List.getElem?_eq_getElem there) upward

theorem starRates_nonneg (grows : row.Grows) {rate : Stats ℚ} (found : starRates row star = some rate) :
    (⟨0, 0, 0⟩ : Stats ℚ) ≤ rate := by
  obtain ⟨rates, has, -, -, nonneg⟩ := grows.rates
  obtain ⟨stars, hasStars, -⟩ := grows.stars
  unfold starRates at found
  rw [hasStars, has] at found
  split at found
  · exact Option.some.inj found ▸ stats_refl _
  · simp only [Option.bind_eq_bind, Option.bind_some] at found
    split at found
    · exact nonneg rate (List.mem_of_getElem? found)
    · exact Option.some.inj found ▸ stats_refl _

/-- A star within the limit has the rates of its row. -/
theorem starRates_covered (grows : row.Grows) (positive : 0 < star) (within : star ≤ heroStarLevelLimit) :
    starRates row star = row.growRate.bind fun rates => rates[star - 1]? := by
  obtain ⟨stars, hasStars, covered⟩ := grows.stars
  have there : star - 1 < stars.length := by omega
  unfold starRates
  rw [if_neg (by omega), hasStars]
  simp only [Option.bind_eq_bind, Option.bind_some]
  rw [if_pos (by rw [List.getElem?_eq_getElem there]; rfl)]

theorem starRates_ascends (grows : row.Grows) (upward : star' = star ∨ star ≤ star' ∧ star' ≤ heroStarLevelLimit)
    {rate : Stats ℚ} (found : starRates row star = some rate) : ∃ rate', starRates row star' = some rate' ∧ rate ≤ rate' := by
  rcases upward with rfl | ⟨upward, within⟩
  · exact ⟨rate, found, stats_refl _⟩
  · rcases Nat.eq_zero_or_pos star' with rfl | positive
    · obtain rfl := Nat.le_zero.mp upward
      exact ⟨rate, found, stats_refl _⟩
    · obtain ⟨rates, has, covered, ascending, nonneg⟩ := grows.rates
      have there : star' - 1 < rates.length := by omega
      have found' : starRates row star' = some rates[star' - 1] := by
        rw [starRates_covered grows positive within, has, Option.bind_some, List.getElem?_eq_getElem there]
      refine ⟨_, found', ?_⟩
      rcases Nat.eq_zero_or_pos star with rfl | positive'
      · have none_ : rate = ⟨0, 0, 0⟩ := (Option.some.inj found).symm
        rw [none_]
        exact nonneg _ (List.getElem_mem there)
      · rw [starRates_covered grows positive' (upward.trans within), has, Option.bind_some] at found
        exact rates_ascend ascending found (List.getElem?_eq_getElem there) (by omega)

/-! ### The bonus of a quality -/

theorem bonus_ascends (grow : tables.Grow) {quality quality' : Nat}
    (upward : quality' = quality ∨ quality ≤ quality' ∧ quality' ≤ heroQualityLevelLimit) :
    bonus tables quality ≤ bonus tables quality' := by
  rcases upward with rfl | ⟨upward, within⟩
  · exact stats_refl _
  · rcases Nat.eq_zero_or_pos quality' with rfl | positive'
    · rw [Nat.le_zero.mp upward]
      exact stats_refl _
    · obtain ⟨row', found', nonneg⟩ := grow.qualities quality' positive' within
      rcases Nat.eq_zero_or_pos quality with rfl | positive
      · unfold bonus
        rw [if_neg (not_not.mpr rfl), if_pos positive'.ne', found']
        exact nonneg
      · obtain ⟨row, found, -⟩ := grow.qualities quality positive (upward.trans within)
        unfold bonus
        rw [if_pos positive.ne', if_pos positive'.ne', found, found']
        exact grow.ascend quality quality' row row' upward found found'

/-! ### Growth -/

theorem grown_le {rate rate' base : ℚ} {level level' : Nat} (baseNonneg : 0 ≤ base) (nonneg : 0 ≤ rate) (upward : rate ≤ rate')
    (higher : level ≤ level') (more : ℚ) : rate * base * level + more ≤ rate' * base * level' + more := by
  have levels : (level : ℚ) ≤ level' := Nat.cast_le.mpr higher
  gcongr
  exact mul_nonneg (nonneg.trans upward) baseNonneg

theorem floor_le {rate rate' base : ℚ} {level level' : Nat} (baseNonneg : 0 ≤ base) (nonneg : 0 ≤ rate) (upward : rate ≤ rate')
    (higher : level ≤ level') (more : ℚ) : ⌊rate * level * base + more⌋ ≤ ⌊rate' * level' * base + more⌋ := by
  rw [mul_right_comm rate, mul_right_comm rate']
  exact Int.floor_le_floor (grown_le baseNonneg nonneg upward higher more)

theorem getLevelGrowing_ascends (grow : tables.Grow) (rises : Rises hero hero') :
    getLevelGrowing tables hero ≤ getLevelGrowing tables hero' := by
  unfold getLevelGrowing getALevelGrowing
  rw [rises.heroId]
  cases found : tables.character hero.heroId with
  | none => exact stats_refl _
  | some row =>
    have grows := grow.characters _ row found
    obtain ⟨base, has, hp, ad⟩ := grows.base
    obtain ⟨hpNonneg, attackNonneg, defendNonneg⟩ := getStarGrowing_nonneg grows hero.star
    obtain ⟨hpUp, attackUp, defendUp⟩ := getStarGrowing_ascends grows rises.star
    rw [Option.bind_some, has]
    exact ⟨floor_le hp hpNonneg hpUp rises.level _, floor_le ad attackNonneg attackUp rises.level _,
      floor_le ad defendNonneg defendUp rises.level _⟩

theorem getQualityGrowing_ascends (grow : tables.Grow) (rises : Rises hero hero') :
    getQualityGrowing tables hero ≤ getQualityGrowing tables hero' := by
  obtain ⟨hp, attack, defend⟩ := bonus_ascends grow rises.quality
  rw [getQualityGrowing_eq, getQualityGrowing_eq]
  exact ⟨attack, hp, defend⟩

theorem heroStats_ascends (grow : tables.Grow) (found : tables.character hero.heroId = some row) (rises : Rises hero hero')
    {stats : Stats ℚ} (summed : heroStats tables row hero = some stats) :
    ∃ stats', heroStats tables row hero' = some stats' ∧ stats ≤ stats' := by
  have grows := grow.characters _ row found
  obtain ⟨base, has, hp, ad⟩ := grows.base
  obtain ⟨moreHp, moreAttack, moreDefend⟩ := bonus_ascends grow rises.quality
  unfold heroStats at summed ⊢
  rw [has] at summed ⊢
  simp only [Option.bind_eq_bind, Option.bind_some] at summed ⊢
  obtain ⟨rate, rated, same⟩ := Option.bind_eq_some_iff.mp summed
  obtain ⟨rate', rated', hpUp, attackUp, defendUp⟩ := starRates_ascends grows rises.star rated
  obtain ⟨hpNonneg, attackNonneg, defendNonneg⟩ := starRates_nonneg grows rated
  rw [rated', ← Option.some.inj same]
  exact ⟨_, rfl, add_le_add (grown_le hp hpNonneg hpUp rises.level _) (Int.cast_le.mpr moreHp),
    add_le_add (grown_le ad attackNonneg attackUp rises.level _) (Int.cast_le.mpr moreAttack),
    add_le_add (grown_le ad defendNonneg defendUp rises.level _) (Int.cast_le.mpr moreDefend)⟩

/-- What a suit adds does not take back what is gained. -/
theorem suited_le {percent amount amount' : ℚ} (adds : 0 ≤ percent) (more : amount ≤ amount') (equip : ℚ) :
    amount + suitAdd percent amount + equip ≤ amount' + suitAdd percent amount' + equip := by
  have suit : suitAdd percent amount ≤ suitAdd percent amount' := by
    unfold suitAdd
    gcongr
  have cast : (suitAdd percent amount : ℚ) ≤ suitAdd percent amount' := Int.cast_le.mpr suit
  linarith

theorem rises_strengthens (grow : tables.Grow) (adds : worn.Adds) (rises : Rises hero hero') : NoWeaker tables worn hero hero' := by
  obtain ⟨hp, attack, defend⟩ := getLevelGrowing_ascends grow rises
  obtain ⟨hp', attack', defend'⟩ := getQualityGrowing_ascends grow rises
  have cast {m n : Int} (le : m ≤ n) : (m : ℚ) ≤ n := Int.cast_le.mpr le
  constructor
  · have level := cast hp
    have quality := cast hp'
    unfold getHP
    linarith
  · have level := cast attack
    have quality := cast attack'
    apply suited_le adds.attack
    linarith
  · have level := cast defend
    have quality := cast defend'
    apply suited_le adds.defend
    linarith
  · intro power powered
    unfold getHeroPower at powered ⊢
    rw [rises.heroId]
    cases found : tables.character hero.heroId with
    | none =>
      rw [found] at powered
      exact ⟨power, powered, le_refl _⟩
    | some row =>
      rw [found] at powered
      obtain ⟨stats, summed, rfl⟩ := Option.map_eq_some_iff.mp powered
      obtain ⟨stats', summed', hp, attack, defend⟩ := heroStats_ascends grow found rises summed
      refine ⟨_, congrArg (Option.map _) summed', ?_⟩
      apply Int.floor_le_floor
      linarith

/-- The rates shipped, after a row for star zero. -/
def rising : Tables where
  character _ := some {
    growBase := some ⟨2, 75, 50⟩
    growRate := some [⟨0, 0, 0⟩, ⟨0.1375, 0.088, 0.022⟩, ⟨0.20625, 0.132, 0.033⟩, ⟨0.22916, 0.14666, 0.036665⟩,
      ⟨0.24062, 0.154, 0.0385⟩, ⟨0.275, 0.176, 0.044⟩]
    starGrowing := some [⟨10, 10, 20⟩, ⟨20, 20, 30⟩, ⟨20, 20, 30⟩, ⟨40, 40, 60⟩, ⟨60, 60, 70⟩] }
  heroQuality quality := some ⟨150 * quality, 100 * quality, 40 * quality⟩

theorem rising_grow : rising.Grow where
  characters id row found := by
    obtain rfl := Option.some.inj found
    exact ⟨⟨_, rfl, by decide +kernel, by decide +kernel⟩, ⟨_, rfl, by decide, by decide +kernel, by decide +kernel⟩,
      ⟨_, rfl, by decide⟩⟩
  qualities quality _ _ := by
    refine ⟨_, rfl, ?_, ?_, ?_⟩ <;> dsimp only [QualityRow.stats] <;> omega
  ascend quality quality' row row' upward found found' := by
    obtain rfl := Option.some.inj found
    obtain rfl := Option.some.inj found'
    refine ⟨?_, ?_, ?_⟩ <;> dsimp only [QualityRow.stats] <;> omega

end Tinygame.Hero.Growth
