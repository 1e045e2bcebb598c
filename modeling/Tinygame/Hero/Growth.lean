import Tinygame.Base.Floors
import Mathlib.Data.Rat.Floor

/-!
# The growth of heroes

`getHeroPower` of `hero_handle.js`, and `GetHP`, `GetAttack` and `GetDefend` of the fight with what `hero.lua` adds to
them. Both take a hero's growth from the rates of its star and the bonus of its quality. Numbers are exact: the
rounding of doubles is left out.
-/

namespace Tinygame.Hero.Growth

/-! ### The tables -/

structure Stats (α : Type) where
  hp : α
  attack : α
  defend : α
  deriving DecidableEq

/-- `grow_base`: a factor, and the bases of life and of attack and defence. -/
structure Base where
  x : ℚ
  hp : ℚ
  ad : ℚ

/-- The columns of a row of `config/character/character` that growth is made of, nothing for one that is not there. -/
structure CharacterRow where
  growBase : Option Base
  growRate : Option (List (Stats ℚ))
  starGrowing : Option (List (Stats ℚ))

/-- A row of `config/hero/heroquality`. -/
structure QualityRow where
  hp : Int
  ap : Int
  def_ : Int

structure Tables where
  character : Nat → Option CharacterRow
  heroQuality : Nat → Option QualityRow

structure HeroInfo where
  heroId : Nat
  level : Nat
  star : Nat
  quality : Nat
  curExp : Int := 0

variable (tables : Tables)

/-! ### hero_handle.js -/

/-- The rates of a star, nothing for a TypeError. The rows are counted from one, and a star without a row in
`stargrowing` has no rates. -/
def starRates (heroConfig : CharacterRow) (star : Nat) : Option (Stats ℚ) :=
  if star = 0 then some ⟨0, 0, 0⟩
  else do
    let stars ← heroConfig.starGrowing
    if (stars[star - 1]?).isSome then
      let rates ← heroConfig.growRate
      rates[star - 1]?
    else some ⟨0, 0, 0⟩

def bonus (quality : Nat) : Stats Int :=
  if quality ≠ 0 then
    match tables.heroQuality quality with
    | some row => ⟨row.hp, row.ap, row.def_⟩
    | none => ⟨0, 0, 0⟩
  else ⟨0, 0, 0⟩

/-- The `hp`, `atk` and `def` of `getHeroPower`. -/
def heroStats (heroConfig : CharacterRow) (heroInfo : HeroInfo) : Option (Stats ℚ) := do
  let base ← heroConfig.growBase
  let rate ← starRates heroConfig heroInfo.star
  let more := bonus tables heroInfo.quality
  return {
    hp := rate.hp * base.hp * heroInfo.level + base.x * base.hp + more.hp
    attack := rate.attack * base.ad * heroInfo.level + base.x * base.ad + more.attack
    defend := rate.defend * base.ad * heroInfo.level + base.x * base.ad + more.defend }

/-- Nothing for a TypeError. -/
def getHeroPower (heroInfo : HeroInfo) : Option Int :=
  match tables.character heroInfo.heroId with
  | some heroConfig => (heroStats tables heroConfig heroInfo).map fun stats => ⌊stats.hp + stats.attack + stats.defend⌋
  | none => some 0

/-! ### hero.lua -/

/-- The first of the rows is that of star zero. -/
def getStarGrowing (tbConfig : Option CharacterRow) (nStar : Nat) : Stats ℚ :=
  ((tbConfig.bind CharacterRow.growRate).bind fun tbStars => tbStars[nStar]?).getD ⟨0, 0, 0⟩

def getALevelGrowing (hero : HeroInfo) : Stats Int :=
  match (tables.character hero.heroId).bind CharacterRow.growBase with
  | none => ⟨0, 0, 0⟩
  | some base =>
    let rate := getStarGrowing (tables.character hero.heroId) hero.star
    ⟨⌊rate.hp * hero.level * base.hp + base.x * base.hp⌋, ⌊rate.attack * hero.level * base.ad + base.x * base.ad⌋,
      ⌊rate.defend * hero.level * base.ad + base.x * base.ad⌋⟩

def getLevelGrowing (hero : HeroInfo) : Stats Int := getALevelGrowing tables hero

def getQualityGrowing (hero : HeroInfo) : Stats Int :=
  if hero.quality ≤ 0 then ⟨0, 0, 0⟩
  else
    match tables.heroQuality hero.quality with
    | none => ⟨0, 0, 0⟩
    | some tbConfig =>
      let (nAtk, nDef, nHP) := (tbConfig.hp, tbConfig.def_, tbConfig.ap)
      ⟨nHP, nAtk, nDef⟩

/-- What else a hero fights with: its own numbers, the percentages of its suit and the attributes of its equips. -/
structure Worn where
  info : Stats ℚ := ⟨0, 0, 0⟩
  attackAdd : ℚ := 0
  defendAdd : ℚ := 0
  equip : Stats ℚ := ⟨0, 0, 0⟩

/-- `GetAttackAdd` and `GetDefendAdd`. -/
def suitAdd (percent amount : ℚ) : Int := ⌊amount * percent / 100⌋

def getHP (worn : Worn) (hero : HeroInfo) : ℚ :=
  worn.info.hp + (getLevelGrowing tables hero).hp + (getQualityGrowing tables hero).hp + worn.equip.hp

def getAttack (worn : Worn) (hero : HeroInfo) : ℚ :=
  let nAtk := worn.info.attack + (getLevelGrowing tables hero).attack + (getQualityGrowing tables hero).attack
  nAtk + suitAdd worn.attackAdd nAtk + worn.equip.attack

def getDefend (worn : Worn) (hero : HeroInfo) : ℚ :=
  let nDef := worn.info.defend + (getLevelGrowing tables hero).defend + (getQualityGrowing tables hero).defend
  nDef + suitAdd worn.defendAdd nDef + worn.equip.defend

/-! ### The two sides -/

/-- Where a hero has nothing else the fight has what the server sums, each without its fraction. -/
def Agrees (hero : HeroInfo) : Prop :=
  ∃ heroConfig stats, tables.character hero.heroId = some heroConfig ∧ heroStats tables heroConfig hero = some stats ∧
    getHP tables {} hero = ⌊stats.hp⌋ ∧ getAttack tables {} hero = ⌊stats.attack⌋ ∧ getDefend tables {} hero = ⌊stats.defend⌋

/-- The row that the server reads for the star has the rates of the row the fight reads, where there is a base for them. -/
def SameRates (heroConfig : CharacterRow) (star : Nat) : Prop :=
  ∃ base rate, heroConfig.growBase = some base ∧ starRates heroConfig star = some rate ∧
    (base.hp = 0 ∨ rate.hp = (getStarGrowing heroConfig star).hp) ∧
    (base.ad = 0 ∨ rate.attack = (getStarGrowing heroConfig star).attack ∧ rate.defend = (getStarGrowing heroConfig star).defend)

/-- The quality gives as much life as attack. -/
def SameBonus (quality : Nat) : Prop :=
  ∀ row, quality ≠ 0 → tables.heroQuality quality = some row → row.hp = row.ap

variable {tables} {heroConfig : CharacterRow} {hero : HeroInfo}

/-- The fight takes life for attack. -/
theorem getQualityGrowing_eq (hero : HeroInfo) :
    getQualityGrowing tables hero =
      ⟨(bonus tables hero.quality).attack, (bonus tables hero.quality).hp, (bonus tables hero.quality).defend⟩ := by
  unfold getQualityGrowing bonus
  by_cases none_ : hero.quality = 0
  · rw [if_pos (Nat.le_of_eq none_), if_neg (not_not.mpr none_)]
  · rw [if_neg (by omega), if_pos none_]
    cases tables.heroQuality hero.quality <;> rfl

theorem sameBonus_iff (quality : Nat) : SameBonus tables quality ↔ (bonus tables quality).hp = (bonus tables quality).attack := by
  unfold SameBonus bonus
  by_cases none_ : quality = 0
  · simp [none_]
  · rw [if_pos none_]
    cases tables.heroQuality quality with
    | none => simp
    | some row => simp [none_]

theorem getHP_bare (hero : HeroInfo) :
    getHP tables {} hero = ((getLevelGrowing tables hero).hp + (getQualityGrowing tables hero).hp : Int) := by
  simp [getHP]

theorem getAttack_bare (hero : HeroInfo) :
    getAttack tables {} hero = ((getLevelGrowing tables hero).attack + (getQualityGrowing tables hero).attack : Int) := by
  simp [getAttack, suitAdd]

theorem getDefend_bare (hero : HeroInfo) :
    getDefend tables {} hero = ((getLevelGrowing tables hero).defend + (getQualityGrowing tables hero).defend : Int) := by
  simp [getDefend, suitAdd]

theorem slope_eq {rate rate' base : ℚ} : rate * base = rate' * base ↔ base = 0 ∨ rate = rate' := by
  rw [mul_eq_mul_right_iff, or_comm]

/-- What agreement at one level comes to, with the rates and the base at hand. -/
theorem agrees_iff (hero : HeroInfo) {base : Base} {rate : Stats ℚ} (present : tables.character hero.heroId = some heroConfig)
    (hasBase : heroConfig.growBase = some base) (hasRate : starRates heroConfig hero.star = some rate) :
    Agrees tables hero ↔
      (⌊(getStarGrowing heroConfig hero.star).hp * base.hp * hero.level + base.x * base.hp⌋ + (bonus tables hero.quality).attack =
          ⌊rate.hp * base.hp * hero.level + base.x * base.hp⌋ + (bonus tables hero.quality).hp) ∧
        (⌊(getStarGrowing heroConfig hero.star).attack * base.ad * hero.level + base.x * base.ad⌋ + (bonus tables hero.quality).hp =
          ⌊rate.attack * base.ad * hero.level + base.x * base.ad⌋ + (bonus tables hero.quality).attack) ∧
        (⌊(getStarGrowing heroConfig hero.star).defend * base.ad * hero.level + base.x * base.ad⌋ +
            (bonus tables hero.quality).defend =
          ⌊rate.defend * base.ad * hero.level + base.x * base.ad⌋ + (bonus tables hero.quality).defend) := by
  have stats : heroStats tables heroConfig hero = some {
      hp := rate.hp * base.hp * hero.level + base.x * base.hp + (bonus tables hero.quality).hp
      attack := rate.attack * base.ad * hero.level + base.x * base.ad + (bonus tables hero.quality).attack
      defend := rate.defend * base.ad * hero.level + base.x * base.ad + (bonus tables hero.quality).defend } := by
    unfold heroStats
    rw [hasBase, hasRate]
    rfl
  have growing : getLevelGrowing tables hero = {
      hp := ⌊(getStarGrowing heroConfig hero.star).hp * base.hp * hero.level + base.x * base.hp⌋
      attack := ⌊(getStarGrowing heroConfig hero.star).attack * base.ad * hero.level + base.x * base.ad⌋
      defend := ⌊(getStarGrowing heroConfig hero.star).defend * base.ad * hero.level + base.x * base.ad⌋ } := by
    unfold getLevelGrowing getALevelGrowing
    rw [present, Option.bind_some, hasBase]
    simp only [mul_right_comm]
  unfold Agrees
  rw [getHP_bare, getAttack_bare, getDefend_bare, getQualityGrowing_eq, growing]
  simp only [Int.cast_inj]
  constructor
  · rintro ⟨heroConfig', stats', there, summed, agree⟩
    obtain rfl := Option.some.inj (present.symm.trans there)
    obtain rfl := Option.some.inj (stats.symm.trans summed)
    simpa only [Int.floor_add_intCast] using agree
  · intro agree
    refine ⟨heroConfig, _, present, stats, ?_⟩
    simpa only [Int.floor_add_intCast] using agree

/-- The row of hero 10001 and the first quality, as both sides have them. -/
def shipped : Tables where
  character heroId :=
    if heroId = 10001 then some {
      growBase := some ⟨2, 75, 50⟩
      growRate := some [⟨0.1375, 0.088, 0.022⟩, ⟨0.20625, 0.132, 0.033⟩, ⟨0.22916, 0.14666, 0.036665⟩, ⟨0.24062, 0.154, 0.0385⟩,
        ⟨0.275, 0.176, 0.044⟩]
      starGrowing := some [⟨10, 10, 20⟩, ⟨20, 20, 30⟩, ⟨20, 20, 30⟩, ⟨40, 40, 60⟩, ⟨60, 60, 70⟩] }
    else none
  heroQuality quality := if quality = 1 then some ⟨150, 100, 40⟩ else none

end Tinygame.Hero.Growth
