import Tinygame.Fight.Faultless
import Tinygame.Fight.LifeSkills

/-!
# A fight and life

From fighters with life, where each step spares the life there is, whoever stands at a point of the fight has life
left. A status that takes all of a creature's maximum leaves it on the board without any.
-/

namespace Tinygame.Fight
open Traced
variable {N : Type} [Number N]

/-- What is asked of a step of the fight. -/
def Spares (tables : Tables N) : Event N → FightManager N → Prop
  | .act act, fight => SparesAct tables act fight.field
  | _, _ => True

/-- The field at a point of the fight. -/
def FightStandsAt : Event N → FightManager N → Prop
  | .act act, fight => StandsAt act fight.field
  | _, fight => fight.field.Stands

def standingFight (tables : Tables N) : Terms (Event N) (FightManager N) (Halt N) where
  careful := Spares tables
  always := FightStandsAt
  stopped _ fight := fight.field.Stands

abbrev FightUpholds {α : Type} (tables : Tables N) (m : Battle N α) (Q : α → Prop) : Prop :=
  Preserves (standingFight tables) (fun fight => fight.field.Stands) m Q

section
variable {tables : Tables N} {α : Type} {Q : α → Prop}

theorem play_upholds {m : Play N α} (upholds : Upholds tables m Q) : FightUpholds tables (Battle.play m) Q :=
  fun fight stands => holds_within (upholds fight.field stands)

theorem record_upholds (entry : Entry N) : FightUpholds tables (Battle.record entry) fun _ => True :=
  preserves_modify fun _ stands => stands

/-! ### Searching -/

theorem searchTarget_upholds (camp targetCamp : Camp) (idx : Nat) (row : SkillRow N) (effect : SkillEffect N) :
    Upholds tables (searchTarget camp targetCamp idx row effect) fun _ => True := by
  have first : Upholds tables (searchFirst targetCamp idx row effect) fun _ => True := by
    refine preserves_bind preserves_read fun field _ => ?_
    dsimp only
    split
    · exact preserves_pure trivial
    · exact preserves_bind (upholds_known _) fun _ _ => preserves_pure trivial
    · exact preserves_pure trivial
    · exact preserves_pure trivial
    · exact upholds_known _
    · exact upholds_known _
    · exact upholds_known _
    · exact upholds_known _
    · split
      · exact preserves_pure trivial
      · exact preserves_bind (random_upholds _) fun _ _ => preserves_pure trivial
    · exact upholds_known _
    · exact preserves_pure trivial
    · exact preserves_pure trivial
    · exact preserves_pure trivial
  refine preserves_bind first fun target _ => ?_
  split
  · refine preserves_bind (upholds_fighter camp idx) fun caster _ => ?_
    exact preserves_bind preserves_read fun _ _ => preserves_pure trivial
  · exact preserves_pure trivial

/-! ### Casting -/

variable [Number.Ordered N]

theorem castConditions_upholds (camp : Camp) (idx : Nat) (effect : SkillEffect N) :
    Upholds tables (castConditions tables camp idx effect) fun _ => True := by
  unfold castConditions
  refine preserves_bind (condMe_upholds _ camp idx) fun _ _ => preserves_bind (condCampAllExceptMe_upholds _ camp idx) fun _ _ => ?_
  refine preserves_bind (condCampAll_upholds _ _) fun _ _ => ?_
  cases effect with
  | _ => exact preserves_bind (condCampAllExceptMe_upholds _ camp idx) fun _ _ => preserves_pure trivial

omit [Number.Ordered N] in
theorem hitTargets_upholds (camp targetCamp : Camp) (idx : Nat) (row : SkillRow N) (effect : SkillEffect N) (tbTarget : List Nat) :
    Upholds tables (hitTargets camp targetCamp idx row effect tbTarget) fun _ => True := by
  unfold hitTargets
  split
  · refine preserves_bind (calcBingo_upholds camp targetCamp idx _ tbTarget) fun drawn _ => ?_
    exact preserves_bind (preserves_forM (fun target => upholds_modifyTarget target _) _) fun _ _ => preserves_pure trivial
  · exact preserves_pure trivial

section
variable (living : LivingMonsters tables)
include living

theorem takeEffect_upholds (camp : Camp) (idx skillid : Nat) (rein : Bool) :
    FightUpholds tables (takeEffect tables camp idx skillid rein) fun _ => True := by
  unfold takeEffect
  refine preserves_bind (play_upholds (upholds_fighter? camp idx)) fun there _ => ?_
  split
  · exact preserves_pure trivial
  · refine preserves_bind (play_upholds (upholds_known _)) fun row _ => preserves_bind (play_upholds (upholds_known _)) fun result _ => ?_
    dsimp only
    refine preserves_bind (play_upholds (castConditions_upholds camp idx _)) fun buff _ => ?_
    refine preserves_bind (play_upholds (upholds_modifyTb _)) fun _ _ => preserves_bind
      (preserves_mark fun _ stands => stands) fun _ _ => ?_
    refine preserves_bind (play_upholds (searchTarget_upholds camp _ idx row _)) fun tbTarget _ => ?_
    split
    · exact preserves_pure trivial
    · refine preserves_bind (play_upholds (upholds_modifyTb _)) fun _ _ => ?_
      refine preserves_bind (play_upholds (hitTargets_upholds camp _ idx row _ tbTarget)) fun tbTarget _ => ?_
      split
      · exact preserves_pure trivial
      · refine preserves_bind (preserves_mark fun _ stands => stands) fun _ _ => ?_
        refine preserves_bind (play_upholds (skillEffect_upholds living camp _ idx skillid result tbTarget rein)) fun _ _ => ?_
        exact preserves_pure trivial

omit living [Number.Ordered N] in
theorem endCast_upholds : FightUpholds tables (endCast : Battle N Unit) fun _ => True :=
  preserves_bind (preserves_modify fun _ stands => stands) fun _ _ => preserves_bind preserves_read fun _ _ => record_upholds _

end

/-! ### Choosing a skill -/

/-- A cast that leaves standing what stood. -/
def CastUpholds (tables : Tables N) (cast : Cast N) : Prop :=
  ∀ camp idx skillid rein, FightUpholds tables (cast camp idx skillid rein) fun _ => True

section
variable {cast : Cast N} (upholds : CastUpholds tables cast)
include upholds

omit [Number.Ordered N] in
theorem castNormalAtk_upholds (camp : Camp) : FightUpholds tables (castNormalAtk cast camp) fun _ => True := by
  unfold castNormalAtk
  refine preserves_bind (play_upholds (upholds_side camp)) fun there _ => ?_
  dsimp only
  split
  · exact preserves_pure trivial
  · refine preserves_bind (play_upholds (random_upholds _)) fun ret _ => preserves_bind (play_upholds (upholds_known _)) fun idx _ => ?_
    refine preserves_bind (play_upholds (upholds_fighter camp idx)) fun hero _ => preserves_bind preserves_read fun fight _ => ?_
    exact upholds camp idx _ false

omit [Number.Ordered N] in
theorem randomCostSkill_upholds (camp : Camp) (cost : Int) (type : TargetType) (pos : Nat) (rein : Bool) :
    FightUpholds tables (randomCostSkill cast camp cost type pos rein) fun _ => True := by
  cases type with
  | hero =>
    show FightUpholds tables (heroCostSkill cast camp cost rein) fun _ => True
    unfold heroCostSkill
    refine preserves_bind (play_upholds (upholds_side camp)) fun there _ => ?_
    split
    · exact castNormalAtk_upholds upholds camp
    · refine preserves_bind (play_upholds (getRandomIndex_upholds _)) fun skillIdx _ => ?_
      split
      · exact castNormalAtk_upholds upholds camp
      · refine preserves_bind (play_upholds (upholds_known _)) fun entry _ => ?_
        refine preserves_bind (play_upholds (upholds_fighter camp entry.2)) fun hero _ => ?_
        split
        · exact castNormalAtk_upholds upholds camp
        · exact upholds camp entry.2 entry.1 rein
  | summon =>
    show FightUpholds tables (summonCostSkill cast camp pos rein) fun _ => True
    unfold summonCostSkill
    refine preserves_bind (play_upholds (upholds_fighter camp pos)) fun summon _ => preserves_bind preserves_read fun fight _ => ?_
    dsimp only
    split
    · exact upholds camp pos _ false
    · refine preserves_bind (play_upholds (getRandomIndex_upholds _)) fun skillIdx _ => ?_
      split
      · exact upholds camp pos _ false
      · exact preserves_bind (play_upholds (upholds_known _)) fun skillid _ => upholds camp pos skillid rein

omit [Number.Ordered N] in
theorem castQueued_upholds : FightUpholds tables (castQueued cast) fun _ => True := by
  unfold castQueued
  refine preserves_bind preserves_read fun fight _ => ?_
  split
  · exact preserves_pure trivial
  · rename_i nextSkill rest _
    refine preserves_bind (play_upholds (upholds_modify fun _ => rfl)) fun _ _ => ?_
    refine preserves_bind (preserves_mark fun _ stands => stands) fun _ _ => ?_
    split
    · exact upholds _ _ _ _
    · exact randomCostSkill_upholds upholds _ _ _ _ _
    · exact preserves_pure trivial

end

section
variable (living : LivingMonsters tables)
include living

theorem castSkill_upholds (fuel : Nat) : CastUpholds tables (castSkill tables fuel) := by
  induction fuel with
  | zero => exact fun _ _ _ _ => preserves_stop fun _ stands => stands
  | succ fuel ih =>
    intro camp idx skillid rein
    unfold castSkill
    refine preserves_bind (play_upholds (upholds_modifyTb _)) fun _ _ => preserves_bind
      (preserves_mark fun _ stands => stands) fun _ _ => ?_
    refine preserves_bind preserves_read fun fight _ => ?_
    split
    · exact preserves_bind (play_upholds (upholds_modifyTb _)) fun _ _ => endCast_upholds
    · refine preserves_bind (takeEffect_upholds living camp idx skillid rein) fun goOn _ => ?_
      refine preserves_bind endCast_upholds fun _ _ => ?_
      split
      · exact castQueued_upholds ih
      · exact preserves_pure trivial

/-! ### Turns -/

omit living [Number.Ordered N] in
theorem beginPhase_upholds (tb : SkillOp N) : FightUpholds tables (beginPhase tb) fun _ => True :=
  preserves_modify fun _ stands => stands

theorem doHero_upholds (fuel : Nat) (camp : Camp) : FightUpholds tables (doHero tables fuel camp) fun _ => True := by
  unfold doHero
  refine preserves_bind (beginPhase_upholds _) fun _ _ => preserves_bind (preserves_mark fun _ stands => stands) fun _ _ => ?_
  refine preserves_bind (play_upholds (randomSkillCost_upholds camp)) fun cost _ => ?_
  refine preserves_bind (play_upholds (upholds_modifyTb _)) fun _ _ => preserves_bind (preserves_mark fun _ stands => stands) fun _ _ => ?_
  refine preserves_bind (play_upholds (upholds_side camp)) fun there _ => ?_
  have act (comboIndex : Nat) : FightUpholds tables (if 0 < comboIndex then Traced.stop (.stop .error)
      else randomCostSkill (castSkill tables fuel) camp cost .hero 0 false) fun _ => True := by
    split
    · exact preserves_stop fun _ stands => stands
    · exact randomCostSkill_upholds (castSkill_upholds living fuel) _ _ _ _ _
  dsimp only
  split
  · exact act 0
  · exact preserves_bind (play_upholds (getRandomIndex_upholds _)) fun comboIndex _ => act comboIndex

theorem actSummon_upholds (fuel : Nat) (camp : Camp) (i : Nat) : FightUpholds tables (actSummon tables fuel camp i) fun _ => True := by
  unfold actSummon
  refine preserves_bind (play_upholds (upholds_fighter? camp i)) fun there _ => ?_
  split
  · exact preserves_pure trivial
  · have dizzy : Upholds tables (condDizz camp i : Play N Bool) fun _ => True :=
      preserves_bind (upholds_fighter camp i) fun _ _ => preserves_pure trivial
    refine preserves_bind (play_upholds dizzy) fun dizz _ => ?_
    split
    · exact preserves_pure trivial
    · refine preserves_bind (play_upholds (upholds_modifyTb _)) fun _ _ => ?_
      exact randomCostSkill_upholds (castSkill_upholds living fuel) _ _ _ _ _

theorem doSummon_upholds (fuel : Nat) (camp : Camp) : FightUpholds tables (doSummon tables fuel camp) fun _ => True := by
  unfold doSummon
  refine preserves_bind (beginPhase_upholds _) fun _ _ => preserves_bind (preserves_mark fun _ stands => stands) fun _ _ => ?_
  exact preserves_forM (actSummon_upholds living fuel camp) _

end

omit [Number.Ordered N] in
theorem updateCond_upholds : FightUpholds tables (updateCond tables) fun _ => True := by
  have status (camp : Camp) (pos i : Nat) : FightUpholds tables (updateStatus tables camp pos i) fun _ => True := by
    unfold updateStatus
    refine preserves_bind (play_upholds (upholds_fighter camp pos)) fun there _ => ?_
    refine preserves_bind (play_upholds (upholds_known _)) fun status _ => ?_
    split
    · exact preserves_pure trivial
    · split
      · refine preserves_bind (preserves_mark fun _ stands => stands) fun _ _ => ?_
        refine preserves_bind (play_upholds (removeAt_upholds camp i i)) fun id _ => ?_
        exact preserves_modify fun _ stands => stands
      · exact play_upholds (upholds_modifyFighter camp fun fighter stands => stands.of_life rfl)
  have fighter (camp : Camp) (pos : Nat) : FightUpholds tables (updateFighter tables camp pos) fun _ => True := by
    unfold updateFighter
    refine preserves_bind (play_upholds (upholds_fighter? camp pos)) fun there _ => ?_
    split
    · exact preserves_pure trivial
    · exact preserves_forM (status camp pos) _
  exact preserves_forM (fun i => preserves_bind (fighter .me i) fun _ _ => fighter .obs i) _

theorem recordConditions_upholds (condition : ConditionType) : FightUpholds tables (recordConditions tables condition) fun _ => True :=
  preserves_bind (play_upholds (condAllProcess_upholds condition)) fun _ _ => preserves_forM (fun op => record_upholds (.buff op)) _

theorem allTurns_upholds (living : LivingMonsters tables) (fuel : Nat) : FightUpholds tables (allTurns tables fuel) fun _ => True := by
  refine preserves_forM (fun turn => ?_) _
  unfold doTurn
  refine preserves_bind (preserves_modify fun _ stands => stands) fun _ _ => preserves_bind
    (preserves_mark fun _ stands => stands) fun _ _ => ?_
  refine preserves_bind (recordConditions_upholds _) fun _ _ => preserves_bind preserves_read fun fight _ => ?_
  refine preserves_bind (doHero_upholds living fuel _) fun _ _ => preserves_bind (doHero_upholds living fuel _) fun _ _ => ?_
  refine preserves_bind (doSummon_upholds living fuel _) fun _ _ => preserves_bind (doSummon_upholds living fuel _) fun _ _ => ?_
  refine preserves_bind (recordConditions_upholds _) fun _ _ => preserves_bind updateCond_upholds fun _ _ => ?_
  exact preserves_bind (preserves_mark fun _ stands => stands) fun _ _ => play_upholds (checkEndFight_upholds none)

end

/-! ### Fights -/

/-- A creature that loses all of its maximum when a turn begins, and a hero behind it. -/
def witherTables : Tables Exact where
  tbMonsterBox id := if id = 1 then some fun pos => if pos = 1 then some 1 else if pos = 5 then some 2 else none else none
  tbMonster id :=
    if id = 1 then some { (duellist (some [1])).toInfo with comboid := none }
    else if id = 2 then some { (duellist none).toInfo with comboid := none }
    else none
  tbSkill := duelTables.tbSkill
  tbSkillResult := duelTables.tbSkillResult
  tbStatus id :=
    if id = 1 then
      some
        { effect := .reduce [(.maxHp, some (num 5))], targetactive := .all, triggercondition := some .turnBegin, duration := 0
          effectivetimes := 0 }
    else none
  tbStatusType _ := some ⟨.all, 0, 0⟩
  tbCharacter _ := none

def witherSide : Side Exact := ((createFromMonsterBox witherTables 1).getD none).getD .empty

theorem witherTables_living : LivingMonsters witherTables := by
  intro id row found
  have found : (if id = 1 then _ else if id = 2 then _ else none) = some row := found
  split at found
  · obtain rfl := Option.some.inj found
    show num 0 < num 5
    decide
  · split at found
    · obtain rfl := Option.some.inj found
      show num 0 < num 5
      decide
    · cases found

def Event.beginsPhase : Event N → Bool
  | .doHero _ => true
  | _ => false

end Tinygame.Fight
