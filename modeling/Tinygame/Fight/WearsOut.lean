import Tinygame.Fight.Faultless
import Tinygame.Fight.Told

/-!
# Statuses wear out

A fight is told by deeds on statuses, and along them a status of limited uses takes effect no more often than it may.
`condImmu` has no uses of an immunity to take: one of limited uses absorbs as many hits as come.
-/

namespace Tinygame.Fight
open Traced Scene
variable {N : Type} [Number N]

/-- What a step of the fight is about to make take effect. -/
def announcesEvent (tables : Tables N) : Event N → FightManager N → List Mark
  | .act act, fight => announces tables act fight.field
  | _, _ => []

/-- A hit meets no immunity of limited uses. -/
def MildEvent (tables : Tables N) : Event N → FightManager N → Prop
  | .act act, fight => MildAct tables act fight.field
  | _, _ => True

def fightScene (tables : Tables N) : Scene (Act N) (Field N) (Stop N) (Deed N) Mark (Event N) (FightManager N) :=
  (deedScene tables).widen FightManager.field (announcesEvent tables) (MildEvent tables)

abbrev FightPlayed {α : Type} (tables : Tables N) (m : Battle N α) (Q : α → Prop) : Prop := (fightScene tables).Plays m Q

section
variable {tables : Tables N} {α : Type} {Q : α → Prop}

theorem play_plays {m : Play N α} (plays : Played tables m Q) : FightPlayed tables (Battle.play m) Q := by
  show ((deedScene tables).widen FightManager.field (announcesEvent tables) (MildEvent tables)).Plays
    (within FightManager.field (fun field fight => { fight with field := field }) Event.act Halt.stop m) Q
  refine plays_within ?_ ?_ ?_ plays
  · exact fun _ _ => rfl
  · exact fun _ _ _ => rfl
  · exact fun _ _ _ mild => mild

theorem mark_plays {event : Event N} (nothing : ∀ fight, announcesEvent tables event fight = []) :
    FightPlayed tables (Traced.mark event) fun _ => True :=
  plays_mark nothing

/-- No status of the field is touched. -/
theorem still_plays {f : FightManager N → FightManager N} (same : ∀ fight, (f fight).field.fighters = fight.field.fighters) :
    FightPlayed tables (Traced.modify f) fun _ => True := by
  intro fight
  refine tells_deed (.rest (f fight).field) (fun _ => ?_) rfl (fun _ _ => ⟨rfl, rfl, trivial⟩) fun _ never => nomatch never
  exact SameUses.of_fighters (same fight)

theorem record_plays (entry : Entry N) : FightPlayed tables (Battle.record entry) fun _ => True := still_plays fun _ => rfl

/-! ### Casting -/

theorem takeEffect_plays (camp : Camp) (idx skillid : Nat) (rein : Bool) :
    FightPlayed tables (takeEffect tables camp idx skillid rein) fun _ => True := by
  unfold takeEffect
  refine plays_bind (play_plays (plays_fighter? camp idx)) fun there _ => ?_
  split
  · exact plays_pure trivial
  · refine plays_bind (play_plays (plays_known _)) fun row _ => plays_bind (play_plays (plays_known _)) fun result _ => ?_
    dsimp only
    refine plays_bind (play_plays (castConditions_plays camp idx _)) fun buff _ => ?_
    refine plays_bind (play_plays (plays_modifyTb _)) fun _ _ => plays_bind (mark_plays fun _ => rfl) fun _ _ => ?_
    refine plays_bind (play_plays (searchTarget_plays camp _ idx row _)) fun tbTarget _ => ?_
    split
    · exact plays_pure trivial
    · refine plays_bind (play_plays (plays_modifyTb _)) fun _ _ => ?_
      refine plays_bind (play_plays (hitTargets_plays camp _ idx row _ tbTarget)) fun tbTarget _ => ?_
      split
      · exact plays_pure trivial
      · refine plays_bind (mark_plays fun _ => rfl) fun _ _ => ?_
        refine plays_bind (play_plays (skillEffect_plays camp _ idx skillid result tbTarget rein)) fun _ _ => ?_
        exact plays_pure trivial

theorem endCast_plays : FightPlayed tables (endCast : Battle N Unit) fun _ => True :=
  plays_bind (still_plays fun _ => rfl) fun _ _ => plays_bind plays_read fun _ _ => record_plays _

/-! ### Choosing a skill -/

/-- A cast that is told by deeds. -/
def CastPlays (tables : Tables N) (cast : Cast N) : Prop :=
  ∀ camp idx skillid rein, FightPlayed tables (cast camp idx skillid rein) fun _ => True

section
variable {cast : Cast N} (plays : CastPlays tables cast)
include plays

theorem castNormalAtk_plays (camp : Camp) : FightPlayed tables (castNormalAtk cast camp) fun _ => True := by
  unfold castNormalAtk
  refine plays_bind (play_plays (plays_side camp)) fun there _ => ?_
  dsimp only
  split
  · exact plays_pure trivial
  · refine plays_bind (play_plays (random_plays _)) fun ret _ => plays_bind (play_plays (plays_known _)) fun idx _ => ?_
    refine plays_bind (play_plays (plays_fighter camp idx)) fun hero _ => plays_bind plays_read fun fight _ => ?_
    exact plays camp idx _ false

theorem randomCostSkill_plays (camp : Camp) (cost : Int) (type : TargetType) (pos : Nat) (rein : Bool) :
    FightPlayed tables (randomCostSkill cast camp cost type pos rein) fun _ => True := by
  cases type with
  | hero =>
    show FightPlayed tables (heroCostSkill cast camp cost rein) fun _ => True
    unfold heroCostSkill
    refine plays_bind (play_plays (plays_side camp)) fun there _ => ?_
    split
    · exact castNormalAtk_plays plays camp
    · refine plays_bind (play_plays (getRandomIndex_plays _)) fun skillIdx _ => ?_
      split
      · exact castNormalAtk_plays plays camp
      · refine plays_bind (play_plays (plays_known _)) fun entry _ => ?_
        refine plays_bind (play_plays (plays_fighter camp entry.2)) fun hero _ => ?_
        split
        · exact castNormalAtk_plays plays camp
        · exact plays camp entry.2 entry.1 rein
  | summon =>
    show FightPlayed tables (summonCostSkill cast camp pos rein) fun _ => True
    unfold summonCostSkill
    refine plays_bind (play_plays (plays_fighter camp pos)) fun summon _ => plays_bind plays_read fun fight _ => ?_
    dsimp only
    split
    · exact plays camp pos _ false
    · refine plays_bind (play_plays (getRandomIndex_plays _)) fun skillIdx _ => ?_
      split
      · exact plays camp pos _ false
      · exact plays_bind (play_plays (plays_known _)) fun skillid _ => plays camp pos skillid rein

theorem castQueued_plays : FightPlayed tables (castQueued cast) fun _ => True := by
  unfold castQueued
  refine plays_bind plays_read fun fight _ => ?_
  split
  · exact plays_pure trivial
  · rename_i nextSkill rest _
    refine plays_bind (play_plays (rest_plays fun _ => .of_fighters rfl)) fun _ _ => ?_
    refine plays_bind (mark_plays fun _ => rfl) fun _ _ => ?_
    split
    · exact plays _ _ _ _
    · exact randomCostSkill_plays plays _ _ _ _ _
    · exact plays_pure trivial

end

theorem castSkill_plays (fuel : Nat) : CastPlays tables (castSkill tables fuel) := by
  induction fuel with
  | zero => exact fun _ _ _ _ => plays_stop
  | succ fuel ih =>
    intro camp idx skillid rein
    unfold castSkill
    refine plays_bind (play_plays (plays_modifyTb _)) fun _ _ => plays_bind (mark_plays fun _ => rfl) fun _ _ => ?_
    refine plays_bind plays_read fun fight _ => ?_
    split
    · exact plays_bind (play_plays (plays_modifyTb _)) fun _ _ => endCast_plays
    · refine plays_bind (takeEffect_plays camp idx skillid rein) fun goOn _ => ?_
      refine plays_bind endCast_plays fun _ _ => ?_
      split
      · exact castQueued_plays ih
      · exact plays_pure trivial

/-! ### Turns -/

theorem beginPhase_plays (tb : SkillOp N) : FightPlayed tables (beginPhase tb) fun _ => True := still_plays fun _ => rfl

theorem doHero_plays (fuel : Nat) (camp : Camp) : FightPlayed tables (doHero tables fuel camp) fun _ => True := by
  unfold doHero
  refine plays_bind (beginPhase_plays _) fun _ _ => plays_bind (mark_plays fun _ => rfl) fun _ _ => ?_
  refine plays_bind (play_plays (randomSkillCost_plays camp)) fun cost _ => ?_
  refine plays_bind (play_plays (plays_modifyTb _)) fun _ _ => plays_bind (mark_plays fun _ => rfl) fun _ _ => ?_
  refine plays_bind (play_plays (plays_side camp)) fun there _ => ?_
  have act (comboIndex : Nat) : FightPlayed tables (if 0 < comboIndex then Traced.stop (.stop .error)
      else randomCostSkill (castSkill tables fuel) camp cost .hero 0 false) fun _ => True := by
    split
    · exact plays_stop
    · exact randomCostSkill_plays (castSkill_plays fuel) _ _ _ _ _
  dsimp only
  split
  · exact act 0
  · exact plays_bind (play_plays (getRandomIndex_plays _)) fun comboIndex _ => act comboIndex

theorem actSummon_plays (fuel : Nat) (camp : Camp) (i : Nat) : FightPlayed tables (actSummon tables fuel camp i) fun _ => True := by
  unfold actSummon
  refine plays_bind (play_plays (plays_fighter? camp i)) fun there _ => ?_
  split
  · exact plays_pure trivial
  · have dizzy : Played tables (condDizz camp i : Play N Bool) fun _ => True :=
      plays_bind (plays_fighter camp i) fun _ _ => plays_pure trivial
    refine plays_bind (play_plays dizzy) fun dizz _ => ?_
    split
    · exact plays_pure trivial
    · refine plays_bind (play_plays (plays_modifyTb _)) fun _ _ => ?_
      exact randomCostSkill_plays (castSkill_plays fuel) _ _ _ _ _

theorem doSummon_plays (fuel : Nat) (camp : Camp) : FightPlayed tables (doSummon tables fuel camp) fun _ => True := by
  unfold doSummon
  refine plays_bind (beginPhase_plays _) fun _ _ => plays_bind (mark_plays fun _ => rfl) fun _ _ => ?_
  exact plays_forM (actSummon_plays fuel camp) _

omit [Number N] in
theorem uses_modify (list : List (Status N)) (place : Nat) {f : Status N → Status N} (same : ∀ status, (f status).use = status.use) :
    (list.modify place f).map Status.use = list.map Status.use := by
  refine List.ext_getElem? fun other => ?_
  rw [List.getElem?_map, List.getElem?_map, List.getElem?_modify]
  cases list[other]? with
  | none => rfl
  | some status =>
    by_cases here : place = other
    · simp [here, same]
    · simp [here]

theorem updateCond_plays : FightPlayed tables (updateCond tables) fun _ => True := by
  have status (camp : Camp) (pos i : Nat) : FightPlayed tables (updateStatus tables camp pos i) fun _ => True := by
    unfold updateStatus
    refine plays_bind (play_plays (plays_fighter camp pos)) fun there _ => ?_
    refine plays_bind (play_plays (plays_known _)) fun status _ => ?_
    split
    · exact plays_pure trivial
    · split
      · refine plays_bind (mark_plays fun _ => rfl) fun _ _ => ?_
        refine plays_bind (play_plays (removeAt_plays camp i i)) fun id _ => ?_
        exact still_plays fun _ => rfl
      · exact play_plays (plays_modifyFighter camp pos fun fighter => uses_modify fighter.status (i - 1) fun _ => rfl)
  have fighter (camp : Camp) (pos : Nat) : FightPlayed tables (updateFighter tables camp pos) fun _ => True := by
    unfold updateFighter
    refine plays_bind (play_plays (plays_fighter? camp pos)) fun there _ => ?_
    split
    · exact plays_pure trivial
    · exact plays_forM (status camp pos) _
  exact plays_forM (fun i => plays_bind (fighter .me i) fun _ _ => fighter .obs i) _

theorem recordConditions_plays (condition : ConditionType) : FightPlayed tables (recordConditions tables condition) fun _ => True :=
  plays_bind (play_plays (condAllProcess_plays condition)) fun _ _ => plays_forM (fun op => record_plays (.buff op)) _

theorem allTurns_plays (fuel : Nat) : FightPlayed tables (allTurns tables fuel) fun _ => True := by
  refine plays_forM (fun turn => ?_) _
  unfold doTurn
  refine plays_bind (still_plays fun _ => rfl) fun _ _ => plays_bind (mark_plays fun _ => rfl) fun _ _ => ?_
  refine plays_bind (recordConditions_plays _) fun _ _ => plays_bind plays_read fun fight _ => ?_
  refine plays_bind (doHero_plays fuel _) fun _ _ => plays_bind (doHero_plays fuel _) fun _ _ => ?_
  refine plays_bind (doSummon_plays fuel _) fun _ _ => plays_bind (doSummon_plays fuel _) fun _ _ => ?_
  refine plays_bind (recordConditions_plays _) fun _ _ => plays_bind updateCond_plays fun _ _ => ?_
  exact plays_bind (mark_plays fun _ => rfl) fun _ _ => play_plays (checkEndFight_plays none)

end

/-! ### Fights -/

def FightManager.start (fight : FightManager N) : Course (Field N) Mark := ⟨fight.field, false, []⟩

/-- The deeds of the fight: they lead from its first field to its last, and what takes effect by them is what the points of
the fight announce. -/
def TellsFight (tables : Tables N) (fuel : Nat) (fight : FightManager N) (deeds : List (Deed N)) : Prop :=
  Along (fightScene tables).step (fightScene tables).Allows fight.start deeds ∧
    (fightScene tables).Reaches [] (allTurns tables fuel fight) fight.start (run (fightScene tables).step fight.start deeds) fun _ _ => True

/-- Two heroes that come with a status. -/
def borneTables (row : StatusRow Exact) : Tables Exact :=
  { duelTables with tbStatus := fun id => if id = 1 then some row else none, tbStatusType := fun _ => some ⟨.up, 0, 0⟩ }

def borneFight (row : StatusRow Exact) : FightManager Exact :=
  let side := (createFromPlayer (borneTables row) [duellist (some [1])]).getD .empty
  createManager side side 1

/-- It works for two turns. -/
def primedRow : StatusRow Exact where
  effect := .add [(.atk, some (num 1))]
  targetactive := .all
  triggercondition := some .turnBegin
  duration := 0
  effectivetimes := 2

/-- No hit meets an immunity. -/
def meek (tables : Tables Exact) : Event Exact → FightManager Exact → Bool
  | .act (.strike _ _ _ targetCamp target _), fight => (fight.field.ward tables .immunity targetCamp target).isEmpty
  | _, _ => true

theorem mildEvent_of_meek {tables : Tables Exact} {event : Event Exact} {fight : FightManager Exact}
    (met : meek tables event fight = true) :
    MildEvent tables event fight := by
  cases event with
  | act act =>
    cases act with
    | strike camp idx skillid targetCamp target effect =>
      have none' : fight.field.ward tables .immunity targetCamp target = [] := List.isEmpty_iff.mp met
      intro _ mark member
      rw [none'] at member
      cases member
    | _ => trivial
  | _ => trivial

/-- An immunity for one hit. -/
def immuneRow : StatusRow Exact where
  effect := .immunity
  targetactive := .all
  triggercondition := none
  duration := 0
  effectivetimes := 1

end Tinygame.Fight
