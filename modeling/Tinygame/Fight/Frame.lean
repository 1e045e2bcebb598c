import Tinygame.Fight.MiniFight

/-!
# What skills and statuses leave alone

The functions that work on the field change its fighters, the queue of skills, the seed, and what is recorded of the skill
under way. An invariant that none of these touches is kept by all of them.
-/

namespace Tinygame.Fight
open Traced Play
variable {N : Type} [Number N] {tables : Tables N} {α : Type}

/-- Which cast is recorded: the camp, the position and the skill. -/
def SkillOp.cast (tb : SkillOp N) : Camp × Option Nat × Option Nat := (tb.camp, tb.pos, tb.skillid)

/-- The invariant speaks of nothing that skills and statuses change. -/
structure Framed (terms : Terms (Act N) (Field N) (Stop N)) (R : Field N → Prop) : Prop where
  fighters : ∀ field fighters, R field → R { field with fighters := fighters }
  queue : ∀ field queue, R field → R { field with SkillQueue := queue }
  seed : ∀ field seed, R field → R { field with seed := seed }
  tb : ∀ field tb, tb.cast = field.tb.cast → R field → R { field with tb := tb }
  point : ∀ act field, R field → terms.always act field
  error : ∀ field, R field → terms.stopped .error field

variable {terms : Terms (Act N) (Field N) (Stop N)} {R : Field N → Prop} (framed : Framed terms R)
include framed

/-! ### Reading and writing -/

omit [Number N] in
theorem indexed_framed (value : Option α) : Preserves terms R (indexed value) fun _ => True :=
  preserves_require (fun _ _ => trivial) framed.error

omit [Number N] in
theorem error_framed {Q : α → Prop} : Preserves terms R (Traced.stop .error) Q := preserves_stop framed.error

omit [Number N] in
theorem mark_framed (act : Act N) : Preserves terms R (Traced.mark act) fun _ => True := preserves_mark (framed.point act)

omit [Number N] framed in
theorem readField : Preserves terms R (Traced.read : Play N (Field N)) fun _ => True := preserves_read.mono fun _ _ => trivial

omit [Number N] framed in
theorem fighter?_framed (camp : Camp) (pos : Nat) : Preserves terms R (fighter? camp pos) fun _ => True :=
  preserves_bind readField fun _ _ => preserves_pure trivial

omit [Number N] in
theorem fighter_framed (camp : Camp) (pos : Nat) : Preserves terms R (Play.fighter camp pos) fun _ => True :=
  preserves_bind (fighter?_framed camp pos) fun _ _ => indexed_framed framed _

omit [Number N] framed in
theorem side_framed (camp : Camp) : Preserves terms R (side camp : Play N (Side N)) fun _ => True :=
  preserves_bind readField fun _ _ => preserves_pure trivial

omit [Number N] in
theorem modifySide_framed (camp : Camp) (f : Side N → Side N) : Preserves terms R (modifySide camp f) fun _ => True :=
  preserves_modify fun field => framed.fighters field _

omit [Number N] in
theorem setPost_framed (camp : Camp) (pos : Nat) (post : Option (Post N)) : Preserves terms R (setPost camp pos post) fun _ => True :=
  modifySide_framed framed camp _

omit [Number N] in
theorem modifyFighter_framed (camp : Camp) (pos : Nat) (f : Fighter N → Fighter N) :
    Preserves terms R (modifyFighter camp pos f) fun _ => True :=
  modifySide_framed framed camp _

omit [Number N] in
theorem modifyTb_framed {f : SkillOp N → SkillOp N} (same : ∀ tb, (f tb).cast = tb.cast) :
    Preserves terms R (modifyTb f) fun _ => True :=
  preserves_modify fun field => framed.tb field _ (same field.tb)

omit [Number N] in
theorem modifyTarget_framed (target : Nat) (f : TargetOp N → TargetOp N) : Preserves terms R (modifyTarget target f) fun _ => True :=
  modifyTb_framed framed fun _ => rfl

omit [Number N] in
theorem random_framed (nEnd : Nat) : Preserves terms R (Play.random nEnd) fun _ => True :=
  preserves_bind readField fun _ _ => preserves_bind (preserves_modify fun field => framed.seed field _) fun _ _ => preserves_pure trivial

theorem getRandomIndex_framed (tbPro : List N) : Preserves terms R (Play.getRandomIndex tbPro) fun _ => True :=
  preserves_bind readField fun _ _ => preserves_bind (preserves_modify fun field => framed.seed field _) fun _ _ => preserves_pure trivial

theorem drawPercent_framed : Preserves terms R (drawPercent : Play N N) fun _ => True :=
  preserves_bind (random_framed framed 100) fun _ _ => preserves_pure trivial

/-! ### Statuses -/

omit [Number N] in
theorem removeAt_framed (camp : Camp) (idx pos : Nat) : Preserves terms R (removeAt tables camp idx pos) fun _ => True := by
  refine preserves_bind (fighter_framed framed camp idx) fun there _ => preserves_bind (indexed_framed framed _) fun removed _ => ?_
  exact preserves_bind (modifyFighter_framed framed camp idx _) fun _ _ => preserves_pure trivial

omit [Number N] in
theorem desStatusTime_framed (camp : Camp) (idx : Option Nat) (owner : Nat) (times : Option Int) (pos : Nat) :
    Preserves terms R (desStatusTime tables camp idx owner times pos) fun _ => True := by
  unfold desStatusTime
  split
  · exact preserves_pure trivial
  · split
    · refine preserves_bind (indexed_framed framed idx) fun idx _ => ?_
      exact preserves_bind (removeAt_framed framed camp idx pos) fun _ _ => preserves_pure trivial
    · exact preserves_bind (modifyFighter_framed framed camp owner _) fun _ _ => preserves_pure trivial

omit [Number N] in
theorem addSkillQueue_framed (cost : Option Int) (camp : Camp) (idx id : Option Nat) :
    Preserves terms R (addSkillQueue cost camp idx id) fun _ => True := by
  refine preserves_bind (indexed_framed framed idx) fun idx _ => preserves_bind (fighter_framed framed camp idx) fun there _ => ?_
  exact preserves_modify fun field => framed.queue field _

omit [Number N] in
theorem alterAttribute_framed (camp : Camp) (idx : Option Nat) (alter : Nat → Fighter N → Side N → Side N)
    (op : Nat → Fighter N → Side N → Fighter N → BuffOp N) : Preserves terms R (alterAttribute camp idx alter op) fun _ => True := by
  refine preserves_bind (indexed_framed framed idx) fun pos _ => preserves_bind (fighter_framed framed camp pos) fun there _ => ?_
  refine preserves_bind (side_framed camp) fun before _ => preserves_bind (modifySide_framed framed camp _) fun _ _ => ?_
  exact preserves_bind (fighter_framed framed camp pos) fun after _ => preserves_pure trivial

theorem addAttribute_framed (camp : Camp) (idx : Option Nat) (lvl : N) (op : BuffOp N) (entry : Attribute × Option N) :
    Preserves terms R (addAttribute camp idx lvl op entry) fun _ => True := by
  obtain ⟨attr, value⟩ := entry
  cases value with
  | none => exact preserves_pure trivial
  | some value => exact alterAttribute_framed framed camp idx _ _

theorem reduceAttribute_framed (camp : Camp) (idx : Option Nat) (lvl : N) (op : BuffOp N) (entry : Attribute × Option N) :
    Preserves terms R (reduceAttribute camp idx lvl op entry) fun _ => True := by
  obtain ⟨attr, value⟩ := entry
  cases value with
  | none => exact preserves_pure trivial
  | some value => exact alterAttribute_framed framed camp idx _ _

theorem activeStatus_framed (camp : Camp) (idx : Option Nat) (owner : Nat) (status : Status N) (statusPos : Nat) :
    Preserves terms R (activeStatus tables camp idx owner status statusPos) fun _ => True := by
  refine preserves_bind (mark_framed framed _) fun _ _ => preserves_bind (indexed_framed framed _) fun row _ => ?_
  refine preserves_bind (desStatusTime_framed framed camp idx owner status.times statusPos) fun dis _ => ?_
  dsimp only
  split
  · exact preserves_foldlM (fun op entry _ => addAttribute_framed framed camp idx status.lvl op entry) _ trivial
  · exact preserves_foldlM (fun op entry _ => reduceAttribute_framed framed camp idx status.lvl op entry) _ trivial
  · exact preserves_bind (addSkillQueue_framed framed none camp idx _) fun _ _ => preserves_pure trivial
  · exact preserves_pure trivial

theorem trigger_framed (condition : ConditionType) (camp : Camp) (owner : Nat) (idx : Option Nat) :
    Preserves terms R (trigger tables condition camp owner idx) fun _ => True := by
  refine preserves_bind (fighter?_framed camp owner) fun there _ => ?_
  split
  · exact preserves_pure trivial
  · refine preserves_foldlM (fun tb j _ => ?_) _ trivial
    refine preserves_bind (fighter_framed framed camp owner) fun there _ => preserves_bind (indexed_framed framed _) fun status _ => ?_
    refine preserves_bind (indexed_framed framed _) fun row _ => ?_
    split
    · exact preserves_bind (activeStatus_framed framed camp idx owner status j) fun _ _ => preserves_pure trivial
    · exact preserves_pure trivial

section
variable (condition : ConditionType) (camp : Camp)

theorem condMe_framed (idx : Nat) : Preserves terms R (condMe tables condition camp idx) fun _ => True :=
  trigger_framed framed condition camp idx none

theorem condCampAll_framed : Preserves terms R (condCampAll tables condition camp) fun _ => True :=
  preserves_foldlM (fun _ i _ => preserves_bind (trigger_framed framed condition camp i (some i)) fun _ _ => preserves_pure trivial) _ trivial

theorem condCampAllExceptMe_framed (idx : Nat) : Preserves terms R (condCampAllExceptMe tables condition camp idx) fun _ => True := by
  refine preserves_foldlM (fun _ i _ => ?_) _ trivial
  split
  · exact preserves_pure trivial
  · exact preserves_bind (trigger_framed framed condition camp i (some i)) fun _ _ => preserves_pure trivial

theorem condAllProcess_framed : Preserves terms R (condAllProcess tables condition) fun _ => True :=
  preserves_bind (condCampAll_framed framed condition .me) fun _ _ =>
    preserves_bind (condCampAll_framed framed condition .obs) fun _ _ => preserves_pure trivial

end

omit [Number N] in
theorem condImmu_framed (camp : Camp) (idx : Nat) : Preserves terms R (condImmu tables camp idx) fun _ => True := by
  refine preserves_bind (fighter_framed framed camp idx) fun there _ => ?_
  split
  · exact indexed_framed framed _
  · exact preserves_pure trivial

omit [Number N] in
theorem condDizz_framed (camp : Camp) (idx : Nat) : Preserves terms R (condDizz camp idx : Play N Bool) fun _ => True :=
  preserves_bind (fighter_framed framed camp idx) fun _ _ => preserves_pure trivial

omit [Number N] in
theorem condShield_framed (camp : Camp) (idx : Nat) (damage : N) : Preserves terms R (condShield tables camp idx damage) fun _ => True := by
  refine preserves_bind (mark_framed framed _) fun _ _ => preserves_bind (fighter_framed framed camp idx) fun there _ => ?_
  split
  · refine preserves_bind (indexed_framed framed _) fun shielded _ => ?_
    split
    · exact error_framed framed
    · exact preserves_pure trivial
  · exact preserves_pure trivial

theorem createStatus_framed (camp : Camp) (target : Nat) (ids : List Nat) (lvl : N) :
    Preserves terms R (createStatus tables camp target ids lvl) fun _ => True := by
  refine preserves_bind (fighter?_framed camp target) fun there _ => ?_
  split
  · exact preserves_pure trivial
  · refine preserves_foldlM (fun buff id _ => ?_) ids trivial
    split
    · exact preserves_pure trivial
    · refine preserves_bind (fighter_framed framed camp target) fun there _ => preserves_bind (indexed_framed framed _) fun added _ => ?_
      exact preserves_bind (modifyFighter_framed framed camp target _) fun _ _ => preserves_pure trivial

omit [Number N] in
theorem eraseLoop_framed (camp : Camp) (target : Nat) (dis : Int × Int) (places ret : List Nat) :
    Preserves terms R (eraseLoop tables camp target dis places ret) fun _ => True := by
  induction places generalizing ret with
  | nil => exact preserves_pure trivial
  | cons i rest ih =>
    refine preserves_bind (fighter_framed framed camp target) fun there _ => preserves_bind (indexed_framed framed _) fun status _ => ?_
    refine preserves_bind (indexed_framed framed _) fun yes _ => ?_
    have later (ret : List Nat) : Preserves terms R (if dis.2 ≠ 0 ∧ dis.2 ≤ ret.length then Pure.pure ret
        else eraseLoop tables camp target dis rest ret) fun _ => True := by
      split
      · exact preserves_pure trivial
      · exact ih ret
    split
    · refine preserves_bind (removeAt_framed framed camp target i) fun id _ => ?_
      refine preserves_bind (fighter_framed framed camp target) fun there _ => preserves_bind (indexed_framed framed _) fun _ _ => ?_
      exact later (ret ++ [id])
    · exact later ret

omit [Number N] in
theorem eraseStatus_framed (camp : Camp) (target : Nat) (dis : Int × Int) :
    Preserves terms R (eraseStatus tables camp target dis) fun _ => True := by
  refine preserves_bind (mark_framed framed _) fun _ _ => ?_
  split
  · exact preserves_bind (fighter_framed framed camp target) fun there _ => eraseLoop_framed framed camp target dis _ _
  · exact preserves_pure trivial

theorem judgeStatus_framed (result : SkillResultRow N) (targetCamp : Camp) (target : Nat) (lvl : N) (bCrit : Bool) :
    Preserves terms R (judgeStatus tables result targetCamp target lvl bCrit) fun _ => True := by
  unfold judgeStatus
  split
  · exact preserves_pure trivial
  · split
    · exact createStatus_framed framed targetCamp target _ lvl
    · exact preserves_pure trivial

/-! ### Targets -/

theorem randomSkillCost_framed (camp : Camp) : Preserves terms R (randomSkillCost camp : Play N Nat) fun _ => True :=
  preserves_bind readField fun _ _ => preserves_bind (indexed_framed framed _) fun _ _ => getRandomIndex_framed framed _

theorem calcBingo_framed (camp targetCamp : Camp) (myIdx : Nat) (bingoType : Bingo) (tbTarget : List Nat) :
    Preserves terms R (calcBingo camp targetCamp myIdx bingoType tbTarget : Play N _) fun _ => True := by
  unfold calcBingo
  split
  · exact preserves_pure trivial
  · refine preserves_foldlM (fun drawn target _ => ?_) _ trivial
    refine preserves_bind (fighter_framed framed camp myIdx) fun _ _ => preserves_bind (fighter_framed framed targetCamp target) fun _ _ => ?_
    exact preserves_bind (drawPercent_framed framed) fun _ _ => preserves_pure trivial

theorem searchFirst_framed (targetCamp : Camp) (idx : Nat) (row : SkillRow N) (effect : SkillEffect N) :
    Preserves terms R (searchFirst targetCamp idx row effect) fun _ => True := by
  refine preserves_bind readField fun field _ => ?_
  dsimp only
  split
  · exact preserves_pure trivial
  · exact preserves_bind (indexed_framed framed _) fun _ _ => preserves_pure trivial
  · exact preserves_pure trivial
  · exact preserves_pure trivial
  · exact indexed_framed framed _
  · exact indexed_framed framed _
  · exact indexed_framed framed _
  · exact indexed_framed framed _
  · split
    · exact preserves_pure trivial
    · exact preserves_bind (random_framed framed _) fun _ _ => preserves_pure trivial
  · exact indexed_framed framed _
  · exact preserves_pure trivial
  · exact preserves_pure trivial
  · exact preserves_pure trivial

theorem searchTarget_framed (camp targetCamp : Camp) (idx : Nat) (row : SkillRow N) (effect : SkillEffect N) :
    Preserves terms R (searchTarget camp targetCamp idx row effect) fun _ => True := by
  refine preserves_bind (searchFirst_framed framed targetCamp idx row effect) fun target _ => ?_
  split
  · exact preserves_bind (fighter_framed framed camp idx) fun _ _ => preserves_bind readField fun _ _ => preserves_pure trivial
  · exact preserves_pure trivial

theorem hitTargets_framed (camp targetCamp : Camp) (idx : Nat) (row : SkillRow N) (effect : SkillEffect N) (tbTarget : List Nat) :
    Preserves terms R (hitTargets camp targetCamp idx row effect tbTarget) fun _ => True := by
  unfold hitTargets
  split
  · refine preserves_bind (calcBingo_framed framed camp targetCamp idx _ tbTarget) fun drawn _ => ?_
    exact preserves_bind (preserves_forM (fun target => modifyTarget_framed framed target _) _) fun _ _ => preserves_pure trivial
  · exact preserves_pure trivial

theorem castConditions_framed (camp : Camp) (idx : Nat) (effect : SkillEffect N) :
    Preserves terms R (castConditions tables camp idx effect) fun _ => True := by
  refine preserves_bind (condMe_framed framed _ camp idx) fun _ _ => ?_
  refine preserves_bind (condCampAllExceptMe_framed framed _ camp idx) fun _ _ => preserves_bind (condCampAll_framed framed _ _) fun _ _ => ?_
  cases effect with
  | _ => exact preserves_bind (condCampAllExceptMe_framed framed _ camp idx) fun _ _ => preserves_pure trivial

/-! ### Damage -/

omit [Number N] in
theorem insertNowhere_framed (buff : List (BuffOp N)) : Preserves terms R (insertNowhere buff) fun _ => True := by
  unfold insertNowhere
  split
  · exact preserves_pure trivial
  · exact error_framed framed

theorem enterConditions_framed (camp : Camp) (pos : Nat) : Preserves terms R (enterConditions tables camp pos) fun _ => True :=
  preserves_bind (condMe_framed framed _ camp pos) fun _ _ => preserves_bind (condCampAllExceptMe_framed framed _ camp pos) fun _ _ =>
    preserves_bind (condCampAll_framed framed _ _) fun _ _ => preserves_pure trivial

theorem advance_framed (targetCamp : Camp) (target : Nat) (first : Fighter N) (rest : List (Fighter N)) :
    Preserves terms R (advance tables targetCamp target first rest) fun _ => True := by
  refine preserves_bind (setPost_framed framed targetCamp target _) fun _ _ => ?_
  refine preserves_bind (modifyTarget_framed framed target _) fun _ _ => preserves_bind (mark_framed framed _) fun _ _ => ?_
  refine preserves_bind (condMe_framed framed _ targetCamp target) fun own _ => preserves_bind (insertNowhere_framed framed own) fun _ _ => ?_
  refine preserves_bind (condCampAllExceptMe_framed framed _ targetCamp target) fun ours _ => ?_
  refine preserves_bind (insertNowhere_framed framed ours) fun _ _ => ?_
  exact preserves_bind (condCampAll_framed framed _ _) fun theirs _ => insertNowhere_framed framed theirs

theorem die_framed (targetCamp : Camp) (target : Nat) : Preserves terms R (die tables targetCamp target) fun _ => True := by
  refine preserves_bind (mark_framed framed _) fun _ _ => ?_
  refine preserves_bind (condCampAllExceptMe_framed framed _ targetCamp target) fun buff _ => ?_
  refine preserves_bind (insertNowhere_framed framed buff) fun _ _ => preserves_bind (side_framed targetCamp) fun there _ => ?_
  split
  · exact advance_framed framed targetCamp target _ _
  · exact setPost_framed framed targetCamp target none

theorem beDamage_framed (targetCamp : Camp) (target : Nat) : Preserves terms R (do
    Traced.mark (.survives targetCamp target)
    let buff ← condMe tables .beDamage targetCamp target
    insertNowhere buff) fun _ => True :=
  preserves_bind (mark_framed framed _) fun _ _ =>
    preserves_bind (condMe_framed framed .beDamage targetCamp target) fun buff _ => insertNowhere_framed framed buff

theorem hurtSummon_framed (targetCamp : Camp) (target : Nat) (damage : N) :
    Preserves terms R (hurtSummon tables targetCamp target damage) fun _ => True := by
  have ends (bDead : Bool) : Preserves terms R (modifyTarget target (fun op => { op with bDead := some bDead }) >>= fun _ => Pure.pure bDead)
      fun _ => True :=
    preserves_bind (modifyTarget_framed framed target _) fun _ _ => preserves_pure trivial
  refine preserves_bind (modifyTarget_framed framed target _) fun _ _ => ?_
  refine preserves_bind (modifyFighter_framed framed targetCamp target _) fun _ _ => ?_
  refine preserves_bind (fighter_framed framed targetCamp target) fun victim _ => ?_
  refine preserves_bind (modifyTarget_framed framed target _) fun _ _ => ?_
  dsimp only
  split
  · exact preserves_bind (die_framed framed targetCamp target) fun _ _ => ends _
  · refine preserves_bind (mark_framed framed _) fun _ _ => ?_
    refine preserves_bind (condMe_framed framed .beDamage targetCamp target) fun buff _ => ?_
    exact preserves_bind (insertNowhere_framed framed buff) fun _ _ => ends _

theorem hurtHero_framed (targetCamp : Camp) (target : Nat) (damage : N) :
    Preserves terms R (hurtHero tables targetCamp target damage) fun _ => True := by
  refine preserves_bind (modifyTarget_framed framed target _) fun _ _ => preserves_bind (side_framed targetCamp) fun before _ => ?_
  refine preserves_bind (modifySide_framed framed targetCamp _) fun _ _ => ?_
  refine preserves_bind (modifyTarget_framed framed target _) fun _ _ => ?_
  split
  · exact modifySide_framed framed targetCamp _
  · exact beDamage_framed framed targetCamp target

theorem hurt_framed (camp : Camp) (idx : Nat) (targetCamp : Camp) (target : Nat) (damage : N) (type : TargetType) :
    Preserves terms R (hurt tables camp idx targetCamp target damage type) fun _ => True := by
  unfold hurt
  refine preserves_bind (modifyTarget_framed framed target _) fun _ _ => preserves_bind (fighter_framed framed camp idx) fun attacker _ => ?_
  refine preserves_bind (fighter_framed framed targetCamp target) fun victim _ => preserves_bind (drawPercent_framed framed) fun rand _ => ?_
  refine preserves_bind (modifyTarget_framed framed target _) fun _ _ => ?_
  refine preserves_bind (condImmu_framed framed targetCamp target) fun bImmu _ => ?_
  refine preserves_bind (modifyTarget_framed framed target _) fun _ _ => ?_
  split
  · exact preserves_pure trivial
  · refine preserves_bind (condShield_framed framed targetCamp target _) fun shielded _ => ?_
    refine preserves_bind (modifyTarget_framed framed target _) fun _ _ => ?_
    split
    · exact preserves_pure trivial
    · refine preserves_bind (mark_framed framed _) fun _ _ => ?_
      split
      · exact preserves_bind (hurtSummon_framed framed targetCamp target _) fun _ _ => preserves_pure trivial
      · exact preserves_bind (hurtHero_framed framed targetCamp target _) fun _ _ => preserves_pure trivial

/-! ### Effects -/

/-- What stops a fight that is over, told apart from the rest. -/
def EndsChecked (terms : Terms (Act N) (Field N) (Stop N)) (R : Field N → Prop) : Prop :=
  Preserves terms R (checkEndSkill : Play N Unit) fun _ => True

theorem attack_framed (ends : EndsChecked terms R) (camp : Camp) (idx : Nat) (targetCamp : Camp) (target : Nat) (lvl arg1 arg2 arg3 : N) :
    Preserves terms R (attack tables camp idx targetCamp target lvl arg1 arg2 arg3) fun _ => True := by
  unfold attack
  refine preserves_bind (fighter_framed framed camp idx) fun _ _ => preserves_bind (fighter_framed framed targetCamp target) fun _ _ => ?_
  refine preserves_bind (hurt_framed framed camp idx targetCamp target _ _) fun _ _ => ?_
  exact preserves_bind ends fun _ _ => preserves_pure trivial

theorem kill_framed (ends : EndsChecked terms R) (camp : Camp) (idx : Nat) (targetCamp : Camp) (target : Nat) (lvl : N)
    (arg1 arg2 arg3 : N × N) : Preserves terms R (kill tables camp idx targetCamp target lvl arg1 arg2 arg3) fun _ => True := by
  have last (result : Hurt) : Preserves terms R (checkEndSkill >>= fun _ => Pure.pure result) fun _ => True :=
    preserves_bind ends fun _ _ => preserves_pure trivial
  unfold kill
  refine preserves_bind (fighter_framed framed camp idx) fun _ _ => preserves_bind (fighter_framed framed targetCamp target) fun _ _ => ?_
  dsimp only
  split
  · exact preserves_bind (hurt_framed framed camp idx targetCamp target _ _) fun result _ => last result
  · exact preserves_bind (hurt_framed framed camp idx targetCamp target _ _) fun result _ => last result

theorem curlEffect_framed (targetCamp : Camp) (target : Nat) (lvl arg1 arg2 : N) :
    Preserves terms R (curlEffect targetCamp target lvl arg1 arg2) fun _ => True := by
  refine preserves_bind (fighter_framed framed targetCamp target) fun victim _ => preserves_bind (side_framed targetCamp) fun before _ => ?_
  split
  · refine preserves_bind (mark_framed framed _) fun _ _ => preserves_bind (modifySide_framed framed targetCamp _) fun _ _ => ?_
    exact modifyTarget_framed framed target _
  · refine preserves_bind (mark_framed framed _) fun _ _ => preserves_bind (modifyFighter_framed framed targetCamp target _) fun _ _ => ?_
    exact modifyTarget_framed framed target _

omit [Number N] in
theorem mutil_framed (camp : Camp) (idx target : Nat) (rein : Bool) (costs : List Int) :
    Preserves terms R (mutil camp idx target rein costs) fun _ => True := by
  unfold mutil
  split
  · exact preserves_pure trivial
  · refine preserves_bind (preserves_forM (fun cost => addSkillQueue_framed framed (some cost) camp (some idx) none) _) fun _ _ => ?_
    exact modifyTarget_framed framed target _

theorem callEffect_framed (camp : Camp) (idx : Nat) (targetCamp : Camp) (target : Nat) (rein : Bool) (monsterid : Nat) :
    Preserves terms R (callEffect tables camp idx targetCamp target rein monsterid) fun _ => True := by
  have instead (success : Bool) : Preserves terms R (if (success || rein) = true then Pure.pure () else do
      let cost ← randomSkillCost camp
      addSkillQueue (some (cost : Int)) camp (some idx) none
      modifyTarget target fun op => { op with bRein := some true, skillcost := some (.inr cost) }) fun _ => True := by
    split
    · exact preserves_pure trivial
    · refine preserves_bind (randomSkillCost_framed framed camp) fun cost _ => ?_
      exact preserves_bind (addSkillQueue_framed framed _ camp _ _) fun _ _ => modifyTarget_framed framed target _
  unfold callEffect
  refine preserves_bind (modifyTarget_framed framed target _) fun _ _ => ?_
  dsimp only
  split
  · refine preserves_bind (side_framed targetCamp) fun there _ => ?_
    split
    · split
      · refine preserves_bind (modifyTarget_framed framed target _) fun _ _ => preserves_bind (indexed_framed framed _) fun summon _ => ?_
        exact preserves_bind (setPost_framed framed targetCamp target _) fun _ _ => instead false
      · exact instead false
    · refine preserves_bind (modifyTarget_framed framed target _) fun _ _ => preserves_bind (indexed_framed framed _) fun summon _ => ?_
      refine preserves_bind (setPost_framed framed targetCamp target _) fun _ _ => ?_
      refine preserves_bind (enterConditions_framed framed targetCamp target) fun buff _ => ?_
      exact preserves_bind (modifyTarget_framed framed target _) fun _ _ => instead true
  · exact instead false

theorem copyEffect_framed (camp : Camp) (idx : Nat) (targetCamp : Camp) (target : Nat) :
    Preserves terms R (copyEffect tables camp idx targetCamp target) fun _ => True := by
  unfold copyEffect
  split
  · refine preserves_bind (side_framed camp) fun own _ => ?_
    split
    · exact preserves_pure trivial
    · refine preserves_bind (side_framed targetCamp) fun theirs _ => preserves_bind (indexed_framed framed _) fun post _ => ?_
      split
      · refine preserves_bind (setPost_framed framed camp _ _) fun _ _ => preserves_bind (modifyTarget_framed framed target _) fun _ _ => ?_
        exact preserves_bind (enterConditions_framed framed camp _) fun buff _ => modifyTarget_framed framed target _
      · exact preserves_pure trivial
  · exact preserves_pure trivial

section
variable (ends : EndsChecked terms R)
include ends

theorem effectOn_framed (camp : Camp) (idx : Nat) (targetCamp : Camp) (target : Nat) (result : SkillResultRow N) (lvl : N)
    (rein : Bool) (effects : Effects) :
    Preserves terms R (effectOn tables camp idx targetCamp target result lvl rein effects) fun _ => True := by
  unfold effectOn
  split
  · exact preserves_bind (attack_framed framed ends _ _ _ _ _ _ _ _) fun _ _ => preserves_pure trivial
  · exact preserves_bind (attack_framed framed ends _ _ _ _ _ _ _ _) fun _ _ => preserves_pure trivial
  · exact preserves_bind (curlEffect_framed framed _ _ _ _ _) fun _ _ => preserves_pure trivial
  · exact preserves_bind (mutil_framed framed _ _ _ _ _) fun _ _ => preserves_pure trivial
  · exact preserves_bind (kill_framed framed ends _ _ _ _ _ _ _ _) fun _ _ => preserves_pure trivial
  · refine preserves_bind (modifySide_framed framed targetCamp _) fun _ _ => ?_
    exact preserves_bind (modifyTarget_framed framed target _) fun _ _ => preserves_pure trivial
  · exact preserves_bind (callEffect_framed framed _ _ _ _ _ _) fun _ _ => preserves_pure trivial
  · exact preserves_bind (copyEffect_framed framed _ _ _ _) fun _ _ => preserves_pure trivial
  · refine preserves_bind (judgeStatus_framed framed _ _ _ _ _) fun _ _ => ?_
    exact preserves_bind (modifyTarget_framed framed target _) fun _ _ => preserves_pure trivial
  · exact preserves_pure trivial

theorem strike_framed (camp : Camp) (idx skillid : Nat) (targetCamp : Camp) (result : SkillResultRow N) (lvl : N) (rein : Bool)
    (effects : Effects) (target : Nat) :
    Preserves terms R (strike tables camp idx skillid targetCamp result lvl rein effects target) fun _ => True := by
  unfold strike
  refine preserves_bind (mark_framed framed _) fun _ _ => ?_
  refine preserves_bind (effectOn_framed framed ends camp idx targetCamp target result lvl rein effects) fun effects _ => ?_
  split
  · refine preserves_bind (judgeStatus_framed framed _ _ _ _ _) fun buff _ => ?_
    refine preserves_bind (modifyTarget_framed framed target _) fun _ _ => ?_
    split
    · exact preserves_pure trivial
    · refine preserves_bind (eraseStatus_framed framed targetCamp target _) fun buff _ => ?_
      exact preserves_bind (modifyTarget_framed framed target _) fun _ _ => preserves_pure trivial
  · exact preserves_pure trivial

theorem skillEffect_framed (camp targetCamp : Camp) (idx skillid : Nat) (result : SkillResultRow N) (tbTarget : List Nat) (rein : Bool) :
    Preserves terms R (skillEffect tables camp targetCamp idx skillid result tbTarget rein) fun _ => True := by
  refine preserves_bind (fighter_framed framed camp idx) fun caster _ => preserves_bind (indexed_framed framed _) fun lvl _ => ?_
  refine preserves_bind (preserves_foldlM (Q := fun _ => True) (fun effects target _ =>
    strike_framed framed ends camp idx skillid targetCamp result lvl rein effects target) tbTarget trivial) fun effects _ => ?_
  have curls : Preserves terms R (if effects.bCurl = true then do
      let buff ← condCampAllExceptMe tables .ourCurl camp idx
      modifyTb fun tb => { tb with curlBuff := buff }
      checkEndSkill
      else checkEndSkill) fun _ => True := by
    split
    · refine preserves_bind (condCampAllExceptMe_framed framed _ _ _) fun _ _ => ?_
      exact preserves_bind (modifyTb_framed framed fun _ => rfl) fun _ _ => ends
    · exact ends
  dsimp only
  split
  · refine preserves_bind (condMe_framed framed _ _ _) fun _ _ => ?_
    exact preserves_bind (modifyTb_framed framed fun _ => rfl) fun _ _ => curls
  · exact curls

end

end Tinygame.Fight
