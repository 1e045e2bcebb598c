import Tinygame.Fight.LifeStatuses

/-!
# Skills and life

What damage, cures, calls and copies do to a field that stands, where each step spares the life there is.
-/

namespace Tinygame.Fight
open Traced Play
variable {N : Type} [Number N] {tables : Tables N} {s : Field N}

/-! ### Drawing -/

theorem random_upholds (nEnd : Nat) : Upholds tables (Play.random nEnd) fun _ => True :=
  preserves_bind preserves_read fun _ _ => preserves_bind (upholds_modify fun _ => rfl) fun _ _ => preserves_pure trivial

theorem getRandomIndex_upholds (tbPro : List N) : Upholds tables (Play.getRandomIndex tbPro) fun _ => True :=
  preserves_bind preserves_read fun _ _ => preserves_bind (upholds_modify fun _ => rfl) fun _ _ => preserves_pure trivial

theorem drawPercent_upholds : Upholds tables (drawPercent : Play N N) fun _ => True :=
  preserves_bind (random_upholds 100) fun _ _ => preserves_pure trivial

theorem randomSkillCost_upholds (camp : Camp) : Upholds tables (randomSkillCost camp) fun _ => True :=
  preserves_bind preserves_read fun _ _ => preserves_bind (upholds_known _) fun _ _ => getRandomIndex_upholds _

theorem calcBingo_upholds (camp targetCamp : Camp) (myIdx : Nat) (bingoType : Bingo) (tbTarget : List Nat) :
    Upholds tables (calcBingo camp targetCamp myIdx bingoType tbTarget) fun _ => True := by
  unfold calcBingo
  split
  · exact preserves_pure trivial
  · refine preserves_foldlM (fun drawn target _ => ?_) _ trivial
    refine preserves_bind (upholds_fighter camp myIdx) fun _ _ => preserves_bind (upholds_fighter targetCamp target) fun _ _ => ?_
    exact preserves_bind drawPercent_upholds fun _ _ => preserves_pure trivial

/-! ### The end of the fight -/

theorem checkEndFight_upholds (tb : Option (SkillOp N)) : Upholds tables (checkEndFight tb) fun _ => True := by
  have lose (camp : Camp) : Upholds tables (loseFight camp tb) fun _ => True := by
    refine preserves_bind preserves_read fun field _ => ?_
    split
    · exact preserves_bind (upholds_modify fun _ => rfl) fun _ _ => upholds_stop
    · exact preserves_pure trivial
  exact preserves_bind (lose .me) fun _ _ => lose .obs

theorem checkEndSkill_upholds : Upholds tables (checkEndSkill : Play N Unit) fun _ => True :=
  preserves_bind preserves_read fun _ _ => checkEndFight_upholds _

theorem judgeStatus_upholds (result : SkillResultRow N) (targetCamp : Camp) (target : Nat) (lvl : N) (bCrit : Bool) :
    Upholds tables (judgeStatus tables result targetCamp target lvl bCrit) fun _ => True := by
  unfold judgeStatus
  split
  · exact preserves_pure trivial
  · split
    · exact createStatus_upholds targetCamp target _ lvl
    · exact preserves_pure trivial

theorem insertNowhere_upholds (buff : List (BuffOp N)) : Upholds tables (insertNowhere buff) fun _ => True := by
  unfold insertNowhere
  split
  · exact preserves_pure trivial
  · exact upholds_stop

/-! ### Deaths -/

omit [Number N] in
theorem Side.setPost_modifyFighter (side : Side N) (pos : Nat) (f : Fighter N → Fighter N) (post : Option (Post N)) :
    (side.modifyFighter pos f).setPost pos post = side.setPost pos post := by
  unfold Side.modifyFighter Side.setPost
  exact congrArg (fun posts => { side with posts := posts }) (Function.update_idem ..)

/-- The next of the queue lives. -/
theorem Post.Stands.successor {pos : Nat} {post : Post N} (stands : post.Stands pos) :
    ∀ next, post.successor = some next → next.Stands pos := by
  intro next same
  unfold Post.successor at same
  split at same
  · cases same
  · rename_i first rest queue
    obtain rfl := Option.some.inj same
    have follows : ∀ follower ∈ first :: rest, follower.type = .summon ∧ follower.Alive := queue ▸ stands.next
    obtain ⟨type, alive⟩ := follows first (List.mem_cons_self ..)
    have few := stands.few
    rw [queue, List.length_cons] at few
    exact ⟨⟨fun _ => alive, fun hero => nomatch type.symm.trans hero⟩,
      fun follower member => follows follower (List.mem_cons_of_mem _ member), Nat.le_of_succ_le few⟩

/-- The rest of a death that nobody waits for: the next of the queue comes, or the position is left. -/
def replace (tables : Tables N) (targetCamp : Camp) (target : Nat) : Play N Unit := do
  let there ← side targetCamp
  match (there.posts target).map Post.next with
  | some (first :: rest) => advance tables targetCamp target first rest
  | _ => setPost targetCamp target none

theorem die_quiet {camp : Camp} {pos : Nat} (spares : SparesAct tables (.dies camp pos) s) :
    die tables camp pos s = (do Traced.mark (Act.dies camp pos); replace tables camp pos) s := by
  have nothing : condCampAllExceptMe tables .ourDead camp pos s = ⟨[], s, .ok []⟩ :=
    run_of_holds fun _ => condCampAllExceptMe_quiet spares
  unfold die
  rw [run_bind_ok (run_mark ..), run_bind_ok (run_mark ..), run_bind_ok nothing]
  rfl

variable [Number.Ordered N]

theorem enterConditions_upholds (camp : Camp) (pos : Nat) : Upholds tables (enterConditions tables camp pos) fun _ => True :=
  preserves_bind (condMe_upholds _ camp pos) fun _ _ => preserves_bind (condCampAllExceptMe_upholds _ camp pos) fun _ _ =>
    preserves_bind (condCampAll_upholds _ _) fun _ _ => preserves_pure trivial

/-- Where nobody waits for the death, the next of the queue takes the place of the dead, or nobody does. -/
theorem die_stands {camp : Camp} {target : Nat} (fallen : Fallen camp target s) :
    Holds (standing tables) (die tables camp target) s fun _ s' => s'.Stands := by
  unfold die
  refine holds_mark_bind fun spares => ⟨fallen, holds_bind (condCampAllExceptMe_quiet spares) ?_⟩
  rintro _ _ ⟨rfl, rfl⟩
  refine holds_pure_bind (holds_side_bind ?_)
  obtain ⟨⟨post, found, -, -⟩, succeed⟩ := fallen
  unfold Field.succeed at succeed
  rw [found] at succeed ⊢
  rw [Option.bind_some] at succeed
  unfold Post.successor at succeed
  cases queue : post.next with
  | nil =>
    rw [queue] at succeed
    simp only [Option.map_some, queue]
    exact holds_modify succeed
  | cons first rest =>
    rw [queue] at succeed
    simp only [Option.map_some, queue]
    unfold advance
    refine holds_modify_bind (Preserves.holds (P := fun _ => True) ?_ succeed)
    refine preserves_bind (upholds_modifyTarget _ _) fun _ _ => ?_
    refine preserves_bind (preserves_mark fun _ stands => stands) fun _ _ => ?_
    refine preserves_bind (condMe_upholds _ camp target) fun own _ => preserves_bind (insertNowhere_upholds own) fun _ _ => ?_
    refine preserves_bind (condCampAllExceptMe_upholds _ camp target) fun ours _ => ?_
    refine preserves_bind (insertNowhere_upholds ours) fun _ _ => ?_
    exact preserves_bind (condCampAll_upholds _ _) fun theirs _ => insertNowhere_upholds theirs

/-! ### Damage -/

theorem lessHp_le {hp damage : N} (life : num 0 ≤ hp) (harm : num 0 ≤ damage) : lessHp hp damage ≤ hp := by
  unfold lessHp
  have less := Number.Ordered.sub_le hp damage harm
  split
  · exact life
  · exact less

omit [Number N] [Number.Ordered N] in
theorem Field.setSide_setSide (field : Field N) (camp : Camp) (first second : Side N) :
    (field.setSide camp first).setSide camp second = field.setSide camp second := by
  unfold Field.setSide
  exact congrArg (fun fighters => { field with fighters := fighters }) (Function.update_idem ..)

section
variable {camp : Camp} {target : Nat} {post : Post N} {f : Fighter N → Fighter N}

omit [Number.Ordered N] in
/-- A creature has lost all its life. -/
theorem fallen_modifyFighter (stands : s.Stands) (there : (s.fighters camp).posts target = some post)
    (dead : (f post.fighter).nHP ≤ num 0) : Fallen camp target (s.setSide camp ((s.fighters camp).modifyFighter target f)) := by
  have stood := (stands camp).posts target post there
  have after : ((s.fighters camp).modifyFighter target f).posts target = some { post with fighter := f post.fighter } := by
    unfold Side.modifyFighter
    rw [Side.setPost_posts_self, there]
    rfl
  refine ⟨⟨_, (congrArg (Side.posts · target) (Field.setSide_self ..)).trans after, dead, stood.few⟩, ?_⟩
  unfold Field.succeed
  rw [Field.setSide_setSide, Field.setSide_self, after, Side.setPost_modifyFighter]
  exact stands.setSide ((stands camp).setPost stood.successor)

omit [Number.Ordered N] in
theorem stands_modifyFighter (stands : s.Stands) (there : (s.fighters camp).posts target = some post)
    (alive : (f post.fighter).Stands target) : (s.setSide camp ((s.fighters camp).modifyFighter target f)).Stands := by
  refine stands.setSide ((stands camp).modifyFighter fun fighter found => ?_)
  obtain ⟨same, here, rfl⟩ := Side.fighterAt_eq_some.mp found
  exact Option.some.inj (there.symm.trans here) ▸ alive

end

/-- A creature that is hurt survives, or its position is left to the next. -/
theorem hurtSummon_upholds (targetCamp : Camp) (target : Nat) {damage : N} (harm : num 0 ≤ damage) :
    Upholds tables (hurtSummon tables targetCamp target damage) fun _ => True := by
  unfold hurtSummon
  refine preserves_bind (upholds_modifyTarget target _) fun _ _ s stands => ?_
  have ends (bDead : Bool) : Upholds tables (modifyTarget target (fun op => { op with bDead := some bDead }) >>= fun _ => Pure.pure bDead)
      fun _ => True :=
    preserves_bind (upholds_modifyTarget target _) fun _ _ => preserves_pure trivial
  refine holds_modify_bind ?_
  cases there : (s.fighters targetCamp).posts target with
  | none =>
    have nobody (fighter : Fighter N) (found : (s.fighters targetCamp).fighterAt target = some fighter) : False := by
      obtain ⟨post, here, -⟩ := Side.fighterAt_eq_some.mp found
      exact nomatch there.symm.trans here
    have still : (s.setSide targetCamp ((s.fighters targetCamp).modifyFighter target fun fighter =>
        { fighter with nHP := lessHp fighter.nHP damage })).Stands :=
      stands.setSide ((stands targetCamp).modifyFighter fun fighter found => (nobody fighter found).elim)
    refine holds_bind (holds_fighter_found targetCamp target still) ?_
    rintro victim _ ⟨rfl, found⟩
    have found : ((s.setSide targetCamp ((s.fighters targetCamp).modifyFighter target _)).fighters targetCamp).fighterAt target =
        some victim := found
    rw [Field.setSide_self, Side.fighterAt_modifyFighter, if_pos rfl] at found
    obtain ⟨fighter, here, -⟩ := Option.map_eq_some_iff.mp found
    exact (nobody fighter here).elim
  | some post =>
    have stood := (stands targetCamp).posts target post there
    have found : (((s.fighters targetCamp).modifyFighter target fun fighter =>
        { fighter with nHP := lessHp fighter.nHP damage }).fighterAt target) =
          some { post.fighter with nHP := lessHp post.fighter.nHP damage } := by
      rw [Side.fighterAt_modifyFighter, if_pos rfl, Side.fighterAt, there]
      rfl
    refine holds_fighter_bind ((congrArg (Side.fighterAt · target) (Field.setSide_self ..)).trans found) (holds_modify_bind ?_)
    dsimp only
    by_cases dead : lessHp post.fighter.nHP damage ≤ num 0
    · have fallen := fallen_modifyFighter (f := fun fighter => { fighter with nHP := lessHp fighter.nHP damage }) stands there dead
      rw [decide_eq_true dead, if_pos rfl]
      exact holds_bind (die_stands ⟨fallen.dead, fallen.succeed⟩) fun _ s' stands => ends true s' stands
    · have alive : ({ post.fighter with nHP := lessHp post.fighter.nHP damage } : Fighter N).Stands target := by
        refine ⟨fun summon => ⟨?_, ?_⟩, stood.fighter.back⟩
        · grind
        · obtain ⟨life, most⟩ := stood.fighter.alive summon
          exact Std.le_trans (lessHp_le (by grind) harm) most
      have stands' := stands_modifyFighter (f := fun fighter => { fighter with nHP := lessHp fighter.nHP damage }) stands there alive
      rw [decide_eq_false dead, if_neg nofun]
      have goOn : Upholds tables (do
          Traced.mark (.survives targetCamp target)
          let buff ← condMe tables .beDamage targetCamp target
          insertNowhere buff
          modifyTarget target fun op => { op with bDead := some false }
          Pure.pure false) fun _ => True :=
        preserves_bind (preserves_mark fun _ stands => stands) fun _ _ =>
          preserves_bind (condMe_upholds .beDamage targetCamp target) fun buff _ =>
            preserves_bind (insertNowhere_upholds buff) fun _ _ => ends false
      exact goOn _ stands'

theorem hurtHero_upholds (targetCamp : Camp) (target : Nat) {damage : N} (harm : num 0 ≤ damage) :
    Upholds tables (hurtHero tables targetCamp target damage) fun _ => True := by
  unfold hurtHero
  refine preserves_bind (upholds_modifyTarget target _) fun _ _ s stands => ?_
  refine holds_side_bind (holds_modify_bind (holds_modify_bind ?_))
  have stood := stands targetCamp
  have less := Number.Ordered.sub_le (s.fighters targetCamp).totalHP damage harm
  have full := Std.le_trans stood.least stood.most
  have left (totalHP : N) (least : num 0 ≤ totalHP) (most : totalHP ≤ (s.fighters targetCamp).MaxHP) :
      (s.setSide targetCamp { s.fighters targetCamp with totalHP := totalHP }).Stands :=
    stands.setSide ⟨least, most, stood.posts⟩
  dsimp only
  split
  · refine holds_modify ⟨trivial, ?_⟩
    have none' := left (num 0) (Std.le_refl _) full
    intro camp
    have there := none' camp
    by_cases same : camp = targetCamp
    · subst same
      simp only [Field.setSide, Function.update_self] at there ⊢
      exact there
    · simp only [Field.setSide, Function.update_of_ne same] at there ⊢
      exact there
  · rename_i alive
    have goOn : Upholds tables (do
        Traced.mark (.survives targetCamp target)
        let buff ← condMe tables .beDamage targetCamp target
        insertNowhere buff) fun _ => True :=
      preserves_bind (preserves_mark fun _ stands => stands) fun _ _ =>
        preserves_bind (condMe_upholds .beDamage targetCamp target) fun buff _ => insertNowhere_upholds buff
    exact goOn _ (left _ (by grind) (Std.le_trans less stood.most))

theorem hurt_upholds (camp : Camp) (idx : Nat) (targetCamp : Camp) (target : Nat) (damage : N) (type : TargetType) :
    Upholds tables (hurt tables camp idx targetCamp target damage type) fun _ => True := by
  unfold hurt
  refine preserves_bind (upholds_modifyTarget target _) fun _ _ => preserves_bind (upholds_fighter camp idx) fun attacker _ => ?_
  refine preserves_bind (upholds_fighter targetCamp target) fun victim _ => preserves_bind drawPercent_upholds fun rand _ => ?_
  refine preserves_bind (upholds_modifyTarget target _) fun _ _ => preserves_bind (condImmu_upholds targetCamp target) fun bImmu _ => ?_
  refine preserves_bind (upholds_modifyTarget target _) fun _ _ => ?_
  split
  · exact preserves_pure trivial
  · refine preserves_bind (condShield_upholds targetCamp target _) fun shielded _ => ?_
    refine preserves_bind (upholds_modifyTarget target _) fun _ _ => ?_
    split
    · exact preserves_pure trivial
    · rename_i harm
      have harm : num 0 ≤ Number.floor shielded.1 := by grind
      refine preserves_bind (preserves_mark fun _ stands => stands) fun _ _ => ?_
      split
      · exact preserves_bind (hurtSummon_upholds targetCamp target harm) fun _ _ => preserves_pure trivial
      · exact preserves_bind (hurtHero_upholds targetCamp target harm) fun _ _ => preserves_pure trivial

theorem attack_upholds (camp : Camp) (idx : Nat) (targetCamp : Camp) (target : Nat) (lvl arg1 arg2 arg3 : N) :
    Upholds tables (attack tables camp idx targetCamp target lvl arg1 arg2 arg3) fun _ => True := by
  unfold attack
  refine preserves_bind (upholds_fighter camp idx) fun _ _ => preserves_bind (upholds_fighter targetCamp target) fun _ _ => ?_
  refine preserves_bind (hurt_upholds camp idx targetCamp target _ _) fun _ _ => ?_
  exact preserves_bind checkEndSkill_upholds fun _ _ => preserves_pure trivial

theorem kill_upholds (camp : Camp) (idx : Nat) (targetCamp : Camp) (target : Nat) (lvl : N) (arg1 arg2 arg3 : N × N) :
    Upholds tables (kill tables camp idx targetCamp target lvl arg1 arg2 arg3) fun _ => True := by
  have ends (result : Hurt) : Upholds tables (checkEndSkill >>= fun _ => Pure.pure result) fun _ => True :=
    preserves_bind checkEndSkill_upholds fun _ _ => preserves_pure trivial
  unfold kill
  refine preserves_bind (upholds_fighter camp idx) fun _ _ => preserves_bind (upholds_fighter targetCamp target) fun _ _ => ?_
  dsimp only
  split
  · exact preserves_bind (hurt_upholds camp idx targetCamp target _ _) fun result _ => ends result
  · exact preserves_bind (hurt_upholds camp idx targetCamp target _ _) fun result _ => ends result

/-! ### Cures -/

omit [Number.Ordered N] in
theorem curl_either {P : N → Prop} {curHP maxHP curlValue : N} (cured : P (curHP + curlValue)) (most : P maxHP) :
    P (curl curHP maxHP curlValue) := by
  unfold curl
  split
  · exact most
  · exact cured

theorem curl_le (curHP maxHP curlValue : N) : curl curHP maxHP curlValue ≤ maxHP := by
  unfold curl
  split <;> grind

/-- A cure that does not take more than there is. -/
theorem curlEffect_upholds (targetCamp : Camp) (target : Nat) (lvl arg1 arg2 : N) :
    Upholds tables (curlEffect targetCamp target lvl arg1 arg2) fun _ => True := by
  intro s stands
  unfold curlEffect
  refine holds_bind (holds_fighter_found targetCamp target stands) ?_
  rintro victim _ ⟨rfl, found⟩
  obtain ⟨post, there, rfl⟩ := Side.fighterAt_eq_some.mp found
  have stood := stands targetCamp
  refine holds_side_bind ?_
  split
  · rename_i hero
    refine holds_mark_bind fun spares => ⟨stands, ?_⟩
    have least := spares post.fighter found
    rw [if_pos hero] at least
    refine holds_modify_bind (upholds_modifyTarget target _ _ (stands.setSide ⟨?_, curl_le .., stood.posts⟩))
    exact curl_either least (Std.le_trans stood.least stood.most)
  · rename_i creature
    refine holds_mark_bind fun spares => ⟨stands, ?_⟩
    have least := spares post.fighter found
    rw [if_neg creature] at least
    have before := (stood.posts target post there).fighter
    refine holds_modify_bind (upholds_modifyTarget target _ _ (stands_modifyFighter stands there ?_))
    refine ⟨fun summon => ⟨?_, curl_le ..⟩, before.back⟩
    obtain ⟨life, most⟩ := before.alive summon
    exact curl_either least (Std.lt_of_lt_of_le life most)

/-! ### Skills that follow, calls and copies -/

omit [Number.Ordered N] in
theorem mutil_upholds (camp : Camp) (idx target : Nat) (rein : Bool) (costs : List Int) :
    Upholds tables (mutil camp idx target rein costs) fun _ => True := by
  unfold mutil
  split
  · exact preserves_pure trivial
  · refine preserves_bind (preserves_forM (fun cost => addSkillQueue_upholds (some cost) camp (some idx) none) _) fun _ _ => ?_
    exact upholds_modifyTarget target _

/-- A creature that comes alive, and behind no more than the queue holds. -/
theorem callEffect_upholds (living : LivingMonsters tables) (camp : Camp) (idx : Nat) (targetCamp : Camp) (target : Nat) (rein : Bool)
    (monsterid : Nat) : Upholds tables (callEffect tables camp idx targetCamp target rein monsterid) fun _ => True := by
  have instead (success : Bool) : Upholds tables (if (success || rein) = true then Pure.pure () else do
      let cost ← randomSkillCost camp
      addSkillQueue (some (cost : Int)) camp (some idx) none
      modifyTarget target fun op => { op with bRein := some true, skillcost := some (.inr cost) }) fun _ => True := by
    split
    · exact preserves_pure trivial
    · refine preserves_bind (randomSkillCost_upholds camp) fun cost _ => ?_
      exact preserves_bind (addSkillQueue_upholds _ camp _ _) fun _ _ => upholds_modifyTarget target _
  have called : Upholds tables (indexed (initSummon tables monsterid)) fun summon => summon.type = .summon ∧ summon.Alive :=
    upholds_indexed fun _ ran => initSummon_alive living ran
  unfold callEffect
  refine preserves_bind (upholds_modifyTarget target _) fun _ _ => ?_
  dsimp only
  split
  · refine preserves_bind (upholds_side targetCamp) fun there stood => ?_
    split
    · rename_i post found
      have before := stood.posts target post found
      split
      · rename_i room
        refine preserves_bind (upholds_modifyTarget target _) fun _ _ => preserves_bind called fun summon new => ?_
        refine preserves_bind (upholds_setPost targetCamp fun next same => ?_) fun _ _ => instead false
        obtain rfl := Option.some.inj same
        refine ⟨before.fighter, fun follower member => ?_, ?_⟩
        · rcases List.mem_append.mp member with member | last
          · exact before.next follower member
          · exact List.mem_singleton.mp last ▸ new
        · rw [List.length_append]
          exact room
      · exact instead false
    · refine preserves_bind (upholds_modifyTarget target _) fun _ _ => preserves_bind called fun summon new => ?_
      refine preserves_bind (upholds_setPost targetCamp fun next same => ?_) fun _ _ => ?_
      · obtain rfl := Option.some.inj same
        exact ⟨⟨fun _ => new.2, fun hero => nomatch new.1.symm.trans hero⟩, fun _ member => absurd member List.not_mem_nil,
          (by decide : 0 + 1 ≤ MAX_SUMMON_QUEUE_NUM)⟩
      · refine preserves_bind (enterConditions_upholds targetCamp target) fun buff _ => ?_
        exact preserves_bind (upholds_modifyTarget target _) fun _ _ => instead true
  · exact instead false

/-- A copy lives as what is copied does. -/
theorem copyEffect_upholds (camp : Camp) (idx : Nat) (targetCamp : Camp) (target : Nat) :
    Upholds tables (copyEffect tables camp idx targetCamp target) fun _ => True := by
  unfold copyEffect
  split
  · refine preserves_bind (upholds_side camp) fun own _ => ?_
    split
    · exact preserves_pure trivial
    · refine preserves_bind (upholds_side targetCamp) fun theirs stood => ?_
      refine preserves_bind (upholds_indexed fun post there => stood.posts target post there) fun post before => ?_
      split
      · rename_i summon
        have copied : post.Stands (idx - P_HEAD_RIGHT) :=
          ⟨⟨before.fighter.alive, fun hero => nomatch summon.symm.trans hero⟩, before.next, before.few⟩
        refine preserves_bind (upholds_setPost camp fun next same => Option.some.inj same ▸ copied) fun _ _ => ?_
        refine preserves_bind (upholds_modifyTarget target _) fun _ _ => ?_
        exact preserves_bind (enterConditions_upholds camp _) fun buff _ => upholds_modifyTarget target _
      · exact preserves_pure trivial
  · exact preserves_pure trivial

/-! ### A skill -/

theorem effectOn_upholds (living : LivingMonsters tables) (camp : Camp) (idx : Nat) (targetCamp : Camp) (target : Nat)
    (result : SkillResultRow N) (lvl : N) (rein : Bool) (effects : Effects) :
    Upholds tables (effectOn tables camp idx targetCamp target result lvl rein effects) fun _ => True := by
  unfold effectOn
  split
  · exact preserves_bind (attack_upholds _ _ _ _ _ _ _ _) fun _ _ => preserves_pure trivial
  · exact preserves_bind (attack_upholds _ _ _ _ _ _ _ _) fun _ _ => preserves_pure trivial
  · exact preserves_bind (curlEffect_upholds _ _ _ _ _) fun _ _ => preserves_pure trivial
  · exact preserves_bind (mutil_upholds _ _ _ _ _) fun _ _ => preserves_pure trivial
  · exact preserves_bind (kill_upholds _ _ _ _ _ _ _ _) fun _ _ => preserves_pure trivial
  · refine preserves_bind (upholds_modifySide targetCamp fun _ stands => ⟨stands.least, stands.most, stands.posts⟩) fun _ _ => ?_
    exact preserves_bind (upholds_modifyTarget target _) fun _ _ => preserves_pure trivial
  · exact preserves_bind (callEffect_upholds living _ _ _ _ _ _) fun _ _ => preserves_pure trivial
  · exact preserves_bind (copyEffect_upholds _ _ _ _) fun _ _ => preserves_pure trivial
  · refine preserves_bind (judgeStatus_upholds _ _ _ _ _) fun _ _ => ?_
    exact preserves_bind (upholds_modifyTarget target _) fun _ _ => preserves_pure trivial
  · exact preserves_pure trivial

theorem strike_upholds (living : LivingMonsters tables) (camp : Camp) (idx skillid : Nat) (targetCamp : Camp) (result : SkillResultRow N)
    (lvl : N) (rein : Bool) (effects : Effects) (target : Nat) :
    Upholds tables (strike tables camp idx skillid targetCamp result lvl rein effects target) fun _ => True := by
  unfold strike
  refine preserves_bind (preserves_mark fun _ stands => stands) fun _ _ => ?_
  refine preserves_bind (effectOn_upholds living camp idx targetCamp target result lvl rein effects) fun effects _ => ?_
  split
  · refine preserves_bind (judgeStatus_upholds _ _ _ _ _) fun buff _ => preserves_bind (upholds_modifyTarget target _) fun _ _ => ?_
    split
    · exact preserves_pure trivial
    · refine preserves_bind (eraseStatus_upholds targetCamp target _) fun buff _ => ?_
      exact preserves_bind (upholds_modifyTarget target _) fun _ _ => preserves_pure trivial
  · exact preserves_pure trivial

theorem skillEffect_upholds (living : LivingMonsters tables) (camp targetCamp : Camp) (idx skillid : Nat) (result : SkillResultRow N)
    (tbTarget : List Nat) (rein : Bool) :
    Upholds tables (skillEffect tables camp targetCamp idx skillid result tbTarget rein) fun _ => True := by
  unfold skillEffect
  refine preserves_bind (upholds_fighter camp idx) fun caster _ => preserves_bind (upholds_known _) fun lvl _ => ?_
  refine preserves_bind (preserves_foldlM (Q := fun _ => True) (fun effects target _ =>
    strike_upholds living camp idx skillid targetCamp result lvl rein effects target) tbTarget trivial) fun effects _ => ?_
  have ends : Upholds tables (checkEndSkill : Play N Unit) fun _ => True := checkEndSkill_upholds
  have curls : Upholds tables (if effects.bCurl = true then do
      let buff ← condCampAllExceptMe tables .ourCurl camp idx
      modifyTb fun tb => { tb with curlBuff := buff }
      checkEndSkill
      else checkEndSkill) fun _ => True := by
    split
    · exact preserves_bind (condCampAllExceptMe_upholds _ _ _) fun _ _ => preserves_bind (upholds_modifyTb _) fun _ _ => ends
    · exact ends
  dsimp only
  split
  · exact preserves_bind (condMe_upholds _ _ _) fun _ _ => preserves_bind (upholds_modifyTb _) fun _ _ => curls
  · exact curls

end Tinygame.Fight
