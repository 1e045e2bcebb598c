import Tinygame.Fight.Uses

/-!
# Skills and conditions told as deeds

Every function that works on the field is told by the deeds on statuses that it comes to. What they make take effect is
what its points announce.
-/

namespace Tinygame.Fight
open Traced Scene
variable {N : Type} [Number N] {tables : Tables N} {t : Field N} {α β : Type} {owed : List Mark}

/-- Told by deeds, from every field. -/
abbrev Played (tables : Tables N) (m : Play N α) (Q : α → Prop) : Prop := (deedScene tables).Plays m Q

/-! ### Without a deed on a status -/

theorem tells_of_silent {m : Play N α} {post : α → Field N → Prop}
    (holds : Holds (silent (SameUses t)) m t fun result s => SameUses t s ∧ post result s) : (deedScene tables).Tells [] m t post := by
  have nothing : (deedScene tables).announced (m t).points = [] := congrArg (deedScene tables).announced (points_of_silent holds)
  refine tells_deed (.rest (m t).state) (fun _ => ?_) rfl (fun result ran => ?_) fun reason ran => ?_
  · rcases ends_of_silent holds with ⟨_, -, same, -⟩ | ⟨_, -, same⟩
    · exact same
    · exact same
  · rcases ends_of_silent holds with ⟨result', ran', -, met⟩ | ⟨reason, ran', -⟩
    · rw [ran'] at ran
      obtain rfl := Except.ok.inj ran
      exact ⟨rfl, nothing.symm, met⟩
    · rw [ran'] at ran
      cases ran
  · exact ⟨[], nothing, Nat.zero_le _⟩

theorem tells_fighter_found (camp : Camp) (pos : Nat) :
    (deedScene tables).Tells [] (Play.fighter camp pos) t fun there t' => t' = t ∧ (t.fighters camp).fighterAt pos = some there :=
  tells_of_silent ((holds_fighter_found camp pos (SameUses.refl t)).mono fun _ _ found => ⟨found.1 ▸ .refl t, found⟩)

theorem tells_indexed_found (value : Option α) :
    (deedScene tables).Tells [] (Play.indexed value) t fun result t' => t' = t ∧ value = some result :=
  tells_of_silent ((holds_indexed_found value (SameUses.refl t)).mono fun _ _ found => ⟨found.1 ▸ .refl t, found⟩)

theorem rest_plays {f : Field N → Field N} (same : ∀ field, SameUses field (f field)) :
    Played tables (Traced.modify f) fun _ => True :=
  fun t => tells_of_silent (holds_modify ⟨same t, trivial⟩)

theorem plays_known (value : Option α) : Played tables (Play.indexed value) fun _ => True :=
  fun t => (plays_require value t).mono fun _ _ _ => trivial

theorem plays_fighter? (camp : Camp) (pos : Nat) : Played tables (Play.fighter? camp pos) fun _ => True :=
  plays_bind plays_read fun _ _ => plays_pure trivial

theorem plays_fighter (camp : Camp) (pos : Nat) : Played tables (Play.fighter camp pos) fun _ => True :=
  plays_bind (plays_fighter? camp pos) fun _ _ => plays_known _

theorem plays_side (camp : Camp) : Played tables (side camp) fun _ => True := plays_bind plays_read fun _ _ => plays_pure trivial

theorem plays_modifyTb (f : SkillOp N → SkillOp N) : Played tables (Play.modifyTb f) fun _ => True :=
  rest_plays fun _ => .of_fighters rfl

theorem plays_modifyTarget (target : Nat) (f : TargetOp N → TargetOp N) : Played tables (Play.modifyTarget target f) fun _ => True :=
  plays_modifyTb _

theorem plays_modifySide (camp : Camp) {f : Side N → Side N} (same : ∀ side, (f side).uses = side.uses) :
    Played tables (Play.modifySide camp f) fun _ => True :=
  rest_plays fun field => sameUses_setSide (same (field.fighters camp))

omit [Number N] in
theorem uses_modifyFighter (side : Side N) (pos : Nat) {f : Fighter N → Fighter N} (same : ∀ fighter, (f fighter).uses = fighter.uses) :
    (side.modifyFighter pos f).uses = side.uses := by
  funext other
  unfold Side.uses Side.modifyFighter
  by_cases here : other = pos
  · subst here
    rw [Side.setPost_posts_self, Option.map_map]
    exact Option.map_congr fun post _ => congrArg (·, _) (same post.fighter)
  · rw [Side.setPost_posts_ne _ _ here]

theorem plays_modifyFighter (camp : Camp) (pos : Nat) {f : Fighter N → Fighter N} (same : ∀ fighter, (f fighter).uses = fighter.uses) :
    Played tables (Play.modifyFighter camp pos f) fun _ => True :=
  plays_modifySide camp fun side => uses_modifyFighter side pos same

theorem addSkillQueue_plays (cost : Option Int) (camp : Camp) (idx id : Option Nat) :
    Played tables (addSkillQueue cost camp idx id) fun _ => True :=
  fun t => tells_of_silent ((addSkillQueue_same t cost camp idx id t (.refl t)).mono fun _ _ kept => ⟨kept.2, trivial⟩)

/-! ### Drawing -/

theorem random_plays (nEnd : Nat) : Played tables (Play.random nEnd) fun _ => True :=
  plays_bind plays_read fun _ _ => plays_bind (rest_plays fun _ => .of_fighters rfl) fun _ _ => plays_pure trivial

theorem getRandomIndex_plays (tbPro : List N) : Played tables (Play.getRandomIndex tbPro) fun _ => True :=
  plays_bind plays_read fun _ _ => plays_bind (rest_plays fun _ => .of_fighters rfl) fun _ _ => plays_pure trivial

theorem drawPercent_plays : Played tables (drawPercent : Play N N) fun _ => True :=
  plays_bind (random_plays 100) fun _ _ => plays_pure trivial

theorem randomSkillCost_plays (camp : Camp) : Played tables (randomSkillCost camp) fun _ => True :=
  plays_bind plays_read fun _ _ => plays_bind (plays_known _) fun _ _ => getRandomIndex_plays _

theorem calcBingo_plays (camp targetCamp : Camp) (myIdx : Nat) (bingoType : Bingo) (tbTarget : List Nat) :
    Played tables (calcBingo camp targetCamp myIdx bingoType tbTarget) fun _ => True := by
  unfold calcBingo
  split
  · exact plays_pure trivial
  · refine plays_foldlM (fun drawn target => ?_) _ _
    refine plays_bind (plays_fighter camp myIdx) fun _ _ => plays_bind (plays_fighter targetCamp target) fun _ _ => ?_
    exact plays_bind drawPercent_plays fun _ _ => plays_pure trivial

/-! ### The end of the fight -/

theorem checkEndFight_plays (tb : Option (SkillOp N)) : Played tables (checkEndFight tb) fun _ => True := by
  have lose (camp : Camp) : Played tables (loseFight camp tb) fun _ => True := by
    refine plays_bind plays_read fun field _ => ?_
    split
    · exact plays_bind (rest_plays fun _ => .of_fighters rfl) fun _ _ => plays_stop
    · exact plays_pure trivial
  exact plays_bind (lose .me) fun _ _ => lose .obs

theorem checkEndSkill_plays : Played tables (checkEndSkill : Play N Unit) fun _ => True :=
  plays_bind plays_read fun _ _ => checkEndFight_plays _

theorem insertNowhere_plays (buff : List (BuffOp N)) : Played tables (insertNowhere buff) fun _ => True := by
  unfold insertNowhere
  split
  · exact plays_pure trivial
  · exact plays_stop

/-! ### Single deeds -/

section
variable {m : Play N α} (deed : Deed N) (same : deed.run tables = m >>= fun _ => Pure.pure ())
include same

theorem run_deed (t : Field N) : (deed.run tables t).state = (m t).state ∧ (deed.run tables t).result.isOk = (m t).result.isOk := by
  rw [same]
  exact (run_discard m t).2

/-- A deed by which nothing takes effect. -/
theorem tells_of_deed (quiet : (m t).points = []) (nothing : deed.strikes tables t = []) (allowed : deed.allowed tables t) :
    (deedScene tables).Tells [] m t fun _ _ => True := by
  obtain ⟨state, isOk⟩ := run_deed deed same t
  have none' : (deedScene tables).announced (m t).points = [] := congrArg (deedScene tables).announced quiet
  refine tells_deed deed (fun _ => allowed) state (fun result ran => ⟨?_, ?_, trivial⟩) fun reason _ => ⟨[], ?_, Nat.zero_le _⟩
  · exact isOk.trans (congrArg Except.isOk ran)
  · exact nothing.trans none'.symm
  · exact none'.trans (nothing.symm.trans (List.append_nil _).symm)

end

theorem removeAt_plays (camp : Camp) (idx pos : Nat) : Played tables (removeAt tables camp idx pos) fun _ => True :=
  fun t => tells_of_deed (.remove camp idx pos) rfl (points_of_silent (removeAt_turns tables t camp idx pos)) rfl trivial

theorem addAt_plays (camp : Camp) (pos statusid : Nat) (lvl : N) : Played tables (addAt tables camp pos statusid lvl) fun _ => True := by
  intro t
  have quiet : Holds (silent fun _ => True) (addAt tables camp pos statusid lvl) t fun _ _ => True :=
    holds_bind (holds_fighter_found camp pos trivial) fun _ _ _ => holds_bind (holds_indexed_found _ trivial) fun _ _ _ =>
      holds_modify_bind (holds_pure trivial)
  exact tells_of_deed (.add camp pos statusid lvl) rfl (points_of_silent quiet) rfl trivial

omit [Number N] in
theorem run_fighter {camp : Camp} {pos : Nat} {there : Fighter N} (found : (t.fighters camp).fighterAt pos = some there) :
    Play.fighter camp pos t = ⟨[], t, .ok there⟩ := by
  unfold Play.fighter
  rw [run_bind_ok (rfl : Play.fighter? camp pos t = ⟨[], t, .ok _⟩), found]
  rfl

/-- What takes effect is announced. -/
theorem activeStatus_tells {camp : Camp} {idx : Option Nat} {owner pos : Nat} {there : Fighter N} {status : Status N}
    (found : (t.fighters camp).fighterAt owner = some there) (listed : there.status[pos - 1]? = some status)
    (named : idx = some owner ∨ idx = none) :
    (deedScene tables).Tells [] (activeStatus tables camp idx owner status pos) t fun _ _ => True := by
  have index : (if idx.isNone then none else some owner) = idx := by
    rcases named with rfl | rfl
    · rfl
    · rfl
  have ran : activeAt tables camp owner pos idx.isNone t =
      (activeStatus tables camp idx owner status pos >>= fun _ => Pure.pure ()) t := by
    unfold activeAt
    rw [run_bind_ok (run_fighter found), listed, run_bind_ok (rfl : Play.indexed (some status) t = ⟨[], t, .ok status⟩), index]
    rfl
  have points : (activeStatus tables camp idx owner status pos t).points = [(.active camp idx owner pos, t)] := by
    obtain ⟨rest, same, worn⟩ := activeStatus_worn tables camp found listed fun other is =>
      named.elim (fun at' => (Option.some.inj (at'.symm.trans is)).symm) fun none' => nomatch none'.symm.trans is
    rw [same, run_bind_ok (run_mark ..), points_of_silent worn]
    rfl
  obtain ⟨-, state, isOk⟩ := run_discard (activeStatus tables camp idx owner status pos) t
  rw [← ran] at state isOk
  have strikes : (Deed.active camp owner pos idx.isNone).strikes tables t =
      if (activeAt tables camp owner pos idx.isNone t).result.isOk then [⟨camp, owner, pos - 1⟩] else [] := rfl
  refine tells_deed (.active camp owner pos idx.isNone) (fun _ => trivial) state
    (fun result ended => ⟨?_, ?_, trivial⟩) fun reason ended => ?_
  · exact isOk.trans (congrArg Except.isOk ended)
  · have yes := isOk.trans (congrArg Except.isOk ended)
    show (Deed.active camp owner pos idx.isNone).strikes tables t = _
    rw [strikes, yes, points]
    rfl
  · have no := isOk.trans (congrArg Except.isOk ended)
    refine ⟨[⟨camp, owner, pos - 1⟩], ?_, Nat.le_refl _⟩
    show _ = (Deed.active camp owner pos idx.isNone).strikes tables t ++ _
    rw [strikes, no, points]
    rfl

/-! ### Conditions -/

theorem trigger_plays (condition : ConditionType) (camp : Camp) (owner : Nat) {idx : Option Nat} (named : idx = some owner ∨ idx = none) :
    Played tables (trigger tables condition camp owner idx) fun _ => True := by
  unfold trigger
  refine plays_bind (plays_fighter? camp owner) fun there _ => ?_
  split
  · exact plays_pure trivial
  · refine plays_foldlM (fun tb j t => ?_) _ _
    refine tells_bind (tells_fighter_found camp owner) ?_
    rintro there t ⟨rfl, found⟩
    refine tells_bind (tells_indexed_found _) ?_
    rintro status t ⟨rfl, listed⟩
    refine tells_bind (tells_indexed_found _) ?_
    rintro row t ⟨rfl, -⟩
    split
    · exact tells_bind (activeStatus_tells found listed named) fun _ _ _ => tells_pure trivial
    · exact tells_pure trivial

variable (condition : ConditionType) (camp : Camp)

theorem condMe_plays (idx : Nat) : Played tables (condMe tables condition camp idx) fun _ => True :=
  trigger_plays condition camp idx (.inr rfl)

theorem condCampAll_plays : Played tables (condCampAll tables condition camp) fun _ => True :=
  plays_foldlM (fun _ i => plays_bind (trigger_plays condition camp i (.inl rfl)) fun _ _ => plays_pure trivial) _ _

theorem condCampAllExceptMe_plays (idx : Nat) : Played tables (condCampAllExceptMe tables condition camp idx) fun _ => True := by
  refine plays_foldlM (fun _ i => ?_) _ _
  split
  · exact plays_pure trivial
  · exact plays_bind (trigger_plays condition camp i (.inl rfl)) fun _ _ => plays_pure trivial

theorem condAllProcess_plays : Played tables (condAllProcess tables condition) fun _ => True :=
  plays_bind (condCampAll_plays condition .me) fun _ _ => plays_bind (condCampAll_plays condition .obs) fun _ _ => plays_pure trivial

/-! ### Hits -/

/-- The immunity that is owed absorbs the hit. -/
theorem condImmu_tells {camp : Camp} {idx : Nat} (mild : Mild tables t camp idx) :
    (deedScene tables).Tells (t.ward tables .immunity camp idx) (condImmu tables camp idx) t fun _ _ => True := by
  have quiet : Holds (silent fun _ => True) (condImmu tables camp idx) t fun _ _ => True := by
    refine holds_bind (holds_fighter_found camp idx trivial) fun there _ _ => ?_
    split
    · exact holds_require (fun _ _ => trivial) fun _ => trivial
    · exact holds_pure trivial
  have none' : (deedScene tables).announced (condImmu tables camp idx t).points = [] :=
    congrArg (deedScene tables).announced (points_of_silent quiet)
  obtain ⟨state, isOk⟩ := run_deed (m := condImmu tables camp idx) (.immu camp idx) rfl t
  have all : t.ward tables .immunity camp idx ++ (deedScene tables).announced (condImmu tables camp idx t).points =
      (Deed.immu camp idx).strikes tables t ++ [] := congrArg (t.ward tables .immunity camp idx ++ ·) none'
  refine tells_deed (.immu camp idx) (fun _ => mild) state (fun result ended => ⟨?_, ?_, trivial⟩) fun _ _ => ⟨[], all, Nat.zero_le _⟩
  · exact isOk.trans (congrArg Except.isOk ended)
  · exact ((List.append_nil _).symm.trans all.symm)

theorem condShield_plays (camp : Camp) (idx : Nat) (damage : N) : Played tables (condShield tables camp idx damage) fun _ => True := by
  intro t
  obtain ⟨rest, same, quiet⟩ : ∃ rest : Play N (N × Bool), (condShield tables camp idx damage = do Traced.mark (.shield camp idx); rest) ∧
      Holds (silent fun _ => True) rest t fun _ _ => True := by
    refine ⟨_, rfl, holds_bind (holds_fighter_found camp idx trivial) fun there _ _ => ?_⟩
    split
    · refine holds_bind (holds_indexed_found _ trivial) fun shielded _ _ => ?_
      split
      · exact holds_stop trivial
      · exact holds_pure trivial
    · exact holds_pure trivial
  have points : (condShield tables camp idx damage t).points = [(.shield camp idx, t)] := by
    rw [same, run_bind_ok (run_mark ..), points_of_silent quiet]
    rfl
  have announced : (deedScene tables).announced (condShield tables camp idx damage t).points = t.ward tables .shield camp idx := by
    rw [points]
    exact List.append_nil _
  obtain ⟨state, isOk⟩ := run_deed (m := condShield tables camp idx damage) (.shield camp idx damage) rfl t
  have strikes : (Deed.shield camp idx damage).strikes tables t =
      if (condShield tables camp idx damage t).result.isOk then t.ward tables .shield camp idx else [] := rfl
  refine tells_deed (.shield camp idx damage) (fun _ => trivial) state (fun result ended => ⟨?_, ?_, trivial⟩) fun reason ended => ?_
  · exact isOk.trans (congrArg Except.isOk ended)
  · show (Deed.shield camp idx damage).strikes tables t = _
    rw [strikes, ended, announced]
    rfl
  · refine ⟨t.ward tables .shield camp idx, ?_, ward_length tables t .shield camp idx⟩
    show _ = (Deed.shield camp idx damage).strikes tables t ++ _
    rw [strikes, ended, announced]
    rfl

/-! ### Statuses of a skill -/

theorem createStatus_plays (camp : Camp) (target : Nat) (ids : List Nat) (lvl : N) :
    Played tables (createStatus tables camp target ids lvl) fun _ => True := by
  refine plays_bind (plays_fighter? camp target) fun there _ => ?_
  split
  · exact plays_pure trivial
  · refine plays_foldlM (fun buff id => ?_) ids _
    split
    · exact plays_pure trivial
    · have added : Played tables
        (addAt tables camp target id lvl >>= fun yes => Pure.pure (if yes then buff ++ [id] else buff)) fun _ => True :=
        plays_bind (addAt_plays camp target id lvl) fun _ _ => plays_pure trivial
      unfold addAt at added
      simp only [bind_assoc, pure_bind] at added
      exact added

theorem judgeStatus_plays (result : SkillResultRow N) (targetCamp : Camp) (target : Nat) (lvl : N) (bCrit : Bool) :
    Played tables (judgeStatus tables result targetCamp target lvl bCrit) fun _ => True := by
  unfold judgeStatus
  split
  · exact plays_pure trivial
  · split
    · exact createStatus_plays targetCamp target _ lvl
    · exact plays_pure trivial

theorem eraseLoop_plays (camp : Camp) (target : Nat) (dis : Int × Int) (places ret : List Nat) :
    Played tables (eraseLoop tables camp target dis places ret) fun _ => True := by
  induction places generalizing ret with
  | nil => exact plays_pure trivial
  | cons i rest ih =>
    refine plays_bind (plays_fighter camp target) fun there _ => plays_bind (plays_known _) fun status _ => ?_
    refine plays_bind (plays_known _) fun yes _ => ?_
    have later (ret : List Nat) : Played tables (if dis.2 ≠ 0 ∧ dis.2 ≤ ret.length then Pure.pure ret
        else eraseLoop tables camp target dis rest ret) fun _ => True := by
      split
      · exact plays_pure trivial
      · exact ih ret
    split
    · refine plays_bind (removeAt_plays camp target i) fun id _ => ?_
      refine plays_bind (plays_fighter camp target) fun there _ => plays_bind (plays_known _) fun _ _ => ?_
      exact later (ret ++ [id])
    · exact later ret

theorem eraseStatus_plays (camp : Camp) (target : Nat) (dis : Int × Int) :
    Played tables (eraseStatus tables camp target dis) fun _ => True := by
  refine plays_bind (plays_mark fun _ => rfl) fun _ _ => ?_
  split
  · exact plays_bind (plays_fighter camp target) fun there _ => eraseLoop_plays camp target dis _ _
  · exact plays_pure trivial

/-! ### Deaths -/

theorem enterConditions_plays (camp : Camp) (pos : Nat) : Played tables (enterConditions tables camp pos) fun _ => True :=
  plays_bind (condMe_plays _ camp pos) fun _ _ => plays_bind (condCampAllExceptMe_plays _ camp pos) fun _ _ =>
    plays_bind (condCampAll_plays _ _) fun _ _ => plays_pure trivial

/-- Another comes to the position. -/
theorem setPost_tells {camp : Camp} {pos : Nat} {post : Option (Post N)} (deed : Deed N)
    (same : deed.run tables t = Play.setPost camp pos post t) (nothing : deed.strikes tables t = []) (allowed : deed.allowed tables t) :
    (deedScene tables).Tells [] (Play.setPost camp pos post) t fun _ _ => True := by
  refine tells_deed deed (fun _ => allowed) (congrArg Trail.state same)
    (fun result _ => ⟨?_, nothing, trivial⟩) fun _ _ => ⟨[], ?_, Nat.zero_le _⟩
  · exact congrArg (fun trail => trail.result.isOk) same
  · exact (congrArg (· ++ []) nothing).symm

theorem advance_tells {camp : Camp} {pos : Nat} {first : Fighter N} {rest : List (Fighter N)}
    (queue : ((t.fighters camp).posts pos).map Post.next = some (first :: rest)) :
    (deedScene tables).Tells [] (advance tables camp pos first rest) t fun _ _ => True := by
  have same : (Deed.advance camp pos).run tables t = Play.setPost camp pos (some ⟨first, rest⟩) t := by
    show advanceAt camp pos t = _
    unfold advanceAt
    rw [run_bind_ok (rfl : side camp t = ⟨[], t, .ok (t.fighters camp)⟩), queue]
    rfl
  refine tells_bind (setPost_tells (.advance camp pos) same rfl trivial) fun _ t _ => ?_
  refine plays_bind (plays_modifyTarget pos _) (fun _ _ => ?_) t
  refine plays_bind (plays_mark fun _ => rfl) fun _ _ => ?_
  refine plays_bind (condMe_plays _ camp pos) fun own _ => plays_bind (insertNowhere_plays own) fun _ _ => ?_
  refine plays_bind (condCampAllExceptMe_plays _ camp pos) fun ours _ => plays_bind (insertNowhere_plays ours) fun _ _ => ?_
  exact plays_bind (condCampAll_plays _ _) fun theirs _ => insertNowhere_plays theirs

theorem die_plays (camp : Camp) (pos : Nat) : Played tables (die tables camp pos) fun _ => True := by
  refine plays_bind (plays_mark fun _ => rfl) fun _ _ => ?_
  refine plays_bind (condCampAllExceptMe_plays _ camp pos) fun buff _ => plays_bind (insertNowhere_plays buff) fun _ _ => ?_
  refine fun t => tells_run_bind (rfl : side camp t = ⟨[], t, .ok (t.fighters camp)⟩) ?_
  split
  · rename_i first rest queue
    exact advance_tells queue
  · exact setPost_tells (.leave camp pos) rfl rfl trivial

/-! ### Damage -/

theorem hurtSummon_plays (targetCamp : Camp) (target : Nat) (damage : N) :
    Played tables (hurtSummon tables targetCamp target damage) fun _ => True := by
  unfold hurtSummon
  refine plays_bind (plays_modifyTarget target _) fun _ _ => plays_bind (plays_modifyFighter targetCamp target fun _ => rfl) fun _ _ => ?_
  refine plays_bind (plays_fighter targetCamp target) fun victim _ => plays_bind (plays_modifyTarget target _) fun _ _ => ?_
  have ends : Played tables (Play.modifyTarget target (fun op => { op with bDead := some (decide (victim.nHP ≤ num 0)) }) >>= fun _ =>
      Pure.pure (decide (victim.nHP ≤ num 0))) fun _ => True :=
    plays_bind (plays_modifyTarget target _) fun _ _ => plays_pure trivial
  dsimp only
  split
  · exact plays_bind (die_plays targetCamp target) fun _ _ => ends
  · refine plays_bind (plays_mark fun _ => rfl) fun _ _ => plays_bind (condMe_plays .beDamage targetCamp target) fun buff _ => ?_
    exact plays_bind (insertNowhere_plays buff) fun _ _ => ends

theorem hurtHero_plays (targetCamp : Camp) (target : Nat) (damage : N) :
    Played tables (hurtHero tables targetCamp target damage) fun _ => True := by
  unfold hurtHero
  refine plays_bind (plays_modifyTarget target _) fun _ _ => plays_bind (plays_side targetCamp) fun before _ => ?_
  refine plays_bind (plays_modifySide targetCamp fun _ => rfl) fun _ _ => plays_bind (plays_modifyTarget target _) fun _ _ => ?_
  split
  · exact plays_modifySide targetCamp fun _ => rfl
  · refine plays_bind (plays_mark fun _ => rfl) fun _ _ => plays_bind (condMe_plays .beDamage targetCamp target) fun buff _ => ?_
    exact insertNowhere_plays buff

/-- No fighter is touched, and no point passed. -/
def Calm (m : Play N α) : Prop := ∀ t, Holds (silent fun s => s.fighters = t.fighters) m t fun _ s => s.fighters = t.fighters

section
omit [Number N]

theorem calm_modify {f : Field N → Field N} (same : ∀ field, (f field).fighters = field.fighters) : Calm (Traced.modify f) :=
  fun t => holds_modify (same t)

theorem calm_bind {m : Play N α} {next : α → Play N β} (first : Calm m) (rest : ∀ result, Calm (next result)) : Calm (m >>= next) := by
  intro t
  refine holds_bind (first t) fun result s same => ?_
  have goesOn := rest result s
  rw [same] at goesOn
  exact goesOn

theorem calm_fighter (camp : Camp) (pos : Nat) : Calm (Play.fighter camp pos : Play N (Fighter N)) :=
  fun _ => (holds_fighter_found camp pos rfl).mono fun _ _ found => congrArg Field.fighters found.1

theorem calm_read : Calm (Traced.read : Play N (Field N)) := fun _ _ => ⟨fun _ member => absurd member List.not_mem_nil, rfl⟩

theorem calm_random (nEnd : Nat) : Calm (Play.random nEnd : Play N Nat) :=
  calm_bind calm_read fun _ => calm_bind (calm_modify fun _ => rfl) fun _ _ => holds_pure rfl

end

theorem tells_calm_bind {m : Play N α} {next : α → Play N β} {post : β → Field N → Prop} (few : owed.length ≤ 1) (calm : Calm m)
    (rest : ∀ result t', t'.fighters = t.fighters → (deedScene tables).Tells owed (next result) t' post) :
    (deedScene tables).Tells owed (m >>= next) t post := by
  have told : Holds (silent (SameUses t)) m t fun _ s => SameUses t s ∧ s.fighters = t.fighters :=
    holds_of_silent ((calm t).mono fun _ _ same => ⟨.of_fighters same, same⟩) fun _ _ same => .of_fighters same
  exact tells_later_bind few (tells_of_silent told) (points_of_silent (calm t)) rest

omit [Number N] in
theorem ward_of_fighters {s : Field N} (same : s.fighters = t.fighters) (type : StatusType) (camp : Camp) (idx : Nat) :
    s.ward tables type camp idx = t.ward tables type camp idx := by
  unfold Field.ward
  rw [same]

omit [Number N] in
theorem Mild.of_fighters {s : Field N} {camp : Camp} {idx : Nat} (mild : Mild tables t camp idx) (same : s.fighters = t.fighters) :
    Mild tables s camp idx := by
  unfold Mild Field.statusAt at mild ⊢
  rw [ward_of_fighters same, same]
  exact mild

/-- Of a hit the immunity is owed. -/
theorem hurt_tells {targetCamp : Camp} {target : Nat} (mild : Mild tables t targetCamp target) (camp : Camp) (idx : Nat) (damage : N)
    (type : TargetType) :
    (deedScene tables).Tells (t.ward tables .immunity targetCamp target) (hurt tables camp idx targetCamp target damage type) t
      fun _ _ => True := by
  have few := ward_length tables t .immunity targetCamp target
  unfold hurt
  refine tells_calm_bind few (calm_modify fun _ => rfl) fun _ t₁ same₁ => ?_
  refine tells_calm_bind few (calm_fighter camp idx) fun attacker t₂ same₂ => ?_
  refine tells_calm_bind few (calm_fighter targetCamp target) fun victim t₃ same₃ => ?_
  refine tells_calm_bind few (calm_bind (calm_random 100) fun _ _ => holds_pure rfl) fun rand t₄ same₄ => ?_
  refine tells_calm_bind few (calm_modify fun _ => rfl) fun _ t₅ same₅ => ?_
  have same := same₅.trans (same₄.trans (same₃.trans (same₂.trans same₁)))
  rw [← ward_of_fighters same]
  refine tells_bind (condImmu_tells (mild.of_fighters same)) fun bImmu t _ => ?_
  refine plays_bind (plays_modifyTarget target _) (fun _ _ => ?_) t
  split
  · exact plays_pure trivial
  · refine plays_bind (condShield_plays targetCamp target _) fun shielded _ => plays_bind (plays_modifyTarget target _) fun _ _ => ?_
    split
    · exact plays_pure trivial
    · refine plays_bind (plays_mark fun _ => rfl) fun _ _ => ?_
      split
      · exact plays_bind (hurtSummon_plays targetCamp target _) fun _ _ => plays_pure trivial
      · exact plays_bind (hurtHero_plays targetCamp target _) fun _ _ => plays_pure trivial

theorem attack_tells {targetCamp : Camp} {target : Nat} (mild : Mild tables t targetCamp target) (camp : Camp) (idx : Nat)
    (lvl arg1 arg2 arg3 : N) :
    (deedScene tables).Tells (t.ward tables .immunity targetCamp target) (attack tables camp idx targetCamp target lvl arg1 arg2 arg3) t
      fun _ _ => True := by
  have few := ward_length tables t .immunity targetCamp target
  unfold attack
  refine tells_calm_bind few (calm_fighter camp idx) fun attacker t₁ same₁ => ?_
  refine tells_calm_bind few (calm_fighter targetCamp target) fun victim t₂ same₂ => ?_
  have same := same₂.trans same₁
  rw [← ward_of_fighters same]
  refine tells_bind (hurt_tells (mild.of_fighters same) camp idx _ _) fun result t _ => ?_
  exact plays_bind checkEndSkill_plays (fun _ _ => plays_pure trivial) t

theorem kill_tells {targetCamp : Camp} {target : Nat} (mild : Mild tables t targetCamp target) (camp : Camp) (idx : Nat) (lvl : N)
    (arg1 arg2 arg3 : N × N) :
    (deedScene tables).Tells (t.ward tables .immunity targetCamp target) (kill tables camp idx targetCamp target lvl arg1 arg2 arg3) t
      fun _ _ => True := by
  have few := ward_length tables t .immunity targetCamp target
  unfold kill
  refine tells_calm_bind few (calm_fighter camp idx) fun attacker t₁ same₁ => ?_
  refine tells_calm_bind few (calm_fighter targetCamp target) fun victim t₂ same₂ => ?_
  have same := same₂.trans same₁
  rw [← ward_of_fighters same]
  have mild := mild.of_fighters same
  have ends (result : Hurt) (t : Field N) :
      (deedScene tables).Tells [] (checkEndSkill >>= fun _ => Pure.pure result) t fun _ _ => True :=
    plays_bind checkEndSkill_plays (fun _ _ => plays_pure trivial) t
  dsimp only
  split
  · exact tells_bind (hurt_tells mild camp idx _ _) fun result t _ => ends result t
  · exact tells_bind (hurt_tells mild camp idx _ _) fun result t _ => ends result t

/-! ### Cures, calls and copies -/

theorem curlEffect_plays (targetCamp : Camp) (target : Nat) (lvl arg1 arg2 : N) :
    Played tables (curlEffect targetCamp target lvl arg1 arg2) fun _ => True := by
  unfold curlEffect
  refine plays_bind (plays_fighter targetCamp target) fun victim _ => plays_bind (plays_side targetCamp) fun before _ => ?_
  split
  · refine plays_bind (plays_mark fun _ => rfl) fun _ _ => ?_
    exact plays_bind (plays_modifySide targetCamp fun _ => rfl) fun _ _ => plays_modifyTarget target _
  · refine plays_bind (plays_mark fun _ => rfl) fun _ _ => ?_
    exact plays_bind (plays_modifyFighter targetCamp target fun _ => rfl) fun _ _ => plays_modifyTarget target _

theorem mutil_plays (camp : Camp) (idx target : Nat) (rein : Bool) (costs : List Int) :
    Played tables (mutil camp idx target rein costs) fun _ => True := by
  unfold mutil
  split
  · exact plays_pure trivial
  · refine plays_bind (plays_forM (fun cost => addSkillQueue_plays (some cost) camp (some idx) none) _) fun _ _ => ?_
    exact plays_modifyTarget target _

/-- A creature comes as it is in its table. -/
theorem called_tells {camp : Camp} {pos monsterid : Nat} {summon : Fighter N} (known : initSummon tables monsterid = some summon)
    {post : Post N} (there : (∃ was, (t.fighters camp).posts pos = some was ∧ post = { was with next := was.next ++ [summon] }) ∨
      (t.fighters camp).posts pos = none ∧ post = ⟨summon, []⟩) :
    (deedScene tables).Tells [] (Play.setPost camp pos (some post)) t fun _ _ => True := by
  refine setPost_tells (.call camp pos monsterid) ?_ rfl trivial
  show callAt tables camp pos monsterid t = _
  unfold callAt
  rw [run_bind_ok (rfl : side camp t = ⟨[], t, .ok (t.fighters camp)⟩), known, run_bind_ok
    (rfl : Play.indexed (some summon) t = ⟨[], t, .ok summon⟩)]
  rcases there with ⟨was, found, rfl⟩ | ⟨found, rfl⟩
  · rw [found]
    rfl
  · rw [found]
    rfl

theorem callEffect_plays (camp : Camp) (idx : Nat) (targetCamp : Camp) (target : Nat) (rein : Bool) (monsterid : Nat) :
    Played tables (callEffect tables camp idx targetCamp target rein monsterid) fun _ => True := by
  have instead (success : Bool) : Played tables (if (success || rein) = true then Pure.pure () else do
      let cost ← randomSkillCost camp
      addSkillQueue (some (cost : Int)) camp (some idx) none
      Play.modifyTarget target fun op => { op with bRein := some true, skillcost := some (.inr cost) }) fun _ => True := by
    split
    · exact plays_pure trivial
    · refine plays_bind (randomSkillCost_plays camp) fun cost _ => ?_
      exact plays_bind (addSkillQueue_plays _ camp _ _) fun _ _ => plays_modifyTarget target _
  unfold callEffect
  refine plays_bind (plays_modifyTarget target _) fun _ _ => ?_
  dsimp only
  split
  · refine fun t => tells_run_bind (rfl : side targetCamp t = ⟨[], t, .ok (t.fighters targetCamp)⟩) ?_
    split
    · rename_i post found
      split
      · refine tells_calm_bind (Nat.zero_le _) (calm_modify fun _ => rfl) fun _ t' same => ?_
        refine tells_bind (tells_indexed_found _) ?_
        rintro summon t' ⟨rfl, known⟩
        refine tells_bind (called_tells known (.inl ⟨post, ?_, rfl⟩)) fun _ t _ => instead false t
        rw [same]
        exact found
      · exact instead false t
    · rename_i empty
      refine tells_calm_bind (Nat.zero_le _) (calm_modify fun _ => rfl) fun _ t' same => ?_
      refine tells_bind (tells_indexed_found _) ?_
      rintro summon t' ⟨rfl, known⟩
      refine tells_bind (called_tells known (.inr ⟨?_, rfl⟩)) fun _ t _ => ?_
      · rw [same]
        exact empty
      · refine plays_bind (enterConditions_plays targetCamp target) (fun buff _ => ?_) t
        exact plays_bind (plays_modifyTarget target _) fun _ _ => instead true
  · exact instead false

theorem copyEffect_plays (camp : Camp) (idx : Nat) (targetCamp : Camp) (target : Nat) :
    Played tables (copyEffect tables camp idx targetCamp target) fun _ => True := by
  unfold copyEffect
  split
  · refine plays_bind (plays_side camp) fun own _ => ?_
    split
    · exact plays_pure trivial
    · refine fun t => tells_run_bind (rfl : side targetCamp t = ⟨[], t, .ok (t.fighters targetCamp)⟩) ?_
      refine tells_bind (tells_indexed_found _) ?_
      rintro post t ⟨rfl, found⟩
      split
      · have same : (Deed.copy camp (idx - P_HEAD_RIGHT) targetCamp target).run tables t =
            Play.setPost camp (idx - P_HEAD_RIGHT) (some post) t := by
          show copyAt camp (idx - P_HEAD_RIGHT) targetCamp target t = _
          unfold copyAt
          rw [run_bind_ok (rfl : side targetCamp t = ⟨[], t, .ok (t.fighters targetCamp)⟩), found,
            run_bind_ok (rfl : Play.indexed (some post) t = ⟨[], t, .ok post⟩)]
          rfl
        refine tells_bind (setPost_tells (.copy camp _ targetCamp target) same rfl trivial) fun _ t _ => ?_
        refine plays_bind (plays_modifyTarget target _) (fun _ _ => ?_) t
        exact plays_bind (enterConditions_plays camp _) fun buff _ => plays_modifyTarget target _
      · exact tells_pure trivial
  · exact plays_pure trivial

/-! ### A skill -/

theorem effectOn_tells {targetCamp : Camp} {target : Nat} {result : SkillResultRow N}
    (mild : result.effect.drawsBingo = true → Mild tables t targetCamp target) (camp : Camp) (idx : Nat) (lvl : N) (rein : Bool)
    (effects : Effects) :
    (deedScene tables).Tells (if result.effect.drawsBingo then t.ward tables .immunity targetCamp target else [])
      (effectOn tables camp idx targetCamp target result lvl rein effects) t fun _ _ => True := by
  obtain ⟨due, same⟩ : ∃ due, due = if result.effect.drawsBingo then t.ward tables .immunity targetCamp target else [] := ⟨_, rfl⟩
  rw [← same]
  unfold effectOn
  split <;> rename_i effect
  all_goals
    rw [effect] at mild same
    rw [same]
  · exact tells_bind (attack_tells (mild rfl) camp idx lvl _ _ _) fun _ _ _ => tells_pure trivial
  · exact tells_bind (attack_tells (mild rfl) camp idx lvl _ _ _) fun _ _ _ => tells_pure trivial
  · exact plays_bind (curlEffect_plays targetCamp target lvl _ _) (fun _ _ => plays_pure trivial) t
  · exact plays_bind (mutil_plays camp idx target rein _) (fun _ _ => plays_pure trivial) t
  · exact tells_bind (kill_tells (mild rfl) camp idx lvl _ _ _) fun _ _ _ => tells_pure trivial
  · refine plays_bind (P := fun _ => True) ?_ (fun _ _ => ?_) t
    · exact plays_modifySide targetCamp fun _ => rfl
    · exact plays_bind (plays_modifyTarget target _) fun _ _ => plays_pure trivial
  · exact plays_bind (callEffect_plays camp idx targetCamp target rein _) (fun _ _ => plays_pure trivial) t
  · exact plays_bind (copyEffect_plays camp idx targetCamp target) (fun _ _ => plays_pure trivial) t
  · refine plays_bind (judgeStatus_plays result targetCamp target lvl false) (fun _ _ => ?_) t
    exact plays_bind (plays_modifyTarget target _) fun _ _ => plays_pure trivial
  · exact tells_pure trivial

theorem strike_plays (camp : Camp) (idx skillid : Nat) (targetCamp : Camp) (result : SkillResultRow N) (lvl : N) (rein : Bool)
    (effects : Effects) (target : Nat) :
    Played tables (strike tables camp idx skillid targetCamp result lvl rein effects target) fun _ => True := by
  intro t
  unfold strike
  refine tells_mark_bind fun mild => ?_
  refine tells_bind (effectOn_tells mild camp idx lvl rein effects) fun effects t _ => ?_
  split
  · refine plays_bind (judgeStatus_plays result targetCamp target lvl _) (fun buff _ => ?_) t
    refine plays_bind (plays_modifyTarget target _) fun _ _ => ?_
    split
    · exact plays_pure trivial
    · refine plays_bind (eraseStatus_plays targetCamp target _) fun buff _ => ?_
      exact plays_bind (plays_modifyTarget target _) fun _ _ => plays_pure trivial
  · exact tells_pure trivial

theorem skillEffect_plays (camp targetCamp : Camp) (idx skillid : Nat) (result : SkillResultRow N) (tbTarget : List Nat) (rein : Bool) :
    Played tables (skillEffect tables camp targetCamp idx skillid result tbTarget rein) fun _ => True := by
  unfold skillEffect
  refine plays_bind (plays_fighter camp idx) fun caster _ => plays_bind (plays_known _) fun lvl _ => ?_
  refine plays_bind (plays_foldlM
    (fun effects target => strike_plays camp idx skillid targetCamp result lvl rein effects target) tbTarget _)
    fun effects _ => ?_
  have ends : Played tables (checkEndSkill : Play N Unit) fun _ => True := checkEndSkill_plays
  have curls : Played tables (if effects.bCurl = true then do
      let buff ← condCampAllExceptMe tables .ourCurl camp idx
      Play.modifyTb fun tb => { tb with curlBuff := buff }
      checkEndSkill
      else checkEndSkill) fun _ => True := by
    split
    · exact plays_bind (condCampAllExceptMe_plays _ camp idx) fun _ _ => plays_bind (plays_modifyTb _) fun _ _ => ends
    · exact ends
  dsimp only
  split
  · exact plays_bind (condMe_plays _ camp idx) fun _ _ => plays_bind (plays_modifyTb _) fun _ _ => curls
  · exact curls

/-! ### Searching and casting -/

theorem searchTarget_plays (camp targetCamp : Camp) (idx : Nat) (row : SkillRow N) (effect : SkillEffect N) :
    Played tables (searchTarget camp targetCamp idx row effect) fun _ => True := by
  have first : Played tables (searchFirst targetCamp idx row effect) fun _ => True := by
    refine plays_bind plays_read fun field _ => ?_
    dsimp only
    split
    · exact plays_pure trivial
    · exact plays_bind (plays_known _) fun _ _ => plays_pure trivial
    · exact plays_pure trivial
    · exact plays_pure trivial
    · exact plays_known _
    · exact plays_known _
    · exact plays_known _
    · exact plays_known _
    · split
      · exact plays_pure trivial
      · exact plays_bind (random_plays _) fun _ _ => plays_pure trivial
    · exact plays_known _
    · exact plays_pure trivial
    · exact plays_pure trivial
    · exact plays_pure trivial
  refine plays_bind first fun target _ => ?_
  split
  · refine plays_bind (plays_fighter camp idx) fun caster _ => ?_
    exact plays_bind plays_read fun _ _ => plays_pure trivial
  · exact plays_pure trivial

theorem castConditions_plays (camp : Camp) (idx : Nat) (effect : SkillEffect N) :
    Played tables (castConditions tables camp idx effect) fun _ => True := by
  unfold castConditions
  refine plays_bind (condMe_plays _ camp idx) fun _ _ => plays_bind (condCampAllExceptMe_plays _ camp idx) fun _ _ => ?_
  refine plays_bind (condCampAll_plays _ _) fun _ _ => ?_
  cases effect with
  | _ => exact plays_bind (condCampAllExceptMe_plays _ camp idx) fun _ _ => plays_pure trivial

theorem hitTargets_plays (camp targetCamp : Camp) (idx : Nat) (row : SkillRow N) (effect : SkillEffect N) (tbTarget : List Nat) :
    Played tables (hitTargets camp targetCamp idx row effect tbTarget) fun _ => True := by
  unfold hitTargets
  split
  · refine plays_bind (calcBingo_plays camp targetCamp idx _ tbTarget) fun drawn _ => ?_
    exact plays_bind (plays_forM (fun target => plays_modifyTarget target _) _) fun _ _ => plays_pure trivial
  · exact plays_pure trivial

end Tinygame.Fight
