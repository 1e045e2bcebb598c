import Tinygame.Fight.SearchFaults

/-!
# Skills run without a fault

Every effect of a skill, on every target, from a sound field and where each step is careful.
-/

namespace Tinygame.Fight
open Traced Play
variable {N : Type} [Number N] {tables : Tables N} {s : Field N}

/-! ### Small steps -/

/-- A field that is sound, with the fighters of another one. -/
structure Steady (tables : Tables N) (before after : Field N) : Prop where
  sound : after.Sound tables
  kept : Kept before after

namespace Steady
omit [Number N]
variable {first second third : Field N}

theorem refl (sound : s.Sound tables) : Steady tables s s := ⟨sound, .refl s⟩

theorem trans (here : Steady tables first second) (there : Steady tables second third) : Steady tables first third :=
  ⟨there.sound, here.kept.trans there.kept⟩

theorem unmoved (steady : Steady tables first second) (same : Unmoved second third) : Steady tables first third := by
  refine ⟨same.sound steady.sound, steady.kept.trans ?_⟩
  obtain ⟨seed, tb, rfl⟩ := same
  exact .refl second

theorem life (steady : Steady tables first second) (camp : Camp) {side : Side N} (alike : (second.fighters camp).Alike side) :
    Steady tables first (second.setSide camp side) :=
  ⟨(kept_life steady.sound alike).1, steady.kept.trans (kept_life steady.sound alike).2⟩

theorem spared (steady : Steady tables first second) (camp : Camp) (target : Nat) : Spared tables first camp target second :=
  steady.kept.spared steady.sound camp target

theorem present (steady : Steady tables first second) {camp : Camp} {pos : Nat} (there : (first.fighters camp).present pos = true) :
    (second.fighters camp).present pos = true :=
  (steady.kept.present camp pos).trans there

end Steady

/-- A field that is sound, and nobody is gone. -/
structure Grown (tables : Tables N) (before after : Field N) : Prop where
  sound : after.Sound tables
  present : ∀ camp pos, (before.fighters camp).present pos = true → (after.fighters camp).present pos = true

namespace Grown
omit [Number N]
variable {first second third : Field N}

theorem refl (sound : s.Sound tables) : Grown tables s s := ⟨sound, fun _ _ there => there⟩

theorem trans (here : Grown tables first second) (there : Grown tables second third) : Grown tables first third :=
  ⟨there.sound, fun camp pos present => there.present camp pos (here.present camp pos present)⟩

theorem steady (grown : Grown tables first second) (steady : Steady tables second third) : Grown tables first third :=
  grown.trans ⟨steady.sound, fun _ _ => steady.present⟩

theorem unmoved (grown : Grown tables first second) (same : Unmoved second third) : Grown tables first third :=
  grown.steady ((Steady.refl grown.sound).unmoved same)

theorem spared (grown : Grown tables first second) (camp : Camp) (target : Nat) : Spared tables first camp target second :=
  ⟨grown.sound, fun other pos _ => grown.present other pos⟩

end Grown

omit [Number N] in
/-- Somebody is put at a position where nobody was, or whoever was there stays. -/
theorem Spared.grown {first second : Field N} {camp : Camp} {target : Nat} (spared : Spared tables first camp target second)
    (there : (first.fighters camp).present target = true → (second.fighters camp).present target = true) :
    Grown tables first second := by
  refine ⟨spared.sound, fun other pos present => ?_⟩
  by_cases same : (other, pos) = (camp, target)
  · obtain ⟨rfl, rfl⟩ := Prod.mk.inj same
    exact there present
  · exact spared.present other pos same present

namespace Spared
omit [Number N]
variable {first second third : Field N} {camp : Camp} {target : Nat}

theorem steady (spared : Spared tables first camp target second) (steady : Steady tables second third) :
    Spared tables first camp target third :=
  spared.trans (steady.spared camp target)

theorem unmoved (spared : Spared tables first camp target second) (same : Unmoved second third) :
    Spared tables first camp target third :=
  spared.steady ((Steady.refl spared.sound).unmoved same)

end Spared

omit [Number N] in
theorem unmoved_tb (s : Field N) (tb : SkillOp N) : Unmoved s { s with tb := tb } := ⟨s.seed, tb, rfl⟩

theorem holds_modifyTarget_bind {β : Type} {target : Nat} {f : TargetOp N → TargetOp N} {next : Unit → Play N β}
    {post : β → Field N → Prop} (rest : ∀ tb, Holds (faultlessPlay tables) (next ()) { s with tb := tb } post) :
    Holds (faultlessPlay tables) (modifyTarget target f >>= next) s post :=
  holds_modify_bind (rest _)

theorem holds_setPost_bind {β : Type} {camp : Camp} {pos : Nat} {new : Option (Post N)} {next : Unit → Play N β}
    {post : β → Field N → Prop}
    (rest : Holds (faultlessPlay tables) (next ()) (s.setSide camp ((s.fighters camp).setPost pos new)) post) :
    Holds (faultlessPlay tables) (setPost camp pos new >>= next) s post :=
  holds_modify_bind rest

/-- Whoever has lost, the coroutine yields. -/
theorem checkEndFight_holds (tb : Option (SkillOp N)) : Holds (faultlessPlay tables) (checkEndFight tb) s fun _ s' => s' = s := by
  have lose (camp : Camp) : Holds (faultlessPlay tables) (loseFight camp tb) s fun _ s' => s' = s := by
    unfold loseFight
    apply holds_read_bind
    split
    · rename_i lost
      exact holds_modify_bind (holds_stop ⟨camp, lost, rfl⟩)
    · exact holds_pure rfl
  unfold checkEndFight
  refine holds_bind (lose .me) ?_
  rintro _ _ rfl
  exact lose .obs

theorem checkEndSkill_holds : Holds (faultlessPlay tables) (checkEndSkill : Play N Unit) s fun _ s' => s' = s :=
  holds_read_bind (checkEndFight_holds _)

/-- There is nothing to insert. -/
theorem holds_nothing_bind {β : Type} {next : Play N β} {post : β → Field N → Prop} {m : Play N (List (BuffOp N))}
    (still : Holds (faultlessPlay tables) m s fun ops s' => ops = [] ∧ s' = s)
    (rest : Holds (faultlessPlay tables) next s post) :
    Holds (faultlessPlay tables) (do let buff ← m; insertNowhere buff; next) s post := by
  refine holds_bind still ?_
  rintro _ _ ⟨rfl, rfl⟩
  exact holds_pure_bind rest

theorem judgeStatus_holds (whole : tables.WellFormed) (sound : s.Sound tables) (result : SkillResultRow N) (camp : Camp)
    (target : Nat) (lvl : N) (bCrit : Bool) :
    Holds (faultlessPlay tables) (judgeStatus tables result camp target lvl bCrit) s fun _ s' => Steady tables s s' := by
  unfold judgeStatus
  split
  · exact holds_pure (.refl sound)
  · split
    · exact (createStatus_holds whole sound camp target _ lvl).mono fun _ _ met => ⟨met.1, met.2⟩
    · exact holds_pure (.refl sound)

/-! ### Deaths -/

/-- The creature that is first in the queue takes the place of one that dies. -/
theorem advance_holds {camp : Camp} {target : Nat} {first : Fighter N} {rest : List (Fighter N)} (sound : s.Sound tables)
    {post : Post N} (there : (s.fighters camp).posts target = some post) (queue : post.next = first :: rest)
    (summon : post.fighter.type = .summon) :
    Holds (faultlessPlay tables) (advance tables camp target first rest) s fun _ s' => Spared tables s camp target s' := by
  have before := (sound.sides camp).posts target post there
  have follows : ∀ follower ∈ first :: rest, follower.Sound tables ∧ follower.type = .summon := queue ▸ before.next
  have here := follows first (List.mem_cons_self ..)
  have whole : Post.Sound tables target ⟨first, rest⟩ :=
    ⟨here.1, fun follower member => follows follower (List.mem_cons_of_mem _ member), fun hero => absurd (here.2.symm.trans hero) nofun⟩
  have spared : Spared tables s camp target (s.setSide camp ((s.fighters camp).setPost target (some ⟨first, rest⟩))) := by
    refine spared_setPost sound (fun other same => Option.some.inj same ▸ whole) fun other found hero => ?_
    obtain rfl := Option.some.inj (there.symm.trans found)
    exact absurd (summon.symm.trans hero) nofun
  generalize after : s.setSide camp ((s.fighters camp).setPost target (some ⟨first, rest⟩)) = s' at spared
  unfold advance
  apply holds_setPost_bind
  rw [after]
  refine holds_modifyTarget_bind fun tb => holds_mark_bind fun careful => ⟨trivial, ?_⟩
  have sound' := (unmoved_tb s' tb).sound spared.sound
  refine holds_nothing_bind (trigger_idle sound' careful.1 none) ?_
  refine holds_nothing_bind (condCampAllExceptMe_idle sound' careful.2.1) (holds_bind (condCampAll_idle sound' careful.2.2) ?_)
  rintro _ _ ⟨rfl, rfl⟩
  exact holds_pure ⟨sound', spared.present⟩

/-- Where nobody waits for a death. -/
theorem die_holds {camp : Camp} {target : Nat} {victim : Fighter N} (sound : s.Sound tables)
    (there : (s.fighters camp).fighterAt target = some victim) (summon : victim.type = .summon) :
    Holds (faultlessPlay tables) (die tables camp target) s fun _ s' => Spared tables s camp target s' := by
  obtain ⟨post, found, rfl⟩ := Side.fighterAt_eq_some.mp there
  unfold die
  refine holds_mark_bind fun careful => ⟨trivial, holds_nothing_bind (condCampAllExceptMe_idle sound careful) (holds_side_bind ?_)⟩
  rw [found]
  dsimp only [Option.map_some]
  split
  · rename_i first rest queue
    exact advance_holds sound found (Option.some.inj queue) summon
  · refine holds_modify (spared_setPost sound nofun fun other here hero => ?_)
    obtain rfl := Option.some.inj (found.symm.trans here)
    exact absurd (summon.symm.trans hero) nofun

/-! ### Damage -/

section
variable {camp targetCamp : Camp} {idx target : Nat} {victim : Fighter N}

omit [Number N] in
theorem present_of_fighterAt {side : Side N} {pos : Nat} {fighter : Fighter N} (there : side.fighterAt pos = some fighter) :
    side.present pos = true :=
  Side.present_iff.mpr ⟨fighter, there⟩

omit [Number N] in
theorem alike_totalHP (side : Side N) (totalHP : N) : side.Alike { side with totalHP := totalHP } := ⟨rfl, rfl⟩

omit [Number N] in
theorem alike_nHP (side : Side N) (pos : Nat) (nHP : N) :
    side.Alike (side.modifyFighter pos fun fighter => { fighter with nHP := nHP }) :=
  alike_modifyFighter side pos (fun _ => rfl) fun _ => rfl

/-- After the damage to a creature that it has survived, it is still there. -/
theorem hurtSummon_holds (sound : s.Sound tables) (there : (s.fighters targetCamp).fighterAt target = some victim)
    (summon : victim.type = .summon) (damage : N) :
    Holds (faultlessPlay tables) (hurtSummon tables targetCamp target damage) s fun bDead s' =>
      Spared tables s targetCamp target s' ∧ (bDead = false → (s'.fighters targetCamp).present target = true) := by
  unfold hurtSummon
  refine holds_modifyTarget_bind fun tb => holds_modify_bind ?_
  have sound' := (unmoved_tb s tb).sound sound
  have touched := sound'.touched (f := fun fighter => { fighter with nHP := lessHp fighter.nHP damage }) there rfl
    (((sound.sides targetCamp).fighter there).statuses)
  generalize after : Field.setSide { s with tb := tb } targetCamp (((s.fighters targetCamp)).modifyFighter target
    fun fighter => { fighter with nHP := lessHp fighter.nHP damage }) = s₁ at touched
  show Holds _ _ (Field.setSide { s with tb := tb } targetCamp ((s.fighters targetCamp).modifyFighter target _)) _
  rw [after]
  have spared : Spared tables s targetCamp target s₁ :=
    ⟨touched.sound, (touched.kept.spared touched.sound targetCamp target).present⟩
  refine holds_fighter_bind touched.there (holds_modifyTarget_bind fun tb => ?_)
  have sound₂ := (unmoved_tb s₁ tb).sound touched.sound
  dsimp only
  split
  · rename_i dead
    refine holds_bind (die_holds sound₂ touched.there summon) ?_
    intro _ s₃ spared₃
    refine holds_modifyTarget_bind fun tb => holds_pure ⟨?_, fun alive => ?_⟩
    · have all : Spared tables s targetCamp target s₃ := spared.trans ⟨spared₃.sound, spared₃.present⟩
      exact ⟨(unmoved_tb s₃ tb).sound all.sound, all.present⟩
    · exact absurd (dead.symm.trans alive) nofun
  · refine holds_mark_bind fun careful => ⟨trivial, ?_⟩
    refine holds_nothing_bind (trigger_idle sound₂ careful none) (holds_modifyTarget_bind fun tb => holds_pure ⟨?_, fun _ => ?_⟩)
    · exact ⟨(unmoved_tb s₁ tb).sound touched.sound, spared.present⟩
    · exact present_of_fighterAt touched.there

theorem hurtHero_holds (sound : s.Sound tables) (damage : N) :
    Holds (faultlessPlay tables) (hurtHero tables targetCamp target damage) s fun _ s' => Steady tables s s' := by
  unfold hurtHero
  refine holds_modifyTarget_bind fun tb => holds_side_bind (holds_modify_bind (holds_modifyTarget_bind fun tb' => ?_))
  have first := (Steady.refl sound).unmoved (unmoved_tb s tb)
  have second := (first.life targetCamp (alike_totalHP _ ((s.fighters targetCamp).totalHP - damage))).unmoved (unmoved_tb _ tb')
  dsimp only
  split
  · exact holds_modify (second.life targetCamp (alike_totalHP _ _))
  · refine holds_mark_bind fun careful => ⟨trivial, holds_bind (trigger_idle second.sound careful none) ?_⟩
    rintro _ _ ⟨rfl, rfl⟩
    exact holds_pure second

/-- The creature that is hurt is one, where it is hurt as one. -/
theorem hurt_holds (sound : s.Sound tables) (attacker : (s.fighters camp).present idx = true)
    (there : (s.fighters targetCamp).fighterAt target = some victim) (damage : N) {type : TargetType}
    (kind : type = .summon → victim.type = .summon) :
    Holds (faultlessPlay tables) (hurt tables camp idx targetCamp target damage type) s fun hurt s' =>
      Spared tables s targetCamp target s' ∧ (hurt.bDead = false → (s'.fighters targetCamp).present target = true) := by
  obtain ⟨caster, found⟩ := Side.present_iff.mp attacker
  have steady (seed : Int) (tb : SkillOp N) : Steady tables s { s with seed := seed, tb := tb } :=
    (Steady.refl sound).unmoved ⟨seed, tb, rfl⟩
  have stays (seed : Int) (tb : SkillOp N) : Spared tables s targetCamp target { s with seed := seed, tb := tb } :=
    (steady seed tb).spared targetCamp target
  unfold hurt
  refine holds_modifyTarget_bind fun tb₁ => holds_fighter_bind found (holds_fighter_bind there (holds_drawPercent_bind fun rand seed => ?_))
  refine holds_modifyTarget_bind fun tb₂ => holds_bind (condImmu_holds (steady seed tb₂).sound there) ?_
  rintro bImmu _ rfl
  refine holds_modifyTarget_bind fun tb₃ => ?_
  split
  · exact holds_pure ⟨stays seed tb₃, fun _ => present_of_fighterAt there⟩
  · refine holds_bind (condShield_holds (steady seed tb₃).sound there _) ?_
    rintro shielded _ rfl
    refine holds_modifyTarget_bind fun tb₄ => ?_
    split
    · exact holds_pure ⟨stays seed tb₄, fun _ => present_of_fighterAt there⟩
    · refine holds_mark_bind fun _ => ⟨trivial, ?_⟩
      split
      · rename_i summon
        refine holds_bind (hurtSummon_holds (steady seed tb₄).sound there (kind summon) _) fun bDead s' met => holds_pure ⟨?_, met.2⟩
        exact ⟨met.1.sound, met.1.present⟩
      · refine holds_bind (hurtHero_holds (steady seed tb₄).sound _) fun _ s' met => holds_pure ⟨?_, fun _ => ?_⟩
        · exact ((steady seed tb₄).trans met).spared targetCamp target
        · exact met.present (present_of_fighterAt there)

theorem attack_holds (sound : s.Sound tables) (attacker : (s.fighters camp).present idx = true)
    (there : (s.fighters targetCamp).fighterAt target = some victim) (lvl arg1 arg2 arg3 : N) :
    Holds (faultlessPlay tables) (attack tables camp idx targetCamp target lvl arg1 arg2 arg3) s fun hurt s' =>
      Spared tables s targetCamp target s' ∧ (hurt.bDead = false → (s'.fighters targetCamp).present target = true) := by
  obtain ⟨caster, found⟩ := Side.present_iff.mp attacker
  unfold attack
  refine holds_fighter_bind found (holds_fighter_bind there (holds_bind (hurt_holds sound attacker there _ id) ?_))
  intro result s' met
  refine holds_bind checkEndSkill_holds ?_
  rintro _ _ rfl
  exact holds_pure met

theorem kill_holds (sound : s.Sound tables) (attacker : (s.fighters camp).present idx = true)
    (there : (s.fighters targetCamp).fighterAt target = some victim) (lvl : N) (arg1 arg2 arg3 : N × N) :
    Holds (faultlessPlay tables) (kill tables camp idx targetCamp target lvl arg1 arg2 arg3) s fun hurt s' =>
      Spared tables s targetCamp target s' ∧ (hurt.bDead = false → (s'.fighters targetCamp).present target = true) := by
  obtain ⟨caster, found⟩ := Side.present_iff.mp attacker
  have ends (result : Hurt) (s' : Field N) (met : Spared tables s targetCamp target s' ∧
      (result.bDead = false → (s'.fighters targetCamp).present target = true)) :
      Holds (faultlessPlay tables) (checkEndSkill >>= fun _ => Pure.pure result) s' fun hurt s' =>
        Spared tables s targetCamp target s' ∧ (hurt.bDead = false → (s'.fighters targetCamp).present target = true) := by
    refine holds_bind checkEndSkill_holds ?_
    rintro _ _ rfl
    exact holds_pure met
  unfold kill
  refine holds_fighter_bind found (holds_fighter_bind there ?_)
  dsimp only
  split
  · refine holds_bind (hurt_holds sound attacker there _ ?_) ends
    exact nofun
  · rename_i front
    refine holds_bind (hurt_holds sound attacker there _ fun _ => ?_) ends
    obtain ⟨post, at', rfl⟩ := Side.fighterAt_eq_some.mp there
    cases type : post.fighter.type with
    | summon => rfl
    | hero => exact absurd (((sound.sides targetCamp).posts target post at').front type) front

/-! ### Cures -/

theorem curlEffect_holds (sound : s.Sound tables) (there : (s.fighters targetCamp).fighterAt target = some victim) (lvl arg1 arg2 : N) :
    Holds (faultlessPlay tables) (curlEffect targetCamp target lvl arg1 arg2) s fun _ s' => Steady tables s s' := by
  unfold curlEffect
  refine holds_fighter_bind there (holds_side_bind ?_)
  split
  · refine holds_mark_bind fun _ => ⟨trivial, holds_modify_bind (holds_modify ?_)⟩
    exact ((Steady.refl sound).life targetCamp (alike_totalHP _ _)).unmoved (unmoved_tb _ _)
  · refine holds_mark_bind fun _ => ⟨trivial, holds_modify_bind (holds_modify ?_)⟩
    exact ((Steady.refl sound).life targetCamp (alike_nHP _ target _)).unmoved (unmoved_tb _ _)

/-! ### Skills that follow, calls and copies -/

theorem queueSkill_holds (sound : s.Sound tables) (caster : (s.fighters camp).present idx = true) (cost : Int) :
    Holds (faultlessPlay tables) (addSkillQueue (some cost) camp (some idx) none) s fun _ s' => Steady tables s s' := by
  obtain ⟨fighter, found⟩ := Side.present_iff.mp caster
  have drawn : ∀ skillid, (none : Option Nat) = some skillid → SkillKnown tables skillid := nofun
  exact (addSkillQueue_holds ⟨sound, .refl s, found⟩ (some cost) drawn).mono fun _ _ touched => ⟨touched.sound, touched.kept⟩

theorem mutil_holds (sound : s.Sound tables) (caster : (s.fighters camp).present idx = true) (rein : Bool) (costs : List Int) :
    Holds (faultlessPlay tables) (mutil camp idx target rein costs) s fun _ s' => Steady tables s s' := by
  unfold mutil
  split
  · exact holds_pure (.refl sound)
  · refine holds_bind (holds_forM (fun _ s' => Steady tables s s') ?_ (.refl sound)) fun _ s' steady =>
      holds_modify (steady.unmoved (unmoved_tb _ _))
    intro cost rest s' steady
    exact (queueSkill_holds steady.sound (steady.present caster) cost).mono fun _ _ => steady.trans

theorem enterConditions_holds (whole : tables.WellFormed) (sound : s.Sound tables) (camp : Camp) (pos : Nat) :
    Holds (faultlessPlay tables) (enterConditions tables camp pos) s fun _ s' => Steady tables s s' := by
  unfold enterConditions
  refine holds_bind (condMe_holds whole sound _ _ _) ?_
  rintro own s₁ ⟨sound₁, kept₁⟩
  refine holds_bind (condCampAllExceptMe_holds whole sound₁ _ _ _) ?_
  rintro ours s₂ ⟨sound₂, kept₂⟩
  refine holds_bind (condCampAll_holds whole sound₂ _ _) ?_
  rintro theirs s₃ ⟨sound₃, kept₃⟩
  exact holds_pure ⟨sound₃, (kept₁.trans kept₂).trans kept₃⟩

theorem callEffect_holds (whole : tables.WellFormed) (sound : s.Sound tables) (caster : (s.fighters camp).present idx = true)
    {monsterid : Nat} (known : (tables.tbMonster monsterid).isSome) (rein : Bool) :
    Holds (faultlessPlay tables) (callEffect tables camp idx targetCamp target rein monsterid) s fun _ s' => Grown tables s s' := by
  obtain ⟨summon, made, whole', type⟩ := initSummon_sound whole known
  -- a skill is drawn instead, unless the creature has come at once
  have instead (success : Bool) (s' : Field N) (grown : Grown tables s s') :
      Holds (faultlessPlay tables) (if (success || rein) = true then Pure.pure () else do
        let cost ← randomSkillCost camp
        addSkillQueue (some (cost : Int)) camp (some idx) none
        modifyTarget target fun op => { op with bRein := some true, skillcost := some (.inr cost) }) s' fun _ s' =>
          Grown tables s s' := by
    split
    · exact holds_pure grown
    · refine holds_bind (randomSkillCost_holds grown.sound camp) ?_
      rintro cost _ ⟨seed, rfl⟩
      have drawn : Grown tables s { s' with seed := seed } := grown.unmoved ⟨seed, s'.tb, rfl⟩
      refine holds_bind (queueSkill_holds drawn.sound (drawn.present camp idx caster) _) fun _ s'' steady => holds_modify ?_
      exact (drawn.steady steady).unmoved (unmoved_tb s'' _)
  unfold callEffect
  refine holds_modifyTarget_bind fun tb => ?_
  have stays (tb : SkillOp N) : Grown tables s { s with tb := tb } := (Grown.refl sound).unmoved (unmoved_tb s tb)
  dsimp only
  split
  · refine holds_side_bind ?_
    split
    · rename_i post there
      have before := (sound.sides targetCamp).posts target post there
      have longer : Post.Sound tables target { post with next := post.next ++ [summon] } := by
        refine ⟨before.fighter, fun follower member => ?_, before.front⟩
        rcases List.mem_append.mp member with member | last
        · exact before.next follower member
        · exact List.mem_singleton.mp last ▸ ⟨whole', type⟩
      have spared (tb : SkillOp N) : Spared tables { s with tb := tb } targetCamp target
          (Field.setSide { s with tb := tb } targetCamp
            ((s.fighters targetCamp).setPost target (some { post with next := post.next ++ [summon] }))) := by
        refine spared_setPost (stays tb).sound (fun other same => Option.some.inj same ▸ longer) fun other here _ => ?_
        obtain rfl := Option.some.inj (there.symm.trans here)
        exact ⟨_, rfl, rfl⟩
      split
      · refine holds_modifyTarget_bind fun tb => holds_indexed_bind made (holds_setPost_bind ?_)
        exact instead false _ ((stays tb).trans ((spared tb).grown fun _ => present_setPost _ _ _ _))
      · exact instead false _ (stays tb)
    · rename_i empty
      refine holds_modifyTarget_bind fun tb => holds_indexed_bind made (holds_setPost_bind ?_)
      have spared : Spared tables { s with tb := tb } targetCamp target
          (Field.setSide { s with tb := tb } targetCamp ((s.fighters targetCamp).setPost target (some ⟨summon, []⟩))) := by
        refine spared_setPost (stays tb).sound (fun other same => ?_) fun other here => ?_
        · obtain rfl := Option.some.inj same
          exact ⟨whole', fun _ member => absurd member List.not_mem_nil, fun hero => absurd (type.symm.trans hero) nofun⟩
        · exact absurd (empty.symm.trans here) nofun
      have grown := (stays tb).trans (spared.grown fun _ => present_setPost _ _ _ _)
      refine holds_bind (enterConditions_holds whole grown.sound _ _) fun buff s' steady => holds_modifyTarget_bind fun tb' => ?_
      exact instead true _ ((grown.steady steady).unmoved (unmoved_tb s' tb'))
  · exact instead false _ (stays tb)

/-- A copy takes an empty position. -/
theorem copyEffect_holds (whole : tables.WellFormed) (sound : s.Sound tables)
    (there : SkillEffect.copy.indexesTarget (s.fighters camp) idx = true → (s.fighters targetCamp).present target = true) :
    Holds (faultlessPlay tables) (copyEffect tables camp idx targetCamp target) s fun _ s' => Grown tables s s' := by
  unfold copyEffect
  split
  · rename_i back
    refine holds_side_bind ?_
    split
    · exact holds_pure (.refl sound)
    · rename_i empty
      have room : SkillEffect.copy.indexesTarget (s.fighters camp) idx = true := by
        unfold SkillEffect.indexesTarget
        simp [back, empty]
      obtain ⟨post, found⟩ := Option.isSome_iff_exists.mp (there room)
      refine holds_side_bind (holds_indexed_bind found ?_)
      split
      · rename_i summon
        have before := (sound.sides targetCamp).posts target post found
        have copy : Post.Sound tables (idx - P_HEAD_RIGHT) post :=
          ⟨before.fighter, before.next, fun hero => absurd (summon.symm.trans hero) nofun⟩
        have spared : Spared tables s camp (idx - P_HEAD_RIGHT)
            (s.setSide camp ((s.fighters camp).setPost (idx - P_HEAD_RIGHT) (some post))) := by
          refine spared_setPost sound (fun other same => Option.some.inj same ▸ copy) fun other here => ?_
          exact absurd (congrArg Option.isSome here) fun present => empty present
        refine holds_setPost_bind (holds_modifyTarget_bind fun tb => ?_)
        have placed := (spared.grown fun _ => present_setPost _ _ _ _).unmoved (unmoved_tb _ tb)
        refine holds_bind (enterConditions_holds whole placed.sound _ _) fun buff s' steady => holds_modify ?_
        exact (placed.steady steady).unmoved (unmoved_tb s' _)
      · exact holds_pure (.refl sound)
  · exact holds_pure (.refl sound)

/-! ### One target -/

/-- What a strike leaves. Only an attack removes somebody, and it tells whether it did. -/
structure Struck (tables : Tables N) (effect : SkillEffect N) (before : Field N) (camp : Camp) (target : Nat) (bDead : Bool)
    (after : Field N) : Prop where
  spared : Spared tables before camp target after
  stay : effect.drawsBingo = false → Grown tables before after
  alive : effect.bringsStatus = true → bDead = false → (after.fighters camp).present target = true

omit [Number N] in
theorem Grown.struck {effect : SkillEffect N} {after : Field N} (grown : Grown tables s after) (camp : Camp) (target : Nat) (bDead : Bool)
    (there : effect.bringsStatus = true → (s.fighters camp).present target = true) : Struck tables effect s camp target bDead after :=
  ⟨grown.spared camp target, fun _ => grown, fun brings _ => grown.present camp target (there brings)⟩

variable (whole : tables.WellFormed) {result : SkillResultRow N} {resultid : Nat} (known : tables.tbSkillResult resultid = some result)
include whole known

theorem effectOn_holds (sound : s.Sound tables) (caster : (s.fighters camp).present idx = true)
    (there : result.effect.indexesTarget (s.fighters camp) idx = true → (s.fighters targetCamp).present target = true) (lvl : N)
    (rein : Bool) (effects : Effects) :
    Holds (faultlessPlay tables) (effectOn tables camp idx targetCamp target result lvl rein effects) s fun effects s' =>
      Struck tables result.effect s targetCamp target effects.bDead s' := by
  have grown := Grown.refl sound
  unfold effectOn
  cases effect : result.effect with
  | attack | common =>
    rw [effect] at there
    obtain ⟨victim, found⟩ := Side.present_iff.mp (there rfl)
    exact holds_bind (attack_holds sound caster found _ _ _ _) fun hurt s' met => holds_pure ⟨met.1, nofun, fun _ => met.2⟩
  | kill =>
    rw [effect] at there
    obtain ⟨victim, found⟩ := Side.present_iff.mp (there rfl)
    exact holds_bind (kill_holds sound caster found _ _ _ _) fun hurt s' met => holds_pure ⟨met.1, nofun, fun _ => met.2⟩
  | curl =>
    rw [effect] at there
    obtain ⟨victim, found⟩ := Side.present_iff.mp (there rfl)
    exact holds_bind (curlEffect_holds sound found _ _ _) fun _ s' steady =>
      holds_pure ((grown.steady steady).struck _ _ _ fun _ => there rfl)
  | mutil =>
    exact holds_bind (mutil_holds sound caster rein _) fun _ s' steady => holds_pure ((grown.steady steady).struck _ _ _ nofun)
  | add cost =>
    have side := sound.sides targetCamp
    have positive := whole.added resultid result cost known effect
    have more : Grown tables s
        (s.setSide targetCamp { s.fighters targetCamp with addCost := (s.fighters targetCamp).addCost + cost }) := by
      refine ⟨sound.setSide ⟨side.posts, side.wheels, ?_⟩, fun other pos present => ?_⟩
      · have before := side.addCost
        show 0 ≤ (s.fighters targetCamp).addCost + cost
        omega
      · by_cases same : other = targetCamp
        · subst same
          rw [Field.setSide_self]
          exact present
        · rw [Field.setSide_ne _ _ same]
          exact present
    exact holds_modify_bind (holds_modifyTarget_bind fun tb => holds_pure ((more.unmoved (unmoved_tb _ tb)).struck _ _ _ nofun))
  | call monsterid =>
    exact holds_bind (callEffect_holds whole sound caster (whole.called resultid result monsterid known effect) rein)
      fun _ s' called => holds_pure (called.struck _ _ _ nofun)
  | copy =>
    rw [effect] at there
    exact holds_bind (copyEffect_holds whole sound there) fun _ s' copied => holds_pure (copied.struck _ _ _ nofun)
  | status =>
    exact holds_bind (judgeStatus_holds whole sound result targetCamp target lvl false) fun buff s' steady =>
      holds_modifyTarget_bind fun tb => holds_pure (((grown.steady steady).unmoved (unmoved_tb s' tb)).struck _ _ _ nofun)
  | other => exact holds_pure (grown.struck _ _ _ nofun)

/-- Where an attacker is alive, and what was aimed at without a look is there. -/
theorem strike_holds (sound : s.Sound tables) {skillid : Nat} {row : SkillRow N} (skill : tables.tbSkill skillid = some row)
    (caster : result.effect.drawsBingo = false → (s.fighters camp).present idx = true)
    (there : result.effect.isCall = false → ¬ row.blind → (s.fighters targetCamp).present target = true) (lvl : N) (rein : Bool)
    (effects : Effects) :
    Holds (faultlessPlay tables) (strike tables camp idx skillid targetCamp result lvl rein effects target) s fun _ s' =>
      Spared tables s targetCamp target s' ∧ (result.effect.drawsBingo = false → Grown tables s s') := by
  unfold strike
  refine holds_mark_bind fun careful => ⟨trivial, ?_⟩
  have alive : (s.fighters camp).present idx = true := by
    cases draws : result.effect.drawsBingo with
    | true => exact careful.1 draws
    | false => exact caster draws
  have aimed (indexes : result.effect.indexesTarget (s.fighters camp) idx = true) : (s.fighters targetCamp).present target = true := by
    by_cases blind : row.blind
    · exact careful.2 row skill blind indexes
    · refine there ?_ blind
      cases effect : result.effect with
      | call monsterid =>
        rw [effect] at indexes
        cases indexes
      | _ => rfl
  refine holds_bind (effectOn_holds whole known sound alive aimed lvl rein effects) ?_
  rintro effects s' struck
  split
  · rename_i goesOn
    simp only [Bool.and_eq_true, Bool.not_eq_true'] at goesOn
    refine holds_bind (judgeStatus_holds whole struck.spared.sound result targetCamp target lvl _) fun buff s₁ steady =>
      holds_modifyTarget_bind fun tb => ?_
    have spared := (struck.spared.steady steady).unmoved (unmoved_tb s₁ tb)
    have stay (draws : result.effect.drawsBingo = false) := ((struck.stay draws).steady steady).unmoved (unmoved_tb s₁ tb)
    split
    · exact holds_pure ⟨spared, stay⟩
    · obtain ⟨victim, found⟩ := Side.present_iff.mp (steady.present (struck.alive goesOn.2 goesOn.1.2))
      refine holds_bind (eraseStatus_holds spared.sound found _) fun buff s₂ met => holds_modifyTarget_bind fun tb => holds_pure ?_
      have last : Steady tables _ s₂ := ⟨met.1, met.2⟩
      exact ⟨(spared.steady last).unmoved (unmoved_tb s₂ tb), fun draws => ((stay draws).steady last).unmoved (unmoved_tb s₂ tb)⟩
  · exact holds_pure ⟨struck.spared, struck.stay⟩

omit known in
/-- A caster who knows the skill. -/
theorem skillEffect_holds (known : tables.tbSkillResult resultid = some result) (sound : s.Sound tables) {caster : Fighter N}
    (there : (s.fighters camp).fighterAt idx = some caster) {skillid : Nat} (knows : (caster.tbSkill skillid).isSome = true)
    {row : SkillRow N} (skill : tables.tbSkill skillid = some row) {tbTarget : List Nat}
    (aimed : Aimed (result.effect.isCall = false ∧ ¬ row.blind) (s.fighters targetCamp) tbTarget) (rein : Bool) :
    Holds (faultlessPlay tables) (skillEffect tables camp targetCamp idx skillid result tbTarget rein) s fun _ s' =>
      s'.Sound tables := by
  obtain ⟨lvl, level⟩ := Option.isSome_iff_exists.mp knows
  unfold skillEffect
  refine holds_fighter_bind there (holds_indexed_bind level ?_)
  refine holds_bind (holds_foldlM (fun rest _ s' => s'.Sound tables ∧
    (result.effect.drawsBingo = false → (s'.fighters camp).present idx = true) ∧
    Aimed (result.effect.isCall = false ∧ ¬ row.blind) (s'.fighters targetCamp) rest) ?_
    ⟨sound, fun _ => present_of_fighterAt there, aimed⟩) ?_
  · rintro target rest effects s' ⟨sound', alive, aimed'⟩
    obtain ⟨apart, later⟩ := List.nodup_cons.mp aimed'.apart
    have here (call : result.effect.isCall = false) (blind : ¬ row.blind) : (s'.fighters targetCamp).present target = true :=
      aimed'.present ⟨call, blind⟩ target (List.mem_cons_self ..)
    refine (strike_holds whole known sound' skill alive here lvl rein effects).mono ?_
    rintro _ s'' ⟨spared, stay⟩
    refine ⟨spared.sound, fun draws => (stay draws).present camp idx (alive draws), later, fun looked pos member => ?_⟩
    refine spared.present targetCamp pos (fun same => apart ((Prod.mk.inj same).2 ▸ member)) ?_
    exact aimed'.present looked pos (List.mem_cons_of_mem _ member)
  · rintro effects s₁ ⟨sound₁, -, -⟩
    have cures (s₂ : Field N) (sound₂ : s₂.Sound tables) :
        Holds (faultlessPlay tables) (do
          if effects.bCurl then
            let buff ← condCampAllExceptMe tables .ourCurl camp idx
            modifyTb fun tb => { tb with curlBuff := buff }
          checkEndSkill) s₂ fun _ s' => s'.Sound tables := by
      dsimp only
      split
      · refine holds_bind (condCampAllExceptMe_holds whole sound₂ _ _ _) fun buff s₃ met => holds_modify_bind ?_
        refine checkEndSkill_holds.mono ?_
        rintro _ _ rfl
        exact ⟨met.1.sides, met.1.queue⟩
      · refine checkEndSkill_holds.mono ?_
        rintro _ _ rfl
        exact sound₂
    dsimp only
    split
    · refine holds_bind (condMe_holds whole sound₁ _ _ _) fun buff s₂ met => ?_
      exact holds_modify_bind (cures _ ⟨met.1.sides, met.1.queue⟩)
    · exact cures s₁ sound₁

end

end Tinygame.Fight
