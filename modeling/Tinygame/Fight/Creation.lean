import Tinygame.Fight.StatusFaults

/-!
# Fighters are sound when they are built

What `initTemplete` makes of well-formed fight info, and what `createFromPlayer` and `createFromMonsterBox` make
of well-formed teams and tables: a side on which everybody knows the skills it casts.
-/

namespace Tinygame.Fight
variable {N : Type} [Number N] {tables : Tables N}

/-! ### Learning -/

section
variable {fighter : Fighter N}

omit [Number N] in
theorem learn_knows (fighter : Fighter N) (id : Nat) (lvl : N) : ((fighter.learn id lvl).tbSkill id).isSome := by
  show (Function.update fighter.tbSkill id (some lvl) id).isSome
  rw [Function.update_self]
  rfl

omit [Number N] in
theorem learn_keeps (fighter : Fighter N) (id : Nat) (lvl : N) {other : Nat} (knows : (fighter.tbSkill other).isSome) :
    ((fighter.learn id lvl).tbSkill other).isSome := by
  show (Function.update fighter.tbSkill id (some lvl) other).isSome
  by_cases same : other = id
  · rw [same, Function.update_self]
    rfl
  · rw [Function.update_of_ne same]
    exact knows

omit [Number N] in
theorem Fighter.Sound.learn (sound : fighter.Sound tables) (id : Nat) (lvl : N) : (fighter.learn id lvl).Sound tables where
  attacks i first last := ⟨(sound.attacks i first last).1, learn_keeps _ _ _ (sound.attacks i first last).2⟩
  wheel wheel found := ⟨(sound.wheel wheel found).1, fun id member =>
    ⟨((sound.wheel wheel found).2 id member).1, learn_keeps _ _ _ ((sound.wheel wheel found).2 id member).2⟩⟩
  cost := sound.cost
  statuses := sound.statuses

end

/-! ### Statuses and skills -/

/-- What is left to show of a fighter before it knows its attacks. -/
structure Trained (tables : Tables N) (config : Info N) (kind : TargetType) (templete : Fighter N) : Prop where
  type : templete.type = kind
  normalattack : templete.normalattack = config.normalattack
  cost : kind = .summon → templete.cost.isSome
  wheel : ∀ wheel, templete.roundSkill = some wheel → wheel.skill.length = wheel.prop.length ∧
    ∀ id ∈ wheel.skill, SkillKnown tables id ∧ (templete.tbSkill id).isSome
  statuses : ∀ status ∈ templete.status, StatusKnown tables status.id

theorem trained_template (tables : Tables N) (config : Info N) (id : Nat) (kind : TargetType) :
    Trained tables config kind (template config id kind) where
  type := rfl
  normalattack := rfl
  cost summon := by
    subst summon
    rfl
  wheel _ found := by cases found
  statuses _ member := by cases member

section
variable {config : Info N} {kind : TargetType} {templete : Fighter N}

omit [Number N] in
theorem Trained.learn (trained : Trained tables config kind templete) (id : Nat) (lvl : N) :
    Trained tables config kind (templete.learn id lvl) where
  type := trained.type
  normalattack := trained.normalattack
  cost := trained.cost
  wheel wheel found := ⟨(trained.wheel wheel found).1, fun id member =>
    ⟨((trained.wheel wheel found).2 id member).1, learn_keeps _ _ _ ((trained.wheel wheel found).2 id member).2⟩⟩
  statuses := trained.statuses

theorem initStatus_trained (trained : Trained tables config kind templete) {ids : Option (List Nat)}
    (known : ∀ id ∈ ids.getD [], StatusKnown tables id) :
    ∃ after, initStatus tables templete ids = some after ∧ Trained tables config kind after ∧ after.tbSkill = templete.tbSkill := by
  unfold initStatus
  refine foldlM_succeeds (fun after => Trained tables config kind after ∧ after.tbSkill = templete.tbSkill) ?_ ⟨trained, rfl⟩
  rintro fighter id member ⟨trained, same⟩
  obtain ⟨after, yes, ran, build, statuses⟩ := addStatus_known trained.statuses (known id member) fighter.nLVL
  have tbSkill : after.tbSkill = fighter.tbSkill := congrArg Build.tbSkill build
  have roundSkill : after.roundSkill = fighter.roundSkill := congrArg Build.roundSkill build
  have cost : after.cost = fighter.cost := congrArg Build.cost build
  rw [ran]
  refine ⟨after, rfl, ⟨?_, ?_, ?_, ?_, statuses⟩, tbSkill.trans same⟩
  · exact (congrArg Build.type build).trans trained.type
  · exact (congrArg Build.normalattack build).trans trained.normalattack
  · rw [cost]
    exact trained.cost
  · rw [roundSkill, tbSkill]
    exact trained.wheel

omit [Number N] in
theorem initSummonSkill_trained (trained : Trained tables config kind templete) {skills : Option (List Nat)}
    (known : ∀ id ∈ skills.getD [], SkillKnown tables id) :
    ∃ after, initSummonSkill tables templete skills = some after ∧ Trained tables config kind after := by
  have begun : Trained tables config kind { templete with roundSkill := some (templete.roundSkill.getD .empty) } := by
    refine ⟨trained.type, trained.normalattack, trained.cost, fun wheel found => ?_, trained.statuses⟩
    obtain rfl := Option.some.inj found
    cases before : templete.roundSkill with
    | none => exact ⟨rfl, fun id member => by cases member⟩
    | some wheel => exact trained.wheel wheel before
  unfold initSummonSkill
  refine foldlM_succeeds (fun after => Trained tables config kind after) ?_ begun
  intro fighter id member trained
  obtain ⟨row, found⟩ := Option.isSome_iff_exists.mp (known id member)
  rw [found]
  refine ⟨_, rfl, trained.type, trained.normalattack, trained.cost, fun wheel grown => ?_, trained.statuses⟩
  obtain rfl := Option.some.inj grown
  have before : (fighter.roundSkill.getD .empty).skill.length = (fighter.roundSkill.getD .empty).prop.length ∧
      ∀ id ∈ (fighter.roundSkill.getD .empty).skill, SkillKnown tables id ∧ (fighter.tbSkill id).isSome := by
    cases wheel : fighter.roundSkill with
    | none => exact ⟨rfl, fun id member => by cases member⟩
    | some wheel' => exact trained.wheel wheel' wheel
  refine ⟨?_, fun other listed => ?_⟩
  · show (_ ++ [id]).length = (_ ++ [row.probability]).length
    rw [List.length_append, List.length_append, before.1]
    rfl
  · rcases List.mem_append.mp listed with listed | last
    · exact ⟨(before.2 other listed).1, learn_keeps _ _ _ (before.2 other listed).2⟩
    · obtain rfl := List.mem_singleton.mp last
      exact ⟨known other member, learn_knows _ _ _⟩

theorem learnAttacks_trained (trained : Trained tables config kind templete) (list : List Nat) :
    Trained tables config kind (learnAttacks list templete) ∧
      (∀ id, (templete.tbSkill id).isSome → ((learnAttacks list templete).tbSkill id).isSome) ∧
      ∀ i ∈ list, ((learnAttacks list templete).tbSkill (config.normalattack i)).isSome := by
  induction list generalizing templete with
  | nil => exact ⟨trained, fun _ knows => knows, fun i member => by cases member⟩
  | cons i rest ih =>
    obtain ⟨last, keeps, learnt⟩ := ih (trained.learn (templete.normalattack i) (num 0))
    refine ⟨last, fun id knows => keeps id (learn_keeps _ _ _ knows), fun j member => ?_⟩
    rcases List.mem_cons.mp member with rfl | member
    · rw [← trained.normalattack]
      exact keeps _ (learn_knows _ _ _)
    · exact learnt j member

theorem learnAttacks_sound (whole : config.WellFormed tables) (trained : Trained tables config kind templete) :
    (learnAttacks (positions MIN_COST MAX_COST) templete).Sound tables := by
  obtain ⟨last, -, learnt⟩ := learnAttacks_trained trained (positions MIN_COST MAX_COST)
  refine ⟨fun i first final => ?_, last.wheel, fun summon => last.cost (last.type.symm.trans summon), last.statuses⟩
  rw [last.normalattack]
  exact ⟨whole.attacks i first final, learnt i (List.mem_range'_1.mpr ⟨first, by omega⟩)⟩

end

/-- A creature of the table is sound. -/
theorem initSummon_sound (whole : tables.WellFormed) {monsterid : Nat} (there : (tables.tbMonster monsterid).isSome) :
    ∃ summon, initSummon tables monsterid = some summon ∧ summon.Sound tables ∧ summon.type = .summon := by
  obtain ⟨row, found⟩ := Option.isSome_iff_exists.mp there
  have info := whole.monsters monsterid row found
  obtain ⟨skilled, first, trained⟩ := initSummonSkill_trained (trained_template tables row.toInfo monsterid .summon) info.skills
  obtain ⟨last, second, trained, -⟩ := initStatus_trained trained info.statuses
  refine ⟨_, ?_, learnAttacks_sound info trained, (learnAttacks_trained trained _).1.type⟩
  · unfold initSummon initTemplete
    rw [found]
    simp only [Option.bind_eq_bind, Option.bind_some, reduceCtorEq, if_false]
    rw [first]
    simp only [Option.map_some, Option.bind_some]
    rw [second]
    rfl

/-! ### The wheels of a side -/

/-- Each entry of the wheels meets `P`. -/
def WheelsMeet (P : Nat × Nat → Prop) (side : Side N) : Prop :=
  ∀ cost wheel, side.roundSkill cost = some wheel → wheel.skill.length = wheel.prop.length ∧ ∀ entry ∈ wheel.skill, P entry

/-- The hero of an entry stands where the entry says and knows the skill. -/
def Backed (tables : Tables N) (side : Side N) (entry : Nat × Nat) : Prop :=
  SkillKnown tables entry.1 ∧
    ∃ post, side.posts entry.2 = some post ∧ post.fighter.type = .hero ∧ (post.fighter.tbSkill entry.1).isSome

section
omit [Number N]
variable {P Q : Nat × Nat → Prop} {side : Side N}

theorem WheelsMeet.mono (meet : WheelsMeet P side) (weaken : ∀ entry, P entry → Q entry) : WheelsMeet Q side :=
  fun cost wheel found => ⟨(meet cost wheel found).1, fun entry member => weaken entry ((meet cost wheel found).2 entry member)⟩

theorem WheelsMeet.add (meet : WheelsMeet P side) (cost : Int) {skill : Nat × Nat} (new : P skill) (prop : N) :
    WheelsMeet P { side with roundSkill := Wheel.add side.roundSkill cost skill prop } := by
  have before : ((side.roundSkill cost).getD .empty).skill.length = ((side.roundSkill cost).getD .empty).prop.length ∧
      ∀ entry ∈ ((side.roundSkill cost).getD .empty).skill, P entry := by
    cases found : side.roundSkill cost with
    | none => exact ⟨rfl, fun entry member => by cases member⟩
    | some wheel => exact meet cost wheel found
  intro other wheel found
  have found : Function.update side.roundSkill cost _ other = some wheel := found
  by_cases same : other = cost
  · rw [same, Function.update_self] at found
    obtain rfl := Option.some.inj found
    refine ⟨?_, fun entry member => ?_⟩
    · show (_ ++ [skill]).length = (_ ++ [prop]).length
      rw [List.length_append, List.length_append, before.1]
      rfl
    · rcases List.mem_append.mp member with member | last
      · exact before.2 entry member
      · exact List.mem_singleton.mp last ▸ new
  · rw [Function.update_of_ne same] at found
    exact meet other wheel found

/-- What `initHeroSkill` does to a side whose wheels meet `P`, and to the hero. -/
structure Skilled (tables : Tables N) (config : Info N) (P : Nat × Nat → Prop) (side : Side N) (pos : Nat)
    (built : Side N × Fighter N) : Prop where
  posts : built.1.posts = side.posts
  addCost : built.1.addCost = side.addCost
  trained : Trained tables config .hero built.2
  wheels : WheelsMeet (fun entry => P entry ∨ entry.2 = pos ∧ SkillKnown tables entry.1 ∧ (built.2.tbSkill entry.1).isSome) built.1

theorem initHeroSkill_skilled {config : Info N} {templete : Fighter N} (trained : Trained tables config .hero templete)
    (meet : WheelsMeet P side) {skills : Option (List Nat)} (known : ∀ id ∈ skills.getD [], SkillKnown tables id)
    (levels : Option (Int → Option N)) (pos : Nat) :
    ∃ built, initHeroSkill tables side templete skills levels pos = some built ∧ Skilled tables config P side pos built := by
  unfold initHeroSkill
  refine foldlM_succeeds (Skilled tables config P side pos) ?_ ⟨rfl, rfl, trained, meet.mono fun _ => .inl⟩
  intro built id member skilled
  obtain ⟨row, found⟩ := Option.isSome_iff_exists.mp (known id member)
  rw [found]
  refine ⟨_, rfl, skilled.posts, skilled.addCost, skilled.trained.learn _ _, ?_⟩
  have grown := skilled.wheels.mono (Q := fun entry => P entry ∨ entry.2 = pos ∧ SkillKnown tables entry.1 ∧
    ((built.2.learn id (slotLevel levels row)).tbSkill entry.1).isSome) fun entry met =>
      met.imp_right fun ⟨there, known, knows⟩ => ⟨there, known, learn_keeps _ _ _ knows⟩
  exact grown.add row.cost (.inr ⟨rfl, known id member, learn_knows _ _ _⟩) row.probability

end

/-! ### Building a side -/

/-- The positions of a side under construction at which somebody is. -/
structure Building (tables : Tables N) (side : Side N) (taken : Nat → Prop) : Prop where
  sound : side.Sound tables
  taken : ∀ pos post, side.posts pos = some post → taken pos

theorem building_empty (tables : Tables N) : Building tables (Side.empty : Side N) fun _ => False where
  sound := ⟨nofun, nofun, le_rfl⟩
  taken _ _ found := by cases found

/-- What `initTemplete` makes of a side with sound wheels. -/
theorem initTemplete_fields {side side' : Side N} {config : Info N} (info : config.WellFormed tables) {id pos : Nat}
    {kind : TargetType} {templete : Fighter N} (ran : initTemplete tables side config id kind pos = some (side', templete))
    (meet : WheelsMeet (Backed tables side) side) :
    side'.posts = side.posts ∧ side'.addCost = side.addCost ∧ templete.Sound tables ∧ templete.type = kind ∧
      WheelsMeet (fun entry => Backed tables side entry ∨
        entry.2 = pos ∧ SkillKnown tables entry.1 ∧ kind = .hero ∧ (templete.tbSkill entry.1).isSome) side' := by
  have begun := trained_template tables config id kind
  obtain ⟨skilled, last, second, rfl, first⟩ := initTemplete_cases ran
  cases kind with
  | hero =>
    have meet : WheelsMeet (Backed tables side)
        { side with
          totalHP := side.totalHP + (template config id .hero).nMaxHP
          MaxHP := side.MaxHP + (template config id .hero).nMaxHP } := meet
    obtain ⟨⟨side', hero⟩, built, posts, addCost, trained, wheels⟩ :=
      initHeroSkill_skilled begun meet info.skills config.skill_lvl pos
    obtain ⟨rfl, rfl⟩ := Prod.mk.inj (Option.some.inj (built.symm.trans first))
    obtain ⟨final, third, trained, tbSkill⟩ := initStatus_trained trained info.statuses
    obtain rfl := Option.some.inj (third.symm.trans second)
    obtain ⟨all, keeps, -⟩ := learnAttacks_trained trained (positions MIN_COST MAX_COST)
    refine ⟨posts, addCost, learnAttacks_sound info trained, all.type, wheels.mono fun entry met => ?_⟩
    exact met.imp_right fun ⟨there, known, knows⟩ => ⟨there, known, rfl, keeps _ (tbSkill ▸ knows)⟩
  | summon =>
    obtain ⟨rfl, first⟩ := first
    obtain ⟨creature, built, trained⟩ := initSummonSkill_trained begun info.skills
    obtain rfl := Option.some.inj (built.symm.trans first)
    obtain ⟨final, third, trained, -⟩ := initStatus_trained trained info.statuses
    obtain rfl := Option.some.inj (third.symm.trans second)
    exact ⟨rfl, rfl, learnAttacks_sound info trained, (learnAttacks_trained trained _).1.type, meet.mono fun _ => .inl⟩

/-- A fighter of the table takes an empty position. -/
theorem initTemplete_building {side : Side N} {taken : Nat → Prop} (building : Building tables side taken) {config : Info N}
    (info : config.WellFormed tables) (id : Nat) (kind : TargetType) {pos : Nat} (free : ¬ taken pos)
    (placed : kind = .hero → P_HEAD_RIGHT < pos) {side' : Side N} {templete : Fighter N}
    (ran : initTemplete tables side config id kind pos = some (side', templete)) :
    Building tables (side'.setPost pos (some ⟨templete, []⟩)) fun other => other = pos ∨ taken other := by
  obtain ⟨sound, held⟩ := building
  have empty : side.posts pos = none := by
    cases there : side.posts pos with
    | none => rfl
    | some post => exact absurd (held pos post there) free
  obtain ⟨same, addCost, whole, type, wheels⟩ := initTemplete_fields info ran sound.wheels
  have posts (other : Nat) (post : Post N) (there : (side'.setPost pos (some ⟨templete, []⟩)).posts other = some post) :
      other = pos ∧ post = ⟨templete, []⟩ ∨ side.posts other = some post := by
    by_cases here : other = pos
    · subst here
      rw [Side.setPost_posts_self] at there
      exact .inl ⟨rfl, (Option.some.inj there).symm⟩
    · rw [Side.setPost_posts_ne _ _ here, same] at there
      exact .inr there
  refine ⟨⟨fun other post there => ?_, fun cost wheel found => ?_, ?_⟩, fun other post there => ?_⟩
  · rcases posts other post there with ⟨rfl, rfl⟩ | before
    · exact ⟨whole, fun _ member => absurd member List.not_mem_nil, fun hero => placed (type.symm.trans hero)⟩
    · exact sound.posts other post before
  · refine ⟨(wheels cost wheel found).1, fun entry member => ?_⟩
    rcases (wheels cost wheel found).2 entry member with ⟨known, post, there, hero, knows⟩ | ⟨rfl, known, hero, knows⟩
    · refine ⟨known, post, ?_, hero, knows⟩
      have apart : entry.2 ≠ pos := by
        intro here
        rw [here, empty] at there
        cases there
      rw [Side.setPost_posts_ne _ _ apart, same]
      exact there
    · exact ⟨known, ⟨templete, []⟩, Side.setPost_posts_self .., type.trans hero, knows⟩
  · show 0 ≤ side'.addCost
    rw [addCost]
    exact sound.addCost
  · rcases posts other post there with ⟨here, -⟩ | before
    · exact .inl here
    · exact .inr (held other post before)

/-! ### Combo skills -/

omit [Number N] in
/-- A fighter that learns a skill forgets none. -/
theorem Side.Sound.learn {side : Side N} (sound : side.Sound tables) (pos id : Nat) (lvl : Fighter N → N) :
    (side.modifyFighter pos fun fighter => fighter.learn id (lvl fighter)).Sound tables := by
  have grown (other : Nat) (post : Post N) (there : side.posts other = some post) :
      ∃ after, (side.modifyFighter pos fun fighter => fighter.learn id (lvl fighter)).posts other = some after ∧
        after.fighter.type = post.fighter.type ∧
        ∀ skill, (post.fighter.tbSkill skill).isSome → (after.fighter.tbSkill skill).isSome := by
    unfold Side.modifyFighter
    by_cases here : other = pos
    · subst here
      rw [Side.setPost_posts_self, there]
      exact ⟨_, rfl, rfl, fun skill knows => learn_keeps _ _ _ knows⟩
    · rw [Side.setPost_posts_ne _ _ here]
      exact ⟨post, there, rfl, fun _ knows => knows⟩
  refine ⟨fun other post there => ?_, fun cost wheel found => ?_, sound.addCost⟩
  · unfold Side.modifyFighter at there
    by_cases here : other = pos
    · subst here
      rw [Side.setPost_posts_self] at there
      obtain ⟨before, was, rfl⟩ := Option.map_eq_some_iff.mp there
      have whole := sound.posts other before was
      exact ⟨whole.fighter.learn _ _, whole.next, whole.front⟩
    · rw [Side.setPost_posts_ne _ _ here] at there
      exact sound.posts other post there
  · refine ⟨(sound.wheels cost wheel found).1, fun entry member => ?_⟩
    obtain ⟨known, post, there, hero, knows⟩ := (sound.wheels cost wheel found).2 entry member
    obtain ⟨after, found, type, keeps⟩ := grown entry.2 post there
    exact ⟨known, after, found, type.trans hero, keeps entry.1 knows⟩

omit [Number N] in
theorem addCombos_sound {comboid : Nat → Option (Option (List Nat))} {level : Fighter N → SkillRow N → N} {side side' : Side N}
    (sound : side.Sound tables) (ran : addCombos tables comboid level side = some side') : side'.Sound tables := by
  unfold addCombos at ran
  refine foldlM_ran (fun _ side => side.Sound tables) (fun i _ side side' sound ran => ?_) sound ran
  split at ran
  · exact Option.some.inj ran ▸ sound
  · obtain ⟨combo, -, ran⟩ := Option.bind_eq_some_iff.mp ran
    refine foldlM_ran (fun _ side => side.Sound tables) (fun comboid _ side side' sound ran => ?_) sound ran
    unfold addCombo at ran
    obtain ⟨row, -, ran⟩ := Option.bind_eq_some_iff.mp ran
    obtain rfl := Option.some.inj ran
    apply Side.Sound.learn
    split
    · exact ⟨sound.posts, sound.wheels, sound.addCost⟩
    · exact sound

/-! ### The two ways to build a fighter -/

theorem createFromPlayer_sound {team : List (HeroInfo N)} (whole : TeamWellFormed tables team) {side : Side N}
    (ran : createFromPlayer tables team = some side) : side.Sound tables := by
  unfold createFromPlayer at ran
  obtain ⟨built, placed, ran⟩ := Option.bind_eq_some_iff.mp ran
  refine addCombos_sound ?_ ran
  have inv := foldlM_ran (fun rest side => ∃ before, team = before ++ rest ∧
    Building tables side fun pos => pos ∈ before.map HeroInfo.pos) ?_ ⟨[], rfl, ?_⟩ placed
  · obtain ⟨_, _, building⟩ := inv
    exact building.sound
  · rintro hero rest side side' ⟨before, rfl, building⟩ step
    have member : hero ∈ before ++ hero :: rest := List.mem_append_right _ (List.mem_cons_self ..)
    obtain ⟨⟨middle, templete⟩, first, last⟩ := Option.bind_eq_some_iff.mp step
    obtain rfl := Option.some.inj last
    have free : hero.pos ∉ before.map HeroInfo.pos := by
      have apart := whole.apart
      rw [List.map_append, List.map_cons] at apart
      exact fun there => (List.nodup_append.mp apart).2.2 _ there _ (List.mem_cons_self ..) rfl
    have next := initTemplete_building building (whole.infos hero member) hero.id .hero free
      (fun _ => whole.placed hero member) first
    refine ⟨before ++ [hero], by simp, next.sound, fun pos post there => ?_⟩
    rcases next.taken pos post there with rfl | held
    · simp
    · rw [List.map_append]
      exact List.mem_append_left _ held
  · exact ⟨(building_empty tables).sound, fun pos post there => absurd there nofun⟩

theorem createFromMonsterBox_sound (whole : tables.WellFormed) {boxid : Nat} {side : Side N}
    (ran : createFromMonsterBox tables boxid = some (some side)) : side.Sound tables := by
  unfold createFromMonsterBox at ran
  split at ran
  · cases ran
  · rename_i tbConfig _
    obtain ⟨built, placed, ran⟩ := Option.bind_eq_some_iff.mp ran
    obtain ⟨_, combos, last⟩ := Option.bind_eq_some_iff.mp ran
    obtain rfl := Option.some.inj (Option.some.inj last)
    refine addCombos_sound ?_ combos
    have inv := foldlM_ran (fun rest side => ∃ first, rest = List.range' first rest.length ∧
      Building tables side fun pos => pos < first) ?_ ⟨P_HEAD_LEFT, rfl, ?_⟩ placed
    · obtain ⟨_, _, building⟩ := inv
      exact building.sound
    · rintro i rest side side' ⟨first, places, building⟩ step
      rw [List.length_cons, List.range'_succ] at places
      obtain ⟨rfl, places⟩ := List.cons.inj places
      refine ⟨i + 1, places, ?_⟩
      split at step
      · obtain rfl := Option.some.inj step
        exact ⟨building.sound, fun pos post there => Nat.lt_succ_of_lt (building.taken pos post there)⟩
      · rename_i monsterid _
        obtain ⟨row, found, step⟩ := Option.bind_eq_some_iff.mp step
        obtain ⟨⟨middle, templete⟩, ran, last⟩ := Option.bind_eq_some_iff.mp step
        obtain rfl := Option.some.inj last
        have next := initTemplete_building building (whole.monsters monsterid row found) monsterid _ (lt_irrefl i)
          (fun hero => by by_contra front; rw [if_neg front] at hero; cases hero) ran
        refine ⟨next.sound, fun pos post there => ?_⟩
        rcases next.taken pos post there with rfl | before
        · exact Nat.lt_succ_self _
        · exact Nat.lt_succ_of_lt before
    · exact ⟨(building_empty tables).sound, fun pos post there => absurd there nofun⟩

end Tinygame.Fight
