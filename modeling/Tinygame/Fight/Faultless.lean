import Tinygame.Fight.SkillFaults
import Tinygame.Fight.CastBound

/-!
# Fights run without a fault

Skills are chosen, cast and followed by others, turn after turn. From fighters that were built of well-formed
tables, and where each step is careful, a fight meets no error.
-/

namespace Tinygame.Fight
open Traced Battle
variable {N : Type} [Number N] {tables : Tables N}

/-! ### On the field -/

section
variable {fight : FightManager N} {α β : Type}

theorem holds_playTb_bind {f : SkillOp N → SkillOp N} {next : Unit → Battle N β} {post : β → FightManager N → Prop}
    (rest : ∀ tb, Holds (faultless tables) (next ()) { fight with field := { fight.field with tb := tb } } post) :
    Holds (faultless tables) (play (Play.modifyTb f) >>= next) fight post :=
  holds_played_bind rfl (rest _)

theorem holds_playFighter_bind {camp : Camp} {pos : Nat} {there : Fighter N} {next : Fighter N → Battle N β}
    {post : β → FightManager N → Prop} (found : (fight.field.fighters camp).fighterAt pos = some there)
    (rest : Holds (faultless tables) (next there) fight post) :
    Holds (faultless tables) (play (Play.fighter camp pos) >>= next) fight post := by
  have ran : Holds (faultlessPlay tables) (Play.fighter camp pos) fight.field fun result field => result = there ∧ field = fight.field := by
    unfold Play.fighter
    apply holds_fighter?_bind
    rw [found]
    exact holds_pure ⟨rfl, rfl⟩
  refine holds_play_bind ran ?_
  rintro _ _ ⟨rfl, rfl⟩
  exact rest

theorem holds_playFighter?_bind {camp : Camp} {pos : Nat} {next : Option (Fighter N) → Battle N β}
    {post : β → FightManager N → Prop} (rest : Holds (faultless tables) (next ((fight.field.fighters camp).fighterAt pos)) fight post) :
    Holds (faultless tables) (play (Play.fighter? camp pos) >>= next) fight post :=
  holds_played_bind rfl rest

theorem holds_playSide_bind {camp : Camp} {next : Side N → Battle N β} {post : β → FightManager N → Prop}
    (rest : Holds (faultless tables) (next (fight.field.fighters camp)) fight post) :
    Holds (faultless tables) (play (side camp) >>= next) fight post :=
  holds_played_bind rfl rest

theorem holds_playIndexed_bind {value : Option α} {result : α} {next : α → Battle N β} {post : β → FightManager N → Prop}
    (found : value = some result) (rest : Holds (faultless tables) (next result) fight post) :
    Holds (faultless tables) (play (Play.indexed value) >>= next) fight post := by
  subst found
  exact holds_played_bind rfl rest

/-- What is drawn from a wheel is 0 or one of its places. -/
theorem holds_playIndex_bind {tbPro : List N} {next : Nat → Battle N β} {post : β → FightManager N → Prop}
    (rest : ∀ drawn seed, drawn ≤ tbPro.length →
      Holds (faultless tables) (next drawn) { fight with field := { fight.field with seed := seed } } post) :
    Holds (faultless tables) (play (Play.getRandomIndex tbPro) >>= next) fight post := by
  refine holds_play_bind (getRandomIndex_holds tbPro) ?_
  rintro _ _ ⟨rfl, seed, rfl⟩
  exact rest _ seed (getRandomIndex_le _ _)

theorem holds_playRandom_bind {n : Nat} {next : Nat → Battle N β} {post : β → FightManager N → Prop}
    (rest : ∀ drawn seed, (1 ≤ n → 1 ≤ drawn ∧ drawn ≤ n) →
      Holds (faultless tables) (next drawn) { fight with field := { fight.field with seed := seed } } post) :
    Holds (faultless tables) (play (Play.random n) >>= next) fight post :=
  holds_played_bind rfl (rest _ _ (random_range _))

end

/-! ### Casting -/

/-- The skill has a row, and whoever stands there knows it, unless it comes from the queue. -/
def Castable (tables : Tables N) (field : Field N) (camp : Camp) (idx skillid : Nat) (rein : Bool) : Prop :=
  SkillKnown tables skillid ∧ (rein = false →
    ∀ caster, (field.fighters camp).fighterAt idx = some caster → (caster.tbSkill skillid).isSome = true)

/-- A way to cast that meets no error. -/
def CastHolds (tables : Tables N) (cast : Cast N) : Prop :=
  ∀ camp idx skillid rein (fight : FightManager N), fight.field.Sound tables → Castable tables fight.field camp idx skillid rein →
    Holds (faultless tables) (cast camp idx skillid rein) fight fun _ fight' => fight'.field.Sound tables

theorem castConditions_holds (whole : tables.WellFormed) {s : Field N} (sound : s.Sound tables) (camp : Camp) (idx : Nat)
    (effect : SkillEffect N) :
    Holds (faultlessPlay tables) (castConditions tables camp idx effect) s fun _ s' => Steady tables s s' := by
  have ofEffect (condition : ConditionType) (s₂ : Field N) (steady : Steady tables s s₂) :
      Holds (faultlessPlay tables) (condCampAllExceptMe tables condition camp idx) s₂ fun _ s' => Steady tables s s' :=
    (condCampAllExceptMe_holds whole steady.sound condition camp idx).mono fun _ _ met => steady.trans ⟨met.1, met.2⟩
  unfold castConditions
  refine holds_bind (condMe_holds whole sound _ _ _) fun own s₁ own' => ?_
  have steady₁ : Steady tables s s₁ := ⟨own'.1, own'.2⟩
  refine holds_bind (ofEffect _ _ steady₁) fun ours s₂ steady₂ => ?_
  refine holds_bind (condCampAll_holds whole steady₂.sound _ _) fun theirs s₃ theirs' => ?_
  have steady₃ : Steady tables s s₃ := steady₂.trans ⟨theirs'.1, theirs'.2⟩
  dsimp only
  split <;> exact holds_bind (ofEffect _ _ steady₃) fun _ _ steady => holds_pure steady

section
variable {fight : FightManager N}

theorem takeEffect_holds (whole : tables.WellFormed) (sound : fight.field.Sound tables) {camp : Camp} {idx skillid : Nat} {rein : Bool}
    (castable : Castable tables fight.field camp idx skillid rein) :
    Holds (faultless tables) (takeEffect tables camp idx skillid rein) fight fun _ fight' => fight'.field.Sound tables := by
  obtain ⟨row, found⟩ := Option.isSome_iff_exists.mp castable.1
  obtain ⟨result, known⟩ := Option.isSome_iff_exists.mp (whole.results skillid row found)
  unfold takeEffect
  apply holds_playFighter?_bind
  split
  · exact holds_pure sound
  · rename_i caster there
    refine holds_playIndexed_bind found (holds_playIndexed_bind known (holds_play_bind (castConditions_holds whole sound _ _ _) ?_))
    intro buff field steady
    obtain ⟨caster', there', build⟩ := steady.kept.fighter there
    refine holds_playTb_bind fun tb => holds_mark_bind fun careful => ⟨trivial, ?_⟩
    have sound₁ : Field.Sound tables { field with tb := tb } := ⟨steady.sound.sides, steady.sound.queue⟩
    -- the search looks, or the draw of the hits does
    let looked : Prop := result.effect.isCall = false ∧ ¬ row.blind ∨ result.effect.drawsBingo = true ∧ row.hittype ≠ .must
    have calls (met : looked) : result.effect.isCall = false := by
      rcases met with met | ⟨draws, -⟩
      · exact met.1
      · cases effect : result.effect with
        | call monsterid =>
          rw [effect] at draws
          cases draws
        | _ => rfl
    refine holds_play_bind
      (searchTarget_holds whole sound₁ found careful.1 calls (fun met self => ?_) there' fun met line ret seen => ?_) ?_
    · exact met.elim (fun met => absurd (.inl self) met.2) fun met => (careful.2 met.1 met.2).1 self
    · exact met.elim (fun met => absurd (.inr line) met.2) fun met => (careful.2 met.1 met.2).2 line caster' ret there' seen
    rintro tbTarget _ ⟨⟨seed, rfl⟩, aimed⟩
    have sound₂ : Field.Sound tables { field with seed := seed, tb := tb } := ⟨steady.sound.sides, steady.sound.queue⟩
    split
    · exact holds_pure sound₂
    · refine holds_playTb_bind fun tb => holds_play_bind (hitTargets_holds (present_of_fighterAt there') fun draws may =>
        aimed.present (.inr ⟨draws, may⟩)) ?_
      rintro hit _ ⟨⟨seed, tb, rfl⟩, part⟩
      have sound₃ : Field.Sound tables { field with seed := seed, tb := tb } := ⟨steady.sound.sides, steady.sound.queue⟩
      split
      · exact holds_pure sound₃
      · refine holds_mark_bind fun careful => ⟨trivial, ?_⟩
        have knows : (caster'.tbSkill skillid).isSome = true := by
          have same : caster'.tbSkill = caster.tbSkill := congrArg Build.tbSkill build
          cases waited : rein with
          | true => exact careful waited caster' there'
          | false => exact same ▸ castable.2 waited caster there
        have shot : Aimed (result.effect.isCall = false ∧ ¬ row.blind)
          (field.fighters (if row.camp = 1 then camp else getObsCamp camp)) hit :=
          ⟨part.nodup aimed.apart, fun met pos member => aimed.present (.inl met) pos (part.subset member)⟩
        refine holds_play_bind (skillEffect_holds whole known sound₃ there' knows found shot rein) fun _ field sound => ?_
        exact holds_pure sound

theorem endCast_holds (sound : fight.field.Sound tables) :
    Holds (faultless tables) (endCast : Battle N Unit) fight fun _ fight' => fight'.field.Sound tables :=
  holds_modify_bind (holds_read_bind (holds_modify sound))

/-! ### Choosing a skill -/

omit [Number N] in
theorem getNormalAtk_known {fighter : Fighter N} (sound : fighter.Sound tables) (cost : Nat) :
    SkillKnown tables (getNormalAtk fighter.normalattack cost) ∧
      (fighter.tbSkill (getNormalAtk fighter.normalattack cost)).isSome = true := by
  unfold getNormalAtk
  split
  · rename_i inside
    exact sound.attacks cost inside.1 inside.2
  · exact sound.attacks MAX_COST (by decide) le_rfl

variable {cast : Cast N} (holds : CastHolds tables cast) (sound : fight.field.Sound tables)
include holds sound

/-- The fighter who stands there casts a skill it knows. -/
theorem cast_known {camp : Camp} {idx skillid : Nat} {fighter : Fighter N}
    (there : (fight.field.fighters camp).fighterAt idx = some fighter)
    (known : SkillKnown tables skillid ∧ (fighter.tbSkill skillid).isSome = true) (rein : Bool) :
    Holds (faultless tables) (cast camp idx skillid rein) fight fun _ fight' => fight'.field.Sound tables := by
  refine holds camp idx skillid rein fight sound ⟨known.1, fun _ other found => ?_⟩
  obtain rfl := Option.some.inj (there.symm.trans found)
  exact known.2

theorem castNormalAtk_holds (camp : Camp) :
    Holds (faultless tables) (castNormalAtk cast camp) fight fun _ fight' => fight'.field.Sound tables := by
  unfold castNormalAtk
  apply holds_playSide_bind
  dsimp only
  split
  · exact holds_pure sound
  · rename_i someone
    refine holds_playRandom_bind fun drawn seed inside => ?_
    obtain ⟨first, last⟩ := inside (List.length_pos_iff.mpr someone)
    obtain ⟨pos, place⟩ : ∃ pos, (awake (fight.field.fighters camp))[drawn - 1]? = some pos :=
      ⟨_, List.getElem?_eq_getElem (by omega)⟩
    obtain ⟨hero, there⟩ := Side.present_iff.mp (present_of_any (List.mem_filter.mp (List.mem_of_getElem? place)).2)
    refine holds_playIndexed_bind place (holds_playFighter_bind there (holds_read_bind ?_))
    have sound' : Field.Sound tables { fight.field with seed := seed } := ⟨sound.sides, sound.queue⟩
    apply cast_known holds
    · exact sound'
    · exact there
    · exact getNormalAtk_known ((sound.sides camp).fighter there) _

theorem heroCostSkill_holds (camp : Camp) (cost : Int) (rein : Bool) :
    Holds (faultless tables) (heroCostSkill cast camp cost rein) fight fun _ fight' => fight'.field.Sound tables := by
  unfold heroCostSkill
  apply holds_playSide_bind
  split
  · exact castNormalAtk_holds holds sound camp
  · rename_i wheel found
    obtain ⟨even, entries⟩ := (sound.sides camp).wheels cost wheel found
    refine holds_playIndex_bind fun drawn seed inside => ?_
    have sound' : Field.Sound tables { fight.field with seed := seed } := ⟨sound.sides, sound.queue⟩
    split
    · exact castNormalAtk_holds holds sound' camp
    · obtain ⟨skill, place⟩ : ∃ skill, wheel.skill[drawn - 1]? = some skill := ⟨_, List.getElem?_eq_getElem (by omega)⟩
      obtain ⟨known, post, there, -, knows⟩ := entries _ (List.mem_of_getElem? place)
      have hero : (fight.field.fighters camp).fighterAt skill.2 = some post.fighter :=
        Side.fighterAt_eq_some.mpr ⟨post, there, rfl⟩
      refine holds_playIndexed_bind place (holds_playFighter_bind hero ?_)
      split
      · exact castNormalAtk_holds holds sound' camp
      · apply cast_known holds
        · exact sound'
        · exact hero
        · exact ⟨known, knows⟩

theorem summonCostSkill_holds {camp : Camp} {pos : Nat} (there : (fight.field.fighters camp).present pos = true) (rein : Bool) :
    Holds (faultless tables) (summonCostSkill cast camp pos rein) fight fun _ fight' => fight'.field.Sound tables := by
  obtain ⟨summon, found⟩ := Side.present_iff.mp there
  have whole := (sound.sides camp).fighter found
  unfold summonCostSkill
  refine holds_playFighter_bind found (holds_read_bind ?_)
  dsimp only
  split
  · exact cast_known holds sound found (getNormalAtk_known whole _) false
  · rename_i wheel round
    obtain ⟨even, known⟩ := whole.wheel wheel round
    refine holds_playIndex_bind fun drawn seed inside => ?_
    have sound' : Field.Sound tables { fight.field with seed := seed } := ⟨sound.sides, sound.queue⟩
    split
    · apply cast_known holds
      · exact sound'
      · exact found
      · exact getNormalAtk_known whole _
    · obtain ⟨skill, place⟩ : ∃ skill, wheel.skill[drawn - 1]? = some skill := ⟨_, List.getElem?_eq_getElem (by omega)⟩
      refine holds_playIndexed_bind place ?_
      apply cast_known holds
      · exact sound'
      · exact found
      · exact known _ (List.mem_of_getElem? place)

theorem randomCostSkill_holds {camp : Camp} (cost : Int) {type : TargetType} {pos : Nat}
    (there : type = .summon → (fight.field.fighters camp).present pos = true) (rein : Bool) :
    Holds (faultless tables) (randomCostSkill cast camp cost type pos rein) fight fun _ fight' => fight'.field.Sound tables := by
  cases type with
  | hero => exact heroCostSkill_holds holds sound camp cost rein
  | summon => exact summonCostSkill_holds holds sound (there rfl) rein

/-- Where the skill that waits is one its caster knows. -/
theorem castQueued_holds : Holds (faultless tables) (castQueued cast) fight fun _ fight' => fight'.field.Sound tables := by
  unfold castQueued
  apply holds_read_bind
  split
  · exact holds_pure sound
  · rename_i nextSkill rest queue
    have member (bag : SkillBag) (waits : bag ∈ nextSkill :: rest) : bag ∈ fight.field.SkillQueue := queue ▸ waits
    apply holds_played_bind rfl
    have sound' (tb : SkillOp N) : Field.Sound tables { fight.field with SkillQueue := rest, tb := tb } :=
      ⟨sound.sides, fun bag waits => sound.queue bag (member bag (List.mem_cons_of_mem _ waits))⟩
    refine holds_mark_bind fun careful => ⟨trivial, ?_⟩
    split
    · rename_i id given
      exact holds _ _ _ _ _ (sound' _) ⟨sound.queue nextSkill (member _ (List.mem_cons_self ..)) id given, nofun⟩
    · rename_i cost drawn given
      refine randomCostSkill_holds holds (sound' _) cost (fun summon => ?_) true
      exact careful drawn (fun none' => nomatch given.symm.trans none') summon
    · exact holds_pure (sound' _)

end

section
variable (whole : tables.WellFormed)
include whole

theorem castSkill_holds (fuel : Nat) : CastHolds tables (castSkill tables fuel) := by
  induction fuel with
  | zero =>
    intro camp idx skillid rein fight _ _
    exact holds_stop trivial
  | succ fuel ih =>
    intro camp idx skillid rein fight sound castable
    unfold castSkill
    refine holds_playTb_bind fun tb => holds_mark_bind fun _ => ⟨trivial, holds_read_bind ?_⟩
    split
    · exact holds_playTb_bind fun tb => endCast_holds ⟨sound.sides, sound.queue⟩
    · refine holds_bind (takeEffect_holds whole ?_ ?_) fun goOn fight₁ sound₁ => ?_
      · exact ⟨sound.sides, sound.queue⟩
      · exact castable
      · refine holds_bind (endCast_holds sound₁) fun _ fight₂ sound₂ => ?_
        split
        · exact castQueued_holds ih sound₂
        · exact holds_pure sound₂

/-! ### Turns -/

section
variable {fight : FightManager N} (sound : fight.field.Sound tables)
include sound

omit whole in
/-- A phase begins on a sound field. -/
theorem holds_beginPhase_bind {β : Type} {tb : SkillOp N} {next : Unit → Battle N β} {post : β → FightManager N → Prop}
    (rest : ∀ fight : FightManager N, fight.field.Sound tables → Holds (faultless tables) (next ()) fight post) :
    Holds (faultless tables) (beginPhase tb >>= next) fight post :=
  holds_modify_bind (rest _ ⟨sound.sides, fun _ waits => absurd waits List.not_mem_nil⟩)

/-- Where no combo skill is drawn. -/
theorem doHero_holds (fuel : Nat) (camp : Camp) :
    Holds (faultless tables) (doHero tables fuel camp) fight fun _ fight' => fight'.field.Sound tables := by
  unfold doHero
  refine holds_beginPhase_bind sound fun fight sound => holds_mark_bind fun _ => ⟨trivial, ?_⟩
  refine holds_play_bind (randomSkillCost_holds sound camp) ?_
  rintro cost _ ⟨seed, rfl⟩
  refine holds_playTb_bind fun tb => holds_mark_bind fun careful => ⟨trivial, holds_playSide_bind ?_⟩
  have act (seed : Int) : Holds (faultless tables) (randomCostSkill (castSkill tables fuel) camp cost .hero 0 false)
      { fight with field := { fight.field with seed := seed, tb := tb } } fun _ fight' => fight'.field.Sound tables := by
    apply heroCostSkill_holds (castSkill_holds whole fuel)
    exact ⟨sound.sides, sound.queue⟩
  dsimp only
  split
  · exact act seed
  · rename_i wheel found
    refine holds_play_bind (getRandomIndex_holds _) ?_
    rintro _ _ ⟨rfl, seed', rfl⟩
    rw [careful wheel found, if_neg (lt_irrefl 0)]
    exact act seed'

theorem actSummon_holds (fuel : Nat) (camp : Camp) (i : Nat) :
    Holds (faultless tables) (actSummon tables fuel camp i) fight fun _ fight' => fight'.field.Sound tables := by
  unfold actSummon
  apply holds_playFighter?_bind
  split
  · exact holds_pure sound
  · rename_i summon there
    have dizzy : Holds (faultlessPlay tables) (condDizz camp i) fight.field fun _ field => field = fight.field := by
      unfold condDizz
      exact holds_fighter_bind there (holds_pure rfl)
    refine holds_play_bind dizzy ?_
    rintro dizz _ rfl
    split
    · exact holds_pure sound
    · refine holds_playTb_bind fun tb => summonCostSkill_holds (castSkill_holds whole fuel) ?_ ?_ false
      · exact ⟨sound.sides, sound.queue⟩
      · exact present_of_fighterAt there

theorem doSummon_holds (fuel : Nat) (camp : Camp) :
    Holds (faultless tables) (doSummon tables fuel camp) fight fun _ fight' => fight'.field.Sound tables := by
  unfold doSummon
  refine holds_beginPhase_bind sound fun fight sound => holds_mark_bind fun _ => ⟨trivial, ?_⟩
  refine holds_forM (fun _ (fight : FightManager N) => fight.field.Sound tables) (fun i _ fight sound => ?_) sound
  exact actSummon_holds whole sound fuel camp i

end

end

/-- Where the status that runs out can be removed from whom the script removes it. -/
theorem updateStatus_holds {fight : FightManager N} (sound : fight.field.Sound tables) {camp : Camp} {pos n : Nat} {there : Fighter N}
    (found : (fight.field.fighters camp).fighterAt pos = some there) (inside : n + 1 ≤ there.status.length) :
    Holds (faultless tables) (updateStatus tables camp pos (n + 1)) fight fun _ fight' =>
      fight'.field.Sound tables ∧ ∃ after, (fight'.field.fighters camp).fighterAt pos = some after ∧ n ≤ after.status.length := by
  obtain ⟨status, listed, member⟩ := statusAt inside
  have known := ((sound.sides camp).fighter found).statuses
  unfold updateStatus
  refine holds_playFighter_bind found (holds_playIndexed_bind listed ?_)
  split
  · exact holds_pure ⟨sound, there, found, by omega⟩
  · split
    · refine holds_mark_bind fun careful => ⟨trivial, ?_⟩
      obtain ⟨fighter, other, few⟩ := careful
      refine holds_play_bind (removeAt_holds sound other (by omega) few) ?_
      rintro id field ⟨after, touched, list, elsewhere⟩
      refine holds_modify ⟨touched.sound, ?_⟩
      by_cases same : pos = n + 1
      · rw [← same] at touched other list
        obtain rfl := Option.some.inj (other.symm.trans found)
        refine ⟨after, touched.there, ?_⟩
        rw [list, List.length_eraseIdx]
        split <;> omega
      · exact ⟨there, (elsewhere pos same).trans found, by omega⟩
    · rename_i duration _ _
      have touched := sound.touched (f := fun fighter =>
        { fighter with status := fighter.status.modify (n + 1 - 1) fun status => { status with duration := some (duration - 1) } })
        found rfl (known_modify known _ fun _ => rfl)
      refine holds_play (holds_modify ⟨touched.sound, _, touched.there, ?_⟩)
      show n ≤ (there.status.modify _ _).length
      rw [List.length_modify]
      omega

theorem updateFighter_holds {fight : FightManager N} (sound : fight.field.Sound tables) (camp : Camp) (pos : Nat) :
    Holds (faultless tables) (updateFighter tables camp pos) fight fun _ fight' => fight'.field.Sound tables := by
  unfold updateFighter
  apply holds_playFighter?_bind
  split
  · exact holds_pure sound
  · rename_i there found
    refine (holds_forM (fun rest (fight : FightManager N) => ∃ n after, rest = downFrom n ∧ fight.field.Sound tables ∧
      (fight.field.fighters camp).fighterAt pos = some after ∧ n ≤ after.status.length) ?_
      ⟨_, there, rfl, sound, found, le_rfl⟩).mono fun _ _ ⟨_, _, _, sound, _⟩ => sound
    rintro i rest fight ⟨n, after, places, sound, found, inside⟩
    cases n with
    | zero => exact absurd places (List.cons_ne_nil _ _)
    | succ n =>
      obtain ⟨rfl, rfl⟩ := List.cons.inj (places.trans (downFrom_succ n))
      exact (updateStatus_holds sound found inside).mono fun _ _ ⟨sound, next, found, inside⟩ => ⟨n, next, rfl, sound, found, inside⟩

theorem updateCond_holds {fight : FightManager N} (sound : fight.field.Sound tables) :
    Holds (faultless tables) (updateCond tables) fight fun _ fight' => fight'.field.Sound tables := by
  unfold updateCond
  refine holds_forM (fun _ (fight : FightManager N) => fight.field.Sound tables) (fun i _ fight sound => ?_) sound
  exact holds_bind (updateFighter_holds sound .me i) fun _ fight₁ sound₁ => updateFighter_holds sound₁ .obs i

section
variable (whole : tables.WellFormed) {fight : FightManager N} (sound : fight.field.Sound tables)
include whole sound

theorem recordConditions_holds (condition : ConditionType) :
    Holds (faultless tables) (recordConditions tables condition) fight fun _ fight' => fight'.field.Sound tables := by
  unfold recordConditions
  refine holds_play_bind (condAllProcess_holds whole sound condition) fun tb field met => ?_
  refine holds_forM (fun _ (fight : FightManager N) => fight.field.Sound tables) (fun op _ fight sound => ?_) met.1
  exact holds_modify sound

theorem doTurn_holds (fuel turn : Nat) :
    Holds (faultless tables) (doTurn tables fuel turn) fight fun _ fight' => fight'.field.Sound tables := by
  have begun : Field.Sound tables { fight.field with turn := turn } := ⟨sound.sides, sound.queue⟩
  unfold doTurn
  refine holds_modify_bind (holds_mark_bind fun _ => ⟨trivial, ?_⟩)
  refine holds_bind (recordConditions_holds whole begun _) fun _ s₁ sound₁ => holds_read_bind ?_
  refine holds_bind (doHero_holds whole sound₁ fuel _) fun _ s₂ sound₂ => ?_
  refine holds_bind (doHero_holds whole sound₂ fuel _) fun _ s₃ sound₃ => ?_
  refine holds_bind (doSummon_holds whole sound₃ fuel _) fun _ s₄ sound₄ => ?_
  refine holds_bind (doSummon_holds whole sound₄ fuel _) fun _ s₅ sound₅ => ?_
  refine holds_bind (recordConditions_holds whole sound₅ _) fun _ s₆ sound₆ => ?_
  refine holds_bind (updateCond_holds sound₆) fun _ s₇ sound₇ => holds_mark_bind fun _ => ⟨trivial, ?_⟩
  refine holds_play ((checkEndFight_holds none).mono ?_)
  rintro _ _ rfl
  exact sound₇

theorem allTurns_holds (fuel : Nat) :
    Holds (faultless tables) (allTurns tables fuel) fight fun _ fight' => fight'.field.Sound tables :=
  holds_forM (fun _ (fight : FightManager N) => fight.field.Sound tables) (fun turn _ _ sound => doTurn_holds whole sound fuel turn) sound

end

/-! ### Fights -/

/-- A side as the script builds it, of a well-formed team or of a monster box. -/
def BuiltFrom (tables : Tables N) (side : Side N) : Prop :=
  (∃ team, TeamWellFormed tables team ∧ createFromPlayer tables team = some side) ∨
    ∃ boxid, createFromMonsterBox tables boxid = some (some side)

theorem BuiltFrom.sound (whole : tables.WellFormed) {side : Side N} (built : BuiltFrom tables side) : side.Sound tables := by
  rcases built with ⟨team, wellFormed, ran⟩ | ⟨boxid, ran⟩
  · exact createFromPlayer_sound wellFormed ran
  · exact createFromMonsterBox_sound whole ran

/-- The life of the side that is declared to have lost. -/
def loserHP (fight : FightManager N) : N := (fight.field.fighters (getObsCamp (winnerOf fight))).totalHP

/-- An attack on whoever is opposite, and a status that casts it when its fighter casts a skill. -/
def duelTables : Tables Exact where
  tbMonsterBox _ := none
  tbMonster _ := none
  tbSkill id :=
    if id = 1 then
      some
        { cost := 1, probability := num 100, level := num 1, combo := [], skillresultsid := 1, camp := 2
          target := .default, rangetype := .single, pos := none, costarg := none, hittype := .must }
    else none
  tbSkillResult id :=
    if id = 1 then
      some { effect := .common (num 0) (num 0) (num 1), status := none, statuscondition := .other, dispel := none }
    else none
  tbStatus id :=
    if id = 1 then
      some { effect := .skill (some 1), targetactive := .all, triggercondition := some .cast, duration := 0, effectivetimes := 0 }
    else none
  tbStatusType _ := some ⟨.all, 0, 0⟩
  tbCharacter _ := some none

/-- A hero in the middle of the back row who knows the attack. -/
def duellist (statusid : Option (List Nat)) : HeroInfo Exact where
  level := some (num 1)
  hp := some (num 5)
  atk := some (num 100)
  defense := some (num 10)
  reducehurt := num 0
  penetrationlevel := num 0
  critlevel := num 0
  tenacitylevel := num 0
  hitlevel := num 0
  dodgelevel := num 0
  cost := none
  skill := some [1]
  skill_lvl := none
  statusid := statusid
  normalattack _ := 1
  pos := 5
  id := 1

/-- The side of one duellist. -/
def duelSide (statusid : Option (List Nat)) : Side Exact := (createFromPlayer duelTables [duellist statusid]).getD .empty

theorem duelTables_wellFormed : duelTables.WellFormed := by
  have skill (id : Nat) (row : SkillRow Exact) (found : duelTables.tbSkill id = some row) :
      row.skillresultsid = 1 ∧ row.target = .default := by
    have found : (if id = 1 then _ else none) = some row := found
    split at found
    · obtain rfl := Option.some.inj found
      exact ⟨rfl, rfl⟩
    · cases found
  have result (id : Nat) (row : SkillResultRow Exact) (found : duelTables.tbSkillResult id = some row) :
      row.effect = .common (num 0) (num 0) (num 1) := by
    have found : (if id = 1 then _ else none) = some row := found
    split at found
    · obtain rfl := Option.some.inj found
      rfl
    · cases found
  have status (id : Nat) (row : StatusRow Exact) (found : duelTables.tbStatus id = some row) : row.effect = .skill (some 1) := by
    have found : (if id = 1 then _ else none) = some row := found
    split at found
    · obtain rfl := Option.some.inj found
      rfl
    · cases found
  refine ⟨fun id row found => ?_, fun id row found target => ?_, fun id row found target => ?_, fun id row cost found effect => ?_,
    fun id row monsterid found effect => ?_, fun id known => ?_, fun id row skillid found effect => ?_, fun id row found => ?_⟩
  · rw [(skill id row found).1]
    rfl
  · exact absurd ((skill id row found).2.symm.trans target) nofun
  · rcases target with target | target <;> exact absurd ((skill id row found).2.symm.trans target) nofun
  · exact absurd ((result id row found).symm.trans effect) nofun
  · exact absurd ((result id row found).symm.trans effect) nofun
  · obtain ⟨row, found⟩ := Option.isSome_iff_exists.mp known
    exact ⟨row, _, found, rfl⟩
  · obtain rfl : 1 = skillid := by
      have same := (status id row found).symm.trans effect
      injection same with same
      exact Option.some.inj same
    rfl
  · have none' : duelTables.tbMonster id = none := rfl
    rw [none'] at found
    cases found

theorem duellist_wellFormed {statusid : Option (List Nat)} (known : ∀ id ∈ statusid.getD [], id = 1) :
    TeamWellFormed duelTables [duellist statusid] := by
  refine ⟨fun info member => ?_, fun info member => ?_, List.nodup_singleton _⟩
  · obtain rfl := List.mem_singleton.mp member
    refine ⟨fun id learnt => ?_, fun id given => ?_, fun _ _ _ => rfl⟩
    · obtain rfl := List.mem_singleton.mp learnt
      rfl
    · obtain rfl := known id given
      exact ⟨_, _, rfl, rfl⟩
  · obtain rfl := List.mem_singleton.mp member
    show 3 < 5
    omega

/-- A point at which nothing is left to look at. -/
def plain : Event Exact → FightManager Exact → Bool
  | .act (.strike camp idx skillid _ _ _), fight => (fight.field.fighters camp).present idx && skillid = 1
  | .act (.shield camp idx), fight => ((fight.field.fighters camp).fighterAt idx).all fun fighter => !fighter.statusMark .shield
  | .act (.harm ..), _ => true
  | .combo camp cost, fight => ((fight.field.fighters camp).combo cost).isNone
  | .search _ _ _ row _, _ => row.target = .default ∧ row.rangetype = .single
  | .skillEffect _ _ _ rein, _ => !rein
  | .turnBegin, _ | .doHero _, _ | .castSkill .., _ => true
  | _, _ => false

theorem careful_of_plain {event : Event Exact} {fight : FightManager Exact} (met : plain event fight = true) :
    Careful duelTables event fight := by
  cases event with
  | act act =>
    cases act with
    | strike camp idx skillid targetCamp target effect =>
      obtain ⟨there, first⟩ := Bool.and_eq_true_iff.mp met
      obtain rfl := of_decide_eq_true first
      refine ⟨fun _ => there, fun row found blind => ?_⟩
      obtain rfl := Option.some.inj found
      rcases blind with self | line
      · cases self
      · cases line
    | shield camp idx =>
      intro fighter there marked
      have none' : (some fighter).all (fun fighter => !fighter.statusMark .shield) = true := there ▸ met
      have unmarked : (!fighter.statusMark .shield) = true := none'
      rw [marked] at unmarked
      cases unmarked
    | harm => exact trivial
    | _ => cases met
  | combo camp cost =>
    intro wheel found
    have none' : (some wheel).isNone = true := found ▸ met
    cases none'
  | search camp targetCamp idx row effect =>
    obtain ⟨target, range⟩ := of_decide_eq_true met
    refine ⟨fun least => absurd (target.symm.trans least) nofun, fun _ _ => ⟨fun self => ?_, fun line => ?_⟩⟩
    · exact absurd (target.symm.trans self) nofun
    · exact absurd (range.symm.trans line) nofun
  | skillEffect camp idx skillid rein =>
    intro waited
    have fresh : (!rein) = true := met
    rw [waited] at fresh
    cases fresh
  | turnBegin | doHero | castSkill => exact trivial
  | _ => cases met

theorem duelSide_built {statusid : Option (List Nat)} (known : ∀ id ∈ statusid.getD [], id = 1)
    (made : (createFromPlayer duelTables [duellist statusid]).isSome = true) : BuiltFrom duelTables (duelSide statusid) := by
  obtain ⟨side, ran⟩ := Option.isSome_iff_exists.mp made
  refine .inl ⟨_, duellist_wellFormed known, ?_⟩
  unfold duelSide
  rw [ran]
  rfl

/-- An error ended the coroutine. -/
def faulted : Except (Halt N) Unit → Bool
  | .error (.stop .error) => true
  | _ => false

end Tinygame.Fight
