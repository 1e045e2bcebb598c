import Tinygame.Fight.StatusFaults
import Tinygame.Fight.StatusMarks

/-!
# Life

Whoever stands on the board has life left, and no more than it can have. What is asked of a step lest that change, and
how fighters and sides are built and changed with it.
-/

namespace Tinygame.Fight
variable {N : Type} [Number N]

/-! ### Numbers that are ordered -/

/-- Lua's numbers without those that are not comparable. A difference may be rounded, but not past the minuend. -/
class Number.Ordered (N : Type) [Number N] : Prop extends Std.IsLinearPreorder N, Std.LawfulOrderLT N where
  sub_le : ∀ a b : N, num 0 ≤ b → a - b ≤ a
  add_nonneg : ∀ a b : N, num 0 ≤ a → num 0 ≤ b → num 0 ≤ a + b

instance : Number.Ordered Exact where
  le_refl a := Rat.le_refl (a := a.value)
  le_trans _ _ _ := Rat.le_trans
  le_total a b := Rat.le_total (a := a.value) (b := b.value)
  lt_iff a b := lt_iff_le_not_ge (a := a.value) (b := b.value)
  sub_le a _ least := sub_le_self a.value least
  add_nonneg a b := add_nonneg (a := a.value) (b := b.value)

/-! ### Who stands -/

def Fighter.Alive (fighter : Fighter N) : Prop := num 0 < fighter.nHP ∧ fighter.nHP ≤ fighter.nMaxHP

/-- A hero, whose life is that of its side, is not in front. -/
structure Fighter.Stands (pos : Nat) (fighter : Fighter N) : Prop where
  alive : fighter.type = .summon → fighter.Alive
  back : fighter.type = .hero → P_HEAD_RIGHT < pos

structure Post.Stands (pos : Nat) (post : Post N) : Prop where
  fighter : post.fighter.Stands pos
  next : ∀ follower ∈ post.next, follower.type = .summon ∧ follower.Alive
  few : post.next.length + 1 ≤ MAX_SUMMON_QUEUE_NUM

structure Side.Stands (side : Side N) : Prop where
  least : num 0 ≤ side.totalHP
  most : side.totalHP ≤ side.MaxHP
  posts : ∀ pos post, side.posts pos = some post → post.Stands pos

def Field.Stands (field : Field N) : Prop := ∀ camp, (field.fighters camp).Stands

/-- The next of the queue comes in the place of the first. -/
def Post.successor (post : Post N) : Option (Post N) :=
  match post.next with
  | [] => none
  | first :: rest => some ⟨first, rest⟩

def Field.succeed (field : Field N) (camp : Camp) (pos : Nat) : Field N :=
  field.setSide camp ((field.fighters camp).setPost pos (((field.fighters camp).posts pos).bind Post.successor))

/-- Somebody at the position has no life left, and is the only one. -/
structure Fallen (camp : Camp) (pos : Nat) (field : Field N) : Prop where
  dead : ∃ post, (field.fighters camp).posts pos = some post ∧ post.fighter.nHP ≤ num 0 ∧
    post.next.length + 1 ≤ MAX_SUMMON_QUEUE_NUM
  succeed : (field.succeed camp pos).Stands

/-- What is shown of the points of a fight. -/
def StandsAt : Act N → Field N → Prop
  | .dies camp pos, field => Fallen camp pos field
  | _, field => field.Stands

/-! ### Conditions on a step -/

/-- What a status adds to the maximum of life, or takes from it, one after the other. -/
def lives (lvl : N) (attributes : List (Attribute × Option N)) : List N :=
  attributes.filterMap fun entry => if entry.1 = .maxHp then entry.2.map fun value => Number.floor (value * lvl) else none

/-- With all that is added the maximum is no less than the life. -/
def Outgrows (hp : N) : N → List N → Prop
  | _, [] => True
  | maxHp, amount :: rest => hp ≤ maxHp + amount ∧ Outgrows hp (maxHp + amount) rest

/-- Something is left of the maximum when all is taken. -/
def Outlasts : N → List N → Prop
  | _, [] => True
  | maxHp, amount :: rest => num 0 < maxHp - amount ∧ Outlasts (maxHp - amount) rest

def StatusEffect.Spares (lvl : N) (side : Side N) (fighter : Fighter N) : StatusEffect N → Prop
  | .add attributes =>
    if fighter.type = .hero then Outgrows side.totalHP side.MaxHP (lives lvl attributes)
    else Outgrows fighter.nHP fighter.nMaxHP (lives lvl attributes)
  | .reduce attributes => fighter.type = .summon → Outlasts fighter.nMaxHP (lives lvl attributes)
  | _ => True

def SparesAct (tables : Tables N) : Act N → Field N → Prop
  -- a status that takes effect leaves its creature some of its life, and adds nothing negative
  | .active camp idx owner statusPos, field => idx.isSome = true → ∀ fighter status row,
      (field.fighters camp).fighterAt owner = some fighter → fighter.status[statusPos - 1]? = some status →
      tables.tbStatus status.id = some row → row.effect.Spares status.lvl (field.fighters camp) fighter
  -- a cure does not hurt more than there is life
  | .curl camp pos value, field => ∀ fighter, (field.fighters camp).fighterAt pos = some fighter →
      if fighter.type = .hero then num 0 ≤ (field.fighters camp).totalHP + value else num 0 < fighter.nHP + value
  -- nobody waits for the death of another
  | .dies camp pos, field => ∀ other fighter, other ≠ pos → (field.fighters camp).fighterAt other = some fighter →
      fighter.Quiet tables .ourDead
  | _, _ => True

/-- The creatures of the table have life. -/
def LivingMonsters (tables : Tables N) : Prop := ∀ id row, tables.tbMonster id = some row → num 0 < row.hp.getD (num 0)

/-! ### What statuses and skills do not change -/

variable {tables : Tables N}

namespace Fighter

def life (fighter : Fighter N) : TargetType × N × N := (fighter.type, fighter.nHP, fighter.nMaxHP)

variable {fighter other : Fighter N}

theorem Alive.of_life (alive : fighter.Alive) (same : other.life = fighter.life) : other.Alive := by
  obtain ⟨-, same⟩ := Prod.mk.inj same
  obtain ⟨nHP, nMaxHP⟩ := Prod.mk.inj same
  unfold Alive
  rw [nHP, nMaxHP]
  exact alive

theorem Stands.of_life {pos : Nat} (stands : fighter.Stands pos) (same : other.life = fighter.life) : other.Stands pos := by
  have type : other.type = fighter.type := (Prod.mk.inj same).1
  exact ⟨fun summon => (stands.alive (type.symm.trans summon)).of_life same, fun hero => stands.back (type.symm.trans hero)⟩

end Fighter

section
variable {fighter after : Fighter N}

theorem addStatus_life {statusid : Nat} {lvl : N} {yes : Bool} (ran : addStatus tables fighter statusid lvl = some (after, yes)) :
    after.life = fighter.life := by
  rcases addStatus_cases ran with rfl | ⟨row, type, -, -, -, -, rfl⟩ | ⟨row, pos, old, -, -, -, -, rfl⟩
  all_goals rfl

omit [Number N] in
theorem removeStatus_life {pos id : Nat} (ran : removeStatus tables fighter pos = some (after, id)) : after.life = fighter.life := by
  obtain ⟨_, _, _, -, -, -, rfl⟩ := removeStatus_cases ran
  rfl

theorem initStatus_life {ids : Option (List Nat)} (ran : initStatus tables fighter ids = some after) : after.life = fighter.life := by
  refine foldlM_ran (fun _ next => next.life = fighter.life) (fun id _ acc next same added => ?_) rfl ran
  obtain ⟨⟨next, yes⟩, ran, rfl⟩ := Option.map_eq_some_iff.mp added
  exact (addStatus_life ran).trans same

omit [Number N] in
theorem initSummonSkill_life {skills : Option (List Nat)} (ran : initSummonSkill tables fighter skills = some after) :
    after.life = fighter.life := by
  refine foldlM_ran (fun _ next => next.life = fighter.life) (fun id _ acc next same learnt => ?_) rfl ran
  obtain ⟨row, -, learnt⟩ := Option.bind_eq_some_iff.mp learnt
  exact Option.some.inj learnt ▸ same

omit [Number N] in
/-- The wheels of the side and the skills of the hero change. -/
theorem initHeroSkill_life {side side' : Side N} {skills : Option (List Nat)} {levels : Option (Int → Option N)} {pos : Nat}
    (ran : initHeroSkill tables side fighter skills levels pos = some (side', after)) :
    after.life = fighter.life ∧ side'.totalHP = side.totalHP ∧ side'.MaxHP = side.MaxHP ∧ side'.posts = side.posts := by
  refine foldlM_ran (fun _ (built : Side N × Fighter N) => built.2.life = fighter.life ∧ built.1.totalHP = side.totalHP ∧
    built.1.MaxHP = side.MaxHP ∧ built.1.posts = side.posts) (fun id _ built next same learnt => ?_) ⟨rfl, rfl, rfl, rfl⟩ ran
  obtain ⟨row, -, learnt⟩ := Option.bind_eq_some_iff.mp learnt
  exact Option.some.inj learnt ▸ same

theorem learnAttacks_life (list : List Nat) (fighter : Fighter N) : (learnAttacks list fighter).life = fighter.life := by
  induction list generalizing fighter with
  | nil => rfl
  | cons i rest ih => exact ih (fighter.learn (fighter.normalattack i) (num 0))

/-- The life of a fighter of the table is that of its row. That of a hero goes to its side. -/
theorem initTemplete_life {side side' : Side N} {config : Info N} {id pos : Nat} {kind : TargetType}
    (ran : initTemplete tables side config id kind pos = some (side', after)) :
    after.life = (kind, config.hp.getD (num 0), config.hp.getD (num 0)) ∧ side'.posts = side.posts ∧
      (side'.totalHP = side.totalHP ∧ side'.MaxHP = side.MaxHP ∨
        side'.totalHP = side.totalHP + config.hp.getD (num 0) ∧ side'.MaxHP = side.MaxHP + config.hp.getD (num 0)) := by
  obtain ⟨skilled, last, second, rfl, first⟩ := initTemplete_cases ran
  have learnt := (learnAttacks_life (positions MIN_COST MAX_COST) last).trans (initStatus_life second)
  cases kind with
  | hero =>
    obtain ⟨same, totalHP, maxHP, posts⟩ := initHeroSkill_life first
    exact ⟨learnt.trans same, posts, .inr ⟨totalHP, maxHP⟩⟩
  | summon =>
    obtain ⟨rfl, built⟩ := first
    exact ⟨learnt.trans (initSummonSkill_life built), rfl, .inl ⟨rfl, rfl⟩⟩

end

section
variable [Number.Ordered N]

/-- A creature of the table comes with all its life. -/
theorem initSummon_alive (living : LivingMonsters tables) {monsterid : Nat} {summon : Fighter N}
    (ran : initSummon tables monsterid = some summon) : summon.type = .summon ∧ summon.Alive := by
  unfold initSummon at ran
  obtain ⟨row, found, ran⟩ := Option.bind_eq_some_iff.mp ran
  obtain ⟨⟨side, built⟩, made, last⟩ := Option.bind_eq_some_iff.mp ran
  obtain rfl := Option.some.inj last
  obtain ⟨type, life⟩ := Prod.mk.inj (initTemplete_life made).1
  obtain ⟨nHP, nMaxHP⟩ := Prod.mk.inj life
  refine ⟨type, ?_, ?_⟩
  · rw [nHP]
    exact living monsterid row found
  · rw [nHP, nMaxHP]
    exact Std.le_refl _

/-! ### Sides -/

namespace Side
variable {side : Side N}

omit [Number.Ordered N] in
theorem Stands.fighter (stands : side.Stands) {pos : Nat} {fighter : Fighter N} (there : side.fighterAt pos = some fighter) :
    fighter.Stands pos := by
  obtain ⟨post, found, rfl⟩ := fighterAt_eq_some.mp there
  exact (stands.posts pos post found).fighter

omit [Number.Ordered N] in
theorem Stands.setPost (stands : side.Stands) {pos : Nat} {post : Option (Post N)} (new : ∀ next, post = some next → next.Stands pos) :
    (side.setPost pos post).Stands := by
  refine ⟨stands.least, stands.most, fun other next there => ?_⟩
  by_cases here : other = pos
  · subst here
    rw [setPost_posts_self] at there
    exact new next there
  · rw [setPost_posts_ne _ _ here] at there
    exact stands.posts other next there

omit [Number.Ordered N] in
/-- Whoever is at the position changes and stands. -/
theorem Stands.modifyFighter (stands : side.Stands) {pos : Nat} {f : Fighter N → Fighter N}
    (each : ∀ fighter, side.fighterAt pos = some fighter → (f fighter).Stands pos) : (side.modifyFighter pos f).Stands := by
  refine stands.setPost fun next there => ?_
  obtain ⟨post, found, rfl⟩ := Option.map_eq_some_iff.mp there
  have before := stands.posts pos post found
  exact ⟨each post.fighter (fighterAt_eq_some.mpr ⟨post, found, rfl⟩), before.next, before.few⟩

end Side

/-- A side as it is built: nobody has lost any life. -/
structure Side.Whole (side : Side N) : Prop where
  stands : side.Stands
  full : side.totalHP = side.MaxHP

theorem whole_empty : (Side.empty : Side N).Whole where
  stands := ⟨Std.le_refl _, Std.le_refl _, fun _ _ there => by cases there⟩
  full := rfl

/-- A fighter of a table takes a position. -/
theorem Side.Whole.place {side side' : Side N} (whole : side.Whole) {config : Info N} (life : num 0 < config.hp.getD (num 0))
    {id pos : Nat} {kind : TargetType} (back : kind = .hero → P_HEAD_RIGHT < pos) {templete : Fighter N}
    (ran : initTemplete tables side config id kind pos = some (side', templete)) :
    (side'.setPost pos (some ⟨templete, []⟩)).Whole := by
  obtain ⟨same, posts, totals⟩ := initTemplete_life ran
  obtain ⟨type, same⟩ := Prod.mk.inj same
  obtain ⟨nHP, nMaxHP⟩ := Prod.mk.inj same
  have full : side'.totalHP = side'.MaxHP := by
    rcases totals with ⟨totalHP, maxHP⟩ | ⟨totalHP, maxHP⟩
    · rw [totalHP, maxHP, whole.full]
    · rw [totalHP, maxHP, whole.full]
  have least : num 0 ≤ side'.totalHP := by
    rcases totals with ⟨totalHP, -⟩ | ⟨totalHP, -⟩
    · rw [totalHP]
      exact whole.stands.least
    · rw [totalHP]
      exact Number.Ordered.add_nonneg _ _ whole.stands.least (by grind)
  have stands : side'.Stands := ⟨least, full ▸ Std.le_refl _, posts ▸ whole.stands.posts⟩
  refine ⟨stands.setPost fun next new => ?_, full⟩
  obtain rfl := Option.some.inj new
  refine ⟨⟨fun _ => ⟨?_, ?_⟩, fun hero => back (type.symm.trans hero)⟩, fun _ member => absurd member List.not_mem_nil,
    (by decide : 0 + 1 ≤ MAX_SUMMON_QUEUE_NUM)⟩
  · rw [nHP]
    exact life
  · rw [nHP, nMaxHP]
    exact Std.le_refl _

omit [Number.Ordered N] in
theorem addCombos_stands {comboid : Nat → Option (Option (List Nat))} {level : Fighter N → SkillRow N → N} {side side' : Side N}
    (stands : side.Stands) (ran : addCombos tables comboid level side = some side') : side'.Stands := by
  refine foldlM_ran (fun _ side => side.Stands) (fun i _ side side' stands ran => ?_) stands ran
  split at ran
  · exact Option.some.inj ran ▸ stands
  · obtain ⟨combo, -, ran⟩ := Option.bind_eq_some_iff.mp ran
    refine foldlM_ran (fun _ side => side.Stands) (fun comboid _ side side' stands ran => ?_) stands ran
    obtain ⟨row, -, last⟩ := Option.bind_eq_some_iff.mp ran
    obtain rfl := Option.some.inj last
    have wheels : (if checkComboHero side row.combo then
        { side with combo := Wheel.add side.combo row.cost (comboid, i) row.probability } else side).Stands := by
      split
      · exact ⟨stands.least, stands.most, stands.posts⟩
      · exact stands
    exact wheels.modifyFighter fun fighter there => (wheels.fighter there).of_life rfl

/-- Heroes with life, behind the front row, make a side that stands. -/
theorem createFromPlayer_stands {team : List (HeroInfo N)}
    (heroes : ∀ hero ∈ team, P_HEAD_RIGHT < hero.pos ∧ num 0 < hero.hp.getD (num 0)) {side : Side N}
    (ran : createFromPlayer tables team = some side) : side.Stands := by
  unfold createFromPlayer at ran
  obtain ⟨built, placed, ran⟩ := Option.bind_eq_some_iff.mp ran
  refine addCombos_stands (foldlM_ran (fun (rest : List (HeroInfo N)) (side : Side N) => side.Whole ∧
    ∀ hero ∈ rest, P_HEAD_RIGHT < hero.pos ∧ num 0 < hero.hp.getD (num 0)) ?_ ⟨whole_empty, heroes⟩ placed).1.stands ran
  rintro hero rest side side' ⟨whole, heroes⟩ step
  obtain ⟨⟨middle, templete⟩, first, last⟩ := Option.bind_eq_some_iff.mp step
  obtain rfl := Option.some.inj last
  obtain ⟨back, life⟩ := heroes hero (List.mem_cons_self ..)
  exact ⟨whole.place life (fun _ => back) first, fun other member => heroes other (List.mem_cons_of_mem _ member)⟩

theorem createFromMonsterBox_stands (living : LivingMonsters tables) {boxid : Nat} {side : Side N}
    (ran : createFromMonsterBox tables boxid = some (some side)) : side.Stands := by
  unfold createFromMonsterBox at ran
  split at ran
  · cases ran
  · obtain ⟨built, placed, ran⟩ := Option.bind_eq_some_iff.mp ran
    obtain ⟨_, combos, last⟩ := Option.bind_eq_some_iff.mp ran
    obtain rfl := Option.some.inj (Option.some.inj last)
    refine addCombos_stands (foldlM_ran (fun _ (side : Side N) => side.Whole) ?_ whole_empty placed).stands combos
    intro i rest side side' whole step
    split at step
    · exact Option.some.inj step ▸ whole
    · rename_i monsterid _
      obtain ⟨row, found, step⟩ := Option.bind_eq_some_iff.mp step
      obtain ⟨⟨middle, templete⟩, first, last⟩ := Option.bind_eq_some_iff.mp step
      obtain rfl := Option.some.inj last
      exact whole.place (living monsterid row found) (fun hero => by by_contra front; rw [if_neg front] at hero; cases hero) first

end

end Tinygame.Fight
