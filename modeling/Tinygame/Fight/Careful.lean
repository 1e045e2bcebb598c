import Tinygame.Fight.WellFormed

/-!
# Steps without a fault

What the state has to be before a step of a fight lest the step run into one of the faults of the script, and
the terms on which a fight is then shown to run without an error.
-/

namespace Tinygame.Fight
open Traced
variable {N : Type} (tables : Tables N)

/-! ### Conditions on a step -/

def Fighter.Waits (condition : ConditionType) (fighter : Fighter N) : Prop :=
  ∃ status ∈ fighter.status, ∃ row, tables.tbStatus status.id = some row ∧ row.triggercondition = some condition

/-- Every status has its row, and none waits for the condition. -/
def Fighter.Quiet (condition : ConditionType) (fighter : Fighter N) : Prop :=
  ∀ status ∈ fighter.status, ∃ row, tables.tbStatus status.id = some row ∧ row.triggercondition ≠ some condition

/-- Nobody of the side, apart from whom is passed over, waits for the condition. -/
def Idle (condition : ConditionType) (side : Side N) (except : Option Nat) : Prop :=
  ∀ pos fighter, some pos ≠ except → side.fighterAt pos = some fighter → ¬ fighter.Waits tables condition

/-- The effect indexes with the position of its fighter. -/
def StatusEffect.indexes : StatusEffect N → Bool
  | .add attributes | .reduce attributes => attributes.any fun entry => entry.2.isSome
  | .skill _ => true
  | _ => false

/-- The effect indexes the fighter it is aimed at. A copy does so where there is room for it. -/
def SkillEffect.indexesTarget (effect : SkillEffect N) (own : Side N) (idx : Nat) : Bool :=
  match effect with
  | .attack .. | .common .. | .kill .. | .curl .. => true
  | .copy => P_HEAD_RIGHT < idx && !own.present (idx - P_HEAD_RIGHT)
  | _ => false

/-- The skill is aimed at a position at which nobody need be. -/
def SkillRow.blind (row : SkillRow N) : Prop := row.target = .self ∨ row.rangetype = .line

def CarefulAct : Act N → Field N → Prop
  -- a status that takes effect without an index, which `condMe` does not pass, neither indexes with it nor is used up
  | .active camp idx owner statusPos, field => idx = none → ∀ fighter status row,
      (field.fighters camp).fighterAt owner = some fighter → fighter.status[statusPos - 1]? = some status →
      tables.tbStatus status.id = some row → row.effect.indexes = false ∧ ∀ times, status.times = some times → 1 < times
  -- no shield to be hit
  | .shield camp idx, field => ∀ fighter, (field.fighters camp).fighterAt idx = some fighter → fighter.statusMark .shield →
      ∀ status ∈ fighter.status, statusType tables status ≠ some .shield
  -- an attacker has survived the targets before this one, and what is aimed at without a look is there
  | .strike camp idx skillid targetCamp target effect, field =>
      (effect.drawsBingo = true → (field.fighters camp).present idx = true) ∧
      ∀ row, tables.tbSkill skillid = some row → row.blind → effect.indexesTarget (field.fighters camp) idx = true →
        (field.fighters targetCamp).present target = true
  -- nothing to record of damage, of a death, or of the next of the queue
  | .survives camp pos, field => ∀ fighter, (field.fighters camp).fighterAt pos = some fighter → ¬ fighter.Waits tables .beDamage
  | .dies camp pos, field => Idle tables .ourDead (field.fighters camp) (some pos)
  | .advances camp pos, field =>
      (∀ fighter, (field.fighters camp).fighterAt pos = some fighter → ¬ fighter.Waits tables .summonEnter) ∧
      Idle tables .ourEnter (field.fighters camp) (some pos) ∧ Idle tables .obsEnter (field.fighters (getObsCamp camp)) none
  -- the last status of the list is not dispelled
  | .dispel camp pos dis, field => 0 < dis.1 → ∀ fighter, (field.fighters camp).fighterAt pos = some fighter →
      ∀ last, fighter.status.getLast? = some last → dispelled tables dis.1 last ≠ some true
  | .harm .., _ | .curl .., _ => True

def Careful [Number N] : Event N → FightManager N → Prop
  | .act act, fight => CarefulAct tables act fight.field
  -- no combo skill is drawn
  | .combo camp cost, fight => ∀ wheel, (fight.field.fighters camp).combo cost = some wheel →
      (getRandomIndex fight.field.seed wheel.prop).1 = 0
  -- the front row is full when the least life is looked for, and there is somebody to draw a hit or a miss for
  | .search camp targetCamp idx row effect, fight =>
      (row.target = .minHp → ∀ pos ∈ positions P_HEAD_LEFT P_HEAD_RIGHT, (fight.field.fighters targetCamp).present pos = true) ∧
      (effect.drawsBingo = true → row.hittype ≠ .must →
        (row.target = .self → (fight.field.fighters targetCamp).present idx = true) ∧
        (row.rangetype = .line → ∀ caster ret, (fight.field.fighters camp).fighterAt idx = some caster →
          defaultTarget caster idx (fight.field.fighters targetCamp) = some ret →
          (fight.field.fighters targetCamp).present (behind ret) = true))
  -- a skill that waited is one its caster knows
  | .skillEffect camp idx skillid rein, fight => rein = true → ∀ caster, (fight.field.fighters camp).fighterAt idx = some caster →
      (caster.tbSkill skillid).isSome = true
  -- a creature that is to draw a skill is still there
  | .nextSkill bag, fight => bag.id = none → bag.cost ≠ none → bag.type = .summon →
      (fight.field.fighters bag.camp).present bag.idx = true
  -- the status that runs out stands as far down its list as somebody at whose position it can be removed
  | .expire camp _ i, fight => ∃ fighter, (fight.field.fighters camp).fighterAt i = some fighter ∧ i ≤ fighter.status.length
  | .turnBegin, _ | .turnEnd, _ | .doHero _, _ | .doSummon _, _ | .castSkill .., _ => True

/-! ### Terms -/

/-- Who has lost has no life left. -/
def Lost [Number N] (field : Field N) : Prop :=
  ∃ camp, (field.fighters camp).totalHP ≤ num 0 ∧ field.winner = some (getObsCamp camp)

def faultless [Number N] : Terms (Event N) (FightManager N) (Halt N) where
  careful := Careful tables
  always := fun _ _ => True
  stopped
    | .stop (.yield _), fight => Lost fight.field
    | .stop .error, _ => False
    | .outOfFuel, _ => True

def faultlessPlay [Number N] : Terms (Act N) (Field N) (Stop N) where
  careful := CarefulAct tables
  always := fun _ _ => True
  stopped
    | .yield _, field => Lost field
    | .error, _ => False

section
variable [Number N] {tables : Tables N} {α β : Type}

theorem holds_play {m : Play N α} {s : FightManager N} {post : α → FightManager N → Prop}
    (holds : Holds (faultlessPlay tables) m s.field fun result field => post result { s with field := field }) :
    Holds (faultless tables) (Battle.play m) s post := by
  refine holds_within fun careful => ?_
  obtain ⟨here, last⟩ := holds careful
  refine ⟨fun _ _ => trivial, ?_⟩
  split <;> rename_i same
  · rw [same] at last
    exact last
  · rw [same] at last
    rename_i reason
    cases reason with
    | yield tb => exact last
    | error => exact last

theorem holds_play_bind {m : Play N α} {next : α → Battle N β} {s : FightManager N} {post : β → FightManager N → Prop}
    {between : α → Field N → Prop} (holds : Holds (faultlessPlay tables) m s.field between)
    (rest : ∀ result field, between result field → Holds (faultless tables) (next result) { s with field := field } post) :
    Holds (faultless tables) (Battle.play m >>= next) s post := by
  have played : Holds (faultless tables) (Battle.play m) s fun result s' =>
      ∃ field, s' = { s with field := field } ∧ between result field :=
    holds_play (holds.mono fun result field met => ⟨field, rfl, met⟩)
  refine holds_bind played ?_
  rintro result _ ⟨field, rfl, met⟩
  exact rest result field met

/-- What a first part that passes no point comes to on the field is put in its place. -/
theorem holds_played_bind {m : Play N α} {next : α → Battle N β} {s : FightManager N} {post : β → FightManager N → Prop}
    {result : α} {field : Field N} (ran : m s.field = ⟨[], field, .ok result⟩)
    (rest : Holds (faultless tables) (next result) { s with field := field } post) :
    Holds (faultless tables) (Battle.play m >>= next) s post := by
  refine holds_run_bind ?_ rest
  unfold Battle.play within
  rw [ran]
  rfl

end

/-! ### Sides and fields -/

namespace Side

@[simp] theorem setPost_posts_self (side : Side N) (pos : Nat) (post : Option (Post N)) : (side.setPost pos post).posts pos = post :=
  Function.update_self ..

theorem setPost_posts_ne (side : Side N) {pos other : Nat} (post : Option (Post N)) (apart : other ≠ pos) :
    (side.setPost pos post).posts other = side.posts other :=
  Function.update_of_ne apart ..

theorem fighterAt_eq_some {side : Side N} {pos : Nat} {fighter : Fighter N} :
    side.fighterAt pos = some fighter ↔ ∃ post, side.posts pos = some post ∧ post.fighter = fighter :=
  Option.map_eq_some_iff

theorem present_iff {side : Side N} {pos : Nat} : side.present pos = true ↔ ∃ fighter, side.fighterAt pos = some fighter := by
  unfold present fighterAt
  cases side.posts pos <;> simp

/-- The fighter at the position, changed. -/
theorem fighterAt_modifyFighter (side : Side N) (pos other : Nat) (f : Fighter N → Fighter N) :
    (side.modifyFighter pos f).fighterAt other =
      if other = pos then (side.fighterAt other).map f else side.fighterAt other := by
  unfold modifyFighter fighterAt
  split
  · rename_i same
    subst same
    rw [setPost_posts_self]
    cases side.posts other <;> rfl
  · rename_i apart
    rw [setPost_posts_ne _ _ apart]

theorem frame_modifyFighter (side : Side N) (pos : Nat) {f : Fighter N → Fighter N}
    (same : ∀ fighter, side.fighterAt pos = some fighter → (f fighter).build = fighter.build) :
    (side.modifyFighter pos f).frame = side.frame := by
  unfold frame
  refine congrArg (fun posts => (side.addCost, side.roundSkill, posts)) (funext fun other => ?_)
  unfold modifyFighter
  by_cases here : other = pos
  · subst here
    rw [setPost_posts_self]
    unfold fighterAt at same
    cases there : side.posts other with
    | none => rfl
    | some post =>
      have build := same post.fighter (by rw [there]; rfl)
      show some ((f post.fighter).build, post.next) = some (post.fighter.build, post.next)
      rw [build]
  · rw [setPost_posts_ne _ _ here]

end Side

end Tinygame.Fight
