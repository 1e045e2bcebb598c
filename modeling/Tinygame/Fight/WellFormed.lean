import Tinygame.Fight.MiniFight

/-!
# Well-formed fights

Tables in which every id that is referred to has its row, and the states of a fight that such tables lead to.
-/

namespace Tinygame.Fight
variable {N : Type}

/-! ### Tables -/

section
variable (tables : Tables N)

def SkillKnown (id : Nat) : Prop := (tables.tbSkill id).isSome

/-- The status has a row, and its type has. -/
def StatusKnown (id : Nat) : Prop := ∃ row type, tables.tbStatus id = some row ∧ tables.tbStatusType row.effect.type = some type

/-- What a monster or a hero refers to has its rows. -/
structure Info.WellFormed (info : Info N) : Prop where
  skills : ∀ id ∈ info.skill.getD [], SkillKnown tables id
  statuses : ∀ id ∈ info.statusid.getD [], StatusKnown tables id
  attacks : ∀ i, MIN_COST ≤ i → i ≤ MAX_COST → SkillKnown tables (info.normalattack i)

structure Tables.WellFormed : Prop where
  results : ∀ id row, tables.tbSkill id = some row → (tables.tbSkillResult row.skillresultsid).isSome
  positions : ∀ id row, tables.tbSkill id = some row → row.target = .pos → ∃ pos, row.pos = some pos ∧ pos.Nodup
  costs : ∀ id row, tables.tbSkill id = some row → row.target = .costUpSummon ∨ row.target = .costDownSummon → row.costarg.isSome
  added : ∀ id row cost, tables.tbSkillResult id = some row → row.effect = .add cost → 0 ≤ cost
  called : ∀ id row monsterid, tables.tbSkillResult id = some row → row.effect = .call monsterid → (tables.tbMonster monsterid).isSome
  statuses : ∀ id, (tables.tbStatus id).isSome → StatusKnown tables id
  triggered : ∀ id row skillid, tables.tbStatus id = some row → row.effect = .skill (some skillid) → SkillKnown tables skillid
  monsters : ∀ id row, tables.tbMonster id = some row → row.toInfo.WellFormed tables

/-- The heroes of a team stand in different places of the back row. -/
structure TeamWellFormed (team : List (HeroInfo N)) : Prop where
  infos : ∀ info ∈ team, info.toInfo.WellFormed tables
  placed : ∀ info ∈ team, P_HEAD_RIGHT < info.pos
  apart : (team.map HeroInfo.pos).Nodup

/-! ### States -/

/-- A fighter knows the skills it casts. A creature has a cost. -/
structure Fighter.Sound (fighter : Fighter N) : Prop where
  attacks : ∀ i, MIN_COST ≤ i → i ≤ MAX_COST → SkillKnown tables (fighter.normalattack i) ∧
    (fighter.tbSkill (fighter.normalattack i)).isSome
  wheel : ∀ wheel, fighter.roundSkill = some wheel → wheel.skill.length = wheel.prop.length ∧
    ∀ id ∈ wheel.skill, SkillKnown tables id ∧ (fighter.tbSkill id).isSome
  cost : fighter.type = .summon → fighter.cost.isSome
  statuses : ∀ status ∈ fighter.status, StatusKnown tables status.id

structure Post.Sound (pos : Nat) (post : Post N) : Prop where
  fighter : post.fighter.Sound tables
  next : ∀ follower ∈ post.next, follower.Sound tables ∧ follower.type = .summon
  front : post.fighter.type = .hero → P_HEAD_RIGHT < pos

/-- Every skill on the wheels of a side is that of a hero who stands where the wheel says and knows it. -/
structure Side.Sound (side : Side N) : Prop where
  posts : ∀ pos post, side.posts pos = some post → post.Sound tables pos
  wheels : ∀ cost wheel, side.roundSkill cost = some wheel → wheel.skill.length = wheel.prop.length ∧
    ∀ entry ∈ wheel.skill, SkillKnown tables entry.1 ∧
      ∃ post, side.posts entry.2 = some post ∧ post.fighter.type = .hero ∧ (post.fighter.tbSkill entry.1).isSome
  addCost : 0 ≤ side.addCost

structure Field.Sound (field : Field N) : Prop where
  sides : ∀ camp, (field.fighters camp).Sound tables
  queue : ∀ bag ∈ field.SkillQueue, ∀ id, bag.id = some id → SkillKnown tables id

end

/-! ### What stays of a fighter -/

/-- What statuses never change. -/
structure Build (N : Type) where
  tbSkill : Nat → Option N
  type : TargetType
  cost : Option N
  roundSkill : Option (Wheel Nat N)
  normalattack : Nat → Nat

namespace Fighter

def build (fighter : Fighter N) : Build N :=
  ⟨fighter.tbSkill, fighter.type, fighter.cost, fighter.roundSkill, fighter.normalattack⟩

variable {tables : Tables N} {fighter other : Fighter N}

/-- A fighter of the same build, all of whose statuses are known, is as sound. -/
theorem Sound.of_build (sound : fighter.Sound tables) (same : other.build = fighter.build)
    (statuses : ∀ status ∈ other.status, StatusKnown tables status.id) : other.Sound tables := by
  have tbSkill : other.tbSkill = fighter.tbSkill := congrArg Build.tbSkill same
  have type : other.type = fighter.type := congrArg Build.type same
  have cost : other.cost = fighter.cost := congrArg Build.cost same
  have roundSkill : other.roundSkill = fighter.roundSkill := congrArg Build.roundSkill same
  have normalattack : other.normalattack = fighter.normalattack := congrArg Build.normalattack same
  refine ⟨?_, ?_, ?_, statuses⟩
  · rw [tbSkill, normalattack]
    exact sound.attacks
  · rw [tbSkill, roundSkill]
    exact sound.wheel
  · rw [type, cost]
    exact sound.cost

end Fighter

namespace Side

/-- The builds of a side, its followers, and its wheels. -/
def frame (side : Side N) : Int × (Int → Option (Wheel (Nat × Nat) N)) × (Nat → Option (Build N × List (Fighter N))) :=
  (side.addCost, side.roundSkill, fun pos => (side.posts pos).map fun post => (post.fighter.build, post.next))

variable {side other : Side N}

theorem post_of_frame (same : other.frame = side.frame) {pos : Nat} {post : Post N} (there : other.posts pos = some post) :
    ∃ before, side.posts pos = some before ∧ post.fighter.build = before.fighter.build ∧ post.next = before.next := by
  have here : (other.posts pos).map (fun post => (post.fighter.build, post.next)) =
      (side.posts pos).map fun post => (post.fighter.build, post.next) :=
    congrFun (congrArg (fun frame => frame.2.2) same) pos
  rw [there] at here
  obtain ⟨before, found, alike⟩ := Option.map_eq_some_iff.mp here.symm
  obtain ⟨build, next⟩ := Prod.mk.inj alike
  exact ⟨before, found, build.symm, next.symm⟩

/-- A side of the same frame, all of whose statuses are known, is as sound. -/
theorem Sound.of_frame {tables : Tables N} (sound : side.Sound tables) (same : other.frame = side.frame)
    (statuses : ∀ pos post, other.posts pos = some post → ∀ status ∈ post.fighter.status, StatusKnown tables status.id) :
    other.Sound tables := by
  have addCost : other.addCost = side.addCost := congrArg (fun frame => frame.1) same
  have roundSkill : other.roundSkill = side.roundSkill := congrArg (fun frame => frame.2.1) same
  refine ⟨fun pos post there => ?_, fun cost wheel found => ?_, addCost ▸ sound.addCost⟩
  · obtain ⟨before, found, build, next⟩ := post_of_frame same there
    have was := sound.posts pos before found
    have type : post.fighter.type = before.fighter.type := congrArg Build.type build
    exact ⟨was.fighter.of_build build (statuses pos post there), next ▸ was.next, type ▸ was.front⟩
  · obtain ⟨even, entries⟩ := sound.wheels cost wheel (roundSkill ▸ found)
    refine ⟨even, fun entry member => ?_⟩
    obtain ⟨known, before, there, hero, knows⟩ := entries entry member
    obtain ⟨post, found, build, -⟩ := post_of_frame same.symm there
    have type : post.fighter.type = before.fighter.type := (congrArg Build.type build).symm
    have tbSkill : post.fighter.tbSkill = before.fighter.tbSkill := (congrArg Build.tbSkill build).symm
    exact ⟨known, post, found, type ▸ hero, tbSkill ▸ knows⟩

end Side

end Tinygame.Fight
