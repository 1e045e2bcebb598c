import Mathlib.Data.List.AList
import Tinygame.Fight.Faultless
import Tinygame.Fight.Team
import Tinygame.Luanode.Bridge

/-!
# The levels of skill slots

The skill slots of a hero in `data.lua`, and what `GetHerosFightInfo` of `player.lua` tells the fight about them. The
levels are asked for without a cost.
-/

namespace Tinygame.Fight
open Luanode (Lua LuaKey JsValue Key toLua)

/-! ### Slots -/

/-- A table in `m_tbSkills`, under its cost. -/
abbrev SkillTable : Type := AList fun _ : Int => List Nat

structure SkillSlot (N : Type) where
  m_tbSkills : SkillTable
  m_tbLevel : LuaKey → Option N

/-- `tbData`. The level may be absent, and the id may be anything that is a key. -/
structure SlotValue (N : Type) where
  level : Option N
  skillId : Option LuaKey

structure SkillObj (N : Type) where
  nID : Nat
  nCost : Int
  nLevel : N

/-- An order in which `pairs` may visit what a table holds. -/
structure Visit (α : Type) where
  order : List α → List α
  all : ∀ entries, (order entries).Perm entries

section
variable {N : Type} [Number N]

def SlotValue.assigned (value : SlotValue N) : N := value.level.getD (num 1)

namespace SkillSlot

def new : SkillSlot N := ⟨∅, fun _ => none⟩

def getSkillsByCost (slot : SkillSlot N) (nCost : Int) : List Nat := (slot.m_tbSkills.lookup nCost).getD []

def addSkil (slot : SkillSlot N) (nCost : Int) (nID : Nat) : SkillSlot N :=
  let tbSkills := slot.getSkillsByCost nCost
  { slot with m_tbSkills := slot.m_tbSkills.insert nCost (if nID ∈ tbSkills then tbSkills else tbSkills ++ [nID]) }

/-- The key may be `nil`. -/
def getLevelByCost (slot : SkillSlot N) (nCost : Option LuaKey) : N := (nCost.bind slot.m_tbLevel).getD (num 1)

def setLevelByCost (slot : SkillSlot N) (nCost : LuaKey) (nLevel : Option N) : SkillSlot N :=
  { slot with m_tbLevel := Function.update slot.m_tbLevel nCost (some (nLevel.getD (num 1))) }

end SkillSlot

variable (tables : Tables N)

/-- `l_tbSkillConfig[nSkillID]`, beside the id. -/
def skillConfig : Option LuaKey → Option (Nat × SkillRow N)
  | some (.number n) => if 0 ≤ n then (tables.tbSkill n.toNat).map (n.toNat, ·) else none
  | _ => none

def SkillSlot.take (slot : SkillSlot N) (entry : LuaKey × SlotValue N) : SkillSlot N :=
  let slot := slot.setLevelByCost entry.1 entry.2.level
  match skillConfig tables entry.2.skillId with
  | none => slot
  | some (nSkillID, row) => slot.addSkil row.cost nSkillID

def SkillSlot.init (slot : SkillSlot N) (tbArg : List (LuaKey × SlotValue N)) : SkillSlot N :=
  tbArg.foldl (SkillSlot.take tables) slot

/-! ### Heroes -/

/-- `own` is what the getters answer that do not ask the slots. -/
structure SlotHero (N : Type) where
  own : HeroInfo N
  m_objSkillSlot : SkillSlot N

def SlotHero.init (own : HeroInfo N) (skillSlotList : List (LuaKey × SlotValue N)) : SlotHero N :=
  ⟨own, SkillSlot.new.init tables skillSlotList⟩

namespace SlotHero

def createSkillObjs (hero : SlotHero N) (tbSkillSet : SkillTable) : List (Int × List (SkillObj N)) :=
  tbSkillSet.entries.map fun set =>
    let nLevel := hero.m_objSkillSlot.getLevelByCost (some (.number set.1))
    (set.1, set.2.map fun nSkillID => ⟨nSkillID, set.1, nLevel⟩)

def getSlotSkillObjs (hero : SlotHero N) : List (Int × List (SkillObj N)) := hero.createSkillObjs hero.m_objSkillSlot.m_tbSkills

def getSlotLevelByCost (hero : SlotHero N) (nCost : Option LuaKey) : N := hero.m_objSkillSlot.getLevelByCost nCost

/-- `GetHerosFightInfo` of one hero: nothing is handed to `GetSlotLevelByCost`. -/
def fightInfo (pairs : Visit (Int × List (SkillObj N))) (hero : SlotHero N) : HeroInfo N :=
  { hero.own with
    skill := some ((pairs.order hero.getSlotSkillObjs).flatMap fun set => set.2.map SkillObj.nID)
    skill_lvl := some fun i => if 1 ≤ i ∧ i ≤ 6 then some (hero.getSlotLevelByCost none) else none }

end SlotHero

/-! ### What arrives -/

/-- A member of a table. Text has none of these. -/
def memberOf (name : String) : Lua → Option Lua
  | .table entries => some (((entries.find? fun entry => entry.1 = .string name).map Prod.snd).getD .nil)
  | .string _ => some .nil
  | _ => none

/-- A level as the fight computes with it. -/
def levelOf : Lua → Option (Option N)
  | .nil | .boolean false => some none
  | .number n => some (some (num n))
  | .string s => s.toInt?.map fun n => some (num n)
  | _ => none

def slotValue (tbData : Lua) : Option (SlotValue N) := do
  let level ← (memberOf "level" tbData).bind levelOf
  let skillId ← memberOf "skillId" tbData
  pure ⟨level, LuaKey.ofValue skillId⟩

/-- `skillSlotList` of a hero, in the order of `pairs`. What is no table is no list. -/
def slotList : Lua → Option (List (LuaKey × SlotValue N))
  | .table entries => entries.mapM fun entry => (slotValue entry.2).map (entry.1, ·)
  | _ => some []

/-! ### What is asked -/

/-- A slot stands under its number, as a number or as text. -/
def Names (key : LuaKey) (slot : Nat) : Prop := key = .number slot ∨ key = .string (toString slot)

instance (key : LuaKey) (slot : Nat) : Decidable (Names key slot) := inferInstanceAs (Decidable (_ ∨ _))

/-- The fight sees the level of each slot, and each skill in a slot enters it with the level of the slot of its cost. -/
structure LevelsTakeEffect (record : List (LuaKey × SlotValue N)) (info : HeroInfo N) : Prop where
  shown : ∀ slot ∈ positions MIN_COST MAX_COST, ∀ entry ∈ record, Names entry.1 slot →
    info.skill_lvl.bind (fun levels => levels slot) = some entry.2.assigned
  learned : ∀ side templete, ∃ built, initHeroSkill tables side templete info.skill info.skill_lvl info.pos = some built ∧
    ∀ entry ∈ record, ∀ skill, skillConfig tables entry.2.skillId = some skill →
      ∀ slot ∈ positions MIN_COST MAX_COST, skill.2.cost = slot → ∀ own ∈ record, Names own.1 slot →
        built.2.tbSkill skill.1 = some own.2.assigned

/-- The record with another level in a slot. -/
def withLevel (record : List (LuaKey × SlotValue N)) (slot : Nat) (level : N) : List (LuaKey × SlotValue N) :=
  record.map fun entry => if Names entry.1 slot then (entry.1, { entry.2 with level := some level }) else entry

/-- Of the levels of two fight infos, that of the slot differs and no other does. -/
def DifferAt (slot : Nat) (info info' : HeroInfo N) : Prop :=
  ∀ i ∈ positions MIN_COST MAX_COST,
    info'.skill_lvl.bind (fun levels => levels i) ≠ info.skill_lvl.bind (fun levels => levels i) ↔ i = slot

end

/-! ### What the slots hold -/

section
variable {N : Type} {tables : Tables N}


theorem SkillSlot.addSkil_skills (slot : SkillSlot N) (nCost cost : Int) (nID : Nat) :
    (slot.addSkil nCost nID).getSkillsByCost cost =
      if cost = nCost then if nID ∈ slot.getSkillsByCost nCost then slot.getSkillsByCost nCost else slot.getSkillsByCost nCost ++ [nID]
      else slot.getSkillsByCost cost := by
  show ((slot.m_tbSkills.insert nCost _).lookup cost).getD [] = _
  by_cases same : cost = nCost
  · subst same
    rw [AList.lookup_insert, if_pos rfl, Option.getD_some]
  · rw [AList.lookup_insert_ne same, if_neg same]
    rfl

theorem SkillSlot.mem_addSkil {slot : SkillSlot N} {nCost cost : Int} {nID id : Nat} :
    id ∈ (slot.addSkil nCost nID).getSkillsByCost cost ↔ id ∈ slot.getSkillsByCost cost ∨ cost = nCost ∧ id = nID := by
  rw [addSkil_skills]
  by_cases same : cost = nCost
  · subst same
    rw [if_pos rfl]
    split <;> rename_i there
    · constructor
      · exact Or.inl
      · rintro (held | ⟨-, rfl⟩)
        · exact held
        · exact there
    · rw [List.mem_append, List.mem_singleton]
      constructor
      · exact Or.imp_right fun new => ⟨rfl, new⟩
      · exact Or.imp_right And.right
  · rw [if_neg same]
    exact ⟨Or.inl, fun held => held.resolve_right fun new => same new.1⟩

theorem skillConfig_row {key : Option LuaKey} {id : Nat} {row : SkillRow N} (config : skillConfig tables key = some (id, row)) :
    tables.tbSkill id = some row := by
  unfold skillConfig at config
  split at config
  · split at config
    · obtain ⟨row', found, same⟩ := Option.map_eq_some_iff.mp config
      cases same
      exact found
    · cases config
  · cases config

section
variable [Number N]

namespace SkillSlot

/-- A skill is in the slots if it was, or if an entry puts it there. -/
theorem mem_take {slot : SkillSlot N} {entry : LuaKey × SlotValue N} {cost : Int} {id : Nat} :
    id ∈ (slot.take tables entry).getSkillsByCost cost ↔
      id ∈ slot.getSkillsByCost cost ∨ ∃ row, skillConfig tables entry.2.skillId = some (id, row) ∧ row.cost = cost := by
  unfold take
  cases config : skillConfig tables entry.2.skillId with
  | none =>
    refine ⟨Or.inl, fun held => held.resolve_right ?_⟩
    rintro ⟨row, found, -⟩
    cases found
  | some skill =>
    obtain ⟨nSkillID, row⟩ := skill
    refine mem_addSkil.trans (or_congr Iff.rfl ⟨?_, ?_⟩)
    · rintro ⟨rfl, rfl⟩
      exact ⟨row, rfl, rfl⟩
    · rintro ⟨row', found, rfl⟩
      cases found
      exact ⟨rfl, rfl⟩

theorem mem_init {slot : SkillSlot N} {record : List (LuaKey × SlotValue N)} {cost : Int} {id : Nat} :
    id ∈ (slot.init tables record).getSkillsByCost cost ↔ id ∈ slot.getSkillsByCost cost ∨
      ∃ entry ∈ record, ∃ row, skillConfig tables entry.2.skillId = some (id, row) ∧ row.cost = cost := by
  induction record generalizing slot with
  | nil =>
    refine ⟨Or.inl, fun held => held.resolve_right ?_⟩
    rintro ⟨entry, listed, -⟩
    cases listed
  | cons entry rest ih =>
    refine ih.trans ?_
    rw [mem_take, or_assoc, List.exists_mem_cons_iff]

end SkillSlot

/-! ### What the fight is told -/

namespace SlotHero

/-- The skills of the fight info are those that the record puts into slots. -/
theorem mem_skill {pairs : Visit (Int × List (SkillObj N))} {own : HeroInfo N} {record : List (LuaKey × SlotValue N)} {id : Nat} :
    id ∈ (fightInfo pairs (init tables own record)).skill.getD [] ↔
      ∃ entry ∈ record, ∃ row, skillConfig tables entry.2.skillId = some (id, row) := by
  have held : id ∈ (fightInfo pairs (init tables own record)).skill.getD [] ↔
      ∃ cost, id ∈ (SkillSlot.new.init tables record).getSkillsByCost cost := by
    unfold fightInfo
    rw [Option.getD_some, List.mem_flatMap]
    constructor
    · rintro ⟨set, visited, there⟩
      obtain ⟨held, listed, rfl⟩ := List.mem_map.mp ((pairs.all _).mem_iff.mp visited)
      obtain ⟨skill, made, rfl⟩ := List.mem_map.mp there
      obtain ⟨id, own, rfl⟩ := List.mem_map.mp made
      have found : (SkillSlot.new.init tables record).m_tbSkills.lookup held.1 = some held.2 := AList.mem_lookup_iff.mpr listed
      refine ⟨held.1, ?_⟩
      unfold SkillSlot.getSkillsByCost
      rw [found]
      exact own
    · rintro ⟨cost, there⟩
      unfold SkillSlot.getSkillsByCost at there
      cases found : (SkillSlot.new.init tables record).m_tbSkills.lookup cost with
      | none =>
        rw [found] at there
        cases there
      | some ids =>
        rw [found] at there
        refine ⟨_, (pairs.all _).mem_iff.mpr (List.mem_map_of_mem (AList.mem_lookup_iff.mp found)), ?_⟩
        rw [List.map_map]
        exact List.mem_map.mpr ⟨id, there, rfl⟩
  rw [held]
  constructor
  · rintro ⟨cost, there⟩
    rcases SkillSlot.mem_init.mp there with none' | ⟨entry, listed, row, config, -⟩
    · cases none'
    · exact ⟨entry, listed, row, config⟩
  · rintro ⟨entry, listed, row, config⟩
    exact ⟨row.cost, SkillSlot.mem_init.mpr (Or.inr ⟨entry, listed, row, config, rfl⟩)⟩

/-- Every slot is shown at level 1. -/
theorem fightInfo_level (pairs : Visit (Int × List (SkillObj N))) (hero : SlotHero N) {slot : Nat}
    (one : slot ∈ positions MIN_COST MAX_COST) :
    (fightInfo pairs hero).skill_lvl.bind (fun levels => levels slot) = some (num 1) := by
  obtain ⟨low, high⟩ := List.mem_range'_1.mp one
  unfold MIN_COST MAX_COST at *
  exact if_pos (by omega)

end SlotHero

end

/-- Each of the skills is learned at the level of its slot. -/
theorem learn_all {levels : Option (Int → Option N)} (ids : List Nat) (known : ∀ id ∈ ids, ∃ row, tables.tbSkill id = some row)
    (templete : Fighter N) : ∃ after, ids.foldlM (learnSkill tables levels) templete = some after ∧
      ∀ id row, (id ∈ ids ∨ templete.tbSkill id = some (slotLevel levels row)) → tables.tbSkill id = some row →
        after.tbSkill id = some (slotLevel levels row) := by
  induction ids generalizing templete with
  | nil => exact ⟨templete, rfl, fun id row held _ => held.resolve_left List.not_mem_nil⟩
  | cons id rest ih =>
    obtain ⟨row, found⟩ := known id List.mem_cons_self
    obtain ⟨after, ran, learned⟩ := ih (fun other listed => known other (List.mem_cons_of_mem _ listed))
      (templete.learn id (slotLevel levels row))
    refine ⟨after, ?_, ?_⟩
    · rw [List.foldlM_cons, learnSkill, found]
      exact ran
    · intro other row' held found'
      refine learned other row' ?_ found'
      by_cases same : other = id
      · subst same
        rw [found] at found'
        cases found'
        exact Or.inr (Function.update_self ..)
      · refine held.imp (fun listed => (List.mem_cons.mp listed).resolve_left same) fun before => ?_
        exact (Function.update_of_ne same ..).trans before

/-- Each of the skills enters the wheels. -/
theorem enter_all {pos : Nat} (ids : List Nat) (known : ∀ id ∈ ids, ∃ row, tables.tbSkill id = some row)
    (wheels : Int → Option (Wheel (Nat × Nat) N)) :
    ∃ after, (ids.map fun id => (id, pos)).foldlM (enterWheel tables) wheels = some after := by
  induction ids generalizing wheels with
  | nil => exact ⟨wheels, rfl⟩
  | cons id rest ih =>
    obtain ⟨row, found⟩ := known id List.mem_cons_self
    rw [List.map_cons, List.foldlM_cons, enterWheel, found]
    exact ih (fun other listed => known other (List.mem_cons_of_mem _ listed)) _

section
variable [Number N]

theorem level_one {levels : Int → Option N} {row : SkillRow N} {slot : Nat} (cost : row.cost = slot)
    (level : levels slot = some (num 1)) : slotLevel (some levels) row = num 1 := by
  unfold slotLevel
  rw [Option.bind_some, cost, level]
  rfl

/-- The levels take effect where each is that of a new slot. Two records that differ in a level never do. -/
theorem slot_levels_in_battle (tables : Tables N) (pairs : Visit (Int × List (SkillObj N))) (own : HeroInfo N)
    (record : List (LuaKey × SlotValue N)) :
    (LevelsTakeEffect tables record (SlotHero.fightInfo pairs (.init tables own record)) ↔
      ∀ slot ∈ positions MIN_COST MAX_COST, ∀ entry ∈ record, Names entry.1 slot → entry.2.assigned = num 1) ∧
    ∀ slot ∈ positions MIN_COST MAX_COST, ∀ level,
      ¬ DifferAt slot (SlotHero.fightInfo pairs (.init tables own record))
        (SlotHero.fightInfo pairs (.init tables own (withLevel record slot level))) := by
  constructor
  · constructor
    · intro effect slot one entry listed names
      exact Option.some.inj ((effect.shown slot one entry listed names).symm.trans (SlotHero.fightInfo_level pairs _ one))
    · intro plain
      refine ⟨fun slot one entry listed names => ?_, fun side templete => ?_⟩
      · rw [plain slot one entry listed names]
        exact SlotHero.fightInfo_level pairs _ one
      · have known : ∀ id ∈ (SlotHero.fightInfo pairs (.init tables own record)).skill.getD [],
            ∃ row, tables.tbSkill id = some row := by
          intro id there
          obtain ⟨entry, -, row, config⟩ := SlotHero.mem_skill.mp there
          exact ⟨row, skillConfig_row config⟩
        obtain ⟨after, ran, learned⟩ := learn_all _ known templete
        obtain ⟨wheels, entered⟩ := enter_all _ known side.roundSkill
        refine ⟨({ side with roundSkill := wheels }, after), ?_, ?_⟩
        · rw [initHeroSkill_split, entered, ran]
          rfl
        · intro entry listed skill config slot one cost own' stands names
          rw [plain slot one own' stands names]
          refine (learned skill.1 skill.2 (Or.inl ?_) (skillConfig_row config)).trans ?_
          · exact SlotHero.mem_skill.mpr ⟨entry, listed, skill.2, config⟩
          · exact congrArg some (level_one cost (SlotHero.fightInfo_level pairs _ one))
  · intro slot one level differ
    have differs := (differ slot one).mpr rfl
    rw [SlotHero.fightInfo_level pairs _ one, SlotHero.fightInfo_level pairs _ one] at differs
    exact differs rfl

end

end

/-- A slot as the server stores it. -/
def slotJson (level : Int) : JsValue := .object [(.string "level", .number level), (.string "skillId", .number 0)]

/-- The slots of a new hero after `upgradeSkillSlot` of the first. -/
def upgraded : JsValue :=
  .object ((.number 1, slotJson 2) :: [2, 3, 4, 5, 6].map fun slot => (Key.number slot, slotJson 1))

theorem upgrade_lost : ∃ record, slotList (toLua id upgraded) = some record ∧
    ¬ LevelsTakeEffect duelTables record (SlotHero.fightInfo ⟨id, List.Perm.refl⟩ (.init duelTables (duellist none) record)) := by
  refine ⟨_, rfl, fun effect => ?_⟩
  have shown := effect.shown 1 (by decide) _ List.mem_cons_self (Or.inl rfl)
  exact absurd (Option.some.inj shown) (by decide)

end Tinygame.Fight
