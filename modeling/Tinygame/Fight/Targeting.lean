import Tinygame.Fight.SearchFaults

/-!
# Whom the default search finds

What `searchDefault` is for: a taunt draws the attack to itself, of a caster that flies only when the one who taunts
flies too. Without a taunt the attack goes to the creature opposite, the hero opposite or whoever comes first. The
statuses are looked up under names that `SEARCH_TYPE` does not have, and no taunt is ever found.
-/

namespace Tinygame.Fight
variable {N : Type}

namespace Side

def At (side : Side N) (p : Fighter N → Bool) (pos : Nat) : Prop := (side.fighterAt pos).any p = true

def Has (side : Side N) (p : Fighter N → Bool) : Prop := ∃ pos ∈ positions P_HEAD_LEFT P_BACK_RIGHT, side.At p pos

end Side

/-- Whoever taunts a caster that flies, or that walks. -/
def taunts (flies : Bool) (fighter : Fighter N) : Bool := fighter.statusMark .ridicule && (!flies || fighter.statusMark .fly)

/-- The creature opposite, which for a caster that flies has to fly, else the hero opposite, else whoever comes first. -/
def plainTarget (flies : Bool) (idx : Nat) (side : Side N) : Option Nat :=
  let tar1 := inFront idx
  if (side.fighterAt tar1).any fun fighter => !flies || fighter.statusMark .fly then some tar1
  else if side.present (tar1 + P_HEAD_RIGHT) then some (tar1 + P_HEAD_RIGHT)
  else (side.among P_HEAD_LEFT P_BACK_RIGHT).head?

/-- The target of a single attack. -/
structure Targeted (caster : Fighter N) (idx : Nat) (side : Side N) (target : List Nat) : Prop where
  taunted : side.Has (taunts (caster.statusMark .fly)) → ∃ pos, target = [pos] ∧ side.At (taunts (caster.statusMark .fly)) pos
  plain : ¬ side.Has (taunts (caster.statusMark .fly)) → target = (plainTarget (caster.statusMark .fly) idx side).toList

/-- Who taunts, if anybody does, is whom the attack goes to anyway. -/
def TauntsInOrder (caster : Fighter N) (idx : Nat) (side : Side N) : Prop :=
  side.Has (taunts (caster.statusMark .fly)) →
    ∃ pos, plainTarget (caster.statusMark .fly) idx side = some pos ∧ side.At (taunts (caster.statusMark .fly)) pos

variable {caster : Fighter N} {idx : Nat} {side : Side N}

/-- No fighter has a mark that has no name. -/
theorem withMarks_unnamed (side : Side N) (marks : List (Option StatusType)) : side.withMarks (SEARCH_TYPE_RIDICULE :: marks) = none := by
  refine List.find?_eq_none.mpr fun pos _ => ?_
  cases side.fighterAt pos with
  | none => simp
  | some fighter => simp [SEARCH_TYPE_RIDICULE, Fighter.marked]

theorem defaultTarget_plain (caster : Fighter N) (idx : Nat) (side : Side N) :
    defaultTarget caster idx side = plainTarget (caster.statusMark .fly) idx side := by
  unfold defaultTarget plainTarget
  rw [withMarks_unnamed, withMarks_unnamed]
  cases flies : caster.statusMark .fly with
  | true => simp
  | false =>
    have there : side.present (inFront idx) = (side.fighterAt (inFront idx)).isSome := by simp [Side.present, Side.fighterAt]
    simp [there]

theorem searchDefault_single (caster : Fighter N) (idx : Nat) (side : Side N) :
    searchDefault caster idx side .single = (plainTarget (caster.statusMark .fly) idx side).toList := by
  unfold searchDefault
  rw [defaultTarget_plain]
  cases plainTarget (caster.statusMark .fly) idx side <;> rfl

/-- A single attack by the default search goes where it should exactly when a taunt changes nothing. -/
theorem default_targeting (caster : Fighter N) (idx : Nat) (side : Side N) :
    Targeted caster idx side (searchDefault caster idx side .single) ↔ TauntsInOrder caster idx side := by
  rw [searchDefault_single]
  constructor
  · intro targeted somebody
    obtain ⟨pos, only, taunter⟩ := targeted.taunted somebody
    exact ⟨pos, Option.toList_eq_singleton_iff.mp only, taunter⟩
  · intro order
    refine ⟨fun somebody => ?_, fun _ => rfl⟩
    obtain ⟨pos, found, taunter⟩ := order somebody
    exact ⟨pos, by rw [found]; rfl, taunter⟩

/-- A fighter with nothing to its name but its marks. -/
def bystander (type : TargetType) (statusMark : StatusType → Bool) : Fighter Exact where
  id := 1
  nLVL := num 1
  nMaxHP := num 5
  nHP := num 5
  nAfk := num 1
  nDef := num 0
  nRed := num 0
  nPen := num 0
  nCrit := num 0
  nTen := num 0
  nHit := num 0
  nDog := num 0
  tbSkill := fun _ => none
  skill_lvl := none
  type := type
  cost := if type = .hero then none else some (num 1)
  roundSkill := none
  status := []
  statusMark := statusMark
  normalattack := fun _ => 1

/-- A creature at the left of the front row, and behind the middle a hero who taunts. -/
def tauntingSide : Side Exact where
  totalHP := num 10
  MaxHP := num 10
  addCost := 0
  roundSkill := fun _ => none
  combo := fun _ => none
  posts := fun pos =>
    if pos = 1 then some ⟨bystander .summon fun _ => false, []⟩
    else if pos = 5 then some ⟨bystander .hero fun mark => mark = .ridicule, []⟩
    else none

/-- The hero taunts, and the creature opposite is attacked. -/
theorem taunt_unheeded :
    ¬ Targeted (bystander .hero fun _ => false) 4 tauntingSide
        (searchDefault (bystander .hero fun _ => false) 4 tauntingSide .single) := by
  intro targeted
  obtain ⟨pos, only, taunter⟩ := targeted.taunted ⟨5, by decide, by unfold Side.At; decide⟩
  have attacked : searchDefault (bystander .hero fun _ => false) 4 tauntingSide .single = [1] := by decide
  obtain rfl : 1 = pos := List.singleton_inj.mp (attacked.symm.trans only)
  unfold Side.At at taunter
  exact absurd taunter (by decide)

end Tinygame.Fight
