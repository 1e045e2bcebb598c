import Tinygame.Fight.Manager

/-!
# Condition queues

The statuses of `minifight.lua`: which take effect on a condition, what they do, how they wear out and how
they are removed.
-/

namespace Tinygame.Fight
open Play
variable {N : Type} [Number N] (tables : Tables N)

/-! ### Removal -/

/-- Remove the status at a place of the fighter's list, counted from 1, and tell its id. -/
def removeStatus (fighter : Fighter N) (pos : Nat) : Option (Fighter N × Nat) := do
  let status ← fighter.status[pos - 1]?
  let row ← tables.tbStatus status.id
  let type ← tables.tbStatusType row.effect.type
  let mark := if type.coexist.marked then Function.update fighter.statusMark row.effect.type false else fighter.statusMark
  pure ({ fighter with status := fighter.status.eraseIdx (pos - 1), statusMark := mark }, status.id)

/-- `removeStatus` at a position of the board. -/
def removeAt (camp : Camp) (idx pos : Nat) : Play N Nat := do
  let there ← fighter camp idx
  let removed ← indexed (removeStatus tables there pos)
  modifyFighter camp idx fun _ => removed.1
  pure removed.2

def setTimes (times : Int) (pos : Nat) (fighter : Fighter N) : Fighter N :=
  { fighter with status := fighter.status.modify (pos - 1) fun status => { status with times := some times } }

/-- A use of the status in the list of `owner`. What is removed is removed from the fighter at `idx`. -/
def desStatusTime (camp : Camp) (idx : Option Nat) (owner : Nat) (times : Option Int) (pos : Nat) : Play N Bool :=
  match times with
  | none => pure false
  | some times =>
    if times - 1 ≤ 0 then do
      let idx ← indexed idx
      let _ ← removeAt tables camp idx pos
      pure true
    else do
      modifyFighter camp owner (setTimes (times - 1) pos)
      pure false

/-! ### Effects -/

/-- `idx` is nil where the caller has no position to pass. -/
def addSkillQueue (cost : Option Int) (camp : Camp) (idx : Option Nat) (id : Option Nat) : Play N Unit := do
  let idx ← indexed idx
  let there ← fighter camp idx
  let skillBag : SkillBag := ⟨id, cost, camp, idx, there.type⟩
  Traced.modify fun field => { field with SkillQueue := field.SkillQueue ++ [skillBag] }

/-- What the record of a status tells of an attribute. The life of a hero is that of its side. -/
def changed (amount : N) (bAll : Bool) (side : Side N) (fighter : Fighter N) : N × Bool × N × N :=
  if bAll then (amount, bAll, side.totalHP, side.MaxHP) else (amount, bAll, fighter.nHP, fighter.nMaxHP)

/-- The side with the attribute of the fighter raised, and whether that was life of the side. -/
def raise (attr : Attribute) (amount : N) (pos : Nat) (fighter : Fighter N) (side : Side N) : Side N × Bool :=
  match attr with
  | .atk => (side.modifyFighter pos fun fighter => { fighter with nAfk := fighter.nAfk + amount }, false)
  | .defense => (side.modifyFighter pos fun fighter => { fighter with nDef := fighter.nDef + amount }, false)
  | .crit => (side.modifyFighter pos fun fighter => { fighter with nCrit := fighter.nCrit + amount }, false)
  | .dog => (side.modifyFighter pos fun fighter => { fighter with nDog := fighter.nDog + amount }, false)
  | .maxHp =>
    if fighter.type = .hero then ({ side with MaxHP := side.MaxHP + Number.floor amount }, true)
    else (side.modifyFighter pos fun fighter => { fighter with nMaxHP := fighter.nMaxHP + Number.floor amount }, false)
  | .other _ => (side, false)

/-- `totalHP` or `nHP` under a maximum that was lowered. -/
def clamp (hp maxHp : N) : N := if maxHp < hp then maxHp else hp

/-- The same for an attribute that is lowered, and by how much it was. -/
def lower (attr : Attribute) (amount : N) (pos : Nat) (fighter : Fighter N) (side : Side N) : Side N × Bool × N :=
  match attr with
  | .atk =>
    let (value, nV) := desAttrValue fighter.nAfk amount
    (side.modifyFighter pos fun fighter => { fighter with nAfk := value }, false, nV)
  | .defense =>
    let (value, nV) := desAttrValue fighter.nDef amount
    (side.modifyFighter pos fun fighter => { fighter with nDef := value }, false, nV)
  | .crit =>
    let (value, nV) := desAttrValue fighter.nCrit amount
    (side.modifyFighter pos fun fighter => { fighter with nCrit := value }, false, nV)
  | .dog =>
    let (value, nV) := desAttrValue fighter.nDog amount
    (side.modifyFighter pos fun fighter => { fighter with nDog := value }, false, nV)
  | .maxHp =>
    if fighter.type = .hero then
      let (value, nV) := desAttrValue side.MaxHP (Number.floor amount)
      ({ side with MaxHP := value, totalHP := clamp side.totalHP value }, true, nV)
    else
      let (value, nV) := desAttrValue fighter.nMaxHP (Number.floor amount)
      (side.modifyFighter pos fun fighter => { fighter with nMaxHP := value, nHP := clamp fighter.nHP value }, false, nV)
  | .other _ => (side, false, num 0)

def side (camp : Camp) : Play N (Side N) := do
  let field ← Traced.read
  pure (field.fighters camp)

/-- One attribute of a status that adds. A value that is no number is passed over. -/
def addAttribute (camp : Camp) (idx : Option Nat) (lvl : N) (op : BuffOp N) : Attribute × Option N → Play N (BuffOp N)
  | (_, none) => pure op
  | (attr, some value) => do
    let pos ← indexed idx
    let there ← fighter camp pos
    let before ← side camp
    let raised := raise attr (value * lvl) pos there before
    modifySide camp fun _ => raised.1
    let there ← fighter camp pos
    pure { op with value := Function.update op.value attr (some (changed (value * lvl) raised.2 raised.1 there)) }

/-- One attribute of a status that reduces. -/
def reduceAttribute (camp : Camp) (idx : Option Nat) (lvl : N) (op : BuffOp N) : Attribute × Option N → Play N (BuffOp N)
  | (_, none) => pure op
  | (attr, some value) => do
    let pos ← indexed idx
    let there ← fighter camp pos
    let before ← side camp
    let lowered := lower attr (value * lvl) pos there before
    modifySide camp fun _ => lowered.1
    let there ← fighter camp pos
    pure { op with value := Function.update op.value attr (some (changed lowered.2.2 lowered.2.1 lowered.1 there)) }

/-- What both do with an attribute that is a number. -/
def alterAttribute (camp : Camp) (idx : Option Nat) (alter : Nat → Fighter N → Side N → Side N)
    (op : Nat → Fighter N → Side N → Fighter N → BuffOp N) : Play N (BuffOp N) := do
  let pos ← indexed idx
  let there ← fighter camp pos
  let before ← side camp
  modifySide camp fun _ => alter pos there before
  let after ← fighter camp pos
  pure (op pos there before after)

section
variable {camp : Camp} {idx : Option Nat} {lvl : N} {op : BuffOp N} {attr : Attribute}

theorem addAttribute_none : addAttribute camp idx lvl op (attr, none) = pure op := rfl

theorem addAttribute_some {value : N} : addAttribute camp idx lvl op (attr, some value) =
    alterAttribute camp idx (fun pos there before => (raise attr (value * lvl) pos there before).1) fun pos there before after =>
      let raised := raise attr (value * lvl) pos there before
      { op with value := Function.update op.value attr (some (changed (value * lvl) raised.2 raised.1 after)) } := rfl

theorem reduceAttribute_none : reduceAttribute camp idx lvl op (attr, none) = pure op := rfl

theorem reduceAttribute_some {value : N} : reduceAttribute camp idx lvl op (attr, some value) =
    alterAttribute camp idx (fun pos there before => (lower attr (value * lvl) pos there before).1) fun pos there before after =>
      let lowered := lower attr (value * lvl) pos there before
      { op with value := Function.update op.value attr (some (changed lowered.2.2 lowered.2.1 lowered.1 after)) } := rfl

end

/-- The status at a place of the list of `owner` takes effect. -/
def activeStatus (camp : Camp) (idx : Option Nat) (owner : Nat) (status : Status N) (statusPos : Nat) : Play N (BuffOp N) := do
  Traced.mark (.active camp idx owner statusPos)
  let row ← indexed (tables.tbStatus status.id)
  let dis ← desStatusTime tables camp idx owner status.times statusPos
  let op : BuffOp N := ⟨camp, idx, status.id, fun _ => none, none, dis⟩
  match row.effect with
  | .add attributes => attributes.foldlM (addAttribute camp idx status.lvl) op
  | .reduce attributes => attributes.foldlM (reduceAttribute camp idx status.lvl) op
  | .skill arg1 => do
    addSkillQueue none camp idx arg1
    pure { op with skillid := arg1 }
  | _ => pure op

/-! ### Conditions -/

/-- The statuses of one fighter that wait for the condition, from the last to the first. -/
def trigger (condition : ConditionType) (camp : Camp) (owner : Nat) (idx : Option Nat) : Play N (List (BuffOp N)) := do
  match ← fighter? camp owner with
  | none => pure []
  | some there =>
    (downFrom there.status.length).foldlM (fun tb j => do
      let there ← fighter camp owner
      let status ← indexed there.status[j - 1]?
      let row ← indexed (tables.tbStatus status.id)
      if row.triggercondition = some condition then
        let op ← activeStatus tables camp idx owner status j
        pure (tb ++ [op])
      else pure tb) []

def condCampAll (condition : ConditionType) (camp : Camp) : Play N (List (BuffOp N)) :=
  (positions P_HEAD_LEFT P_BACK_RIGHT).foldlM (fun tb i => do
    let ops ← trigger tables condition camp i (some i)
    pure (tb ++ ops)) []

def condAllProcess (condition : ConditionType) : Play N (List (BuffOp N)) := do
  let mine ← condCampAll tables condition .me
  let theirs ← condCampAll tables condition .obs
  pure (mine ++ theirs)

def condCampAllExceptMe (condition : ConditionType) (camp : Camp) (idx : Nat) : Play N (List (BuffOp N)) :=
  (positions P_HEAD_LEFT P_BACK_RIGHT).foldlM (fun tb i =>
    if idx = i then pure tb
    else do
      let ops ← trigger tables condition camp i (some i)
      pure (tb ++ ops)) []

/-- `i`, which the script passes on, is no variable of this function. -/
def condMe (condition : ConditionType) (camp : Camp) (idx : Nat) : Play N (List (BuffOp N)) :=
  trigger tables condition camp idx none

def condImmu (camp : Camp) (idx : Nat) : Play N Bool := do
  let there ← fighter camp idx
  -- `desStatusTime` is given the list instead of the status, and a list has no uses
  if there.statusMark .immunity then indexed (findType tables .immunity there.status.reverse) else pure false

def condDizz (camp : Camp) (idx : Nat) : Play N Bool := do
  let there ← fighter camp idx
  pure (there.statusMark .dizz)

def condShield (camp : Camp) (idx : Nat) (damage : N) : Play N (N × Bool) := do
  Traced.mark (.shield camp idx)
  let there ← fighter camp idx
  if there.statusMark .shield then
    if ← indexed (findType tables .shield there.status.reverse) then
      -- `status.id` of the list instead of the status: there is no such row to index
      Traced.stop .error
    else pure (damage, false)
  else pure (damage, false)

/-! ### Statuses of a skill -/

/-- The ids of the statuses that were added. -/
def createStatus (targetCamp : Camp) (target : Nat) (tbStatusID : List Nat) (skill_lvl : N) : Play N (List Nat) := do
  match ← fighter? targetCamp target with
  | none => pure []
  | some _ =>
    tbStatusID.foldlM (fun buff id =>
      match tables.tbStatus id with
      | none => pure buff
      | some _ => do
        let there ← fighter targetCamp target
        let added ← indexed (addStatus tables there id skill_lvl)
        modifyFighter targetCamp target fun _ => added.1
        pure (if added.2 then buff ++ [id] else buff)) []

/-- Whether a status is of the nature that is dispelled. -/
def dispelled (nature : Int) (status : Status N) : Option Bool := do
  let row ← tables.tbStatus status.id
  let type ← tables.tbStatusType row.effect.type
  pure (type.statustype = nature ∧ type.disperse = 1)

/-- The rounds of `eraseStatus` over the places that are left. `ret` are the ids removed so far. -/
def eraseLoop (targetCamp : Camp) (target : Nat) (dis : Int × Int) : List Nat → List Nat → Play N (List Nat)
  | [], ret => pure ret
  | i :: rest, ret => do
    let there ← fighter targetCamp target
    let status ← indexed there.status[i - 1]?
    let ret ←
      if ← indexed (dispelled tables dis.1 status) then
        let id ← removeAt tables targetCamp target i
        -- the script prints the id of what is at the place after the removal
        let there ← fighter targetCamp target
        let _ ← indexed there.status[i - 1]?
        pure (ret ++ [id])
      else pure ret
    if dis.2 ≠ 0 ∧ dis.2 ≤ ret.length then pure ret else eraseLoop targetCamp target dis rest ret

def eraseStatus (targetCamp : Camp) (target : Nat) (dis : Int × Int) : Play N (List Nat) := do
  Traced.mark (.dispel targetCamp target dis)
  if 0 < dis.1 then
    let there ← fighter targetCamp target
    eraseLoop tables targetCamp target dis (downFrom there.status.length) []
  else pure []

end Tinygame.Fight
