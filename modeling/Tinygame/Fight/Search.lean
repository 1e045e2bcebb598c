import Tinygame.Fight.Manager

/-!
# Targets

`searchTarget` and `searchDefault` of `minifight.lua`: the positions a skill is aimed at.
-/

namespace Tinygame.Fight
open Play
variable {N : Type} [Number N]

/-- The statuses `searchDefault` asks for are those of `SEARCH_TYPE`, which names neither. -/
def SEARCH_TYPE_RIDICULE : Option StatusType := none
def SEARCH_TYPE_FLY : Option StatusType := none

namespace Fighter

/-- `statusMark[key]` -/
def marked (fighter : Fighter N) : Option StatusType → Bool
  | none => false
  | some type => fighter.statusMark type

end Fighter

namespace Side

def present (side : Side N) (pos : Nat) : Bool := (side.posts pos).isSome

/-- The positions of the range at which somebody is. -/
def among (side : Side N) (first last : Nat) : List Nat := (positions first last).filter side.present

/-- The first position whose fighter has the marks. -/
def withMarks (side : Side N) (marks : List (Option StatusType)) : Option Nat :=
  (positions P_HEAD_LEFT P_BACK_RIGHT).find? fun pos => (side.fighterAt pos).any fun fighter => marks.all fighter.marked

end Side

/-- The position in the front row of a column. -/
def inFront (idx : Nat) : Nat := if P_HEAD_RIGHT < idx then idx - P_HEAD_RIGHT else idx

/-- What `searchDefault` finds before it looks at the range. -/
def defaultTarget (caster : Fighter N) (idx : Nat) (side : Side N) : Option Nat :=
  let tar1 := inFront idx
  if caster.statusMark .fly then
    match side.withMarks [SEARCH_TYPE_RIDICULE, SEARCH_TYPE_FLY] with
    | some pos => some pos
    | none =>
      if (side.fighterAt tar1).any fun fighter => fighter.statusMark .fly then some tar1
      else if side.present (tar1 + P_HEAD_RIGHT) then some (tar1 + P_HEAD_RIGHT)
      else (side.among P_HEAD_LEFT P_BACK_RIGHT).head?
  else
    match side.withMarks [SEARCH_TYPE_RIDICULE] with
    | some pos => some pos
    | none =>
      if side.present tar1 then some tar1
      else if side.present (tar1 + P_HEAD_RIGHT) then some (tar1 + P_HEAD_RIGHT)
      else (side.among P_HEAD_LEFT P_BACK_RIGHT).head?

/-- The other position of the column. -/
def behind (ret : Nat) : Nat := if ret < P_BACK_LEFT then ret + P_HEAD_RIGHT else ret - P_HEAD_RIGHT

/-- The range around the position that was found. -/
def inRange (side : Side N) (range : SearchRange) (ret : Nat) : List Nat :=
  match range with
  | .row => if ret < P_BACK_LEFT then side.among P_HEAD_LEFT P_HEAD_RIGHT else side.among P_BACK_LEFT P_BACK_RIGHT
  | .line => [ret, behind ret]
  | .single => [ret]

def searchDefault (caster : Fighter N) (idx : Nat) (side : Side N) (range : SearchRange) : List Nat :=
  match defaultTarget caster idx side with
  | none => []
  | some ret => inRange side range ret

/-- The creature in the front row that `better` prefers to those before it. A hero has no cost to compare. -/
def bestSummon (better : N → N → Bool) (start : N) (side : Side N) : Option (List Nat) := do
  let found ← (positions P_HEAD_LEFT P_HEAD_RIGHT).foldlM (fun (found : N × Option Nat) i =>
    match side.fighterAt i with
    | none => pure found
    | some fighter => do
      let cost ← fighter.cost
      pure (if better cost found.1 then (cost, some i) else found)) (start, none)
  pure found.2.toList

/-- The creatures in the front row whose cost is in order with that of the skill. -/
def summonsOfCost (inOrder : N → N → Bool) (costarg : Option N) (side : Side N) : Option (List Nat) :=
  (positions P_HEAD_LEFT P_HEAD_RIGHT).foldlM (fun target i =>
    match side.fighterAt i with
    | none => pure target
    | some fighter => do
      let cost ← fighter.cost
      let costarg ← costarg
      pure (if inOrder cost costarg then target ++ [i] else target)) []

/-- Every position of the front row is indexed, also one at which nobody is. -/
def leastHp (side : Side N) : Option (List Nat) := do
  let found ← (positions P_HEAD_LEFT P_HEAD_RIGHT).foldlM (fun (found : N × Option Nat) i => do
    let fighter ← side.fighterAt i
    let temp := fighter.nHP / fighter.nMaxHP
    pure (if temp < found.1 then (temp, some i) else found)) (num 100, none)
  pure found.2.toList

def SkillEffect.isCall : SkillEffect N → Bool
  | .call _ => true
  | _ => false

/-- What the type of search finds itself. -/
def searchFirst (targetCamp : Camp) (idx : Nat) (row : SkillRow N) (effect : SkillEffect N) : Play N (List Nat) := do
  let field ← Traced.read
  let side := field.fighters targetCamp
  match row.target with
  | .default => pure []
  | .pos => do
    let tbPos ← indexed row.pos
    pure (if effect.isCall then tbPos else tbPos.filter side.present)
  | .self => pure [idx]
  | .obsSummon => pure (if side.present (inFront idx) then [inFront idx] else [])
  | .maxSummon => indexed (bestSummon (fun cost best => best < cost) (num 0) side)
  | .minSummon => indexed (bestSummon (fun cost best => cost < best) (num 100) side)
  | .costUpSummon => indexed (summonsOfCost (fun cost costarg => costarg ≤ cost) row.costarg side)
  | .costDownSummon => indexed (summonsOfCost (fun cost costarg => cost ≤ costarg) row.costarg side)
  | .random =>
    let tbTemp := side.among P_HEAD_LEFT P_BACK_RIGHT
    if tbTemp = [] then pure []
    else do
      let ret ← Play.random tbTemp.length
      pure tbTemp[ret - 1]?.toList
  | .minHp => indexed (leastHp side)
  | .obsHero =>
    let tar := if idx < P_BACK_LEFT then idx + P_HEAD_RIGHT else idx
    pure (if side.present tar then [tar] else [])
  | .selfHead =>
    -- where no call is cast the script inserts `v`, which is nil here
    pure (if P_HEAD_RIGHT < idx ∧ effect.isCall then [idx - P_HEAD_RIGHT] else [])
  | .other => pure []

/-- When the type of search finds nobody, the default search is tried. -/
def searchTarget (camp targetCamp : Camp) (idx : Nat) (row : SkillRow N) (effect : SkillEffect N) : Play N (List Nat) := do
  let target ← searchFirst targetCamp idx row effect
  if target = [] then
    let caster ← fighter camp idx
    let field ← Traced.read
    pure (searchDefault caster idx (field.fighters targetCamp) row.rangetype)
  else pure target

end Tinygame.Fight
