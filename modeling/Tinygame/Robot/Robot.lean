import Tinygame.Bag.Award
import Tinygame.Base.Run
import Mathlib.Logic.Function.Iterate

/-!
# Robots

`module/robot/robot.js`. The robots are made once, from three tables, and kept. A robot names its heroes and its equips by the
rows they come from: two robots that name one row have one object between them.
-/

namespace Tinygame.Robot
open Bag (Id ItemTable EquipInfo Moment createEquip)

local instance threeEquips : NeZero 3 := ⟨by decide⟩

structure RobotHeroRow where
  heroId : Id
  level : Int
  star : Int
  quality : Int
  skillLv : Fin 6 → Int

/-- The two bounds of an attribute come in either order. -/
structure RobotEquipRow where
  equipId : Id
  hp : Option (Int × Int)
  atk : Option (Int × Int)
  defence : Option (Int × Int)

structure RobotRow where
  hero : Fin 3 → Id
  equip : Fin 3 → Id
  teamLv : Int

structure Tables where
  Item : ItemTable
  /-- The power of an item. -/
  auNo : String → Int
  /-- The heroes that have suits. -/
  SuitAu : String → Bool
  /-- `getHeroPower`, of the id, the level, the star and the quality of a hero. -/
  getHeroPower : Id → Int → Int → Int → Int
  RobotHero : Obj RobotHeroRow
  RobotEquip : Obj RobotEquipRow
  robots : Obj RobotRow

structure Hero where
  heroId : Id
  level : Int
  star : Int
  quality : Int
  skillSlotList : Fin 6 → Int
  pos : Option Int

structure RobotInfo where
  area : Id
  uuid : Id
  /-- The rows of its heroes. -/
  teamList : Fin 3 → String
  /-- The rows of its equips. -/
  equipList : Fin 3 → String
  level : Int
  power : Int

/-- What is kept, with the heroes and equips the robots share. -/
structure Cache where
  heroes : Obj Hero
  equips : Obj EquipInfo
  robots : List RobotInfo

/-- `utils.randomInt`. -/
def randomInt (min max : Int) (draw : Nat) : Int := if min > max then 0 else min + draw % (max - min + 1)

section
variable (tables : Tables)

/-! ### Making the robots -/

def createHero (row : RobotHeroRow) : Option Hero :=
  if tables.SuitAu row.heroId.name then some ⟨row.heroId, row.level, row.star, row.quality, row.skillLv, none⟩ else none

def convertRobotHeroInfo : Option (Obj Hero) :=
  tables.RobotHero.entries.foldlM (fun robotHeroList entry => (createHero tables entry.2).map (robotHeroList.set entry.1)) ∅

/-- An attribute a row has bounds for is written over the one the equip was made with. -/
def writeAttr (i : Fin 4) (kind : Int) (bounds : Option (Int × Int)) (draw : Nat) (equip : EquipInfo) : EquipInfo :=
  match bounds with
  | none => equip
  | some (first, second) =>
    let n := if first < second then randomInt first second draw else randomInt second first draw
    { equip with attrs := Function.update equip.attrs i (kind, n) }

def convertEquip (row : RobotEquipRow) (moment : Moment) (draw : Fin 3 → Nat) : Option EquipInfo :=
  (tables.Item.rows.get? row.equipId.name).map fun item =>
    writeAttr 2 7 row.defence (draw 2)
      (writeAttr 1 6 row.atk (draw 1) (writeAttr 0 5 row.hp (draw 0) (createEquip row.equipId item moment).2))

def convertRobotEquip (moments : String → Moment) (draws : String → Fin 3 → Nat) : Option (Obj EquipInfo) :=
  tables.RobotEquip.entries.foldlM (fun robotEquipList entry =>
    (convertEquip tables entry.2 (moments entry.1) (draws entry.1)).map (robotEquipList.set entry.1)) ∅

def Hero.power (hero : Hero) : Int := tables.getHeroPower hero.heroId hero.level hero.star hero.quality

def getEquipPower (equip : EquipInfo) : Int :=
  tables.auNo (equip.id.getD .undefined).name + (equip.attrs 0).2 + (equip.attrs 1).2 + (equip.attrs 2).2 + (equip.attrs 3).2

/-- The power of a robot, which has to have its heroes and equips. -/
def robotPower (heroes : Obj Hero) (equips : Obj EquipInfo) (robot : RobotInfo) : Option Int := do
  let hero1 ← (heroes.get? (robot.teamList 0)).map (Hero.power tables)
  let hero2 ← (heroes.get? (robot.teamList 1)).map (Hero.power tables)
  let hero3 ← (heroes.get? (robot.teamList 2)).map (Hero.power tables)
  let equip1 ← (equips.get? (robot.equipList 0)).map (getEquipPower tables)
  let equip2 ← (equips.get? (robot.equipList 1)).map (getEquipPower tables)
  let equip3 ← (equips.get? (robot.equipList 2)).map (getEquipPower tables)
  return hero1 + hero2 + hero3 + equip1 + equip2 + equip3

/-- The heroes of a robot get the positions 4, 5 and 6. -/
def seat (heroes : Obj Hero) (teamList : Fin 3 → String) : Obj Hero :=
  (List.finRange 3).foldl (fun heroes k => heroes.modify (teamList k) fun hero => { hero with pos := some (4 + k.val) }) heroes

def convertOne (equips : Obj EquipInfo) (made : Obj Hero × List RobotInfo) (i : String) (row : RobotRow) :
    Option (Obj Hero × List RobotInfo) := do
  let robot : RobotInfo := ⟨.text i, .number 0, fun k => (row.hero k).name, fun k => (row.equip k).name, row.teamLv, 0⟩
  let heroes := seat made.1 robot.teamList
  let power ← robotPower tables heroes equips robot
  return (heroes, made.2 ++ [{ robot with power }])

/-- `none` when a row names another that is not there. -/
def convertRobot (moments : String → Moment) (draws : String → Fin 3 → Nat) : Option Cache := do
  let equips ← convertRobotEquip tables moments draws
  let heroes ← convertRobotHeroInfo tables
  let made ← tables.robots.entries.foldlM (fun made entry => convertOne tables equips made entry.1 entry.2) (heroes, [])
  return ⟨made.1, equips, made.2⟩

/-! ### A robot for a power -/

/-- One round of the search: below the power the nearest counts, and above it only the nearest if none is below. -/
def nearer (id : Int) (best : Nat × Int) (entry : RobotInfo × Nat) : Nat × Int :=
  let tmp := entry.1.power - id
  if tmp < 0 ∧ best.2 < 0 then if tmp > best.2 then (entry.2, tmp) else best
  else if tmp < best.2 then (entry.2, tmp) else best

/-- `minId` and `minPower`. -/
def nearest (robots : List RobotInfo) (id : Int) : Nat × Int := robots.zipIdx.foldl (nearer id) (0, 99999999)

/-- What is added to each attribute: a fifth of the deviation that is drawn. -/
def deviation (minPower : Int) (draw : Nat) : Int :=
  (if -minPower > 0 then randomInt 0 (-minPower) draw else randomInt (-minPower) 0 draw).tdiv 5

def changed (n value : Int) : Int := if value + n ≤ 0 then 10 else value + n

def changeAttr (i : Fin 4) (kind n : Int) (equip : EquipInfo) : EquipInfo :=
  if (equip.attrs i).1 = kind then
    { equip with attrs := Function.update equip.attrs i (kind, changed n (equip.attrs i).2) }
  else equip

def changeEquipPower (n : Int) (equip : EquipInfo) : EquipInfo :=
  changeAttr 2 7 n (changeAttr 1 6 n (changeAttr 0 5 n equip))

def changeEquipListPower (equipList : Fin 3 → String) (n : Int) (equips : Obj EquipInfo) : Obj EquipInfo :=
  (List.finRange 3).foldl (fun equips k => equips.modify (equipList k) (changeEquipPower n)) equips

/-- The robots after the request, and the number of the one that is given. -/
def getRobotInfoByPower (cache : Cache) (id : Int) (draw : Nat) : Option (Cache × Nat) := do
  let minId := (nearest cache.robots id).1
  let robot ← cache.robots[minId]?
  let equips := changeEquipListPower robot.equipList (deviation (nearest cache.robots id).2 draw) cache.equips
  let power ← robotPower tables cache.heroes equips robot
  return (⟨cache.heroes, equips, cache.robots.set minId { robot with power }⟩, minId)

structure Ua where
  area : Id
  uuid : Id
  id : Option Int

-- what `%` takes for the number of an id, unless that is NaN or a fraction
variable (toNumber : Id → Option Int)

/-- The robot of a uuid, or any when there is none. -/
def ownRobot (robots : List RobotInfo) (uuid : Id) (draw : Nat) : Nat :=
  match toNumber uuid with
  | some n => if 0 ≤ n.tmod robots.length ∧ n.tmod robots.length < robots.length then (n.tmod robots.length).toNat else draw % robots.length
  | none => draw % robots.length

def getRobotPlayerInfo (cache : Cache) (ua : Ua) (draw : Nat) : Option (Cache × Nat) := do
  let (cache, i) ← match ua.id with
    | some id => getRobotInfoByPower tables cache id draw
    | none => some (cache, ownRobot toNumber cache.robots ua.uuid draw)
  let robot ← cache.robots[i]?
  return ({ cache with robots := cache.robots.set i { robot with uuid := ua.uuid, area := ua.area } }, i)

/-! ### Calls -/

inductive Call
  | getRobotInfoByPower (id : Int) (draw : Nat)
  | getRobotPlayerInfo (ua : Ua) (draw : Nat)

/-- A call that throws has changed nothing. -/
def answer (cache : Cache) : Call → Cache
  | .getRobotInfoByPower id draw => ((getRobotInfoByPower tables cache id draw).map Prod.fst).getD cache
  | .getRobotPlayerInfo ua draw => ((getRobotPlayerInfo tables toNumber cache ua draw).map Prod.fst).getD cache

/-- The robots of a call: the first makes them, by `made`. -/
def getRobot (made : Option Cache) : Option Cache → Option Cache
  | some cache => some cache
  | none => made

def step (made : Option Cache) (Robot : Option Cache) (call : Call) : Option Cache :=
  (getRobot made Robot).map fun cache => answer tables toNumber cache call

end
end Tinygame.Robot
