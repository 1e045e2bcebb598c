import Tinygame.Map.WorldMap

/-!
# The buildings of a map

`module/map/map.js` as far as it is about buildings: the states of each type, the functions that process a click
on one, and what a processed click counts for the map.
-/

namespace Tinygame.Map

/-! ### Types and states -/

/-- `Const.MAP.MAP_UID_TYPE`. -/
inductive UidType where
  | chest | chestChoo | monsterchal | mission | unknow | buffStation | watchTower | lobstacle | npc
  deriving DecidableEq

def UidType.ofNumber : Nat → Option UidType
  | 1 => some .chest
  | 2 => some .chestChoo
  | 6 => some .monsterchal
  | 8 => some .mission
  | 9 => some .unknow
  | 12 => some .buffStation
  | 16 => some .watchTower
  | 32 => some .lobstacle
  | 19 => some .npc
  | _ => none

-- `Const.MAP.ELEMENT_STATE`
namespace MapElement

abbrev CHEST_INIT : Nat := 1
abbrev CHEST_PICKED : Nat := 2
abbrev MONSTERCHAL_INIT : Nat := 1
abbrev MONSTERCHAL_FIGHTED : Nat := 2
abbrev UNKNOW_INIT : Nat := 1
abbrev UNKNOW_MONSTER : Nat := 2
abbrev UNKNOW_REWARD : Nat := 3
abbrev UNKNOW_GOT : Nat := 4
abbrev BUFFSTATION_PICKED : Nat := 2
abbrev WATCHTOWER_INIT : Nat := 1
abbrev WATCHTOWER_PICKED : Nat := 2
abbrev LOBSTACLE_REMOVE : Nat := 2
abbrev CHESTCHOO_INIT : Nat := 1
abbrev CHESTCHOO_CHOOD : Nat := 2
abbrev MISSION_INIT : Nat := 1
abbrev MISSION_END : Nat := 2
abbrev NPC_INIT : Nat := 1
abbrev NPC_CLICKED : Nat := 2

/-- The states of a buff station are `NO_PICKING` and `PICKED`: there is no `INIT`. -/
abbrev BUFFSTATION_INIT : Option Nat := none

/-- The states of an obstacle are `EXIST` and `REMOVE`. -/
abbrev LOBSTACLE_INIT : Option Nat := none

end MapElement
open MapElement

/-- A building whose type has no states that the code knows starts in state 0. -/
def getUidInitState (type : Option Nat) : Option Nat :=
  match type.bind UidType.ofNumber with
  | some .chest => some CHEST_INIT
  | some .monsterchal => some MONSTERCHAL_INIT
  | some .unknow => some UNKNOW_INIT
  | some .buffStation => BUFFSTATION_INIT
  | some .watchTower => some WATCHTOWER_INIT
  | some .lobstacle => LOBSTACLE_INIT
  | some .chestChoo => some CHESTCHOO_INIT
  | some .mission => some MISSION_INIT
  | some .npc => some NPC_INIT
  | none => some 0

def checkFinalState (type : Option Nat) (state : Option Nat) : Bool :=
  match type.bind UidType.ofNumber with
  | some .chest => state = some CHEST_PICKED
  | some .monsterchal => state = some MONSTERCHAL_FIGHTED
  | some .unknow => state = some UNKNOW_GOT
  | some .buffStation => state = some BUFFSTATION_PICKED
  | some .watchTower => state = some WATCHTOWER_PICKED
  | some .lobstacle => state = some LOBSTACLE_REMOVE
  | some .chestChoo => state = some CHESTCHOO_CHOOD
  | some .mission => state = some MISSION_END
  | some .npc => state = some NPC_CLICKED
  | none => false

/-! ### The config tables -/

/-- A building of a map file; `type` is what `parseInt` makes of its type. -/
structure Element where
  type : Option Nat
  name : String
  x : Int
  y : Int
  deriving DecidableEq

/-- A map file after `formatMapJson`. -/
structure MapFile where
  element : Obj Element
  width : Int := 0
  data : Obj Int := ∅

structure ChestRow where
  precondition : Option String
  reward : Option String
  deriving DecidableEq

structure MonsterchalRow where
  precondition : Option String
  monster : Option String
  reward : Option String
  deriving DecidableEq

structure UnknowRow where
  precondition : Option String
  probability1 : Option Int
  probability2 : Option Int
  monster : Option String
  reward : Option String
  deriving DecidableEq

structure BuffStationRow where
  precondition : Option String
  buff : Option String
  deriving DecidableEq

/-- `probability` has the columns `Probability1`, `Probability2`, .. and `reward` the columns `Reward1`, .. -/
structure ChestChooRow where
  precondition : Option String
  probability : Obj Int
  reward : Obj String

structure ExplorationRow where
  mapId : Nat
  uId : Nat
  exploration : Nat
  deriving DecidableEq

/-- A row of `Drop`: what comes always, a type and a value each, and whether there is a table of numbers to draw. -/
structure DropRow where
  foreverDrop : List (String × String)
  number : Bool
  deriving DecidableEq

/-- Of the sheets that have nothing but a precondition, that column. `elementType` has for each type the areas of the
rows of its sheet. -/
structure MapConfig extends WorldConfig where
  mapJson : Obj MapFile
  elementType : Obj (Obj (Int × Int))
  exploration : List ExplorationRow
  chest : Obj ChestRow
  monsterchal : Obj MonsterchalRow
  unknow : Obj UnknowRow
  buffStation : Obj BuffStationRow
  watchTower : Obj (Option String)
  lobstacle : Obj (Option String)
  mission : Obj (Option String)
  npc : Obj (Option String)
  chestChoo : Obj ChestChooRow
  /-- The column `TimeArg` of `BuffExp`. -/
  buffExp : Obj Int
  drop : Obj DropRow

/-! ### Rewards -/

/-- What is left to chance while a request is processed: whether a fight is won, `utils.randomInt`, which throws on an
empty range, and how many random things `dropPool` draws. -/
structure Draws where
  won : Bool
  rand : Option Int
  itemNum : Nat
  deriving DecidableEq

/-- What `dropPool` says of signs. Gold, experience and items go to `baseInfo` and `bagList`. -/
abbrev Reward := Obj Nat

inductive Dropped where
  | error
  | pack (record : Reward) (node : MapNode)
  | thrown (node : MapNode)

/-- `getPoolThing` on the node. -/
def getPoolThing (node : MapNode) (record : Reward) (thing : String × String) : MapNode × Reward :=
  if thing.1 = "sign" then ({ node with sign := node.sign.set thing.2 1 }, record.set thing.2 1) else (node, record)

/-- A random thing is looked up by the thing itself where its index is meant, which throws. -/
def dropPool (cfg : MapConfig) (draws : Draws) (id : Option String) (node : MapNode) : Dropped :=
  match cfg.drop.get? (id.getD "undefined") with
  | none => .error
  | some row =>
    let given := row.foreverDrop.foldl (fun given thing => getPoolThing given.1 given.2 thing) (node, ∅)
    if row.number && 0 < draws.itemNum then .thrown given.1 else .pack given.2 given.1

/-! ### Processing a click -/

structure Args where
  reward : Option Reward := none
  rewardid : Option Reward := none
  monsterid : Option String := none
  result : Option Bool := none
  randRet : Option Nat := none
  buffid : Option String := none
  choo : Option Int := none
  pass : Bool := false
  process : Option Nat := none

structure OutArgs where
  retCode : Option Nat := none
  state : Nat := 0
  args : Args := {}

/-- A click that has been processed. `gave` says that a drop pool was found for it or a buff was set. -/
structure Processed where
  node : MapNode
  outArgs : OutArgs := {}
  gave : Bool := false

namespace ErrCode

abbrev MAP_UID_NOT_IN_AREA : Nat := 940
abbrev MAP_UID_TYPE_NOT_FOUND : Nat := 941
abbrev MAP_UID_PRECHECK_FAIL : Nat := 942
abbrev MAP_UID_ID_FAIL : Nat := 943
abbrev MAP_UID_ENDED : Nat := 944
abbrev MAP_UID_TYPE_ERROR : Nat := 946
abbrev DROP_ID_NOT_FOUND : Nat := 947

end ErrCode
open ErrCode

def refuse (node : MapNode) (code : Nat) : Processed := { node, outArgs := { retCode := some code } }

def MapNode.setUid (node : MapNode) (uid : String) (state : Nat) : MapNode :=
  { node with uidList := node.uidList.set uid state }

section
variable (cfg : MapConfig) (draws : Draws) (uidState : Option Nat) (uid name : String) (node : MapNode)

def processChest : Option Processed :=
  if uidState = some CHEST_INIT then
    match cfg.chest.get? name with
    | some ⟨_, some reward⟩ =>
      match dropPool cfg draws (some reward) node with
      | .error => some (refuse node DROP_ID_NOT_FOUND)
      | .thrown _ => none
      | .pack record given => some {
          node := given.setUid uid CHEST_PICKED
          outArgs := { state := CHEST_PICKED, args := { reward := record } }
          gave := true }
    | _ => some (refuse node MAP_UID_ID_FAIL)
  else some (refuse node MAP_UID_ENDED)

/-- The fight for a building. The winner's state is set before the reward is picked, and an error while it is picked is
caught by `fightEnemy`, which then calls back again as if the fight had failed. -/
def fightFor (monster reward : Option String) (initial fighted : Nat) (put : Option Reward → Args) : Processed :=
  let withMonster (args : Args) : Args := { args with monsterid := monster, result := some (monster.isSome && draws.won) }
  let lost : OutArgs := { state := initial, args := { monsterid := monster, result := some false } }
  if monster.isSome && draws.won then
    let won := node.setUid uid fighted
    match dropPool cfg draws reward won with
    | .error => { node := won, outArgs := { state := fighted, args := withMonster (put (some ∅)) } }
    | .pack record given => { node := given, outArgs := { state := fighted, args := withMonster (put (some record)) }, gave := true }
    | .thrown given => { node := given, outArgs := lost, gave := true }
  else { node, outArgs := lost }

def processMonsterchal : Option Processed :=
  if uidState = some MONSTERCHAL_INIT then
    match cfg.monsterchal.get? name with
    | some ⟨_, some monster, some reward⟩ => some (fightFor cfg draws uid node (some monster) (some reward)
        MONSTERCHAL_INIT MONSTERCHAL_FIGHTED fun record => { reward := record })
    | _ => some (refuse node MAP_UID_ID_FAIL)
  else some (refuse node MAP_UID_ENDED)

/-- `Unknow[name]` is read without a check once the building is in a later state. -/
def processUnknow : Option Processed :=
  if uidState = some UNKNOW_INIT then
    match cfg.unknow.get? name with
    | some ⟨_, some pro1, some pro2, _, _⟩ =>
      if 0 ≤ pro1 ∧ 0 ≤ pro2 then draws.rand.map fun ret =>
        let state := if ret ≤ pro1 then UNKNOW_REWARD else UNKNOW_MONSTER
        { node := node.setUid uid state, outArgs := { state, args := { randRet := some state } } }
      else some (refuse node MAP_UID_ENDED)
    | _ => some (refuse node MAP_UID_ENDED)
  else if uidState = some UNKNOW_MONSTER then
    (cfg.unknow.get? name).map fun row => fightFor cfg draws uid node row.monster row.reward
      UNKNOW_MONSTER UNKNOW_GOT fun record => { rewardid := record }
  else if uidState = some UNKNOW_REWARD then
    (cfg.unknow.get? name).bind fun row =>
      match dropPool cfg draws row.reward node with
      | .error => some {
          node := node.setUid uid UNKNOW_GOT
          outArgs := { state := UNKNOW_GOT, args := { rewardid := some ∅ } } }
      | .thrown _ => none
      | .pack record given => some {
          node := given.setUid uid UNKNOW_GOT
          outArgs := { state := UNKNOW_GOT, args := { rewardid := record } }
          gave := true }
  else some (refuse node MAP_UID_ENDED)

/-- `parseInt` never gives `undefined`, so no state is the first one of a buff station. -/
def processBuffStation : Option Processed :=
  if uidState.isSome ∧ uidState = BUFFSTATION_INIT then
    match cfg.buffStation.get? name with
    | none => some (refuse node MAP_UID_ENDED)
    | some row =>
      let buffid := row.buff.getD "undefined"
      match cfg.buffExp.get? buffid with
      | none => some (refuse node MAP_UID_ENDED)
      | some value => some {
          node := { node with buff := node.buff.set buffid value, uidList := node.uidList.set uid BUFFSTATION_PICKED }
          outArgs := { state := BUFFSTATION_PICKED, args := { buffid } }
          gave := true }
  else some (refuse node MAP_UID_ENDED)

/-- A watch tower is not asked for its state. -/
def processWatchTower : Option Processed :=
  if cfg.watchTower.has name then
    some { node := node.setUid uid WATCHTOWER_PICKED, outArgs := { state := WATCHTOWER_PICKED } }
  else some (refuse node MAP_UID_ENDED)

/-- `choo` is what `parseInt` makes of the choice, `none` where the request has no `args`. -/
def processChestChoo (choo : Option (Option Int)) : Option Processed :=
  choo.bind fun choo =>
    match cfg.chestChoo.get? name with
    | none => some (refuse node MAP_UID_ENDED)
    | some row =>
      match choo with
      | none => some (refuse node MAP_UID_ENDED)
      | some choo =>
        if choo ≠ 0 ∧ uidState = some CHESTCHOO_INIT then
          match row.probability.get? (toString choo) with
          | none => some (refuse node MAP_UID_ENDED)
          | some prop => draws.rand.bind fun rand =>
            let chood (given : MapNode) (record : Option Reward) (gave : Bool) : Processed := {
              node := given.setUid uid CHESTCHOO_CHOOD
              outArgs := { state := CHESTCHOO_CHOOD, args := { reward := record, choo } }
              gave }
            if rand ≤ prop then
              match dropPool cfg draws (row.reward.get? (toString choo)) node with
              | .error => some (chood node (some ∅) false)
              | .thrown _ => none
              | .pack record given => some (chood given (some record) true)
            else some (chood node none false)
        else some (refuse node MAP_UID_ENDED)

/-- An npc answers the first click and every later one the same way. -/
def processNpc : Option Processed :=
  if uidState = some NPC_INIT then
    if cfg.npc.has name then some { node := node.setUid uid NPC_CLICKED, outArgs := { state := NPC_CLICKED } }
    else some { node }
  else if uidState = some NPC_CLICKED then
    if cfg.npc.has name then some { node := node.setUid uid NPC_CLICKED, outArgs := { state := NPC_CLICKED } }
    else some { node }
  else some { node }

end

/-- A sheet without the row throws. The branch for a chest to choose from asks for the type of an obstacle again, so
such a chest has no precondition. -/
def getUidPreCondition (cfg : MapConfig) (type : Option Nat) (name : String) : Option (Option String) :=
  match type.bind UidType.ofNumber with
  | some .chest => (cfg.chest.get? name).map (·.precondition)
  | some .monsterchal => (cfg.monsterchal.get? name).map (·.precondition)
  | some .unknow => (cfg.unknow.get? name).map (·.precondition)
  | some .buffStation => (cfg.buffStation.get? name).map (·.precondition)
  | some .watchTower => cfg.watchTower.get? name
  | some .lobstacle => cfg.lobstacle.get? name
  | some .mission => cfg.mission.get? name
  | some .npc => cfg.npc.get? name
  | some .chestChoo | none => some none

def checkPreContion (cfg : MapConfig) (type : Option Nat) (name : String) (node : MapNode) : Option Bool :=
  (getUidPreCondition cfg type name).map fun condition =>
    match condition with
    | some condition => node.sign.has condition
    | none => true

def MapConfig.file (cfg : MapConfig) (mapid : Nat) : Option MapFile :=
  cfg.mapJson.get? (((cfg.map mapid).map (·.infoFile)).getD "undefined")

/-- The state of a building that has none yet is the first one of its type. -/
def uidStateOf (element : Element) (uid : String) (uidList : Obj Nat) : Option Nat :=
  match uidList.get? uid with
  | some state => some state
  | none => getUidInitState element.type

def checkUidPos (cfg : MapConfig) (mapid : Nat) (uid : String) : Option Element :=
  (cfg.file mapid).bind fun file => file.element.get? uid

/-- The rows of `Exploration` that a click counts for: the id has to be sent as a number. -/
def explorationOf (cfg : MapConfig) (mapid : Nat) (uid : Sent) : Nat :=
  ((cfg.exploration.filter fun row => row.mapId = mapid ∧ (Sent.ofNat row.uId).same uid).map (·.exploration)).sum

/-- The function for the type of the building. -/
def processType (cfg : MapConfig) (draws : Draws) (element : Element) (uid : String) (choo : Option (Option Int))
    (node : MapNode) : Option Processed :=
  let uidState := uidStateOf element uid node.uidList
  match element.type.bind UidType.ofNumber with
  | some .chest => processChest cfg draws uidState uid element.name node
  | some .monsterchal => processMonsterchal cfg draws uidState uid element.name node
  | some .unknow => processUnknow cfg draws uidState uid element.name node
  | some .buffStation => processBuffStation cfg uidState uid element.name node
  | some .watchTower => processWatchTower cfg uid element.name node
  | some .chestChoo => processChestChoo cfg draws uidState uid element.name node choo
  | some .npc => processNpc cfg uidState uid element.name node
  | some .lobstacle | some .mission | none => some (refuse node MAP_UID_TYPE_ERROR)

/-- What a processed click counts for the map: a map that is explored far enough is passed, and the nodes that follow
it are put on a timer. -/
def countExplore (cfg : MapConfig) (nodeid : String) (row : WorldMapRow) (uid : Sent) (map : GlobalMapInfo) (now : Int)
    (done : Processed) : Option (GlobalMapInfo × Processed) :=
  match map.openNode.get? nodeid, cfg.map row.resourceID with
  | some entry, some info =>
    let process := entry.process + explorationOf cfg row.resourceID uid
    let counted := { map with openNode := map.openNode.set nodeid { entry with process } }
    if info.exploration ≤ process ∧ done.node.pass = false then
      (addTimeNode cfg.toWorldConfig row.next counted nodeid row.resourceID done.node.ap now).map fun timed =>
        (timed, { done with
          node := { done.node with pass := true }
          outArgs := { done.outArgs with args := { done.outArgs.args with pass := true, process } } })
    else some (counted, { done with outArgs := { done.outArgs with args := { done.outArgs.args with process } } })
  | _, _ => none

def processUid (cfg : MapConfig) (draws : Draws) (nodeid : String) (map : GlobalMapInfo) (node : MapNode) (uid : Sent)
    (choo : Option (Option Int)) (now : Int) : Option (GlobalMapInfo × Processed) :=
  (cfg.node nodeid).bind fun row =>
    match checkUidPos cfg row.resourceID uid.name with
    | none => some (map, refuse node MAP_UID_NOT_IN_AREA)
    | some element =>
      if cfg.elementType.has ((element.type.map toString).getD "NaN") = false then
        some (map, refuse node MAP_UID_TYPE_NOT_FOUND)
      else (checkPreContion cfg element.type element.name node).bind fun met =>
        if met = false then some (map, refuse node MAP_UID_PRECHECK_FAIL)
        else (processType cfg draws element uid.name choo node).bind fun done =>
          if done.outArgs.retCode.isSome then some (map, done)
          else countExplore cfg nodeid row uid map now done

end Tinygame.Map
