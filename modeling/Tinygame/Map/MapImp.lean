import Tinygame.Map.Building

/-!
# Requests on the world map

The handlers of `module/map/map_imp.js`, and what `bindFunCallback` stores of what they leave behind. A response
repeats what is stored; of it only the code is kept here.
-/

namespace Tinygame.Map

/-- What is read for a request. -/
structure DataValue where
  mapInfo : GlobalMapInfo
  nodeInfo : Option NodeInfo

structure Outcome where
  data : DataValue
  retCode : Option Nat := none
  gave : Bool := false

namespace ErrCode

abbrev CURRENT_MAP_WRONG : Nat := 905
abbrev TARGET_MAP_NOT_EXIST : Nat := 912
abbrev WALK_PATH_ERROR : Nat := 915
abbrev MAP_UID_ERROR : Nat := 921
abbrev NODE_TIME_NOT_OPEN : Nat := 936
abbrev NODE_NOT_FOUND : Nat := 937
abbrev NODE_ENTER_LVL_ERROR : Nat := 938
abbrev NODE_IS_NOT_AFK : Nat := 939
abbrev OPEN_NODE_MISSING : Nat := 945
abbrev RETCODE_NEED_UNPACK : Nat := 15000

end ErrCode
open ErrCode

def fails (data : DataValue) (code : Nat) : Outcome := { data, retCode := some code }

variable (cfg : MapConfig)

/-! ### The handlers -/

def getGlobalMapInfo (map : GlobalMapInfo) (now : Int) : Option GlobalMapInfo :=
  map.timeNode.keys.foldlM (fun map nodeid =>
    if (cfg.node nodeid).isSome then (moveNode cfg.toWorldConfig map nodeid now).map Prod.snd
    else some { map with timeNode := map.timeNode.delete nodeid }) map

/-- A node that is on a timer is entered only when its time is up. -/
def checkTime (map : GlobalMapInfo) (nodeid : Sent) (now : Int) : Option (Bool × GlobalMapInfo) :=
  if map.timeNode.has nodeid.name ∨ nodeid.name ∈ inherited then moveNode cfg.toWorldConfig map nodeid.name now
  else some (true, map)

/-- The record that is read, or a first one. -/
def nodeInfoOr (nodeid : Sent) (now : Int) (nodeInfo : Option NodeInfo) : Option NodeInfo :=
  match nodeInfo with
  | some info => some info
  | none => createNode cfg.toWorldConfig nodeid.name now

def enterMap (level : Int) (nodeid : Sent) (now : Int) (read : DataValue) : Option Outcome :=
  (checkTime cfg read.mapInfo nodeid now).bind fun gate =>
    let data := { read with mapInfo := gate.2 }
    if gate.1 = false then some (fails data NODE_TIME_NOT_OPEN)
    else match cfg.node nodeid.name with
      | none => some (fails data NODE_NOT_FOUND)
      | some row =>
        if row.type2 ≠ NodeType.map then some (fails data TARGET_MAP_NOT_EXIST)
        else if level < row.openlevel then some (fails data NODE_ENTER_LVL_ERROR)
        else (nodeInfoOr cfg nodeid now data.nodeInfo).bind fun info =>
          -- the response has the node's process, which throws where the node is not open
          (data.mapInfo.openNode.get? nodeid.name).map fun _ =>
            { data := ⟨{ data.mapInfo with curNode := nodeid }, some info⟩ }

/-- The first visit of an afk point makes its record and opens the nodes that follow it. -/
def openFirst (nodeid : Sent) (row : WorldMapRow) (now : Int) (data : DataValue) : Option (DataValue × Obj NodeInfo) :=
  match data.nodeInfo with
  | some _ => some (data, ∅)
  | none => (createNode cfg.toWorldConfig nodeid.name now).bind fun info =>
    (addOpenNode cfg.toWorldConfig row.next data.mapInfo now).map fun created => (⟨created.1, some info⟩, created.2)

namespace AfkType

abbrev normal : Nat := 1

end AfkType

def switchAfk (nodeid : Sent) (map : GlobalMapInfo) : Option GlobalMapInfo :=
  (cfg.node map.curAfkNode.name).map fun afk => { map with
    lastNormalAfk := if cfg.afkReward.get? (toString afk.resourceID) = some AfkType.normal then map.curAfkNode
      else map.lastNormalAfk
    curNode := nodeid
    curAfkNode := nodeid }

/-- The first records of the nodes that are opened are saved on the way, whatever becomes of the request. -/
def changeAfk (level : Int) (nodeid : Sent) (now : Int) (read : DataValue) : Obj NodeInfo × Option Outcome :=
  match checkTime cfg read.mapInfo nodeid now with
  | none => (∅, none)
  | some gate =>
    let data := { read with mapInfo := gate.2 }
    if gate.1 = false then (∅, some (fails data NODE_TIME_NOT_OPEN))
    else match cfg.node nodeid.name with
      | none => (∅, some (fails data NODE_NOT_FOUND))
      | some row =>
        if row.type2 ≠ NodeType.afk then (∅, some (fails data NODE_IS_NOT_AFK))
        else if level < row.openlevel then (∅, some (fails data NODE_ENTER_LVL_ERROR))
        else match openFirst cfg nodeid row now data with
          | none => (∅, none)
          | some first => (first.2, (switchAfk cfg nodeid first.1.mapInfo).map fun map => { data := ⟨map, first.1.nodeInfo⟩ })

/-- A cell of a path; `other` is a value without the two coordinates. -/
inductive PathCell where
  | pos (x y : Coord)
  | other
  | null
  deriving DecidableEq

/-- `low <= pos && pos < low + size`. -/
def within (pos : Double) (low size : Int) : Bool := (Double.whole low).upTo pos && pos.below (.whole (low + size))

def checkPosInArea (posX posY : Coord) (x y : Int) (area : Int × Int) : Option Bool :=
  posX.worth.bind fun px =>
    if within px x area.1 then posY.worth.map fun py => (Double.whole y).upTo py && py.upTo (.whole (y + area.2))
    else some false

/-- `low - pos === 1 || pos - low === size`. -/
def beside (pos : Double) (low size : Int) : Bool :=
  Double.whole low - pos = .whole 1 ∨ pos - Double.whole low = .whole size

def checkPosAroundArea (posX posY : Coord) (x y : Int) (area : Int × Int) : Option Bool :=
  posY.worth.bind fun py => posX.worth.map fun px =>
    within py y area.2 && beside px x area.1 || within px x area.1 && beside py y area.2

def checkPathUID (element : Element) (px py : Coord) (start : PathCell) : Option Bool :=
  if element.name = "" then some false
  else match (element.type.bind fun type => cfg.elementType.get? (toString type)).bind (·.get? element.name) with
    | none => some false
    | some area => (checkPosInArea px py element.x element.y area).bind fun inArea =>
      if inArea then
        match start with
        | .pos x y => checkPosAroundArea x y element.x element.y area
        | .other => some false
        | .null => none
      else some false

/-- Whether `obsMap` has free ground for a cell. -/
def MapFile.takes (file : MapFile) (x y : Coord) : Option Bool :=
  (placeOf x y file.width).map fun place => (place.bind file.data.get?) = some 0

/-- The walk ends at the first cell that is no free ground; each cell costs a step. -/
def walk (file : Option MapFile) : List PathCell → MapNode → Option MapNode
  | [], node => some node
  | .pos x y :: rest, node => file.bind fun file => (file.takes x y).bind fun free =>
    if free then walk file rest { node with x, y, ap := node.ap + 1 } else some node
  | .other :: _, node => some node
  | .null :: _, _ => none

/-- `inside` is what `uid >= 0` says. -/
def walkPath (nodeid uid : Sent) (inside : Bool) (path : Option (List PathCell)) (data : DataValue) : Option Outcome :=
  match path with
  | none | some [] => some (fails data WALK_PATH_ERROR)
  | some (start :: rest) =>
    if data.mapInfo.curNode.same nodeid = false then some (fails data CURRENT_MAP_WRONG)
    else match data.nodeInfo with
      | none => some (fails data CURRENT_MAP_WRONG)
      | some (.afk _) => some { data }
      | some (.map node) => (cfg.node nodeid.name).bind fun row =>
        if row.type2 ≠ NodeType.map then some (fails data TARGET_MAP_NOT_EXIST)
        else (cfg.map row.resourceID).bind fun _ =>
          let file := cfg.file row.resourceID
          let walked : Option Outcome := (walk file (start :: rest) node).map fun node =>
            { data := { data with nodeInfo := some (.map node) } }
          if inside then
            match file.bind (·.element.get? uid.name) with
            | none => some (fails data MAP_UID_ERROR)
            | some element => (checkPathUID cfg element node.x node.y start).bind fun near =>
              if near then walked else some (fails data MAP_UID_ERROR)
          else walked

def changeState (draws : Draws) (nodeid uid : Sent) (choo : Option (Option Int)) (now : Int) (data : DataValue) :
    Option Outcome :=
  if data.mapInfo.curNode.same nodeid = false then some (fails data CURRENT_MAP_WRONG)
  else match data.nodeInfo with
    | none => some (fails data CURRENT_MAP_WRONG)
    | some info => (cfg.node nodeid.name).bind fun row =>
      if row.type2 ≠ NodeType.map then some (fails data TARGET_MAP_NOT_EXIST)
      else match data.mapInfo.openNode.get? nodeid.name with
        | none => some (fails data OPEN_NODE_MISSING)
        | some _ => match info with
          | .afk _ => none
          | .map node => (processUid cfg draws nodeid.name data.mapInfo node uid choo now).map fun done =>
            { data := ⟨done.1, some (.map done.2.node)⟩, retCode := done.2.outArgs.retCode, gave := done.2.gave }

/-! ### What is stored -/

/-- The field of a record that a client's id names, where the table has nothing in its place. -/
def fieldOf (nodeid : Sent) : String := if nodeid.truthy then nodeid.name else "undefined"

/-- `mapInfo.curNode` takes the place of an id that is missing. -/
def fieldOrCurNode (nodeid : Sent) (map : GlobalMapInfo) : String :=
  if nodeid.truthy then nodeid.name else map.curNode.name

/-- Only a success, or a code from `RETCODE_NEED_UNPACK` on, lets the data be saved. -/
def saves (retCode : Option Nat) : Bool :=
  match retCode with
  | none => true
  | some code => code = 0 ∨ RETCODE_NEED_UNPACK < code

def Player.read (player : Player) (field : String) : DataValue := ⟨player.mapInfo, player.nodes.get? field⟩

/-- A request that throws saves nothing. -/
def Player.save (player : Player) (field : String) (outcome : Option Outcome) : Player :=
  match outcome with
  | none => player
  | some outcome =>
    if saves outcome.retCode then
      match outcome.data.nodeInfo with
      | some info => ⟨outcome.data.mapInfo, player.nodes.set field info⟩
      | none => ⟨outcome.data.mapInfo, player.nodes⟩
    else player

/-- The records after a save: that of the request is written where there is one. -/
def written (nodes : Obj NodeInfo) (field : String) : Option NodeInfo → Obj NodeInfo
  | some info => nodes.set field info
  | none => nodes

/-- Nothing is saved, or what the handler hands back. -/
theorem Player.save_cases (player : Player) (field : String) (outcome : Option Outcome) :
    player.save field outcome = player ∨ ∃ done, outcome = some done ∧ saves done.retCode = true ∧
      player.save field outcome = ⟨done.data.mapInfo, written player.nodes field done.data.nodeInfo⟩ := by
  unfold Player.save
  split
  · exact .inl rfl
  · rename_i done
    split
    · rename_i saved
      refine .inr ⟨done, rfl, saved, ?_⟩
      split
      · rename_i info record
        rw [record]
        rfl
      · rename_i none
        rw [none]
        rfl
    · exact .inl rfl

inductive Request where
  | getGlobalMapInfo
  | enterMap (nodeid : Sent)
  | changeAfk (nodeid : Sent)
  | walkPath (nodeid uid : Sent) (inside : Bool) (path : Option (List PathCell))
  | changeState (nodeid uid : Sent) (choo : Option (Option Int)) (draws : Draws)
  deriving DecidableEq

/-- A request, when it comes and the level the player has then. -/
structure Call where
  now : Int
  level : Int
  request : Request
  deriving DecidableEq

def Player.serve (player : Player) (call : Call) : Player :=
  match call.request with
  | .getGlobalMapInfo => match Map.getGlobalMapInfo cfg player.mapInfo call.now with
    | some map => { player with mapInfo := map }
    | none => player
  | .enterMap nodeid =>
    player.save (fieldOf nodeid) (Map.enterMap cfg call.level nodeid call.now (player.read (fieldOf nodeid)))
  | .changeAfk nodeid =>
    let handled := Map.changeAfk cfg call.level nodeid call.now (player.read (fieldOf nodeid))
    { player with nodes := player.nodes.assign handled.1 }.save (fieldOf nodeid) handled.2
  | .walkPath nodeid uid inside path =>
    let field := fieldOrCurNode nodeid player.mapInfo
    player.save field (Map.walkPath cfg nodeid uid inside path (player.read field))
  | .changeState nodeid uid choo draws =>
    let field := fieldOrCurNode nodeid player.mapInfo
    player.save field (Map.changeState cfg draws nodeid uid choo call.now (player.read field))

/-! ### The first rows of the tables -/

def firstNodes : Obj WorldMapRow :=
  (((∅ : Obj WorldMapRow).set "101201" ⟨2, 1, 100101, .node 101102, 5, 10⟩).set "101102" ⟨1, 1, 1, .node 101203, 5, 10⟩).set
    "101203" ⟨2, 1, 200101, .node 101104, 5, 10⟩ |>.set "101104" ⟨1, 1, 2, .node 101205, 5, 10⟩

theorem firstNodes_plain : ∀ name ∈ firstNodes.keys, Plain name := by decide +kernel

/-- The buildings of `01.json`: two chests, an npc and a monster. -/
def firstMap : MapFile where
  element := ((((∅ : Obj Element).set "2220" ⟨some 1, "100101", 11, 9⟩).set "2451" ⟨some 19, "100101", 9, 9⟩).set
    "2453" ⟨some 1, "100201", 9, 18⟩).set "2457" ⟨some 6, "100101", 8, 11⟩

def firstConfig : MapConfig where
  worldMap := ⟨firstNodes, firstNodes_plain⟩
  mapInfo := (∅ : Obj MapInfoRow).set "1" ⟨some (9, 7), "01.json", 40, 1, 500⟩
  afkReward := (∅ : Obj Nat).set "100101" 1
  mapJson := (∅ : Obj MapFile).set "01.json" firstMap
  elementType := (((∅ : Obj (Obj (Int × Int))).set "1" ∅).set "6" ∅).set "19" ∅
  exploration := [⟨1, 2451, 10⟩, ⟨1, 2453, 10⟩, ⟨1, 2457, 10⟩, ⟨1, 2220, 10⟩]
  chest := ((∅ : Obj ChestRow).set "100101" ⟨none, some "10100101"⟩).set "100201" ⟨none, some "10100201"⟩
  monsterchal := (∅ : Obj MonsterchalRow).set "100101" ⟨none, some "10600101", some "10600101"⟩
  unknow := ∅
  buffStation := ∅
  watchTower := ∅
  lobstacle := ∅
  mission := ∅
  npc := (∅ : Obj (Option String)).set "100101" none
  chestChoo := ∅
  buffExp := ∅
  drop := (((∅ : Obj DropRow).set "10100101" ⟨[("teamexp", "600")], true⟩).set "10100201" ⟨[("110107", "1")], true⟩).set
    "10600101" ⟨[("gold", "10000")], true⟩

def firstPlayer : Player :=
  (createGlobalMapInfo firstConfig.toWorldConfig 0).getD ⟨⟨.null, .null, .null, ∅, ∅⟩, ∅⟩

theorem eq_some_getD {player? : Option Player} (created : player?.isSome = true) (none_ : Player) :
    player? = some (player?.getD none_) := by
  obtain ⟨player, rfl⟩ := Option.isSome_iff_exists.mp created
  rfl

theorem firstPlayer_created : createGlobalMapInfo firstConfig.toWorldConfig 0 = some firstPlayer :=
  eq_some_getD (by decide +kernel) _

end Tinygame.Map
