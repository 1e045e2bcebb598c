import Tinygame.Base.Numbers
import Tinygame.Base.Obj

/-!
# The world map

`module/map/map.js` as far as it is about nodes: how a node gets its first record, how it is put on a timer, and
how it is opened when the time is up or at once. `map_handle.js` makes a player's first map.
-/

namespace Tinygame.Map

/-! ### Ids as clients send them -/

/-- A value a client sends where an id is expected: a number and an object are given by the property they name. -/
inductive Sent where
  | number (text : String)
  | string (text : String)
  | boolean (value : Bool)
  | null
  | undefined
  | object (text : String)
  deriving DecidableEq

/-- The property the value names. -/
def Sent.name : Sent → String
  | .number text | .string text | .object text => text
  | .boolean true => "true"
  | .boolean false => "false"
  | .null => "null"
  | .undefined => "undefined"

def Sent.ofNat (n : Nat) : Sent := .number (toString n)

/-- `a === b`. Two objects that were sent are never the same one. -/
def Sent.same (a b : Sent) : Bool :=
  match a with
  | .object _ => false
  | .number "NaN" => false
  | _ => a == b

def Sent.truthy : Sent → Bool
  | .number text => text != "0" && text != "NaN"
  | .string text => text != ""
  | .boolean value => value
  | .null | .undefined => false
  | .object _ => true

theorem Sent.eq_of_same {a b : Sent} (same : a.same b = true) : a = b := by
  unfold Sent.same at same
  split at same
  · cases same
  · cases same
  · exact eq_of_beq same

/-- What every object inherits. -/
def inherited : List String :=
  ["constructor", "toString", "toLocaleString", "valueOf", "hasOwnProperty", "isPrototypeOf", "propertyIsEnumerable",
    "__proto__", "__defineGetter__", "__defineSetter__", "__lookupGetter__", "__lookupSetter__"]

/-- The name of an id of a config table: no inherited member, and no value that counts as false has it. -/
def Plain (name : String) : Prop := name ∉ inherited ∧ name ∉ ["", "0", "NaN", "false", "null", "undefined"]

instance decidablePlain (name : String) : Decidable (Plain name) := inferInstanceAs (Decidable (_ ∧ _))

theorem truthy_of_plain {sent : Sent} (plain : Plain sent.name) : sent.truthy = true := by
  have named := plain.2
  simp only [List.mem_cons, List.not_mem_nil, or_false, not_or] at named
  match sent with
  | .number text => simp_all [Sent.truthy, Sent.name]
  | .string text => simp_all [Sent.truthy, Sent.name]
  | .boolean true => rfl
  | .boolean false => simp [Sent.name] at named
  | .null => simp [Sent.name] at named
  | .undefined => simp [Sent.name] at named
  | .object _ => rfl

/-! ### Coordinates as clients send them -/

/-- A value that is taken for a coordinate. `worth` is the number it counts as. -/
inductive Coord where
  | number (value : Double)
  /-- A string, and an array or an object by its text. -/
  | text (text : String) (worth : Double)
  /-- A boolean, null and undefined. -/
  | plain (worth : Double)
  /-- An object whose own members hide those that would give its text. -/
  | odd
  deriving DecidableEq

/-- An odd object throws. -/
def Coord.worth : Coord → Option Double
  | .number value => some value
  | .text _ worth | .plain worth => some worth
  | .odd => none

def Coord.whole (n : Int) : Coord := .number (.whole n)

theorem Coord.whole_inj {n m : Int} (same : whole n = whole m) : n = m :=
  Double.whole_inj (Coord.number.inj same)

/-- The name of `x + y * width`, where a place in an array can have it: a text is followed by the digits. -/
def placeOf (x y : Coord) (width : Int) : Option (Option String) :=
  y.worth.bind fun rows =>
    let row := rows * .whole width
    match x with
    | .number value | .plain value => some (value + row).digits?
    | .text text _ => some (row.digits?.map (text ++ ·))
    | .odd => none

/-! ### The config tables -/

namespace NodeType

abbrev map : Nat := 1
abbrev afk : Nat := 2

end NodeType

/-- The column `Next`: a number, or an object of numbers. -/
inductive Next where
  | node (id : Nat)
  | nodes (ids : List Nat)
  deriving DecidableEq

/-- The nodes that follow; the number 0 stands for none. -/
def Next.ids : Next → List String
  | .node id => if id = 0 then [] else [toString id]
  | .nodes ids => ids.map toString

structure WorldMapRow where
  type2 : Nat
  openlevel : Int
  resourceID : Nat
  next : Next
  wait : Int
  waitlimit : Int
  deriving DecidableEq

structure MapInfoRow where
  initPos : Option (Int × Int)
  infoFile : String
  exploration : Nat
  time : Int
  ap : Int
  deriving DecidableEq

/-- The table `WorldMap`. -/
structure WorldMap where
  rows : Obj WorldMapRow
  plain : ∀ name ∈ rows.keys, Plain name

structure WorldConfig where
  worldMap : WorldMap
  mapInfo : Obj MapInfoRow
  /-- The column `type` of `AfkReward`. -/
  afkReward : Obj Nat

def WorldConfig.node (cfg : WorldConfig) (name : String) : Option WorldMapRow := cfg.worldMap.rows.get? name

def WorldConfig.map (cfg : WorldConfig) (mapid : Nat) : Option MapInfoRow := cfg.mapInfo.get? (toString mapid)

theorem WorldConfig.plain_of_node {cfg : WorldConfig} {name : String} {row : WorldMapRow} (found : cfg.node name = some row) :
    Plain name := cfg.worldMap.plain name (Obj.mem_keys_iff.mpr ⟨row, found⟩)

/-! ### What is stored -/

structure OpenNode where
  process : Nat
  compAward : Nat := 0
  deriving DecidableEq

/-- `timeStamp` keeps whole seconds. -/
structure TimeNode where
  timeStamp : Int
  waitSec : Int
  deriving DecidableEq

structure GlobalMapInfo where
  curNode : Sent
  curAfkNode : Sent
  lastNormalAfk : Sent
  openNode : Obj OpenNode := ∅
  timeNode : Obj TimeNode := ∅

/-- The record of a map. `uidList` has the states of its buildings. -/
structure MapNode where
  x : Coord
  y : Coord
  uidList : Obj Nat := ∅
  sign : Obj Nat := ∅
  buff : Obj Int := ∅
  ap : Int := 0
  pass : Bool := false

/-- The record of an afk point. -/
structure AfkNode where
  proAfkTime : Int
  victoryTime : Nat := 0
  fightTime : Nat := 0
  rewardTime : Nat := 0
  deriving DecidableEq

inductive NodeInfo where
  | map (node : MapNode)
  | afk (node : AfkNode)

/-- A player's map and the hash of the records of its nodes. -/
structure Player where
  mapInfo : GlobalMapInfo
  nodes : Obj NodeInfo

/-! ### Time -/

/-- `moment().format()` at a time in milliseconds. -/
def format (now : Int) : Int := now / 1000

/-- `now.diff(timeStamp, 'second')`. -/
def diffSeconds (now timeStamp : Int) : Int := Int.tdiv (now - 1000 * timeStamp) 1000

/-! ### Nodes -/

variable (cfg : WorldConfig)

/-- A node without a row throws. -/
def createNode (nodeid : String) (now : Int) : Option NodeInfo :=
  match cfg.node nodeid with
  | none => none
  | some row =>
    if row.type2 = NodeType.map then
      match (cfg.map row.resourceID).bind (·.initPos) with
      | some pos => some (.map { x := .whole pos.1, y := .whole pos.2 })
      | none => some (.map { x := .whole 0, y := .whole 0 })
    else some (.afk { proAfkTime := format now })

def TimeNode.leftTime (entry : TimeNode) (now : Int) : Int := entry.waitSec - diffSeconds now entry.timeStamp

/-- The `process` a node starts with when its time is up. -/
def WorldMapRow.startProcess (row : WorldMapRow) : Nat := if row.type2 = NodeType.afk then 100 else 0

/-- Opens the node when its time is up. An inherited member has no time that could be up. -/
def moveNode (map : GlobalMapInfo) (nodeid : String) (now : Int) : Option (Bool × GlobalMapInfo) :=
  match map.timeNode.get? nodeid with
  | none => some (false, map)
  | some entry =>
    if entry.leftTime now ≤ 0 then
      match cfg.node nodeid with
      | none => none
      | some row => some (true, { map with
          openNode := map.openNode.set nodeid { process := row.startProcess }
          timeNode := map.timeNode.delete nodeid })
    else some (false, { map with timeNode := map.timeNode.set nodeid { entry with waitSec := entry.leftTime now } })

/-- How long the nodes that follow a map have to wait, after the player has walked `ap` steps on it. -/
def waitTime (row : WorldMapRow) (info : MapInfoRow) (ap : Int) : Int :=
  let gap := (ap - info.ap) * info.time
  let waitSec := if gap > 0 then row.wait + gap else row.wait
  if waitSec > row.waitlimit then row.waitlimit else waitSec

def addTimeNode (nodes : Next) (map : GlobalMapInfo) (nodeid : String) (mapid : Nat) (ap now : Int) : Option GlobalMapInfo :=
  match cfg.map mapid, cfg.node nodeid with
  | some info, some row => some { map with
      timeNode := nodes.ids.foldl (fun timeNode id => timeNode.set id ⟨format now, waitTime row info ap⟩) map.timeNode }
  | _, _ => none

/-- Opens the nodes at once, and makes a first record for each. -/
def addOpenNode (nodes : Next) (map : GlobalMapInfo) (now : Int) : Option (GlobalMapInfo × Obj NodeInfo) :=
  nodes.ids.foldlM (fun state id => (createNode cfg id now).map fun info =>
    ({ state.1 with openNode := state.1.openNode.set id { process := 0 } }, state.2.set id info)) (map, ∅)

def DEFAULT_NODE : Nat := 101201

def createGlobalMapInfo (now : Int) : Option Player :=
  let default_node := toString DEFAULT_NODE
  match createNode cfg default_node now, cfg.node default_node with
  | some node, some row =>
    let id := Sent.ofNat DEFAULT_NODE
    (addOpenNode cfg row.next ⟨id, id, id, (∅ : Obj OpenNode).set default_node { process := 0 }, ∅⟩ now).map fun created =>
      ⟨created.1, ((∅ : Obj NodeInfo).set default_node node).assign created.2⟩
  | _, _ => none

end Tinygame.Map
