import Tinygame.Base.RoundTrip
import Tinygame.Dataprocess.DataConfig
import Tinygame.Map.MapImp
import Tinygame.Player.Currency

/-!
# What is not stored of a player

`player_handle.js` says of `teamList`, `equipList` and `bagList` that they are not kept with `baseInfo`. The handlers
that store `baseInfo` get it as an object, and what they put into a response may be the same object: a field that is
set there is stored as well. Experience, levels and power are other fields.
-/

namespace Tinygame.Player
open Bag (Id BagList EquipInfo Moment Failure Position present require)

/-- A hero of the team, as `transPosListToTeamList` leaves him. -/
structure TeamHero where
  hero : HeroInfo
  pos : Option Int

/-- The fields below the line in the comment on `PlayerInfo`. -/
structure NotStored where
  teamList : Option (Obj TeamHero) := none
  equipList : Option (Obj (Obj EquipInfo)) := none
  bagList : Option BagList := none

/-- A reference to an object. -/
abbrev Ref := Nat

/-- `dataValue` of `agent_handle.js`. Of the objects `baseInfo` is one; what belongs into the store of it is in `data`. -/
structure AgentValue where
  data : DataValue
  map : Map.DataValue
  teamHeroList : Obj TeamHero
  baseInfo : Ref
  objects : Ref → NotStored

/-- What a handler leaves, and the object that is `playerInfo` or `baseInfo` of its response. -/
structure Reply where
  value : AgentValue
  playerInfo : Option Ref := none

namespace AgentValue

/-- `ref.teamList = teamList`. -/
def setTeamList (value : AgentValue) (ref : Ref) (teamList : Obj TeamHero) : AgentValue :=
  { value with objects := Function.update value.objects ref { value.objects ref with teamList := some teamList } }

def setEquipList (value : AgentValue) (ref : Ref) (equipList : Obj (Obj EquipInfo)) : AgentValue :=
  { value with objects := Function.update value.objects ref { value.objects ref with equipList := some equipList } }

/-- What `setDataValue` writes of the three fields: those of the object `baseInfo` is. -/
def stored (value : AgentValue) : NotStored := value.objects value.baseInfo

def setPlayer (value : AgentValue) (player : Bag.Player) : AgentValue := { value with data := { value.data with player } }

end AgentValue

/-! ### The fields -/

def transPosListToTeamList (posList : Obj Position) (heroList : Obj TeamHero) : Obj TeamHero :=
  posList.entries.foldl (fun teamList entry => match heroList.get? entry.2.heroId.name with
    | some hero => teamList.set entry.2.heroId.name { hero with pos := entry.2.pos }
    | none => teamList) ∅

/-- `getPlayerInfoEx`: it returns the object it was given. -/
def getPlayerInfoEx (value : AgentValue) (baseInfo : Ref) : AgentValue × Ref :=
  let posList := value.data.player.baseInfo.posList
  ((value.setTeamList baseInfo (transPosListToTeamList posList value.teamHeroList)).setEquipList baseInfo
    (Bag.transPosListToEquipList posList value.data.bagList.equipList), baseInfo)

/-! ### Handlers -/

/-- A row of `afkreward` as `getPresent` reads it. -/
structure ScoreRow where
  Score : Obj Int
  ScoreReward : Id

structure Config where
  tables : Tables
  Drop : Id → Option DropRow
  userTeyp : Effects
  map : Map.MapConfig
  afkScore : String → Option ScoreRow

section
variable (cfg : Config)

/-- `WorldMap[mapInfo.curAfkNode].ResourceID`. -/
def resourceID (value : AgentValue) : Option String :=
  (cfg.map.node value.map.mapInfo.curAfkNode.name).map fun row => toString row.resourceID

def rvdealAttrInEquip (equip : EquipInfo) : Option EquipInfo :=
  match equip.sa, equip.sn, equip.ss with
  | some sa, some sn, some ss => some (equip.setPair ss (sa, sn))
  | _, _, _ => none

def rvmeltingEquip (value : AgentValue) (equipId : Id) : Except Failure AgentValue := do
  let bagList := value.data.bagList
  require (Bag.getItemNum equipId bagList ≠ 0) (.retCode 400)
  let equip ← present (bagList.equipList.get? equipId.name) .typeError
  let equip ← present (rvdealAttrInEquip equip) (.retCode 400)
  return { value with data := value.data.setBagList { bagList with
    equipList := bagList.equipList.set equipId.name { equip with index := some equipId } } }

/-- What `calProfit` of `afk.js` does to the record of the node. -/
def calProfitNode (isOffline : Bool) (win : Id) (now : Int) (node : Map.NodeInfo) : Map.NodeInfo :=
  match node with
  | .afk node => .afk { node with
      fightTime := if isOffline then node.fightTime else node.fightTime + 1
      victoryTime := if !isOffline && win.same (.number 1) then node.victoryTime + 1 else node.victoryTime
      proAfkTime := now }
  | .map node => .map node

/-- `offlineProfit` and `onlineProfit`: `outArgs.playerInfo` is `dataValue.baseInfo`, and gets a `teamList`. -/
def profit (value : AgentValue) (isOffline : Bool) (win : Id) (now sinceProAfkTime : Int) : Except Failure Reply := do
  let nodeInfo ← present value.map.nodeInfo .typeError
  let data ← afkProfit cfg.tables.Afkreward value.data (resourceID cfg value) isOffline sinceProAfkTime win
  let playerInfo := value.baseInfo
  let value := { value with data, map := { value.map with nodeInfo := some (calProfitNode isOffline win now nodeInfo) } }
  return ⟨value.setTeamList playerInfo value.teamHeroList, some playerInfo⟩

def Agent.offlineProfit (value : AgentValue) (now sinceProAfkTime : Int) : Except Failure Reply :=
  profit cfg value true .undefined now sinceProAfkTime

def Agent.onlineProfit (value : AgentValue) (isWin : Id) (now : Int) : Except Failure Reply := profit cfg value false isWin now 0

/-- `upgradeHeroLevel` as far as it is not about experience. -/
def upgradeHeroLevel (value : AgentValue) : Reply :=
  let playerInfo := value.baseInfo
  ⟨value.setTeamList playerInfo value.teamHeroList, some playerInfo⟩

/-- `outArgs.playerInfo` is `dataValue.baseInfo` here too, and gets nothing. -/
def getPresent (value : AgentValue) (draw : Nat) (moments : Nat → Nat → Moment) : Except Failure Reply := do
  let afkid ← present (resourceID cfg value) .typeError
  let nodeInfo ← present value.map.nodeInfo .typeError
  let row ← present (cfg.afkScore afkid) .typeError
  match nodeInfo with
  | .map _ => throw (.retCode 935)
  | .afk node =>
    let count := row.Score.keys.length
    let rewardTime : Int := if node.rewardTime ≥ count then count - 1 else node.rewardTime
    let score ← present (row.Score.get? (toString (rewardTime + 1))) (.retCode 935)
    require (score ≤ node.victoryTime) (.retCode 935)
    let dropped ← dropPool cfg.tables.Item cfg.Drop row.ScoreReward draw moments value.data
    let nodeInfo := Map.NodeInfo.afk { node with victoryTime := 0, rewardTime := (rewardTime + 1).toNat }
    return ⟨{ value with data := dropped.1, map := { value.map with nodeInfo := some nodeInfo } }, some value.baseInfo⟩

/-- `fightInfo` is `dataValue.baseInfo` with a `teamList` and an `equipList`. What a reward brings is left out. -/
def changeState (value : AgentValue) (draws : Map.Draws) (nodeid uid : Map.Sent) (choo : Option (Option Int)) (now : Int) :
    Except Failure Reply :=
  match Map.changeState cfg.map draws nodeid uid choo now value.map with
  | none => .error .typeError
  | some outcome =>
    if Map.saves outcome.retCode then
      let fightInfo := getPlayerInfoEx value value.baseInfo
      .ok ⟨{ fightInfo.1 with map := outcome.data }, none⟩
    else .error (.retCode (outcome.retCode.getD 0))

end

/-- The handlers that store `baseInfo`, with what they are sent and what is left to chance. -/
inductive AgentRequest
  | getPresent (draw : Nat) (moments : Nat → Nat → Moment)
  | setMaxPower
  | getPvpDayF8Result (uuid : String) (finalSort : List String) (paidOut : Bool)
  | testData
  | sellItemGroup (sellgroup : Obj (Option Int))
  | useItem (itemID : Id) (draws : Nat → Nat) (moments : Nat → Nat → Nat → Moment)
  | test_addValue (type value : Id)
  | upgradeHeroLevel (heroId : Id) (expPlayer exp : Id)
  | upgradeSkillSlot (slotId : Id)
  | upgradeHeroStar
  | makeHeroLineup (posDst heroId : Id) (heroInfo : Bool)
  | washHero (unlocked : Fin 5 → Bool) (pick draw : Nat)
  | offlineProfit (now sinceProAfkTime : Int)
  | onlineProfit (isWin : Id) (now : Int)
  | changeEquip (sign seq : Id) (ids : Fin 6 → Id)
  | upgradeEquipStar (equipId : Id) (ids : Fin 5 → Id)
  | splitEquip (equipIdList : List Id) (moments : Nat → Nat → Nat → Moment)
  | unlockBag
  | meltingEquip (lequipId requipId attr : Id) (draw : Nat) (moments : Nat → Nat → Moment)
  | rvmeltingEquip (equipId : Id)
  | changeState (draws : Map.Draws) (nodeid uid : Map.Sent) (choo : Option (Option Int)) (now : Int)

def AgentRequest.funcName : AgentRequest → String
  | .getPresent .. => "getPresent"
  | .setMaxPower => "setMaxPower"
  | .getPvpDayF8Result .. => "getPvpDayF8Result"
  | .testData => "testData"
  | .sellItemGroup .. => "sellItemGroup"
  | .useItem .. => "useItem"
  | .test_addValue .. => "test_addValue"
  | .upgradeHeroLevel .. => "upgradeHeroLevel"
  | .upgradeSkillSlot .. => "upgradeSkillSlot"
  | .upgradeHeroStar => "upgradeHeroStar"
  | .makeHeroLineup .. => "makeHeroLineup"
  | .washHero .. => "washHero"
  | .offlineProfit .. => "offlineProfit"
  | .onlineProfit .. => "onlineProfit"
  | .changeEquip .. => "changeEquip"
  | .upgradeEquipStar .. => "upgradeEquipStar"
  | .splitEquip .. => "splitEquip"
  | .unlockBag => "unlockBag"
  | .meltingEquip .. => "meltingEquip"
  | .rvmeltingEquip .. => "rvmeltingEquip"
  | .changeState .. => "changeState"

/-- A handler that changes `data` alone. -/
def AgentValue.with (value : AgentValue) (data : Except Failure DataValue) : Except Failure Reply :=
  data.map fun data => ⟨{ value with data }, none⟩

/-- A handler that ends in an error stores nothing. -/
def serve (cfg : Config) (value : AgentValue) : AgentRequest → Except Failure Reply
  | .getPresent draw moments => getPresent cfg value draw moments
  | .setMaxPower | .testData => .ok ⟨value, none⟩
  | .getPvpDayF8Result uuid finalSort paidOut => value.with (getPvpDayF8Result value.data uuid finalSort paidOut)
  | .sellItemGroup sellgroup =>
    (Bag.sellItemGroup cfg.tables.Item value.data.player sellgroup).map fun sold => ⟨value.setPlayer sold.1, none⟩
  | .useItem itemID draws moments =>
    (useItem cfg.tables.Item cfg.Drop cfg.userTeyp value.data itemID draws moments).map fun data =>
      ⟨{ value with data }, some value.baseInfo⟩
  | .test_addValue type amount => .ok ⟨{ value with data := test_addValue value.data type amount }, none⟩
  | .upgradeHeroLevel .. => .ok (upgradeHeroLevel value)
  | .upgradeSkillSlot slotId => value.with (upgradeSkillSlot value.data slotId)
  | .upgradeHeroStar => value.with (upgradeHeroStar cfg.tables value.data)
  | .makeHeroLineup posDst heroId heroInfo =>
    (Bag.makeHeroLineup value.data.player posDst heroId heroInfo).map fun made => ⟨value.setPlayer made.1, none⟩
  | .washHero unlocked pick draw => value.with (washHero cfg.tables value.data unlocked pick draw)
  | .offlineProfit now sinceProAfkTime => Agent.offlineProfit cfg value now sinceProAfkTime
  | .onlineProfit isWin now => Agent.onlineProfit cfg value isWin now
  | .changeEquip sign seq ids => .ok ⟨value.setPlayer (Bag.changeEquip value.data.player sign seq ids).1, none⟩
  | .upgradeEquipStar equipId ids => value.with (upgradeEquipStar cfg.tables value.data equipId ids)
  | .splitEquip equipIdList moments => value.with (splitEquip cfg.tables value.data equipIdList moments)
  | .unlockBag => value.with (unlockBag cfg.tables value.data)
  | .meltingEquip lequipId requipId attr draw moments =>
    value.with (meltingEquip cfg.tables value.data lequipId requipId attr draw moments)
  | .rvmeltingEquip equipId => (rvmeltingEquip value equipId).map fun value => ⟨value, none⟩
  | .changeState draws nodeid uid choo now => changeState cfg value draws nodeid uid choo now

/-! ### What is stored -/

variable {cfg : Config} {value : AgentValue} {request : AgentRequest} {reply : Reply}

/-- None of the fields is there. -/
def NotStored.Free (fields : NotStored) : Prop := fields.teamList = none ∧ fields.equipList = none ∧ fields.bagList = none

/-- The handlers that give `baseInfo` a team list. -/
def AgentRequest.fills : AgentRequest → Bool
  | .upgradeHeroLevel .. | .offlineProfit .. | .onlineProfit .. | .changeState .. => true
  | _ => false

/-- Every function that is configured to store `baseInfo` is one of these. -/
theorem funcName_complete : ∀ func ∈ dataConfig, func.writes .baseInfo = true →
    ∃ request : AgentRequest, request.funcName = func.funcName := by
  have all : ∀ func ∈ dataConfig, func.writes .baseInfo = true → func.funcName ∈
      ["getPresent", "setMaxPower", "getPvpDayF8Result", "testData", "sellItemGroup", "useItem", "test_addValue",
        "upgradeHeroLevel", "upgradeSkillSlot", "upgradeHeroStar", "makeHeroLineup", "washHero", "offlineProfit",
        "onlineProfit", "changeEquip", "upgradeEquipStar", "splitEquip", "unlockBag", "meltingEquip", "rvmeltingEquip",
        "changeState"] := by decide
  intro func there writes
  have listed := all func there writes
  simp only [List.mem_cons, List.not_mem_nil, or_false] at listed
  rcases listed with h | h | h | h | h | h | h | h | h | h | h | h | h | h | h | h | h | h | h | h | h <;> rw [h]
  · exact ⟨.getPresent 0 fun _ _ => ⟨0, 0, 0⟩, rfl⟩
  · exact ⟨.setMaxPower, rfl⟩
  · exact ⟨.getPvpDayF8Result "" [] false, rfl⟩
  · exact ⟨.testData, rfl⟩
  · exact ⟨.sellItemGroup ∅, rfl⟩
  · exact ⟨.useItem .null (fun _ => 0) fun _ _ _ => ⟨0, 0, 0⟩, rfl⟩
  · exact ⟨.test_addValue .null .null, rfl⟩
  · exact ⟨.upgradeHeroLevel .null .null .null, rfl⟩
  · exact ⟨.upgradeSkillSlot .null, rfl⟩
  · exact ⟨.upgradeHeroStar, rfl⟩
  · exact ⟨.makeHeroLineup .null .null false, rfl⟩
  · exact ⟨.washHero (fun _ => false) 0 0, rfl⟩
  · exact ⟨.offlineProfit 0 0, rfl⟩
  · exact ⟨.onlineProfit .null 0, rfl⟩
  · exact ⟨.changeEquip .null .null fun _ => .null, rfl⟩
  · exact ⟨.upgradeEquipStar .null fun _ => .null, rfl⟩
  · exact ⟨.splitEquip [] fun _ _ _ => ⟨0, 0, 0⟩, rfl⟩
  · exact ⟨.unlockBag, rfl⟩
  · exact ⟨.meltingEquip .null .null .null 0 fun _ _ => ⟨0, 0, 0⟩, rfl⟩
  · exact ⟨.rvmeltingEquip .null, rfl⟩
  · exact ⟨.changeState ⟨false, none, 0⟩ .null .null none 0, rfl⟩

theorem ok_of_map {α β : Type} {x : Except Failure α} {f : α → β} {b : β} (ok : x.map f = .ok b) : ∃ a, x = .ok a ∧ f a = b := by
  cases x with
  | error failure => cases ok
  | ok a => exact ⟨a, rfl, Except.ok.inj ok⟩

/-- The object is the one it was before, and has the fields it had before. -/
def Untouched (value after : AgentValue) : Prop := after.baseInfo = value.baseInfo ∧ after.objects = value.objects

theorem with_untouched {data : Except Failure DataValue} (ok : value.with data = .ok reply) : Untouched value reply.value := by
  obtain ⟨_, -, rfl⟩ := ok_of_map ok
  exact ⟨rfl, rfl⟩

theorem rvmeltingEquip_untouched {equipId : Id} {after : AgentValue} (ok : rvmeltingEquip value equipId = .ok after) :
    Untouched value after := by
  unfold rvmeltingEquip at ok
  obtain ⟨_, -, ok⟩ := bind_ok.mp ok
  obtain ⟨_, -, ok⟩ := bind_ok.mp ok
  obtain ⟨_, -, ok⟩ := bind_ok.mp ok
  obtain rfl := Except.ok.inj ok
  exact ⟨rfl, rfl⟩

theorem getPresent_untouched {draw : Nat} {moments : Nat → Nat → Moment} (ok : getPresent cfg value draw moments = .ok reply) :
    Untouched value reply.value := by
  unfold getPresent at ok
  obtain ⟨_, -, ok⟩ := bind_ok.mp ok
  obtain ⟨nodeInfo, -, ok⟩ := bind_ok.mp ok
  obtain ⟨_, -, ok⟩ := bind_ok.mp ok
  cases nodeInfo with
  | map node => cases ok
  | afk node =>
    obtain ⟨_, -, ok⟩ := bind_ok.mp ok
    obtain ⟨_, -, ok⟩ := bind_ok.mp ok
    obtain ⟨_, -, ok⟩ := bind_ok.mp ok
    obtain rfl := Except.ok.inj ok
    exact ⟨rfl, rfl⟩

theorem setTeamList_teamList (value : AgentValue) (ref : Ref) (teamList : Obj TeamHero) :
    ((value.setTeamList ref teamList).objects ref).teamList = some teamList := by
  show (Function.update value.objects ref { value.objects ref with teamList := some teamList } ref).teamList = _
  rw [Function.update_self]

theorem setEquipList_teamList (value : AgentValue) (ref : Ref) (equipList : Obj (Obj EquipInfo)) :
    ((value.setEquipList ref equipList).objects ref).teamList = (value.objects ref).teamList := by
  show (Function.update value.objects ref { value.objects ref with equipList := some equipList } ref).teamList = _
  rw [Function.update_self]

theorem profit_fills {isOffline : Bool} {win : Id} {now sinceProAfkTime : Int}
    (ok : profit cfg value isOffline win now sinceProAfkTime = .ok reply) : reply.value.stored.teamList.isSome = true := by
  unfold profit at ok
  obtain ⟨_, -, ok⟩ := bind_ok.mp ok
  obtain ⟨_, -, ok⟩ := bind_ok.mp ok
  obtain rfl := Except.ok.inj ok
  exact congrArg Option.isSome (setTeamList_teamList _ _ _)

theorem changeState_fills {draws : Map.Draws} {nodeid uid : Map.Sent} {choo : Option (Option Int)} {now : Int}
    (ok : changeState cfg value draws nodeid uid choo now = .ok reply) : reply.value.stored.teamList.isSome = true := by
  unfold changeState at ok
  split at ok
  · cases ok
  · split at ok
    · obtain rfl := Except.ok.inj ok
      exact congrArg Option.isSome ((setEquipList_teamList _ _ _).trans (setTeamList_teamList _ _ _))
    · cases ok

/-- Four handlers set a team list on the object that is stored, and the others leave its fields alone. -/
theorem serve_effect (ok : serve cfg value request = .ok reply) :
    if request.fills = true then reply.value.stored.teamList.isSome = true else Untouched value reply.value := by
  cases request with
  | getPresent => exact getPresent_untouched ok
  | setMaxPower | testData | test_addValue | changeEquip =>
    obtain rfl := Except.ok.inj ok
    exact ⟨rfl, rfl⟩
  | sellItemGroup | useItem | makeHeroLineup =>
    obtain ⟨_, -, rfl⟩ := ok_of_map ok
    exact ⟨rfl, rfl⟩
  | rvmeltingEquip =>
    obtain ⟨_, melted, rfl⟩ := ok_of_map ok
    exact rvmeltingEquip_untouched melted
  | getPvpDayF8Result | upgradeSkillSlot | upgradeHeroStar | washHero | upgradeEquipStar | splitEquip | unlockBag | meltingEquip =>
    exact with_untouched ok
  | upgradeHeroLevel =>
    obtain rfl := Except.ok.inj ok
    exact congrArg Option.isSome (setTeamList_teamList _ _ _)
  | offlineProfit | onlineProfit => exact profit_fills ok
  | changeState => exact changeState_fills ok

/-- What a handler stores is free of the fields just when what was read was, and the handler is none of the four. -/
theorem stored_free_iff (cfg : Config) (value : AgentValue) (request : AgentRequest) (reply : Reply)
    (ok : serve cfg value request = .ok reply) :
    reply.value.stored.Free ↔ value.stored.Free ∧ request.fills = false := by
  have effect := serve_effect ok
  cases fills : request.fills with
  | true =>
    rw [fills, if_pos rfl] at effect
    constructor
    · intro free
      rw [free.1] at effect
      cases effect
    · rintro ⟨-, not⟩
      cases not
  | false =>
    rw [fills, if_neg Bool.false_ne_true] at effect
    obtain ⟨same, kept⟩ := effect
    have stored : reply.value.stored = value.stored := by
      rw [AgentValue.stored, kept, same]
      rfl
    rw [stored]
    exact (and_iff_left rfl).symm

/-! ### A new player -/

def firstTables : Tables where
  Item := .none
  isStone _ := false
  eqStar _ := none
  starCost _ := none
  outside _ := false
  Unlock _ := none
  HeroStar _ := none
  suits _ _ := none
  Afkreward _ := none

theorem noEffects_give (_ : Bag.Id) (effects : List (Int × Bag.Id)) (listed : (none : Option (List (Int × Bag.Id))) = some effects) :
    ∀ effect ∈ effects, 0 ≤ checkValue effect.2 := by
  cases listed

def firstConfig : Config where
  tables := firstTables
  Drop _ := none
  userTeyp := ⟨fun _ => none, noEffects_give⟩
  map := Map.firstConfig
  afkScore _ := none

/-- He waits on the first point; nothing is in his team but what the store has of it. -/
def firstValue : AgentValue where
  data := ⟨Bag.createPlayer .none [] 1000, 0, ⟨"10013", 0, ∅, fun _ => 0⟩⟩
  map := ⟨⟨.null, .ofNat 101201, .null, ∅, ∅⟩, some (.afk { proAfkTime := 0 })⟩
  teamHeroList := ∅
  baseInfo := 0
  objects _ := {}

theorem stored_free_equip : (serve firstConfig firstValue (.changeEquip (.number 1) (.number 1) fun _ => .null)).toOption.isSome = true ∧
    ((firstValue.setPlayer (Bag.changeEquip firstValue.data.player (.number 1) (.number 1) fun _ => .null).1).stored.Free ↔
      firstValue.stored.Free ∧ (AgentRequest.changeEquip (.number 1) (.number 1) fun _ => .null).fills = false) :=
  ⟨rfl, stored_free_iff firstConfig firstValue (.changeEquip (.number 1) (.number 1) fun _ => .null) ⟨_, none⟩ rfl⟩

/-- A fight that is lost while he is online. -/
theorem onlineProfit_stores_team : ∃ reply, serve firstConfig firstValue (.onlineProfit (.number 0) 0) = .ok reply ∧
    firstValue.stored.Free ∧ ¬reply.value.stored.Free := by
  have answered : (serve firstConfig firstValue (.onlineProfit (.number 0) 0)).toOption.isSome = true := by decide +kernel
  cases answer : serve firstConfig firstValue (.onlineProfit (.number 0) 0) with
  | error failure =>
    rw [answer] at answered
    cases answered
  | ok reply =>
    refine ⟨reply, rfl, ⟨rfl, rfl, rfl⟩, fun free => ?_⟩
    have filled : reply.value.stored.teamList.isSome = true := serve_effect answer
    rw [free.1] at filled
    cases filled

end Tinygame.Player
