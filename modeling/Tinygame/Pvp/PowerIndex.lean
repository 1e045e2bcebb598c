import Tinygame.Dataprocess.Agent

/-!
# Setting a player's power

`setMaxPower` of `pvp_imp.js`: the player leaves the power range of the old power and enters the one
of the new power. The removal runs beside the request; the entry is made by the agent at the end.
The request and its removal are taken apart into phases.
-/

namespace Tinygame.PowerIndex
open Redis

/-- The removal the handler starts; its error is only logged. -/
def removal (baseInfo : BaseInfo) : SideProgram := do
  let _ ← removePvpSng baseInfo
  return ()

/-- `getPlayerPower` adds up heroes and equipment; any valuation of them will do here. -/
def setMaxPower (getPlayerPower : BaseInfo → Option Value → Option Value → Nat) : Handler := fun dataValue _ _ => do
  let baseInfo ← dataValue.baseInfo
  let maxPower := getPlayerPower baseInfo (dataValue.entity .teamHeroList) (dataValue.entity .bagList)
  return ⟨some ErrCode.success, [("maxPower", .num maxPower)],
    dataValue.set .baseInfo (.baseInfo { baseInfo with power := maxPower }), [removal baseInfo]⟩

/-! ### The phases of a request -/

/-- One request of a player; `area` and `uuid` are those of the session. -/
structure Request where
  sid : String
  area : String
  uuid : String
  inArgs : InArgs

def Request.player (r : Request) : UserArea := ⟨r.area, r.uuid⟩

def maxPowerConfig : FuncConfig :=
  ⟨"setMaxPower", [reads .bagList, both .baseInfo, writes .pvpSng, reads .teamHeroList]⟩

theorem maxPowerConfig_found : convertDataConfig dataConfig "setMaxPower" = some maxPowerConfig := by rfl

def baseSetting : Setting := ⟨.baseInfo, .personal, "player", none, none⟩
def bagSetting : Setting := ⟨.bagList, .personal, "bag", none, none⟩

def baseInfoKey (u : UserArea) : String := redisKeyGen u.area u.uuid "player"
def bagListKey (u : UserArea) : String := redisKeyGen u.area u.uuid "bag"
def heroKey (u : UserArea) : String := redisKeyGen u.area u.uuid "hero"

inductive Phase where
  | session
  | baseInfo
  | bagList (base : BaseInfo)
  | team (base : BaseInfo) (bag : Value)
  | start (base : BaseInfo) (bag team : Value)
  | saveBase (base : BaseInfo) (bag team : Value)
  | find (base : BaseInfo) (bag team : Value)
  | save (base : BaseInfo) (bag team : Value) (data : Option Value)
  | ended (response : Option Response)

/-- The phases of a removal. -/
inductive Removal where
  | unstarted
  | find (base : BaseInfo)
  | save (base : BaseInfo) (data : Option Value)
  | ended

section
variable (matching : BaseInfo → Query (Option Value)) (getPlayerPower : BaseInfo → Option Value → Option Value → Nat)
  (r : Request)

def Request.args : InArgs := (r.inArgs.set "uuid" r.uuid).set "area" r.area

def Request.dataKey : DataKey := getSingleKey r.args ⟨r.area, r.uuid, ∅⟩

/-- The data of a request that has read nothing. -/
def Request.blank : DataValue := ⟨r.area, r.uuid, fun _ => none⟩

def Request.seen (base : BaseInfo) (bag team : Value) : DataValue :=
  ((r.blank.set .baseInfo (.baseInfo base)).set .bagList bag).set .teamHeroList team

/-- The base info with the power the handler has set. -/
def raised (base : BaseInfo) (bag team : Value) : BaseInfo :=
  { base with power := getPlayerPower base (some team) (some bag) }

def answer (base : BaseInfo) (bag team : Value) : Response :=
  ⟨ErrCode.success, [("maxPower", .num (raised getPlayerPower base bag team).power)]⟩

/-- What the handler returns. -/
def Request.handled (base : BaseInfo) (bag team : Value) : Handled :=
  ⟨some ErrCode.success, [("maxPower", .num (raised getPlayerPower base bag team).power)],
    (r.seen base bag team).set .baseInfo (.baseInfo (raised getPlayerPower base bag team)), [removal base]⟩

/-- The rest of a request that still has the handles `left` to read with. -/
def reading (left : List Handle) (dataValue : DataValue) : Work (Option Response) :=
  waterfall maxPowerConfig left r.dataKey dataValue >>=
    doLogic (setMaxPower getPlayerPower) maxPowerConfig r.args

/-- The rest of a request that still has the handles `left` to store with. -/
def saving (left : List Handle) (base : BaseInfo) (bag team : Value) : Work (Option Response) := do
  let handled := r.handled getPlayerPower base bag team
  return handled.respond (← waterfall maxPowerConfig left r.dataKey handled.dataValue)

def enter (base : BaseInfo) (data : Option Value) : Lru := lruSet base.userArea (dataMap (getPowerId base.power) data)

def leave (base : BaseInfo) (data : Option Value) : Lru :=
  lruRemove base.userArea (dataMap (getPowerId base.power) data)

/-- The field of a power's range in the index. -/
def range (power : Nat) : String := toString (getPowerId power)

/-- The program of a request in each phase. -/
def code : Phase → Work (Option Response)
  | .session => bindFunCallback matching (setMaxPower getPlayerPower) "setMaxPower" r.inArgs r.sid
  | .baseInfo => reading getPlayerPower r
      [bindReadFuncHandleGet baseSetting, bindReadFuncHandleGet bagSetting, getTeamHeroList] r.blank
  | .bagList base => reading getPlayerPower r [bindReadFuncHandleGet bagSetting, getTeamHeroList]
      (r.blank.set .baseInfo (.baseInfo base))
  | .team base bag => reading getPlayerPower r [getTeamHeroList]
      ((r.blank.set .baseInfo (.baseInfo base)).set .bagList bag)
  | .start base bag team => reading getPlayerPower r [] (r.seen base bag team)
  | .saveBase base bag team => saving getPlayerPower r [bindWriteFuncHandle baseSetting, storePvpSng] base bag team
  | .find base bag team => saving getPlayerPower r [storePvpSng] base bag team
  | .save base bag team data =>
    let new := raised getPlayerPower base bag team
    .call (.write (.hset powerKey (range new.power) (.power (enter new data)))) fun
      | .ok => .done (some (answer getPlayerPower base bag team))
      | _ => .done (some (.failure ErrCode.dataSetPvpSngError))
  | .ended response => .done response

/-- The program of a removal in each phase. -/
def sideCode : Removal → Work (Option Response)
  | .find base => SideProgram.work (removal base)
  | .save base data => .call (.write (.hset powerKey (range base.power) (.power (leave base data)))) fun _ => .done none
  | .unstarted | .ended => .done none

/-! ### From phase to phase -/

variable {matching getPlayerPower r} {base : BaseInfo} {bag team : Value}

theorem genKey_dataKey (s : Setting) : genKey s r.dataKey = genKey s ⟨r.area, r.uuid, ∅⟩ := by
  obtain ⟨same, same'⟩ := getSingleKey_area r.args ⟨r.area, r.uuid, ∅⟩
  unfold Request.dataKey genKey genKeyPersonal genKeyArea
  rw [same, same']

theorem read_handles (dataKey : DataKey) (dataValue : DataValue) :
    waterfall maxPowerConfig (readHandles matching) dataKey dataValue =
      waterfall maxPowerConfig [bindReadFuncHandleGet baseSetting, bindReadFuncHandleGet bagSetting, getTeamHeroList]
        dataKey dataValue := by
  simp (disch := decide) [waterfall_get, waterfall_get_off, waterfall_hget_off, waterfall_hall_off,
    waterfall_getPvpSng_off, readHandles, baseSetting, bagSetting, convertfuncHandle, setting, errorEnding,
    ErrCode.dataGet]

theorem write_handles {dataKey : DataKey} {dataValue : DataValue}
    (kept : dataValue.entity .baseInfo = some (.baseInfo base)) :
    waterfall maxPowerConfig writeHandles dataKey dataValue =
      waterfall maxPowerConfig [bindWriteFuncHandle baseSetting, storePvpSng] dataKey dataValue := by
  have first := stores_set maxPowerConfig baseSetting dataKey rfl rfl kept rfl
  have found : dataValue.baseInfo = some base := by rw [DataValue.baseInfo, kept]
  unfold baseSetting at first ⊢
  simp (disch := decide) [waterfall_store first, waterfall_power _ found, waterfall_store_off,
    waterfall_setTeamHeroList_off, writeHandles, convertfuncHandle, setting, errorEnding, ErrCode.dataSet]

variable (matching getPlayerPower r)

theorem code_session : ∃ next, code matching getPlayerPower r .session = .call (.read (.getSession r.sid)) next ∧
    next (.session ⟨r.area, r.uuid⟩) = code matching getPlayerPower r .baseInfo := by
  rw [code, bindFunCallback, maxPowerConfig_found]
  refine ⟨_, rfl, ?_⟩
  change (waterfall maxPowerConfig (readHandles matching) _ _ >>= _) = _
  rw [read_handles]
  rfl

theorem code_baseInfo (base : BaseInfo) : ∃ next, code matching getPlayerPower r .baseInfo =
    .call (.read (.get (baseInfoKey r.player))) next ∧
      next (.value (some (.baseInfo base))) = code matching getPlayerPower r (.bagList base) := by
  rw [code, reading, waterfall_get (by rfl), genKey_dataKey, Program.bind_call]
  exact ⟨_, rfl, rfl⟩

theorem code_bagList (base : BaseInfo) : ∃ next, code matching getPlayerPower r (.bagList base) =
    .call (.read (.get (bagListKey r.player))) next ∧
      (∀ bag : Value, next (.value (some bag)) = if bag.truthy then code matching getPlayerPower r (.team base bag)
        else code matching getPlayerPower r (.ended (some (.failure 2003)))) ∧
      next (.value none) = code matching getPlayerPower r (.ended (some (.failure 2003))) := by
  rw [code, reading, waterfall_get (by rfl), genKey_dataKey, Program.bind_call]
  refine ⟨_, rfl, fun bag => ?_, rfl⟩
  dsimp only
  split <;> rfl

theorem code_team (base : BaseInfo) (bag : Value) : ∃ next, code matching getPlayerPower r (.team base bag) =
    .call (.read (.hmget (heroKey r.player) (getHeroIdsFromPosList base.posList))) next ∧
      (∀ data, next (.values data) = code matching getPlayerPower r (.start base bag (teamHeroList base data))) ∧
      next .failed = code matching getPlayerPower r (.ended (some (.failure 2005))) := by
  obtain ⟨area, uuid⟩ := getSingleKey_area r.args ⟨r.area, r.uuid, ∅⟩
  have key : redisKeyGen r.dataKey.area r.dataKey.uuid "hero" = heroKey r.player := by
    rw [Request.dataKey, area, uuid]
    rfl
  rw [code, reading, waterfall_team (by rfl) rfl, key, Program.bind_call]
  exact ⟨_, rfl, fun _ => rfl, rfl⟩

theorem handled_base (base : BaseInfo) (bag team : Value) :
    (r.handled getPlayerPower base bag team).dataValue.entity .baseInfo =
      some (.baseInfo (raised getPlayerPower base bag team)) := by
  simp [Request.handled]

theorem code_start (base : BaseInfo) (bag team : Value) : code matching getPlayerPower r (.start base bag team) =
    .fork (removal base) (code matching getPlayerPower r (.saveBase base bag team)) := by
  have passes : ErrCode.passes (r.handled getPlayerPower base bag team).code := .inl rfl
  have stored : setDataValue maxPowerConfig r.dataKey (r.handled getPlayerPower base bag team) =
      code matching getPlayerPower r (.saveBase base bag team) := by
    rw [setDataValue, if_pos passes, write_handles (handled_base getPlayerPower r base bag team)]
    rfl
  rw [← stored]
  rfl

theorem code_saveBase (base : BaseInfo) (bag team : Value) :
    ∃ next, code matching getPlayerPower r (.saveBase base bag team) =
      .call (.write (.set (baseInfoKey r.player) (.baseInfo (raised getPlayerPower base bag team)))) next ∧
        next .ok = code matching getPlayerPower r (.find base bag team) := by
  have step := stores_set maxPowerConfig baseSetting r.dataKey rfl rfl (handled_base getPlayerPower r base bag team) rfl
  rw [code, saving, waterfall_store step, genKey_dataKey, Program.bind_call]
  exact ⟨_, rfl, rfl⟩

theorem code_find (base : BaseInfo) (bag team : Value) :
    ∃ next, code matching getPlayerPower r (.find base bag team) =
      .call (.read (.hget powerKey (range (raised getPlayerPower base bag team).power))) next ∧
        ∀ data, next (.value data) = code matching getPlayerPower r (.save base bag team data) := by
  have found : (r.handled getPlayerPower base bag team).dataValue.baseInfo =
      some (raised getPlayerPower base bag team) := by
    rw [DataValue.baseInfo, handled_base]
  rw [code, saving, waterfall_power (by rfl) found, setPvpSng, updatePower]
  refine ⟨_, rfl, fun data => ?_⟩
  rw [code]
  change Program.call _ _ = Program.call _ _
  congr 1
  funext reply
  cases reply <;> rfl

theorem code_save (base : BaseInfo) (bag team : Value) (data : Option Value) :
    ∃ next, code matching getPlayerPower r (.save base bag team data) =
      .call (.write (.hset powerKey (range (raised getPlayerPower base bag team).power)
        (.power (enter (raised getPlayerPower base bag team) data)))) next ∧
        next .ok = code matching getPlayerPower r (.ended (some (answer getPlayerPower base bag team))) :=
  ⟨_, rfl, rfl⟩

theorem side_find (base : BaseInfo) : ∃ next, sideCode (.find base) =
    .call (.read (.hget powerKey (range base.power))) next ∧
      ∀ data, next (.value data) = sideCode (.save base data) := by
  refine ⟨_, rfl, fun data => ?_⟩
  rw [sideCode]
  change Program.call _ _ = Program.call _ _
  congr 1
  funext reply
  cases reply <;> rfl

theorem side_save (base : BaseInfo) (data : Option Value) : ∃ next, sideCode (.save base data) =
    .call (.write (.hset powerKey (range base.power) (.power (leave base data)))) next ∧
      next .ok = sideCode .ended :=
  ⟨_, rfl, rfl⟩

end
end Tinygame.PowerIndex
