import Tinygame.Dataprocess.DataConfig
import Tinygame.Dataprocess.Entity
import Tinygame.Dataprocess.Redis

/-!
# The agent pipeline

`handle_gen.js`, `agent_handle.js` and the power index of `pvp_handle.js`: a request opens its
session, reads the entities its function is configured for, runs the handler on them and stores
what the handler left. Each stage is a waterfall: an error skips the rest of it.
-/

namespace Tinygame
open Redis

/-- A program a handler starts and does not wait for. -/
abbrev SideProgram := Program (Command Value) (Reply Value) Empty Unit

abbrev Work (α : Type) := Program (Command Value) (Reply Value) SideProgram α

/-- The client's fields. -/
abbrev InArgs := Obj String

/-- A hash field in the data key: a text of the client, or a number of the config or the data. -/
inductive Field where
  | text (s : String)
  | number (n : Int)
  deriving DecidableEq

namespace Field

def truthy : Field → Bool
  | .text s => s != ""
  | .number n => n != 0

/-- The field as the store sees it, with `none` for `undefined`. -/
def spell : Option Field → String
  | some (.text s) => s
  | some (.number n) => toString n
  | none => "undefined"

end Field

structure DataKey where
  area : String
  uuid : String
  fields : Obj Field

structure DataValue where
  area : String
  uuid : String
  entity : DataName → Option Value

namespace DataValue

def set (dataValue : DataValue) (name : DataName) (value : Value) : DataValue :=
  { dataValue with entity := Function.update dataValue.entity name (some value) }

@[simp] theorem entity_set (dataValue : DataValue) (name other : DataName) (value : Value) :
    (dataValue.set name value).entity other = if other = name then some value else dataValue.entity other := by
  exact Function.update_apply _ _ _ _

@[simp] theorem area_set (dataValue : DataValue) (name : DataName) (value : Value) :
    (dataValue.set name value).area = dataValue.area := rfl

@[simp] theorem uuid_set (dataValue : DataValue) (name : DataName) (value : Value) :
    (dataValue.set name value).uuid = dataValue.uuid := rfl

/-- The entity a handle stores: `dataValue[valueName]` when it is truthy. -/
def kept (dataValue : DataValue) (name : DataName) : Option Value := (dataValue.entity name).filter (·.truthy)

def baseInfo (dataValue : DataValue) : Option BaseInfo :=
  match dataValue.entity .baseInfo with
  | some (.baseInfo baseInfo) => some baseInfo
  | _ => none

end DataValue

/-! ### data_check.js -/

/-- `getSingleKey`: the client's hash fields enter the data key. -/
def getSingleKey (inArgs : InArgs) (dataKey : DataKey) : DataKey :=
  setting.foldl (fun dataKey s => match s.key with
    | some key => match inArgs.get? key with
      | some v => if v = "" then dataKey else { dataKey with fields := dataKey.fields.set key (.text v) }
      | none => dataKey
    | none => dataKey) dataKey

theorem getSingleKey_area (inArgs : InArgs) (dataKey : DataKey) :
    (getSingleKey inArgs dataKey).area = dataKey.area ∧ (getSingleKey inArgs dataKey).uuid = dataKey.uuid := by
  unfold getSingleKey
  have kept : ∀ (settings : List Setting) (dataKey : DataKey),
      let after := settings.foldl (fun dataKey s => match s.key with
        | some key => match inArgs.get? key with
          | some v => if v = "" then dataKey else { dataKey with fields := dataKey.fields.set key (.text v) }
          | none => dataKey
        | none => dataKey) dataKey
      after.area = dataKey.area ∧ after.uuid = dataKey.uuid := by
    intro settings
    induction settings with
    | nil => exact fun _ => ⟨rfl, rfl⟩
    | cons s rest ih =>
      intro dataKey
      rw [List.foldl_cons]
      split
      · split
        · split
          · exact ih _
          · exact ih _
        · exact ih _
      · exact ih _
  exact kept setting dataKey

/-- `bindSpFunc`: follow the path through the data as far as its parts are there. -/
def bindSpFunc (path : String) (dataValue : DataValue) : Field :=
  let found : Option Value := ((path.splitOn ".").foldl (fun ret part => match ret with
    | none => (setting.find? (·.name.valueName = part)).bind fun s => dataValue.entity s.name
    | some value => some ((value.property part).getD value)) none)
  match found with
  | some (.num n) => .number n
  | some (.text s) => .text s
  | _ => .text "[object Object]"

/-! ### handle_gen.js -/

def toLowerCase (dataName : String) : String := String.ofList (dataName.toList.map Char.toLower)

def genKeyPersonal (dataName : String) (dataKey : DataKey) : String :=
  redisKeyGen dataKey.area dataKey.uuid (toLowerCase dataName)

def genKeyArea (dataName : String) (dataKey : DataKey) : String :=
  redisKeyGen dataKey.area (toLowerCase dataName) "area"

def genKeyGlobal (dataName : String) : String :=
  redisKeyGen "all" (toLowerCase dataName) "global"

def genKey (s : Setting) (dataKey : DataKey) : String :=
  match s.kind with
  | .area => genKeyArea s.dbKey dataKey
  | .global => genKeyGlobal s.dbKey
  | _ => genKeyPersonal s.dbKey dataKey

/-- What a handle calls back with: its data, or an error code, which may be undefined. -/
abbrev Outcome := Except (Option Nat) (DataKey × DataValue)

/-- One function of a waterfall. -/
abbrev Handle := FuncConfig → DataKey → DataValue → Work Outcome

def bindReadFuncHandleGet (s : Setting) : Handle := fun func dataKey dataValue =>
  if func.reads s.name then do
    match ← Program.request (.read (.get (genKey s dataKey))) with
    | .value (some readData) =>
      if readData.truthy then return .ok (dataKey, dataValue.set s.name readData)
      else return .error (ErrCode.dataGet s.name)
    | _ => return .error (ErrCode.dataGet s.name)
  else return .ok (dataKey, dataValue)

/-- The data key after `bindReadFuncHandleHget` has settled which hash field it reads. -/
def fieldKey (s : Setting) (key : String) (func : FuncConfig) (dataKey : DataKey) (dataValue : DataValue) : DataKey :=
  let dataKey := match s.default with
    | some n => { dataKey with fields := dataKey.fields.set key (.number n) }
    | none => dataKey
  match func.sp with
  | some path =>
    if ((dataKey.fields.get? key).map Field.truthy).getD false then dataKey
    else { dataKey with fields := dataKey.fields.set key (bindSpFunc path dataValue) }
  | none => dataKey

/-- An absent field is no error: the entity stays undefined. -/
def bindReadFuncHandleHget (s : Setting) (key : String) : Handle := fun func dataKey dataValue =>
  if func.reads s.name then do
    let dataKey := fieldKey s key func dataKey dataValue
    match ← Program.request (.read (.hget (genKey s dataKey) (Field.spell (dataKey.fields.get? key)))) with
    | .value (some readData) =>
      if readData.stored then return .ok (dataKey, dataValue.set s.name readData) else return .ok (dataKey, dataValue)
    | .value none => return .ok (dataKey, dataValue)
    | _ => return .error (ErrCode.dataGet s.name)
  else return .ok (dataKey, dataValue)

def bindReadFuncHandleHall (s : Setting) : Handle := fun func dataKey dataValue =>
  if func.reads s.name then do
    match ← Program.request (.read (.hgetall (genKey s dataKey))) with
    | .hash (some readData) =>
      return .ok (dataKey, dataValue.set s.name (.hash (readData.entries.map fun e => (e.1, e.2))))
    | _ => return .error (ErrCode.dataGet s.name)
  else return .ok (dataKey, dataValue)

/-- What a write handle stores for this function and data, if anything. -/
def stores (s : Setting) (func : FuncConfig) (dataKey : DataKey) (dataValue : DataValue) : Option (Write Value) :=
  if func.writes s.name then
    match dataValue.kept s.name with
    | some value => match s.key with
      | none => some (.set (genKey s dataKey) value)
      | some key => some (.hset (genKey s dataKey) (Field.spell (dataKey.fields.get? key)) value)
    | none => none
  else none

/-- `bindWriteFuncHandleSet` and `bindWriteFuncHandleHset`. -/
def bindWriteFuncHandle (s : Setting) : Handle := fun func dataKey dataValue =>
  match stores s func dataKey dataValue with
  | some command => do
    match ← Program.request (.write command) with
    | .ok => return .ok (dataKey, dataValue)
    | _ => return .error (ErrCode.dataSet s.name)
  | none => return .ok (dataKey, dataValue)

/-- `convertfuncHandle`: a handle without a hash field goes to the front, the others to the back. -/
def convertfuncHandle (settings : List Setting) : List Handle × List Setting :=
  settings.foldl (fun (readFuncHandle, writeFuncHandle) s => match s.kind with
    | .writeYourself => (readFuncHandle, writeFuncHandle)
    | .hashAllPersonal => (readFuncHandle ++ [bindReadFuncHandleHall s], writeFuncHandle)
    | _ => match s.key with
      | some key => (readFuncHandle ++ [bindReadFuncHandleHget s key], writeFuncHandle ++ [s])
      | none => (bindReadFuncHandleGet s :: readFuncHandle, s :: writeFuncHandle)) ([], [])

/-! ### pvp_handle.js -/

def getPowerId (power : Nat) : Nat := power / 100

def powerKey : String := redisKeyGen "all" "power" "global"

/-- `data ? utils.getObject(data) : Lru.lruCreate(id)`. -/
def dataMap (id : Nat) : Option Value → Lru
  | some (.power bucket) => bucket
  | _ => lruCreate id

/-- Read one power range, change it and write it back whole; `false` is an error. -/
def updatePower {γ : Type} (id : Nat) (change : Lru → Lru) : Program (Command Value) (Reply Value) γ Bool := do
  match ← Program.request (.read (.hget powerKey (toString id))) with
  | .value data =>
    match ← Program.request (.write (.hset powerKey (toString id) (.power (change (dataMap id data))))) with
    | .ok => return true
    | _ => return false
  | _ => return false

def BaseInfo.userArea (baseInfo : BaseInfo) : UserArea := ⟨baseInfo.area, baseInfo.uuid⟩

def setPvpSng {γ : Type} (baseInfo : BaseInfo) : Program (Command Value) (Reply Value) γ Bool :=
  updatePower (getPowerId baseInfo.power) (lruSet baseInfo.userArea)

def removePvpSng {γ : Type} (baseInfo : BaseInfo) : Program (Command Value) (Reply Value) γ Bool :=
  updatePower (getPowerId baseInfo.power) (lruRemove baseInfo.userArea)

/-! ### agent_handle.js -/

/-- A program that only reads. -/
abbrev Query (α : Type) := Program Read (Reply Value) Empty α

def Query.work {α : Type} : Query α → Work α
  | .done result => .done result
  | .call command next => .call (.read command) fun reply => Query.work (next reply)
  | .fork job _ => nomatch job

/-- `matching` stands for `pvpHandle.getPvpSng`, which looks for opponents; `none` is an error. -/
def getPvpSng (matching : BaseInfo → Query (Option Value)) : Handle := fun func dataKey dataValue =>
  match func.reads .pvpSng, dataValue.baseInfo with
  | true, some baseInfo => do
    match ← (matching baseInfo).work with
    | some pvpSng => return .ok (dataKey, dataValue.set .pvpSng pvpSng)
    | none => return .error (ErrCode.dataGet .pvpSng)
  | _, _ => return .ok (dataKey, dataValue)

/-- The heroes that were found, under their ids. -/
def heroList (heroIds : List String) (data : List (Option Value)) : Obj Value :=
  (heroIds.zip data).foldl (fun list entry => match entry.2 with
    | some hero => list.set entry.1 hero
    | none => list) ∅

/-- The team of the heroes that were found. -/
def teamHeroList (baseInfo : BaseInfo) (data : List (Option Value)) : Value :=
  let heroIds := getHeroIdsFromPosList baseInfo.posList
  .hash ((transPosListToTeamList baseInfo.posList (heroList heroIds data)).entries.map fun e => (e.1, e.2))

def getTeamHeroList : Handle := fun func dataKey dataValue =>
  match func.reads .teamHeroList, dataValue.baseInfo with
  | true, some baseInfo => do
    let heroIds := getHeroIdsFromPosList baseInfo.posList
    match ← Program.request (.read (.hmget (redisKeyGen dataKey.area dataKey.uuid "hero") heroIds)) with
    | .values data => return .ok (dataKey, dataValue.set .teamHeroList (teamHeroList baseInfo data))
    | _ => return .error (ErrCode.dataGet .teamHeroList)
  | _, _ => return .ok (dataKey, dataValue)

/-- The agent's `setPvpSng`. -/
def storePvpSng : Handle := fun func dataKey dataValue =>
  match func.writes .pvpSng, dataValue.baseInfo with
  | true, some baseInfo => do
    if ← setPvpSng baseInfo then return .ok (dataKey, dataValue)
    else return .error (ErrCode.dataSet .pvpSng)
  | _, _ => return .ok (dataKey, dataValue)

/-- The heroes of a team as they are stored, off the field. -/
def heroInfoList : Value → List (String × Value)
  | .hash fields => fields.map fun e => (e.1, withPos 0 e.2)
  | _ => []

def storesTeam (func : FuncConfig) (dataKey : DataKey) (dataValue : DataValue) : Option (Write Value) :=
  if func.writes .teamHeroList then
    (dataValue.kept .teamHeroList).map fun team =>
      .hmset (redisKeyGen dataKey.area dataKey.uuid "hero") (heroInfoList team)
  else none

def setTeamHeroList : Handle := fun func dataKey dataValue =>
  match storesTeam func dataKey dataValue with
  | some command => do
    match ← Program.request (.write command) with
    | .ok => return .ok (dataKey, dataValue)
    | _ => return .error (ErrCode.dataSet .teamHeroList)
  | none => return .ok (dataKey, dataValue)

/-- How a waterfall ends; `lost` is a handle called without its arguments, which throws. -/
inductive Ending where
  | completed (dataKey : DataKey) (dataValue : DataValue)
  | failed (errCode : Nat)
  | lost

/-- A handle called back with an error. An undefined code is no error: behind the last handle the
waterfall has ended well, and another one is called without its arguments. -/
def errorEnding (errCode : Option Nat) (rest : List Handle) (dataKey : DataKey) (dataValue : DataValue) : Ending :=
  match errCode with
  | some errCode => .failed errCode
  | none => if rest.isEmpty then .completed dataKey dataValue else .lost

/-- `async.waterfall`. -/
def waterfall (func : FuncConfig) : List Handle → DataKey → DataValue → Work Ending
  | [], dataKey, dataValue => return .completed dataKey dataValue
  | handle :: rest, dataKey, dataValue => do
    match ← handle func dataKey dataValue with
    | .ok (dataKey, dataValue) => waterfall func rest dataKey dataValue
    | .error errCode => return errorEnding errCode rest dataKey dataValue

def readHandles (matching : BaseInfo → Query (Option Value)) : List Handle :=
  (convertfuncHandle setting).1 ++ [getPvpSng matching, getTeamHeroList]

def writeHandles : List Handle :=
  (convertfuncHandle setting).2.map bindWriteFuncHandle ++ [storePvpSng, setTeamHeroList]

/-- What a handler returns: its response, the data it left, and the programs it started. -/
structure Handled where
  retCode : Option Nat
  outArgs : List (String × Value)
  dataValue : DataValue
  started : List SideProgram

/-- `none` is an exception. -/
abbrev Handler := DataValue → InArgs → DataKey → Option Handled

/-- What `onResponse` is called with. -/
structure Response where
  retCode : Nat
  outArgs : List (String × Value)

def Response.failure (errCode : Nat) : Response := ⟨errCode, []⟩

/-- An undefined code is set to `SUCCESS`. -/
def Handled.code (handled : Handled) : Nat := handled.retCode.getD ErrCode.success

/-- The response after the save stage. `none` is no response at all. -/
def Handled.respond (handled : Handled) : Ending → Option Response
  | .completed _ _ => some ⟨handled.code, handled.outArgs⟩
  | .failed errCode => some (.failure errCode)
  | .lost => none

/-- The last stage: store what the handler left, and respond. -/
def setDataValue (func : FuncConfig) (dataKey : DataKey) (handled : Handled) : Work (Option Response) :=
  if ErrCode.passes handled.code then do
    return handled.respond (← waterfall func writeHandles dataKey handled.dataValue)
  else return some (.failure handled.code)

/-- The middle stage: run the handler on what was read. -/
def doLogic (handler : Handler) (func : FuncConfig) (inArgs : InArgs) :
    Ending → Work (Option Response)
  | .failed errCode => return some (.failure errCode)
  | .lost => return none
  | .completed dataKey dataValue =>
    match handler dataValue inArgs dataKey with
    | none => return none
    | some handled => Program.forkAll handled.started (setDataValue func dataKey handled)

/-- The function `bindImp` puts in the place of a handler. -/
def bindFunCallback (matching : BaseInfo → Query (Option Value)) (handler : Handler) (funcName : String)
    (inArgs : InArgs) (sessionId : String) : Work (Option Response) :=
  match convertDataConfig dataConfig funcName with
  | none => return some (.failure ErrCode.dataConfigError)
  | some func => do
    match ← Program.request (.read (.getSession sessionId)) with
    | .session session =>
      let inArgs := (inArgs.set "uuid" session.uuid).set "area" session.area
      let dataKey := getSingleKey inArgs ⟨session.area, session.uuid, ∅⟩
      doLogic handler func inArgs
        (← waterfall func (readHandles matching) dataKey ⟨session.area, session.uuid, fun _ => none⟩)
    | _ => return some (.failure ErrCode.getSessionError)

/-- Side programs run beside the requests and answer nobody. -/
def SideProgram.work : SideProgram → Work (Option Response)
  | .done _ => .done none
  | .call command next => .call command fun reply => SideProgram.work (next reply)
  | .fork job _ => nomatch job

/-- The requests under way on one store, with the programs they started. -/
abbrev AgentPool := Pool (Store Value) (Command Value) (Reply Value) SideProgram (Option Response)

/-- Program `event.1` makes a step; when `event.2` its command fails. -/
def agentStep : AgentPool → Nat × Bool → AgentPool := Pool.step Store.exec SideProgram.work

/-! ### How a waterfall goes on -/

section
variable {func : FuncConfig} {s : Setting} {rest : List Handle} {dataKey : DataKey} {dataValue : DataValue}

theorem waterfall_skip {handle : Handle} (off : handle func dataKey dataValue = .done (.ok (dataKey, dataValue))) :
    waterfall func (handle :: rest) dataKey dataValue = waterfall func rest dataKey dataValue := by
  simp [waterfall, off]

theorem waterfall_get (on : func.reads s.name = true) :
    waterfall func (bindReadFuncHandleGet s :: rest) dataKey dataValue =
      .call (.read (.get (genKey s dataKey))) fun
        | .value (some readData) =>
          if readData.truthy then waterfall func rest dataKey (dataValue.set s.name readData)
          else .done (errorEnding (ErrCode.dataGet s.name) rest dataKey dataValue)
        | _ => .done (errorEnding (ErrCode.dataGet s.name) rest dataKey dataValue) := by
  simp only [waterfall, bindReadFuncHandleGet, on, if_true, Program.bind_request, Program.bind_call]
  congr 1
  funext reply
  split
  · split <;> rfl
  · rfl

theorem waterfall_store {command : Write Value} (on : stores s func dataKey dataValue = some command) :
    waterfall func (bindWriteFuncHandle s :: rest) dataKey dataValue =
      .call (.write command) fun
        | .ok => waterfall func rest dataKey dataValue
        | _ => .done (errorEnding (ErrCode.dataSet s.name) rest dataKey dataValue) := by
  simp only [waterfall, bindWriteFuncHandle, on, Program.bind_request, Program.bind_call]
  congr 1
  funext reply
  cases reply <;> rfl

theorem waterfall_team {baseInfo : BaseInfo} (on : func.reads .teamHeroList = true)
    (base : dataValue.baseInfo = some baseInfo) :
    waterfall func (getTeamHeroList :: rest) dataKey dataValue =
      .call (.read (.hmget (redisKeyGen dataKey.area dataKey.uuid "hero") (getHeroIdsFromPosList baseInfo.posList))) fun
        | .values data => waterfall func rest dataKey (dataValue.set .teamHeroList (teamHeroList baseInfo data))
        | _ => .done (errorEnding (ErrCode.dataGet .teamHeroList) rest dataKey dataValue) := by
  simp only [waterfall, getTeamHeroList, on, base, Program.bind_request, Program.bind_call]
  congr 1
  funext reply
  cases reply <;> rfl

/-- The agent's entry into the power index, when the writes succeed. -/
theorem waterfall_power {baseInfo : BaseInfo} (on : func.writes .pvpSng = true)
    (base : dataValue.baseInfo = some baseInfo) :
    waterfall func (storePvpSng :: rest) dataKey dataValue =
      (setPvpSng baseInfo >>= fun stored =>
        if stored then waterfall func rest dataKey dataValue
        else .done (errorEnding (ErrCode.dataSet .pvpSng) rest dataKey dataValue)) := by
  simp only [waterfall, storePvpSng, on, base, setPvpSng, updatePower, Program.bind_request, Program.bind_call]
  congr 1
  funext reply
  cases reply with
  | value data =>
    simp only [Program.bind_call]
    congr 1
    funext reply
    cases reply <;> rfl
  | _ => rfl

/-! What is switched off is skipped. -/

theorem waterfall_get_off (off : func.reads s.name = false) :
    waterfall func (bindReadFuncHandleGet s :: rest) dataKey dataValue = waterfall func rest dataKey dataValue :=
  waterfall_skip (by simp [bindReadFuncHandleGet, off])

theorem waterfall_hget_off {key : String} (off : func.reads s.name = false) :
    waterfall func (bindReadFuncHandleHget s key :: rest) dataKey dataValue = waterfall func rest dataKey dataValue :=
  waterfall_skip (by simp [bindReadFuncHandleHget, off])

theorem waterfall_hall_off (off : func.reads s.name = false) :
    waterfall func (bindReadFuncHandleHall s :: rest) dataKey dataValue = waterfall func rest dataKey dataValue :=
  waterfall_skip (by simp [bindReadFuncHandleHall, off])

theorem waterfall_getPvpSng_off {matching : BaseInfo → Query (Option Value)} (off : func.reads .pvpSng = false) :
    waterfall func (getPvpSng matching :: rest) dataKey dataValue = waterfall func rest dataKey dataValue :=
  waterfall_skip (by simp [getPvpSng, off])

theorem waterfall_getTeamHeroList_off (off : func.reads .teamHeroList = false) :
    waterfall func (getTeamHeroList :: rest) dataKey dataValue = waterfall func rest dataKey dataValue :=
  waterfall_skip (by simp [getTeamHeroList, off])

theorem waterfall_store_off (off : func.writes s.name = false) :
    waterfall func (bindWriteFuncHandle s :: rest) dataKey dataValue = waterfall func rest dataKey dataValue :=
  waterfall_skip (by simp [bindWriteFuncHandle, stores, off])

theorem waterfall_storePvpSng_off (off : func.writes .pvpSng = false) :
    waterfall func (storePvpSng :: rest) dataKey dataValue = waterfall func rest dataKey dataValue :=
  waterfall_skip (by simp [storePvpSng, off])

theorem waterfall_setTeamHeroList_off (off : func.writes .teamHeroList = false) :
    waterfall func (setTeamHeroList :: rest) dataKey dataValue = waterfall func rest dataKey dataValue :=
  waterfall_skip (by simp [setTeamHeroList, storesTeam, off])

/-- A truthy entity without a hash field is stored whole. -/
theorem stores_set (func : FuncConfig) (s : Setting) (dataKey : DataKey) {value : Value} (on : func.writes s.name = true)
    (plain : s.key = none)
    (left : dataValue.entity s.name = some value) (truthy : value.truthy = true) :
    stores s func dataKey dataValue = some (.set (genKey s dataKey) value) := by
  have kept : dataValue.kept s.name = some value := by
    rw [DataValue.kept, left, Option.filter_some, if_pos truthy]
  simp [stores, on, plain, kept]

end

end Tinygame
