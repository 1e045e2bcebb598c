import Tinygame.Dataprocess.Agent

/-!
# Enrolling for the day tournament

`enrollPvpDay` of `pvp_imp.js`, and the agent's request for it taken apart into its phases: what it
has read so far, and which command comes next.
-/

namespace Tinygame.Pvp
open Redis

/-- `Const.PVP_ENROLL_DAY_TICKET_LIMIT`. -/
def ticketLimit : Int := 10

/-- `Const.PVP_ENROLL_DAY_NUMS_LIMIT`. -/
def numsLimit : Int := 5000

/-- `Const.PVP_DAY_START`. -/
def pvpDayStart : Int := 1

/-! ### The handler -/

def pvpInfo? (dataValue : DataValue) : Option PvpInfo :=
  match dataValue.entity .pvpInfo with
  | some (.pvpInfo pvpInfo) => some pvpInfo
  | _ => none

def pvpDay? (dataValue : DataValue) : Option PvpDay :=
  match dataValue.entity .pvpDay with
  | some (.pvpDay pvpDay) => some pvpDay
  | _ => none

def globalInfo? (dataValue : DataValue) : Option GlobalInfo :=
  match dataValue.entity .globalInfo with
  | some (.globalInfo globalInfo) => some globalInfo
  | _ => none

/-- The numbers of the player's own area; the lists of the reply are empty. -/
def getReadPvpDay (dataValue : DataValue) : Option Value := do
  let baseInfo ← dataValue.baseInfo
  let globalInfo ← globalInfo? dataValue
  let today ← globalInfo.pvpDay.get? baseInfo.area
  return .areaDay baseInfo.area today

/-- The player may enter: time, tickets and room are there. -/
def enters (pvpInfo : PvpInfo) (today : AreaDay) : Prop :=
  pvpInfo.myTime < today.updateTime ∧ ticketLimit ≤ pvpInfo.ticketDay ∧ today.nums < numsLimit

instance (pvpInfo : PvpInfo) (today : AreaDay) : Decidable (enters pvpInfo today) :=
  inferInstanceAs (Decidable (_ ∧ _))

def enteredInfo (pvpInfo : PvpInfo) (updateTime : Int) : PvpInfo :=
  { pvpInfo with myTime := updateTime, dayMark := pvpDayStart }

def enteredDay (uuid : String) (pvpDay : PvpDay) : PvpDay := { pvpDay with uuids := pvpDay.uuids ++ [uuid] }

def enteredToday (pvpInfo : PvpInfo) (today : AreaDay) : AreaDay :=
  { today with nums := today.nums + 1, rewardPool := today.rewardPool + pvpInfo.ticketDay }

/-- `Const.PVP_DAY_IS_ENROLL` is undefined, the code stands in another table: a player who has
enrolled before gets `SUCCESS`. -/
def enrollPvpDay : Handler := fun dataValue _ _ => do
  let pvpInfo ← pvpInfo? dataValue
  let globalInfo ← globalInfo? dataValue
  let today ← globalInfo.pvpDay.get? dataValue.area
  if pvpInfo.myTime < today.updateTime then
    if ticketLimit ≤ pvpInfo.ticketDay ∧ today.nums < numsLimit then
      let pvpDay ← pvpDay? dataValue
      let dataValue := dataValue.set .pvpDay (.pvpDay (enteredDay dataValue.uuid pvpDay))
      let dataValue := dataValue.set .globalInfo
        (.globalInfo ⟨globalInfo.pvpDay.set dataValue.area (enteredToday pvpInfo today)⟩)
      let dataValue := dataValue.set .pvpInfo (.pvpInfo (enteredInfo pvpInfo today.updateTime))
      let read ← getReadPvpDay dataValue
      return ⟨some ErrCode.success, [("pvpDay", read)], dataValue, []⟩
    else
      return ⟨some ErrCode.pvpErollDayError, [], dataValue, []⟩
  else
    let read ← getReadPvpDay dataValue
    return ⟨none, [("pvpDay", read)], dataValue, []⟩

/-! ### What the handler leaves -/

section
variable (area uuid : String)

def afterInfo (pvpInfo : PvpInfo) (today : AreaDay) : PvpInfo :=
  if enters pvpInfo today then enteredInfo pvpInfo today.updateTime else pvpInfo

def afterDay (pvpInfo : PvpInfo) (pvpDay : PvpDay) (today : AreaDay) : PvpDay :=
  if enters pvpInfo today then enteredDay uuid pvpDay else pvpDay

def afterGlobal (pvpInfo : PvpInfo) (globalInfo : GlobalInfo) (today : AreaDay) : GlobalInfo :=
  if enters pvpInfo today then ⟨globalInfo.pvpDay.set area (enteredToday pvpInfo today)⟩ else globalInfo

/-- The data of a request that has read its four entities. -/
def seen (base : Value) (pvpInfo : PvpInfo) (pvpDay : PvpDay) (globalInfo : GlobalInfo) : DataValue :=
  (((DataValue.set ⟨area, uuid, fun _ => none⟩ .baseInfo base).set .pvpInfo (.pvpInfo pvpInfo)).set
    .pvpDay (.pvpDay pvpDay)).set .globalInfo (.globalInfo globalInfo)

variable {area uuid} {base : Value} {pvpInfo : PvpInfo} {pvpDay : PvpDay} {globalInfo : GlobalInfo}
  {today : AreaDay} {inArgs : InArgs} {dataKey : DataKey} {handled : Handled}

/-- A handler that lets the request go on leaves the three entities entered, or as they were for a
player whose time has come already. -/
theorem enrollPvpDay_leaves (stands : globalInfo.pvpDay.get? area = some today)
    (ran : enrollPvpDay (seen area uuid base pvpInfo pvpDay globalInfo) inArgs dataKey = some handled)
    (passes : ErrCode.passes handled.code) :
    handled.started = [] ∧
      handled.dataValue.entity .pvpInfo = some (.pvpInfo (afterInfo pvpInfo today)) ∧
      handled.dataValue.entity .pvpDay = some (.pvpDay (afterDay uuid pvpInfo pvpDay today)) ∧
      handled.dataValue.entity .globalInfo = some (.globalInfo (afterGlobal area pvpInfo globalInfo today)) ∧
      (enters pvpInfo today ∨ today.updateTime ≤ pvpInfo.myTime) := by
  simp only [enrollPvpDay, seen, pvpInfo?, pvpDay?, globalInfo?, DataValue.entity_set, DataValue.area_set,
    DataValue.uuid_set, reduceCtorEq, if_false, if_true, bind, Option.bind_some, stands] at ran
  by_cases early : pvpInfo.myTime < today.updateTime
  · by_cases fits : ticketLimit ≤ pvpInfo.ticketDay ∧ today.nums < numsLimit
    · have entering : enters pvpInfo today := ⟨early, fits⟩
      rw [if_pos early, if_pos fits] at ran
      obtain ⟨read, -, made⟩ := Option.bind_eq_some_iff.mp ran
      cases made
      simp [afterInfo, afterDay, afterGlobal, entering]
    · rw [if_pos early, if_neg fits] at ran
      cases ran
      have refused : ¬ ErrCode.passes ErrCode.pvpErollDayError := by decide
      exact absurd passes refused
  · rw [if_neg early] at ran
    have staying : ¬ enters pvpInfo today := fun entering => early entering.1
    obtain ⟨read, -, made⟩ := Option.bind_eq_some_iff.mp ran
    cases made
    simp [afterInfo, afterDay, afterGlobal, staying]
    omega

end

/-! ### The phases of a request -/

/-- One request of a player; `uuid` is who the session belongs to. -/
structure Request where
  sid : String
  uuid : String
  inArgs : InArgs

/-- The reads of the function, in the order of the pipeline. -/
def enrollReads : List Setting :=
  [⟨.baseInfo, .personal, "player", none, none⟩, ⟨.pvpInfo, .personal, "pvp", none, none⟩,
    ⟨.pvpDay, .area, "pvpday", none, none⟩, ⟨.globalInfo, .global, "all", none, none⟩]

/-- What it stores, in the order of the pipeline. -/
def enrollWrites : List Setting := enrollReads.tail

def enrollConfig : FuncConfig := ⟨"enrollPvpDay", [both .globalInfo, both .pvpDay, both .pvpInfo, reads .baseInfo]⟩

theorem enrollConfig_found : convertDataConfig dataConfig "enrollPvpDay" = some enrollConfig := by rfl

def baseInfoKey (area uuid : String) : String := redisKeyGen area uuid "player"
def pvpInfoKey (area uuid : String) : String := redisKeyGen area uuid "pvp"
def pvpDayKey (area : String) : String := redisKeyGen area "pvpday" "area"
def globalInfoKey : String := redisKeyGen "all" "all" "global"

inductive Phase where
  | session
  | baseInfo
  | pvpInfo (base : Value)
  | pvpDay (base : Value) (info : PvpInfo)
  | globalInfo (base : Value) (info : PvpInfo) (day : PvpDay)
  | savePvpInfo (base : Value) (info : PvpInfo) (day : PvpDay) (world : GlobalInfo)
  | savePvpDay (base : Value) (info : PvpInfo) (day : PvpDay) (world : GlobalInfo)
  | saveGlobalInfo (base : Value) (info : PvpInfo) (day : PvpDay) (world : GlobalInfo)
  | ended (response : Option Response)

section
variable (matching : BaseInfo → Query (Option Value)) (area : String) (r : Request)

def Request.args : InArgs := (r.inArgs.set "uuid" r.uuid).set "area" area

def Request.dataKey : DataKey := getSingleKey (r.args area) ⟨area, r.uuid, ∅⟩

/-- The rest of a request that still reads `left`. -/
def reading (left : List Setting) (dataValue : DataValue) : Work (Option Response) :=
  waterfall enrollConfig (left.map bindReadFuncHandleGet) (r.dataKey area) dataValue >>=
    doLogic enrollPvpDay enrollConfig (r.args area)

def handled? (base : Value) (info : PvpInfo) (day : PvpDay) (world : GlobalInfo) : Option Handled :=
  enrollPvpDay (seen area r.uuid base info day world) (r.args area) (r.dataKey area)

/-- The rest of a request that still stores `left`. -/
def saving (left : List Setting) (handled : Option Handled) : Work (Option Response) :=
  match handled with
  | some handled => do
    return handled.respond (← waterfall enrollConfig (left.map bindWriteFuncHandle) (r.dataKey area) handled.dataValue)
  | none => return none

/-- The program of a request in each phase. -/
def code : Phase → Work (Option Response)
  | .session => bindFunCallback matching enrollPvpDay "enrollPvpDay" r.inArgs r.sid
  | .baseInfo => reading area r enrollReads ⟨area, r.uuid, fun _ => none⟩
  | .pvpInfo base => reading area r enrollReads.tail (DataValue.set ⟨area, r.uuid, fun _ => none⟩ .baseInfo base)
  | .pvpDay base info => reading area r enrollReads.tail.tail
      ((DataValue.set ⟨area, r.uuid, fun _ => none⟩ .baseInfo base).set .pvpInfo (.pvpInfo info))
  | .globalInfo base info day => reading area r enrollReads.tail.tail.tail
      (((DataValue.set ⟨area, r.uuid, fun _ => none⟩ .baseInfo base).set .pvpInfo (.pvpInfo info)).set
        .pvpDay (.pvpDay day))
  | .savePvpInfo base info day world => saving area r enrollWrites (handled? area r base info day world)
  | .savePvpDay base info day world => saving area r enrollWrites.tail (handled? area r base info day world)
  | .saveGlobalInfo base info day world => saving area r enrollWrites.tail.tail (handled? area r base info day world)
  | .ended response => .done response

/-- Where the handler sends a request that has read everything. -/
def decided (base : Value) (info : PvpInfo) (day : PvpDay) (world : GlobalInfo) : Phase :=
  match handled? area r base info day world with
  | some handled =>
    if ErrCode.passes handled.code then .savePvpInfo base info day world else .ended (some (.failure handled.code))
  | none => .ended none

/-- The response of a request that has stored everything. -/
def answered (base : Value) (info : PvpInfo) (day : PvpDay) (world : GlobalInfo) : Option Response :=
  (handled? area r base info day world).map fun handled => ⟨handled.code, handled.outArgs⟩

/-! ### From phase to phase -/

variable {matching area r} {base : Value} {info : PvpInfo} {day : PvpDay} {world : GlobalInfo} {today : AreaDay}

theorem genKey_dataKey (s : Setting) : genKey s (r.dataKey area) = genKey s ⟨area, r.uuid, ∅⟩ := by
  obtain ⟨same, same'⟩ := getSingleKey_area (r.args area) ⟨area, r.uuid, ∅⟩
  unfold Request.dataKey genKey genKeyPersonal genKeyArea
  rw [same, same']

theorem read_handles (dataKey : DataKey) (dataValue : DataValue) :
    waterfall enrollConfig (readHandles matching) dataKey dataValue =
      waterfall enrollConfig (enrollReads.map bindReadFuncHandleGet) dataKey dataValue := by
  simp (disch := decide) [waterfall_get, waterfall_get_off, waterfall_hget_off, waterfall_hall_off,
    waterfall_getPvpSng_off, waterfall_getTeamHeroList_off, readHandles, enrollReads, convertfuncHandle, setting,
    errorEnding, ErrCode.dataGet]

theorem reading_step (area : String) (r : Request) (s : Setting) (left : List Setting) (dataValue : DataValue) {errCode : Nat}
    (on : enrollConfig.reads s.name = true) (coded : ErrCode.dataGet s.name = some errCode) :
    ∃ next, reading area r (s :: left) dataValue = .call (.read (.get (genKey s ⟨area, r.uuid, ∅⟩))) next ∧
      (∀ value : Value, next (.value (some value)) = if value.truthy then reading area r left (dataValue.set s.name value)
        else .done (some (.failure errCode))) ∧
      next (.value none) = .done (some (.failure errCode)) := by
  rw [reading, List.map_cons, waterfall_get on, genKey_dataKey, Program.bind_call]
  refine ⟨_, rfl, fun value => ?_, ?_⟩
  · dsimp only
    split
    · rfl
    · rw [coded]
      rfl
  · dsimp only
    rw [coded]
    rfl

theorem saving_step (area : String) (r : Request) (s : Setting) (left : List Setting) {handled : Handled} {value : Value}
    (on : enrollConfig.writes s.name = true) (plain : s.key = none)
    (kept : handled.dataValue.entity s.name = some value) (truthy : value.truthy = true) :
    ∃ next, saving area r (s :: left) (some handled) = .call (.write (.set (genKey s ⟨area, r.uuid, ∅⟩) value)) next ∧
      next .ok = saving area r left (some handled) := by
  have step := stores_set enrollConfig s (r.dataKey area) on plain kept truthy
  dsimp only [saving]
  rw [List.map_cons, waterfall_store step, genKey_dataKey, Program.bind_call]
  exact ⟨_, rfl, rfl⟩

theorem code_session (matching : BaseInfo → Query (Option Value)) (area : String) (r : Request) :
    ∃ next, code matching area r .session = .call (.read (.getSession r.sid)) next ∧
    next (.session ⟨area, r.uuid⟩) = code matching area r .baseInfo := by
  rw [code, bindFunCallback, enrollConfig_found]
  refine ⟨_, rfl, ?_⟩
  change (waterfall enrollConfig (readHandles matching) _ _ >>= _) = _
  rw [read_handles]
  rfl

theorem code_baseInfo (matching : BaseInfo → Query (Option Value)) (area : String) (r : Request) :
    ∃ next, code matching area r .baseInfo =
    .call (.read (.get (baseInfoKey area r.uuid))) next ∧
      (∀ value : Value, next (.value (some value)) = if value.truthy then code matching area r (.pvpInfo value)
        else code matching area r (.ended (some (.failure 2001)))) ∧
      next (.value none) = code matching area r (.ended (some (.failure 2001))) :=
  reading_step _ _ _ _ _ rfl rfl

theorem code_pvpInfo (matching : BaseInfo → Query (Option Value)) (area : String) (r : Request) (base : Value)
    (info : PvpInfo) : ∃ next, code matching area r (.pvpInfo base) =
    .call (.read (.get (pvpInfoKey area r.uuid))) next ∧
      next (.value (some (.pvpInfo info))) = code matching area r (.pvpDay base info) := by
  obtain ⟨next, step, goes, -⟩ := reading_step area r ⟨.pvpInfo, .personal, "pvp", none, none⟩ enrollReads.tail.tail
    (DataValue.set ⟨area, r.uuid, fun _ => none⟩ .baseInfo base) rfl rfl
  exact ⟨next, step, goes _⟩

theorem code_pvpDay (matching : BaseInfo → Query (Option Value)) (area : String) (r : Request) (base : Value)
    (info : PvpInfo) (day : PvpDay) : ∃ next, code matching area r (.pvpDay base info) =
    .call (.read (.get (pvpDayKey area))) next ∧
      next (.value (some (.pvpDay day))) = code matching area r (.globalInfo base info day) := by
  obtain ⟨next, step, goes, -⟩ := reading_step area r ⟨.pvpDay, .area, "pvpday", none, none⟩ enrollReads.tail.tail.tail
    ((DataValue.set ⟨area, r.uuid, fun _ => none⟩ .baseInfo base).set .pvpInfo (.pvpInfo info)) rfl rfl
  exact ⟨next, step, goes _⟩

theorem enrollPvpDay_started {dataValue : DataValue} {inArgs : InArgs} {dataKey : DataKey} {handled : Handled}
    (ran : enrollPvpDay dataValue inArgs dataKey = some handled) : handled.started = [] := by
  simp only [enrollPvpDay, bind, Option.bind_eq_some_iff] at ran
  obtain ⟨pvpInfo, -, globalInfo, -, today, -, ran⟩ := ran
  split at ran
  · split at ran
    · simp only [Option.bind_eq_some_iff] at ran
      obtain ⟨pvpDay, -, read, -, made⟩ := ran
      cases made
      rfl
    · cases ran
      rfl
  · obtain ⟨read, -, made⟩ := Option.bind_eq_some_iff.mp ran
    cases made
    rfl

/-- What the handler left is stored in the order of `enrollWrites`. -/
theorem write_handles {dataKey : DataKey} {dataValue : DataValue}
    (info : dataValue.entity .pvpInfo = some (.pvpInfo info')) (day : dataValue.entity .pvpDay = some (.pvpDay day'))
    (world : dataValue.entity .globalInfo = some (.globalInfo world')) :
    waterfall enrollConfig writeHandles dataKey dataValue =
      waterfall enrollConfig (enrollWrites.map bindWriteFuncHandle) dataKey dataValue := by
  have first := stores_set enrollConfig ⟨.pvpInfo, .personal, "pvp", none, none⟩ dataKey rfl rfl info rfl
  have second := stores_set enrollConfig ⟨.pvpDay, .area, "pvpday", none, none⟩ dataKey rfl rfl day rfl
  have third := stores_set enrollConfig ⟨.globalInfo, .global, "all", none, none⟩ dataKey rfl rfl world rfl
  simp (disch := decide) [waterfall_store first, waterfall_store second, waterfall_store third, waterfall_store_off,
    waterfall_storePvpSng_off, waterfall_setTeamHeroList_off, writeHandles, enrollWrites, enrollReads,
    convertfuncHandle, setting, errorEnding, ErrCode.dataSet]

theorem code_globalInfo (matching : BaseInfo → Query (Option Value)) (area : String) (r : Request) (base : Value)
    (info : PvpInfo) (day : PvpDay) (world : GlobalInfo) : ∃ next, code matching area r (.globalInfo base info day) =
    .call (.read (.get globalInfoKey)) next ∧
      next (.value (some (.globalInfo world))) = code matching area r (decided area r base info day world) := by
  obtain ⟨next, step, goes, -⟩ := reading_step area r ⟨.globalInfo, .global, "all", none, none⟩ []
    (((DataValue.set ⟨area, r.uuid, fun _ => none⟩ .baseInfo base).set .pvpInfo (.pvpInfo info)).set
        .pvpDay (.pvpDay day)) rfl rfl
  refine ⟨next, step, ?_⟩
  have logic : next (.value (some (.globalInfo world))) = doLogic enrollPvpDay enrollConfig (r.args area)
      (.completed (r.dataKey area) (seen area r.uuid base info day world)) := goes _
  rw [logic]
  unfold decided
  cases ran : handled? area r base info day world with
  | none =>
    have ran' : enrollPvpDay (seen area r.uuid base info day world) (r.args area) (r.dataKey area) = none := ran
    simp only [doLogic, ran', code, Program.pure_eq]
  | some handled =>
    have ran' : enrollPvpDay (seen area r.uuid base info day world) (r.args area) (r.dataKey area) = some handled := ran
    simp only [doLogic, ran', enrollPvpDay_started ran', Program.forkAll, setDataValue]
    split
    · rename_i passes
      cases stands : world.pvpDay.get? area with
      | none => simp [enrollPvpDay, seen, pvpInfo?, globalInfo?, stands] at ran'
      | some today =>
        obtain ⟨-, kept, kept', kept'', -⟩ := enrollPvpDay_leaves stands ran' passes
        rw [write_handles kept kept' kept'']
        simp only [code, saving, ran]
    · rfl

/-- The three writes of a request whose handler let it go on. -/
theorem code_save (matching : BaseInfo → Query (Option Value)) {handled : Handled} (stands : world.pvpDay.get? area = some today)
    (ran : handled? area r base info day world = some handled) (passes : ErrCode.passes handled.code) :
    (∃ next, code matching area r (.savePvpInfo base info day world) =
      .call (.write (.set (pvpInfoKey area r.uuid) (.pvpInfo (afterInfo info today)))) next ∧
        next .ok = code matching area r (.savePvpDay base info day world)) ∧
    (∃ next, code matching area r (.savePvpDay base info day world) =
      .call (.write (.set (pvpDayKey area) (.pvpDay (afterDay r.uuid info day today)))) next ∧
        next .ok = code matching area r (.saveGlobalInfo base info day world)) ∧
    (∃ next, code matching area r (.saveGlobalInfo base info day world) =
      .call (.write (.set globalInfoKey (.globalInfo (afterGlobal area info world today)))) next ∧
        next .ok = code matching area r (.ended (answered area r base info day world))) := by
  obtain ⟨-, kept, kept', kept'', -⟩ := enrollPvpDay_leaves stands ran passes
  simp only [code, ran]
  refine ⟨saving_step _ _ _ _ rfl rfl kept rfl, saving_step _ _ _ _ rfl rfl kept' rfl, ?_⟩
  obtain ⟨next, step, goes⟩ := saving_step area r ⟨.globalInfo, .global, "all", none, none⟩ [] rfl rfl kept'' rfl
  refine ⟨next, step, goes.trans ?_⟩
  simp only [answered, ran]
  rfl

end
end Tinygame.Pvp
