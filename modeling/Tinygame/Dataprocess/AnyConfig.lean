import Tinygame.Dataprocess.Agent

/-!
# The agent pipeline for any data config

`data_check.js`, `handle_gen.js` and `agent_handle.js` with the data config, the values and the table
of codes as parameters. Here the data key is what it is in the source: an object in which the
session's `area` and `uuid` stand beside the hash fields, under names the config chooses.
-/

namespace Tinygame.AnyConfig
open Redis

/-- What the pipeline asks of the values of JavaScript. -/
structure Values (V : Type) where
  string : String → V
  /-- `String(v)`, as the store gets it. -/
  text : V → String
  truthy : V → Bool
  /-- A property of one's own, or `some none` without it. `null` has no properties to ask for. -/
  own : String → V → Option (Option V)
  hash : Obj V → V
  /-- `dataValue` itself, as a value. -/
  dataValue : V
  text_string : ∀ s, text (string s) = s

/-- An object whose properties are looked up by name. -/
abbrev Props (V : Type) := String → Option V

/-- One property of the config's `setting`. `name` is the property without its `is`; entries that are
empty or zero are left out. `Kind.writeYourself` stands for any kind that generates no handle. -/
structure Setting (V : Type) where
  name : String
  kind : Kind
  dbKey : Option String
  key : Option String
  default : Option V

/-- What a function has under the name of a setting. -/
structure Access where
  name : String
  read : Bool
  write : Bool
  sp : Option String

structure FuncConfig where
  funcName : String
  isSession : Bool
  access : List Access

/-- A data config, with the functions in the order of their ids. -/
structure DataConfig (V : Type) where
  setting : List (Setting V)
  funcs : List FuncConfig

variable {V : Type}

namespace Setting

def valueName (s : Setting V) : String :=
  match s.name.toList with
  | [] => ""
  | first :: rest => String.ofList (first.toLower :: rest)

end Setting

namespace FuncConfig

def entry (func : FuncConfig) (name : String) : Option Access := func.access.find? (·.name = name)

def reads (func : FuncConfig) (name : String) : Bool := ((func.entry name).map (·.read)).getD false

def writes (func : FuncConfig) (name : String) : Bool := ((func.entry name).map (·.write)).getD false

/-- The path behind `dataKey["sp" + funcName]`. -/
def sp (func : FuncConfig) (setting : List (Setting V)) : Option String :=
  setting.findSome? fun s => (func.entry s.name).bind (·.sp)

end FuncConfig

namespace DataConfig

/-- Of two functions with one name the later one stands. -/
def find (cfg : DataConfig V) (funcName : String) : Option FuncConfig :=
  cfg.funcs.reverse.find? (·.funcName = funcName)

end DataConfig

/-! ### data_check.js -/

section
variable (js : Values V) (cfg : DataConfig V)

/-- The value under a name, as the store gets it. -/
def spell (object : Props V) (name : String) : String := ((object name).map js.text).getD "undefined"

def isTruthy (object : Props V) (name : String) : Bool := ((object name).map js.truthy).getD false

/-- `new DataKey(area, uuid)`. -/
def newDataKey (area uuid : V) : Props V := fun name =>
  if name = "area" then some area else if name = "uuid" then some uuid else none

def getSingleKey (inArgs dataKey : Props V) : Props V :=
  cfg.setting.foldl (fun dataKey s => match s.key with
    | some key => if isTruthy js inArgs key then Function.update dataKey key (inArgs key) else dataKey
    | none => dataKey) dataKey

/-- The parts of a path that are there, from `dataValue` on. `none` is an exception. -/
def followPath (dataValue : Props V) : List String → Option V → Option (Option V)
  | [], ret => some ret
  | part :: rest, none => followPath dataValue rest (dataValue part)
  | part :: rest, some value => (js.own part value).bind fun found => followPath dataValue rest (some (found.getD value))

def bindSpFunc (path : String) (dataValue : Props V) : Option V :=
  (followPath js dataValue (path.splitOn ".") none).map fun ret => ret.getD js.dataValue

/-! ### handle_gen.js -/

/-- The key of an entity of this kind. -/
def keyOf (kind : Kind) (area uuid dbKey : String) : String :=
  match kind with
  | .area => redisKeyGen area (toLowerCase dbKey) "area"
  | .global => redisKeyGen "all" (toLowerCase dbKey) "global"
  | _ => redisKeyGen area uuid (toLowerCase dbKey)

/-- `none` without a `dbKey`, which throws. -/
def genKey (s : Setting V) (dataKey : Props V) : Option String :=
  s.dbKey.map (keyOf s.kind (spell js dataKey "area") (spell js dataKey "uuid"))

/-- How a handle calls back. `none` is an exception. -/
abbrev Outcome (V : Type) := Option (Except (Option Nat) (Props V × Props V))

abbrev SideProgram (V : Type) := Program (Command V) (Reply V) Empty Unit

abbrev Work (V α : Type) := Program (Command V) (Reply V) (SideProgram V) α

abbrev Handle (V : Type) := FuncConfig → Props V → Props V → Work V (Outcome V)

/-- `ErrCode[prefix + dataName.toUpperCase() + "_ERROR"]`. -/
def errorCode (errCode : String → Option Nat) (action : String) (s : Setting V) : Option Nat :=
  errCode (action ++ String.ofList (s.name.toList.map Char.toUpper) ++ "_ERROR")

/-- A method of the data key. Behind a property of its own it is not there, and the call throws. -/
def method (dataKey : Props V) (name : String) (answer : Bool) : Option Bool :=
  if (dataKey name).isSome then none else some answer

variable (errCode : String → Option Nat)

def bindReadFuncHandleGet (s : Setting V) : Handle V := fun func dataKey dataValue =>
  match genKey js s dataKey, method dataKey ("r" ++ s.name) (func.reads s.name) with
  | some thisKey, some true => do
    let reply ← Program.request (.read (.get thisKey))
    return some <| match reply with
      | .value (some readData) =>
        if js.truthy readData then .ok (dataKey, Function.update dataValue s.valueName (some readData))
        else .error (errorCode errCode "DATA_GET_" s)
      | _ => .error (errorCode errCode "DATA_GET_" s)
  | some _, some false => return some (.ok (dataKey, dataValue))
  | _, _ => return none

/-- The fixed value of a hash field comes before what the client sent. -/
def withDefault (s : Setting V) (key : String) (dataKey : Props V) : Props V :=
  match s.default with
  | some value => Function.update dataKey key (some value)
  | none => dataKey

/-- The data key once the hash field is settled. -/
def fieldKey (s : Setting V) (key : String) (func : FuncConfig) (dataKey dataValue : Props V) : Option (Props V) :=
  let dataKey := withDefault s key dataKey
  if isTruthy js dataKey key then some dataKey
  else match dataKey ("sp" ++ func.funcName), func.sp cfg.setting with
    | some found, _ => if js.truthy found then none else some dataKey
    | none, some path => (bindSpFunc js path dataValue).map fun found => Function.update dataKey key (some found)
    | none, none => some dataKey

def bindReadFuncHandleHget (s : Setting V) (key : String) : Handle V := fun func dataKey dataValue =>
  match genKey js s dataKey, method dataKey ("r" ++ s.name) (func.reads s.name) with
  | some thisKey, some true =>
    match fieldKey js cfg s key func dataKey dataValue with
    | none => return none
    | some dataKey => do
      let reply ← Program.request (.read (.hget thisKey (spell js dataKey key)))
      return some <| match reply with
        | .value (some readData) => .ok (dataKey, Function.update dataValue s.valueName (some readData))
        | .value none => .ok (dataKey, dataValue)
        | _ => .error (errorCode errCode "DATA_GET_" s)
  | some _, some false => return some (.ok (dataKey, dataValue))
  | _, _ => return none

def bindReadFuncHandleHall (s : Setting V) : Handle V := fun func dataKey dataValue =>
  match genKey js s dataKey, method dataKey ("r" ++ s.name) (func.reads s.name) with
  | some thisKey, some true => do
    let reply ← Program.request (.read (.hgetall thisKey))
    return some <| match reply with
      | .hash (some readData) => .ok (dataKey, Function.update dataValue s.valueName (some (js.hash readData)))
      | _ => .error (errorCode errCode "DATA_GET_" s)
  | some _, some false => return some (.ok (dataKey, dataValue))
  | _, _ => return none

/-- The write that stores an entity. -/
def storing (s : Setting V) (thisKey : String) (dataKey : Props V) (value : V) : Write V :=
  match s.key with
  | none => .set thisKey value
  | some key => .hset thisKey (spell js dataKey key) value

/-- `bindWriteFuncHandleSet` and `bindWriteFuncHandleHset`. -/
def bindWriteFuncHandle (s : Setting V) : Handle V := fun func dataKey dataValue =>
  match genKey js s dataKey, method dataKey ("w" ++ s.name) (func.writes s.name) with
  | some thisKey, some true =>
    match (dataValue s.valueName).filter js.truthy with
    | some value => do
      let reply ← Program.request (.write (storing js s thisKey dataKey value))
      return some <| match reply with
        | .ok => .ok (dataKey, dataValue)
        | _ => .error (errorCode errCode "DATA_SET_" s)
    | none => return some (.ok (dataKey, dataValue))
  | some _, some false => return some (.ok (dataKey, dataValue))
  | _, _ => return none

/-- `convertfuncHandle`: a handle without a hash field goes to the front, the others to the back. -/
def convertfuncHandle : List (Handle V) × List (Handle V) :=
  cfg.setting.foldl (fun (readFuncHandle, writeFuncHandle) s => match s.kind with
    | .writeYourself => (readFuncHandle, writeFuncHandle)
    | .hashAllPersonal => (readFuncHandle ++ [bindReadFuncHandleHall js errCode s], writeFuncHandle)
    | _ => match s.key with
      | some key => (readFuncHandle ++ [bindReadFuncHandleHget js cfg errCode s key],
          writeFuncHandle ++ [bindWriteFuncHandle js errCode s])
      | none => (bindReadFuncHandleGet js errCode s :: readFuncHandle,
          bindWriteFuncHandle js errCode s :: writeFuncHandle)) ([], [])

/-! ### agent_handle.js -/

/-- A handle that is not generated: `getPvpSng`, `getTeamHeroList`, `setPvpSng` or `setTeamHeroList`. They
leave the data key alone. -/
abbrev OwnHandle (V : Type) := FuncConfig → Props V → Props V → Work V (Option (Except (Option Nat) (Props V)))

def OwnHandle.handle (own : OwnHandle V) : Handle V := fun func dataKey dataValue => do
  return (← own func dataKey dataValue).map fun outcome => outcome.map fun dataValue => (dataKey, dataValue)

/-- The handles behind the generated ones. -/
structure OwnHandles (V : Type) where
  read : List (OwnHandle V)
  write : List (OwnHandle V)

inductive Ending (V : Type) where
  | completed (dataKey dataValue : Props V)
  | failed (errCode : Nat)
  | lost

def waterfall (func : FuncConfig) : List (Handle V) → Props V → Props V → Work V (Ending V)
  | [], dataKey, dataValue => return .completed dataKey dataValue
  | handle :: rest, dataKey, dataValue => do
    match ← handle func dataKey dataValue with
    | some (.ok (dataKey, dataValue)) => waterfall func rest dataKey dataValue
    | some (.error (some errCode)) => return .failed errCode
    | some (.error none) => if rest.isEmpty then return .completed dataKey dataValue else return .lost
    | none => return .lost

def readHandles (own : OwnHandles V) : List (Handle V) :=
  (convertfuncHandle js cfg errCode).1 ++ own.read.map OwnHandle.handle

def writeHandles (own : OwnHandles V) : List (Handle V) :=
  (convertfuncHandle js cfg errCode).2 ++ own.write.map OwnHandle.handle

/-- What a handler returns. Of the data key it may set `heroId`, which `rollHero` does. -/
structure Handled (V : Type) where
  retCode : Option Nat
  outArgs : List (String × V)
  dataValue : Props V
  heroId : Option V
  started : List (SideProgram V)

/-- `none` is an exception. No handler enumerates its arguments. -/
abbrev Handler (V : Type) := Props V → Props V → Props V → Option (Handled V)

structure Response (V : Type) where
  retCode : Nat
  outArgs : List (String × V)

def Response.failure (errCode : Nat) : Response V := ⟨errCode, []⟩

def setDataValue (own : OwnHandles V) (func : FuncConfig) (dataKey : Props V) (handled : Handled V) :
    Work V (Option (Response V)) :=
  let retCode := handled.retCode.getD ErrCode.success
  if ErrCode.passes retCode then do
    match ← waterfall func (writeHandles js cfg errCode own) dataKey handled.dataValue with
    | .completed _ _ => return some ⟨retCode, handled.outArgs⟩
    | .failed errCode => return some (.failure errCode)
    | .lost => return none
  else return some (.failure retCode)

/-- The handler finds the session's area and uuid in the data as well. -/
def doLogic (own : OwnHandles V) (handler : Handler V) (func : FuncConfig) (inArgs : Props V) :
    Ending V → Work V (Option (Response V))
  | .failed errCode => return some (.failure errCode)
  | .lost => return none
  | .completed dataKey dataValue =>
    let dataValue := Function.update (Function.update dataValue "area" (inArgs "area")) "uuid" (inArgs "uuid")
    match handler dataValue inArgs dataKey with
    | none => return none
    | some handled =>
      let dataKey := match handled.heroId with
        | some heroId => Function.update dataKey "heroId" (some heroId)
        | none => dataKey
      Program.forkAll handled.started (setDataValue js cfg errCode own func dataKey handled)

def serve (own : OwnHandles V) (handler : Handler V) (func : FuncConfig) (inArgs dataKey : Props V) :
    Work V (Option (Response V)) := do
  doLogic js cfg errCode own handler func inArgs
    (← waterfall func (readHandles js cfg errCode own) dataKey fun _ => none)

/-- A request whose session has been found: the session's area and uuid replace the client's. -/
def withSession (own : OwnHandles V) (handler : Handler V) (func : FuncConfig) (inArgs : Props V) (session : Session) :
    Work V (Option (Response V)) :=
  let inArgs := Function.update inArgs "uuid" (some (js.string session.uuid))
  let inArgs := Function.update inArgs "area" (some (js.string session.area))
  let dataKey := newDataKey (js.string session.area) (js.string session.uuid)
  serve js cfg errCode own handler func inArgs (getSingleKey js cfg inArgs dataKey)

/-- The function `bindImp` puts in the place of a handler. -/
def bindFunCallback (own : OwnHandles V) (handler : Handler V) (funcName : String) (inArgs : Props V)
    (sessionId : String) : Work V (Option (Response V)) :=
  match cfg.find funcName with
  | none => return some (.failure ErrCode.dataConfigError)
  | some func =>
    if func.isSession then do
      match ← Program.request (.read (.getSession sessionId)) with
      | .session session => withSession js cfg errCode own handler func inArgs session
      | _ => return some (.failure ErrCode.getSessionError)
    else serve js cfg errCode own handler func inArgs fun _ => none

def SideProgram.work : SideProgram V → Work V (Option (Response V))
  | .done _ => .done none
  | .call command next => .call command fun reply => SideProgram.work (next reply)
  | .fork job _ => nomatch job

/-- Requests and what they started, on one store. -/
abbrev AgentPool (V : Type) := Pool (Store V) (Command V) (Reply V) (SideProgram V) (Option (Response V))

def agentStep : AgentPool V → Nat × Bool → AgentPool V := Pool.step Store.exec SideProgram.work

end

end Tinygame.AnyConfig
