import Tinygame.Dataprocess.Serialize

/-!
# Messages of a client

`pack` and `unpack` of `module/net/socket/parse.js`. A message is an array: the number of a server, the number of one of
its functions, the arguments without their names, the id of the call. An answer has the return code behind them.
-/

namespace Tinygame.Parse
open Serialize (Error)

def SUCCESS : Int := 0
def RETCODE_NEED_UNPACK : Int := 15000

structure SerialProto where
  /-- `SerialProto.interface`: the servers, and in each its functions, by name and by number -/
  table : Serialize.Value
  /-- the text that a value is turned into between brackets -/
  key : Serialize.Value → String
  serialize : String → Serialize.Value → Except Error Serialize.Value
  unserialize : String → Serialize.Value → Except Error Serialize.Value

/-- What `unpack` makes of a message. -/
structure Message where
  serverName : Serialize.Value
  funcName : Serialize.Value
  args : Serialize.Value
  funcId : Serialize.Value

/-- What `pack` is given. -/
structure Reply where
  funcId : Serialize.Value
  args : Serialize.Value
  retCode : Int
  funcName : Serialize.Value
  serverName : Serialize.Value

section
variable (proto : SerialProto)

/-- `SerialProto.interface[server][func]`. -/
def SerialProto.interface (server func : Serialize.Value) : Except Error Serialize.Value := do
  (← proto.table.get (proto.key server)).get (proto.key func)

/-- `utils.jsonIsEmpty`. The members of a string are its characters. -/
def jsonIsEmpty : Serialize.Value → Except Error Bool
  | .scalar json => return json.toList.head? ≠ some '"' ∨ json = "\"\""
  | v =>
    match v.members with
    | [] => return true
    | (i, _) :: _ => return !(← v.hasOwnProperty i)

def unpackMessage (unpackData : Serialize.Value) : Except Error Message := do
  let server ← unpackData.index 0
  let serverName ← (← proto.table.get (proto.key server)).get "serverName"
  let funcName ← (← proto.interface server (← unpackData.index 1)).get "funcName"
  let args ← unpackData.index 2
  let funcId ← unpackData.index 3
  if ← jsonIsEmpty args then return { serverName, funcName, args := .object [], funcId }
  let inArgs ← (← proto.interface serverName funcName).get "inArgs"
  return { serverName, funcName, args := ← proto.unserialize (proto.key inArgs) args, funcId }

/-- `buffer` is what `JSON.parse` makes of it, if it does not throw. -/
def unpack (buffer : Option Serialize.Value) : Option Message := buffer.bind fun unpackData => (unpackMessage proto unpackData).toOption

def packReply (data : Reply) : Except Error Serialize.Value := do
  let func ← proto.interface data.serverName data.funcName
  let seq ← func.get "seq"
  let args ← if data.retCode = SUCCESS ∨ RETCODE_NEED_UNPACK < data.retCode then do
      proto.serialize (proto.key (← func.get "outArgs")) data.args
    else pure (.array [])
  return .array [.scalar "0", seq, args, data.funcId, .scalar (toString data.retCode)]

def pack (data : Reply) : Option Serialize.Value := (packReply proto data).toOption

end

/-- An error packs, whatever its arguments are, when the function is one of the interface. -/
theorem pack_error {proto : SerialProto} {data : Reply} {func seq : Serialize.Value}
    (known : proto.interface data.serverName data.funcName = .ok func) (numbered : func.get "seq" = .ok seq)
    (failed : data.retCode ≠ SUCCESS) (short : data.retCode ≤ RETCODE_NEED_UNPACK) : (pack proto data).isSome := by
  have closed : ¬ (data.retCode = SUCCESS ∨ RETCODE_NEED_UNPACK < data.retCode) := by omega
  simp [pack, packReply, known, numbered, closed, bind, Except.bind, pure, Except.pure, Except.toOption]

end Tinygame.Parse
