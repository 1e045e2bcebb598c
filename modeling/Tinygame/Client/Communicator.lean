import Mathlib.Logic.Function.Basic
import Tinygame.Base.Run
import Tinygame.Dataprocess.LuaSerialize

/-!
# Calls of the client

`script/core/network/init.lua` and `data_cache.lua`: a call is kept in a small cache under its function id until
its answer comes or its time is up. What comes in is a push, if a callback is registered under its function name, or
else the answer of the call that its function id names.
-/

namespace Tinygame.Client

open LuaSerialize (Lua)
open Serialize (Error)

/-! ### The cache -/

/-- `gf_class` of `data_cache.lua`: the ids go round from 1 to `size - 1`. -/
structure DataCache (α : Type) where
  size : Nat
  capacity : Nat := 0
  dt : Nat → Option α := fun _ => none

namespace DataCache
variable {α : Type}

/-- The id that the next element gets. -/
def next (cache : DataCache α) : Nat := if cache.capacity + 1 ≥ cache.size then 1 else cache.capacity + 1

/-- Whatever is kept under the id is overwritten. -/
def push (cache : DataCache α) (e : α) : DataCache α :=
  { cache with capacity := cache.next, dt := Function.update cache.dt cache.next (some e) }

def erase (cache : DataCache α) (k : Nat) : DataCache α := { cache with dt := Function.update cache.dt k none }

end DataCache

/-! ### What is kept and what comes in -/

/-- An argument of a call; κ are the functions. -/
inductive Arg (κ : Type) where
  | nil
  | func (f : κ)
  | other (value : Lua)

structure FuncInterface where
  seq : String
  inArgs : String
  outArgs : String

/-- An entry of `cbCache`. `call` is the number of the call, which only the specification reads. -/
structure Entry (κ : Type) where
  callback : Arg κ
  outArgs : String
  time : Int
  call : Nat

/-- An entry of `regCbTable`. -/
structure Registered (κ : Type) where
  callback : κ
  outArgs : String

/-- `data[EU_FUNCID]`: it may be missing, and only a number can be a key of the cache. -/
inductive FuncId where
  | nil
  | number (k : Nat)
  | other
  deriving DecidableEq

/-- What `Exbuffer:unpack` gives; `retCode` is `none` where it is no number. -/
structure Data where
  funcName : Option String
  args : Lua
  funcId : FuncId
  retCode : Option Int

/-- What handling some data comes to: the callbacks that are called and their arguments, the tips that are shown, and
whether it ends in a Lua error. -/
structure Result (κ : Type) where
  invoked : List (κ × Lua) := []
  tips : List Int := []
  error : Bool := false

def CALLBACK_MAX_MSG_CACHE : Nat := 20
def TCLIENT_TIMEOUT : Int := 2
def NETWORK_NO_NEED_TIPS : Int := 10000
def NETWORK_RETCODE_NEED_UNPACK : Int := 15000

variable {κ : Type}

namespace Result

/-- What follows is not reached after an error. -/
def andThen (first second : Result κ) : Result κ :=
  if first.error then first
  else { invoked := first.invoked ++ second.invoked, tips := first.tips ++ second.tips, error := second.error }

end Result

def lost : Result κ := { tips := [40001] }
def failed : Result κ := { error := true }

/-- `callback(value)`; only a function can be called. -/
def Arg.invoke (callback : Arg κ) (value : Lua) : Result κ :=
  match callback with
  | .func f => { invoked := [(f, value)] }
  | _ => failed

/-- What a callback is given: the arguments as their type says, and the code. -/
def unpacked (unserialize : String → Lua → Except Error Lua) (outArgs : String) (args : Lua) (retCode : Int) : Except Error Lua :=
  (unserialize outArgs args).bind fun value => value.put (.name "retCode") (.scalar (toString retCode))

/-- The code alone. -/
def codeOnly (retCode : Int) : Lua := .table [(.name "retCode", .scalar (toString retCode))]

section
variable (unserialize : String → Lua → Except Error Lua)

/-! ### Coming in -/

def doCallbackFunc (args : Lua) (retCode : Int) (cbData : Option (Entry κ)) : Result κ :=
  match cbData with
  | none => lost
  | some entry =>
    match entry.callback with
    | .nil => lost
    | callback =>
      match unpacked unserialize entry.outArgs args retCode with
      | .error _ => failed
      | .ok value => callback.invoke value

/-- The answer, once its entry has been taken out of the cache. From `NETWORK_RETCODE_NEED_UNPACK` on the branch does
not return, so that the callback is called again below. -/
def answerCallback (data : Data) (cbData : Option (Entry κ)) : Result κ :=
  match data.retCode with
  | none => failed
  | some retCode =>
    if retCode ≠ 0 then
      if retCode = NETWORK_NO_NEED_TIPS then {}
      else if retCode < NETWORK_NO_NEED_TIPS then { tips := [retCode] }
      else if retCode < NETWORK_RETCODE_NEED_UNPACK then
        match cbData with
        | none => failed
        | some entry =>
          match entry.callback with
          | .nil => {}
          | callback => callback.invoke (codeOnly retCode)
      else (doCallbackFunc unserialize data.args retCode cbData).andThen (doCallbackFunc unserialize data.args retCode cbData)
    else doCallbackFunc unserialize data.args retCode cbData

/-- A table cannot be written at `nil`, so data without a function id end in an error at `erase`. -/
def recvCallback (cbCache : DataCache (Entry κ)) (regCbTable : String → Option (Registered κ)) (data : Data) :
    DataCache (Entry κ) × Result κ :=
  match data.funcName.bind regCbTable with
  | some reg =>
    match unserialize reg.outArgs data.args with
    | .error _ => (cbCache, failed)
    | .ok value => (cbCache, { invoked := [(reg.callback, value)] })
  | none =>
    match data.funcId with
    | .nil => (cbCache, failed)
    | .number k => (cbCache.erase k, answerCallback unserialize data (cbCache.dt k))
    | .other => (cbCache, answerCallback unserialize data none)

end

/-! ### Going out -/

/-- The callback and the arguments of a call: the arguments may be left out, and then the callback comes first. -/
def callArgs (serialize : String → Lua → Except Error Lua) (funcInterface : FuncInterface) (inArgs inCallback : Arg κ) :
    Except Error (Arg κ × Lua) :=
  match inCallback, inArgs with
  | .nil, _ => .ok (inArgs, .table [])
  | _, .func f => .ok (.func f, .table [])
  | _, .other value => (serialize funcInterface.inArgs value).map fun serialData => (inCallback, serialData)
  | _, .nil => (serialize funcInterface.inArgs .nil).map fun serialData => (inCallback, serialData)

/-- The first entry in the order of `pairs` whose time is up is taken out, and the connection is closed. -/
def expired (cbCache : DataCache (Entry κ)) (now : Int) (order : List Nat) : Option (Nat × Entry κ) :=
  order.findSome? fun k => (cbCache.dt k).bind fun entry =>
    if TCLIENT_TIMEOUT < now - entry.time then some (k, entry) else none

/-! ### Runs -/

/-- A call that has been made: what it registered, and the id it was sent with. -/
structure Call (κ : Type) where
  seq : String
  callback : Arg κ
  outArgs : String
  funcId : Nat

/-- Something that came in, and what was made of it. -/
inductive Record (κ : Type) where
  | answered (call : Call κ) (args : Lua) (retCode : Int) (result : Result κ)
  | received (data : Data) (registered : Bool) (result : Result κ)

/-- The client. The calls that were made, answered and given up, and the log, are for the specification. -/
structure State (κ : Type) where
  cbCache : DataCache (Entry κ)
  regCbTable : String → Option (Registered κ)
  calls : List (Call κ)
  answered : List Nat
  timedOut : List Nat
  log : List (Record κ)

def State.init : State κ := ⟨{ size := CALLBACK_MAX_MSG_CACHE }, fun _ => none, [], [], [], []⟩

/-- `answer` is the server's answer to a call of this client, `receive` anything else that comes in. -/
inductive Event (κ : Type) where
  | call (funcInterface : FuncInterface) (inArgs inCallback : Arg κ) (time : Int)
  | regCallback (funcInterface : FuncInterface) (callback : κ)
  | checkTimeout (now : Int) (order : List Nat)
  | answer (call : Nat) (args : Lua) (retCode : Int)
  | receive (data : Data)

/-- The answer that the server sends for a call. -/
def Call.data (call : Call κ) (args : Lua) (retCode : Int) : Data := ⟨some call.seq, args, .number call.funcId, some retCode⟩

variable (serialize unserialize : String → Lua → Except Error Lua)

def step (state : State κ) (event : Event κ) : State κ :=
  match event with
  | .call funcInterface inArgs inCallback time =>
    match callArgs serialize funcInterface inArgs inCallback with
    | .error _ => state
    | .ok args => { state with
        cbCache := state.cbCache.push ⟨args.1, funcInterface.outArgs, time, state.calls.length⟩
        calls := state.calls ++ [⟨funcInterface.seq, args.1, funcInterface.outArgs, state.cbCache.next⟩] }
  | .regCallback funcInterface callback =>
    { state with regCbTable := Function.update state.regCbTable funcInterface.seq (some ⟨callback, funcInterface.outArgs⟩) }
  | .checkTimeout now order =>
    match expired state.cbCache now order with
    | none => state
    | some found => { state with
        cbCache := state.cbCache.erase found.1
        timedOut := found.2.call :: state.timedOut }
  | .answer i args retCode =>
    match state.calls[i]? with
    | none => state
    | some call =>
      let handled := recvCallback unserialize state.cbCache state.regCbTable (call.data args retCode)
      { state with
        cbCache := handled.1
        answered := i :: state.answered
        log := state.log ++ [.answered call args retCode handled.2] }
  | .receive data =>
    let handled := recvCallback unserialize state.cbCache state.regCbTable data
    { state with
      cbCache := handled.1
      log := state.log ++ [.received data (data.funcName.bind state.regCbTable).isSome handled.2] }

end Tinygame.Client
