import Tinygame.Client.Communicator

/-!
# The connection of the client

`script/core/network/tclient.lua` with `parse.lua`: messages that are sent while the connection is not open go to a cache, and
the connection is made again. The handlers of the connector, the timer and `sendEx` call one another; here they are functions
of the object's state.
-/

namespace Tinygame.Client

/-! ### Packing -/

/-- `char2escape` of `lua_cjson.c`. -/
def char2escape (c : Nat) : Option String :=
  match c with
  | 8 => some "\\b"
  | 9 => some "\\t"
  | 10 => some "\\n"
  | 12 => some "\\f"
  | 13 => some "\\r"
  | 34 => some "\\\""
  | 47 => some "\\/"
  | 92 => some "\\\\"
  | 127 => some "\\u007f"
  | c => if c < 32 then some ((if c < 16 then "\\u000" else "\\u00") ++ String.ofList (Nat.toDigits 16 c)) else none

def escape (c : Char) : List Char := ((char2escape c.toNat).map String.toList).getD [c]

/-- `json_append_string`. -/
def jsonString (s : String) : String :=
  String.ofList (Char.ofNat 34 :: s.toList.flatMap escape ++ [Char.ofNat 34])

/-- What is packed: a table, or a string. -/
inductive Message (δ : Type) where
  | table (data : δ)
  | string (s : String)

/-- `Exbuffer:pack`. What `cjson.encode` makes of a table is a parameter. -/
def pack {δ : Type} (encode : δ → String) : Message δ → String
  | .table data => encode data
  | .string s => jsonString s

/-! ### The object -/

namespace DataCache
variable {α : Type}

def clear (cache : DataCache α) : DataCache α := { cache with capacity := 0, dt := fun _ => none }

/-- What is kept, by the ids. -/
def data (cache : DataCache α) : List α := (List.range cache.size).filterMap cache.dt

end DataCache

/-- `pairs` reads all there is, in an order of its own. -/
structure Pairs where
  order : List String → List String
  perm : ∀ values, (order values).Perm values

def TCLIENT_MAX_MSG_CACHE : Nat := 10
def TCLIENT_RECONNECT_TRY_MAX_COUNT : Nat := 3

inductive ConnState where
  | disconnect
  | connecting
  | connected
  | hanging
  | close
  deriving DecidableEq

/-- What the object does to others: to its connector and to `NetworkLogic`. -/
inductive Effect where
  | create
  | sendString (msg : String)
  | close
  | connectedNetwork
  | connectingNetwork
  | disconnectNetwork
  | sendingNetwork
  deriving DecidableEq

/-- `connector` says whether there is one, `reconnectScheduler` whether its timer is still to come. `callback` is what the
function given to the constructor sends. `effects` is what the last event has led to. -/
structure TClient (δ : Type) where
  connectState : ConnState := .disconnect
  connector : Bool := false
  reconnectScheduler : Bool := false
  reconnNum : Nat := 0
  msgCache : DataCache String := { size := TCLIENT_MAX_MSG_CACHE }
  reLoginCallback : Bool := false
  callback : Option (List (Message δ)) := none
  effects : List Effect := []

namespace TClient

/-- `opened` brings what `__reLogin` sends at that time, if it sends anything, `timer` whether a connector can be created. -/
inductive Event (δ : Type) where
  | sendEx (data : Message δ) (isLoadUi : Bool)
  | opened (login : Option (Message δ))
  | closed
  | failed
  | timer (created : Bool)

section
variable {δ : Type} (encode : δ → String) (pairs : Pairs) (blocks : Bool)

def emit (client : TClient δ) (effect : Effect) : TClient δ := { client with effects := client.effects ++ [effect] }

def disconnect (client : TClient δ) : TClient δ := { client with connectState := .disconnect, connector := false }

/-- Where the connector's `close` blocks, it calls `onClose` before it comes back. -/
def close (client : TClient δ) : TClient δ :=
  let client := { client with connectState := .close }
  let client :=
    if client.connector then
      if blocks then disconnect (client.emit .close) else client.emit .close
    else client
  { client with msgCache := client.msgCache.clear, connector := false }

def isRetry (client : TClient δ) : Bool × TClient δ :=
  if client.reconnNum ≥ TCLIENT_RECONNECT_TRY_MAX_COUNT then (false, { client with reconnNum := 0 })
  else (true, { client with reconnNum := client.reconnNum + 1 })

def reconnect (client : TClient δ) : TClient δ :=
  if client.connectState ≠ .connecting then
    let client := client.emit .connectingNetwork
    let client := if client.connector then client.close blocks else client
    let client := { client with reLoginCallback := true, connectState := .connecting }
    let (retry, client) := client.isRetry
    if retry then { client with reconnectScheduler := true } else (client.close blocks).emit .disconnectNetwork
  else client

def connect (created : Bool) (client : TClient δ) : TClient δ :=
  { client.emit .create with connector := created, connectState := .hanging }

def pushMsgToCache (data : String) (client : TClient δ) : TClient δ := { client with msgCache := client.msgCache.push data }

def sendEx (data : Message δ) (isLoadUi : Bool) (client : TClient δ) : TClient δ :=
  let msg := pack encode data
  if client.connector = false ∨ client.connectState ≠ .connected then (client.pushMsgToCache msg).reconnect blocks
  else (if isLoadUi then client.emit .sendingNetwork else client).emit (.sendString msg)

def sendAll (messages : List (Message δ)) (client : TClient δ) : TClient δ :=
  messages.foldl (fun client data => client.sendEx encode blocks data false) client

def sendDelayMsg (client : TClient δ) : TClient δ :=
  let client := client.sendAll encode blocks ((pairs.order client.msgCache.data).map .string)
  { client with msgCache := client.msgCache.clear }

def connected (login : Option (Message δ)) (client : TClient δ) : TClient δ :=
  let client := { client with connectState := .connected, reconnNum := 0 }
  if client.reLoginCallback then client.sendAll encode blocks login.toList else client

def onOpen (login : Option (Message δ)) (client : TClient δ) : TClient δ :=
  let client := (client.emit .connectedNetwork).connected encode blocks login
  let client := { client.sendAll encode blocks (client.callback.getD []) with callback := none }
  client.sendDelayMsg encode pairs blocks

def onClose (client : TClient δ) : TClient δ :=
  if client.connectState ≠ .close then client.disconnect.reconnect blocks else client.disconnect

def onError (client : TClient δ) : TClient δ := (client.close blocks).reconnect blocks

/-- Only a connector that is there opens, and only a timer that has been set goes off. -/
def step (client : TClient δ) (event : Event δ) : TClient δ :=
  let client := { client with effects := [] }
  match event with
  | .sendEx data isLoadUi => client.sendEx encode blocks data isLoadUi
  | .opened login => if client.connector then client.onOpen encode pairs blocks login else client
  | .closed => client.onClose blocks
  | .failed => client.onError blocks
  | .timer created =>
    if client.reconnectScheduler then { client with reconnectScheduler := false }.connect created else client

/-- `ctor`. -/
def new (callback : Option (List (Message δ))) (created : Bool) : TClient δ := TClient.connect created { callback }

end

end TClient
end Tinygame.Client
