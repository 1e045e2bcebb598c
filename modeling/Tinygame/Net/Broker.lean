import Tinygame.Base.Obj

/-!
# The message broker

`module/net/mdp/broker.js` between `open` and `close`. Workers announce themselves by heartbeats,
requests are routed to one worker or cast to all workers of a type, and a timer expires the workers
that fell silent. The payload type `δ` is opaque: the broker only forwards it.
-/

namespace Tinygame.Broker
variable {δ : Type}

def HEALTH_LIVENESS : Int := 3

structure Worker where
  load : Int
  liveness : Int
  deriving DecidableEq

/-- What `socket.send` is given. The first field of each is the identity it is addressed to. -/
inductive Msg (δ : Type) where
  | request (workid rid : String) (data : δ)
  | reply (clientid workid rid : String) (data : δ)
  | disconnect (clientid workid rid : String)
  | done (clientid rid : String)
  | noexists (clientid server rid : String) (data : δ)
  | heartbeat (workid : String)
  deriving DecidableEq

structure State (δ : Type) where
  /-- server type, then worker identity -/
  workers : Obj (Obj Worker) := ∅
  /-- request id, then the workers of the cast -/
  castmsg : Obj (Obj Nat) := ∅
  /-- request id to worker identity -/
  reqmap : Obj String := ∅
  /-- request id to client identity -/
  clientmap : Obj String := ∅
  /-- the messages sent so far -/
  socket : List (Msg δ) := []

def send (b : State δ) (msg : Msg δ) : State δ := { b with socket := b.socket ++ [msg] }

/-- `this.workers[server][workid]`. -/
def State.worker? (b : State δ) (server workid : String) : Option Worker :=
  (b.workers.get? server).bind (·.get? workid)

/-- The workers of a type, in enumeration order. -/
def State.workids (b : State δ) (server : String) : List String :=
  ((b.workers.get? server).map AList.keys).getD []

def State.modifyWorker (b : State δ) (server workid : String) (f : Worker → Worker) : State δ :=
  { b with workers := b.workers.modify server (·.modify workid f) }

/-- `delete this.castmsg[rid][workid]`. -/
def State.uncast (b : State δ) (rid workid : String) : State δ :=
  { b with castmsg := b.castmsg.modify rid (·.delete workid) }

/-- Tells the client when every worker of the cast has left it. -/
def allReceiveProc (b : State δ) (rid : String) : State δ :=
  if ((b.castmsg.get? rid).getD ∅).keys ≠ [] then b
  else
    let b := send b (.done ((b.clientmap.get? rid).getD "undefined") rid)
    { b with clientmap := b.clientmap.delete rid, castmsg := b.castmsg.delete rid }

/-- One worker of the scan for the smallest load. `none` stands for `Number.MAX_VALUE`. -/
def lighter (ws : Obj Worker) (best : Option (String × Int)) (workid : String) : Option (String × Int) :=
  match ws.get? workid with
  | some w => if 0 ≤ w.liveness ∧ best.all (w.load < ·.2) then some (workid, w.load) else best
  | none => best

/-- The `result` of the scan over the workers of a type. -/
def leastLoaded (ws : Obj Worker) : Option String :=
  (ws.keys.foldl (lighter ws) none).map Prod.fst

/-- A request goes to one worker. -/
def routeTo (b : State δ) (type workid clientid rid : String) (data : δ) : State δ :=
  let b := b.modifyWorker type workid (fun w => { w with load := w.load + 1 })
  let b := { b with reqmap := b.reqmap.set rid workid, clientmap := b.clientmap.set rid clientid }
  send b (.request workid rid data)

/-- A cast reaches one of its workers. -/
def castTo (type clientid rid : String) (data : δ) (b : State δ) (workid : String) : State δ :=
  let b := b.modifyWorker type workid (fun w => { w with load := w.load + 1 })
  let b := if b.castmsg.has rid then b
    else { b with castmsg := b.castmsg.set rid ∅, clientmap := b.clientmap.set rid clientid }
  let b := { b with castmsg := b.castmsg.modify rid (·.set workid 1) }
  send b (.request workid rid data)

/-- One turn of the cast loop. The second component is the variable `result`. -/
def castTurn (type clientid rid : String) (data : δ) (acc : State δ × Option String) (workid : String) :
    State δ × Option String :=
  match acc.1.worker? type workid with
  | some w => if 0 ≤ w.liveness then (castTo type clientid rid data acc.1 workid, some workid) else acc
  | none => acc

/-- `segment[1]` of a server name of the form `all-<type>`. -/
def castType? (server : String) : Option String :=
  match (server.toList.splitOn '-').map String.ofList with
  | [first, second] => if first = "all" then some second else none
  | _ => none

/-- `if (result)`: an undefined or empty identity counts as not found. -/
def truthy (result : Option String) : Option String := result.filter (· ≠ "")

def routeReq (b : State δ) (server clientid rid : String) (data : δ) : State δ :=
  match b.workers.get? server with
  | some ws =>
    match truthy (leastLoaded ws) with
    | some result => routeTo b server result clientid rid data
    | none => send b (.noexists clientid server rid data)
  | none =>
    match castType? server with
    | some type =>
      if b.workers.has type then
        let (b, result) := (b.workids type).foldl (castTurn type clientid rid data) (b, none)
        match truthy result with
        | some _ => b
        | none => send b (.noexists clientid server rid data)
      else send b (.noexists clientid server rid data)
    | none =>
      -- the name may be the identity of a worker: the first type that has it decides
      match b.workers.keys.find? (fun type => (b.worker? type server).isSome) with
      | some type =>
        if ((b.worker? type server).map Worker.liveness).any (0 ≤ ·) then
          routeTo b type server clientid rid data
        else b
      | none => send b (.noexists clientid server rid data)

/-- The part of `replyReq` that settles the request. -/
def relayReply (b : State δ) (workid rid : String) (data : δ) : State δ :=
  match b.castmsg.get? rid with
  | some ws =>
    if ws.has workid then
      let b := match b.clientmap.get? rid with
        | some clientid => send b (.reply clientid workid rid data)
        | none => b
      allReceiveProc (b.uncast rid workid) rid
    else b
  | none =>
    if b.reqmap.get? rid = some workid then
      let b := match b.clientmap.get? rid with
        | some clientid =>
          let b := send b (.reply clientid workid rid data)
          { b with clientmap := b.clientmap.delete rid }
        | none => b
      { b with reqmap := b.reqmap.delete rid }
    else b

def replyReq (b : State δ) (server workid rid : String) (data : δ) : State δ :=
  (relayReply b workid rid data).modifyWorker server workid
    (fun w => { load := w.load - 1, liveness := HEALTH_LIVENESS })

/-- One turn of the `reqmap` loop of `dispatchReqs`. -/
def dropReq (workid : String) (b : State δ) (rid : String) : State δ :=
  if b.reqmap.get? rid = some workid then
    let b := { b with reqmap := b.reqmap.delete rid }
    match b.clientmap.get? rid with
    | some clientid =>
      let b := send b (.disconnect clientid workid rid)
      { b with clientmap := b.clientmap.delete rid }
    | none => b
  else b

/-- One turn of the `castmsg` loop of `dispatchReqs`. -/
def dropCast (workid : String) (b : State δ) (rid : String) : State δ :=
  match b.castmsg.get? rid with
  | some ws =>
    if ws.has workid then
      allReceiveProc (b.uncast rid workid) rid
    else b
  | none => b

/-- Drops everything that waits for a worker. -/
def dispatchReqs (b : State δ) (workid : String) : State δ :=
  let b := b.reqmap.keys.foldl (dropReq workid) b
  b.castmsg.keys.foldl (dropCast workid) b

def checkWorker (server : String) (b : State δ) (workid : String) : State δ :=
  match b.worker? server workid with
  | some w =>
    let b := b.modifyWorker server workid (fun w => { w with liveness := w.liveness - 1 })
    if w.liveness - 1 < 0 then
      let b := dispatchReqs b workid
      { b with workers := b.workers.modify server (·.delete workid) }
    else send b (.heartbeat workid)
  | none => b

/-- The timer. -/
def checkWorkers (b : State δ) : State δ :=
  b.workers.keys.foldl (fun b server => (b.workids server).foldl (checkWorker server) b) b

/-- The mapping of a new server type. -/
def State.addServer (b : State δ) (server : String) : State δ :=
  if b.workers.has server then b else { b with workers := b.workers.set server ∅ }

/-- The record of a new worker. It has no `liveness` yet: the caller sets it next. -/
def State.addWorker (b : State δ) (server workid : String) : State δ :=
  if (b.worker? server workid).isSome then b
  else { b with workers := b.workers.modify server (·.set workid { load := 0, liveness := 0 }) }

/-- The frames behind the identity of a message: its type and what that type carries. -/
inductive Args (δ : Type) where
  | request (server rid : String) (data : δ)
  | reply (server rid : String) (data : δ)
  | heartbeat (server : String)
  | other
  deriving DecidableEq

def onMsg (b : State δ) (identity : String) : Args δ → State δ
  | .request server rid data => routeReq b server identity rid data
  | .reply server rid data => replyReq b server identity rid data
  | .heartbeat server =>
    ((b.addServer server).addWorker server identity).modifyWorker server identity
      (fun w => { w with liveness := HEALTH_LIVENESS })
  | .other => b

inductive Event (δ : Type) where
  | message (identity : String) (args : Args δ)
  | timer
  deriving DecidableEq

def step (b : State δ) : Event δ → State δ
  | .message identity args => onMsg b identity args
  | .timer => checkWorkers b

/-- The broker as `open` leaves it. -/
def initial : State δ := {}

end Tinygame.Broker
