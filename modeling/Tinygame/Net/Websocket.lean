import Tinygame.Net.Callback
import Tinygame.Net.Parse
import Tinygame.Net.Session
import Mathlib.Data.List.Perm.Basic
import Mathlib.Logic.Function.Basic

/-!
# From a message to its reply

What happens to the messages of all sessions of a process: `websocket.js`, `protocol.js`, `request.js` and
`remote_proxy.js`. A message that a session emits is unpacked. It is given to a function of the process, or sent to
another server through the router. What comes back is packed and replied, and the session emits the next message.
-/

namespace Tinygame.Websocket
open Parse (SerialProto Message Reply)
open Callback (UNDEFINED_FUNCTION ERROR_FUNCTION_NAME)

def ERROR_UNEXCEPT : Int := 403

structure Server where
  proto : SerialProto
  /-- `tiny.type`, as JSON has it -/
  type : String
  /-- which names `impHandler` has a function for -/
  impHandler : String → Bool

/-- What goes with a call. `funcId` is the property of that name, if there is one. -/
structure Current where
  sessionId : String
  serverName : Serialize.Value
  clientCallFunc : Serialize.Value
  funcId : Option Serialize.Value
  clientRequest : Bool

/-- How a function of the process ends: it calls `onResponse`, it throws, or it does neither. -/
inductive Outcome where
  | response (retCode : Int) (outArgs : Option (List (String × Serialize.Value)))
  | thrown (typeError : Bool)
  | silent

/-- What the router sends for a request. -/
inductive Answer where
  | reply (retCode : Int) (outArgs : Option (List (String × Serialize.Value)))
  | disconnect
  | done
  | noexists
  | other

def falsy : Serialize.Value → Bool
  | .undefined | .null => true
  | .scalar json => json ∈ ["\"\"", "0", "-0", "false"]
  | _ => false

/-- `outArgs.retCode = retCode`, which throws where there are no `outArgs`. -/
def setRetCode (outArgs : Option (List (String × Serialize.Value))) (retCode : Int) : Option Serialize.Value :=
  outArgs.bind fun members => ((Serialize.Value.object members).put "retCode" (.scalar (toString retCode))).toOption

/-- What `onResponse` gives to `replyEx`. -/
def onResponse (current : Current) (retCode : Int) (outArgs : Serialize.Value) : Option Reply :=
  current.funcId.map fun funcId =>
    { funcId, args := outArgs, retCode, funcName := current.clientCallFunc, serverName := current.serverName }

/-- `onResponse(retCode, current, {}, {})`. -/
def errorRsp (current : Current) (retCode : Int) : Option Reply :=
  (setRetCode (some []) retCode).bind (onResponse current retCode)

/-- `onDispatch` of a message of the client. -/
def dispatchClient (server : Server) (current : Current) (outcome : Outcome) : Option Reply :=
  if falsy current.clientCallFunc then errorRsp current UNDEFINED_FUNCTION
  else if ¬ server.impHandler (server.proto.key current.clientCallFunc) then errorRsp current ERROR_FUNCTION_NAME
  else
    match outcome with
    | .response retCode outArgs =>
      match setRetCode outArgs retCode with
      | some outArgs => onResponse current retCode outArgs
      | none => errorRsp current ERROR_FUNCTION_NAME
    | .thrown typeError => errorRsp current (if typeError then ERROR_FUNCTION_NAME else ERROR_UNEXCEPT)
    | .silent => none

/-- What the listener of the request socket does: a reply is dispatched to `clientResponse`. -/
def dispatchAnswer (current : Current) : Answer → Option Reply
  | .reply retCode outArgs => (setRetCode outArgs retCode).bind (onResponse current retCode)
  | .disconnect | .done | .noexists | .other => none

def isText (v : Serialize.Value) (json : String) : Bool :=
  match v with
  | .scalar text => text = json
  | _ => false

/-- The request is sent as JSON, which leaves out a property that is `undefined`. -/
def stringified : Serialize.Value → Option Serialize.Value
  | .undefined => none
  | v => some v

/-- The call that a message comes to, if one is made. -/
def process (server : Server) (sessionId : String) (data : Message) : Option Current :=
  let current : Current :=
    { sessionId, serverName := data.serverName, clientCallFunc := data.funcName, funcId := some data.funcId, clientRequest := true }
  if isText data.serverName server.type then some current
  else if falsy data.serverName then none
  else some { current with clientRequest := false, funcId := stringified data.funcId }

/-- The listener of `data`. -/
def onData (server : Server) (sessionId : String) (msgbuffer : Option Serialize.Value) : Option Current :=
  (Parse.unpack server.proto msgbuffer).bind (process server sessionId)

abbrev Sessions := String → Session.State (Option Serialize.Value) Serialize.Value

structure State where
  sessions : Sessions := fun _ => {}
  /-- the calls that have not come to an end -/
  calls : List Current := []

/-- A message of the client or a reply, with the `data` event that it may emit. -/
def reach (server : Server) (s : State) (sessionId : String) (op : Session.Op (Option Serialize.Value) Serialize.Value) : State :=
  let session := Session.step (s.sessions sessionId) op
  let calls :=
    if session.emitted.length = (s.sessions sessionId).emitted.length then s.calls
    else s.calls ++ (session.queue.first.bind (onData server sessionId)).toList
  { sessions := Function.update s.sessions sessionId session, calls }

def replyEx (server : Server) (s : State) (sessionId : String) (msg : Reply) : State :=
  match Parse.pack server.proto msg with
  | some data => reach server s sessionId (.reply data)
  | none => s

/-- A call comes to its end. -/
def settle (server : Server) (s : State) (i : Nat) (clientRequest : Bool) (rsp : Current → Option Reply) : State :=
  match s.calls[i]? with
  | none => s
  | some current =>
    if current.clientRequest = clientRequest then
      let s : State := { s with calls := s.calls.eraseIdx i }
      match rsp current with
      | some msg => replyEx server s current.sessionId msg
      | none => s
    else s

inductive Event where
  | message (sessionId : String) (data : Option Serialize.Value)
  | handled (i : Nat) (outcome : Outcome)
  | answered (i : Nat) (answer : Answer)

def step (server : Server) (s : State) : Event → State
  | .message sessionId data => reach server s sessionId (.message data)
  | .handled i outcome => settle server s i true (dispatchClient server · outcome)
  | .answered i answer => settle server s i false (dispatchAnswer · answer)

/-! ### Replies for all messages -/

/-- How many calls of a session have not come to an end. -/
def State.underway (s : State) (sessionId : String) : Nat := s.calls.countP fun current => current.sessionId = sessionId

/-- Every message that left the queue has its one reply. One call is underway for the head of a queue, and none where
the queue is empty. -/
structure Answered (s : State) (sessionId : String) : Prop where
  fifo : Session.Fifo (s.sessions sessionId)
  underway : s.underway sessionId = min (s.sessions sessionId).queue.items.length 1

/-- A message that the operation emits comes to a call. -/
def Reaches (server : Server) (s : State) (sessionId : String) (op : Session.Op (Option Serialize.Value) Serialize.Value) : Prop :=
  ∀ data, Session.emits (s.sessions sessionId) op = some data → (onData server sessionId data).isSome

/-- The response packs, and the message behind the one it answers comes to a call. -/
def Replied (server : Server) (s : State) (current : Current) (rsp : Option Reply) : Prop :=
  ∃ data, rsp.bind (Parse.pack server.proto) = some data ∧ Reaches server s current.sessionId (.reply data)

def Proper (server : Server) (s : State) : Event → Prop
  | .message sessionId data => Reaches server s sessionId (.message data)
  | .handled i outcome => ∀ current ∈ s.calls[i]?, current.clientRequest = true →
      Replied server s current (dispatchClient server current outcome)
  | .answered i answer => ∀ current ∈ s.calls[i]?, current.clientRequest = false →
      Replied server s current (dispatchAnswer current answer)

section
variable {server : Server} {s : State} {sessionId : String} {op : Session.Op (Option Serialize.Value) Serialize.Value}

theorem process_sessionId {data : Message} {current : Current} (made : process server sessionId data = some current) :
    current.sessionId = sessionId := by
  simp only [process] at made
  split at made
  · rw [← Option.some.inj made]
  · split at made
    · cases made
    · rw [← Option.some.inj made]

theorem onData_sessionId {data : Option Serialize.Value} {current : Current} (made : onData server sessionId data = some current) :
    current.sessionId = sessionId := by
  obtain ⟨message, -, made⟩ := Option.bind_eq_some_iff.mp made
  exact process_sessionId made

theorem reach_sessions : (reach server s sessionId op).sessions =
    Function.update s.sessions sessionId (Session.step (s.sessions sessionId) op) := rfl

theorem reach_calls : (reach server s sessionId op).calls =
    s.calls ++ ((Session.emits (s.sessions sessionId) op).bind (onData server sessionId)).toList := by
  simp only [reach, Session.step_emitted]
  cases emitted : Session.emits (s.sessions sessionId) op with
  | none => simp
  | some data =>
    rw [if_neg (by simp), Session.first_of_emits emitted]

theorem underway_reach (other : String) : (reach server s sessionId op).underway other = s.underway other +
    if other = sessionId then ((Session.emits (s.sessions sessionId) op).bind (onData server sessionId)).toList.length else 0 := by
  unfold State.underway
  rw [reach_calls, List.countP_append]
  cases made : (Session.emits (s.sessions sessionId) op).bind (onData server sessionId) with
  | none => simp
  | some current =>
    obtain ⟨data, -, called⟩ := Option.bind_eq_some_iff.mp made
    have whose := onData_sessionId called
    by_cases same : other = sessionId
    · simp [same, whose]
    · simp [same, whose, Ne.symm same]

/-- Each message emitted comes to a call exactly when none is lost. -/
theorem reaches_iff : Reaches server s sessionId op ↔
    ((Session.emits (s.sessions sessionId) op).bind (onData server sessionId)).toList.length =
      (Session.emits (s.sessions sessionId) op).toList.length := by
  unfold Reaches
  cases Session.emits (s.sessions sessionId) op with
  | none => simp
  | some data =>
    cases made : onData server sessionId data with
    | none => simp [made]
    | some current => simp [made]

/-- An operation on a session that leaves as many messages emitted as there are to wait for keeps the sessions
answered exactly when the message it emits is not lost. -/
theorem reach_answered_iff (others : ∀ other ≠ sessionId, Answered s other)
    (fifo : Session.Fifo (Session.step (s.sessions sessionId) op))
    (count : s.underway sessionId + (Session.emits (s.sessions sessionId) op).toList.length =
      min (Session.step (s.sessions sessionId) op).queue.items.length 1) :
    (∀ other, Answered (reach server s sessionId op) other) ↔ Reaches server s sessionId op := by
  rw [reaches_iff]
  constructor
  · intro answered
    have same := (answered sessionId).underway
    rw [underway_reach, if_pos rfl, reach_sessions, Function.update_self] at same
    omega
  · intro reaches other
    by_cases same : other = sessionId
    · subst same
      constructor
      · rw [reach_sessions, Function.update_self]
        exact fifo
      · rw [underway_reach, if_pos rfl, reach_sessions, Function.update_self, reaches, count]
    · obtain ⟨fifo, underway⟩ := others other same
      constructor
      · rw [reach_sessions, Function.update_of_ne same]
        exact fifo
      · rw [underway_reach, if_neg same, reach_sessions, Function.update_of_ne same]
        exact underway

theorem message_answered_iff (answered : ∀ other, Answered s other) (data : Option Serialize.Value) :
    (∀ other, Answered (reach server s sessionId (.message data)) other) ↔ Reaches server s sessionId (.message data) := by
  have here := answered sessionId
  apply reach_answered_iff fun other _ => answered other
  · exact Session.step_fifo here.fifo trivial
  · rw [here.underway]
    simp only [Session.step, Session.emits, Session.emitHead_queue, Queue.items_push]
    cases (s.sessions sessionId).queue.items with
    | nil => simp
    | cons head rest => simp

/-! ### A call that ends -/

theorem underway_eraseIdx {current : Current} {i : Nat} (called : s.calls[i]? = some current) (other : String) :
    ({ s with calls := s.calls.eraseIdx i } : State).underway other + (if current.sessionId = other then 1 else 0) =
      s.underway other := by
  obtain ⟨short, rfl⟩ := List.getElem?_eq_some_iff.mp called
  have moved := (List.getElem_cons_eraseIdx_perm short).countP_eq fun current => current.sessionId = other
  rw [List.countP_cons] at moved
  simpa [State.underway] using moved

theorem settle_eq {current : Current} {i : Nat} {clientRequest : Bool} (rsp : Current → Option Reply)
    (called : s.calls[i]? = some current) (kind : current.clientRequest = clientRequest) :
    settle server s i clientRequest rsp =
      ((rsp current).bind (Parse.pack server.proto)).elim { s with calls := s.calls.eraseIdx i }
        fun data => reach server { s with calls := s.calls.eraseIdx i } current.sessionId (.reply data) := by
  unfold settle replyEx
  rw [called]
  dsimp only
  rw [if_pos kind]
  cases rsp current with
  | none => rfl
  | some msg =>
    dsimp only [Option.bind_some]
    cases Parse.pack server.proto msg with
    | none => rfl
    | some data => rfl

/-- A call that ends keeps the sessions answered exactly when there is a reply to make. -/
theorem settle_answered_iff (answered : ∀ other, Answered s other) (i : Nat) (clientRequest : Bool)
    (rsp : Current → Option Reply) :
    (∀ other, Answered (settle server s i clientRequest rsp) other) ↔
      ∀ current ∈ s.calls[i]?, current.clientRequest = clientRequest → Replied server s current (rsp current) := by
  cases called : s.calls[i]? with
  | none =>
    have still : settle server s i clientRequest rsp = s := by simp [settle, called]
    simp [still, answered]
  | some current =>
    by_cases kind : current.clientRequest = clientRequest
    · have taken := underway_eraseIdx called
      obtain ⟨fifo, underway⟩ := answered current.sessionId
      have gone := taken current.sessionId
      rw [if_pos rfl, underway] at gone
      have others : ∀ other ≠ current.sessionId, Answered { s with calls := s.calls.eraseIdx i } other := by
        intro other different
        have same := taken other
        rw [if_neg (Ne.symm different)] at same
        exact ⟨(answered other).fifo, same.trans (answered other).underway⟩
      rw [settle_eq rsp called kind]
      have whole : (∀ current' ∈ some current, current'.clientRequest = clientRequest → Replied server s current' (rsp current')) ↔
          Replied server s current (rsp current) := by simp [kind]
      rw [whole]
      unfold Replied
      cases (rsp current).bind (Parse.pack server.proto) with
      | none =>
        -- the head stays, and nothing is left to answer it
        constructor
        · intro after
          have same := (after current.sessionId).underway
          simp only [Option.elim_none] at same
          omega
        · rintro ⟨data, made, -⟩
          cases made
      | some data =>
        have due : Session.Due (s.sessions current.sessionId) (.reply data) := by
          have emitted := congrArg List.length fifo.emitted
          have queued := congrArg List.length fifo.queued
          simp only [List.length_map, List.length_take, List.length_drop] at emitted queued
          unfold Session.Due
          omega
        have reached : (∀ other, Answered (reach server { s with calls := s.calls.eraseIdx i } current.sessionId (.reply data)) other) ↔
            Reaches server s current.sessionId (.reply data) := by
          apply reach_answered_iff others (Session.step_fifo fifo due)
          simp only [Session.step, Session.emits, Session.emitHead_queue, Queue.items_shift]
          cases items : (s.sessions current.sessionId).queue.items with
          | nil => simp [items] at gone
          | cons head rest =>
            cases rest with
            | nil => simpa [items] using gone
            | cons next more => simpa [items] using gone
        rw [Option.elim_some, reached]
        constructor
        · exact fun reaches => ⟨data, rfl, reaches⟩
        · rintro ⟨_, -, reaches⟩
          exact reaches
    · have still : settle server s i clientRequest rsp = s := by simp [settle, called, kind]
      simp [still, answered, kind]

theorem step_answered_iff (answered : ∀ other, Answered s other) (e : Event) :
    (∀ other, Answered (step server s e) other) ↔ Proper server s e := by
  cases e with
  | message sessionId data => exact message_answered_iff answered data
  | handled i outcome => exact settle_answered_iff answered i true _
  | answered i answer => exact settle_answered_iff answered i false _

theorem new_answered (sessionId : String) : Answered {} sessionId := ⟨Session.new_fifo, rfl⟩

/-- An error of a function of the interface is always replied. Only the message behind it may be lost. -/
theorem replied_of_error {current : Current} {retCode : Int} {funcId func seq : Serialize.Value} (own : current.funcId = some funcId)
    (known : server.proto.interface current.serverName current.clientCallFunc = .ok func) (numbered : func.get "seq" = .ok seq)
    (failed : retCode ≠ Parse.SUCCESS) (short : retCode ≤ Parse.RETCODE_NEED_UNPACK)
    (next : ∀ data, Reaches server s current.sessionId (.reply data)) : Replied server s current (errorRsp current retCode) := by
  let msg : Reply :=
    { funcId, args := .object [("retCode", .scalar (toString retCode))], retCode, funcName := current.clientCallFunc,
      serverName := current.serverName }
  have made : errorRsp current retCode = some msg := by
    simp [errorRsp, setRetCode, onResponse, own, Serialize.Value.put, Except.toOption, msg]
  have packed : (Parse.pack server.proto msg).isSome := Parse.pack_error known numbered failed short
  obtain ⟨data, packed⟩ := Option.isSome_iff_exists.mp packed
  exact ⟨data, by rw [made, Option.bind_some, packed], next data⟩

/-- Where no call of a session is underway, all its messages have their replies. -/
theorem replied_of_quiet (answered : Answered s sessionId) (quiet : s.underway sessionId = 0) :
    (s.sessions sessionId).queue.items = [] ∧
      Session.replies (s.sessions sessionId).history = (Session.received (s.sessions sessionId).history).length := by
  obtain ⟨fifo, underway⟩ := answered
  have empty : (s.sessions sessionId).queue.items = [] := by
    apply List.eq_nil_of_length_eq_zero
    omega
  have all := List.drop_eq_nil_iff.mp (fifo.queued.symm.trans empty)
  exact ⟨empty, le_antisymm fifo.replied all⟩

end

/-- All messages of all sessions are answered all along a run exactly when none is lost in a step. -/
theorem always_answered_iff (server : Server) (events : List Event) :
    (∀ past later, events = past ++ later → ∀ sessionId, Answered (run (step server) {} past) sessionId) ↔
      Along (step server) (Proper server) {} events :=
  always_iff_along (fun s => ∀ sessionId, Answered s sessionId) (fun _ e answered => step_answered_iff answered e) new_answered
    events

/-! ### A message that is not read -/

def heartBeat : Serialize.Value :=
  .object [("funcName", .scalar "\"heartBeat\""), ("outArgs", .scalar "\"HeartBeatInfo\""),
    ("seq", .scalar "\"39363249511363251\""), ("inArgs", .scalar "\"HeartBeatInfo\"")]

/-- The part of `serial_proto.js` that the heart beat of a client needs. -/
def connProto : SerialProto :=
  let conn : Serialize.Value :=
    .object [("39363249511363251", heartBeat), ("heartBeat", heartBeat), ("serverName", .scalar "\"conn\""),
      ("seq", .scalar "\"34464545\"")]
  let fields (name : String) : Option (List Serialize.Field) := if name = "HeartBeatInfo" then some [⟨"time", .string⟩] else none
  { table := .object [("34464545", conn), ("conn", conn)]
    key := fun v =>
      match v with
      | .scalar json => String.ofList (json.toList.filter (· ≠ '"'))
      | _ => "undefined"
    serialize := Serialize.serialize fields (fun _ => none) 2
    unserialize := Serialize.unserialize fields (fun _ => none) 2 }

def connServer : Server := { proto := connProto, type := "\"conn\"", impHandler := fun name => name = "heartBeat" }

def heartBeatMessage : Serialize.Value :=
  .array [.scalar "\"34464545\"", .scalar "\"39363249511363251\"", .array [.scalar "1"], .scalar "7"]

/-- After a heart beat and its reply comes a message that is not JSON. Nothing is underway any more, and the next
heart beat stays in the queue behind it. -/
theorem message_unanswered :
    let s := run (step connServer) {} [.message "1" (some heartBeatMessage), .handled 0 (.response 0 (some [("time", .scalar "1")])),
      .message "1" none, .message "1" (some heartBeatMessage)]
    (s.sessions "1").sent.length = 1 ∧ s.underway "1" = 0 ∧ (s.sessions "1").queue.items.length = 2 ∧ ¬ Answered s "1" := by
  intro s
  have quiet : s.underway "1" = 0 := by decide +kernel
  have waiting : (s.sessions "1").queue.items.length = 2 := by decide +kernel
  refine ⟨by decide +kernel, quiet, waiting, fun answered => ?_⟩
  have empty := (replied_of_quiet answered quiet).1
  rw [empty] at waiting
  cases waiting

end Tinygame.Websocket
