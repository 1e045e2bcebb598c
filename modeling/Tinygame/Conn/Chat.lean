import Tinygame.Conn.Login
import Tinygame.Net.Parse

/-!
# Chat

`chat_imp.js` between the logins: who sends is read from the session record, where a private message goes is read from
the online info, and both may have changed by the time the message arrives at its conn server. A private message that is
answered has been handed to the session layer, which drops it when the session is gone.
-/

namespace Tinygame.Conn

/-! ### const.js -/

def IM_MY_MSG_TO_YOU : Int := 1
def IM_MY_MSG_IN_MY_TEAM : Int := 2
def IM_MY_MSG_IN_AREA : Int := 4
def IM_ANNOUNCE : Int := 6

def LOGIN_ON : String := "1"
def LOGIN_OFF : String := "0"

def FAILURE : Int := 400
def ERROR_FUNCTION_NAME : Int := 402
def GET_SESSION_ERROR : Int := 501
def GET_ONLINEINFO_ERROR : Int := 502

/-! ### chat_imp.js -/

structure SendArgs where
  area : String
  uuid : String
  type : Int
  msg : String

structure RecvInArgs where
  uuid : String
  area : String
  type : Int
  msg : String
  deriving DecidableEq

structure RecvOutArgs extends RecvInArgs where
  state : String
  deriving DecidableEq

inductive TalkPhase
  /-- `getSession` is under way. -/
  | session
  /-- `getOnlineInfo` is under way for a private message of the player. -/
  | online (sender : UserArea)
  /-- The message is with the conn servers. -/
  | pushed
  | ended
  deriving DecidableEq

/-- A call of `sendMsgToServer`. The conn server has put the session in. -/
structure Talk where
  sessionId : Nat
  inArgs : SendArgs
  phase : TalkPhase

/-- Which sessions of a conn server get the message: `pushMsgToClient`, `pushMsgToClientArea` and
`pushMsgToClientAnnounce`. -/
inductive Target
  | yourSessionId (sessionId : Nat)
  | area
  | everyone
  deriving DecidableEq

/-- A message under way to a conn server. -/
structure Push where
  call : Nat
  connId : String
  target : Target
  inArgs : RecvInArgs
  deriving DecidableEq

structure Reply where
  call : Nat
  retCode : Int
  state : String

/-- What a client gets. -/
structure Received where
  call : Nat
  sessionId : Nat
  msg : RecvOutArgs
  deriving DecidableEq

structure Answer where
  call : Nat
  retCode : Int
  state : Option String

structure Chat where
  world : World
  talks : List Talk
  pushes : List Push
  replies : List Reply
  received : List Received
  answers : List Answer

def Chat.init : Chat := ⟨World.init, [], [], [], [], []⟩

def Talk.recvInArgs (talk : Talk) (sender : UserArea) : RecvInArgs := ⟨sender.uuid, sender.area, talk.inArgs.type, talk.inArgs.msg⟩

def Talk.addressee (talk : Talk) : UserArea := ⟨talk.inArgs.area, talk.inArgs.uuid⟩

/-- What a step of a call comes to: its phase, what is pushed, and what is answered. -/
structure Onward where
  phase : TalkPhase
  pushes : List Push
  answers : List Answer

/-- Const.LOGIN_OFF goes with every error. -/
def errorAnswer (call : Nat) (errCode : Int) : Onward := ⟨.ended, [], [⟨call, errCode, some LOGIN_OFF⟩]⟩

/-- `sendMyMsgToYou` with the session. -/
def sendMyMsgToYou (sender : UserArea) : Onward := ⟨.online sender, [], []⟩

/-- redis_client.js has no `getChannelOnlineInfo`: the call ends with an exception. -/
def sendMyMsgInMyTeam : Onward := ⟨.ended, [], []⟩

/-- What the conn servers reply is only logged. `connIds` are those the broker has. -/
def sendMyMsgInArea (call : Nat) (talk : Talk) (sender : UserArea) (connIds : List String) : Onward where
  phase := .ended
  pushes := connIds.map (⟨call, ·, .area, talk.recvInArgs sender⟩)
  answers := [⟨call, Parse.SUCCESS, some LOGIN_ON⟩]

def sendAnnounce (call : Nat) (talk : Talk) (sender : UserArea) (connIds : List String) : Onward where
  phase := .pushed
  pushes := connIds.map (⟨call, ·, .everyone, talk.recvInArgs sender⟩)
  answers := []

/-- The functions `sendMsgToServer` chooses from, with the session. Other types have been refused. -/
def sendMsg (call : Nat) (talk : Talk) (sender : UserArea) (connIds : List String) : Onward :=
  if talk.inArgs.type = IM_MY_MSG_TO_YOU then sendMyMsgToYou sender
  else if talk.inArgs.type = IM_MY_MSG_IN_MY_TEAM then sendMyMsgInMyTeam
  else if talk.inArgs.type = IM_MY_MSG_IN_AREA then sendMyMsgInArea call talk sender connIds
  else sendAnnounce call talk sender connIds

/-- The next step of a call. `ok` tells whether the command to redis passes. -/
def World.talkOn (world : World) (call : Nat) (talk : Talk) (ok : Bool) (connIds : List String) : Onward :=
  match talk.phase with
  | .session =>
    match if ok then world.sessions talk.sessionId else none with
    | none => errorAnswer call GET_SESSION_ERROR
    | some (_, sender) => sendMsg call talk sender connIds
  | .online sender =>
    match if ok then world.onlineInfo talk.addressee else none with
    | none => errorAnswer call GET_ONLINEINFO_ERROR
    | some info => ⟨.pushed, [⟨call, info.connId, .yourSessionId info.sessionId, talk.recvInArgs sender⟩], []⟩
  | phase => ⟨phase, [], []⟩

def Chat.talkOn (chat : Chat) (call : Nat) (talk : Talk) (ok : Bool) (connIds : List String) : Chat :=
  let onward := chat.world.talkOn call talk ok connIds
  { chat with
    talks := chat.talks.set call { talk with phase := onward.phase }
    pushes := chat.pushes ++ onward.pushes
    answers := chat.answers ++ onward.answers }

def sendMsgToServer (chat : Chat) (sessionId : Nat) (inArgs : SendArgs) : Chat :=
  if inArgs.type ∈ [IM_MY_MSG_TO_YOU, IM_MY_MSG_IN_MY_TEAM, IM_MY_MSG_IN_AREA, IM_ANNOUNCE] then
    { chat with talks := chat.talks ++ [⟨sessionId, inArgs, .session⟩] }
  else
    { chat with
      talks := chat.talks ++ [⟨sessionId, inArgs, .ended⟩]
      answers := chat.answers ++ [⟨chat.talks.length, FAILURE, none⟩] }

/-- The callback with the reply of a conn server. That of `sendAnnounce` calls a `callback` it was not given. -/
def onReply (chat : Chat) (talk : Talk) (reply : Reply) : Chat :=
  if talk.inArgs.type = IM_MY_MSG_TO_YOU then
    let answer : Answer := if reply.retCode = Parse.SUCCESS then ⟨reply.call, Parse.SUCCESS, some reply.state⟩
      else ⟨reply.call, reply.retCode, some LOGIN_OFF⟩
    { chat with talks := chat.talks.set reply.call { talk with phase := .ended }, answers := chat.answers ++ [answer] }
  else if talk.inArgs.type = IM_ANNOUNCE then { chat with answers := chat.answers ++ [⟨reply.call, ERROR_FUNCTION_NAME, none⟩] }
  else chat

/-! ### conn_imp.js -/

/-- The session ids that the server tries, as they are spelled in its session map. -/
def World.recipients (world : World) (push : Push) : List String :=
  match push.target with
  | .yourSessionId sessionId => [toString sessionId]
  | .area => (pushMsgToClientArea ⟨world.sessionMap push.connId, []⟩
      ⟨push.inArgs.uuid, push.inArgs.area, toString push.inArgs.type, push.inArgs.msg⟩).map Prod.fst
  | .everyone => (world.sessionMap push.connId).map.entries.map (·.2.sessionId)

/-- The session that is open on the server under an id. -/
def World.openSession (world : World) (connId sessionId : String) : Option Nat :=
  (List.range (world.nextSId + 1)).find? fun n => toString n = sessionId ∧ world.sockets n = some connId

/-- `recvMsgFromServer` on the sessions that are open. -/
def World.recvMsgFromServer (world : World) (push : Push) : List Received :=
  (world.recipients push).filterMap fun id =>
    (world.openSession push.connId id).map fun sessionId => ⟨push.call, sessionId, { push.inArgs with state := LOGIN_ON }⟩

inductive ChatStep
  | login (step : Step)
  | sendMsgToServer (sessionId : Nat) (inArgs : SendArgs)
  /-- The next step of the call. -/
  | talkOn (call : Nat) (ok : Bool) (connIds : List String)
  /-- A message arrives at its conn server. -/
  | push (j : Nat)
  /-- It does not, and the call may be told so. -/
  | lost (j : Nat) (told : Option Int)
  /-- A reply arrives. -/
  | reply (j : Nat)

def Chat.move (chat : Chat) : ChatStep → Chat
  | .login step => { chat with world := Conn.move chat.world step }
  | .sendMsgToServer sessionId inArgs =>
    if (chat.world.sockets sessionId).isSome then Conn.sendMsgToServer chat sessionId inArgs else chat
  | .talkOn call ok connIds =>
    match chat.talks[call]? with
    | none => chat
    | some talk => chat.talkOn call talk ok connIds
  | .push j =>
    match chat.pushes[j]? with
    | none => chat
    | some push => { chat with
        pushes := chat.pushes.eraseIdx j
        replies := chat.replies ++ [⟨push.call, Parse.SUCCESS, LOGIN_ON⟩]
        received := chat.received ++ chat.world.recvMsgFromServer push }
  | .lost j told =>
    match chat.pushes[j]? with
    | none => chat
    | some push => { chat with
        pushes := chat.pushes.eraseIdx j
        replies := chat.replies ++ (told.filter (· ≠ Parse.SUCCESS)).toList.map (⟨push.call, ·, LOGIN_OFF⟩) }
  | .reply j =>
    match chat.replies[j]? with
    | none => chat
    | some reply => match chat.talks[reply.call]? with
      | none => { chat with replies := chat.replies.eraseIdx j }
      | some talk => onReply { chat with replies := chat.replies.eraseIdx j } talk reply

end Tinygame.Conn
