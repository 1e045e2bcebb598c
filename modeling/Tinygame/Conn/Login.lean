import Tinygame.Conn.Directory
import Mathlib.Logic.Function.Basic

/-!
# Logging in

`loginGame` and `exitGame` of `conn_imp.js` on all conn servers at once, step by step: each command to redis is a
step, and so is what a callback does. `destroy` of `session.js` closes a session. Session ids come from a counter.
-/

namespace Tinygame.Conn

/-- What redis keeps of a player who is online. -/
structure OnlineInfo where
  sessionId : Nat
  connId : String
  deriving DecidableEq

inductive Phase
  /-- `getOnlineInfo` is under way. -/
  | asked
  /-- It has been answered. -/
  | told (myOnlineInfo : Option OnlineInfo)
  /-- `kickClient` is done and `loadPlayerInfo` under way. -/
  | loading
  /-- The online info is stored and `addSession` under way. -/
  | recording
  | ended
  deriving DecidableEq

/-- A call of `loginGame`. `connId` is the server it runs on. -/
structure Login where
  player : UserArea
  sessionId : Nat
  connId : String
  phase : Phase
  deriving DecidableEq

/-- A call of `kickClientOffline` that is under way to the server `info` names. -/
structure Kick where
  player : UserArea
  info : OnlineInfo
  deriving DecidableEq

structure World where
  nextSId : Nat
  /-- The server of an open session. -/
  sockets : Nat → Option String
  onlineInfo : UserArea → Option OnlineInfo
  /-- The session records: `connId` and the player. -/
  sessions : Nat → Option (String × UserArea)
  sessionMap : String → LimitMap Entry
  logins : List Login
  kicks : List Kick

def World.init : World := ⟨0, fun _ => none, fun _ => none, fun _ => none, fun _ => LimitMap.new connectServerLimit, [], []⟩

/-- `closeClient` on a server closes a session that is open there. -/
def World.closeClient (world : World) (info : OnlineInfo) : World :=
  if world.sockets info.sessionId = some info.connId then
    { world with sockets := Function.update world.sockets info.sessionId none }
  else world

/-- Kicks the session that is recorded, here or on its server. -/
def World.kickClient (world : World) (login : Login) (info : OnlineInfo) : World :=
  if login.connId = info.connId then world.closeClient info
  else { world with kicks := world.kicks ++ [⟨login.player, info⟩] }

def World.setSession (world : World) (login : Login) : World :=
  let sessionMap := Conn.setSession login.player (toString login.sessionId) (world.sessionMap login.connId)
  { world with sessionMap := Function.update world.sessionMap login.connId sessionMap }

/-- The next step of a login, with its phase afterwards. `ok` tells whether the command to redis passes. A read
that fails is taken for an answer that there is nothing. -/
def World.advance (world : World) (login : Login) (ok : Bool) : World × Phase :=
  match login.phase with
  | .asked => (world, .told (if ok then world.onlineInfo login.player else none))
  | .told none => (world, .loading)
  | .told (some info) => (world.kickClient login info, .loading)
  | .loading =>
    if ok then
      ({ world with onlineInfo := Function.update world.onlineInfo login.player (some ⟨login.sessionId, login.connId⟩) }, .recording)
    else (world, .ended)
  | .recording =>
    (World.setSession (if ok then
        { world with sessions := Function.update world.sessions login.sessionId (some (login.connId, login.player)) }
      else world) login, .ended)
  | .ended => (world, .ended)

inductive Step
  /-- A client connects to the server. -/
  | createSession (connId : String)
  | loginGame (sessionId : Nat) (player : UserArea)
  /-- The next step of the login at a place of the list. -/
  | advance (i : Nat) (ok : Bool)
  /-- A kick arrives at its server. -/
  | kickClientOffline (j : Nat)
  /-- The client has left, or was not heard of for long. -/
  | destroy (sessionId : Nat)
  /-- A session record goes: `delSession` after a `destroy`, or it was too old. -/
  | delSession (sessionId : Nat)
  /-- `delOnlineInfo` of an `exitGame`. -/
  | exitGame (player : UserArea)

def move (world : World) : Step → World
  | .createSession connId =>
    { world with nextSId := world.nextSId + 1, sockets := Function.update world.sockets (world.nextSId + 1) (some connId) }
  | .loginGame sessionId player =>
    match world.sockets sessionId with
    | none => world
    | some connId => { world with logins := world.logins ++ [⟨player, sessionId, connId, .asked⟩] }
  | .advance i ok =>
    match world.logins[i]? with
    | none => world
    | some login =>
      let next := world.advance login ok
      { next.1 with logins := next.1.logins.set i { login with phase := next.2 } }
  | .kickClientOffline j =>
    match world.kicks[j]? with
    | none => world
    | some kick => { world.closeClient kick.info with kicks := world.kicks.eraseIdx j }
  | .destroy sessionId => { world with sockets := Function.update world.sockets sessionId none }
  | .delSession sessionId => { world with sessions := Function.update world.sessions sessionId none }
  | .exitGame player => { world with onlineInfo := Function.update world.onlineInfo player none }

/-! ### What is meant -/

/-- The session is open, and its record names the player. -/
def World.Bound (world : World) (sessionId : Nat) (player : UserArea) : Prop :=
  (world.sockets sessionId).isSome = true ∧ (world.sessions sessionId).map Prod.snd = some player

/-- Nobody logs in as the player: each login has ended, its kick included. -/
def World.Settled (world : World) (player : UserArea) : Prop :=
  (∀ login ∈ world.logins, login.player = player → login.phase = .ended) ∧ ∀ kick ∈ world.kicks, kick.player ≠ player

/-- At most one open session is bound to the player, and it is the one redis names. -/
def OneLive (world : World) (player : UserArea) : Prop :=
  world.Settled player →
    (∀ sessionId other, world.Bound sessionId player → world.Bound other player → sessionId = other) ∧
      ∀ sessionId, world.Bound sessionId player → (world.onlineInfo player).map OnlineInfo.sessionId = some sessionId

/-- The login has read the online info and not ended yet. -/
def Login.Busy (login : Login) : Prop := login.phase ≠ .asked ∧ login.phase ≠ .ended

instance (login : Login) : Decidable login.Busy := inferInstanceAs (Decidable (_ ∧ _))

/-- The online info of a player is read, without failure, when no other login of the player has read it and not
ended, its kick included; and it is deleted when no open session is bound to the player nor about to be. -/
def Orderly (world : World) : Step → Prop
  | .advance i ok => ∀ login, world.logins[i]? = some login → login.phase = .asked →
    ok = true ∧ (∀ other ∈ world.logins, other.player = login.player → ¬ other.Busy) ∧
      ∀ kick ∈ world.kicks, kick.player ≠ login.player
  | .exitGame player =>
    (∀ sessionId, ¬ world.Bound sessionId player) ∧ ∀ login ∈ world.logins, login.player = player → login.phase ≠ .recording
  | _ => True

end Tinygame.Conn
