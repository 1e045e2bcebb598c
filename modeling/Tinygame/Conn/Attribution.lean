import Tinygame.Conn.Chat
import Tinygame.Conn.LoadNums

/-!
# Whose messages arrive where

A message is stamped with the player of the sender's session record, and a session record, the online info and the
session maps are only written by logins. So whatever else goes on, a message is from a player as whom its session has
logged in, and it reaches sessions that have logged in as whom it is for.
-/

namespace Tinygame.Conn

variable {world : World} {player : UserArea} {sessionId : Nat}

/-! ### What the logins have written -/

/-- The sessions that have called `loginGame`, with the players. -/
def World.comers (world : World) : List (Nat × UserArea) := world.logins.map fun login => (login.sessionId, login.player)

/-- What is stored of sessions and players comes from logins. -/
structure Sourced (world : World) : Prop where
  records : ∀ sessionId connId player, world.sessions sessionId = some (connId, player) → (sessionId, player) ∈ world.comers
  online : ∀ player info, world.onlineInfo player = some info → (info.sessionId, player) ∈ world.comers
  mapped : ∀ connId uuid entry, (world.sessionMap connId).get uuid = some entry →
    ∃ sessionId, toString sessionId = entry.sessionId ∧ (sessionId, ⟨entry.area, uuid⟩) ∈ world.comers

theorem sourced_init : Sourced World.init where
  records _ _ _ found := by cases found
  online _ _ found := by cases found
  mapped _ _ _ found := by cases found

theorem comers_set {i : Nat} {login : Login} (there : world.logins[i]? = some login) (phase : Phase) :
    (world.logins.set i { login with phase }).map (fun login => (login.sessionId, login.player)) = world.comers := by
  obtain ⟨inside, rfl⟩ := List.getElem?_eq_some_iff.mp there
  unfold World.comers
  rw [List.map_set]
  apply List.ext_getElem?
  intro k
  by_cases same : i = k
  · subst same
    simp [inside]
  · rw [List.getElem?_set_ne same]

theorem closeClient_sessionMap (world : World) (info : OnlineInfo) : (world.closeClient info).sessionMap = world.sessionMap := by
  unfold World.closeClient
  split <;> rfl

theorem kickClient_sessionMap (world : World) (login : Login) (info : OnlineInfo) :
    (world.kickClient login info).sessionMap = world.sessionMap := by
  unfold World.kickClient
  split
  · exact closeClient_sessionMap world info
  · rfl

theorem comers_move (world : World) (step : Step) : (move world step).comers = world.comers ∨
    ∃ sessionId player, step = .loginGame sessionId player ∧ (move world step).comers = world.comers ++ [(sessionId, player)] := by
  cases step with
  | loginGame sessionId player =>
    unfold move
    dsimp only
    split
    · exact .inl rfl
    · exact .inr ⟨sessionId, player, rfl, List.map_append⟩
  | advance i ok =>
    apply Or.inl
    unfold move
    dsimp only
    split
    · rfl
    · rename_i login there
      show ((world.advance login ok).1.logins.set i _).map _ = _
      rw [advance_logins, comers_set there]
  | kickClientOffline j =>
    apply Or.inl
    unfold move
    dsimp only
    split
    · rfl
    · rename_i kick _
      show (world.closeClient kick.info).logins.map _ = _
      rw [(closeClient_rest world kick.info).2.2.2.1]
      rfl
  | createSession connId => exact .inl rfl
  | destroy sessionId => exact .inl rfl
  | delSession sessionId => exact .inl rfl
  | exitGame player => exact .inl rfl

theorem mem_comers_move (step : Step) : (sessionId, player) ∈ (move world step).comers ↔
    (sessionId, player) ∈ world.comers ∨ (sessionId, player) ∈ (move world step).comers ∧ step = .loginGame sessionId player := by
  rcases comers_move world step with same | ⟨other, comer, rfl, grown⟩
  · rw [same]
    exact ⟨.inl, fun came => came.elim id And.left⟩
  · rw [grown, List.mem_append, List.mem_singleton]
    constructor
    · rintro (before | new)
      · exact .inl before
      · obtain ⟨rfl, rfl⟩ := Prod.mk.inj new
        exact .inr ⟨.inr rfl, rfl⟩
    · rintro (before | ⟨came, -⟩)
      · exact .inl before
      · exact came

/-- What is stored has been stored before, or names a session and a player that came. -/
theorem Sourced.later {world' : World} (sourced : Sourced world) (comers : ∀ comer ∈ world.comers, comer ∈ world'.comers)
    (records : ∀ sessionId record, world'.sessions sessionId = some record →
      world.sessions sessionId = some record ∨ (sessionId, record.2) ∈ world.comers)
    (online : ∀ player info, world'.onlineInfo player = some info →
      world.onlineInfo player = some info ∨ (info.sessionId, player) ∈ world.comers)
    (mapped : ∀ connId uuid entry, (world'.sessionMap connId).get uuid = some entry → (world.sessionMap connId).get uuid = some entry ∨
      ∃ sessionId, toString sessionId = entry.sessionId ∧ (sessionId, ⟨entry.area, uuid⟩) ∈ world.comers) : Sourced world' where
  records sessionId connId player found := by
    apply comers
    rcases records sessionId _ found with before | came
    · exact sourced.records sessionId connId player before
    · exact came
  online player info found := by
    apply comers
    rcases online player info found with before | came
    · exact sourced.online player info before
    · exact came
  mapped connId uuid entry found := by
    obtain ⟨sessionId, same, came⟩ : ∃ sessionId, toString sessionId = entry.sessionId ∧ (sessionId, (⟨entry.area, uuid⟩ : UserArea)) ∈ world.comers := by
      rcases mapped connId uuid entry found with before | came
      · exact sourced.mapped connId uuid entry before
      · exact came
    exact ⟨sessionId, same, comers _ came⟩

theorem sourced_same {world' : World} (sourced : Sourced world) (comers : ∀ comer ∈ world.comers, comer ∈ world'.comers)
    (records : ∀ sessionId record, world'.sessions sessionId = some record → world.sessions sessionId = some record)
    (online : ∀ player info, world'.onlineInfo player = some info → world.onlineInfo player = some info)
    (mapped : world'.sessionMap = world.sessionMap) : Sourced world' :=
  sourced.later comers (fun sessionId record found => .inl (records sessionId record found))
    (fun player info found => .inl (online player info found)) fun _ _ _ found => .inl (mapped ▸ found)

/-- `setSession` files the session of the login under its uuid. -/
theorem mapped_setSession (login : Login) (connId uuid : String) (entry : Entry)
    (found : ((world.setSession login).sessionMap connId).get uuid = some entry) :
    (world.sessionMap connId).get uuid = some entry ∨
      toString login.sessionId = entry.sessionId ∧ login.player = ⟨entry.area, uuid⟩ := by
  replace found : (Function.update world.sessionMap login.connId _ connId).get uuid = some entry := found
  by_cases here : connId = login.connId
  · subst here
    rw [Function.update_self] at found
    by_cases own : uuid = login.player.uuid
    · subst own
      unfold Conn.setSession at found
      rw [LimitMap.get_set_self] at found
      obtain rfl := Option.some.inj found
      exact .inr ⟨rfl, rfl⟩
    · exact .inl (LimitMap.get_of_get_set own found)
  · rw [Function.update_of_ne here] at found
    exact .inl found

theorem sourced_advance (sourced : Sourced world) (i : Nat) (ok : Bool) : Sourced (move world (.advance i ok)) := by
  have comers : ∀ comer ∈ world.comers, comer ∈ (move world (.advance i ok)).comers := fun _ came => mem_comers_move _ |>.mpr (.inl came)
  unfold move at comers ⊢
  dsimp only at comers ⊢
  split at comers
  · exact sourced
  rename_i login there
  have came : (login.sessionId, login.player) ∈ world.comers := List.mem_map_of_mem (List.mem_of_getElem? there)
  unfold World.advance at comers ⊢
  cases phase : login.phase with
  | asked => exact sourced_same sourced (by simpa only [phase] using comers) (fun _ _ found => found) (fun _ _ found => found) rfl
  | told myOnlineInfo =>
    cases myOnlineInfo with
    | none => exact sourced_same sourced (by simpa only [phase] using comers) (fun _ _ found => found) (fun _ _ found => found) rfl
    | some info =>
      obtain ⟨-, online, sessions, -⟩ := kickClient_rest world login info
      refine sourced_same sourced (by simpa only [phase] using comers) (fun _ _ found => ?_) (fun _ _ found => ?_)
        (kickClient_sessionMap world login info)
      · exact sessions ▸ found
      · exact online ▸ found
  | loading =>
    rw [phase] at comers
    cases ok with
    | false => exact sourced_same sourced comers (fun _ _ found => found) (fun _ _ found => found) rfl
    | true =>
      refine sourced.later comers (fun _ _ found => .inl found) (fun player info found => ?_) fun _ _ _ found => .inl found
      by_cases own : player = login.player
      · subst own
        have stored := (Function.update_self ..).symm.trans found
        obtain rfl := Option.some.inj stored
        exact .inr came
      · exact .inl ((Function.update_of_ne own ..).symm.trans found)
  | recording =>
    rw [phase] at comers
    refine sourced.later comers (fun sessionId record found => ?_) (fun player info found => ?_) fun connId uuid entry found => ?_
    · cases ok with
      | false => exact .inl found
      | true =>
        by_cases own : sessionId = login.sessionId
        · subst own
          have stored := (Function.update_self ..).symm.trans found
          obtain rfl := Option.some.inj stored
          exact .inr came
        · exact .inl ((Function.update_of_ne own ..).symm.trans found)
    · cases ok <;> exact .inl found
    · have filed : (world.sessionMap connId).get uuid = some entry ∨
          toString login.sessionId = entry.sessionId ∧ login.player = ⟨entry.area, uuid⟩ := by
        apply mapped_setSession login
        cases ok <;> exact found
      rcases filed with before | ⟨same, named⟩
      · exact .inl before
      · exact .inr ⟨login.sessionId, same, named ▸ came⟩
  | ended => exact sourced_same sourced (by simpa only [phase] using comers) (fun _ _ found => found) (fun _ _ found => found) rfl

theorem sourced_move (sourced : Sourced world) (step : Step) : Sourced (move world step) := by
  have comers : ∀ comer ∈ world.comers, comer ∈ (move world step).comers := fun _ came => mem_comers_move _ |>.mpr (.inl came)
  cases step with
  | createSession connId => exact sourced_same sourced comers (fun _ _ found => found) (fun _ _ found => found) rfl
  | loginGame sessionId player =>
    unfold move at comers ⊢
    dsimp only at comers ⊢
    split at comers
    · exact sourced
    · exact sourced_same sourced comers (fun _ _ found => found) (fun _ _ found => found) rfl
  | advance i ok => exact sourced_advance sourced i ok
  | kickClientOffline j =>
    unfold move at comers ⊢
    dsimp only at comers ⊢
    split at comers
    · exact sourced
    · rename_i kick _
      obtain ⟨-, online, sessions, -, -⟩ := closeClient_rest world kick.info
      refine sourced_same sourced comers (fun _ _ found => ?_) (fun _ _ found => ?_) (closeClient_sessionMap world kick.info)
      · exact sessions ▸ found
      · exact online ▸ found
  | destroy sessionId => exact sourced_same sourced comers (fun _ _ found => found) (fun _ _ found => found) rfl
  | delSession sessionId =>
    refine sourced_same sourced comers (fun other record found => ?_) (fun _ _ found => found) rfl
    by_cases same : other = sessionId
    · subst same
      cases (Function.update_self ..).symm.trans found
    · exact (Function.update_of_ne same ..).symm.trans found
  | exitGame player =>
    refine sourced_same sourced comers (fun _ _ found => found) (fun other info found => ?_) rfl
    by_cases same : other = player
    · subst same
      cases (Function.update_self ..).symm.trans found
    · exact (Function.update_of_ne same ..).symm.trans found

/-! ### What is under way -/

/-- The call was made with the session and the arguments of the talk. -/
def Chat.Called (chat : Chat) (call : Nat) (talk : Talk) : Prop := ∃ phase, chat.talks[call]? = some { talk with phase }

/-- The message is that of the talk, stamped with a player as whom its session came. -/
structure Chat.Stamped (chat : Chat) (call : Nat) (talk : Talk) (inArgs : RecvInArgs) : Prop where
  called : chat.Called call talk
  came : (talk.sessionId, ⟨inArgs.area, inArgs.uuid⟩) ∈ chat.world.comers
  carried : inArgs = talk.recvInArgs ⟨inArgs.area, inArgs.uuid⟩

/-- Where messages of each type are pushed. -/
def Target.Fits (chat : Chat) (talk : Talk) : Target → Prop
  | .yourSessionId sessionId => talk.inArgs.type = IM_MY_MSG_TO_YOU ∧ (sessionId, talk.addressee) ∈ chat.world.comers
  | .area => talk.inArgs.type = IM_MY_MSG_IN_AREA
  | .everyone => talk.inArgs.type = IM_ANNOUNCE

/-- Whom messages of each type reach. -/
def Reached (chat : Chat) (talk : Talk) (inArgs : RecvInArgs) (sessionId : Nat) : Prop :=
  (talk.inArgs.type = IM_MY_MSG_TO_YOU ∧ (sessionId, talk.addressee) ∈ chat.world.comers) ∨
    (talk.inArgs.type = IM_MY_MSG_IN_AREA ∧ ∃ uuid, (sessionId, ⟨inArgs.area, uuid⟩) ∈ chat.world.comers) ∨
    talk.inArgs.type = IM_ANNOUNCE ∧ ∃ player, (sessionId, player) ∈ chat.world.comers

/-- A call that still waits for redis has a type that is sent, and if it knows the sender, he came through its session. -/
structure Talk.Apt (chat : Chat) (talk : Talk) : Prop where
  typed : talk.phase = .session → talk.inArgs.type ∈ [IM_MY_MSG_TO_YOU, IM_MY_MSG_IN_MY_TEAM, IM_MY_MSG_IN_AREA, IM_ANNOUNCE]
  known : ∀ sender, talk.phase = .online sender → talk.inArgs.type = IM_MY_MSG_TO_YOU ∧ (talk.sessionId, sender) ∈ chat.world.comers

def Push.Apt (chat : Chat) (push : Push) : Prop := ∃ talk, chat.Stamped push.call talk push.inArgs ∧ push.target.Fits chat talk

def Received.Apt (chat : Chat) (r : Received) : Prop :=
  r.msg.state = LOGIN_ON ∧ ∃ talk, chat.Stamped r.call talk r.msg.toRecvInArgs ∧ Reached chat talk r.msg.toRecvInArgs r.sessionId

structure Attributed (chat : Chat) : Prop where
  sourced : Sourced chat.world
  talks : ∀ talk ∈ chat.talks, talk.Apt chat
  pushes : ∀ push ∈ chat.pushes, push.Apt chat
  received : ∀ r ∈ chat.received, r.Apt chat

section
variable {chat chat' : Chat} {call : Nat} {talk : Talk} {inArgs : RecvInArgs}

/-- Calls and logins are not taken back. -/
structure Chat.Later (chat chat' : Chat) : Prop where
  comers : ∀ comer ∈ chat.world.comers, comer ∈ chat'.world.comers
  talks : ∀ (call : Nat) (talk : Talk), chat.talks[call]? = some talk → chat'.Called call talk

theorem Chat.Later.called (later : chat.Later chat') (called : chat.Called call talk) : chat'.Called call talk := by
  obtain ⟨phase, there⟩ := called
  obtain ⟨phase', there'⟩ := later.talks call _ there
  exact ⟨phase', there'⟩

theorem Chat.Later.stamped (later : chat.Later chat') (stamped : chat.Stamped call talk inArgs) : chat'.Stamped call talk inArgs :=
  ⟨later.called stamped.called, later.comers _ stamped.came, stamped.carried⟩

theorem Chat.Later.fits (later : chat.Later chat') {target : Target} (fits : target.Fits chat talk) : target.Fits chat' talk := by
  cases target with
  | yourSessionId sessionId => exact ⟨fits.1, later.comers _ fits.2⟩
  | area => exact fits
  | everyone => exact fits

theorem Chat.Later.reached (later : chat.Later chat') (reached : Reached chat talk inArgs sessionId) : Reached chat' talk inArgs sessionId := by
  rcases reached with ⟨type, came⟩ | ⟨type, uuid, came⟩ | ⟨type, player, came⟩
  · exact .inl ⟨type, later.comers _ came⟩
  · exact .inr (.inl ⟨type, uuid, later.comers _ came⟩)
  · exact .inr (.inr ⟨type, player, later.comers _ came⟩)

theorem later_talks (world : chat'.world = chat.world) (talks : chat'.talks = chat.talks) : chat.Later chat' where
  comers _ came := world ▸ came
  talks _ talk there := ⟨talk.phase, talks ▸ there⟩

/-- A change that answers for what it adds. -/
theorem Attributed.later (attributed : Attributed chat) (later : chat.Later chat') (sourced : Sourced chat'.world)
    (talks : ∀ talk ∈ chat'.talks, talk ∈ chat.talks ∨ talk.Apt chat) (pushes : ∀ push ∈ chat'.pushes, push ∈ chat.pushes ∨ push.Apt chat)
    (received : ∀ r ∈ chat'.received, r ∈ chat.received ∨ r.Apt chat) : Attributed chat' where
  sourced := sourced
  talks talk there := by
    have apt : talk.Apt chat := (talks talk there).elim (attributed.talks talk) id
    refine ⟨apt.typed, fun sender phase => ?_⟩
    obtain ⟨type, came⟩ := apt.known sender phase
    exact ⟨type, later.comers _ came⟩
  pushes push there := by
    obtain ⟨talk, stamped, fits⟩ : push.Apt chat := (pushes push there).elim (attributed.pushes push) id
    exact ⟨talk, later.stamped stamped, later.fits fits⟩
  received r there := by
    obtain ⟨state, talk, stamped, reached⟩ : r.Apt chat := (received r there).elim (attributed.received r) id
    exact ⟨state, talk, later.stamped stamped, later.reached reached⟩

theorem Attributed.fewer (attributed : Attributed chat) (world : chat'.world = chat.world) (talks : chat'.talks = chat.talks)
    (pushes : ∀ push ∈ chat'.pushes, push ∈ chat.pushes) (received : chat'.received = chat.received) : Attributed chat' := by
  refine attributed.later (later_talks world talks) (world ▸ attributed.sourced) (fun talk there => .inl (talks ▸ there))
    (fun push there => .inl (pushes push there)) fun r there => .inl (received ▸ there)

theorem openSession_spelled {connId id : String} (found : chat.world.openSession connId id = some sessionId) : toString sessionId = id := by
  have matched := List.find?_some found
  exact (of_decide_eq_true matched).1

/-- What a conn server sends on reaches whom it is for. -/
theorem recvMsgFromServer_reached (attributed : Attributed chat) {push : Push} (there : push ∈ chat.pushes) {r : Received}
    (sent : r ∈ chat.world.recvMsgFromServer push) : r.Apt chat := by
  unfold World.recvMsgFromServer at sent
  obtain ⟨id, recipient, found⟩ := List.mem_filterMap.mp sent
  obtain ⟨sessionId, isOpen, rfl⟩ := Option.map_eq_some_iff.mp found
  have spelled := openSession_spelled isOpen
  obtain ⟨talk, stamped, fits⟩ := attributed.pushes push there
  refine ⟨rfl, talk, stamped, ?_⟩
  -- an id in the session map is that of a session that came
  have filed {uuid : String} {entry : Entry} (found : (chat.world.sessionMap push.connId).get uuid = some entry)
      (same : entry.sessionId = id) : (sessionId, (⟨entry.area, uuid⟩ : UserArea)) ∈ chat.world.comers := by
    obtain ⟨other, spelled', came⟩ := attributed.sourced.mapped push.connId uuid entry found
    obtain rfl : other = sessionId := toString_number.mp ((spelled'.trans same).trans spelled.symm)
    exact came
  unfold World.recipients at recipient
  cases target : push.target with
  | yourSessionId named =>
    rw [target] at recipient fits
    have same : id = toString named := List.mem_singleton.mp recipient
    obtain rfl : sessionId = named := toString_number.mp (spelled.trans same)
    exact .inl fits
  | area =>
    rw [target] at recipient fits
    obtain ⟨uuid, found⟩ := mem_recipients.mp recipient
    exact .inr (.inl ⟨fits, uuid, filed found rfl⟩)
  | everyone =>
    rw [target] at recipient fits
    obtain ⟨⟨uuid, entry⟩, there, same⟩ := List.mem_map.mp recipient
    exact .inr (.inr ⟨fits, _, filed (AList.mem_lookup_iff.mpr there) same⟩)

theorem talkOn_later {phase : TalkPhase} {pushes : List Push} {answers : List Answer} (there : chat.talks[call]? = some talk) :
    chat.Later { chat with talks := chat.talks.set call { talk with phase }, pushes, answers } where
  comers _ came := came
  talks other before there' := by
    by_cases same : call = other
    · subst same
      obtain rfl := Option.some.inj (there.symm.trans there')
      exact ⟨phase, List.getElem?_set_self (List.getElem?_eq_some_iff.mp there).1⟩
    · exact ⟨before.phase, (List.getElem?_set_ne same).trans there'⟩

/-- What a step of a call comes to is apt. -/
structure Onward.Apt (chat : Chat) (talk : Talk) (onward : Onward) : Prop where
  talk : Talk.Apt chat { talk with phase := onward.phase }
  pushes : ∀ push ∈ onward.pushes, push.Apt chat

theorem errorAnswer_apt (chat : Chat) (call : Nat) (talk : Talk) (errCode : Int) : (errorAnswer call errCode).Apt chat talk where
  talk := ⟨fun phase => (by cases phase), fun _ phase => (by cases phase)⟩
  pushes _ there := absurd there List.not_mem_nil

theorem sendMsg_apt (called : chat.Called call talk) {sender : UserArea} (came : (talk.sessionId, sender) ∈ chat.world.comers)
    (type : talk.inArgs.type ∈ [IM_MY_MSG_TO_YOU, IM_MY_MSG_IN_MY_TEAM, IM_MY_MSG_IN_AREA, IM_ANNOUNCE]) (connIds : List String) :
    (sendMsg call talk sender connIds).Apt chat talk := by
  have stamped : chat.Stamped call talk (talk.recvInArgs sender) := ⟨called, came, rfl⟩
  unfold sendMsg
  split
  · rename_i toYou
    refine ⟨⟨fun phase => (by cases phase), fun other phase => ⟨toYou, ?_⟩⟩, fun _ there => absurd there List.not_mem_nil⟩
    obtain rfl := TalkPhase.online.inj phase
    exact came
  split
  · exact ⟨⟨fun phase => (by cases phase), fun _ phase => (by cases phase)⟩, fun _ there => absurd there List.not_mem_nil⟩
  split
  · rename_i inArea
    refine ⟨⟨fun phase => (by cases phase), fun _ phase => (by cases phase)⟩, fun push there => ?_⟩
    obtain ⟨connId, -, rfl⟩ := List.mem_map.mp there
    exact ⟨talk, stamped, inArea⟩
  · rename_i notYou notTeam notArea
    refine ⟨⟨fun phase => (by cases phase), fun _ phase => (by cases phase)⟩, fun push there => ?_⟩
    obtain ⟨connId, -, rfl⟩ := List.mem_map.mp there
    refine ⟨talk, stamped, ?_⟩
    show talk.inArgs.type = IM_ANNOUNCE
    simpa [notYou, notTeam, notArea] using type

theorem talkOn_apt (attributed : Attributed chat) (there : chat.talks[call]? = some talk) (ok : Bool) (connIds : List String) :
    (chat.world.talkOn call talk ok connIds).Apt chat talk := by
  have called : chat.Called call talk := ⟨talk.phase, there⟩
  have apt : talk.Apt chat := attributed.talks talk (List.mem_of_getElem? there)
  have read {α : Type} {stored : Option α} {value : α} (told : (if ok then stored else none) = some value) : stored = some value := by
    cases ok with
    | true => exact told
    | false => cases told
  unfold World.talkOn
  split
  · rename_i phase
    split
    · exact errorAnswer_apt chat call talk _
    · rename_i connId sender told
      exact sendMsg_apt called (attributed.sourced.records _ _ _ (read told)) (apt.typed phase) connIds
  · rename_i sender phase
    obtain ⟨type, came⟩ := apt.known sender phase
    split
    · exact errorAnswer_apt chat call talk _
    · rename_i info told
      refine ⟨⟨fun same => (by cases same), fun _ same => (by cases same)⟩, fun push there => ?_⟩
      obtain rfl := List.mem_singleton.mp there
      exact ⟨talk, ⟨called, came, rfl⟩, type, attributed.sourced.online _ info (read told)⟩
  · exact ⟨apt, fun _ there => absurd there List.not_mem_nil⟩

theorem attributed_init : Attributed Chat.init where
  sourced := sourced_init
  talks _ there := absurd there List.not_mem_nil
  pushes _ there := absurd there List.not_mem_nil
  received _ there := absurd there List.not_mem_nil

theorem attributed_sendMsgToServer (attributed : Attributed chat) (sessionId : Nat) (inArgs : SendArgs) :
    Attributed (sendMsgToServer chat sessionId inArgs) := by
  have grown (talk : Talk) (apt : talk.Apt chat) (answers : List Answer) : Attributed { chat with talks := chat.talks ++ [talk], answers } := by
    refine attributed.later ⟨fun _ came => came, fun call before there => ?_⟩ attributed.sourced (fun other there => ?_)
      (fun _ there => .inl there) fun _ there => .inl there
    · exact ⟨before.phase, (List.getElem?_append_left (List.getElem?_eq_some_iff.mp there).1).trans there⟩
    · rcases List.mem_append.mp there with before | new
      · exact .inl before
      · obtain rfl := List.mem_singleton.mp new
        exact .inr apt
  unfold sendMsgToServer
  split
  · rename_i type
    exact grown _ ⟨fun _ => type, fun _ phase => (by cases phase)⟩ _
  · exact grown _ ⟨fun phase => (by cases phase), fun _ phase => (by cases phase)⟩ _

theorem attributed_onReply (attributed : Attributed chat) (reply : Reply) (there : chat.talks[reply.call]? = some talk) :
    Attributed (onReply chat talk reply) := by
  unfold onReply
  split
  · refine attributed.later (talkOn_later there) attributed.sourced (fun other member => ?_) (fun _ there => .inl there) fun _ there => .inl there
    rcases List.mem_or_eq_of_mem_set member with before | rfl
    · exact .inl before
    · exact .inr ⟨fun phase => (by cases phase), fun _ phase => (by cases phase)⟩
  split
  · exact attributed.fewer rfl rfl (fun _ there => there) rfl
  · exact attributed

theorem attributed_move (attributed : Attributed chat) (step : ChatStep) : Attributed (chat.move step) := by
  unfold Chat.move
  cases step with
  | login step =>
    refine attributed.later ⟨fun _ came => (mem_comers_move step).mpr (.inl came), fun _ talk there => ⟨talk.phase, there⟩⟩ (sourced_move attributed.sourced step)
      (fun _ there => .inl there) (fun _ there => .inl there) fun _ there => .inl there
  | sendMsgToServer sessionId inArgs =>
    dsimp only
    split
    · exact attributed_sendMsgToServer attributed sessionId inArgs
    · exact attributed
  | talkOn call ok connIds =>
    dsimp only
    split
    · exact attributed
    rename_i talk there
    have apt := talkOn_apt attributed there ok connIds
    refine attributed.later (talkOn_later there) attributed.sourced (fun other member => ?_) (fun push member => ?_) fun _ there => .inl there
    · rcases List.mem_or_eq_of_mem_set member with before | rfl
      · exact .inl before
      · exact .inr apt.talk
    · rcases List.mem_append.mp member with before | new
      · exact .inl before
      · exact .inr (apt.pushes push new)
  | push j =>
    dsimp only
    split
    · exact attributed
    rename_i push there
    have member := List.mem_of_getElem? there
    refine attributed.later (later_talks rfl rfl) attributed.sourced (fun _ there => .inl there)
      (fun _ there => .inl (List.mem_of_mem_eraseIdx there)) fun r arrived => ?_
    rcases List.mem_append.mp arrived with before | new
    · exact .inl before
    · exact .inr (recvMsgFromServer_reached attributed member new)
  | lost j told =>
    dsimp only
    split
    · exact attributed
    · exact attributed.fewer rfl rfl (fun _ there => List.mem_of_mem_eraseIdx there) rfl
  | reply j =>
    dsimp only
    split
    · exact attributed
    have dropped (replies : List Reply) : Attributed { chat with replies } := attributed.fewer rfl rfl (fun _ there => there) rfl
    split
    · exact dropped _
    · rename_i talk there
      exact attributed_onReply (dropped _) _ there

end

end Tinygame.Conn
