import Tinygame.Conn.ChatAccount

/-!
# Private messages arrive

When the online info of the addressee is read while nobody is logging in as him, it names his one live session. As long as
that session stays open, the message arrives there, once, whatever else goes on.
-/

namespace Tinygame.Conn

variable {chat : Chat} {world : World} {call : Nat} {talk : Talk} {sender : UserArea} {sessionId : Nat} {connId : String}

/-- The logins are orderly. -/
def ChatOrderly (chat : Chat) : ChatStep → Prop
  | .login step => Orderly chat.world step
  | _ => True

/-! ### Sessions -/

theorem world_move (chat : Chat) (step : ChatStep) : (chat.move step).world = chat.world ∨
    ∃ login, step = .login login ∧ (chat.move step).world = move chat.world login := by
  cases step with
  | login login => exact .inr ⟨login, rfl, rfl⟩
  | sendMsgToServer sessionId inArgs =>
    apply Or.inl
    unfold Chat.move sendMsgToServer
    dsimp only
    split
    · split <;> rfl
    · rfl
  | reply j =>
    apply Or.inl
    unfold Chat.move onReply
    dsimp only
    split
    · rfl
    split
    · rfl
    · split
      · rfl
      · split <;> rfl
  | talkOn call ok connIds | push j | lost j told =>
    apply Or.inl
    unfold Chat.move
    dsimp only
    split <;> rfl

theorem sound_chat {steps : List ChatStep} (orderly : Along Chat.move ChatOrderly Chat.init steps) :
    Sound (run Chat.move Chat.init steps).world := by
  refine @run_invariant _ _ Chat.move ChatOrderly (fun chat => Sound chat.world) (fun chat step sound ok => ?_) _ _ sound_init orderly
  rcases world_move chat step with same | ⟨login, rfl, moved⟩
  · rw [same]
    exact sound
  · rw [moved]
    exact sound_move sound ok

/-- A session stays on its server until it is closed, and its number is not given again. -/
theorem sockets_move (step : Step) (made : sessionId ≤ world.nextSId) : sessionId ≤ (move world step).nextSId ∧
    ((move world step).sockets sessionId = world.sockets sessionId ∨ (move world step).sockets sessionId = none) := by
  have closes {world' : World} (shrinks : ∀ connId, world'.sockets sessionId = some connId → world.sockets sessionId = some connId) :
      world'.sockets sessionId = world.sockets sessionId ∨ world'.sockets sessionId = none := by
    cases there : world'.sockets sessionId with
    | none => exact .inr rfl
    | some connId => exact .inl (shrinks connId there).symm
  cases step with
  | createSession connId =>
    refine ⟨Nat.le_succ_of_le made, .inl ?_⟩
    exact Function.update_of_ne (by omega) ..
  | loginGame other player =>
    unfold move
    dsimp only
    split <;> exact ⟨made, .inl rfl⟩
  | advance i ok =>
    unfold move
    dsimp only
    split
    · exact ⟨made, .inl rfl⟩
    rename_i login there
    show sessionId ≤ (world.advance login ok).1.nextSId ∧ ((world.advance login ok).1.sockets sessionId = _ ∨
      (world.advance login ok).1.sockets sessionId = none)
    unfold World.advance
    split
    · exact ⟨made, .inl rfl⟩
    · exact ⟨made, .inl rfl⟩
    · rename_i info _
      exact ⟨(kickClient_rest world login info).1.symm ▸ made, closes (kickClient_sockets world login info sessionId)⟩
    · split <;> exact ⟨made, .inl rfl⟩
    · unfold World.setSession
      split <;> exact ⟨made, .inl rfl⟩
    · exact ⟨made, .inl rfl⟩
  | kickClientOffline j =>
    unfold move
    dsimp only
    split
    · exact ⟨made, .inl rfl⟩
    · rename_i kick there
      exact ⟨(closeClient_rest world kick.info).1.symm ▸ made, closes (closeClient_sockets world kick.info sessionId)⟩
  | destroy other =>
    refine ⟨made, ?_⟩
    by_cases same : sessionId = other
    · subst same
      exact .inr (Function.update_self ..)
    · exact .inl (Function.update_of_ne same ..)
  | delSession other => exact ⟨made, .inl rfl⟩
  | exitGame player => exact ⟨made, .inl rfl⟩

/-- What is pushed to an open session is sent there. -/
theorem recvMsgFromServer_open (made : sessionId ≤ world.nextSId) (isOpen : world.sockets sessionId = some connId) (call : Nat)
    (inArgs : RecvInArgs) : world.recvMsgFromServer ⟨call, connId, .yourSessionId sessionId, inArgs⟩ =
      [⟨call, sessionId, { inArgs with state := LOGIN_ON }⟩] := by
  have found : world.openSession connId (toString sessionId) = some sessionId := by
    unfold World.openSession
    cases search : (List.range (world.nextSId + 1)).find? fun n => toString n = toString sessionId ∧ world.sockets n = some connId with
    | none =>
      have missed := List.find?_eq_none.mp search sessionId (List.mem_range.mpr (by omega))
      exact absurd (decide_eq_true ⟨rfl, isOpen⟩) missed
    | some other =>
      have matched := List.find?_some search
      rw [show other = sessionId from toString_number.mp (of_decide_eq_true matched).1]
  unfold World.recvMsgFromServer
  show [toString sessionId].filterMap _ = _
  rw [List.filterMap_cons, List.filterMap_nil, found]
  rfl

/-! ### One message -/

theorem filter_eraseIdx {α : Type} {l : List α} {j : Nat} {a : α} (there : l[j]? = some a) (p : α → Bool) :
    ∃ before after, l.filter p = before ++ (if p a = true then [a] else []) ++ after ∧ (l.eraseIdx j).filter p = before ++ after := by
  obtain ⟨inside, rfl⟩ := List.getElem?_eq_some_iff.mp there
  refine ⟨(l.take j).filter p, (l.drop (j + 1)).filter p, ?_, ?_⟩
  · conv_lhs => rw [← List.take_append_drop j l, List.drop_eq_getElem_cons inside]
    rw [List.filter_append, List.filter_cons]
    split <;> simp
  · rw [List.eraseIdx_eq_take_drop_succ, List.filter_append]

/-- The message of the call is on its way to the session, or the session has got it. -/
structure Chat.Carries (chat : Chat) (call sessionId : Nat) (connId : String) (inArgs : RecvInArgs) : Prop where
  spent : ∃ talk, chat.talks[call]? = some talk ∧ talk.phase.due = 1
  aimed : chat.pushes.filter (·.call = call) = [⟨call, connId, .yourSessionId sessionId, inArgs⟩] ∧ chat.received.filter (·.call = call) = [] ∨
    chat.pushes.filter (·.call = call) = [] ∧ chat.received.filter (·.call = call) = [⟨call, sessionId, { inArgs with state := LOGIN_ON }⟩]

/-- The session has been closed, or the message is carried to it. -/
def Chat.Serves (chat : Chat) (call sessionId : Nat) (connId : String) (inArgs : RecvInArgs) : Prop :=
  sessionId ≤ chat.world.nextSId ∧ (chat.world.sockets sessionId = none ∨
    chat.world.sockets sessionId = some connId ∧ chat.Carries call sessionId connId inArgs)

theorem spent_set {other : Nat} {talk' : Talk} (spent : ∃ talk, chat.talks[call]? = some talk ∧ talk.phase.due = 1)
    (there : chat.talks[other]? = some talk') {phase : TalkPhase} (keeps : talk'.phase.due = 1 → phase.due = 1) :
    ∃ talk, (chat.talks.set other { talk' with phase })[call]? = some talk ∧ talk.phase.due = 1 := by
  obtain ⟨talk, known, due⟩ := spent
  by_cases same : other = call
  · subst same
    obtain rfl := Option.some.inj (there.symm.trans known)
    exact ⟨_, List.getElem?_set_self (List.getElem?_eq_some_iff.mp there).1, keeps due⟩
  · exact ⟨talk, (List.getElem?_set_ne same).trans known, due⟩

theorem filter_own {α : Type} {key : α → Nat} {l : List α} {other : Nat} (own : ∀ a ∈ l, key a = other) (different : other ≠ call) :
    l.filter (fun a => key a = call) = [] :=
  List.filter_eq_nil_iff.mpr fun a there same => different ((own a there).symm.trans (of_decide_eq_true same))

/-- A call that has pushed does nothing more. -/
theorem talkOn_spent (spent : talk.phase.due = 1) (world : World) (ok : Bool) (connIds : List String) :
    world.talkOn call talk ok connIds = ⟨talk.phase, [], []⟩ := by
  unfold World.talkOn
  cases phase : talk.phase with
  | session | online => cases (phase ▸ spent : TalkPhase.due _ = 1)
  | pushed | ended => rfl

theorem serves_move {inArgs : RecvInArgs} {step : ChatStep} (serves : chat.Serves call sessionId connId inArgs)
    (kept : ∀ j told, step ≠ .lost j told) : (chat.move step).Serves call sessionId connId inArgs := by
  obtain ⟨made, state⟩ := serves
  -- the logins may close the session, and everything else leaves it
  rcases world_move chat step with same | ⟨login, rfl, moved⟩
  swap
  · obtain ⟨made', stays⟩ := sockets_move login made
    refine ⟨moved ▸ made', ?_⟩
    rw [moved]
    rcases state with closed | ⟨isOpen, carries⟩
    · exact .inl (stays.elim (·.trans closed) id)
    · rcases stays with same | closed
      · exact .inr ⟨same.trans isOpen, ⟨carries.spent, carries.aimed⟩⟩
      · exact .inl closed
  rw [Chat.Serves, same]
  refine ⟨made, state.imp id fun ⟨isOpen, carries⟩ => ⟨isOpen, ?_⟩⟩
  obtain ⟨spent, aimed⟩ := carries
  cases step with
  | login login => exact ⟨spent, aimed⟩
  | lost j told => exact absurd rfl (kept j told)
  | sendMsgToServer other args =>
    have grown (talk : Talk) : ∃ talk', (chat.talks ++ [talk])[call]? = some talk' ∧ talk'.phase.due = 1 := by
      obtain ⟨talk', known, due⟩ := spent
      exact ⟨talk', (List.getElem?_append_left (List.getElem?_eq_some_iff.mp known).1).trans known, due⟩
    unfold Chat.move sendMsgToServer
    dsimp only
    split
    · split <;> exact ⟨grown _, aimed⟩
    · exact ⟨spent, aimed⟩
  | talkOn other ok connIds =>
    unfold Chat.move
    dsimp only
    split
    · exact ⟨spent, aimed⟩
    rename_i talk there
    unfold Chat.talkOn
    have nothing : (chat.world.talkOn other talk ok connIds).pushes.filter (·.call = call) = [] := by
      by_cases own : other = call
      · subst own
        obtain ⟨talk', known, due⟩ := spent
        obtain rfl := Option.some.inj (there.symm.trans known)
        rw [talkOn_spent due]
        rfl
      · exact filter_own (talkOn_due chat.world other talk ok connIds).1 own
    refine ⟨spent_set spent there fun due => ?_, ?_⟩
    · rw [talkOn_spent due]
      exact due
    · dsimp only
      rw [List.filter_append, nothing, List.append_nil]
      exact aimed
  | push j =>
    unfold Chat.move
    dsimp only
    split
    · exact ⟨spent, aimed⟩
    rename_i push there
    refine ⟨spent, ?_⟩
    obtain ⟨before, after, all, rest⟩ := filter_eraseIdx there fun push => decide (push.call = call)
    dsimp only
    rw [List.filter_append, rest]
    by_cases own : push.call = call
    · rw [if_pos (decide_eq_true own)] at all
      rcases aimed with ⟨one, none_⟩ | ⟨none_, -⟩
      · rw [one] at all
        obtain ⟨rfl, rfl, rfl⟩ : before = [] ∧ after = [] ∧ push = ⟨call, connId, .yourSessionId sessionId, inArgs⟩ := by
          cases before with
          | nil =>
            obtain ⟨rfl, rfl⟩ := List.cons.inj all
            exact ⟨rfl, rfl, rfl⟩
          | cons first more => cases more <;> cases List.cons.inj all |>.2
        refine .inr ⟨rfl, ?_⟩
        rw [none_, recvMsgFromServer_open made isOpen]
        simp
      · rw [none_] at all
        cases before <;> cases all
    · rw [if_neg (by simpa using own), List.append_nil] at all
      rw [← all, filter_own (recvMsgFromServer_call chat.world push) own, List.append_nil]
      exact aimed
  | reply j =>
    unfold Chat.move
    dsimp only
    split
    · exact ⟨spent, aimed⟩
    split
    · exact ⟨spent, aimed⟩
    rename_i talk there
    unfold onReply
    split
    · exact ⟨spent_set spent there fun _ => rfl, aimed⟩
    · split <;> exact ⟨spent, aimed⟩

def bob : UserArea := ⟨"1", "bob"⟩

/-- A login from its call to its end. -/
def logsIn (sessionId i : Nat) (player : UserArea) : List ChatStep :=
  .login (.loginGame sessionId player) :: List.replicate 4 (.login (.advance i true))

/-- Ann and Bob log in on two servers, and Ann writes to Bob. -/
def writes : List ChatStep := [.login (.createSession "a"), .login (.createSession "b")] ++ logsIn 1 0 ann ++ logsIn 2 1 bob ++
  [.sendMsgToServer 1 ⟨"1", "bob", IM_MY_MSG_TO_YOU, "hello"⟩, .talkOn 0 true []]

end Tinygame.Conn
