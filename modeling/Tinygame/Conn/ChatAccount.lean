import Tinygame.Conn.Attribution

/-!
# What chat comes to

A call gives rise to at most one private message and one answer: what its phase allows bounds what is under way, has arrived
and has been answered. With what has been written by the logins this tells of every message that a client gets.
-/

namespace Tinygame.Conn

section
variable {chat chat' : Chat} {call : Nat} {talk : Talk} {sessionId : Nat} {player : UserArea}

/-! ### At most once -/

/-- What a call in this phase may have given rise to. -/
def TalkPhase.due : TalkPhase → Nat
  | .session | .online _ => 0
  | .pushed | .ended => 1

def Chat.due (chat : Chat) (call : Nat) : Nat := (chat.talks[call]?).elim 0 fun talk => talk.phase.due

def Chat.copies (chat : Chat) (call : Nat) : Nat :=
  chat.pushes.countP (·.call = call) + chat.received.countP (·.call = call)

def Chat.words (chat : Chat) (call : Nat) : Nat :=
  chat.pushes.countP (·.call = call) + chat.replies.countP (·.call = call) + chat.answers.countP (·.call = call)

/-- A call that there is has a type other than that of private messages, or has given rise to what it may. -/
def Sparing (chat : Chat) : Prop :=
  ∀ call, (∀ talk, chat.talks[call]? = some talk → talk.inArgs.type = IM_MY_MSG_TO_YOU) →
    chat.copies call ≤ chat.due call ∧ chat.words call ≤ chat.due call

theorem countP_eraseIdx {α : Type} {l : List α} {j : Nat} {a : α} (there : l[j]? = some a) (p : α → Bool) :
    (l.eraseIdx j).countP p + (if p a = true then 1 else 0) = l.countP p := by
  obtain ⟨inside, rfl⟩ := List.getElem?_eq_some_iff.mp there
  rw [← (List.getElem_cons_eraseIdx_perm inside).countP_eq p, List.countP_cons]

/-- A step of a call speaks of that call only, and a private one goes no further than its phase. -/
theorem talkOn_due (world : World) (call : Nat) (talk : Talk) (ok : Bool) (connIds : List String) :
    (∀ push ∈ (world.talkOn call talk ok connIds).pushes, push.call = call) ∧
      (∀ answer ∈ (world.talkOn call talk ok connIds).answers, answer.call = call) ∧
      (talk.inArgs.type = IM_MY_MSG_TO_YOU →
        (world.talkOn call talk ok connIds).pushes.length + (world.talkOn call talk ok connIds).answers.length + talk.phase.due ≤
          (world.talkOn call talk ok connIds).phase.due) := by
  unfold World.talkOn
  split
  · rename_i phase
    split
    · simp [errorAnswer, phase, TalkPhase.due]
    · unfold sendMsg sendMyMsgToYou sendMyMsgInMyTeam sendMyMsgInArea sendAnnounce
      split
      · simp [phase, TalkPhase.due]
      · rename_i notYou
        split
        · simp [notYou]
        · split <;> simp [notYou]
  · rename_i sender phase
    split <;> simp [errorAnswer, phase, TalkPhase.due]
  · simp

theorem due_set {phase : TalkPhase} (there : chat.talks[call]? = some talk) (other : Nat) :
    ((chat.talks.set call { talk with phase })[other]?).elim 0 (fun talk => talk.phase.due) =
      if other = call then phase.due else chat.due other := by
  split
  · rename_i same
    rw [same, List.getElem?_set_self (List.getElem?_eq_some_iff.mp there).1]
    rfl
  · rename_i different
    rw [List.getElem?_set_ne (Ne.symm different)]
    rfl

theorem type_of_set {phase : TalkPhase} {other : Nat} (there : chat.talks[call]? = some talk)
    (toYou : ∀ talk', (chat.talks.set call { talk with phase })[other]? = some talk' → talk'.inArgs.type = IM_MY_MSG_TO_YOU) :
    ∀ talk', chat.talks[other]? = some talk' → talk'.inArgs.type = IM_MY_MSG_TO_YOU := by
  intro talk' there'
  by_cases same : other = call
  · subst same
    obtain rfl := Option.some.inj (there.symm.trans there')
    exact toYou { talk with phase } (List.getElem?_set_self (List.getElem?_eq_some_iff.mp there).1)
  · exact toYou talk' ((List.getElem?_set_ne (Ne.symm same)).trans there')

/-- Of a private message a conn server sends on at most one. -/
theorem recvMsgFromServer_once (attributed : Attributed chat) {push : Push} (there : push ∈ chat.pushes)
    (toYou : ∀ talk, chat.talks[push.call]? = some talk → talk.inArgs.type = IM_MY_MSG_TO_YOU) :
    (chat.world.recvMsgFromServer push).length ≤ 1 := by
  obtain ⟨talk, ⟨⟨phase, called⟩, -, -⟩, fits⟩ := attributed.pushes push there
  have type : talk.inArgs.type = IM_MY_MSG_TO_YOU := toYou { talk with phase } called
  apply (List.length_filterMap_le _ _).trans
  unfold World.recipients
  cases target : push.target with
  | yourSessionId sessionId => exact le_refl 1
  | area =>
    rw [target] at fits
    cases type.symm.trans fits
  | everyone =>
    rw [target] at fits
    cases type.symm.trans fits

theorem recvMsgFromServer_call (world : World) (push : Push) : ∀ r ∈ world.recvMsgFromServer push, r.call = push.call := by
  intro r there
  obtain ⟨id, -, found⟩ := List.mem_filterMap.mp there
  obtain ⟨sessionId, -, rfl⟩ := Option.map_eq_some_iff.mp found
  rfl

theorem countP_own {α : Type} {key : α → Nat} {l : List α} (own : ∀ a ∈ l, key a = call) (other : Nat) :
    l.countP (fun a => key a = other) = if other = call then l.length else 0 := by
  split
  · rename_i same
    exact List.countP_eq_length.mpr fun a there => decide_eq_true ((own a there).trans same.symm)
  · rename_i different
    exact List.countP_eq_zero.mpr fun a there same => different ((of_decide_eq_true same).symm.trans (own a there))

theorem sparing_sendMsgToServer (sparing : Sparing chat) (sessionId : Nat) (inArgs : SendArgs) : Sparing (sendMsgToServer chat sessionId inArgs) := by
  have old {call : Nat} (talk : Talk) (inside : call ≠ chat.talks.length) : (chat.talks ++ [talk])[call]? = chat.talks[call]? := by
    by_cases short : call < chat.talks.length
    · exact List.getElem?_append_left short
    · rw [List.getElem?_eq_none (by simp; omega), List.getElem?_eq_none (by omega)]
  have absent : chat.talks[chat.talks.length]? = none := List.getElem?_eq_none (le_refl _)
  unfold sendMsgToServer
  split
  · intro call toYou
    obtain ⟨copies, words⟩ := sparing call fun talk there => toYou talk (by
      show (chat.talks ++ [_])[call]? = some talk
      rw [List.getElem?_append_left (List.getElem?_eq_some_iff.mp there).1]
      exact there)
    by_cases new : call = chat.talks.length
    · have none_ : chat.due call = 0 := by
        unfold Chat.due
        rw [new, absent]
        rfl
      rw [none_] at copies words
      exact ⟨copies.trans (Nat.zero_le _), words.trans (Nat.zero_le _)⟩
    · have same : Chat.due { chat with talks := chat.talks ++ [⟨sessionId, inArgs, .session⟩] } call = chat.due call :=
        congrArg (fun found : Option Talk => found.elim 0 fun talk => talk.phase.due) (old _ new)
      rw [same]
      exact ⟨copies, words⟩
  · rename_i type
    intro call toYou
    by_cases new : call = chat.talks.length
    · have toYou' := toYou ⟨sessionId, inArgs, .ended⟩ (by
        show (chat.talks ++ [_])[call]? = _
        rw [new]
        exact List.getElem?_concat_length ..)
      exact absurd (List.mem_cons.mpr (.inl toYou')) type
    · obtain ⟨copies, words⟩ := sparing call fun talk there => toYou talk ((old _ new).trans there)
      have same : ((chat.talks ++ [(⟨sessionId, inArgs, .ended⟩ : Talk)])[call]?).elim 0 (fun talk => talk.phase.due) = chat.due call :=
        congrArg (fun found : Option Talk => found.elim 0 fun talk => talk.phase.due) (old _ new)
      refine ⟨copies.trans_eq same.symm, ?_⟩
      refine le_of_eq_of_le ?_ (words.trans_eq same.symm)
      unfold Chat.words
      dsimp only
      rw [List.countP_append, List.countP_singleton, if_neg (by simpa using Ne.symm new)]
      rfl

theorem sparing_onReply (sparing : Sparing chat) {replies : List Reply} (reply : Reply) (there : chat.talks[reply.call]? = some talk)
    (fewer : ∀ call, replies.countP (·.call = call) + (if reply.call = call then 1 else 0) = chat.replies.countP (·.call = call)) :
    Sparing (onReply { chat with replies } talk reply) := by
  have dropped : Sparing { chat with replies } := by
    intro call toYou
    obtain ⟨copies, words⟩ := sparing call toYou
    refine ⟨copies, words.trans' ?_⟩
    have less := fewer call
    unfold Chat.words
    dsimp only
    omega
  unfold onReply
  split
  · intro call toYou
    obtain ⟨copies, words⟩ := sparing call (type_of_set there toYou)
    have due := @due_set chat reply.call talk .ended there call
    have less := fewer call
    have grown : chat.due call ≤ if call = reply.call then 1 else chat.due call := by
      split
      · rename_i same
        unfold Chat.due
        rw [same, there]
        show talk.phase.due ≤ 1
        cases talk.phase <;> simp [TalkPhase.due]
      · exact le_refl _
    refine ⟨copies.trans (grown.trans_eq due.symm), ?_⟩
    refine le_trans ?_ (words.trans (grown.trans_eq due.symm))
    unfold Chat.words
    dsimp only
    rw [List.countP_append, List.countP_singleton]
    have own : (if reply.retCode = Parse.SUCCESS then ⟨reply.call, Parse.SUCCESS, some reply.state⟩
        else ⟨reply.call, reply.retCode, some LOGIN_OFF⟩ : Answer).call = reply.call := by
      split <;> rfl
    simp only [own, decide_eq_true_eq]
    omega
  split
  · rename_i notYou _
    intro call toYou
    obtain ⟨copies, words⟩ := dropped call toYou
    by_cases same : reply.call = call
    · exact absurd (toYou talk (same ▸ there)) notYou
    · refine ⟨copies, le_of_eq_of_le ?_ words⟩
      unfold Chat.words
      dsimp only
      rw [List.countP_append, List.countP_singleton, if_neg (by simpa using same)]
      rfl
  · exact dropped

theorem sparing_move (attributed : Attributed chat) (sparing : Sparing chat) (step : ChatStep) : Sparing (chat.move step) := by
  unfold Chat.move
  cases step with
  | login step => exact sparing
  | sendMsgToServer sessionId inArgs =>
    dsimp only
    split
    · exact sparing_sendMsgToServer sparing sessionId inArgs
    · exact sparing
  | talkOn call ok connIds =>
    dsimp only
    split
    · exact sparing
    rename_i talk there
    obtain ⟨ownPushes, ownAnswers, dues⟩ := talkOn_due chat.world call talk ok connIds
    intro other toYou
    have before := type_of_set there toYou
    obtain ⟨copies, words⟩ := sparing other before
    have due : Chat.due (chat.talkOn call talk ok connIds) other = _ := due_set there other
    have pushed := countP_own ownPushes other
    have answered := countP_own ownAnswers other
    have spent : (chat.world.talkOn call talk ok connIds).pushes.countP (·.call = other) +
        (chat.world.talkOn call talk ok connIds).answers.countP (·.call = other) + chat.due other ≤
          Chat.due (chat.talkOn call talk ok connIds) other := by
      rw [pushed, answered, due]
      split
      · rename_i same
        subst same
        have own : chat.due other = talk.phase.due := by
          unfold Chat.due
          rw [there]
          rfl
        rw [own]
        exact dues (before talk there)
      · omega
    unfold Chat.copies Chat.words at *
    unfold Chat.talkOn at spent ⊢
    dsimp only at spent ⊢
    rw [List.countP_append, List.countP_append]
    omega
  | push j =>
    dsimp only
    split
    · exact sparing
    rename_i push there
    intro call toYou
    obtain ⟨copies, words⟩ := sparing call toYou
    have fewer := countP_eraseIdx there fun push => decide (push.call = call)
    have sent := countP_own (recvMsgFromServer_call chat.world push) call
    have once : call = push.call → (chat.world.recvMsgFromServer push).length ≤ 1 := by
      rintro rfl
      exact recvMsgFromServer_once attributed (List.mem_of_getElem? there) toYou
    have same : Chat.due { chat with
        pushes := chat.pushes.eraseIdx j
        replies := chat.replies ++ [⟨push.call, Parse.SUCCESS, LOGIN_ON⟩]
        received := chat.received ++ chat.world.recvMsgFromServer push } call = chat.due call := rfl
    rw [same]
    unfold Chat.copies Chat.words at *
    dsimp only
    rw [List.countP_append, List.countP_append, List.countP_singleton, sent]
    simp only [decide_eq_true_eq] at fewer ⊢
    by_cases own : push.call = call
    · have short := once own.symm
      rw [if_pos own] at fewer ⊢
      rw [if_pos own.symm]
      omega
    · rw [if_neg own] at fewer ⊢
      rw [if_neg (Ne.symm own)]
      omega
  | lost j told =>
    dsimp only
    split
    · exact sparing
    rename_i push there
    intro call toYou
    obtain ⟨copies, words⟩ := sparing call toYou
    have fewer := countP_eraseIdx there fun push => decide (push.call = call)
    have one : (((told.filter (· ≠ Parse.SUCCESS)).toList.map (⟨push.call, ·, LOGIN_OFF⟩ : Int → Reply)).countP fun reply => reply.call = call) ≤
        if push.call = call then 1 else 0 := by
      cases told.filter (· ≠ Parse.SUCCESS) <;> simp
    have same : Chat.due { chat with
        pushes := chat.pushes.eraseIdx j
        replies := chat.replies ++ (told.filter (· ≠ Parse.SUCCESS)).toList.map (⟨push.call, ·, LOGIN_OFF⟩) } call = chat.due call := rfl
    rw [same]
    unfold Chat.copies Chat.words at *
    dsimp only
    rw [List.countP_append]
    simp only [decide_eq_true_eq] at fewer
    omega
  | reply j =>
    dsimp only
    split
    · exact sparing
    rename_i reply found
    have fewer : ∀ call, (chat.replies.eraseIdx j).countP (·.call = call) + (if reply.call = call then 1 else 0) = chat.replies.countP (·.call = call) := by
      intro call
      have erased := countP_eraseIdx found fun reply => decide (reply.call = call)
      simpa only [decide_eq_true_eq] using erased
    split
    · intro call toYou
      obtain ⟨copies, words⟩ := sparing call toYou
      refine ⟨copies, words.trans' ?_⟩
      have less := fewer call
      unfold Chat.words
      dsimp only
      omega
    · rename_i talk there
      exact sparing_onReply sparing reply there fewer

/-! ### Every run -/

theorem attributed_run (steps : List ChatStep) : Attributed (run Chat.move Chat.init steps) ∧ Sparing (run Chat.move Chat.init steps) := by
  refine run_keeps (fun chat => Attributed chat ∧ Sparing chat) (fun chat step kept => ?_) ⟨attributed_init, fun call _ => ?_⟩ steps
  · exact ⟨attributed_move kept.1 step, sparing_move kept.1 kept.2 step⟩
  · exact ⟨le_refl 0, le_refl 0⟩

/-- The run has seen the logins and the calls. -/
structure Seen (steps : List ChatStep) (chat : Chat) : Prop where
  comers : ∀ sessionId player, (sessionId, player) ∈ chat.world.comers → .login (.loginGame sessionId player) ∈ steps
  talks : ∀ talk ∈ chat.talks, .sendMsgToServer talk.sessionId talk.inArgs ∈ steps

theorem seen_later {steps : List ChatStep} {step : ChatStep} (seen : Seen steps chat)
    (comers : ∀ sessionId player, (sessionId, player) ∈ chat'.world.comers →
      (sessionId, player) ∈ chat.world.comers ∨ step = .login (.loginGame sessionId player))
    (talks : ∀ talk ∈ chat'.talks, (∃ phase, { talk with phase } ∈ chat.talks) ∨ step = .sendMsgToServer talk.sessionId talk.inArgs) :
    Seen (steps ++ [step]) chat' where
  comers sessionId player came := by
    rcases comers sessionId player came with before | rfl
    · exact List.mem_append_left _ (seen.comers sessionId player before)
    · exact List.mem_append_right _ (List.mem_singleton_self _)
  talks talk there := by
    rcases talks talk there with ⟨phase, before⟩ | rfl
    · exact List.mem_append_left _ (seen.talks { talk with phase } before)
    · exact List.mem_append_right _ (List.mem_singleton_self _)

theorem mem_talks_set {phase : TalkPhase} (there : chat.talks[call]? = some talk) :
    ∀ other ∈ chat.talks.set call { talk with phase }, ∃ phase, { other with phase } ∈ chat.talks := by
  intro other member
  rcases List.mem_or_eq_of_mem_set member with before | rfl
  · exact ⟨other.phase, before⟩
  · exact ⟨talk.phase, List.mem_of_getElem? there⟩

theorem seen_move {steps : List ChatStep} (seen : Seen steps chat) (step : ChatStep) : Seen (steps ++ [step]) (chat.move step) := by
  have kept {world : World} (same : world = chat.world) : ∀ sessionId player, (sessionId, player) ∈ world.comers →
      (sessionId, player) ∈ chat.world.comers ∨ step = .login (.loginGame sessionId player) := fun _ _ came => .inl (same ▸ came)
  have held : ∀ talk ∈ chat.talks, (∃ phase, { talk with phase } ∈ chat.talks) ∨ step = .sendMsgToServer talk.sessionId talk.inArgs :=
    fun talk there => .inl ⟨talk.phase, there⟩
  cases step with
  | login step =>
    refine seen_later seen (fun sessionId player came => ?_) held
    rcases (mem_comers_move step).mp came with before | ⟨-, rfl⟩
    · exact .inl before
    · exact .inr rfl
  | sendMsgToServer sessionId inArgs =>
    have new (phase : TalkPhase) : ∀ talk ∈ chat.talks ++ [⟨sessionId, inArgs, phase⟩], (∃ phase, { talk with phase } ∈ chat.talks) ∨
        ChatStep.sendMsgToServer sessionId inArgs = .sendMsgToServer talk.sessionId talk.inArgs := by
      intro talk there
      rcases List.mem_append.mp there with before | new
      · exact .inl ⟨talk.phase, before⟩
      · obtain rfl := List.mem_singleton.mp new
        exact .inr rfl
    unfold Chat.move
    dsimp only
    split
    · unfold sendMsgToServer
      split
      · exact seen_later seen (kept rfl) (new _)
      · exact seen_later seen (kept rfl) (new _)
    · exact seen_later seen (kept rfl) held
  | talkOn call ok connIds =>
    unfold Chat.move
    dsimp only
    split
    · exact seen_later seen (kept rfl) held
    · rename_i talk there
      exact seen_later seen (kept rfl) fun other member => .inl (mem_talks_set there other member)
  | push j =>
    unfold Chat.move
    dsimp only
    split <;> exact seen_later seen (kept rfl) held
  | lost j told =>
    unfold Chat.move
    dsimp only
    split <;> exact seen_later seen (kept rfl) held
  | reply j =>
    unfold Chat.move
    dsimp only
    split
    · exact seen_later seen (kept rfl) held
    split
    · exact seen_later seen (kept rfl) held
    rename_i reply _ _ talk there
    unfold onReply
    split
    · exact seen_later seen (kept rfl) fun other member => .inl (@mem_talks_set chat reply.call talk .ended there other member)
    · split <;> exact seen_later seen (kept rfl) held

theorem seen_run (steps : List ChatStep) : Seen steps (run Chat.move Chat.init steps) := by
  have start : Seen [] Chat.init := ⟨fun _ _ came => absurd came List.not_mem_nil, fun _ there => absurd there List.not_mem_nil⟩
  exact @run_history _ _ Chat.move (fun _ => True) Seen (fun past chat step seen _ => seen_move seen step) (fun _ _ _ => trivial) [] steps _ start trivial

end

/-- Whatever goes on around it, every message that a client gets was sent by a call, carries what the call was given and the
name of a player as whom the calling session has logged in, and gets where its type is for: to a session that has logged in
as the addressee, or as a player of the sender's area. A private message gets there once at most, and its call is answered
once at most. -/
theorem chat_attributed (steps : List ChatStep) :
    (∀ r ∈ (run Chat.move Chat.init steps).received, ∃ sessionId inArgs,
      .sendMsgToServer sessionId inArgs ∈ steps ∧ .login (.loginGame sessionId ⟨r.msg.area, r.msg.uuid⟩) ∈ steps ∧
      r.msg = { uuid := r.msg.uuid, area := r.msg.area, type := inArgs.type, msg := inArgs.msg, state := LOGIN_ON } ∧
      ((inArgs.type = IM_MY_MSG_TO_YOU ∧ .login (.loginGame r.sessionId ⟨inArgs.area, inArgs.uuid⟩) ∈ steps) ∨
        (inArgs.type = IM_MY_MSG_IN_AREA ∧ ∃ uuid, .login (.loginGame r.sessionId ⟨r.msg.area, uuid⟩) ∈ steps) ∨
        inArgs.type = IM_ANNOUNCE ∧ ∃ player, .login (.loginGame r.sessionId player) ∈ steps)) ∧
      ∀ (call : Nat) (talk : Talk), (run Chat.move Chat.init steps).talks[call]? = some talk → talk.inArgs.type = IM_MY_MSG_TO_YOU →
        (run Chat.move Chat.init steps).received.countP (·.call = call) ≤ 1 ∧
          (run Chat.move Chat.init steps).answers.countP (·.call = call) ≤ 1 := by
  obtain ⟨attributed, sparing⟩ := attributed_run steps
  have seen := seen_run steps
  generalize run Chat.move Chat.init steps = chat at attributed sparing seen ⊢
  refine ⟨fun r there => ?_, fun call talk there toYou => ?_⟩
  · obtain ⟨state, talk, stamped, reached⟩ := attributed.received r there
    obtain ⟨phase, called⟩ := stamped.called
    refine ⟨talk.sessionId, talk.inArgs, seen.talks { talk with phase } (List.mem_of_getElem? called), seen.comers _ _ stamped.came, ?_, ?_⟩
    · have carried : r.msg.toRecvInArgs = ⟨r.msg.uuid, r.msg.area, talk.inArgs.type, talk.inArgs.msg⟩ := stamped.carried
      calc r.msg = { r.msg.toRecvInArgs with state := r.msg.state } := rfl
        _ = _ := by rw [carried, state]
    · rcases reached with ⟨type, came⟩ | ⟨type, uuid, came⟩ | ⟨type, player, came⟩
      · exact .inl ⟨type, seen.comers _ _ came⟩
      · exact .inr (.inl ⟨type, uuid, seen.comers _ _ came⟩)
      · exact .inr (.inr ⟨type, player, seen.comers _ _ came⟩)
  · have only : ∀ other, chat.talks[call]? = some other → other.inArgs.type = IM_MY_MSG_TO_YOU := by
      intro other there'
      rwa [← Option.some.inj (there.symm.trans there')]
    obtain ⟨copies, words⟩ := sparing call only
    have due : chat.due call ≤ 1 := by
      unfold Chat.due
      rw [there]
      show talk.phase.due ≤ 1
      cases talk.phase <;> simp [TalkPhase.due]
    unfold Chat.copies at copies
    unfold Chat.words at words
    omega

end Tinygame.Conn
