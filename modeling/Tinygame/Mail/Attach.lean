import Tinygame.Mail.MailImp

/-!
# What is attached to a mail

One player's requests. Between the test and the move a mail is held by the request that claims it. A mail
is credited once as long as nobody else finds it in the pool meanwhile, what has begun to be saved is saved
and moved, and no pulled difference of the pools is older than the move.
-/

namespace Tinygame.Mail
open Redis (Session redisKeyGen)

/-- What a request is doing with a mail: it has found it in the pool, saved the player's data, saved the
bag too, or it is about to pull it into the pool. -/
inductive Role where
  | idle | found | savedBaseInfo | savedBagList | pulling
  deriving DecidableEq

def GetMailAttach.role : GetMailAttach → Role
  | .getMailHeads .. | .getBagList .. | .getBaseInfo .. | .setBaseInfo .. => .found
  | .setBagList .. => .savedBaseInfo
  | .moveMail .. => .savedBagList
  | _ => .idle

def Request.role (mailID : String) : Request → Role
  | .getMailAttach _ m next => if m = mailID then next.role else .idle
  | .receiveMail _ (.addNewMails _ diff) => if mailID ∈ diff then .pulling else .idle
  | _ => .idle

/-- How many requests do so. -/
def State.doing (state : State) (mailID : String) (role : Role) : Nat := (state.requests.map (·.role mailID)).count role

/-- A request holds the mail. -/
def State.held (state : State) (mailID : String) : Nat :=
  state.doing mailID .found + state.doing mailID .savedBaseInfo + state.doing mailID .savedBagList

/-- The step does not leave the mail half claimed, and does not find it in the pool when it is claimed:
a test finds it only when no request holds it, the bag is saved and the mail moved once the player's data
are saved, and it is moved while nobody is about to pull it. -/
def Careful (session : Session) (mailID : String) (state : State) : Event → Prop
  | .request i fails => match state.requests[i]? with
    | some (.getMailAttach _ m next) => m = mailID → match next with
      | .isInMailPool _ => fails = false → mailID ∈ state.store.members (mailPool session) → state.held mailID = 0
      | .setBagList .. => fails = false
      | .moveMail .. => fails = false ∧ state.doing mailID .pulling = 0
      | _ => True
    | _ => True
  | _ => True

/-- The session of a request, where it knows it. -/
def GetMailAttach.session? : GetMailAttach → Option Session
  | .isInMailPool session | .getMailHeads session | .getBagList session _ | .getBaseInfo session _ _
  | .setBaseInfo session _ _ _ | .setBagList session _ _ | .moveMail session _ => some session
  | _ => none

def ReceiveMail.session? : ReceiveMail → Option Session
  | .recvGlobalMail session | .addNewMails session _ | .getAllNewMail session | .getMailHeads session _
  | .answered session _ => some session
  | _ => none

def Request.session? : Request → Option Session
  | .getMailAttach _ _ next => next.session?
  | .receiveMail _ next => next.session?
  | .sendGlobalMail _ _ => none

/-- Nobody but the player of this session is connected. -/
def Of (session : Session) (store : Store) : Prop := ∀ sid other, store.sessions.get? sid = some other → other = session

/-! ### What a command does with a mail -/

theorem mailPool_ne_mailGetList (session other : Session) : mailPool session ≠ mailGetList other :=
  Redis.key_ne '6' '7' (by decide) (by decide) (by decide)

/-- A command of a careful step, as far as it is about the mail: what the request was doing and does then,
and what has been saved. A test finds the mail `free`, and it is moved while nobody pulls: `calm`. -/
inductive Touches (session : Session) (mailID : String) (free calm : Prop) (store store' : Store) :
    Role → Role → Option (String × Part) → Prop
  | quiet {role role' : Role} {saves : Option (String × Part)}
      (pool : mailID ∈ store'.members (mailPool session) ↔ mailID ∈ store.members (mailPool session))
      (claimed : mailID ∈ store'.members (mailGetList session) ↔ mailID ∈ store.members (mailGetList session))
      (goes : role' = role ∨ role' = .idle ∧ (role = .found ∨ role = .pulling))
      (unsaved : ∀ part, saves ≠ some (mailID, part)) : Touches session mailID free calm store store' role role' saves
  | test (same : store' = store) (there : mailID ∈ store.members (mailPool session)) (unheld : free) :
      Touches session mailID free calm store store' .idle .found none
  | saveBaseInfo (sets : store'.sets = store.sets) :
      Touches session mailID free calm store store' .found .savedBaseInfo (some (mailID, .baseInfo))
  | saveBagList (sets : store'.sets = store.sets) :
      Touches session mailID free calm store store' .savedBaseInfo .savedBagList (some (mailID, .bagList))
  | move (same : store' = store.smove (mailPool session) (mailGetList session) mailID) (unpulled : calm) :
      Touches session mailID free calm store store' .savedBagList .idle none
  | diff (same : store' = store) (unclaimed : mailID ∉ store.members (mailGetList session)) :
      Touches session mailID free calm store store' .idle .pulling none
  | pull {values : List String} (same : store' = store.sadd (mailPool session) values) :
      Touches session mailID free calm store store' .pulling .idle none

section
variable {session : Session} {mailID : String} {free calm : Prop} {store : Store} {Item : Bag.ItemTable} {fails : Bool}

/-- A command that leaves the sets alone, of a request that goes on as it was or gives up. -/
theorem Touches.still {store' : Store} {role role' : Role} (sets : store'.sets = store.sets)
    (goes : role' = role ∨ role' = .idle ∧ (role = .found ∨ role = .pulling)) :
    Touches session mailID free calm store store' role role' none := by
  have same : ∀ key, store'.members key = store.members key := fun key => by rw [Store.members, sets, Store.members]
  exact .quiet (by rw [same]) (by rw [same]) goes fun _ => by simp

theorem receiveMail_touches {sessionId : String} {next : ReceiveMail} (own : ∀ other ∈ next.session?, other = session) :
    Touches session mailID free calm store (Request.step Item fails store (.receiveMail sessionId next)).2
      (Request.role mailID (.receiveMail sessionId next))
      ((Request.step Item fails store (.receiveMail sessionId next)).1.role mailID)
      (Request.saves fails (.receiveMail sessionId next)) := by
  cases next with
  | getSession =>
    simp only [Request.step, ReceiveMail.step]
    split
    · exact .still rfl (.inl rfl)
    · exact .still rfl (.inl rfl)
  | recvGlobalMail other =>
    obtain rfl : other = session := own other rfl
    simp only [Request.step, ReceiveMail.step]
    split
    · exact .still rfl (.inl rfl)
    · split
      · exact .still rfl (.inl rfl)
      · rename_i diff found _
        by_cases listed : mailID ∈ store.sdiff (globalMailPool other.area) (mailGetList other)
        · simp only [Request.role, listed, if_true]
          refine .diff rfl ?_
          have kept := (List.mem_filter.mp listed).2
          simpa using kept
        · simp only [Request.role, listed, if_false]
          exact .still rfl (.inl rfl)
  | addNewMails other diff =>
    obtain rfl : other = session := own other rfl
    simp only [Request.step, ReceiveMail.step]
    by_cases listed : mailID ∈ diff
    · simp only [Request.role, listed, if_true]
      split
      · exact .still rfl (.inr ⟨rfl, .inr rfl⟩)
      · exact .pull rfl
    · simp only [Request.role, listed, if_false]
      split
      · exact .still rfl (.inl rfl)
      · refine .quiet ?_ ?_ (.inl rfl) fun _ => by simp [Request.saves]
        · simp [Store.mem_sadd, listed]
        · simp [Store.mem_sadd, listed]
  | getAllNewMail other =>
    simp only [Request.step, ReceiveMail.step]
    split
    · exact .still rfl (.inl rfl)
    · split
      · exact .still rfl (.inl rfl)
      · exact .still rfl (.inl rfl)
  | getMailHeads other list =>
    simp only [Request.step, ReceiveMail.step]
    split
    · exact .still rfl (.inl rfl)
    · exact .still rfl (.inl rfl)
  | answered other mailList => exact .still rfl (.inl rfl)
  | failed => exact .still rfl (.inl rfl)

theorem sendGlobalMail_touches {msg : Msg} {next : SendGlobalMail} :
    Touches session mailID free calm store (Request.step Item fails store (.sendGlobalMail msg next)).2
      (Request.role mailID (.sendGlobalMail msg next))
      ((Request.step Item fails store (.sendGlobalMail msg next)).1.role mailID)
      (Request.saves fails (.sendGlobalMail msg next)) := by
  have sets : (Request.step Item fails store (.sendGlobalMail msg next)).2.sets = store.sets := by
    simp only [Request.step]
    cases next with
    | checkArea => rfl
    | createNewMailID area => cases fails <;> rfl
    | addMailHeadEx area newID => cases fails <;> rfl
    | addMailTextEx area newID mailHead => cases fails <;> rfl
    | sent area mailHead => rfl
    | failed => rfl
  exact .still sets (.inl rfl)

/-- A claim of another mail. -/
theorem getMailAttach_other {sessionId m : String} {next : GetMailAttach} (other : m ≠ mailID)
    (own : ∀ other ∈ next.session?, other = session) :
    Touches session mailID free calm store (Request.step Item fails store (.getMailAttach sessionId m next)).2
      (Request.role mailID (.getMailAttach sessionId m next))
      ((Request.step Item fails store (.getMailAttach sessionId m next)).1.role mailID)
      (Request.saves fails (.getMailAttach sessionId m next)) := by
  have idle : ∀ next, Request.role mailID (.getMailAttach sessionId m next) = .idle := fun next => if_neg other
  have unsaved : ∀ part, Request.saves fails (.getMailAttach sessionId m next) ≠ some (mailID, part) := by
    intro part
    unfold Request.saves
    split <;> simp_all
  simp only [Request.step, idle]
  rcases (getMailAttach_sets Item sessionId m fails store next).1 with same | ⟨of, mailHead, rfl, moved⟩
  · exact .quiet (by rw [Store.members, same, Store.members]) (by rw [Store.members, same, Store.members]) (.inl rfl) unsaved
  · obtain rfl : of = session := own of rfl
    have kept : ∀ key, mailID ∈ (store.smove (mailPool of) (mailGetList of) m).members key ↔ mailID ∈ store.members key := by
      intro key
      rw [Store.mem_smove]
      split
      · simp [Ne.symm other]
      · rfl
    exact .quiet (by rw [moved, kept]) (by rw [moved, kept]) (.inl rfl) unsaved

/-- A claim of this mail, in a careful step. -/
theorem getMailAttach_touches {sessionId : String} {next : GetMailAttach} (own : ∀ other ∈ next.session?, other = session)
    (tests : ∀ other, next = .isInMailPool other → fails = false → mailID ∈ store.members (mailPool session) → free)
    (saves : ∀ other mailHead bagList, next = .setBagList other mailHead bagList → fails = false)
    (moves : ∀ other mailHead, next = .moveMail other mailHead → fails = false ∧ calm) :
    Touches session mailID free calm store (Request.step Item fails store (.getMailAttach sessionId mailID next)).2
      (Request.role mailID (.getMailAttach sessionId mailID next))
      ((Request.step Item fails store (.getMailAttach sessionId mailID next)).1.role mailID)
      (Request.saves fails (.getMailAttach sessionId mailID next)) := by
  simp only [Request.step, Request.role, if_true]
  cases next with
  | getSession =>
    simp only [GetMailAttach.step]
    split <;> exact .still rfl (.inl rfl)
  | isInMailPool other =>
    obtain rfl : other = session := own other rfl
    simp only [GetMailAttach.step]
    split
    · rename_i found
      exact .test rfl found.2 (tests _ rfl (by simpa using found.1) found.2)
    · exact .still rfl (.inl rfl)
  | getMailHeads other | getBagList other mailHead =>
    simp only [GetMailAttach.step]
    split
    · exact .still rfl (.inl rfl)
    · exact .still rfl (.inr ⟨rfl, .inl rfl⟩)
  | getBaseInfo other mailHead bagList =>
    simp only [GetMailAttach.step]
    split
    · exact .still rfl (.inl rfl)
    · exact .still rfl (.inr ⟨rfl, .inl rfl⟩)
  | setBaseInfo other mailHead bagList baseInfo =>
    cases fails with
    | true => exact .still rfl (.inr ⟨rfl, .inl rfl⟩)
    | false => exact .saveBaseInfo rfl
  | setBagList other mailHead bagList =>
    obtain rfl := saves other mailHead bagList rfl
    exact .saveBagList rfl
  | moveMail other mailHead =>
    obtain ⟨rfl, unpulled⟩ := moves other mailHead rfl
    obtain rfl : other = session := own other rfl
    exact .move rfl unpulled
  | answered attach => exact .still rfl (.inl rfl)
  | failed => exact .still rfl (.inl rfl)

/-- A request learns its session from the store and keeps it. -/
theorem request_session {request : Request} (own : ∀ other ∈ request.session?, other = session) (of : Of session store)
    (Item : Bag.ItemTable) (fails : Bool) : ∀ other ∈ (request.step Item fails store).1.session?, other = session := by
  intro other there
  cases request with
  | sendGlobalMail msg next => cases there
  | receiveMail sessionId next =>
    simp only [Request.step, Request.session?] at there own
    cases next with
    | getSession =>
      simp only [ReceiveMail.step] at there
      split at there
      · rename_i looked
        cases there
        exact of sessionId _ looked
      · cases there
    | recvGlobalMail mine | getAllNewMail mine =>
      simp only [ReceiveMail.step] at there
      split at there
      · cases there
      · split at there <;> exact own other there
    | addNewMails mine values | getMailHeads mine values =>
      simp only [ReceiveMail.step] at there
      split at there
      · cases there
      · exact own other there
    | answered mine mailList => exact own other there
    | failed => cases there
  | getMailAttach sessionId m next =>
    simp only [Request.step, Request.session?] at there own
    cases next with
    | getSession =>
      simp only [GetMailAttach.step] at there
      split at there
      · rename_i looked
        cases there
        exact of sessionId _ looked
      · cases there
    | isInMailPool mine | getMailHeads mine | getBagList mine mailHead | getBaseInfo mine mailHead bagList =>
      simp only [GetMailAttach.step] at there
      split at there
      · exact own other there
      · cases there
    | setBaseInfo mine mailHead bagList baseInfo | setBagList mine mailHead bagList =>
      simp only [GetMailAttach.step] at there
      split at there
      · cases there
      · exact own other there
    | moveMail mine mailHead =>
      simp only [GetMailAttach.step] at there
      split at there <;> cases there
    | answered attach => cases there
    | failed => cases there

theorem request_sessions (Item : Bag.ItemTable) (fails : Bool) (store : Store) (request : Request) :
    (request.step Item fails store).2.sessions = store.sessions := by
  cases request with
  | sendGlobalMail msg next => cases next <;> simp only [Request.step, SendGlobalMail.step] <;> cases fails <;> rfl
  | receiveMail sessionId next =>
    cases next <;> simp only [Request.step, ReceiveMail.step]
    case getSession => split <;> rfl
    case recvGlobalMail => split <;> [rfl; split <;> rfl]
    case addNewMails => cases fails <;> rfl
    case getAllNewMail => split <;> [rfl; split <;> rfl]
    case getMailHeads => cases fails <;> rfl
  | getMailAttach sessionId m next =>
    cases next <;> simp only [Request.step, GetMailAttach.step]
    case getSession => split <;> rfl
    case getMailHeads => split <;> rfl
    case getBagList => split <;> rfl
    case getBaseInfo => split <;> rfl
    case setBaseInfo => cases fails <;> rfl
    case setBagList => cases fails <;> rfl
    case moveMail =>
      cases fails
      · exact (Store.smove_rest ..).1
      · rfl

end

/-! ### Credited once -/

section
variable {session : Session} {mailID : String} {state : State} {Item : Bag.ItemTable}

/-- Where the mail stands. -/
structure Settled (session : Session) (mailID : String) (state : State) : Prop where
  of : Of session state.store
  own : ∀ request ∈ state.requests, ∀ other ∈ request.session?, other = session
  held : state.held mailID ≤ 1
  found : state.held mailID = 1 → mailID ∈ state.store.members (mailPool session)
  parts : state.saved.count (mailID, .baseInfo) =
    state.saved.count (mailID, .bagList) + state.doing mailID .savedBaseInfo
  once : state.saved.count (mailID, .baseInfo) ≤ 1
  credited : state.saved.count (mailID, .baseInfo) = 1 →
    state.doing mailID .savedBaseInfo + state.doing mailID .savedBagList = 1 ∨
      state.held mailID = 0 ∧ state.doing mailID .pulling = 0 ∧ mailID ∉ state.store.members (mailPool session) ∧
        mailID ∈ state.store.members (mailGetList session)

theorem count_set_role {roles : List Role} {i : Nat} {role : Role} (there : roles[i]? = some role) (role' counted : Role) :
    (roles.set i role').count counted + (if role = counted then 1 else 0) =
      roles.count counted + if role' = counted then 1 else 0 := by
  obtain ⟨short, same⟩ := List.getElem?_eq_some_iff.mp there
  have listed : role = counted → 0 < roles.count counted := fun this =>
    List.count_pos_iff.mpr (this ▸ List.mem_of_getElem? there)
  rw [List.count_set short, same]
  simp only [beq_iff_eq]
  split
  · have := listed ‹_›
    omega
  · omega

/-- What the requests do after one of them has made a step. -/
theorem doing_step {i : Nat} {request : Request} (there : state.requests[i]? = some request) (fails : Bool) (role : Role) :
    (step Item state (.request i fails)).doing mailID role + (if request.role mailID = role then 1 else 0) =
      state.doing mailID role + if (request.step Item fails state.store).1.role mailID = role then 1 else 0 := by
  have found : (state.requests.map (·.role mailID))[i]? = some (request.role mailID) := by rw [List.getElem?_map, there]; rfl
  have counted := count_set_role found ((request.step Item fails state.store).1.role mailID) role
  simp only [State.doing, step, there]
  rw [List.map_set]
  exact counted

/-- A careful command settles the mail again. -/
theorem settled_touches {state' : State} {role role' : Role} {saves : Option (String × Part)}
    (settled : Settled session mailID state) (of : Of session state'.store)
    (own : ∀ request ∈ state'.requests, ∀ other ∈ request.session?, other = session)
    (touches : Touches session mailID (state.held mailID = 0) (state.doing mailID .pulling = 0) state.store state'.store role role' saves)
    (counts : ∀ counted, state'.doing mailID counted + (if role = counted then 1 else 0) =
      state.doing mailID counted + if role' = counted then 1 else 0)
    (saved : state'.saved = state.saved ++ saves.toList) : Settled session mailID state' := by
  obtain ⟨-, -, held, found, parts, once, credited⟩ := settled
  have d1 := counts .found
  have d2 := counts .savedBaseInfo
  have d3 := counts .savedBagList
  have d4 := counts .pulling
  unfold State.held at held found credited
  cases touches with
  | quiet pool claimed goes unsaved =>
    have same : ∀ part, state'.saved.count (mailID, part) = state.saved.count (mailID, part) := by
      intro part
      rw [saved, List.count_append, Nat.add_eq_left, List.count_eq_zero]
      intro listed
      exact unsaved part (Option.mem_toList.mp listed)
    have still : state'.doing mailID .savedBaseInfo = state.doing mailID .savedBaseInfo ∧
        state'.doing mailID .savedBagList = state.doing mailID .savedBagList ∧
        state'.doing mailID .found ≤ state.doing mailID .found ∧
        state'.doing mailID .pulling ≤ state.doing mailID .pulling := by
      rcases goes with rfl | ⟨rfl, rfl | rfl⟩
      · omega
      · simp only [reduceCtorEq, if_true, if_false] at d1 d2 d3 d4
        omega
      · simp only [reduceCtorEq, if_true, if_false] at d1 d2 d3 d4
        omega
    refine ⟨of, own, ?_, fun holds => pool.mpr (found ?_), ?_, ?_, fun once => ?_⟩
    · unfold State.held
      omega
    · unfold State.held at holds
      omega
    · rw [same, same]
      omega
    · rw [same]
      omega
    · rw [same] at once
      rw [pool, claimed]
      unfold State.held
      rcases credited once with holds | ⟨none, calm, gone⟩
      · exact .inl (by omega)
      · exact .inr ⟨by omega, by omega, gone⟩
  | test same there unheld =>
    unfold State.held at unheld
    simp only [reduceCtorEq, if_true, if_false] at d1 d2 d3 d4
    rw [Option.toList_none, List.append_nil] at saved
    have absent : state.saved.count (mailID, .baseInfo) ≠ 1 := by
      intro once
      rcases credited once with holds | ⟨-, -, gone, -⟩
      · omega
      · exact gone there
    refine ⟨of, own, ?_, fun _ => same ▸ there, ?_, ?_, fun once => absurd (saved ▸ once) absent⟩
    · unfold State.held
      omega
    · rw [saved]
      omega
    · rw [saved]
      exact once
  | saveBaseInfo sets =>
    simp only [reduceCtorEq, if_true, if_false] at d1 d2 d3 d4
    have base : state'.saved.count (mailID, .baseInfo) = state.saved.count (mailID, .baseInfo) + 1 := by
      simp [saved, List.count_append]
    have bag : state'.saved.count (mailID, .bagList) = state.saved.count (mailID, .bagList) := by
      simp [saved, List.count_append]
    have first : state.saved.count (mailID, .baseInfo) = 0 := by
      by_contra more
      rcases credited (by omega) with holds | ⟨none, -⟩
      · omega
      · omega
    have there : mailID ∈ state'.store.members (mailPool session) := by
      have before := found (by omega)
      rwa [Store.members, sets, ← Store.members]
    refine ⟨of, own, ?_, fun _ => there, by omega, by omega, fun _ => .inl (by omega)⟩
    unfold State.held
    omega
  | saveBagList sets =>
    simp only [reduceCtorEq, if_true, if_false] at d1 d2 d3 d4
    have base : state'.saved.count (mailID, .baseInfo) = state.saved.count (mailID, .baseInfo) := by
      simp [saved, List.count_append]
    have bag : state'.saved.count (mailID, .bagList) = state.saved.count (mailID, .bagList) + 1 := by
      simp [saved, List.count_append]
    have there : mailID ∈ state'.store.members (mailPool session) := by
      have before := found (by omega)
      rwa [Store.members, sets, ← Store.members]
    refine ⟨of, own, ?_, fun _ => there, by omega, by omega, fun _ => .inl (by omega)⟩
    unfold State.held
    omega
  | move same unpulled =>
    simp only [reduceCtorEq, if_true, if_false] at d1 d2 d3 d4
    rw [Option.toList_none, List.append_nil] at saved
    have there := found (by omega)
    have different := mailPool_ne_mailGetList session session
    refine ⟨of, own, ?_, fun holds => ?_, by rw [saved]; omega, saved ▸ once, fun _ => .inr ⟨?_, by omega, ?_, ?_⟩⟩
    · unfold State.held
      omega
    · unfold State.held at holds
      omega
    · unfold State.held
      omega
    · rw [same, Store.mem_smove, if_pos there]
      simp [different]
    · rw [same, Store.mem_smove, if_pos there]
      exact .inl ⟨rfl, rfl⟩
  | diff same unclaimed =>
    simp only [reduceCtorEq, if_true, if_false] at d1 d2 d3 d4
    rw [Option.toList_none, List.append_nil] at saved
    refine ⟨of, own, ?_, fun holds => same ▸ found ?_, by rw [saved]; omega, saved ▸ once, fun once => ?_⟩
    · unfold State.held
      omega
    · unfold State.held at holds
      omega
    · rw [saved] at once
      rcases credited once with holds | ⟨-, -, -, claimed⟩
      · exact .inl (by omega)
      · exact absurd claimed unclaimed
  | pull same =>
    simp only [reduceCtorEq, if_true, if_false] at d1 d2 d3 d4
    rw [Option.toList_none, List.append_nil] at saved
    refine ⟨of, own, ?_, fun holds => ?_, by rw [saved]; omega, saved ▸ once, fun once => ?_⟩
    · unfold State.held
      omega
    · rw [same, Store.mem_sadd]
      unfold State.held at holds
      exact .inr (found (by omega))
    · rw [saved] at once
      rcases credited once with holds | ⟨-, calm, -⟩
      · exact .inl (by omega)
      · omega

theorem settled_request (settled : Settled session mailID state) {i : Nat} {fails : Bool}
    (careful : Careful session mailID state (.request i fails)) : Settled session mailID (step Item state (.request i fails)) := by
  cases there : state.requests[i]? with
  | none =>
    simp only [step, there]
    exact settled
  | some request =>
    have listed := List.mem_of_getElem? there
    have mine := settled.own request listed
    have counts := fun role => @doing_step mailID state Item i request there fails role
    simp only [Careful, there] at careful
    have touches : Touches session mailID (state.held mailID = 0) (state.doing mailID .pulling = 0) state.store
        (request.step Item fails state.store).2 (request.role mailID)
        ((request.step Item fails state.store).1.role mailID) (request.saves fails) := by
      cases request with
      | sendGlobalMail msg next => exact sendGlobalMail_touches
      | receiveMail sessionId next => exact receiveMail_touches mine
      | getMailAttach sessionId m next =>
        by_cases same : m = mailID
        · subst same
          have careful := careful rfl
          refine getMailAttach_touches mine ?_ ?_ ?_
          · rintro other rfl
            exact careful
          · rintro other mailHead bagList rfl
            exact careful
          · rintro other mailHead rfl
            exact careful
        · exact getMailAttach_other same mine
    simp only [step, there] at counts ⊢
    refine settled_touches settled ?_ ?_ touches counts rfl
    · unfold Of
      rw [request_sessions]
      exact settled.of
    · intro r member
      rcases List.mem_or_eq_of_mem_set member with old | rfl
      · exact settled.own r old
      · exact request_session mine settled.of Item fails

theorem getMailAttach_idle {sessionId m : String} {next : GetMailAttach} (idle : next.role = .idle) :
    Request.role mailID (.getMailAttach sessionId m next) = .idle := by
  simp only [Request.role, idle, ite_self]

/-- What the mail is not concerned with. -/
theorem Settled.congr {state' : State} (settled : Settled session mailID state) (of : Of session state'.store)
    (own : ∀ request ∈ state'.requests, ∀ other ∈ request.session?, other = session)
    (doing : ∀ role ≠ .idle, state'.doing mailID role = state.doing mailID role)
    (sets : state'.store.sets = state.store.sets) (saved : state'.saved = state.saved) : Settled session mailID state' := by
  obtain ⟨-, -, held, found, parts, once, credited⟩ := settled
  have members : ∀ key, state'.store.members key = state.store.members key := fun key => by
    rw [Store.members, sets, Store.members]
  have holds : state'.held mailID = state.held mailID := by
    unfold State.held
    rw [doing .found (by decide), doing .savedBaseInfo (by decide), doing .savedBagList (by decide)]
  refine ⟨of, own, holds ▸ held, ?_, ?_, saved ▸ once, ?_⟩
  · rw [holds, members]
    exact found
  · rw [saved, doing .savedBaseInfo (by decide)]
    exact parts
  · rw [saved, doing .savedBaseInfo (by decide), doing .savedBagList (by decide), doing .pulling (by decide), holds, members,
      members]
    exact credited

theorem settled_step (settled : Settled session mailID state) {event : Event} (careful : Careful session mailID state event) :
    Settled session mailID (step Item state event) := by
  cases event with
  | request i fails => exact settled_request settled careful
  | arrive call =>
    have idle : call.request.role mailID = .idle := by
      cases call with
      | sendGlobalMail msg => rfl
      | receiveMail sessionId => rfl
      | getMailAttach sessionId m => exact getMailAttach_idle rfl
    refine settled.congr settled.of ?_ (fun role busy => ?_) rfl rfl
    · intro request there
      rcases List.mem_append.mp there with old | new
      · exact settled.own request old
      · rw [List.mem_singleton.mp new]
        cases call <;> exact fun other known => by cases known
    · simp [State.doing, step, idle, Ne.symm busy]
  | expire key =>
    have kept : (state.store.expire key).sessions = state.store.sessions ∧ (state.store.expire key).sets = state.store.sets := by
      unfold Store.expire
      split <;> exact ⟨rfl, rfl⟩
    refine settled.congr ?_ settled.own (fun role _ => rfl) kept.2 rfl
    intro sid other known
    exact settled.of sid other (kept.1 ▸ known)

def Request.Ended : Request → Prop
  | .sendGlobalMail _ (.sent ..) | .sendGlobalMail _ .failed => True
  | .receiveMail _ (.answered ..) | .receiveMail _ .failed => True
  | .getMailAttach _ _ (.answered _) | .getMailAttach _ _ .failed => True
  | _ => False

theorem Request.Ended.idle {request : Request} (ended : request.Ended) (mailID : String) : request.role mailID = .idle := by
  cases request with
  | sendGlobalMail msg next => rfl
  | receiveMail sessionId next =>
    cases next with
    | addNewMails session diff => exact False.elim ended
    | _ => rfl
  | getMailAttach sessionId m next =>
    refine getMailAttach_idle ?_
    cases next with
    | answered attach => rfl
    | failed => rfl
    | _ => exact False.elim ended

/-- **Credited once.** When every step of a run is careful with a mail, its attachment is saved into the
player's data once at most and into the bag once at most, and when all requests have ended it is in both
or in neither. -/
theorem attach_once (Item : Bag.ItemTable) {session : Session} {store : Store} (of : Of session store) (mailID : String)
    {events : List Event} (careful : Along (step Item) (Careful session mailID) (init store) events) :
    let state := run (step Item) (init store) events
    state.saved.count (mailID, .baseInfo) ≤ 1 ∧ state.saved.count (mailID, .bagList) ≤ 1 ∧
      ((∀ request ∈ state.requests, request.Ended) →
        state.saved.count (mailID, .baseInfo) = state.saved.count (mailID, .bagList)) := by
  intro state
  have start : Settled session mailID (init store) :=
    ⟨of, fun _ there => absurd there List.not_mem_nil, Nat.zero_le _, fun holds => absurd holds Nat.zero_ne_one, rfl,
      Nat.zero_le _, fun once => absurd once Nat.zero_ne_one⟩
  have settled : Settled session mailID state :=
    @run_invariant _ _ _ (Careful session mailID) (Settled session mailID)
      (fun _ _ settled careful => settled_step settled careful) _ _ start careful
  have parts := settled.parts
  refine ⟨settled.once, by have := settled.once; omega, fun ended => ?_⟩
  have none : state.doing mailID .savedBaseInfo = 0 := by
    refine List.count_eq_zero.mpr fun there => ?_
    obtain ⟨request, listed, busy⟩ := List.mem_map.mp there
    rw [(ended request listed).idle] at busy
    cases busy
  omega

end

/-- A player with two connections, and a mail of fifty gold in the pool. -/
def fifty : Store where
  sessions := Obj.set (Obj.set ∅ "s1" ⟨"1", "p"⟩) "s2" ⟨"1", "p"⟩
  mailID := 7
  strings := Obj.set (Obj.set (Obj.set ∅ (mailHeadKey "1" "7") (.mailHead ⟨7, "gm", "gift", some (Obj.set ∅ "gold" 50)⟩))
    (playerKey ⟨"1", "p"⟩) (.baseInfo ⟨100, 0, ∅⟩)) (bagKey ⟨"1", "p"⟩) (.bagList ⟨100, ∅, ∅⟩)
  sets := Obj.set ∅ (mailPool ⟨"1", "p"⟩) ["7"]

def noItems : Bag.ItemTable := Bag.ItemTable.none

theorem fifty_of : Of ⟨"1", "p"⟩ fifty := by
  intro sid other known
  unfold fifty at known
  rw [Obj.get?_set, Obj.get?_set] at known
  split at known
  · cases known
    rfl
  · split at known
    · cases known
      rfl
    · cases known

/-- The mail is claimed by one connection. -/
def claim : List Event := .arrive (.getMailAttach "s1" "7") :: List.replicate 8 (.request 0 false)

theorem claim_careful : Along (step noItems) (Careful ⟨"1", "p"⟩ "7") (init fifty) claim :=
  ⟨trivial, fun _ => trivial, fun _ _ _ => rfl, fun _ => trivial, fun _ => trivial, fun _ => trivial, fun _ => trivial,
    fun _ => rfl, fun _ => ⟨rfl, rfl⟩, trivial⟩

theorem attach_once_fifty : (run (step noItems) (init fifty) claim).saved.count ("7", .baseInfo) ≤ 1 :=
  (attach_once noItems fifty_of "7" claim_careful).1

/-- The second connection finds the mail in the pool before the first one has moved it: a hundred gold are
added. -/
theorem attach_twice :
    ¬ ∀ events, (run (step noItems) (init fifty) events).saved.count ("7", .baseInfo) ≤ 1 := by
  intro once
  have twice := once (.arrive (.getMailAttach "s1" "7") :: .arrive (.getMailAttach "s2" "7") ::
    (List.replicate 7 (.request 0 false) ++ List.replicate 7 (.request 1 false)))
  exact absurd twice (by decide +kernel)

end Tinygame.Mail
