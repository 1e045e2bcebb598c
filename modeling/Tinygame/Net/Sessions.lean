import Tinygame.Base.Obj
import Tinygame.Base.Run

/-!
# All sessions

`_sessionHandler` of `module/net/socket/session.js` with its counter. A session goes when its client closes, when it
is kicked, when a check finds its last message too old, and when the server stops; whatever comes first sends the
`destroy` event, and the others find nothing.
-/

namespace Tinygame.Sessions
variable {κ : Type}

/-- `Const.SESSION_STATE`. -/
inductive SessionState where
  | needClear
  | ready
  | clientEnd
  deriving DecidableEq

/-- `serial` is how many sessions were created before: no field of the code. -/
structure Record (κ : Type) where
  state : SessionState
  client : κ
  lasthealth : Int
  serial : Nat

def maxConnections : Int := 20000

structure State (κ : Type) where
  sessionHandler : Obj (Record κ) := ∅
  connectNum : Int := 0
  healthTime : Int
  /-- the clients `close` was called on -/
  closed : List κ := []
  /-- the ids of the sessions created -/
  created : List String := []
  /-- the `destroy` events, each with the session that it is about -/
  destroyed : List (String × Nat) := []

/-- `new Session(healthTime)`. -/
def new (healthTime : Option Int) : State κ :=
  match healthTime with
  | some given => { healthTime := if given ≠ 0 then given else 3 * 60 * 1000 }
  | none => { healthTime := 3 * 60 * 1000 }

/-- Every record has a `_client` of its own. -/
def destroy (s : State κ) (sessionid : String) : State κ :=
  match s.sessionHandler.get? sessionid with
  | some session =>
    { s with
      closed := s.closed ++ [session.client]
      sessionHandler := s.sessionHandler.delete sessionid
      connectNum := s.connectNum - 1
      destroyed := s.destroyed ++ [(sessionid, session.serial)] }
  | none => s

def unhealthy (s : State κ) (curTime : Int) (id : String) : Bool :=
  match s.sessionHandler.get? id with
  | some session => session.state = .needClear || decide (curTime - session.lasthealth > s.healthTime)
  | none => false

def checkHealth (s : State κ) (curTime : Int) : State κ :=
  s.sessionHandler.keys.foldl (fun s id => if unhealthy s curTime id then destroy s id else s) s

/-- `createSId` counts, so that an id is a number. -/
def createSession (s : State κ) (client : κ) (sid : Nat) (now : Int) : State κ :=
  if s.sessionHandler.has (toString sid) then { s with closed := s.closed ++ [client] }
  else if s.connectNum ≥ maxConnections then { s with closed := s.closed ++ [client] }
  else
    { s with
      sessionHandler := s.sessionHandler.set (toString sid) ⟨.ready, client, now, s.created.length⟩
      connectNum := s.connectNum + 1
      created := s.created ++ [toString sid] }

def stop (s : State κ) : State κ := s.sessionHandler.keys.foldl destroy s

inductive Op (κ : Type) where
  | createSession (client : κ) (sid : Nat) (now : Int)
  /-- a message of the client whose session has the serial -/
  | message (sid : Nat) (serial : Nat) (now : Int)
  /-- a client that got the id has closed, now or a session ago -/
  | close (sid : Nat)
  | kick (sessionid : String)
  | checkHealth (curTime : Int)
  | stop

def step (s : State κ) : Op κ → State κ
  | .createSession client sid now => createSession s client sid now
  | .message sid serial now =>
    { s with sessionHandler := s.sessionHandler.modify (toString sid) fun session =>
        if session.serial = serial then { session with lasthealth := now } else session }
  | .close sid => destroy s (toString sid)
  | .kick sessionid => destroy s sessionid
  | .checkHealth curTime => checkHealth s curTime
  | .stop => stop s

/-- The session with the serial is there, under the id. -/
def Open (s : State κ) (id : String) (serial : Nat) : Prop :=
  ∃ session, s.sessionHandler.get? id = some session ∧ session.serial = serial

/-- The counter counts the entries, and every session created has had its one `destroy` event, or is still open. -/
structure Balanced (s : State κ) : Prop where
  counted : s.connectNum = s.sessionHandler.keys.length
  bounded : s.connectNum ≤ maxConnections
  open_ : ∀ id serial, Open s id serial → s.created[serial]? = some id ∧ s.destroyed.count (id, serial) = 0
  gone : ∀ id serial, s.created[serial]? = some id → ¬ Open s id serial → s.destroyed.count (id, serial) = 1
  known : ∀ event ∈ s.destroyed, s.created[event.2]? = some event.1

/-- An id that is in use stays with its session. -/
def Kept (s s' : State κ) : Prop :=
  ∀ id session session', s.sessionHandler.get? id = some session → s'.sessionHandler.get? id = some session' →
    session'.serial = session.serial ∧ session'.client = session.client

variable {s : State κ} {id : String}

theorem length_keys (o : Obj (Record κ)) : o.keys.length = o.count fun _ => true := by
  rw [Obj.count, List.countP_true]
  exact List.length_map _

theorem new_balanced (healthTime : Option Int) : Balanced (new healthTime : State κ) := by
  have fresh : ∀ time, Balanced ({ healthTime := time } : State κ) := fun time =>
    ⟨rfl, (by decide : (0 : Int) ≤ maxConnections), fun _ _ ⟨_, there, _⟩ => (by cases there), fun _ _ there => (by cases there),
      fun _ there => absurd there List.not_mem_nil⟩
  unfold new
  split
  · exact fresh _
  · exact fresh _

/-! ### Removal -/

theorem destroy_balanced (balanced : Balanced s) (id : String) : Balanced (destroy s id) := by
  obtain ⟨counted, bounded, open_, gone, known⟩ := balanced
  unfold destroy
  cases found : s.sessionHandler.get? id with
  | none => exact ⟨counted, bounded, open_, gone, known⟩
  | some session =>
    dsimp only
    have fewer := Obj.count_delete s.sessionHandler (fun _ => true) found
    have was : Open s id session.serial := ⟨session, found, rfl⟩
    have stays : ∀ other serial, Open { s with sessionHandler := s.sessionHandler.delete id } other serial ↔
        Open s other serial ∧ other ≠ id := by
      intro other serial
      unfold Open
      dsimp only
      rw [Obj.get?_delete]
      by_cases same : other = id <;> simp [same]
    constructor
    · rw [length_keys] at counted ⊢
      dsimp only
      simp only [Bool.toNat_true] at fewer
      omega
    · dsimp only
      omega
    · intro other serial there
      obtain ⟨before, different⟩ := (stays other serial).mp there
      obtain ⟨listed, none_⟩ := open_ other serial before
      refine ⟨listed, ?_⟩
      dsimp only
      rw [List.count_append, none_, List.count_singleton]
      simp [different.symm]
    · intro other serial listed closed
      dsimp only at listed ⊢
      rw [List.count_append, List.count_singleton]
      by_cases same : other = id
      · subst same
        by_cases this_ : session.serial = serial
        · subst this_
          rw [(open_ other _ was).2]
          simp
        · have before : ¬ Open s other serial := by
            rintro ⟨there, at_, is⟩
            rw [found] at at_
            exact this_ (Option.some.inj at_ ▸ is)
          rw [gone other serial listed before]
          simp [this_]
      · have before : ¬ Open s other serial := fun there => closed ((stays other serial).mpr ⟨there, same⟩)
        rw [gone other serial listed before]
        simp [Ne.symm same]
    · intro event there
      rcases List.mem_append.mp there with old | last
      · exact known event old
      · rw [List.mem_singleton.mp last]
        exact (open_ id session.serial was).1

theorem destroy_get (s : State κ) (id other : String) :
    (destroy s id).sessionHandler.get? other = if other = id then none else s.sessionHandler.get? other := by
  unfold destroy
  cases found : s.sessionHandler.get? id with
  | some session => exact Obj.get?_delete _ _ _
  | none =>
    dsimp only
    split
    · rename_i same
      rw [same, found]
    · rfl

/-- What is there after a removal was there before it. -/
theorem destroy_was {other : String} {session : Record κ} (there : (destroy s id).sessionHandler.get? other = some session) :
    s.sessionHandler.get? other = some session := by
  rw [destroy_get] at there
  split at there
  · cases there
  · exact there

/-- Any number of removals. -/
theorem removals_keep {remove : State κ → String → State κ} (each : ∀ s id, remove s id = destroy s id ∨ remove s id = s)
    (ids : List String) (balanced : Balanced s) :
    Balanced (ids.foldl remove s) ∧ ∀ other session, (ids.foldl remove s).sessionHandler.get? other = some session →
      s.sessionHandler.get? other = some session := by
  induction ids generalizing s with
  | nil => exact ⟨balanced, fun _ _ there => there⟩
  | cons id rest ih =>
    rw [List.foldl_cons]
    rcases each s id with removed | same
    · rw [removed]
      obtain ⟨after, was⟩ := ih (destroy_balanced balanced id)
      exact ⟨after, fun other session there => destroy_was (was other session there)⟩
    · rw [same]
      exact ih balanced

theorem kept_of_was {s' : State κ}
    (was : ∀ other session, s'.sessionHandler.get? other = some session → s.sessionHandler.get? other = some session) : Kept s s' := by
  intro id session session' before after
  obtain rfl := Option.some.inj (before.symm.trans (was id session' after))
  exact ⟨rfl, rfl⟩

/-! ### The other operations -/

theorem createSession_balanced (balanced : Balanced s) (client : κ) (sid : Nat) (now : Int) :
    Balanced (createSession s client sid now) := by
  obtain ⟨counted, bounded, open_, gone, known⟩ := balanced
  unfold createSession
  split
  · exact ⟨counted, bounded, open_, gone, known⟩
  · rename_i free
    split
    · exact ⟨counted, bounded, open_, gone, known⟩
    · rename_i room
      have absent : s.sessionHandler.get? (toString sid) = none := Obj.has_eq_false.mp (by simpa using free)
      have early : ∀ (serial : Nat) (id : String), s.created[serial]? = some id → serial < s.created.length :=
        fun serial id listed => (List.getElem?_eq_some_iff.mp listed).1
      have opened : ∀ (id : String) (serial : Nat),
          (∃ session, (s.sessionHandler.set (toString sid) ⟨.ready, client, now, s.created.length⟩).get? id = some session ∧
            session.serial = serial) ↔ id = toString sid ∧ serial = s.created.length ∨ id ≠ toString sid ∧ Open s id serial := by
        intro id serial
        rw [Obj.get?_set]
        by_cases same : id = toString sid
        · rw [if_pos same]
          constructor
          · rintro ⟨_, found, is⟩
            rw [← Option.some.inj found] at is
            exact .inl ⟨same, is.symm⟩
          · rintro (⟨-, is⟩ | ⟨different, -⟩)
            · exact ⟨_, rfl, is.symm⟩
            · exact absurd same different
        · rw [if_neg same]
          constructor
          · exact fun there => .inr ⟨same, there⟩
          · rintro (⟨here, -⟩ | ⟨-, there⟩)
            · exact absurd here same
            · exact there
      have fresh : s.destroyed.count (toString sid, s.created.length) = 0 := by
        rw [List.count_eq_zero]
        intro there
        exact absurd (early _ _ (known _ there)) (Nat.lt_irrefl _)
      constructor
      · dsimp only
        rw [length_keys, Obj.count_set, Obj.count_delete_of_none _ _ absent, counted, length_keys]
        rfl
      · dsimp only
        omega
      · intro id serial there
        dsimp only
        rcases (opened id serial).mp there with ⟨rfl, rfl⟩ | ⟨different, before⟩
        · exact ⟨List.getElem?_concat_length, fresh⟩
        · obtain ⟨listed, none_⟩ := open_ id serial before
          exact ⟨(List.getElem?_append_left (early serial id listed)).trans listed, none_⟩
      · intro id serial listed closed
        dsimp only at listed ⊢
        rcases Nat.lt_or_ge serial s.created.length with old | new
        · rw [List.getElem?_append_left old] at listed
          refine gone id serial listed fun before => closed ((opened id serial).mpr (.inr ⟨?_, before⟩))
          rintro rfl
          obtain ⟨_, there, _⟩ := before
          rw [absent] at there
          cases there
        · have last : serial = s.created.length ∧ id = toString sid := by
            have within := (List.getElem?_eq_some_iff.mp listed).1
            rw [List.length_append, List.length_singleton] at within
            have here : serial = s.created.length := by omega
            rw [here, List.getElem?_concat_length] at listed
            exact ⟨here, (Option.some.inj listed).symm⟩
          exact absurd ((opened id serial).mpr (.inl ⟨last.2, last.1⟩)) closed
      · intro event there
        have listed := known event there
        exact (List.getElem?_append_left (early _ _ listed)).trans listed

theorem createSession_kept (s : State κ) (client : κ) (sid : Nat) (now : Int) : Kept s (createSession s client sid now) := by
  intro id session session' before after
  unfold createSession at after
  split at after
  · obtain rfl := Option.some.inj (before.symm.trans after)
    exact ⟨rfl, rfl⟩
  · rename_i free
    split at after
    · obtain rfl := Option.some.inj (before.symm.trans after)
      exact ⟨rfl, rfl⟩
    · have different : id ≠ toString sid := by
        rintro rfl
        exact free (Obj.has_iff.mpr ⟨session, before⟩)
      dsimp only at after
      rw [Obj.get?_set_of_ne _ _ different] at after
      obtain rfl := Option.some.inj (before.symm.trans after)
      exact ⟨rfl, rfl⟩

theorem message_get (s : State κ) (sid serial : Nat) (now : Int) (id : String) :
    ∃ touch : Record κ → Record κ, (∀ session, (touch session).serial = session.serial ∧ (touch session).client = session.client) ∧
      (step s (.message sid serial now)).sessionHandler.get? id = (s.sessionHandler.get? id).map touch := by
  by_cases same : id = toString sid
  · refine ⟨fun session => if session.serial = serial then { session with lasthealth := now } else session, ?_, ?_⟩
    · intro session
      dsimp only
      split <;> exact ⟨rfl, rfl⟩
    · show (s.sessionHandler.modify _ _).get? id = _
      rw [Obj.get?_modify, if_pos same, same]
  · refine ⟨fun session => session, fun _ => ⟨rfl, rfl⟩, ?_⟩
    show (s.sessionHandler.modify _ _).get? id = _
    rw [Obj.get?_modify, if_neg same]
    simp

theorem message_balanced (balanced : Balanced s) (sid serial : Nat) (now : Int) :
    Balanced (step s (.message sid serial now)) := by
  have same : ∀ id n, Open (step s (.message sid serial now)) id n ↔ Open s id n := by
    intro id n
    obtain ⟨touch, alike, found⟩ := message_get s sid serial now id
    unfold Open
    rw [found]
    cases s.sessionHandler.get? id with
    | none => simp
    | some session => simp [(alike session).1]
  obtain ⟨counted, bounded, open_, gone, known⟩ := balanced
  refine ⟨?_, bounded, fun id n there => open_ id n ((same id n).mp there),
    fun id n listed closed => gone id n listed fun there => closed ((same id n).mpr there), known⟩
  show s.connectNum = (s.sessionHandler.modify _ _).keys.length
  rw [Obj.keys_modify]
  exact counted

theorem message_kept (s : State κ) (sid serial : Nat) (now : Int) : Kept s (step s (.message sid serial now)) := by
  intro id session session' before after
  obtain ⟨touch, alike, found⟩ := message_get s sid serial now id
  rw [found, before] at after
  obtain rfl := Option.some.inj after
  exact alike session

theorem step_sound (balanced : Balanced s) (op : Op κ) : Balanced (step s op) ∧ Kept s (step s op) := by
  have removals {remove : State κ → String → State κ} (each : ∀ s id, remove s id = destroy s id ∨ remove s id = s)
      (ids : List String) : Balanced (ids.foldl remove s) ∧ Kept s (ids.foldl remove s) := by
    obtain ⟨after, was⟩ := removals_keep each ids balanced
    exact ⟨after, kept_of_was was⟩
  cases op with
  | createSession client sid now => exact ⟨createSession_balanced balanced client sid now, createSession_kept s client sid now⟩
  | message sid serial now => exact ⟨message_balanced balanced sid serial now, message_kept s sid serial now⟩
  | close sid => exact removals (fun _ _ => .inl rfl) [toString sid]
  | kick sessionid => exact removals (fun _ _ => .inl rfl) [sessionid]
  | checkHealth curTime =>
    refine removals (fun s id => ?_) s.sessionHandler.keys
    split
    · exact .inl rfl
    · exact .inr rfl
  | stop => exact removals (fun _ _ => .inl rfl) s.sessionHandler.keys

/-- After any operations the counter is right and every session has its one event or is open, and no operation puts
another session in the place of one that is open. -/
theorem sessions_balanced (healthTime : Option Int) (ops : List (Op κ)) :
    Balanced (run step (new healthTime) ops) ∧
      ∀ past op later, ops = past ++ op :: later →
        Kept (run step (new healthTime) past) (run step (new healthTime) (past ++ [op])) := by
  have always : ∀ ops : List (Op κ), Balanced (run step (new healthTime) ops) := fun ops =>
    run_keeps Balanced (fun _ op balanced => (step_sound balanced op).1) (new_balanced healthTime) ops
  refine ⟨always ops, ?_⟩
  rintro past op later rfl
  rw [run_append]
  exact (step_sound (always past) op).2

end Tinygame.Sessions
