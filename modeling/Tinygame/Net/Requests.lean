import Mathlib.Data.Rat.Floor
import Tinygame.Base.Obj
import Tinygame.Base.Run

/-!
# The requesting end of a link to the broker

`module/net/mdp/request.js`. A request sent to one server is recorded under its id until something
arrives about it or its time is up. `δ` is the payload; the ids `uuid.v4` makes are given.
-/

namespace Tinygame.Requests
variable {δ : Type}

def DEFAULT_LIVENESS : Int := 3
def REQ_CHECKTIME : ℚ := 2500

inductive RequestType where
  | POINT
  | BROADCAST
  deriving DecidableEq

structure Request where
  type : RequestType
  liveness : Int
  deriving DecidableEq

/-- `new Request(type, timeout)`, with the timeout in milliseconds. -/
def Request.new (type : RequestType) (timeout : Option ℚ) : Request where
  type
  liveness :=
    match timeout with
    | some timeout => if timeout ≠ 0 ∧ 0 ≤ timeout then ⌊timeout / REQ_CHECKTIME⌋ else DEFAULT_LIVENESS
    | none => DEFAULT_LIVENESS

/-- What the client passes on. -/
inductive Emitted (δ : Type) where
  | disconnect (rid workid : String)
  | done (rid : String)
  | data (rid : String) (data : δ)
  deriving DecidableEq

/-- The text of a reply: `JSON.parse` or the access to `current` throws, it is falsy, or it is a message. -/
inductive Text (δ : Type) where
  | throws
  | falsy
  | data (data : δ)
  deriving DecidableEq

/-- A message with its type; the broker names a worker or a server in it. -/
inductive Msg (δ : Type) where
  | disconnect (workid : String)
  | done
  | reply (workid : String) (text : Text δ)
  | noexists (server : String)
  | other
  deriving DecidableEq

structure State (δ : Type) where
  socket : Bool := false
  reqs : Obj Request := ∅
  /-- server, id and payload of what was sent -/
  sent : List (String × String × δ) := []
  emitted : List (Emitted δ) := []

def checkOne (reqs : Obj Request) (rid : String) : Obj Request :=
  match reqs.get? rid with
  | some req =>
    let reqs := reqs.set rid { req with liveness := req.liveness - 1 }
    if req.liveness - 1 < 0 then reqs.delete rid else reqs
  | none => reqs

def checkReq (s : State δ) : State δ := { s with reqs := s.reqs.keys.foldl checkOne s.reqs }

def removeReq (s : State δ) (rid : String) : State δ := if s.reqs.has rid then { s with reqs := s.reqs.delete rid } else s

def addRequest (s : State δ) (type : RequestType) (rid : String) (timeout : Option ℚ) : State δ :=
  { s with reqs := s.reqs.set rid (.new type timeout) }

/-- `none` where it returns `null`. An undefined `msg` is `none`. -/
def sendMsg (s : State δ) (server : String) (msg : Option δ) (uniqueId : Option String) (uuid : String) : State δ × Option String :=
  if !s.socket then (s, none)
  else
    match msg with
    | none => (s, none)
    | some msg =>
      if server = "" then (s, none)
      else
        let rid := uniqueId.getD uuid
        ({ s with sent := s.sent ++ [(server, rid, msg)] }, some rid)

def send (s : State δ) (server : String) (msg : Option δ) (uniqueId : Option String) (timeout : Option ℚ) (uuid : String) :
    State δ × Option String :=
  let (s, rid) := sendMsg s server msg uniqueId uuid
  match rid with
  | some rid => if rid = "" then (s, none) else (addRequest s .POINT rid timeout, some rid)
  | none => (s, none)

def broadcast (s : State δ) (server : String) (msg : Option δ) (uuid : String) : State δ × Option String :=
  sendMsg s ("all-" ++ server) msg none uuid

def emit (s : State δ) (e : Emitted δ) : State δ := { s with emitted := s.emitted ++ [e] }

/-- The end of the listener. -/
def clear (s : State δ) (rid : String) : State δ := if rid ≠ "" then removeReq s rid else s

/-- The listener of the socket. A text that throws leaves the rest undone. -/
def onMessage (s : State δ) (rid : String) : Msg δ → State δ
  | .disconnect workid => clear (emit s (.disconnect rid workid)) rid
  | .done => clear (emit s (.done rid)) rid
  | .reply _ .throws => s
  | .reply _ .falsy => clear s rid
  | .reply _ (.data data) => clear (emit s (.data rid data)) rid
  | .noexists _ => clear s rid
  | .other => clear s rid

def opened (s : State δ) : State δ := { s with socket := true }

def close (s : State δ) : State δ := { s with socket := false, reqs := s.reqs.keys.foldl (fun reqs rid => reqs.delete rid) s.reqs }

inductive Event (δ : Type) where
  | send (server : String) (msg : Option δ) (uniqueId : Option String) (timeout : Option ℚ) (uuid : String)
  | broadcast (server : String) (msg : Option δ) (uuid : String)
  /-- something arrives -/
  | message (rid : String) (msg : Msg δ)
  /-- the timer -/
  | checkReq
  deriving DecidableEq

def step (s : State δ) : Event δ → State δ
  | .send server msg uniqueId timeout uuid => (send s server msg uniqueId timeout uuid).1
  | .broadcast server msg uuid => (broadcast s server msg uuid).1
  | .message rid msg => onMessage s rid msg
  | .checkReq => checkReq s

/-! ### What an event does to one request -/

variable {s : State δ} {rid : String}

/-- A request one check later. -/
def Request.aged (req : Request) : Option Request :=
  if req.liveness - 1 < 0 then none else some { req with liveness := req.liveness - 1 }

theorem get?_checkOne (reqs : Obj Request) (key k : String) :
    (checkOne reqs key).get? k = if k = key then (reqs.get? k).bind Request.aged else reqs.get? k := by
  unfold checkOne
  by_cases same : k = key
  · subst same
    rw [if_pos rfl]
    cases found : reqs.get? k with
    | none => exact found
    | some req =>
      dsimp only
      rw [Option.bind_some, Request.aged]
      split <;> simp
  · rw [if_neg same]
    cases reqs.get? key with
    | none => rfl
    | some req =>
      dsimp only
      split
      · rw [Obj.get?_delete_of_ne _ same, Obj.get?_set_of_ne _ _ same]
      · rw [Obj.get?_set_of_ne _ _ same]

theorem get?_foldl_checkOne {keys : List String} (once : keys.Nodup) (reqs : Obj Request) (k : String) :
    (keys.foldl checkOne reqs).get? k = if k ∈ keys then (reqs.get? k).bind Request.aged else reqs.get? k := by
  induction keys generalizing reqs with
  | nil => simp
  | cons key rest ih =>
    obtain ⟨fresh, once⟩ := List.nodup_cons.mp once
    rw [List.foldl_cons, ih once, get?_checkOne]
    by_cases same : k = key
    · subst same
      simp [fresh]
    · simp [same]

/-- A check ages every request once. -/
theorem get?_checkReq (s : State δ) (rid : String) : (checkReq s).reqs.get? rid = (s.reqs.get? rid).bind Request.aged := by
  show (s.reqs.keys.foldl checkOne s.reqs).get? rid = _
  rw [get?_foldl_checkOne s.reqs.keys_nodup]
  split
  · rfl
  · rename_i absent
    have none_ : s.reqs.get? rid = none := by
      by_contra present
      obtain ⟨req, found⟩ := Option.ne_none_iff_exists'.mp present
      exact absent (Obj.mem_keys_iff.mpr ⟨req, found⟩)
    rw [none_]
    rfl

theorem get?_removeReq (s : State δ) (key k : String) :
    (removeReq s key).reqs.get? k = if k = key then none else s.reqs.get? k := by
  unfold removeReq
  split
  · exact Obj.get?_delete s.reqs key k
  · rename_i absent
    split
    · rename_i same
      rw [same]
      exact Obj.has_eq_false.mp (by simpa using absent)
    · rfl

/-- A closed client has no request left. -/
theorem get?_close (s : State δ) (rid : String) : (close s).reqs.get? rid = none := by
  have emptied : ∀ (keys : List String) (reqs : Obj Request), (rid ∈ keys ∨ reqs.get? rid = none) →
      (keys.foldl (fun reqs key => reqs.delete key) reqs).get? rid = none := by
    intro keys
    induction keys with
    | nil => simp
    | cons key rest ih =>
      intro reqs there
      apply ih
      rw [Obj.get?_delete]
      by_cases same : rid = key
      · simp [same]
      · simpa [same] using there
  apply emptied
  by_cases there : rid ∈ s.reqs.keys
  · exact .inl there
  · right
    by_contra present
    obtain ⟨req, found⟩ := Option.ne_none_iff_exists'.mp present
    exact there (Obj.mem_keys_iff.mpr ⟨req, found⟩)

/-- The listener throws before it is through. -/
def Msg.throws : Msg δ → Bool
  | .reply _ .throws => true
  | _ => false

/-- What the event records about the request. -/
def records (rid : String) : Event δ → Option Request
  | .send server (some _) uniqueId timeout uuid =>
    if server ≠ "" ∧ uniqueId.getD uuid = rid ∧ rid ≠ "" then some (.new .POINT timeout) else none
  | _ => none

/-- Something arrives about the request and is read. -/
def settles (rid : String) : Event δ → Bool
  | .message key msg => key = rid ∧ rid ≠ "" ∧ msg.throws = false
  | _ => false

/-- What a check leaves of a request; other events leave it as it is. -/
def ageing : Event δ → Option Request → Option Request
  | .checkReq, req => req.bind Request.aged
  | _, req => req

theorem sendMsg_frame (s : State δ) (server : String) (msg : Option δ) (uniqueId : Option String) (uuid : String) :
    (sendMsg s server msg uniqueId uuid).1.socket = s.socket ∧ (sendMsg s server msg uniqueId uuid).1.reqs = s.reqs ∧
      (sendMsg s server msg uniqueId uuid).1.emitted = s.emitted := by
  unfold sendMsg
  split
  · exact ⟨rfl, rfl, rfl⟩
  · cases msg with
    | none => exact ⟨rfl, rfl, rfl⟩
    | some msg =>
      dsimp only
      split <;> exact ⟨rfl, rfl, rfl⟩

theorem clear_frame (s : State δ) (rid : String) : (clear s rid).socket = s.socket ∧ (clear s rid).emitted = s.emitted := by
  unfold clear removeReq
  split
  · split <;> exact ⟨rfl, rfl⟩
  · exact ⟨rfl, rfl⟩

theorem step_socket (s : State δ) (e : Event δ) : (step s e).socket = s.socket := by
  cases e with
  | send server msg uniqueId timeout uuid =>
    have frame := (sendMsg_frame s server msg uniqueId uuid).1
    unfold step send
    dsimp only
    split
    · split <;> exact frame
    · exact frame
  | broadcast server msg uuid => exact (sendMsg_frame s _ msg none uuid).1
  | message key msg =>
    cases msg with
    | reply workid text => cases text <;> simp [step, onMessage, clear_frame, emit]
    | _ => simp [step, onMessage, clear_frame, emit]
  | checkReq => rfl

theorem get?_send {server : String} {msg : Option δ} {uniqueId : Option String} {timeout : Option ℚ} {uuid : String}
    (isOpen : s.socket = true) (rid : String) :
    (send s server msg uniqueId timeout uuid).1.reqs.get? rid =
      (records rid (.send server msg uniqueId timeout uuid)).or (s.reqs.get? rid) := by
  unfold send sendMsg
  cases msg with
  | none => simp [isOpen, records]
  | some msg =>
    by_cases named : server = ""
    · simp [isOpen, named, records]
    · by_cases empty : uniqueId.getD uuid = ""
      · simp only [isOpen, named, empty, records]
        simp
      · by_cases same : uniqueId.getD uuid = rid
        · subst same
          simp [isOpen, named, empty, records, addRequest]
        · simp [isOpen, named, empty, records, addRequest, same, Obj.get?_set_of_ne _ _ (Ne.symm same)]

theorem get?_onMessage (s : State δ) (key : String) (msg : Msg δ) (rid : String) :
    (onMessage s key msg).reqs.get? rid = if settles rid (.message key msg) = true then none else s.reqs.get? rid := by
  have done : ∀ s' : State δ, s'.reqs = s.reqs → msg.throws = false →
      (clear s' key).reqs.get? rid =
        if settles rid (.message key msg) = true then none else s.reqs.get? rid := by
    intro s' same reads
    unfold clear
    by_cases here : key = rid
    · subst here
      by_cases named : key = ""
      · simp [settles, named, same]
      · simp [settles, named, reads, get?_removeReq]
    · have unsettled : settles rid (.message key msg) = false := by simp [settles, here]
      rw [unsettled]
      by_cases named : key = ""
      · simp [named, same]
      · simp [named, get?_removeReq, Ne.symm here, same]
  unfold onMessage
  cases msg with
  | reply workid text =>
    cases text with
    | throws => simp [settles, Msg.throws]
    | falsy | data => exact done _ rfl rfl
  | _ => exact done _ rfl rfl

/-- What an event does to one request. -/
theorem get?_step (isOpen : s.socket = true) (e : Event δ) (rid : String) :
    (step s e).reqs.get? rid =
      (records rid e).or (if settles rid e = true then none else ageing e (s.reqs.get? rid)) := by
  cases e with
  | send server msg uniqueId timeout uuid => exact get?_send isOpen rid
  | broadcast server msg uuid => exact congrArg (Obj.get? · rid) (sendMsg_frame s _ msg none uuid).2.1
  | message key msg => exact get?_onMessage s key msg rid
  | checkReq => exact get?_checkReq s rid

/-! ### Runs -/

def checks (events : List (Event δ)) : Nat := events.countP fun e => match e with
  | .checkReq => true
  | _ => false

/-- The event is about the request. -/
def touches (rid : String) (e : Event δ) : Bool := (records rid e).isSome || settles rid e

theorem last_touch (rid : String) (events : List (Event δ)) :
    (∀ e ∈ events, touches rid e = false) ∨
      ∃ before e after, events = before ++ e :: after ∧ touches rid e = true ∧ ∀ later ∈ after, touches rid later = false := by
  induction events with
  | nil => exact .inl (by simp)
  | cons e rest ih =>
    rcases ih with none_ | ⟨before, last, after, rfl, touched, quiet⟩
    · cases touched : touches rid e with
      | true => exact .inr ⟨[], e, rest, rfl, touched, none_⟩
      | false => exact .inl (List.forall_mem_cons.mpr ⟨touched, none_⟩)
    · exact .inr ⟨e :: before, last, after, rfl, touched, quiet⟩

theorem run_socket (isOpen : s.socket = true) (events : List (Event δ)) : (run step s events).socket = true :=
  run_keeps (fun s => s.socket = true) (fun s e => (step_socket s e).trans) isOpen events

theorem get?_step_quiet (isOpen : s.socket = true) {e : Event δ} (quiet : touches rid e = false) :
    (step s e).reqs.get? rid = ageing e (s.reqs.get? rid) := by
  obtain ⟨unrecorded, unsettled⟩ := Bool.or_eq_false_iff.mp quiet
  have nothing : records rid e = none := by simpa using unrecorded
  rw [get?_step isOpen, nothing, unsettled]
  simp

theorem run_absent (isOpen : s.socket = true) {events : List (Event δ)} (quiet : ∀ e ∈ events, touches rid e = false)
    (absent : s.reqs.get? rid = none) : (run step s events).reqs.get? rid = none := by
  induction events generalizing s with
  | nil => exact absent
  | cons e rest ih =>
    obtain ⟨first, later⟩ := List.forall_mem_cons.mp quiet
    apply ih ((step_socket s e).trans isOpen) later
    rw [get?_step_quiet isOpen first, absent]
    cases e <;> rfl

/-- A request nothing is about any more ages with the checks. -/
theorem run_ages (isOpen : s.socket = true) {events : List (Event δ)} (quiet : ∀ e ∈ events, touches rid e = false)
    {req : Request} (alive : 0 ≤ req.liveness) (found : s.reqs.get? rid = some req) :
    (run step s events).reqs.get? rid =
      if (checks events : Int) ≤ req.liveness then some { req with liveness := req.liveness - checks events } else none := by
  induction events generalizing s req with
  | nil => simpa [checks, alive] using found
  | cons e rest ih =>
    obtain ⟨first, later⟩ := List.forall_mem_cons.mp quiet
    have isOpen' := (step_socket s e).trans isOpen
    have next := get?_step_quiet isOpen first
    rw [found] at next
    rw [run_cons]
    cases e with
    | checkReq =>
      have count : checks (.checkReq :: rest) = checks rest + 1 := by simp [checks]
      rw [count]
      by_cases dies : req.liveness - 1 < 0
      · have gone : (step s .checkReq).reqs.get? rid = none := by
          rw [next]
          simp [ageing, Request.aged, dies]
        rw [run_absent isOpen' later gone, if_neg (by omega)]
      · have aged : (step s .checkReq).reqs.get? rid = some { req with liveness := req.liveness - 1 } := by
          rw [next]
          simp [ageing, Request.aged, dies]
        rw [ih isOpen' later (by show 0 ≤ req.liveness - 1; omega) aged]
        have same : ((checks rest : Int) ≤ req.liveness - 1) = (((checks rest + 1 : Nat) : Int) ≤ req.liveness) := by
          apply propext
          omega
        have left : req.liveness - 1 - (checks rest : Int) = req.liveness - ((checks rest + 1 : Nat) : Int) := by omega
        simp only [same, left]
    | send server msg uniqueId timeout uuid => exact ih isOpen' later alive next
    | broadcast server msg uuid => exact ih isOpen' later alive next
    | message key msg => exact ih isOpen' later alive next

theorem new_alive (type : RequestType) (timeout : Option ℚ) : 0 ≤ (Request.new type timeout).liveness := by
  unfold Request.new
  cases timeout with
  | none => exact (by decide : 0 ≤ DEFAULT_LIVENESS)
  | some timeout =>
    dsimp only
    split
    · rename_i given
      apply Int.floor_nonneg.mpr
      exact div_nonneg given.2 (by norm_num [REQ_CHECKTIME])
    · decide

theorem records_alive {e : Event δ} {first : Request} (recorded : records rid e = some first) : 0 ≤ first.liveness := by
  unfold records at recorded
  split at recorded
  · split at recorded
    · obtain rfl := Option.some.inj recorded
      exact new_alive _ _
    · cases recorded
  · cases recorded

/-- What the event makes the client pass on. -/
def passes : Event δ → Option (Emitted δ)
  | .message rid (.disconnect workid) => some (.disconnect rid workid)
  | .message rid .done => some (.done rid)
  | .message rid (.reply _ (.data data)) => some (.data rid data)
  | _ => none

theorem step_emitted (s : State δ) (e : Event δ) : (step s e).emitted = s.emitted ++ (passes e).toList := by
  cases e with
  | send server msg uniqueId timeout uuid =>
    have frame := (sendMsg_frame s server msg uniqueId uuid).2.2
    rw [show passes (.send server msg uniqueId timeout uuid) = none from rfl, Option.toList_none, List.append_nil]
    unfold step send
    dsimp only
    split
    · split <;> exact frame
    · exact frame
  | broadcast server msg uuid =>
    exact (sendMsg_frame s _ msg none uuid).2.2.trans (List.append_nil _).symm
  | message key msg =>
    cases msg with
    | reply workid text => cases text <;> simp [step, onMessage, passes, clear_frame, emit]
    | _ => simp [step, onMessage, passes, clear_frame, emit]
  | checkReq => exact (List.append_nil _).symm

theorem run_emitted (s : State δ) (events : List (Event δ)) :
    (run step s events).emitted = s.emitted ++ events.filterMap passes := by
  induction events generalizing s with
  | nil => simp
  | cons e rest ih =>
    rw [run_cons, ih, step_emitted, List.filterMap_cons]
    cases passes e <;> simp

/-- A request is recorded while nothing has arrived about it since it was last sent and it has not met more checks than its
timeout allows. What the client passes on does not depend on the records: it is what arrives, also when it arrives late or again. -/
theorem reqs_exact (events : List (Event δ)) (rid : String) (req : Request) :
    ((run step (opened {}) events).reqs.get? rid = some req ↔
      ∃ before e after first, events = before ++ e :: after ∧ records rid e = some first ∧
        (∀ later ∈ after, touches rid later = false) ∧ (checks after : Int) ≤ first.liveness ∧
          req = { first with liveness := first.liveness - checks after }) ∧
      (run step (opened {}) events).emitted = events.filterMap passes := by
  refine ⟨?_, by rw [run_emitted]; rfl⟩
  have isOpen : ∀ before : List (Event δ), (run step (opened {}) before).socket = true := run_socket rfl
  -- what the last event about the request leaves is all that counts
  have since : ∀ (before : List (Event δ)) e after first, records rid e = some first → (∀ later ∈ after, touches rid later = false) →
      (run step (opened {}) (before ++ e :: after)).reqs.get? rid =
        if (checks after : Int) ≤ first.liveness then some { first with liveness := first.liveness - checks after } else none := by
    intro before e after first recorded quiet
    have found := get?_step (isOpen before) e rid
    rw [recorded, Option.some_or] at found
    rw [run_append, run_cons]
    exact run_ages ((step_socket _ e).trans (isOpen before)) quiet (records_alive recorded) found
  constructor
  · intro found
    rcases last_touch rid events with quiet | ⟨before, e, after, rfl, touched, quiet⟩
    · rw [run_absent rfl quiet rfl] at found
      cases found
    · cases recorded : records rid e with
      | some first =>
        rw [since before e after first recorded quiet] at found
        split at found
        · rename_i young
          exact ⟨before, e, after, first, rfl, recorded, quiet, young, (Option.some.inj found).symm⟩
        · cases found
      | none =>
        have settled : settles rid e = true := by simpa [touches, recorded] using touched
        have gone := get?_step (isOpen before) e rid
        rw [recorded, settled, if_pos rfl, Option.none_or] at gone
        rw [run_append, run_cons, run_absent ((step_socket _ e).trans (isOpen before)) quiet gone] at found
        cases found
  · rintro ⟨before, e, after, first, rfl, recorded, quiet, young, rfl⟩
    rw [since before e after first recorded quiet, if_pos young]

end Tinygame.Requests
