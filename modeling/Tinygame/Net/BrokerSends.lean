import Tinygame.Net.BrokerSteps

/-!
# What an event makes the broker send

Requests and replies are passed on as they came, only a tick gives up requests, those of the workers
it expires, and it greets the workers it leaves.
-/

namespace Tinygame.Broker
variable {δ : Type} {b b' b'' : State δ}

/-- The broker went on to send messages that satisfy `p`. -/
def Sends (p : Msg δ → Prop) (b b' : State δ) : Prop := ∃ new, b'.socket = b.socket ++ new ∧ ∀ msg ∈ new, p msg

variable {p : Msg δ → Prop}

theorem Sends.refl (p : Msg δ → Prop) (b : State δ) : Sends p b b := ⟨[], by simp, by simp⟩

theorem Sends.of_socket (same : b'.socket = b.socket) : Sends p b b' := ⟨[], by simp [same], by simp⟩

theorem Sends.trans (first : Sends p b b') (second : Sends p b' b'') : Sends p b b'' := by
  obtain ⟨new, same, all⟩ := first
  obtain ⟨new', same', all'⟩ := second
  refine ⟨new ++ new', by rw [same', same, List.append_assoc], ?_⟩
  intro msg there
  rcases List.mem_append.mp there with here | here
  · exact all msg here
  · exact all' msg here

theorem Sends.imp {q : Msg δ → Prop} (sent : Sends p b b') (weaker : ∀ msg, p msg → q msg) : Sends q b b' := by
  obtain ⟨new, same, all⟩ := sent
  exact ⟨new, same, fun msg there => weaker msg (all msg there)⟩

theorem Sends.mem {msg : Msg δ} (sent : Sends p b b') (there : msg ∈ b'.socket) : msg ∈ b.socket ∨ p msg := by
  obtain ⟨new, same, all⟩ := sent
  rw [same, List.mem_append] at there
  exact there.imp_right (all msg)

theorem send_sends {msg : Msg δ} (holds : p msg) : Sends p b (send b msg) := ⟨[msg], rfl, by simpa using holds⟩

theorem foldl_sends {α : Type} {f : State δ → α → State δ} (keys : List α) (each : ∀ b, ∀ key ∈ keys, Sends p b (f b key))
    (b : State δ) : Sends p b (keys.foldl f b) := by
  induction keys generalizing b with
  | nil => exact .refl p b
  | cons key rest ih =>
    have first := each b key List.mem_cons_self
    exact first.trans (ih (fun b key there => each b key (List.mem_cons_of_mem _ there)) _)

theorem allReceiveProc_sends (done : ∀ clientid rid, p (.done clientid rid)) (b : State δ) (rid : String) :
    Sends p b (allReceiveProc b rid) := by
  unfold allReceiveProc
  split
  · exact .refl p b
  · exact ⟨_, rfl, by simp [done]⟩

theorem routeTo_sends {workid rid : String} {data : δ} (request : p (.request workid rid data)) (b : State δ)
    (type clientid : String) : Sends p b (routeTo b type workid clientid rid data) := ⟨_, rfl, by simp [request]⟩

theorem castTo_sends {workid rid : String} {data : δ} (request : p (.request workid rid data)) (type clientid : String)
    (b : State δ) : Sends p b (castTo type clientid rid data b workid) :=
  ⟨[.request workid rid data], castTo_socket type clientid rid workid data b, by simp [request]⟩

theorem routeReq_sends {server clientid rid : String} {data : δ} (request : ∀ workid, p (.request workid rid data))
    (refusal : p (.noexists clientid server rid data)) (b : State δ) : Sends p b (routeReq b server clientid rid data) := by
  have refused : ∀ b : State δ, Sends p b (send b (.noexists clientid server rid data)) := fun b => send_sends refusal
  have cast : ∀ type b, ∀ keys : List String, Sends p b (keys.foldl (castTo type clientid rid data) b) :=
    fun type b keys => foldl_sends keys (fun b key _ => castTo_sends (request key) type clientid b) b
  unfold routeReq
  split
  · split
    · exact routeTo_sends (request _) b _ _
    · exact refused b
  · split
    · split
      · simp only [foldl_castTurn, Option.or_none]
        split
        · exact cast _ b _
        · exact (cast _ b _).trans (refused _)
      · exact refused b
    · split
      · split
        · exact routeTo_sends (request _) b _ _
        · exact .refl p b
      · exact refused b

theorem relayReply_sends {workid rid : String} {data : δ} (reply : ∀ clientid, p (.reply clientid workid rid data))
    (done : ∀ clientid rid, p (.done clientid rid)) (b : State δ) : Sends p b (relayReply b workid rid data) := by
  have relayed : ∀ clientid, Sends p b (send b (.reply clientid workid rid data)) := fun clientid => send_sends (reply clientid)
  unfold relayReply
  split
  · split
    · dsimp only
      refine Sends.trans ?_ (allReceiveProc_sends done _ rid)
      split
      · exact relayed _
      · exact .refl p b
    · exact .refl p b
  · split
    · dsimp only
      split
      · exact relayed _
      · exact .refl p b
    · exact .refl p b

theorem dropReq_sends {workid : String} (lost : ∀ clientid rid, p (.disconnect clientid workid rid)) (b : State δ) (rid : String) :
    Sends p b (dropReq workid b rid) := by
  unfold dropReq
  split
  · dsimp only
    split
    · exact ⟨_, rfl, by simp [lost]⟩
    · exact .refl p b
  · exact .refl p b

theorem dropCast_sends (done : ∀ clientid rid, p (.done clientid rid)) (workid : String) (b : State δ) (rid : String) :
    Sends p b (dropCast workid b rid) := by
  unfold dropCast
  split
  · split
    · exact Sends.trans (.of_socket rfl) (allReceiveProc_sends done _ rid)
    · exact .refl p b
  · exact .refl p b

theorem dispatchReqs_sends {workid : String} (lost : ∀ clientid rid, p (.disconnect clientid workid rid))
    (done : ∀ clientid rid, p (.done clientid rid)) (b : State δ) : Sends p b (dispatchReqs b workid) := by
  have requests := foldl_sends b.reqmap.keys (fun b rid _ => dropReq_sends lost b rid) b
  have casts : ∀ b : State δ, Sends p b (b.castmsg.keys.foldl (dropCast workid) b) :=
    fun b => foldl_sends b.castmsg.keys (fun b rid _ => dropCast_sends done workid b rid) b
  exact requests.trans (casts _)

theorem checkWorker_sends {server workid : String} (greeting : p (.heartbeat workid)) (done : ∀ clientid rid, p (.done clientid rid))
    (b : State δ) (lost : b.dying server workid = true → ∀ clientid rid, p (.disconnect clientid workid rid)) :
    Sends p b (checkWorker server b workid) := by
  unfold checkWorker
  split
  · rename_i w found
    have aged : Sends p b (b.modifyWorker server workid fun w => { w with liveness := w.liveness - 1 }) := .of_socket rfl
    dsimp only
    split
    · rename_i dies
      have dying : b.dying server workid = true := by simpa [State.dying, found] using dies
      exact aged.trans ((dispatchReqs_sends (lost dying) done _).trans (.of_socket rfl))
    · exact aged.trans (send_sends greeting)
  · exact .refl p b

theorem foldl_checkEach_sends {entries : List (String × String)} (once : entries.Nodup)
    (greeting : ∀ workid, p (.heartbeat workid)) (done : ∀ clientid rid, p (.done clientid rid)) (b : State δ)
    (lost : ∀ entry ∈ entries, b.dying entry.1 entry.2 = true → ∀ clientid rid, p (.disconnect clientid entry.2 rid)) :
    Sends p b (entries.foldl checkEach b) := by
  induction entries generalizing b with
  | nil => exact .refl p b
  | cons entry rest ih =>
    obtain ⟨fresh, once⟩ := List.nodup_cons.mp once
    refine Sends.trans (checkWorker_sends (greeting entry.2) done b (lost entry List.mem_cons_self)) (ih once _ ?_)
    intro later there
    have different : (later.1, later.2) ≠ (entry.1, entry.2) := by
      intro same
      have equal : later = entry := same
      exact fresh (equal ▸ there)
    show (checkWorker entry.1 b entry.2).dying later.1 later.2 = true → _
    rw [dying_checkWorker b different]
    exact lost later (List.mem_cons_of_mem _ there)

/-- What the broker may send in an event. -/
def Due (b : State δ) (e : Event δ) : Msg δ → Prop
  | .request _ rid data => ∃ identity server, e = .message identity (.request server rid data)
  | .reply _ workid rid data => ∃ server, e = .message workid (.reply server rid data)
  | .disconnect _ workid _ => e = .timer ∧ workid ∈ b.expired
  | .done _ _ => True
  | .noexists clientid server rid data => e = .message clientid (.request server rid data)
  | .heartbeat _ => e = .timer

theorem step_sends (b : State δ) (e : Event δ) : Sends (Due b e) b (step b e) := by
  cases e with
  | timer =>
    show Sends (Due b .timer) b (checkWorkers b)
    rw [checkWorkers_eq]
    apply foldl_checkEach_sends (roster_nodup b)
    · exact fun _ => rfl
    · exact fun _ _ => trivial
    · exact fun entry _ dies _ _ => ⟨rfl, mem_expired.mpr ⟨entry.1, dies⟩⟩
  | message identity args =>
    cases args with
    | request server rid data =>
      apply routeReq_sends (p := Due b (.message identity (.request server rid data)))
      · exact fun _ => ⟨identity, server, rfl⟩
      · rfl
    | reply server rid data =>
      have relayed := relayReply_sends (p := Due b (.message identity (.reply server rid data))) (fun _ => ⟨server, rfl⟩)
        (fun _ _ => trivial) b
      exact relayed.trans (.of_socket rfl)
    | heartbeat server =>
      refine .of_socket ?_
      show ((b.addServer server).addWorker server identity).socket = b.socket
      unfold State.addWorker State.addServer
      split <;> split <;> rfl
    | other => exact .refl _ b

variable {id : String}

/-- The message does not give up a request to the worker. -/
def Keeps (id : String) (msg : Msg δ) : Prop := ∀ clientid rid, msg ≠ .disconnect clientid id rid

/-- No event gives up a request to a worker that it does not expire. -/
theorem step_keeps (b : State δ) {e : Event δ} (alive : e = .timer → id ∉ b.expired) : Sends (Keeps id) b (step b e) := by
  apply (step_sends b e).imp
  rintro msg due clientid rid rfl
  exact alive due.1 due.2

/-- A tick that does not expire a worker sends it a heartbeat. -/
theorem timer_greets {server : String} (registered : (b.worker? server id).isSome = true) (alive : id ∉ b.expired) :
    ∃ before after, (step b .timer).socket = b.socket ++ before ++ .heartbeat id :: after := by
  have member : (server, id) ∈ b.roster := mem_roster.mpr registered
  obtain ⟨first, second, whole⟩ := List.append_of_mem member
  have once := whole ▸ roster_nodup b
  obtain ⟨onceFirst, _, apart⟩ := List.nodup_append.mp once
  have lives : ∀ entry ∈ b.roster, entry.2 = id → b.dying entry.1 entry.2 = false := by
    intro entry _ same
    by_contra dies
    exact alive (mem_expired.mpr ⟨entry.1, by simpa [same] using dies⟩)
  have outside : (server, id) ∉ first := fun there => apart _ there _ List.mem_cons_self rfl
  obtain ⟨before, sentBefore, _⟩ := foldl_checkEach_sends (p := fun _ => True) onceFirst (fun _ => trivial) (fun _ _ => trivial) b
    fun _ _ _ _ _ => trivial
  have kept : (first.foldl checkEach b).worker? server id = b.worker? server id := by
    rw [worker?_foldl_checkEach onceFirst, if_neg outside]
  obtain ⟨w, found⟩ := Option.isSome_iff_exists.mp registered
  have here := lives (server, id) member rfl
  have stays : ¬ w.liveness - 1 < 0 := by simpa [State.dying, found] using here
  have greeted : (checkEach (first.foldl checkEach b) (server, id)).socket = b.socket ++ before ++ [.heartbeat id] := by
    simp [checkEach, checkWorker, kept, found, stays, send, State.modifyWorker, sentBefore]
  have onceSecond : second.Nodup := (List.nodup_cons.mp (List.nodup_append.mp once).2.1).2
  obtain ⟨after, sentAfter, _⟩ := foldl_checkEach_sends (p := fun _ => True) onceSecond (fun _ => trivial) (fun _ _ => trivial)
    (checkEach (first.foldl checkEach b) (server, id)) fun _ _ _ _ _ => trivial
  refine ⟨before, after, ?_⟩
  show (checkWorkers b).socket = _
  rw [checkWorkers_eq, whole, List.foldl_append, List.foldl_cons, sentAfter, greeted, List.append_assoc, List.singleton_append]

end Tinygame.Broker
