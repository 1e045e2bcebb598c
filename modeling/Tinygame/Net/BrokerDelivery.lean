import Tinygame.Net.BrokerSteps

/-!
# What the broker delivers

Runs of the broker from `open` on, with any interleaving of requests, replies, heartbeats and
ticks. A request handed to one worker ends at most once and is never forgotten; a request cast to
a type completes with its last worker.
-/

namespace Tinygame.Broker
variable {δ : Type} {b : State δ} {rid : String}

/-- The ids of the requests among the events, in order. -/
def requestIds (events : List (Event δ)) : List String :=
  events.filterMap fun e =>
    match e with
    | .message _ (.request _ rid _) => some rid
    | _ => none

theorem requestIds_append (first second : List (Event δ)) :
    requestIds (first ++ second) = requestIds first ++ requestIds second :=
  List.filterMap_append

theorem opens_iff {e : Event δ} : e.opens rid ↔ rid ∈ requestIds [e] := by
  cases e with
  | timer => simp [Event.opens, requestIds]
  | message identity args => cases args <;> simp [Event.opens, requestIds, eq_comm]

/-! ### What every run keeps -/

/-- What holds after the events `past`, whose requests have distinct ids. -/
structure Sound (past : List (Event δ)) (b : State δ) : Prop where
  alive : ∀ server workid w, b.worker? server workid = some w → 0 ≤ w.liveness
  held : ∀ rid, ∃ phase, At b rid phase ∧ ∀ workid ∈ phase.workers, b.registered workid
  unused : ∀ rid, rid ∉ requestIds past → Stands b rid .idle []

theorem registered_of_mem {server workid : String} {ws : Obj Worker} {w : Worker}
    (typed : b.workers.get? server = some ws) (found : ws.get? workid = some w) : b.registered workid :=
  ⟨server, by simp [State.worker?, typed, found]⟩

theorem leastLoaded_mem {ws : Obj Worker} {workid : String} (chosen : leastLoaded ws = some workid) :
    ∃ w, ws.get? workid = some w := by
  have least := leastLoaded_least ws
  rw [chosen] at least
  obtain ⟨w, found, _⟩ := least
  exact ⟨w, found⟩

theorem addressed_registered {type workid : String} (member : workid ∈ b.addressed type) :
    b.registered workid :=
  ⟨type, mem_workids.mp (List.mem_filter.mp member).1⟩

/-- A new request waits for registered workers only. -/
theorem opening_registered {server clientid workid : String}
    (waits : workid ∈ (run Delivery.step .idle (opening b server clientid)).workers) : b.registered workid := by
  unfold opening at waits
  cases typed : b.workers.get? server with
  | some ws =>
    simp only [typed] at waits
    cases chosen : truthy (leastLoaded ws) with
    | none => simp [chosen, Delivery.Phase.workers] at waits
    | some result =>
      obtain ⟨w, found⟩ := leastLoaded_mem (Option.eq_some_of_filter_eq_some chosen)
      simp only [chosen, run_cons, run_nil, Delivery.step, Delivery.Phase.workers, Finset.mem_singleton] at waits
      exact waits ▸ registered_of_mem typed found
  | none =>
    simp only [typed] at waits
    cases cast : castType? server with
    | some type =>
      simp only [cast] at waits
      split at waits
      · have member : workid ∈ (b.addressed type).toFinset := by
          split at waits
          · simpa only [run_cons, run_nil, Delivery.cast_workers] using waits
          · simpa only [run_cons, run_nil, Delivery.step_refuse, Delivery.cast_workers] using waits
        exact addressed_registered (List.mem_toFinset.mp member)
      · simp [Delivery.Phase.workers] at waits
    | none =>
      simp only [cast] at waits
      split at waits
      · rename_i type found
        split at waits
        · have present : (b.worker? type server).isSome = true := by simpa using List.find?_some found
          simp only [run_cons, run_nil, Delivery.step, Delivery.Phase.workers, Finset.mem_singleton] at waits
          exact ⟨type, waits ▸ present⟩
        · simp [Delivery.Phase.workers] at waits
      · simp [Delivery.Phase.workers] at waits

theorem registered_of_lives {b' : State δ} {workid : String} (lives : SameLives b b') :
    b.registered workid → b'.registered workid
  | ⟨server, present⟩ => ⟨server, (lives.isSome server workid).trans present⟩

/-- After any event a request waits for registered workers only, if it did before. -/
theorem moves_registered {e : Event δ} {phase : Phase} (fresh : e.opens rid → phase = .idle)
    (registered : ∀ workid ∈ phase.workers, b.registered workid) :
    ∀ workid ∈ (run Delivery.step phase (moves rid b e)).workers, (step b e).registered workid := by
  intro workid waits
  cases e with
  | timer =>
    obtain ⟨member, survives⟩ := Delivery.expire_round_workers phase b.expired waits
    obtain ⟨server, present⟩ := registered workid member
    obtain ⟨w, found⟩ := Option.isSome_iff_exists.mp present
    have lives : ¬ w.liveness - 1 < 0 := fun dies =>
      survives (mem_expired.mpr ⟨server, by simpa [State.dying, found] using dies⟩)
    refine ⟨server, ?_⟩
    simp [step, worker?_checkWorkers, found, Worker.aged, lives]
  | message identity args =>
    cases args with
    | request server r data =>
      refine registered_of_lives (routeReq_lives b server identity r data) ?_
      by_cases same : r = rid
      · obtain rfl := fresh same
        simp only [moves, if_pos same] at waits
        exact opening_registered waits
      · simp only [moves, if_neg same] at waits
        exact registered workid waits
    | reply server r data =>
      have member : workid ∈ phase.workers := by
        simp only [moves] at waits
        split at waits
        · exact Delivery.step_workers_subset phase (e := (.reply identity data : Move δ)) rfl waits
        · exact waits
      obtain ⟨type, present⟩ := registered workid member
      refine ⟨type, ?_⟩
      simp only [step, onMsg, worker?_replyReq]
      split
      · simpa using present
      · exact present
    | heartbeat server =>
      obtain ⟨type, present⟩ := registered workid waits
      refine ⟨type, ?_⟩
      simp only [step, worker?_heartbeat]
      split
      · rfl
      · exact present
    | other => exact registered workid waits

theorem step_alive {e : Event δ}
    (alive : ∀ server workid w, b.worker? server workid = some w → 0 ≤ w.liveness) :
    ∀ server workid w, (step b e).worker? server workid = some w → 0 ≤ w.liveness := by
  intro server workid w found
  cases e with
  | timer =>
    simp only [step, worker?_checkWorkers, Option.bind_eq_some_iff, Worker.aged] at found
    obtain ⟨w₀, _, aged⟩ := found
    split at aged
    · cases aged
    · rename_i lives
      cases aged
      exact not_lt.mp lives
  | message identity args =>
    cases args with
    | request type r data =>
      have lives := routeReq_lives b type identity r data server workid
      simp only [step, onMsg] at found
      rw [found] at lives
      obtain ⟨w₀, found₀, same⟩ := Option.map_eq_some_iff.mp lives.symm
      exact same ▸ alive server workid w₀ found₀
    | reply type r data =>
      simp only [step, onMsg, worker?_replyReq] at found
      split at found
      · obtain ⟨_, _, rfl⟩ := Option.map_eq_some_iff.mp found
        simp [HEALTH_LIVENESS]
      · exact alive server workid w found
    | heartbeat type =>
      simp only [step, worker?_heartbeat] at found
      split at found
      · cases found
        simp [HEALTH_LIVENESS]
      · exact alive server workid w found
    | other => exact alive server workid w found

theorem moves_idle {e : Event δ} (unopened : ¬ e.opens rid) : Delivery.Opened (moves rid b e) := by
  intro move member
  cases e with
  | timer =>
    obtain ⟨workid, _, rfl⟩ := List.mem_map.mp member
    exact ⟨workid, rfl⟩
  | message identity args =>
    cases args with
    | request server r data => simp [moves, show ¬ r = rid from unopened] at member
    | reply server r data =>
      simp only [moves] at member
      split at member
      · cases List.mem_singleton.mp member
        exact ⟨identity, rfl⟩
      · cases member
    | heartbeat | other => cases member

/-- One event keeps what every run keeps. -/
theorem step_sound {past : List (Event δ)} {e : Event δ} (sound : Sound past b)
    (distinct : (requestIds (past ++ [e])).Nodup) : Sound (past ++ [e]) (step b e) := by
  rw [requestIds_append, List.nodup_append] at distinct
  have fresh : ∀ rid, e.opens rid → rid ∉ requestIds past := fun rid opens used =>
    distinct.2.2 rid used rid (opens_iff.mp opens) rfl
  refine ⟨step_alive sound.alive, fun rid => ?_, fun rid unused => ?_⟩
  · by_cases opens : e.opens rid
    · have idle := sound.unused rid (fresh rid opens)
      exact ⟨_, (step_stands idle fun _ => rfl).1, moves_registered (fun _ => rfl) (by simp [Delivery.Phase.workers])⟩
    · obtain ⟨phase, placed, registered⟩ := sound.held rid
      exact ⟨_, (step_stands ⟨placed, rfl⟩ fun h => absurd h opens).1,
        moves_registered (fun h => absurd h opens) registered⟩
  · rw [requestIds_append, List.mem_append, not_or] at unused
    have unopened : ¬ e.opens rid := fun opens => unused.2 (opens_iff.mp opens)
    have stands := step_stands (sound.unused rid unused.1) (e := e) fun h => absurd h unopened
    obtain ⟨idle, silent⟩ := Delivery.idle_quiet (κ := String) (moves_idle (b := b) unopened)
    rwa [idle, silent] at stands

theorem initial_sound : Sound ([] : List (Event δ)) initial := by
  refine ⟨?_, fun rid => ⟨.idle, ⟨rfl, rfl, rfl⟩, by simp [Delivery.Phase.workers]⟩, fun rid _ => ⟨⟨rfl, rfl, rfl⟩, rfl⟩⟩
  intro server workid w found
  cases found

/-- Every run whose requests have distinct ids is sound. -/
theorem run_sound {events : List (Event δ)} (distinct : (requestIds events).Nodup) :
    Sound events (run step initial events) := by
  have keep : ∀ past b (e : Event δ), Sound past b → (requestIds (past ++ [e])).Nodup →
      Sound (past ++ [e]) (step b e) := fun _ _ _ sound ok => step_sound sound ok
  have closed : ∀ past later : List (Event δ), (requestIds (past ++ later)).Nodup → (requestIds past).Nodup :=
    fun past later ok => (requestIds_append past later ▸ ok).of_append_left
  have whole := @run_history _ _ step (fun events => (requestIds events).Nodup) Sound keep closed [] events
    initial initial_sound (by simpa using distinct)
  simpa using whole

/-! ### One request through a run -/

/-- The delivery events that a run stands for at the request `rid`. -/
def movesAlong (rid : String) : State δ → List (Event δ) → List (Move δ)
  | _, [] => []
  | b, e :: rest => moves rid b e ++ movesAlong rid (step b e) rest

theorem movesAlong_opened {events : List (Event δ)} (unopened : rid ∉ requestIds events) (b : State δ) :
    Delivery.Opened (movesAlong rid b events) := by
  induction events generalizing b with
  | nil => intro move member; cases member
  | cons e rest ih =>
    rw [← List.singleton_append, requestIds_append, List.mem_append, not_or, ← opens_iff] at unopened
    exact Delivery.opened_append.mpr ⟨moves_idle unopened.1, ih unopened.2 (step b e)⟩

theorem run_stands {events : List (Event δ)} (unopened : rid ∉ requestIds events) {phase : Phase}
    {sent : List (Note δ)} (stands : Stands b rid phase sent) :
    Stands (run step b events) rid (run Delivery.step phase (movesAlong rid b events))
      (sent ++ Delivery.out phase (movesAlong rid b events)) := by
  induction events generalizing b phase sent with
  | nil => simpa [movesAlong] using stands
  | cons e rest ih =>
    rw [← List.singleton_append, requestIds_append, List.mem_append, not_or, ← opens_iff] at unopened
    have first := step_stands stands (e := e) fun h => absurd h unopened.1
    have later := ih unopened.2 first
    simpa [movesAlong, run_append, Delivery.out_append] using later

/-! ### Requests to one worker -/

/-- The client a terminal message about the request is addressed to. -/
def terminal? (rid : String) : Msg δ → Option String
  | .reply clientid _ r _ => if r = rid then some clientid else none
  | .disconnect clientid _ r => if r = rid then some clientid else none
  | .noexists clientid _ r _ => if r = rid then some clientid else none
  | _ => none

/-- The clients that were sent a terminal message about the request, one entry for each message. -/
def terminals (b : State δ) (rid : String) : List String := b.socket.filterMap (terminal? rid)

/-- The request enters the branch that casts to all workers of a type. -/
def State.casts (b : State δ) (server : String) : Bool :=
  !b.workers.has server && (castType? server).any b.workers.has

def terminalNote? : Note δ → Option String
  | .reply clientid _ _ => some clientid
  | .disconnect clientid _ => some clientid
  | .noexists clientid => some clientid
  | _ => none

theorem terminals_eq (b : State δ) (rid : String) : terminals b rid = (about b rid).filterMap terminalNote? := by
  unfold terminals about
  rw [List.filterMap_filterMap]
  refine List.filterMap_congr fun msg _ => ?_
  cases msg with
  | heartbeat => rfl
  | _ =>
    simp only [terminal?, note?]
    split <;> rfl

/-- Outside the cast branch a new request goes to one worker or is refused: the silent branch
needs a worker with negative liveness. -/
theorem opening_single {server : String} (clientid : String) (single : b.casts server = false)
    (alive : ∀ server workid w, b.worker? server workid = some w → 0 ≤ w.liveness) :
    (∃ workid, opening b server clientid = [.route clientid workid]) ∨
      opening b server clientid = [.refuse clientid] := by
  unfold opening
  cases typed : b.workers.get? server with
  | some ws =>
    cases chosen : truthy (leastLoaded ws) with
    | some workid => exact .inl ⟨workid, by simp [chosen]⟩
    | none => exact .inr (by simp [chosen])
  | none =>
    cases cast : castType? server with
    | some type =>
      have untyped : b.workers.has type = false := by
        simpa [State.casts, Obj.has_eq_false.mpr typed, cast] using single
      exact .inr (by simp [untyped])
    | none =>
      cases found : b.workers.keys.find? (fun type => (b.worker? type server).isSome) with
      | none => exact .inr (by simp)
      | some type =>
        have present : (b.worker? type server).isSome = true := by simpa using List.find?_some found
        obtain ⟨w, known⟩ := Option.isSome_iff_exists.mp present
        have reached : b.reached type server = true := by simp [State.reached, known, alive type server w known]
        exact .inl ⟨server, by simp [reached]⟩

theorem terminalNote?_of_ends {clientid : String} {note : Note δ} (ends : note.Ends clientid) :
    terminalNote? note = some clientid := by
  cases note with
  | reply | disconnect | noexists => exact congrArg some ends
  | _ => exact ends.elim

/-- A request splits its run: its id is used by no other request. -/
theorem distinct_split {server clientid rid : String} {data : δ} {before after : List (Event δ)}
    (distinct : (requestIds (before ++ .message clientid (.request server rid data) :: after)).Nodup) :
    (requestIds before).Nodup ∧ rid ∉ requestIds before ∧ rid ∉ requestIds after := by
  rw [requestIds_append, ← List.singleton_append, requestIds_append] at distinct
  obtain ⟨first, rest, apart⟩ := List.nodup_append.mp distinct
  have single : requestIds [Event.message clientid (.request server rid data)] = [rid] := rfl
  rw [single] at rest apart
  exact ⟨first, fun used => apart rid used rid (by simp) rfl, fun later => by simp [later] at rest⟩

/-- The request in the state that its arrival leaves. -/
theorem arrival_stands (server clientid : String) (data : δ) {before : List (Event δ)}
    (sound : Sound before b) (fresh : rid ∉ requestIds before) :
    Stands (step b (.message clientid (.request server rid data))) rid
      (run Delivery.step .idle (opening b server clientid)) (Delivery.out .idle (opening b server clientid)) := by
  have stands := step_stands (e := .message clientid (.request server rid data)) (sound.unused rid fresh) fun _ => rfl
  simpa [moves] using stands

/-- A request that is recorded as handed to a worker has that worker registered. -/
theorem pending_registered {past : List (Event δ)} (sound : Sound past b) {clientid workid : String}
    (placed : At b rid (.pending clientid workid)) : b.registered workid := by
  obtain ⟨phase, held, registered⟩ := sound.held rid
  cases phase with
  | idle => exact absurd (placed.2.1.symm.trans held.2.1) (by simp)
  | pending _ other =>
    have same : workid = other := Option.some.inj (placed.2.1.symm.trans held.2.1)
    exact registered workid (by simp [Delivery.Phase.workers, same])
  | casting => exact absurd (placed.2.1.symm.trans held.2.2.1) (by simp)

/-- A request to one worker gets at most one terminal message, for its own client. Until then both
maps record it and its worker is registered. The branch that drops it silently is never reached. -/
theorem request_delivered {server clientid rid : String} {data : δ} {before after : List (Event δ)}
    (distinct : (requestIds (before ++ .message clientid (.request server rid data) :: after)).Nodup)
    (single : (run step initial before).casts server = false) :
    (∀ type w, (run step initial before).worker? type server = some w → 0 ≤ w.liveness) ∧
      let b := run step initial (before ++ .message clientid (.request server rid data) :: after)
      terminals b rid = [clientid] ∨
        terminals b rid = [] ∧ ∃ workid, b.reqmap.get? rid = some workid ∧
          b.clientmap.get? rid = some clientid ∧ ∃ type, (b.worker? type workid).isSome = true := by
  obtain ⟨first, unused, later⟩ := distinct_split distinct
  have sound := run_sound first
  have whole := run_sound distinct
  refine ⟨fun type => sound.alive type server, ?_⟩
  have opened := movesAlong_opened later
    (step (run step initial before) (.message clientid (.request server rid data)))
  have stands := run_stands later (arrival_stands server clientid data sound unused)
  rw [run_append, run_cons] at whole ⊢
  generalize run step (step (run step initial before) (.message clientid (.request server rid data))) after = b at *
  dsimp only
  rw [terminals_eq, stands.2, List.filterMap_append]
  rcases opening_single clientid single sound.alive with ⟨workid, routed⟩ | refused
  · rw [routed] at stands ⊢
    rcases Delivery.pending_ends_once clientid workid opened with ⟨waits, silent⟩ | ⟨_, note, sent, ends⟩
    · refine .inr ⟨by simp [Delivery.step, Delivery.notes, silent, terminalNote?], workid, ?_⟩
      have placed : At b rid (.pending clientid workid) := by
        have placed := stands.1
        rwa [run_cons, run_nil, Delivery.step, waits] at placed
      exact ⟨placed.2.1, placed.2.2, pending_registered whole placed⟩
    · have heard : [note].filterMap terminalNote? = [clientid] := by
        rw [List.filterMap_cons_some (terminalNote?_of_ends ends), List.filterMap_nil]
      left
      simp [Delivery.step, Delivery.notes, sent, heard, terminalNote?]
  · rw [refused]
    left
    simp [(Delivery.idle_quiet opened).2, terminalNote?]

theorem request_delivered_late_reply :
    let before : List (Event Nat) := [.message "w" (.heartbeat "conn")]
    let after : List (Event Nat) := [.timer, .timer, .timer, .timer, .message "w" (.heartbeat "conn"),
      .message "w" (.reply "conn" "r" 7)]
    (requestIds (before ++ .message "c" (.request "conn" "r" 1) :: after)).Nodup ∧
      terminals (run step initial (before ++ .message "c" (.request "conn" "r" 1) :: after)) "r" = ["c"] := by
  have delivered := @request_delivered Nat "conn" "c" "r" 1 [.message "w" (.heartbeat "conn")]
    [.timer, .timer, .timer, .timer, .message "w" (.heartbeat "conn"), .message "w" (.reply "conn" "r" 7)]
    (by decide) (by decide)
  refine ⟨by decide, delivered.2.resolve_right fun waiting => ?_⟩
  exact absurd waiting.1 (by decide)

/-! ### Requests to all workers of a type -/

/-- The workers that reply to the request in this event, or are expired by it. -/
def settledBy (rid : String) (b : State δ) : Event δ → List String
  | .message identity (.reply _ r _) => if r = rid then [identity] else []
  | .message _ _ => []
  | .timer => b.expired

/-- The workers that have replied to the request or were expired during a run. -/
def settled (rid : String) : State δ → List (Event δ) → List String
  | _, [] => []
  | b, e :: rest => settledBy rid b e ++ settled rid (step b e) rest

theorem settled_move {e : Event δ} (unopened : ¬ e.opens rid) (workid : String) :
    Delivery.Settled workid (moves rid b e) ↔ workid ∈ settledBy rid b e := by
  cases e with
  | timer => simp [Delivery.Settled, Delivery.Settles, moves, settledBy]
  | message identity args =>
    cases args with
    | request server r data =>
      simp [Delivery.Settled, moves, settledBy, show ¬ r = rid from unopened]
    | reply server r data =>
      simp only [Delivery.Settled, moves, settledBy]
      split <;> simp [Delivery.Settles, eq_comm]
    | heartbeat | other => simp [Delivery.Settled, moves, settledBy]

theorem settled_moves {events : List (Event δ)} (unopened : rid ∉ requestIds events) (b : State δ)
    (workid : String) : Delivery.Settled workid (movesAlong rid b events) ↔ workid ∈ settled rid b events := by
  induction events generalizing b with
  | nil => simp [movesAlong, settled, Delivery.Settled]
  | cons e rest ih =>
    rw [← List.singleton_append, requestIds_append, List.mem_append, not_or, ← opens_iff] at unopened
    have split : Delivery.Settled workid (movesAlong rid b (e :: rest)) ↔
        Delivery.Settled workid (moves rid b e) ∨ Delivery.Settled workid (movesAlong rid (step b e) rest) := by
      simp [movesAlong, Delivery.Settled, or_and_right, exists_or]
    rw [split, settled_move unopened.1, ih unopened.2, settled, List.mem_append]

/-- A cast that reaches some worker waits for the workers it reached. -/
theorem opening_cast {server type : String} (clientid : String) (untyped : b.workers.has server = false)
    (cast : castType? server = some type) (reached : b.addressed type ≠ []) :
    run Delivery.step .idle (opening b server clientid) = .casting clientid (b.addressed type).toFinset ∧
      ∃ refusal, (∀ note ∈ refusal, note = .noexists clientid) ∧
        Delivery.out .idle (opening b server clientid) = (b.addressed type).map .request ++ refusal := by
  have typed : b.workers.has type = true := by
    obtain ⟨workid, member⟩ := List.exists_mem_of_ne_nil _ reached
    obtain ⟨w, found⟩ := Option.isSome_iff_exists.mp (mem_workids.mp (List.mem_filter.mp member).1)
    obtain ⟨ws, present, _⟩ := Option.bind_eq_some_iff.mp found
    exact Obj.has_iff.mpr ⟨ws, present⟩
  unfold opening
  simp only [Obj.has_eq_false.mp untyped, cast, typed, if_true]
  split
  · exact ⟨by simp [Delivery.step, reached], [], by simp, by simp [Delivery.notes]⟩
  · exact ⟨by simp [Delivery.step, reached], [.noexists clientid], by simp, by simp [Delivery.notes]⟩

/-- A cast that reached some worker relays each of its workers at most once and sends `DONE` in
the event that settles the last of them. Until then it stays recorded, and afterwards nothing is
sent about it. -/
theorem cast_completes {server type clientid rid : String} {data : δ} {before after later : List (Event δ)}
    (distinct : (requestIds (before ++ .message clientid (.request server rid data) :: (after ++ later))).Nodup)
    (untyped : (run step initial before).workers.has server = false) (cast : castType? server = some type)
    (reached : (run step initial before).addressed type ≠ []) :
    let workids := (run step initial before).addressed type
    let arrived := step (run step initial before) (.message clientid (.request server rid data))
    let b := run step arrived after
    (∃ refusal, (∀ note ∈ refusal, note = .noexists clientid) ∧
        about arrived rid = workids.map .request ++ refusal) ∧
      (∃ relays, Delivery.Relays clientid workids.toFinset relays ∧
        if ∀ workid ∈ workids, workid ∈ settled rid arrived after then
          about b rid = about arrived rid ++ relays ++ [.done clientid]
        else
          about b rid = about arrived rid ++ relays ∧ b.clientmap.get? rid = some clientid ∧
            ∃ ws, b.castmsg.get? rid = some ws ∧
              ∀ workid, ws.has workid = true ↔ workid ∈ workids ∧ workid ∉ settled rid arrived after) ∧
      ((∀ workid ∈ workids, workid ∈ settled rid arrived after) →
        about (run step b later) rid = about b rid ∧ (run step b later).castmsg.get? rid = none ∧
          (run step b later).clientmap.get? rid = none) := by
  intro workids arrived b
  obtain ⟨first, unused, rest⟩ := distinct_split distinct
  rw [requestIds_append, List.mem_append, not_or] at rest
  have placed := arrival_stands server clientid data (run_sound first) unused
  obtain ⟨phase, refusal, refused, sent⟩ := opening_cast clientid untyped cast reached
  rw [phase, sent] at placed
  have opened := movesAlong_opened rest.1 arrived
  have stands := run_stands rest.1 placed
  have nonempty : workids.toFinset ≠ ∅ := by simpa using reached
  obtain ⟨relays, relayed, done⟩ := Delivery.casting_completes clientid nonempty opened
  have all : Delivery.remaining workids.toFinset (movesAlong rid arrived after) = ∅ ↔
      ∀ workid ∈ workids, workid ∈ settled rid arrived after := by
    simp [Delivery.remaining, Finset.filter_eq_empty_iff, settled_moves rest.1]
  simp only [all] at done
  refine ⟨⟨refusal, refused, placed.2⟩, ⟨relays, relayed, ?_⟩, fun complete => ?_⟩
  · split
    · rename_i complete
      rw [if_pos complete] at done
      rw [stands.2, placed.2, done.2, ← List.append_assoc]
    · rename_i incomplete
      rw [if_neg incomplete] at done
      have held := stands.1
      rw [done.1] at held
      obtain ⟨⟨ws, found, members⟩, _, _, client⟩ := held
      refine ⟨by rw [stands.2, placed.2, done.2], client, ws, found, fun workid => ?_⟩
      rw [members]
      simp [Delivery.remaining, settled_moves rest.1]
  · rw [if_pos complete] at done
    have ended : Stands b rid .idle (about b rid) := ⟨done.1 ▸ stands.1, rfl⟩
    have quiet := run_stands rest.2 ended
    obtain ⟨idle, silent⟩ := Delivery.idle_quiet (κ := String) (movesAlong_opened rest.2 b)
    rw [idle, silent, List.append_nil] at quiet
    exact ⟨quiet.2, quiet.1.1, quiet.1.2.2⟩

theorem cast_completes_two_workers :
    let before : List (Event Nat) := [.message "w1" (.heartbeat "conn"), .message "w2" (.heartbeat "conn")]
    let arrived := step (run step initial before) (.message "c" (.request "all-conn" "r" 1))
    let b := run step arrived [.message "w1" (.reply "conn" "r" 7), .message "w1" (.heartbeat "conn"),
      .timer, .timer, .timer, .timer]
    (∀ workid ∈ (run step initial before).addressed "conn", workid ∈ settled "r" arrived
        [.message "w1" (.reply "conn" "r" 7), .message "w1" (.heartbeat "conn"), .timer, .timer, .timer, .timer]) ∧
      about (run step b [.message "w2" (.reply "conn" "r" 8)]) "r" = about b "r" := by
  have completes := @cast_completes Nat "all-conn" "conn" "c" "r" 1
    [.message "w1" (.heartbeat "conn"), .message "w2" (.heartbeat "conn")]
    [.message "w1" (.reply "conn" "r" 7), .message "w1" (.heartbeat "conn"), .timer, .timer, .timer, .timer]
    [.message "w2" (.reply "conn" "r" 8)] (by decide) (by decide) (by decide) (by decide)
  exact ⟨by decide, (completes.2.2 (by decide)).1⟩

end Tinygame.Broker
