import Tinygame.Base.Watchdog
import Tinygame.Net.BrokerSends
import Tinygame.Net.Worker

/-!
# A worker and the broker watch each other

A worker, the broker and the messages under way between them, with the times at which things
happen. Each side has a timer and a limit after which it takes the other for dead. The broker may
talk to anybody else in between.
-/

namespace Tinygame.Heartbeats
open Broker (Args)
open Worker (HEARTBEAT_TIME)
variable {δ : Type}

/-- What a message of the broker is to the worker. -/
def toWorker (id : String) : Broker.Msg δ → Option (Worker.Msg δ)
  | .request workid rid data => if workid = id then some (.request rid data) else none
  | .heartbeat workid => if workid = id then some .heartbeat else none
  | _ => none

structure System (δ : Type) where
  now : Nat
  worker : Worker.State δ
  broker : Broker.State δ
  /-- the worker's messages under way, each with the time it was sent -/
  up : List (Nat × Args δ)
  /-- the broker's messages to the worker under way -/
  down : List (Nat × Worker.Msg δ)
  /-- when the worker's timer was set or went off last -/
  lastCheck : Nat
  /-- when the broker's timer was set or went off last -/
  lastTimer : Nat

/-- What the worker sends joins the messages under way. Those of a socket it has closed are gone. -/
def System.workerMoves (s : System δ) (w : Worker.State δ) : System δ :=
  let sent := (w.sent.drop s.worker.sent.length).map fun msg => (s.now, msg)
  if w.sockets = s.worker.sockets then { s with worker := w, up := s.up ++ sent }
  else { s with worker := w, up := sent, down := [] }

def System.brokerMoves (id : String) (s : System δ) (b : Broker.State δ) : System δ :=
  let sent := (b.socket.drop s.broker.socket.length).filterMap (toWorker id)
  { s with broker := b, down := s.down ++ sent.map fun msg => (s.now, msg) }

inductive Act (δ : Type) where
  /-- the worker's timer -/
  | check
  | reply (rid : String) (buffer : Option δ)
  /-- the broker's timer -/
  | timer
  /-- the broker handles the worker's next message -/
  | up
  /-- the worker handles the broker's next message -/
  | down
  /-- the broker handles a message of somebody else -/
  | other (identity : String) (args : Args δ)

structure Event (δ : Type) where
  time : Nat
  act : Act δ

def step (id server : String) (s : System δ) (e : Event δ) : System δ :=
  let s := { s with now := e.time }
  match e.act with
  | .check => { s.workerMoves (Worker.checkHealth server s.worker e.time) with lastCheck := e.time }
  | .reply rid buffer => s.workerMoves (Worker.reply server s.worker e.time rid buffer)
  | .timer => { s.brokerMoves id (Broker.step s.broker .timer) with lastTimer := e.time }
  | .up =>
    match s.up with
    | [] => s
    | (_, args) :: rest => { s with up := rest }.brokerMoves id (Broker.step s.broker (.message id args))
  | .down =>
    match s.down with
    | [] => s
    | (_, msg) :: rest => { s with worker := Worker.onMsg s.worker msg, down := rest }
  | .other identity args => s.brokerMoves id (Broker.step s.broker (.message identity args))

/-- The worker's `open`, at a broker that runs. -/
def opened (server : String) (b : Broker.State δ) (lastTimer now : Nat) : System δ :=
  let before : System δ := { now, worker := {}, broker := b, up := [], down := [], lastCheck := now, lastTimer }
  before.workerMoves (Worker.connectBroker server {} now)

/-- How far apart the two timers go off, and how long a message is under way at most. -/
structure Timing where
  checkMin : Nat
  checkMax : Nat
  timerMin : Nat
  timerMax : Nat
  delay : Nat

/-- Within the limits of both sides there is room for two timers that miss each other and the messages under way. -/
structure Timing.Wide (t : Timing) : Prop where
  up : t.checkMax + HEARTBEAT_TIME + t.delay < 3 * t.timerMin
  down : (t.delay + t.timerMax) + t.delay < 3 * t.checkMin

def Act.isCheck : Act δ → Bool
  | .check => true
  | _ => false

def Act.isTimer : Act δ → Bool
  | .timer => true
  | _ => false

/-- Whose message of somebody else the broker handles. -/
def Act.from? : Act δ → Option String
  | .other identity _ => some identity
  | _ => none

/-- The event comes in time: nothing that is due before it is left out, and nobody else uses the worker's identity. -/
def Timing.Punctual (t : Timing) (id : String) (s : System δ) (e : Event δ) : Prop :=
  s.now ≤ e.time ∧ (e.time ≤ s.lastCheck + t.checkMax ∧ e.time ≤ s.lastTimer + t.timerMax) ∧
    (e.act.isCheck = true → s.lastCheck + t.checkMin ≤ e.time) ∧ (e.act.isTimer = true → s.lastTimer + t.timerMin ≤ e.time) ∧
    (∀ msg ∈ s.up, e.time ≤ msg.1 + t.delay) ∧ (∀ msg ∈ s.down, e.time ≤ msg.1 + t.delay) ∧ e.act.from? ≠ some id

instance (t : Timing) (id : String) (s : System δ) (e : Event δ) : Decidable (t.Punctual id s e) := by
  unfold Timing.Punctual
  infer_instance

/-! ### What the link keeps -/

/-- The worker's messages as the broker's timer watches them. -/
structure Upward (t : Timing) (id server : String) (start : Nat) (s : System δ) (w : Watch) : Prop where
  inFlight : w.inFlight = s.up.map Prod.fst
  lastTick : w.lastTick = s.lastTimer
  latest : w.latest = s.worker.hbtime
  past : w.Past s.now
  paced : w.Paced (t.checkMax + HEARTBEAT_TIME) t.timerMin
  own : ∀ msg ∈ s.up, Worker.Own server msg.2
  /-- the broker counts down from the last message it handled, or the first one is still under way -/
  counted : (∃ record, s.broker.worker? server id = some record ∧ record.liveness = Broker.HEALTH_LIVENESS - w.ticks) ∨
    s.broker.worker? server id = none ∧ w.ticks = 0 ∧ s.now ≤ start + t.delay ∧ ∃ rest, s.up = (start, .heartbeat server) :: rest

/-- The broker's messages as the worker's timer watches them. -/
structure Downward (t : Timing) (start : Nat) (s : System δ) (d : Watch) : Prop where
  inFlight : d.inFlight = s.down.map Prod.fst
  lastTick : d.lastTick = s.lastCheck
  past : d.Past s.now
  begun : start ≤ d.latest
  greeted : s.lastTimer ≤ d.latest + t.delay
  paced : d.Paced (t.delay + t.timerMax) t.checkMin
  counted : s.worker.liveness = Worker.BROKER_LIVENESS - d.ticks

structure Linked (t : Timing) (id server : String) (start : Nat) (s : System δ) : Prop where
  isOpen : s.worker.socket = true
  once : s.worker.sockets = 1
  checked : s.lastCheck ≤ s.now
  timed : s.lastTimer ≤ s.now
  past : s.worker.hbtime ≤ s.now
  active : s.lastCheck < s.worker.hbtime + HEARTBEAT_TIME
  /-- under no other type -/
  alone : ∀ type, type ≠ server → s.broker.worker? type id = none
  upward : ∃ w, Upward t id server start s w
  downward : ∃ d, Downward t start s d

variable {t : Timing} {id server : String} {start : Nat} {s : System δ} {e : Event δ} {w d : Watch}

theorem Linked.begun (linked : Linked t id server start s) : start ≤ s.now := by
  obtain ⟨d, downward⟩ := linked.downward
  exact downward.begun.trans downward.past.latest

/-- The link just before a punctual event. -/
theorem Linked.later (linked : Linked t id server start s) (punctual : t.Punctual id s e) :
    Linked t id server start { s with now := e.time } := by
  obtain ⟨w, upward⟩ := linked.upward
  obtain ⟨d, downward⟩ := linked.downward
  obtain ⟨after, -, -, -, prompt, -, -⟩ := punctual
  have counted := upward.counted
  refine { linked with
    checked := linked.checked.trans after
    timed := linked.timed.trans after
    past := linked.past.trans after
    upward := ⟨w, { upward with past := upward.past.mono after, counted := ?_ }⟩
    downward := ⟨d, { downward with past := downward.past.mono after }⟩ }
  rcases counted with known | ⟨unknown, silent, _, rest, first⟩
  · exact .inl known
  · refine .inr ⟨unknown, silent, ?_, rest, first⟩
    exact prompt (start, .heartbeat server) (by simp [first])

/-- The last message of the worker is not too old. -/
theorem Upward.soon (upward : Upward t id server start s w) (linked : Linked t id server start s)
    (due : s.now ≤ s.lastCheck + t.checkMax) : s.now ≤ w.latest + (t.checkMax + HEARTBEAT_TIME) := by
  have active := linked.active
  rw [upward.latest]
  omega

/-- Nor is the last message of the broker. -/
theorem Downward.soon (downward : Downward t start s d) (due : s.now ≤ s.lastTimer + t.timerMax) :
    s.now ≤ d.latest + (t.delay + t.timerMax) := by
  have greeted := downward.greeted
  omega

theorem prompt_of_map {α : Type} {under : List (Nat × α)} {inFlight : List Nat} {now delay : Nat}
    (same : inFlight = under.map Prod.fst) (prompt : ∀ msg ∈ under, now ≤ msg.1 + delay) :
    ∀ sent ∈ inFlight, now ≤ sent + delay := by
  intro sent there
  rw [same] at there
  obtain ⟨msg, member, rfl⟩ := List.mem_map.mp there
  exact prompt msg member

theorem lt_three_of_mul_lt {n period bound : Nat} (few : n * period ≤ bound) (wide : bound < 3 * period) : n < 3 := by
  by_contra many
  have more : 3 * period ≤ n * period := Nat.mul_le_mul_right period (Nat.le_of_not_lt many)
  omega

/-! ### What the worker does -/

theorem workerMoves_eq {w' : Worker.State δ} (spoke : Worker.Spoke server s.now s.worker w')
    (same : w'.sockets = s.worker.sockets) :
    ∃ new, s.workerMoves w' = { s with worker := w', up := s.up ++ new } ∧ (∀ msg ∈ new, Worker.Own server msg.2) ∧
      (new = [] ∧ w'.hbtime = s.worker.hbtime ∨ (∃ msg, new = [(s.now, msg)]) ∧ w'.hbtime = s.now) := by
  unfold System.workerMoves
  rw [if_pos same]
  rcases spoke.sent with ⟨sent, time⟩ | ⟨msg, own, sent, time⟩
  · exact ⟨_, rfl, by simp [sent], .inl ⟨by simp [sent], time⟩⟩
  · exact ⟨_, rfl, by simp [sent, own], .inr ⟨⟨msg, by simp [sent]⟩, time⟩⟩

/-- The worker may send something at any time. -/
theorem Upward.spoke {w' : Worker.State δ} (upward : Upward t id server start s w)
    (soon : s.now ≤ w.latest + (t.checkMax + HEARTBEAT_TIME)) (spoke : Worker.Spoke server s.now s.worker w')
    (same : w'.sockets = s.worker.sockets) : ∃ w₁, Upward t id server start (s.workerMoves w') w₁ := by
  obtain ⟨new, moved, own, sent⟩ := workerMoves_eq spoke same
  rw [moved]
  have owns : ∀ msg ∈ s.up ++ new, Worker.Own server msg.2 := by
    intro msg there
    rcases List.mem_append.mp there with before | here
    · exact upward.own msg before
    · exact own msg here
  have counted : (∃ record, s.broker.worker? server id = some record ∧ record.liveness = Broker.HEALTH_LIVENESS - w.ticks) ∨
      s.broker.worker? server id = none ∧ w.ticks = 0 ∧ s.now ≤ start + t.delay ∧
        ∃ rest, s.up ++ new = (start, .heartbeat server) :: rest := by
    rcases upward.counted with known | ⟨unknown, silent, early, rest, first⟩
    · exact .inl known
    · exact .inr ⟨unknown, silent, early, rest ++ new, by rw [first, List.cons_append]⟩
  rcases sent with ⟨rfl, time⟩ | ⟨⟨msg, rfl⟩, time⟩
  · exact ⟨w, by simpa using upward.inFlight, upward.lastTick, upward.latest.trans time.symm, upward.past, upward.paced, owns, counted⟩
  · refine ⟨w.sends s.now 1, ?_, upward.lastTick, ?_, upward.past.sends 1, upward.paced.sends soon 1, owns, counted⟩
    · simp [Watch.sends, upward.inFlight]
    · rw [Watch.latest_sends _ _ (by decide)]
      exact time.symm

theorem Linked.check (linked : Linked t id server start s) (wide : t.Wide) (due : s.now ≤ s.lastCheck + t.checkMax)
    (dueTimer : s.now ≤ s.lastTimer + t.timerMax) (spaced : s.lastCheck + t.checkMin ≤ s.now)
    (prompt : ∀ msg ∈ s.down, s.now ≤ msg.1 + t.delay) :
    Linked t id server start { s.workerMoves (Worker.checkHealth server s.worker s.now) with lastCheck := s.now } := by
  obtain ⟨w, upward⟩ := linked.upward
  obtain ⟨d, downward⟩ := linked.downward
  have few := downward.paced.ticks_bounded (prompt_of_map downward.inFlight prompt) (downward.soon dueTimer)
    fun _ => downward.lastTick ▸ spaced
  have ticks := lt_three_of_mul_lt few wide.down
  have counted := downward.counted
  have alive : 0 < s.worker.liveness := by
    rw [counted, Worker.BROKER_LIVENESS]
    omega
  obtain ⟨spoke, recent, same, liveness⟩ := Worker.checkHealth_alive linked.isOpen server linked.past alive
  obtain ⟨w₁, upward₁⟩ := upward.spoke (upward.soon linked due) spoke same
  obtain ⟨new, moved, own, sent⟩ := workerMoves_eq spoke same
  rw [moved] at upward₁ ⊢
  refine {
    isOpen := spoke.open_
    once := same.trans linked.once
    checked := le_refl s.now
    timed := linked.timed
    past := ?_
    active := recent
    alone := linked.alone
    upward := ⟨w₁, { upward₁ with }⟩
    downward := ⟨d.tick s.now, ?_⟩ }
  · rcases sent with ⟨_, time⟩ | ⟨_, time⟩
    · exact time.le.trans linked.past
    · exact time.le
  · refine ⟨downward.inFlight, rfl, downward.past.tick s.now, downward.begun, downward.greeted, ?_, ?_⟩
    · exact downward.paced.tick downward.past.heard fun _ => downward.lastTick ▸ spaced
    · show (Worker.checkHealth server s.worker s.now).liveness = Worker.BROKER_LIVENESS - ((d.ticks + 1 : Nat) : Int)
      rw [liveness, counted]
      omega

theorem Linked.reply (linked : Linked t id server start s) (due : s.now ≤ s.lastCheck + t.checkMax) (rid : String) (buffer : Option δ) :
    Linked t id server start (s.workerMoves (Worker.reply server s.worker s.now rid buffer)) := by
  obtain ⟨w, upward⟩ := linked.upward
  obtain ⟨d, downward⟩ := linked.downward
  have spoke := Worker.reply_spoke linked.isOpen server s.now rid buffer
  obtain ⟨same, liveness⟩ := Worker.reply_frame server s.worker s.now rid buffer
  have upward₁ := upward.spoke (upward.soon linked due) spoke same
  obtain ⟨new, moved, own, sent⟩ := workerMoves_eq spoke same
  have active := linked.active
  have checked := linked.checked
  rw [moved] at upward₁ ⊢
  refine {
    isOpen := spoke.open_
    once := same.trans linked.once
    checked := checked
    timed := linked.timed
    past := ?_
    active := ?_
    alone := linked.alone
    upward := upward₁
    downward := ⟨d, { downward with counted := liveness.trans downward.counted }⟩ }
  · rcases sent with ⟨_, time⟩ | ⟨_, time⟩
    · exact time.le.trans linked.past
    · exact time.le
  · show s.lastCheck < (Worker.reply server s.worker s.now rid buffer).hbtime + HEARTBEAT_TIME
    rcases sent with ⟨_, time⟩ | ⟨_, time⟩
    · rwa [time]
    · rw [time, HEARTBEAT_TIME]
      omega

/-- The worker handles a message. -/
theorem Linked.hear (linked : Linked t id server start s) {sent : Nat} {msg : Worker.Msg δ} {rest : List (Nat × Worker.Msg δ)}
    (first : s.down = (sent, msg) :: rest) :
    Linked t id server start { s with worker := Worker.onMsg s.worker msg, down := rest } := by
  obtain ⟨w, upward⟩ := linked.upward
  obtain ⟨d, downward⟩ := linked.downward
  obtain ⟨socket, sockets, hbtime, _, liveness⟩ := Worker.onMsg_frame s.worker msg
  have inFlight := downward.inFlight
  rw [first, List.map_cons] at inFlight
  have received : d.receive = { d with heard := sent, inFlight := rest.map Prod.fst, ticks := 0 } := by
    unfold Watch.receive
    rw [inFlight]
  refine { linked with
    isOpen := socket.trans linked.isOpen
    once := sockets.trans linked.once
    past := hbtime.le.trans linked.past
    active := by
      show s.lastCheck < (Worker.onMsg s.worker msg).hbtime + HEARTBEAT_TIME
      rw [hbtime]
      exact linked.active
    upward := ⟨w, { upward with latest := upward.latest.trans hbtime.symm }⟩
    downward := ⟨d.receive, ?_⟩ }
  refine ⟨by rw [received], by rw [received]; exact downward.lastTick, downward.past.receive, ?_, ?_, downward.paced.receive, ?_⟩
  · rw [Watch.latest_receive]
    exact downward.begun
  · rw [Watch.latest_receive]
    exact downward.greeted
  · show (Worker.onMsg s.worker msg).liveness = _
    rw [liveness, received]
    simp

/-! ### What the broker does -/

/-- What the broker sends to the worker in one go. -/
theorem brokerMoves_eq (id : String) (s : System δ) (b : Broker.State δ) :
    ∃ msgs : List (Worker.Msg δ), s.brokerMoves id b = { s with broker := b, down := s.down ++ msgs.map fun msg => (s.now, msg) } :=
  ⟨_, rfl⟩

theorem Downward.brokerMoves (downward : Downward t start s d)
    (soon : s.now ≤ d.latest + (t.delay + t.timerMax)) (b : Broker.State δ) (msgs : List (Worker.Msg δ)) :
    Downward t start { s with broker := b, down := s.down ++ msgs.map fun msg => (s.now, msg) } (d.sends s.now msgs.length) := by
  have before := downward.past.latest
  have latest : d.latest ≤ (d.sends s.now msgs.length).latest := by
    cases msgs with
    | nil => rw [List.length_nil, Watch.sends_zero]
    | cons msg rest =>
      rw [Watch.latest_sends _ _ (by simp)]
      exact before
  refine ⟨?_, downward.lastTick, downward.past.sends _, downward.begun.trans latest, ?_, downward.paced.sends soon _, downward.counted⟩
  · simp [Watch.sends, downward.inFlight, Function.comp_def]
  · have greeted := downward.greeted
    show s.lastTimer ≤ (d.sends s.now msgs.length).latest + t.delay
    omega

theorem other_lives (b : Broker.State δ) {identity : String} (other : identity ≠ id) (args : Args δ) (type : String) :
    ((Broker.step b (.message identity args)).worker? type id).map Broker.Worker.liveness =
      (b.worker? type id).map Broker.Worker.liveness := by
  cases args with
  | request server rid data => exact Broker.routeReq_lives b server identity rid data type id
  | reply server rid data =>
    have unchanged := Broker.worker?_replyReq b server identity rid data type id
    rw [if_neg fun same => other same.2.symm] at unchanged
    exact congrArg (Option.map Broker.Worker.liveness) unchanged
  | heartbeat server =>
    have unchanged := Broker.worker?_heartbeat b identity server type id
    rw [if_neg fun same => other same.2.symm] at unchanged
    exact congrArg (Option.map Broker.Worker.liveness) unchanged
  | other => rfl

/-- A message of the worker itself proves it alive, under its own type only. -/
theorem own_lives (id : String) (b : Broker.State δ) {args : Args δ} (own : Worker.Own server args) :
    (∀ type, type ≠ server → (Broker.step b (.message id args)).worker? type id = b.worker? type id) ∧
      ∀ record, (Broker.step b (.message id args)).worker? server id = some record →
        record.liveness = Broker.HEALTH_LIVENESS := by
  rcases own with rfl | ⟨rid, data, rfl⟩
  · refine ⟨fun type other => ?_, fun record found => ?_⟩
    · exact (Broker.worker?_heartbeat b id server type id).trans (if_neg fun same => other same.1)
    · have here := Broker.worker?_heartbeat b id server server id
      rw [if_pos ⟨rfl, rfl⟩] at here
      obtain rfl := Option.some.inj (here.symm.trans found)
      rfl
  · refine ⟨fun type other => ?_, fun record found => ?_⟩
    · exact (Broker.worker?_replyReq b server id rid data type id).trans (if_neg fun same => other same.1)
    · have here := Broker.worker?_replyReq b server id rid data server id
      rw [if_pos ⟨rfl, rfl⟩] at here
      obtain ⟨before, _, rfl⟩ := Option.map_eq_some_iff.mp (here.symm.trans found)
      rfl

/-- The broker keeps the worker. -/
def Kept (id server : String) (s s' : System δ) : Prop :=
  ((s.broker.worker? server id).isSome = true → (s'.broker.worker? server id).isSome = true) ∧
    Broker.Sends (Broker.Keeps id) s.broker s'.broker

theorem Kept.of_broker {s' : System δ} (same : s'.broker = s.broker) : Kept id server s s' := by
  unfold Kept
  rw [same]
  exact ⟨fun registered => registered, .refl _ _⟩

theorem workerMoves_broker (s : System δ) (w : Worker.State δ) : (s.workerMoves w).broker = s.broker := by
  unfold System.workerMoves
  dsimp only
  split <;> rfl

theorem Linked.someone (linked : Linked t id server start s) (dueTimer : s.now ≤ s.lastTimer + t.timerMax) {identity : String}
    (other : identity ≠ id) (args : Args δ) :
    Linked t id server start (s.brokerMoves id (Broker.step s.broker (.message identity args))) ∧
      Kept id server s (s.brokerMoves id (Broker.step s.broker (.message identity args))) := by
  obtain ⟨w, upward⟩ := linked.upward
  obtain ⟨d, downward⟩ := linked.downward
  obtain ⟨msgs, moved⟩ := brokerMoves_eq id s (Broker.step s.broker (.message identity args))
  have lives := other_lives s.broker other args
  rw [moved]
  refine ⟨?_, ?_⟩
  · refine { linked with
      alone := fun type different => ?_
      upward := ⟨w, { upward with counted := ?_ }⟩
      downward := ⟨_, downward.brokerMoves (downward.soon dueTimer) _ msgs⟩ }
    · have same := lives type
      rw [linked.alone type different] at same
      exact Option.map_eq_none_iff.mp same
    · rcases upward.counted with ⟨record, found, count⟩ | ⟨unknown, rest⟩
      · left
        have same := lives server
        rw [found, Option.map_some] at same
        obtain ⟨after, there, alike⟩ := Option.map_eq_some_iff.mp same
        exact ⟨after, there, alike.trans count⟩
      · right
        have same := lives server
        rw [unknown] at same
        exact ⟨Option.map_eq_none_iff.mp same, rest⟩
  · refine ⟨fun registered => ?_, Broker.step_keeps s.broker (fun timer => by cases timer)⟩
    have same := congrArg Option.isSome (lives server)
    rw [Option.isSome_map, Option.isSome_map] at same
    exact same.trans registered

/-- The broker handles the worker's next message. -/
theorem Linked.heard (linked : Linked t id server start s) (dueTimer : s.now ≤ s.lastTimer + t.timerMax) {sent : Nat}
    {args : Args δ} {rest : List (Nat × Args δ)} (first : s.up = (sent, args) :: rest) :
    Linked t id server start ({ s with up := rest }.brokerMoves id (Broker.step s.broker (.message id args))) ∧
      Kept id server s ({ s with up := rest }.brokerMoves id (Broker.step s.broker (.message id args))) := by
  obtain ⟨w, upward⟩ := linked.upward
  obtain ⟨d, downward⟩ := linked.downward
  obtain ⟨msgs, moved⟩ := brokerMoves_eq id { s with up := rest } (Broker.step s.broker (.message id args))
  have own : Worker.Own server args := upward.own (sent, args) (by rw [first]; exact List.mem_cons_self)
  obtain ⟨elsewhere, here⟩ := own_lives id s.broker own
  have registered : ∃ record, (Broker.step s.broker (.message id args)).worker? server id = some record := by
    rcases upward.counted with ⟨record, found, _⟩ | ⟨_, _, _, others, head⟩
    · rcases own with rfl | ⟨rid, data, rfl⟩
      · have after := Broker.worker?_heartbeat s.broker id server server id
        rw [if_pos ⟨rfl, rfl⟩] at after
        exact ⟨_, after⟩
      · have after := Broker.worker?_replyReq s.broker server id rid data server id
        rw [if_pos ⟨rfl, rfl⟩, found] at after
        exact ⟨_, after⟩
    · rw [first] at head
      obtain ⟨rfl, rfl⟩ := Prod.mk.inj (List.cons.inj head).1
      have after := Broker.worker?_heartbeat s.broker id server server id
      rw [if_pos ⟨rfl, rfl⟩] at after
      exact ⟨_, after⟩
  obtain ⟨record, found⟩ := registered
  have inFlight := upward.inFlight
  rw [first, List.map_cons] at inFlight
  have received : w.receive = { w with heard := sent, inFlight := rest.map Prod.fst, ticks := 0 } := by
    unfold Watch.receive
    rw [inFlight]
  have downward₁ : Downward t start { s with up := rest } d := { downward with }
  have downward₂ := downward₁.brokerMoves (downward.soon dueTimer) (Broker.step s.broker (.message id args)) msgs
  rw [moved]
  refine ⟨?_, ?_⟩
  · refine { linked with
      alone := fun type different => (elsewhere type different).trans (linked.alone type different)
      upward := ⟨w.receive, ?_⟩
      downward := ⟨_, downward₂⟩ }
    refine ⟨by rw [received], by rw [received]; exact upward.lastTick, ?_, upward.past.receive, upward.paced.receive, ?_, .inl ?_⟩
    · rw [Watch.latest_receive]
      exact upward.latest
    · intro msg there
      exact upward.own msg (by rw [first]; exact List.mem_cons_of_mem _ there)
    · refine ⟨record, found, ?_⟩
      rw [here record found, received]
      simp
  · refine ⟨fun _ => ?_, Broker.step_keeps s.broker (fun timer => by cases timer)⟩
    show ((Broker.step s.broker (.message id args)).worker? server id).isSome = true
    rw [found, Option.isSome_some]

/-- A tick that leaves the worker sends it something. -/
theorem greeting_nonempty {b : Broker.State δ} (registered : (b.worker? server id).isSome = true) (alive : id ∉ b.expired) :
    ((Broker.step b .timer).socket.drop b.socket.length).filterMap (toWorker id) ≠ [] := by
  obtain ⟨before, after, sent⟩ := Broker.timer_greets registered alive
  have greeting : Worker.Msg.heartbeat ∈ ((Broker.step b .timer).socket.drop b.socket.length).filterMap (toWorker id) := by
    rw [sent, List.append_assoc, List.drop_left]
    apply List.mem_filterMap.mpr
    exact ⟨.heartbeat id, by simp, by simp [toWorker]⟩
  exact List.ne_nil_of_mem greeting

theorem Linked.timer (linked : Linked t id server start s) (wide : t.Wide) (due : s.now ≤ s.lastCheck + t.checkMax)
    (dueTimer : s.now ≤ s.lastTimer + t.timerMax) (spaced : s.lastTimer + t.timerMin ≤ s.now)
    (prompt : ∀ msg ∈ s.up, s.now ≤ msg.1 + t.delay) :
    Linked t id server start { s.brokerMoves id (Broker.step s.broker .timer) with lastTimer := s.now } ∧
      Kept id server s { s.brokerMoves id (Broker.step s.broker .timer) with lastTimer := s.now } := by
  obtain ⟨w, upward⟩ := linked.upward
  obtain ⟨d, downward⟩ := linked.downward
  have few := upward.paced.ticks_bounded (prompt_of_map upward.inFlight prompt) (upward.soon linked due)
    fun _ => upward.lastTick ▸ spaced
  have ticks := lt_three_of_mul_lt few wide.up
  have aged : ∀ type, (Broker.step s.broker .timer).worker? type id = (s.broker.worker? type id).bind Broker.Worker.aged :=
    fun type => Broker.worker?_checkWorkers s.broker type id
  have alone : ∀ type, type ≠ server → (Broker.step s.broker .timer).worker? type id = none := by
    intro type different
    rw [aged, linked.alone type different, Option.bind_none]
  -- a worker the timer knows has some liveness left
  have lives : ∀ record, s.broker.worker? server id = some record → record.liveness = Broker.HEALTH_LIVENESS - w.ticks →
      ¬ record.liveness - 1 < 0 := by
    intro record _ count
    rw [count, Broker.HEALTH_LIVENESS]
    omega
  have alive : id ∉ s.broker.expired := by
    intro there
    obtain ⟨type, dies⟩ := Broker.mem_expired.mp there
    by_cases here : type = server
    · subst here
      rcases upward.counted with ⟨record, found, count⟩ | ⟨unknown, _⟩
      · exact lives record found count (by simpa [Broker.State.dying, found] using dies)
      · simp [Broker.State.dying, unknown] at dies
    · simp [Broker.State.dying, linked.alone type here] at dies
  have keeps : Broker.Sends (Broker.Keeps id) s.broker (Broker.step s.broker .timer) := Broker.step_keeps s.broker fun _ => alive
  have downward₁ := downward.brokerMoves (downward.soon dueTimer) (Broker.step s.broker .timer)
    (((Broker.step s.broker .timer).socket.drop s.broker.socket.length).filterMap (toWorker id))
  rcases upward.counted with ⟨record, found, count⟩ | ⟨unknown, silent, early, rest, first⟩
  · have registered : (s.broker.worker? server id).isSome = true := by rw [found, Option.isSome_some]
    have here : (Broker.step s.broker .timer).worker? server id = some { record with liveness := record.liveness - 1 } := by
      rw [aged, found, Option.bind_some, Broker.Worker.aged, if_neg (lives record found count)]
    have several : (((Broker.step s.broker .timer).socket.drop s.broker.socket.length).filterMap (toWorker id)).length ≠ 0 :=
      fun none_ => greeting_nonempty registered alive (List.length_eq_zero_iff.mp none_)
    refine ⟨{ linked with alone, timed := le_refl s.now, upward := ⟨w.tick s.now, ?_⟩, downward := ⟨_, { downward₁ with greeted := ?_ }⟩ }, ?_, keeps⟩
    · refine { upward with lastTick := rfl, past := upward.past.tick s.now, paced := ?_, counted := .inl ⟨_, here, ?_⟩ }
      · exact upward.paced.tick upward.past.heard fun _ => upward.lastTick ▸ spaced
      · show record.liveness - 1 = Broker.HEALTH_LIVENESS - ((w.ticks + 1 : Nat) : Int)
        rw [count]
        omega
    · rw [Watch.latest_sends _ _ several]
      exact Nat.le_add_right s.now t.delay
    · intro _
      show ((Broker.step s.broker .timer).worker? server id).isSome = true
      rw [here, Option.isSome_some]
  · have still : (Broker.step s.broker .timer).worker? server id = none := by rw [aged, unknown, Option.bind_none]
    refine ⟨{ linked with alone, timed := le_refl s.now, upward := ⟨{ w with lastTick := s.now }, ?_⟩, downward := ⟨_, { downward₁ with greeted := ?_ }⟩ }, ?_, keeps⟩
    · refine { upward with lastTick := rfl, past := upward.past, paced := ?_, counted := .inr ⟨still, silent, early, rest, first⟩ }
      exact ⟨upward.paced.chain, fun several => absurd silent several⟩
    · have begun := downward₁.begun
      show s.now ≤ _
      omega
    · intro registered
      rw [unknown] at registered
      cases registered

/-! ### Runs -/

theorem Linked.step (linked : Linked t id server start s) (wide : t.Wide) (punctual : t.Punctual id s e) :
    Linked t id server start (step id server s e) ∧ Kept id server s (step id server s e) := by
  have later := linked.later punctual
  obtain ⟨time, act⟩ := e
  obtain ⟨-, ⟨due, dueTimer⟩, spacedCheck, spacedTimer, promptUp, promptDown, foreign⟩ := punctual
  unfold Heartbeats.step
  cases act with
  | check => exact ⟨later.check wide due dueTimer (spacedCheck rfl) promptDown, .of_broker (workerMoves_broker _ _)⟩
  | reply rid buffer => exact ⟨later.reply due rid buffer, .of_broker (workerMoves_broker _ _)⟩
  | timer => exact later.timer wide due dueTimer (spacedTimer rfl) promptUp
  | up =>
    dsimp only
    split
    · exact ⟨later, .of_broker rfl⟩
    · rename_i first
      exact later.heard dueTimer first
  | down =>
    dsimp only
    split
    · exact ⟨later, .of_broker rfl⟩
    · rename_i first
      exact ⟨later.hear first, .of_broker rfl⟩
  | other identity args => exact later.someone dueTimer (fun own => foreign (congrArg some own)) args

theorem Linked.opened {b : Broker.State δ} (unknown : ∀ type, b.worker? type id = none) {lastTimer : Nat}
    (timed : lastTimer ≤ start) : Linked t id server start (opened server b lastTimer start) where
  isOpen := rfl
  once := rfl
  checked := le_refl start
  timed := timed
  past := le_refl start
  active := Nat.lt_add_of_pos_right (by decide)
  alone type _ := unknown type
  upward := by
    refine ⟨{ heard := start, inFlight := [start], ticks := 0, lastTick := lastTimer }, rfl, rfl, rfl, ?_, ?_, ?_, ?_⟩
    · simp [Watch.Past, Heartbeats.opened, System.workerMoves, Worker.connectBroker, Worker.fuckHeartbeat, Worker.close, Worker.send]
    · exact ⟨by simp [Nat.le_add_right], fun several => absurd rfl several⟩
    · intro msg there
      rw [List.mem_singleton.mp there]
      exact .inl rfl
    · exact .inr ⟨unknown server, rfl, Nat.le_add_right start t.delay, [], rfl⟩
  downward := by
    refine ⟨{ heard := start, inFlight := [], ticks := 0, lastTick := start }, rfl, rfl, ?_, le_refl start, ?_, ?_, rfl⟩
    · simp [Watch.Past, Heartbeats.opened, System.workerMoves, Worker.connectBroker, Worker.fuckHeartbeat, Worker.close, Worker.send]
    · exact timed.trans (Nat.le_add_right start t.delay)
    · exact ⟨by simp, fun several => absurd rfl several⟩

/-- When everything comes in time, the worker keeps its first socket and, once its first message must have arrived, the broker
keeps the worker and has not given up any request to it. -/
theorem heartbeats_keep_worker (wide : t.Wide) {b : Broker.State δ} (unknown : ∀ type, b.worker? type id = none)
    {lastTimer : Nat} (timed : lastTimer ≤ start) {events : List (Event δ)}
    (punctual : Along (Heartbeats.step id server) (t.Punctual id) (opened server b lastTimer start) events) :
    (run (Heartbeats.step id server) (opened server b lastTimer start) events).worker.sockets = 1 ∧
      (start + t.delay < (run (Heartbeats.step id server) (opened server b lastTimer start) events).now →
        ((run (Heartbeats.step id server) (opened server b lastTimer start) events).broker.worker? server id).isSome = true) ∧
      ∀ clientid rid, .disconnect clientid id rid ∈
          (run (Heartbeats.step id server) (opened server b lastTimer start) events).broker.socket →
        .disconnect clientid id rid ∈ b.socket := by
  have keep : ∀ s e, Linked t id server start s ∧ Broker.Sends (Broker.Keeps id) b s.broker → t.Punctual id s e →
      Linked t id server start (Heartbeats.step id server s e) ∧
        Broker.Sends (Broker.Keeps id) b (Heartbeats.step id server s e).broker := by
    rintro s e ⟨linked, sends⟩ ok
    obtain ⟨linked', kept⟩ := linked.step wide ok
    exact ⟨linked', sends.trans kept.2⟩
  obtain ⟨linked, sends⟩ := run_invariant keep ⟨Linked.opened unknown timed, .refl _ b⟩ punctual
  refine ⟨linked.once, fun afterwards => ?_, fun clientid rid there => ?_⟩
  · obtain ⟨w, upward⟩ := linked.upward
    rcases upward.counted with ⟨record, found, _⟩ | ⟨_, _, early, _⟩
    · rw [found, Option.isSome_some]
    · omega
  · rcases sends.mem there with before | keeps
    · exact before
    · exact absurd rfl (keeps clientid rid)

/-- Both timers go off every 2500 milliseconds, and no message is under way for longer than a second. -/
def usual : Timing := { checkMin := 2500, checkMax := 2500, timerMin := 2500, timerMax := 2500, delay := 1000 }

/-- A worker opens its link, serves a request and meets both timers. -/
def served : List (Event Nat) :=
  [⟨600, .up⟩, ⟨700, .other "client" (.request "world" "r1" 7)⟩, ⟨800, .down⟩, ⟨900, .reply "r1" (some 8)⟩, ⟨1000, .up⟩,
    ⟨2500, .timer⟩, ⟨2600, .down⟩, ⟨3000, .check⟩]

theorem heartbeats_keep_worker_served :
    (run (Heartbeats.step "w1" "world") (opened "world" (Broker.initial (δ := Nat)) 0 500) served).worker.sockets = 1 ∧
      ((run (Heartbeats.step "w1" "world") (opened "world" (Broker.initial (δ := Nat)) 0 500) served).broker.worker? "world" "w1").isSome = true ∧
      (run (Heartbeats.step "w1" "world") (opened "world" (Broker.initial (δ := Nat)) 0 500) served).worker.data = [7] := by
  have wide : usual.Wide := ⟨by decide, by decide⟩
  have punctual : Along (Heartbeats.step "w1" "world") (usual.Punctual "w1") (opened "world" (Broker.initial (δ := Nat)) 0 500) served :=
    ⟨by decide, by decide, by decide, by decide, by decide, by decide, by decide, by decide, trivial⟩
  have kept := heartbeats_keep_worker wide (fun _ => rfl) (Nat.zero_le 500) punctual
  exact ⟨kept.1, kept.2.1 (by decide), by decide⟩

end Tinygame.Heartbeats
