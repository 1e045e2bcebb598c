import Tinygame.Base.Run
import Tinygame.Net.Queue
import Mathlib.Order.Nat

/-!
# One session

`module/net/socket/session.js` for one entry of `_sessionHandler`. A message of the client is
emitted as `data` when it is alone in the queue; a reply takes the head out and emits the next one.
The listener of `data` may itself make replies before the emission returns.
-/

namespace Tinygame.Session
variable {μ ρ : Type}

/-- What reaches a session: a message of its client, or a reply made for it. -/
inductive Op (μ ρ : Type) where
  | message (data : μ)
  | reply (msg : ρ)
  deriving DecidableEq

structure State (μ ρ : Type) where
  queue : Queue μ := {}
  /-- what `_client.send` was given -/
  sent : List ρ := []
  /-- the payloads of the `data` events -/
  emitted : List (Option μ) := []
  /-- what has reached the session -/
  history : List (Op μ ρ) := []

/-- `emit('data')` with the head of the queue, when `due` holds. -/
def State.emitHead (s : State μ ρ) (due : Prop) [Decidable due] : State μ ρ :=
  if due then { s with emitted := s.emitted ++ [s.queue.first] } else s

/-- The body of the `message` listener and of `Session.reply`, up to the emission that ends it. -/
def step (s : State μ ρ) : Op μ ρ → State μ ρ
  | .message data =>
    let s : State μ ρ := { s with queue := s.queue.push data, history := s.history ++ [.message data] }
    s.emitHead (s.queue.getLength = 1)
  | .reply msg =>
    let s : State μ ρ :=
      { s with sent := s.sent ++ [msg], queue := s.queue.shift.2, history := s.history ++ [.reply msg] }
    s.emitHead (0 < s.queue.getLength)

/-- An operation together with the replies that the listener of its emission makes. `listener n`
are the replies made inside emission `n`; each of them may emit again. The fuel bounds the nesting. -/
def perform (listener : Nat → List ρ) : Nat → State μ ρ → Op μ ρ → State μ ρ
  | 0, s, op => step s op
  | fuel + 1, s, op =>
    let s' := step s op
    if s'.emitted.length = s.emitted.length then s'
    else (listener s.emitted.length).foldl (fun s msg => perform listener fuel s (.reply msg)) s'

/-- What reaches the session from outside, one after the other. An emission nests at most once for
each message in the queue. -/
def serve (listener : Nat → List ρ) (events : List (Op μ ρ)) : State μ ρ :=
  events.foldl (fun s op => perform listener (s.queue.getLength + 1) s op) {}

/-- The messages among the operations, in order. -/
def received (ops : List (Op μ ρ)) : List μ :=
  ops.filterMap fun op =>
    match op with
    | .message data => some data
    | .reply _ => none

/-- The number of replies among the operations. -/
def replies (ops : List (Op μ ρ)) : Nat :=
  ops.countP fun op =>
    match op with
    | .message _ => false
    | .reply _ => true

@[simp] theorem emitHead_queue (s : State μ ρ) (due : Prop) [Decidable due] : (s.emitHead due).queue = s.queue := by
  unfold State.emitHead
  split <;> rfl

@[simp] theorem emitHead_history (s : State μ ρ) (due : Prop) [Decidable due] :
    (s.emitHead due).history = s.history := by
  unfold State.emitHead
  split <;> rfl

theorem emitHead_emitted (s : State μ ρ) (due : Prop) [Decidable due] :
    (s.emitHead due).emitted = if due then s.emitted ++ [s.queue.first] else s.emitted := by
  unfold State.emitHead
  split <;> rfl

/-- The message that an operation emits. -/
def emits (s : State μ ρ) : Op μ ρ → Option μ
  | .message data => if s.queue.items.isEmpty then some data else none
  | .reply _ => s.queue.items[1]?

theorem step_emitted (s : State μ ρ) (op : Op μ ρ) :
    (step s op).emitted = s.emitted ++ (emits s op).toList.map some := by
  cases op with
  | message data =>
    simp only [step, emitHead_emitted, Queue.getLength_eq, Queue.first_eq, Queue.items_push, emits]
    cases s.queue.items with
    | nil => simp
    | cons head rest => simp
  | reply msg =>
    simp only [step, emitHead_emitted, Queue.getLength_eq, Queue.first_eq, Queue.items_shift, emits]
    cases s.queue.items with
    | nil => simp
    | cons head rest =>
      cases rest with
      | nil => simp
      | cons next more => simp

/-- What is emitted is the head of the queue that the operation leaves. -/
theorem first_of_emits {s : State μ ρ} {op : Op μ ρ} {data : μ} (emitted : emits s op = some data) :
    (step s op).queue.first = some data := by
  cases op with
  | message data =>
    simp only [emits, List.isEmpty_iff] at emitted
    split at emitted
    · rename_i empty
      simpa [step, empty] using emitted
    · cases emitted
  | reply msg =>
    simp only [emits] at emitted
    simpa [step, List.head?_tail] using emitted

/-! ### Nested replies are ordinary operations -/

theorem step_history (s : State μ ρ) (op : Op μ ρ) : (step s op).history = s.history ++ [op] := by
  cases op <;> exact emitHead_history _ _

/-- The state is what its history leads to from a new session. -/
def Flat (s : State μ ρ) : Prop := s = run step {} s.history

theorem step_flat {s : State μ ρ} (flat : Flat s) (op : Op μ ρ) : Flat (step s op) := by
  unfold Flat
  rw [step_history, run_append, ← flat]
  rfl

theorem perform_flat (listener : Nat → List ρ) (fuel : Nat) {s : State μ ρ} (flat : Flat s) (op : Op μ ρ) :
    Flat (perform listener fuel s op) := by
  induction fuel generalizing s op with
  | zero => exact step_flat flat op
  | succ fuel ih =>
    unfold perform
    dsimp only
    split
    · exact step_flat flat op
    · have folded : ∀ (msgs : List ρ) (s : State μ ρ), Flat s →
          Flat (msgs.foldl (fun s msg => perform listener fuel s (.reply msg)) s) := by
        intro msgs
        induction msgs with
        | nil => exact fun _ flat => flat
        | cons msg rest again => exact fun s flat => again _ (ih flat (.reply msg))
      exact folded _ _ (step_flat flat op)

theorem serve_flat (listener : Nat → List ρ) (events : List (Op μ ρ)) : Flat (serve listener events) := by
  unfold serve
  have folded : ∀ (events : List (Op μ ρ)) (s : State μ ρ), Flat s →
      Flat (events.foldl (fun s op => perform listener (s.queue.getLength + 1) s op) s) := by
    intro events
    induction events with
    | nil => exact fun _ flat => flat
    | cons op rest ih => exact fun s flat => ih _ (perform_flat listener _ flat op)
  exact folded events {} rfl

/-! ### The nesting ends -/

theorem step_length (s : State μ ρ) (msg : ρ) :
    (step s (.reply msg)).queue.items.length = s.queue.items.length - 1 := by
  simp [step]

theorem perform_length (listener : Nat → List ρ) (fuel : Nat) (s : State μ ρ) (msg : ρ) :
    (perform listener fuel s (.reply msg)).queue.items.length ≤ s.queue.items.length - 1 := by
  induction fuel generalizing s msg with
  | zero => exact (step_length s msg).le
  | succ fuel ih =>
    unfold perform
    dsimp only
    split
    · exact (step_length s msg).le
    · have folded : ∀ (msgs : List ρ) (s : State μ ρ),
          (msgs.foldl (fun s msg => perform listener fuel s (.reply msg)) s).queue.items.length ≤
            s.queue.items.length := by
        intro msgs
        induction msgs with
        | nil => exact fun _ => le_refl _
        | cons msg rest again => exact fun s => (again _).trans ((ih s msg).trans (Nat.sub_le _ _))
      exact (folded _ _).trans (step_length s msg).le

theorem silent_of_empty (s : State μ ρ) (op : Op μ ρ) (empty : (step s op).queue.items.length = 0) :
    (step s op).emitted.length = s.emitted.length := by
  cases op with
  | message data => simp [step] at empty
  | reply msg =>
    rw [step_length] at empty
    simp only [step, emitHead_emitted, Queue.getLength_eq, Queue.items_shift, List.length_tail, empty, lt_irrefl,
      if_false]

/-- Once the fuel covers the queue, more of it changes nothing: every emission inside another has
a shorter queue. -/
theorem perform_enough (listener : Nat → List ρ) (fuel : Nat) (s : State μ ρ) (op : Op μ ρ)
    (enough : (step s op).queue.items.length ≤ fuel) :
    perform listener (fuel + 1) s op = perform listener fuel s op := by
  induction fuel generalizing s op with
  | zero =>
    have silent := silent_of_empty s op (Nat.le_zero.mp enough)
    simp [perform, silent]
  | succ fuel ih =>
    have folded : ∀ (msgs : List ρ) (s : State μ ρ), s.queue.items.length ≤ fuel + 1 →
        msgs.foldl (fun s msg => perform listener (fuel + 1) s (.reply msg)) s =
          msgs.foldl (fun s msg => perform listener fuel s (.reply msg)) s := by
      intro msgs
      induction msgs with
      | nil => exact fun _ _ => rfl
      | cons msg rest again =>
        intro s short
        have shorter := step_length s msg
        have nested := perform_length listener fuel s msg
        rw [List.foldl_cons, List.foldl_cons, ih s (.reply msg) (by omega)]
        exact again _ (by omega)
    rw [perform, perform, folded _ _ enough]

/-! ### First in, first out -/

/-- The messages of the history are emitted in order, as far as the replies have come: the queue
holds what is not replied, and its head is the one emission that is not replied. -/
structure Fifo (s : State μ ρ) : Prop where
  queued : s.queue.items = (received s.history).drop (replies s.history)
  replied : replies s.history ≤ (received s.history).length
  emitted : s.emitted = ((received s.history).take (replies s.history + 1)).map some

/-- A reply answers an emission that has none. -/
def Due (s : State μ ρ) : Op μ ρ → Prop
  | .message _ => True
  | .reply _ => replies s.history < s.emitted.length

instance (s : State μ ρ) (op : Op μ ρ) : Decidable (Due s op) := by
  cases op <;> unfold Due <;> infer_instance

theorem received_append (ops : List (Op μ ρ)) (op : Op μ ρ) :
    received (ops ++ [op]) = received ops ++ received [op] := List.filterMap_append

theorem replies_append (ops : List (Op μ ρ)) (op : Op μ ρ) : replies (ops ++ [op]) = replies ops + replies [op] :=
  List.countP_append

theorem step_fifo {s : State μ ρ} {op : Op μ ρ} (fifo : Fifo s) (due : Due s op) : Fifo (step s op) := by
  obtain ⟨queued, replied, emitted⟩ := fifo
  cases op with
  | message data =>
    have log : (step s (.message data)).history = s.history ++ [.message data] := step_history s _
    have got : received (step s (.message data)).history = received s.history ++ [data] := by
      rw [log, received_append]
      rfl
    have same : replies (step s (.message data)).history = replies s.history := by
      rw [log, replies_append]
      rfl
    refine ⟨?_, ?_, ?_⟩
    · rw [got, same, List.drop_append_of_le_length replied, ← queued]
      simp [step]
    · rw [got, same, List.length_append]
      exact replied.trans (Nat.le_add_right _ _)
    · rw [got, same]
      simp only [step, emitHead_emitted, Queue.getLength_eq, Queue.first_eq, Queue.items_push, queued]
      by_cases alone : replies s.history = (received s.history).length
      · -- everything is replied, so the message is alone in the queue
        have all : (received s.history).take (replies s.history + 1) = received s.history :=
          List.take_of_length_le (by omega)
        have all' : (received s.history ++ [data]).take (replies s.history + 1) = received s.history ++ [data] :=
          List.take_of_length_le (by simp [alone])
        rw [emitted, all, all']
        simp [alone]
      · have more : replies s.history + 1 ≤ (received s.history).length := by omega
        rw [if_neg (by simp; omega), emitted, List.take_append_of_le_length more]
  | reply msg =>
    have log : (step s (.reply msg)).history = s.history ++ [.reply msg] := step_history s _
    have got : received (step s (.reply msg)).history = received s.history := by
      rw [log, received_append]
      exact List.append_nil _
    have next : replies (step s (.reply msg)).history = replies s.history + 1 := by
      rw [log, replies_append]
      rfl
    have below : replies s.history < (received s.history).length := by
      have open_ : replies s.history < s.emitted.length := due
      rw [emitted, List.length_map, List.length_take] at open_
      omega
    have left : (step s (.reply msg)).queue.items = (received s.history).drop (replies s.history + 1) := by
      simp [step, queued]
    refine ⟨?_, ?_, ?_⟩
    · rw [left, got, next]
    · rw [got, next]
      exact below
    · rw [got, next]
      simp only [step, emitHead_emitted, Queue.getLength_eq, Queue.first_eq, Queue.items_shift, queued,
        List.tail_drop, List.length_drop, List.head?_drop]
      by_cases last : replies s.history + 1 = (received s.history).length
      · rw [if_neg (by omega), emitted, List.take_of_length_le (by omega), List.take_of_length_le (by omega)]
      · have more : replies s.history + 1 < (received s.history).length := by omega
        rw [if_pos (by omega), emitted, List.take_succ_eq_append_getElem more, List.map_append,
          List.getElem?_eq_getElem more]
        rfl

theorem new_fifo : Fifo ({} : State μ ρ) := ⟨rfl, le_refl _, rfl⟩

theorem run_history_eq (ops : List (Op μ ρ)) (s : State μ ρ) : (run step s ops).history = s.history ++ ops := by
  induction ops generalizing s with
  | nil => simp
  | cons op rest ih => simp [ih, step_history]

/-- At every moment of a run in which no reply comes before its message is emitted, replies inside
emissions included: the emissions are a prefix of the messages received, at most one of them is
not replied, and the head of a queue that is not empty is that one. -/
theorem session_fifo (listener : Nat → List ρ) (events : List (Op μ ρ))
    (due : Along step Due {} (serve listener events).history) :
    serve listener events = run step {} (serve listener events).history ∧
      ∀ past later, (serve listener events).history = past ++ later →
        let s : State μ ρ := run step {} past
        s.emitted <+: (received past).map some ∧
          (replies past ≤ s.emitted.length ∧ s.emitted.length ≤ replies past + 1) ∧
          ∀ head, s.queue.first = some head →
            s.emitted.length = replies past + 1 ∧ s.emitted[replies past]? = some (some head) := by
  refine ⟨serve_flat listener events, fun past later split => ?_⟩
  intro s
  rw [split] at due
  have fifo : Fifo s := run_invariant (fun _ _ fifo due => step_fifo fifo due) new_fifo (along_append.mp due).1
  have log : s.history = past := run_history_eq past {}
  obtain ⟨queued, replied, emitted⟩ := fifo
  rw [log] at queued replied emitted
  refine ⟨?_, ?_, fun head found => ?_⟩
  · rw [emitted]
    exact (List.take_prefix _ _).map some
  · rw [emitted, List.length_map, List.length_take]
    omega
  · rw [Queue.first_eq, queued, List.head?_drop] at found
    have below : replies past < (received past).length := (List.getElem?_eq_some_iff.mp found).1
    refine ⟨?_, ?_⟩
    · rw [emitted, List.length_map, List.length_take]
      omega
    · rw [emitted, List.getElem?_map, List.getElem?_take_of_lt (by omega), found]
      rfl

/-- The first emission is replied before it returns, the second later. -/
theorem session_fifo_nested :
    let s : State Nat Nat := serve (fun n => if n = 0 then [10] else [])
      [.message 1, .message 2, .message 3, .reply 20]
    s.history = [.message 1, .reply 10, .message 2, .message 3, .reply 20] ∧
      s.emitted <+: (received s.history).map some := by
  have log : (serve (fun n => if n = 0 then [10] else [])
      [.message 1, .message 2, .message 3, (.reply 20 : Op Nat Nat)]).history =
      [.message 1, .reply 10, .message 2, .message 3, .reply 20] := by decide
  have fifo := session_fifo (fun n => if n = 0 then [10] else [])
    [.message 1, .message 2, .message 3, (.reply 20 : Op Nat Nat)]
    (by rw [log]; exact ⟨trivial, by decide, trivial, trivial, by decide, trivial⟩)
  refine ⟨log, ?_⟩
  have whole := (fifo.2 _ [] (List.append_nil _).symm).1
  rwa [← fifo.1] at whole

end Tinygame.Session
