import Mathlib.Data.List.Chain

/-!
# A watched channel

Messages of one sender reach a watcher in the order they were sent. The watcher has a timer: every
message it handles sets its count of silent ticks back, and it gives the sender up when too many
ticks pass without one. Times are those of one clock.
-/

namespace Tinygame

structure Watch where
  /-- when the last message the watcher handled was sent -/
  heard : Nat
  /-- when the messages under way were sent, in order -/
  inFlight : List Nat
  /-- the ticks since the watcher handled a message -/
  ticks : Nat
  /-- the last tick -/
  lastTick : Nat

namespace Watch
variable {w : Watch} {gap period delay now : Nat}

/-- When the last message was sent. -/
def latest (w : Watch) : Nat := (w.heard :: w.inFlight).getLast (List.cons_ne_nil w.heard w.inFlight)

def send (w : Watch) (now : Nat) : Watch := { w with inFlight := w.inFlight ++ [now] }

/-- `n` messages sent at once. -/
def sends (w : Watch) (now n : Nat) : Watch := { w with inFlight := w.inFlight ++ List.replicate n now }

/-- The watcher handles the first of the messages under way. -/
def receive (w : Watch) : Watch :=
  match w.inFlight with
  | [] => w
  | sent :: rest => { w with heard := sent, inFlight := rest, ticks := 0 }

def tick (w : Watch) (now : Nat) : Watch := { w with ticks := w.ticks + 1, lastTick := now }

/-- Messages were sent at most `gap` apart, and the silent ticks came at least `period` apart. -/
structure Paced (w : Watch) (gap period : Nat) : Prop where
  chain : List.IsChain (fun sent next => next ≤ sent + gap) (w.heard :: w.inFlight)
  spaced : w.ticks ≠ 0 → w.heard + (w.ticks - 1) * period ≤ w.lastTick

/-- Everything was sent by now. -/
def Past (w : Watch) (now : Nat) : Prop := ∀ sent ∈ w.heard :: w.inFlight, sent ≤ now

theorem Past.mono (past : w.Past now) {later : Nat} (after : now ≤ later) : w.Past later :=
  fun sent there => (past sent there).trans after

theorem Past.latest (past : w.Past now) : w.latest ≤ now := past _ (List.getLast_mem _)

theorem Past.heard (past : w.Past now) : w.heard ≤ now := past _ List.mem_cons_self

theorem Past.sends (past : w.Past now) (n : Nat) : (w.sends now n).Past now := by
  intro sent there
  have whole : sent ∈ (w.heard :: w.inFlight) ++ List.replicate n now := there
  rcases List.mem_append.mp whole with before | new
  · exact past sent before
  · rw [List.eq_of_mem_replicate new]

theorem Past.receive (past : w.Past now) : w.receive.Past now := by
  unfold Watch.receive
  split
  · exact past
  · rename_i first rest there
    intro sent member
    apply past
    rw [there]
    exact List.mem_cons_of_mem _ member

theorem Past.tick (past : w.Past now) (at_ : Nat) : (w.tick at_).Past now := past

theorem latest_send (w : Watch) (now : Nat) : (w.send now).latest = now := by simp [latest, send]

theorem latest_receive (w : Watch) : w.receive.latest = w.latest := by
  unfold receive
  split
  · rfl
  · rename_i sent rest there
    simp only [latest, there]
    exact (List.getLast_cons (List.cons_ne_nil sent rest)).symm

theorem latest_tick (w : Watch) (now : Nat) : (w.tick now).latest = w.latest := rfl

theorem Paced.send (paced : w.Paced gap period) (soon : now ≤ w.latest + gap) : (w.send now).Paced gap period := by
  constructor
  · show List.IsChain _ ((w.heard :: w.inFlight) ++ [now])
    rw [List.isChain_append]
    refine ⟨paced.chain, List.isChain_singleton _, ?_⟩
    intro last isLast first isFirst
    have ends : (w.heard :: w.inFlight).getLast? = some w.latest := List.getLast?_eq_some_getLast _
    obtain rfl : w.latest = last := Option.some.inj (ends.symm.trans isLast)
    obtain rfl : now = first := Option.some.inj isFirst
    exact soon
  · exact paced.spaced

theorem sends_zero (w : Watch) (now : Nat) : w.sends now 0 = w := by simp [sends]

theorem sends_succ (w : Watch) (now n : Nat) : w.sends now (n + 1) = (w.sends now n).send now := by
  simp [sends, Watch.send, List.replicate_succ']

theorem latest_sends (w : Watch) (now : Nat) {n : Nat} (some_ : n ≠ 0) : (w.sends now n).latest = now := by
  obtain ⟨n, rfl⟩ := Nat.exists_eq_succ_of_ne_zero some_
  rw [sends_succ, latest_send]

theorem Paced.sends (paced : w.Paced gap period) (soon : now ≤ w.latest + gap) (n : Nat) :
    (w.sends now n).Paced gap period := by
  induction n with
  | zero => rwa [sends_zero]
  | succ n ih =>
    rw [sends_succ]
    apply ih.send
    cases n with
    | zero => rwa [sends_zero]
    | succ n =>
      rw [latest_sends w now (Nat.succ_ne_zero n)]
      omega

theorem Paced.receive (paced : w.Paced gap period) : w.receive.Paced gap period := by
  unfold Watch.receive
  split
  · exact paced
  · rename_i sent rest there
    have chain := paced.chain
    rw [there] at chain
    exact ⟨(List.isChain_cons_cons.mp chain).2, fun silent => absurd rfl silent⟩

theorem Paced.tick (paced : w.Paced gap period) (known : w.heard ≤ now) (due : w.ticks ≠ 0 → w.lastTick + period ≤ now) :
    (w.tick now).Paced gap period := by
  refine ⟨paced.chain, fun _ => ?_⟩
  show w.heard + w.ticks * period ≤ now
  cases count : w.ticks with
  | zero => omega
  | succ n =>
    have spaced := paced.spaced (by omega)
    have waited := due (by omega)
    rw [count, Nat.add_sub_cancel] at spaced
    rw [Nat.succ_mul]
    omega

/-- While no message is under way for longer than `delay` and the last one is not older than `gap`, the last message
handled is not older than both together. -/
theorem Paced.recent (paced : w.Paced gap period) (prompt : ∀ sent ∈ w.inFlight, now ≤ sent + delay)
    (active : now ≤ w.latest + gap) : now ≤ w.heard + gap + delay := by
  cases there : w.inFlight with
  | nil =>
    have last : w.latest = w.heard := by simp [latest, there]
    omega
  | cons sent rest =>
    have chain := paced.chain
    rw [there] at chain prompt
    have close := (List.isChain_cons_cons.mp chain).1
    have arrives := prompt sent List.mem_cons_self
    omega

/-- The watcher never counts as many silent ticks as it takes to span both. -/
theorem Paced.ticks_bounded (paced : w.Paced gap period) (prompt : ∀ sent ∈ w.inFlight, now ≤ sent + delay)
    (active : now ≤ w.latest + gap) (due : w.ticks ≠ 0 → w.lastTick + period ≤ now) :
    w.ticks * period ≤ gap + delay := by
  have recent := paced.recent prompt active
  cases count : w.ticks with
  | zero => omega
  | succ n =>
    have spaced := paced.spaced (by omega)
    have waited := due (by omega)
    rw [count, Nat.add_sub_cancel] at spaced
    rw [Nat.succ_mul]
    omega

end Watch

end Tinygame
