import Tinygame.Net.Broker

/-!
# A worker's end of the link to the broker

`module/net/mdp/worker.js`. The worker announces itself when it has sent nothing for a while and
opens a new socket when the broker has been silent for too many of its health checks. `now` is
`Date.now()`, in milliseconds.
-/

namespace Tinygame.Worker
open Broker (Args)
variable {δ : Type}

def HEARTBEAT_TIME : Nat := 2500
def BROKER_LIVENESS : Int := 3

/-- What the broker sends to a worker. -/
inductive Msg (δ : Type) where
  | request (rid : String) (data : δ)
  | heartbeat
  deriving DecidableEq

structure State (δ : Type) where
  /-- there is a socket -/
  socket : Bool := false
  /-- the sockets opened so far -/
  sockets : Nat := 0
  /-- the timer runs -/
  heartbeat : Bool := false
  hbtime : Nat := 0
  /-- not defined before the first `connectBroker` -/
  liveness : Int := 0
  /-- the messages sent so far -/
  sent : List (Args δ) := []
  /-- the `data` events so far -/
  data : List δ := []

def send (w : State δ) (now : Nat) (msg : Args δ) : State δ :=
  if w.socket then { w with hbtime := now, sent := w.sent ++ [msg] } else w

def close (w : State δ) : State δ := { w with heartbeat := false, socket := false }

/-- Announces the worker, unless it has sent something within the heartbeat time. -/
def fuckHeartbeat (server : String) (w : State δ) (now : Nat) : State δ :=
  if w.hbtime ≠ 0 ∧ now - w.hbtime < HEARTBEAT_TIME then w else send w now (.heartbeat server)

def connectBroker (server : String) (w : State δ) (now : Nat) : State δ :=
  let w := close w
  let w := { w with socket := true, sockets := w.sockets + 1 }
  let w := fuckHeartbeat server w now
  { w with liveness := BROKER_LIVENESS, heartbeat := true }

def checkHealth (server : String) (w : State δ) (now : Nat) : State δ :=
  let w := { w with liveness := w.liveness - 1 }
  if w.liveness < 0 then connectBroker server w now else fuckHeartbeat server w now

def onMsg (w : State δ) : Msg δ → State δ
  | .request _ data => { w with data := w.data ++ [data], liveness := BROKER_LIVENESS }
  | .heartbeat => { w with liveness := BROKER_LIVENESS }

/-- `buffer` is the text of the reply; `JSON.stringify` may give none. -/
def reply (server : String) (w : State δ) (now : Nat) (rid : String) (buffer : Option δ) : State δ :=
  match buffer with
  | some buffer => send w now (.reply server rid buffer)
  | none => w

theorem onMsg_frame (w : State δ) (msg : Msg δ) :
    (onMsg w msg).socket = w.socket ∧ (onMsg w msg).sockets = w.sockets ∧ (onMsg w msg).hbtime = w.hbtime ∧
      (onMsg w msg).sent = w.sent ∧ (onMsg w msg).liveness = BROKER_LIVENESS := by
  cases msg <;> exact ⟨rfl, rfl, rfl, rfl, rfl⟩

/-- A message a worker of the type sends. -/
def Own (server : String) (msg : Args δ) : Prop := msg = .heartbeat server ∨ ∃ rid data, msg = .reply server rid data

/-- What a worker with a socket does in one go: it sends nothing, or one message now. -/
structure Spoke (server : String) (now : Nat) (w w' : State δ) : Prop where
  open_ : w'.socket = true
  sent : w'.sent = w.sent ∧ w'.hbtime = w.hbtime ∨ ∃ msg, Own server msg ∧ w'.sent = w.sent ++ [msg] ∧ w'.hbtime = now

theorem send_spoke {w : State δ} (isOpen : w.socket = true) {server : String} (now : Nat) {msg : Args δ} (own : Own server msg) :
    Spoke server now w (send w now msg) := by
  unfold send
  rw [if_pos isOpen]
  exact ⟨isOpen, .inr ⟨msg, own, rfl, rfl⟩⟩

theorem send_frame (w : State δ) (now : Nat) (msg : Args δ) :
    (send w now msg).sockets = w.sockets ∧ (send w now msg).liveness = w.liveness := by
  unfold send
  split <;> exact ⟨rfl, rfl⟩

/-- After a heartbeat check the last message is younger than the heartbeat time. -/
theorem fuckHeartbeat_spoke {w : State δ} (isOpen : w.socket = true) (server : String) {now : Nat}
    (past : w.hbtime ≤ now) :
    Spoke server now w (fuckHeartbeat server w now) ∧ now < (fuckHeartbeat server w now).hbtime + HEARTBEAT_TIME := by
  unfold fuckHeartbeat
  split
  · rename_i recent
    exact ⟨⟨isOpen, .inl ⟨rfl, rfl⟩⟩, by omega⟩
  · constructor
    · exact send_spoke isOpen now (.inl rfl)
    · simp [send, isOpen, HEARTBEAT_TIME]

theorem fuckHeartbeat_frame (server : String) (w : State δ) (now : Nat) :
    (fuckHeartbeat server w now).sockets = w.sockets ∧ (fuckHeartbeat server w now).liveness = w.liveness := by
  unfold fuckHeartbeat
  split
  · exact ⟨rfl, rfl⟩
  · exact send_frame w now _

/-- A check that does not run out of liveness keeps the socket. -/
theorem checkHealth_alive {w : State δ} (isOpen : w.socket = true) (server : String) {now : Nat} (past : w.hbtime ≤ now)
    (alive : 0 < w.liveness) :
    Spoke server now w (checkHealth server w now) ∧ now < (checkHealth server w now).hbtime + HEARTBEAT_TIME ∧
      (checkHealth server w now).sockets = w.sockets ∧ (checkHealth server w now).liveness = w.liveness - 1 := by
  have kept : ¬ w.liveness - 1 < 0 := by omega
  unfold checkHealth
  dsimp only
  rw [if_neg kept]
  obtain ⟨spoke, recent⟩ := @fuckHeartbeat_spoke δ { w with liveness := w.liveness - 1 } isOpen server now past
  obtain ⟨sockets, liveness⟩ := fuckHeartbeat_frame server { w with liveness := w.liveness - 1 } now
  exact ⟨⟨spoke.open_, spoke.sent⟩, recent, sockets, liveness⟩

theorem reply_spoke {w : State δ} (isOpen : w.socket = true) (server : String) (now : Nat) (rid : String) (buffer : Option δ) :
    Spoke server now w (reply server w now rid buffer) := by
  unfold reply
  split
  · exact send_spoke isOpen now (.inr ⟨rid, _, rfl⟩)
  · exact ⟨isOpen, .inl ⟨rfl, rfl⟩⟩

theorem reply_frame (server : String) (w : State δ) (now : Nat) (rid : String) (buffer : Option δ) :
    (reply server w now rid buffer).sockets = w.sockets ∧ (reply server w now rid buffer).liveness = w.liveness := by
  unfold reply
  split
  · exact send_frame w now _
  · exact ⟨rfl, rfl⟩

end Tinygame.Worker
