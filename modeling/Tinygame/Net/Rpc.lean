import Tinygame.Net.BrokerReplies
import Tinygame.Net.Callback

/-!
# Remote calls through the broker

Any number of processes that call each other with function callbacks, the broker between them, and
the messages under way, which may overtake each other. A process is named by the identity of its
request socket; what its worker says is not restricted.
-/

namespace Tinygame.Rpc
open Broker (Args castType? requestIds)
open Callback (Entry onDispatch)
variable {β κ φ δ : Type}

/-- What a reply came to at the caller. -/
structure Answer (β κ φ : Type) where
  clientid : String
  workid : String
  rid : String
  outcome : Callback.Outcome β κ φ

structure System (β κ φ δ : Type) where
  broker : Broker.State δ := Broker.initial
  /-- the messages under way to the broker, with the identities of their senders -/
  up : List (String × Args δ) := []
  /-- the messages of the broker under way -/
  down : List (Broker.Msg δ) := []
  callbackCache : String → LimitMap (Entry κ φ) := fun _ => .new 100
  answers : List (Answer β κ φ) := []

inductive Event (κ φ δ : Type) where
  /-- `callRemoteFunc` or `callRemoteFuncAll`, with the id its request is sent under -/
  | call (clientid : String) (all : Bool) (server rid : String) (data : δ) (entry : Entry κ φ)
  /-- a worker replies -/
  | reply (workid server rid : String) (data : δ)
  | heartbeat (workid server : String)
  /-- the broker handles one of the messages under way -/
  | handle (i : Nat)
  /-- the broker's timer -/
  | timer
  /-- one of the broker's messages arrives -/
  | arrive (i : Nat)

/-- The server a request names. -/
def target (all : Bool) (server : String) : String := if all then "all-" ++ server else server

def System.brokerMoves (s : System β κ φ δ) (b : Broker.State δ) : System β κ φ δ :=
  { s with broker := b, down := s.down ++ b.socket.drop s.broker.socket.length }

/-- A message arrives; `parse` reads the text of a reply, if it can be read. -/
def arrives (imp : String → Bool) (parse : δ → Option (Callback.Msg β)) (s : System β κ φ δ) : Broker.Msg δ → System β κ φ δ
  | .reply clientid workid rid data =>
    match parse data with
    | some msg =>
      { s with answers := s.answers ++ [{ clientid, workid, rid, outcome := onDispatch imp (s.callbackCache clientid) rid msg }] }
    | none => s
  | _ => s

def step (imp : String → Bool) (parse : δ → Option (Callback.Msg β)) (s : System β κ φ δ) : Event κ φ δ → System β κ φ δ
  | .call clientid all server rid data entry =>
    { s with
      up := s.up ++ [(clientid, .request (target all server) rid data)]
      callbackCache := fun other => if other = clientid then (s.callbackCache other).set rid entry else s.callbackCache other }
  | .reply workid server rid data => { s with up := s.up ++ [(workid, .reply server rid data)] }
  | .heartbeat workid server => { s with up := s.up ++ [(workid, .heartbeat server)] }
  | .handle i =>
    match s.up[i]? with
    | some (identity, args) => { s with up := s.up.eraseIdx i }.brokerMoves (Broker.step s.broker (.message identity args))
    | none => s
  | .timer => s.brokerMoves (Broker.step s.broker .timer)
  | .arrive i =>
    match s.down[i]? with
    | some msg => arrives imp parse { s with down := s.down.eraseIdx i } msg
    | none => s

/-- The ids of the calls, in order. -/
def callIds (events : List (Event κ φ δ)) : List String :=
  events.filterMap fun e =>
    match e with
    | .call _ _ _ rid _ _ => some rid
    | _ => none

/-- The ids of the requests under way. -/
def upIds (up : List (String × Args δ)) : List String := requestIds (up.map fun msg => .message msg.1 msg.2)

/-- Somebody sent the message to the broker. -/
def Sent (past : List (Event κ φ δ)) (identity : String) : Args δ → Prop
  | .request named rid data => ∃ all server entry, .call identity all server rid data entry ∈ past ∧ named = target all server
  | .reply server rid data => .reply identity server rid data ∈ past
  | _ => True

/-- The message is a reply that `p` counts. -/
def counts (p : String → String → Bool) : Broker.Msg δ → Bool
  | .reply _ workid rid _ => p workid rid
  | _ => false

/-- What a reply passed on by the broker comes to at its client. -/
def Explained (imp : String → Bool) (parse : δ → Option (Callback.Msg β)) (past : List (Event κ φ δ)) (sent : List (Broker.Msg δ))
    (a : Answer β κ φ) : Prop :=
  ∃ data msg cache, .reply a.clientid a.workid a.rid data ∈ sent ∧ parse data = some msg ∧
    (∀ entry, cache.get a.rid = some entry → ∃ all server given, .call a.clientid all server a.rid given entry ∈ past) ∧
    a.outcome = onDispatch imp cache a.rid msg

/-- What holds after the events `past`, of which the broker has handled some. -/
structure Carried (imp : String → Bool) (parse : δ → Option (Callback.Msg β)) (past : List (Event κ φ δ)) (s : System β κ φ δ)
    (handled : List (Broker.Event δ)) : Prop where
  ran : s.broker = run Broker.step Broker.initial handled
  ids : (requestIds handled ++ upIds s.up).Perm (callIds past)
  sent : ∀ identity args, .message identity args ∈ handled → Sent past identity args
  up : ∀ msg ∈ s.up, Sent past msg.1 msg.2
  down : ∀ msg ∈ s.down, msg ∈ s.broker.socket
  cached : ∀ clientid rid entry, (s.callbackCache clientid).get rid = some entry →
    ∃ all server given, .call clientid all server rid given entry ∈ past
  explained : ∀ a ∈ s.answers, Explained imp parse past s.broker.socket a
  counted : ∀ p, s.answers.countP (fun a => p a.workid a.rid) + s.down.countP (counts p) ≤ s.broker.socket.countP (counts p)

variable {imp : String → Bool} {parse : δ → Option (Callback.Msg β)} {past : List (Event κ φ δ)} {s : System β κ φ δ}
  {handled : List (Broker.Event δ)} {e : Event κ φ δ}

theorem callIds_append (first second : List (Event κ φ δ)) : callIds (first ++ second) = callIds first ++ callIds second :=
  List.filterMap_append

theorem Sent.later {identity : String} {args : Args δ} (sent : Sent past identity args) (e : Event κ φ δ) :
    Sent (past ++ [e]) identity args := by
  cases args with
  | request named rid data =>
    obtain ⟨all, server, entry, there, same⟩ := sent
    exact ⟨all, server, entry, List.mem_append_left _ there, same⟩
  | reply server rid data => exact List.mem_append_left _ sent
  | heartbeat | other => trivial

theorem Explained.later {socket socket' : List (Broker.Msg δ)} {a : Answer β κ φ} (explained : Explained imp parse past socket a)
    (e : Event κ φ δ) (more : ∀ msg ∈ socket, msg ∈ socket') : Explained imp parse (past ++ [e]) socket' a := by
  obtain ⟨data, msg, cache, there, read, own, same⟩ := explained
  refine ⟨data, msg, cache, more _ there, read, fun entry found => ?_, same⟩
  obtain ⟨all, server, given, called⟩ := own entry found
  exact ⟨all, server, given, List.mem_append_left _ called⟩

/-- An event that is no call leaves what holds. -/
theorem Carried.later (carried : Carried imp parse past s handled) (e : Event κ φ δ) (quiet : callIds [e] = []) :
    Carried imp parse (past ++ [e]) s handled where
  ran := carried.ran
  ids := by
    rw [callIds_append, quiet, List.append_nil]
    exact carried.ids
  sent identity args there := (carried.sent identity args there).later e
  up msg there := (carried.up msg there).later e
  down := carried.down
  cached clientid rid entry found := by
    obtain ⟨all, server, given, called⟩ := carried.cached clientid rid entry found
    exact ⟨all, server, given, List.mem_append_left _ called⟩
  explained a there := (carried.explained a there).later e fun _ member => member
  counted := carried.counted

/-- Somebody says something that is no request. -/
theorem Carried.sent_by (carried : Carried imp parse past s handled) {identity : String} {args : Args δ} (sent : Sent past identity args)
    (quiet : upIds [(identity, args)] = []) : Carried imp parse past { s with up := s.up ++ [(identity, args)] } handled :=
  { carried with
    ids := by
      have none_ : upIds (s.up ++ [(identity, args)]) = upIds s.up := by
        unfold upIds at quiet ⊢
        rw [List.map_append, Broker.requestIds_append, quiet, List.append_nil]
      rw [none_]
      exact carried.ids
    up := by
      intro msg there
      rcases List.mem_append.mp there with before | here
      · exact carried.up msg before
      · rw [List.mem_singleton.mp here]
        exact sent }

theorem Carried.brokerMoves (carried : Carried imp parse past s handled) {event : Broker.Event δ} {up : List (String × Args δ)}
    (ids : (requestIds (handled ++ [event]) ++ upIds up).Perm (callIds past))
    (sent : ∀ identity args, event = .message identity args → Sent past identity args) (rest : ∀ msg ∈ up, msg ∈ s.up) :
    Carried imp parse past ({ s with up := up }.brokerMoves (Broker.step s.broker event)) (handled ++ [event]) := by
  obtain ⟨new, socket, -⟩ := Broker.step_sends s.broker event
  have kept : ∀ msg ∈ s.broker.socket, msg ∈ (Broker.step s.broker event).socket := by
    intro msg there
    rw [socket]
    exact List.mem_append_left _ there
  have fresh : (Broker.step s.broker event).socket.drop s.broker.socket.length = new := by rw [socket, List.drop_left]
  refine {
    ran := ?_
    ids
    sent := ?_
    up := fun msg there => carried.up msg (rest msg there)
    down := ?_
    cached := carried.cached
    explained := ?_
    counted := ?_ }
  · show Broker.step s.broker event = _
    rw [run_append, ← carried.ran]
    rfl
  · intro identity args there
    rcases List.mem_append.mp there with before | here
    · exact carried.sent identity args before
    · exact sent identity args (List.mem_singleton.mp here).symm
  · intro msg there
    rcases List.mem_append.mp there with before | here
    · exact kept msg (carried.down msg before)
    · exact List.mem_of_mem_drop here
  · intro a there
    obtain ⟨data, msg, cache, passed, rest⟩ := carried.explained a there
    exact ⟨data, msg, cache, kept _ passed, rest⟩
  · intro p
    have before := carried.counted p
    show s.answers.countP (fun a => p a.workid a.rid) + (s.down ++ (Broker.step s.broker event).socket.drop s.broker.socket.length).countP (counts p) ≤
      (Broker.step s.broker event).socket.countP (counts p)
    rw [fresh, socket, List.countP_append, List.countP_append]
    omega

theorem Carried.call (carried : Carried imp parse past s handled) (clientid : String) (all : Bool) (server rid : String) (data : δ)
    (entry : Entry κ φ) : Carried imp parse (past ++ [.call clientid all server rid data entry])
      (step imp parse s (.call clientid all server rid data entry)) handled := by
  have there : Event.call clientid all server rid data entry ∈ past ++ [.call clientid all server rid data entry] := by simp
  refine {
    ran := carried.ran
    ids := ?_
    sent := fun identity args known => (carried.sent identity args known).later _
    up := ?_
    down := carried.down
    cached := ?_
    explained := fun a known => (carried.explained a known).later _ fun _ member => member
    counted := carried.counted }
  · have new : upIds (s.up ++ [(clientid, .request (target all server) rid data)]) = upIds s.up ++ [rid] := by
      unfold upIds
      rw [List.map_append, Broker.requestIds_append]
      rfl
    show (requestIds handled ++ upIds (s.up ++ [(clientid, .request (target all server) rid data)])).Perm _
    rw [new, callIds_append, ← List.append_assoc]
    exact carried.ids.append_right [rid]
  · intro msg known
    rcases List.mem_append.mp known with before | here
    · exact (carried.up msg before).later _
    · rw [List.mem_singleton.mp here]
      exact ⟨all, server, entry, there, rfl⟩
  · intro other key value found
    have earlier : ∀ key value, (s.callbackCache other).get key = some value → ∃ all' server' given,
        .call other all' server' key given value ∈ past ++ [.call clientid all server rid data entry] := by
      intro key value before
      obtain ⟨all', server', given, called⟩ := carried.cached other key value before
      exact ⟨all', server', given, List.mem_append_left _ called⟩
    by_cases own : other = clientid
    · subst own
      have set : ((s.callbackCache other).set rid entry).get key = some value := by simpa [step] using found
      by_cases same : key = rid
      · subst same
        rw [LimitMap.get_set_self] at set
        obtain rfl := Option.some.inj set
        exact ⟨all, server, data, there⟩
      · exact earlier key value (LimitMap.get_of_get_set same set)
    · have kept : (s.callbackCache other).get key = some value := by simpa [step, own] using found
      exact earlier key value kept

theorem Carried.arrive (carried : Carried imp parse past s handled) {i : Nat} {msg : Broker.Msg δ} (there : s.down[i]? = some msg) :
    Carried imp parse past (arrives imp parse { s with down := s.down.eraseIdx i } msg) handled := by
  obtain ⟨short, here⟩ := List.getElem?_eq_some_iff.mp there
  have passed : msg ∈ s.broker.socket := carried.down msg (List.mem_of_getElem? there)
  have counted : ∀ p, (s.down.eraseIdx i).countP (counts p) + (if counts p msg = true then 1 else 0) = s.down.countP (counts p) := by
    intro p
    have moved := (List.getElem_cons_eraseIdx_perm short).countP_eq (counts p)
    rwa [List.countP_cons, here] at moved
  have dropped : Carried imp parse past { s with down := s.down.eraseIdx i } handled :=
    { carried with
      down := fun other known => carried.down other (List.mem_of_mem_eraseIdx known)
      counted := by
        intro p
        have before := carried.counted p
        have left := counted p
        show s.answers.countP (fun a => p a.workid a.rid) + (s.down.eraseIdx i).countP (counts p) ≤ s.broker.socket.countP (counts p)
        omega }
  unfold arrives
  split
  · rename_i clientid workid rid data
    split
    · rename_i text read
      refine { dropped with explained := ?_, counted := ?_ }
      · intro a known
        rcases List.mem_append.mp known with before | new
        · exact carried.explained a before
        · rw [List.mem_singleton.mp new]
          exact ⟨data, text, s.callbackCache clientid, passed, read, fun entry => carried.cached clientid rid entry, rfl⟩
      · intro p
        have before := carried.counted p
        have left := counted p
        have this : counts p (.reply clientid workid rid data) = p workid rid := rfl
        show (s.answers ++ _).countP (fun a => p a.workid a.rid) + (s.down.eraseIdx i).countP (counts p) ≤ s.broker.socket.countP (counts p)
        rw [List.countP_append, List.countP_singleton]
        rw [this] at left
        dsimp only
        omega
    · exact dropped
  · exact dropped

/-- A message that is taken out takes its id with it. -/
theorem upIds_take {up : List (String × Args δ)} {i : Nat} (short : i < up.length) {identity : String} {args : Args δ}
    (here : up[i] = (identity, args)) :
    (requestIds [.message identity args] ++ upIds (up.eraseIdx i)).Perm (upIds up) := by
  have moved : (requestIds ((up[i] :: up.eraseIdx i).map fun msg => (Broker.Event.message msg.1 msg.2 : Broker.Event δ))).Perm
      (upIds up) :=
    ((List.getElem_cons_eraseIdx_perm short).map _).filterMap _
  rw [List.map_cons, here] at moved
  unfold upIds at moved ⊢
  rw [← Broker.requestIds_append]
  exact moved

theorem Carried.step (carried : Carried imp parse past s handled) (e : Event κ φ δ) :
    ∃ handled', Carried imp parse (past ++ [e]) (step imp parse s e) handled' := by
  cases e with
  | call clientid all server rid data entry => exact ⟨handled, carried.call clientid all server rid data entry⟩
  | reply workid server rid data =>
    have said : Sent (past ++ [.reply workid server rid data]) workid (.reply server rid data) := by
      show Event.reply workid server rid data ∈ _
      simp
    exact ⟨handled, (carried.later _ rfl).sent_by said rfl⟩
  | heartbeat workid server =>
    have said : Sent (past ++ [.heartbeat workid server]) workid (.heartbeat server) := trivial
    exact ⟨handled, (carried.later _ rfl).sent_by said rfl⟩
  | handle i =>
    unfold Rpc.step
    dsimp only
    split
    · rename_i identity args there
      obtain ⟨short, here⟩ := List.getElem?_eq_some_iff.mp there
      have later := carried.later (.handle i) rfl
      refine ⟨handled ++ [.message identity args], later.brokerMoves ?_ ?_ ?_⟩
      · have ids := later.ids
        rw [Broker.requestIds_append, List.append_assoc]
        exact ((upIds_take short here).append_left _).trans ids
      · rintro _ _ ⟨rfl, rfl⟩
        exact later.up (identity, args) (List.mem_of_getElem? there)
      · exact fun msg known => List.mem_of_mem_eraseIdx known
    · exact ⟨handled, carried.later _ rfl⟩
  | timer =>
    have later := carried.later .timer rfl
    have ids : (requestIds (handled ++ [.timer]) ++ upIds s.up).Perm (callIds (past ++ [.timer])) := by
      rw [Broker.requestIds_append, List.append_assoc]
      exact later.ids
    exact ⟨_, later.brokerMoves ids (fun _ _ same => by cases same) fun _ there => there⟩
  | arrive i =>
    unfold Rpc.step
    dsimp only
    split
    · rename_i msg there
      exact ⟨handled, (carried.later _ rfl).arrive there⟩
    · exact ⟨handled, carried.later _ rfl⟩

theorem run_carried (imp : String → Bool) (parse : δ → Option (Callback.Msg β)) (events : List (Event κ φ δ)) :
    ∃ handled, Carried imp parse events (run (step imp parse) {} events) handled := by
  induction events using List.reverseRecOn with
  | nil =>
    refine ⟨[], rfl, List.Perm.refl _, ?_, ?_, ?_, ?_, ?_, ?_⟩
    · intro _ _ there
      cases there
    · intro _ there
      cases there
    · intro _ there
      cases there
    · intro _ _ _ found
      cases found
    · intro _ there
      cases there
    · intro _
      exact Nat.le_refl 0
  | append_singleton past e ih =>
    obtain ⟨handled, carried⟩ := ih
    rw [run_append]
    exact carried.step e

/-- The ids are fresh, as `uuid.v4` makes them. -/
def Fresh (events : List (Event κ φ δ)) : Prop := (callIds events).Nodup

theorem mem_callIds {events : List (Event κ φ δ)} {clientid : String} {all : Bool} {server rid : String} {data : δ}
    {entry : Entry κ φ} (there : .call clientid all server rid data entry ∈ events) : rid ∈ callIds events :=
  List.mem_filterMap.mpr ⟨_, there, rfl⟩

/-- Calls of one id are one call. -/
theorem call_unique {events : List (Event κ φ δ)} (fresh : Fresh events) {clientid clientid' server server' rid : String}
    {all all' : Bool} {data data' : δ} {entry entry' : Entry κ φ} (first : .call clientid all server rid data entry ∈ events)
    (second : .call clientid' all' server' rid data' entry' ∈ events) :
    (clientid' = clientid ∧ all' = all ∧ server' = server) ∧ entry' = entry := by
  obtain ⟨before, after, rfl⟩ := List.append_of_mem first
  unfold Fresh at fresh
  rw [callIds_append, ← List.singleton_append, callIds_append] at fresh
  obtain ⟨-, rest, apart⟩ := List.nodup_append.mp fresh
  have single : callIds [Event.call clientid all server rid data entry] = [rid] := rfl
  rw [single] at rest apart
  rcases List.mem_append.mp second with early | later
  · exact absurd rfl (apart rid (mem_callIds early) rid (by simp))
  · rcases List.mem_cons.mp later with same | late
    · cases same
      exact ⟨⟨rfl, rfl, rfl⟩, rfl⟩
    · exact absurd (mem_callIds late) (fun there => by simp [there] at rest)

/-- A call is routed to a worker that replies twice, and another one meanwhile. -/
def asked : List (Event Nat Nat Nat) :=
  [.heartbeat "w1" "world", .handle 0, .call "request-a" false "world" "r1" 5 ⟨0, 1⟩, .call "request-b" false "world" "r2" 6 ⟨0, 2⟩,
    .handle 1, .handle 0, .reply "w1" "world" "r1" 7, .reply "w1" "world" "r1" 7, .handle 1, .handle 0, .arrive 2]

def readCode (code : Nat) : Option (Callback.Msg Unit) := some ⟨none, none, some ⟨none, ()⟩, some code, none⟩

end Tinygame.Rpc
