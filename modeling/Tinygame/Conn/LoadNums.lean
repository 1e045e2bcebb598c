import Mathlib.Data.List.Pairwise
import Mathlib.Data.Set.Card
import Tinygame.Conn.OneLive

/-!
# The load of a conn server

`playerNums` of `conn_imp.js` goes up when `loginGame` is called, and nothing takes it down. It is the number of the
players who are logged in as long as every login is that of another player, succeeds, and nobody leaves.
-/

namespace Tinygame.Conn

/-- All conn servers, with the counter of each. -/
structure Servers where
  world : World
  playerNums : String → Nat

def Servers.init : Servers := ⟨World.init, fun _ => 0⟩

/-- The counter counts the calls of `loginGame`. -/
def Servers.move (servers : Servers) (step : Step) : Servers where
  world := Conn.move servers.world step
  playerNums := match step with
    | .loginGame sessionId _ => match servers.world.sockets sessionId with
      | some connId => Function.update servers.playerNums connId (servers.playerNums connId + 1)
      | none => servers.playerNums
    | _ => servers.playerNums

structure LoadNums where
  uuid : String
  loadNums : Nat
  connName : String
  host : String
  port : Nat

/-- `connId`, `host` and `port` are those of the server that answers. -/
def getConnServerLoadNums (servers : Servers) (connId host : String) (port : Nat) (uuid : String) : LoadNums :=
  ⟨uuid, servers.playerNums connId, connId, host, port⟩

/-! ### What is meant -/

/-- The session is open on the server, its record names the player, and redis names the session for him. -/
structure World.LoggedIn (world : World) (connId : String) (sessionId : Nat) (player : UserArea) : Prop where
  socket : world.sockets sessionId = some connId
  session : world.sessions sessionId = some (connId, player)
  online : world.onlineInfo player = some ⟨sessionId, connId⟩

def World.playersOn (world : World) (connId : String) : Set UserArea := {player | ∃ sessionId, world.LoggedIn connId sessionId player}

/-- The login has written the online info. -/
def Login.Late (login : Login) : Prop := login.phase = .recording ∨ login.phase = .ended

/-- The session is none that a login on the server came through. -/
def World.Spares (world : World) (connId : String) (sessionId : Nat) : Prop :=
  ∀ login ∈ world.logins, login.connId = connId → login.sessionId ≠ sessionId

/-- Whoever logs in here has not done so before, nor through that session; he does not fail, and he does not leave, be
it that he exits, that his session is closed, or that he logs in elsewhere. -/
def Steady (connId : String) (world : World) : Step → Prop
  | .createSession _ => True
  | .loginGame sessionId player => world.sockets sessionId = some connId →
    ∀ login ∈ world.logins, login.connId = connId → login.player ≠ player ∧ login.sessionId ≠ sessionId
  | .advance i ok => ∀ login, world.logins[i]? = some login → match login.phase with
    | .asked | .ended | .told none => True
    | .told (some info) => login.connId = info.connId → info.connId = connId → world.Spares connId info.sessionId
    | .loading => if login.connId = connId then ok = true
      else ok = true → ∀ other ∈ world.logins, other.connId = connId → other.Late → other.player ≠ login.player
    | .recording => login.connId = connId → ok = true
  | .kickClientOffline j => ∀ kick, world.kicks[j]? = some kick → kick.info.connId = connId → world.Spares connId kick.info.sessionId
  | .destroy sessionId => world.Spares connId sessionId
  | .delSession sessionId => ∀ login ∈ world.logins, login.connId = connId → login.phase = .ended → login.sessionId ≠ sessionId
  | .exitGame player => ∀ login ∈ world.logins, login.connId = connId → login.Late → login.player ≠ player

variable {world world' : World} {connId : String} {login other : Login} {i : Nat} {step : Step} {sessionId : Nat} {player : UserArea}

/-! ### Where logins come from -/

/-- A session has its number from the counter, a login is on the server of its session, and a record comes from a login
that has ended. -/
structure Placed (world : World) : Prop where
  made : ∀ sessionId connId, world.sockets sessionId = some connId → sessionId ≤ world.nextSId
  used : ∀ login ∈ world.logins, login.sessionId ≤ world.nextSId
  place : ∀ login ∈ world.logins, ∀ connId, world.sockets login.sessionId = some connId → login.connId = connId
  recorded : ∀ sessionId connId player, world.sessions sessionId = some (connId, player) →
    ⟨player, sessionId, connId, .ended⟩ ∈ world.logins

theorem placed_init : Placed World.init where
  made _ _ there := by cases there
  used _ there := absurd there List.not_mem_nil
  place _ there := absurd there List.not_mem_nil
  recorded _ _ _ there := by cases there

/-- Sessions and records only go, and the logins stay. -/
theorem placed_shrink (placed : Placed world) (next : world'.nextSId = world.nextSId)
    (sockets : ∀ sessionId connId, world'.sockets sessionId = some connId → world.sockets sessionId = some connId)
    (sessions : ∀ sessionId record, world'.sessions sessionId = some record → world.sessions sessionId = some record)
    (logins : world'.logins = world.logins) : Placed world' where
  made sessionId connId there := next ▸ placed.made sessionId connId (sockets sessionId connId there)
  used login there := next ▸ placed.used login (logins ▸ there)
  place login there connId open_ := placed.place login (logins ▸ there) connId (sockets _ connId open_)
  recorded sessionId connId player there := logins ▸ placed.recorded sessionId connId player (sessions _ _ there)

/-- A login that had not ended goes on. -/
theorem placed_turn (placed : Placed world) (there : world.logins[i]? = some login) (going : login.phase ≠ .ended) (phase : Phase) :
    Placed (world.turn i login phase) where
  made := placed.made
  used other member := by
    rcases List.mem_or_eq_of_mem_set member with old | new
    · exact placed.used other old
    · rw [new]
      exact placed.used login (List.mem_of_getElem? there)
  place other member connId open_ := by
    rcases List.mem_or_eq_of_mem_set member with old | new
    · exact placed.place other old connId open_
    · rw [new] at open_ ⊢
      exact placed.place login (List.mem_of_getElem? there) connId open_
  recorded sessionId connId player found := by
    rcases mem_set_of_mem there (placed.recorded sessionId connId player found) { login with phase } with same | still
    · rw [← same] at going
      exact absurd rfl going
    · exact still

theorem placed_record (placed : Placed world) (there : world.logins[i]? = some login) (going : login.phase ≠ .ended) :
    Placed ((world.record login).turn i login .ended) := by
  have turned := placed_turn placed there going .ended
  refine ⟨turned.made, turned.used, turned.place, fun sessionId connId player found => ?_⟩
  by_cases same : sessionId = login.sessionId
  · subst same
    have record : ((world.record login).turn i login .ended).sessions login.sessionId = some (login.connId, login.player) :=
      Function.update_self ..
    cases record.symm.trans found
    exact List.mem_of_getElem? (List.getElem?_set_self (List.getElem?_eq_some_iff.mp there).1)
  · exact turned.recorded sessionId connId player ((Function.update_of_ne same ..).symm.trans found)

theorem kickClient_rest (world : World) (login : Login) (info : OnlineInfo) : (world.kickClient login info).nextSId = world.nextSId ∧
    (world.kickClient login info).onlineInfo = world.onlineInfo ∧ (world.kickClient login info).sessions = world.sessions ∧
    (world.kickClient login info).logins = world.logins := by
  unfold World.kickClient
  split
  · obtain ⟨next, online, sessions, logins, -⟩ := closeClient_rest world info
    exact ⟨next, online, sessions, logins⟩
  · exact ⟨rfl, rfl, rfl, rfl⟩

theorem kickClient_sockets (world : World) (login : Login) (info : OnlineInfo) (sessionId : Nat) (connId : String)
    (there : (world.kickClient login info).sockets sessionId = some connId) : world.sockets sessionId = some connId := by
  unfold World.kickClient at there
  split at there
  · exact closeClient_sockets world info sessionId connId there
  · exact there

theorem update_none {β : Type} {f : Nat → Option β} {k n : Nat} {x : β} (there : Function.update f k none n = some x) :
    f n = some x := by
  by_cases same : n = k
  · subst same
    cases (Function.update_self ..).symm.trans there
  · exact (Function.update_of_ne same ..).symm.trans there

theorem placed_advance (placed : Placed world) (there : world.logins[i]? = some login) (ok : Bool) :
    Placed ((world.advance login ok).1.turn i login (world.advance login ok).2) := by
  unfold World.advance
  split <;> rename_i phase
  · exact placed_turn placed there (by rw [phase]; simp) _
  · exact placed_turn placed there (by rw [phase]; simp) _
  · rename_i info
    obtain ⟨next, -, sessions, logins⟩ := kickClient_rest world login info
    have kicked := placed_shrink placed next (kickClient_sockets world login info) (fun _ _ found => sessions ▸ found) logins
    exact placed_turn kicked (logins ▸ there) (by rw [phase]; simp) _
  · have going : login.phase ≠ .ended := by rw [phase]; simp
    split
    · exact placed_shrink (placed_turn placed there going .recording) rfl (fun _ _ open_ => open_) (fun _ _ found => found) rfl
    · exact placed_turn placed there going _
  · have going : login.phase ≠ .ended := by rw [phase]; simp
    cases ok with
    | true => exact placed_shrink (placed_record placed there going) rfl (fun _ _ open_ => open_) (fun _ _ found => found) rfl
    | false =>
      exact placed_shrink (placed_turn placed there going .ended) rfl (fun _ _ open_ => open_) (fun _ _ found => found) rfl
  · exact placed_shrink placed rfl (fun _ _ open_ => open_) (fun _ _ found => found) (turn_ended there phase)

theorem placed_move (placed : Placed world) (step : Step) : Placed (move world step) := by
  cases step with
  | createSession connId =>
    have old {sessionId : Nat} (made : sessionId ≤ world.nextSId) :
        (move world (.createSession connId)).sockets sessionId = world.sockets sessionId := Function.update_of_ne (by omega) ..
    refine ⟨fun sessionId connId' there => ?_, fun login member => Nat.le_succ_of_le (placed.used login member),
      fun login member connId' open_ => ?_, placed.recorded⟩
    · show sessionId ≤ world.nextSId + 1
      by_cases isNew : sessionId = world.nextSId + 1
      · omega
      · exact Nat.le_succ_of_le (placed.made sessionId connId' ((Function.update_of_ne isNew ..).symm.trans there))
    · exact placed.place login member connId' (old (placed.used login member) ▸ open_)
  | loginGame sessionId player =>
    unfold move
    dsimp only
    split
    · exact placed
    rename_i connId open_
    have mem {login : Login} (member : login ∈ world.logins ++ [⟨player, sessionId, connId, .asked⟩]) :
        login ∈ world.logins ∨ login = ⟨player, sessionId, connId, .asked⟩ :=
      (List.mem_append.mp member).imp id List.mem_singleton.mp
    refine ⟨placed.made, fun login member => ?_, fun login member connId' open' => ?_, fun sessionId' connId' player' found => ?_⟩
    · rcases mem member with old | rfl
      · exact placed.used login old
      · exact placed.made sessionId connId open_
    · rcases mem member with old | rfl
      · exact placed.place login old connId' open'
      · exact Option.some.inj (open_.symm.trans open')
    · exact List.mem_append_left _ (placed.recorded sessionId' connId' player' found)
  | advance i ok =>
    unfold move
    dsimp only
    split
    · exact placed
    · rename_i login there
      exact placed_advance placed there ok
  | kickClientOffline j =>
    unfold move
    dsimp only
    split
    · exact placed
    · rename_i kick there
      obtain ⟨next, -, sessions, logins, -⟩ := closeClient_rest world kick.info
      exact placed_shrink placed next (closeClient_sockets world kick.info) (fun _ _ found => sessions ▸ found) logins
  | destroy sessionId => exact placed_shrink placed rfl (fun _ _ open_ => update_none open_) (fun _ _ found => found) rfl
  | delSession sessionId => exact placed_shrink placed rfl (fun _ _ open_ => open_) (fun _ _ found => update_none found) rfl
  | exitGame player => exact placed_shrink placed rfl (fun _ _ open_ => open_) (fun _ _ found => found) rfl

/-! ### Who is here stays -/

/-- The logins on the server are of different players, through different sessions. -/
def Apart (connId : String) (login other : Login) : Prop :=
  login.connId = connId → other.connId = connId → login.player ≠ other.player ∧ login.sessionId ≠ other.sessionId

/-- The logins on the server have each got as far as their phase says. -/
structure Tidy (connId : String) (world : World) : Prop where
  apart : world.logins.Pairwise (Apart connId)
  live : ∀ login ∈ world.logins, login.connId = connId → world.sockets login.sessionId = some connId
  wrote : ∀ login ∈ world.logins, login.connId = connId → login.Late → world.onlineInfo login.player = some ⟨login.sessionId, connId⟩
  stored : ∀ login ∈ world.logins, login.connId = connId → login.phase = .ended →
    world.sessions login.sessionId = some (connId, login.player)

theorem tidy_init (connId : String) : Tidy connId World.init where
  apart := List.Pairwise.nil
  live _ there := absurd there List.not_mem_nil
  wrote _ there := absurd there List.not_mem_nil
  stored _ there := absurd there List.not_mem_nil

theorem Tidy.same (tidy : Tidy connId world) (there : login ∈ world.logins) (there' : other ∈ world.logins)
    (here : login.connId = connId) (here' : other.connId = connId)
    (shared : login.player = other.player ∨ login.sessionId = other.sessionId) : login = other := by
  by_contra different
  have symm : Std.Symm (Apart connId) := ⟨fun _ _ apart here' here => (apart here here').imp Ne.symm Ne.symm⟩
  obtain ⟨player, session⟩ := tidy.apart.forall there there' different here here'
  exact shared.elim player session

/-- The logins and what they have written stay. -/
theorem tidy_frame (tidy : Tidy connId world) (logins : world'.logins = world.logins)
    (live : ∀ login ∈ world.logins, login.connId = connId → world'.sockets login.sessionId = world.sockets login.sessionId)
    (wrote : ∀ login ∈ world.logins, login.connId = connId → login.Late →
      world'.onlineInfo login.player = world.onlineInfo login.player)
    (stored : ∀ login ∈ world.logins, login.connId = connId → login.phase = .ended →
      world'.sessions login.sessionId = world.sessions login.sessionId) : Tidy connId world' where
  apart := logins ▸ tidy.apart
  live login there here := (live login (logins ▸ there) here).trans (tidy.live login (logins ▸ there) here)
  wrote login there here late := (wrote login (logins ▸ there) here late).trans (tidy.wrote login (logins ▸ there) here late)
  stored login there here ended := (stored login (logins ▸ there) here ended).trans (tidy.stored login (logins ▸ there) here ended)

/-- A login on the server has to have written what its new phase says. -/
theorem tidy_turn (tidy : Tidy connId world) (there : world.logins[i]? = some login) (phase : Phase)
    (wrote : login.connId = connId → phase = .recording ∨ phase = .ended →
      world.onlineInfo login.player = some ⟨login.sessionId, connId⟩)
    (stored : login.connId = connId → phase = .ended → world.sessions login.sessionId = some (connId, login.player)) :
    Tidy connId (world.turn i login phase) where
  apart := by
    have keyed (l : List Login) : l.Pairwise (Apart connId) ↔ (l.map fun login => (login.connId, login.player, login.sessionId)).Pairwise
        fun a b => a.1 = connId → b.1 = connId → a.2.1 ≠ b.2.1 ∧ a.2.2 ≠ b.2.2 := by
      rw [List.pairwise_map]
      rfl
    have unchanged : (world.logins.set i { login with phase }).map (fun login => (login.connId, login.player, login.sessionId)) =
        world.logins.map fun login => (login.connId, login.player, login.sessionId) := by
      obtain ⟨inside, rfl⟩ := List.getElem?_eq_some_iff.mp there
      rw [List.map_set]
      refine (congrArg _ ?_).trans (List.set_getElem_self (i := i) (by rw [List.length_map]; exact inside))
      rw [List.getElem_map]
    show (world.logins.set i { login with phase }).Pairwise _
    rw [keyed, unchanged, ← keyed]
    exact tidy.apart
  live other member here := by
    rcases List.mem_or_eq_of_mem_set member with old | new
    · exact tidy.live other old here
    · rw [new] at here ⊢
      exact tidy.live login (List.mem_of_getElem? there) here
  wrote other member here late := by
    rcases List.mem_or_eq_of_mem_set member with old | new
    · exact tidy.wrote other old here late
    · rw [new] at here late ⊢
      exact wrote here late
  stored other member here ended := by
    rcases List.mem_or_eq_of_mem_set member with old | new
    · exact tidy.stored other old here ended
    · rw [new] at here ended ⊢
      exact stored here ended

theorem closeClient_kept (tidy : Tidy connId world) (info : OnlineInfo)
    (spares : info.connId = connId → world.Spares connId info.sessionId) :
    ∀ login ∈ world.logins, login.connId = connId → (world.closeClient info).sockets login.sessionId = world.sockets login.sessionId := by
  intro login there here
  unfold World.closeClient
  split
  · rename_i open_
    refine Function.update_of_ne ?_ ..
    intro same
    have live := tidy.live login there here
    rw [same, open_] at live
    exact spares (Option.some.inj live) login there here same
  · rfl

theorem tidy_advance (placed : Placed world) (tidy : Tidy connId world) (there : world.logins[i]? = some login) {ok : Bool}
    (steady : Steady connId world (.advance i ok)) :
    Tidy connId ((world.advance login ok).1.turn i login (world.advance login ok).2) := by
  have member := List.mem_of_getElem? there
  replace steady := steady login there
  unfold World.advance
  split <;> rename_i phase <;> rw [phase] at steady
  · exact tidy_turn tidy there _ (fun _ late => by simp at late) (fun _ ended => by cases ended)
  · exact tidy_turn tidy there _ (fun _ late => by simp at late) (fun _ ended => by cases ended)
  · rename_i info
    obtain ⟨-, online, sessions, logins⟩ := kickClient_rest world login info
    have kicked : Tidy connId (world.kickClient login info) := by
      refine tidy_frame tidy logins (fun other there' here => ?_) (fun _ _ _ _ => by rw [online]) (fun _ _ _ _ => by rw [sessions])
      unfold World.kickClient
      split
      · rename_i isHere
        exact closeClient_kept tidy info (steady isHere) other there' here
      · rfl
    exact tidy_turn kicked (logins ▸ there) _ (fun _ late => by simp at late) (fun _ ended => by cases ended)
  · by_cases here : login.connId = connId
    · rw [if_pos here] at steady
      rw [if_pos steady]
      have written : Tidy connId { world with
          onlineInfo := Function.update world.onlineInfo login.player (some ⟨login.sessionId, login.connId⟩) } := by
        refine tidy_frame tidy rfl (fun _ _ _ => rfl) (fun other there' here' late => ?_) (fun _ _ _ _ => rfl)
        refine Function.update_of_ne (fun shared => ?_) ..
        rw [tidy.same there' member here' here (.inl shared), Login.Late, phase] at late
        simp at late
      refine tidy_turn written there _ (fun _ _ => ?_) (fun _ ended => by cases ended)
      rw [← here]
      exact Function.update_self ..
    · rw [if_neg here] at steady
      cases ok with
      | true =>
        have written : Tidy connId { world with
            onlineInfo := Function.update world.onlineInfo login.player (some ⟨login.sessionId, login.connId⟩) } :=
          tidy_frame tidy rfl (fun _ _ _ => rfl) (fun other there' here' late =>
            Function.update_of_ne (steady rfl other there' here' late) ..) (fun _ _ _ _ => rfl)
        exact tidy_turn written there _ (fun isHere => absurd isHere here) (fun isHere => absurd isHere here)
      | false => exact tidy_turn tidy there _ (fun isHere => absurd isHere here) (fun isHere => absurd isHere here)
  · cases ok with
    | true =>
      have recorded : Tidy connId (World.setSession (world.record login) login) := by
        refine tidy_frame tidy rfl (fun _ _ _ => rfl) (fun _ _ _ _ => rfl) (fun other there' here' ended => ?_)
        refine Function.update_of_ne (fun shared => ?_) ..
        have open_ := tidy.live other there' here'
        rw [shared] at open_
        have here := placed.place login member connId open_
        rw [tidy.same there' member here' here (.inr shared), phase] at ended
        cases ended
      refine tidy_turn recorded there _ (fun here _ => tidy.wrote login member here (.inl phase)) (fun here _ => ?_)
      rw [← here]
      exact Function.update_self ..
    | false =>
      have kept : Tidy connId (World.setSession world login) :=
        tidy_frame tidy rfl (fun _ _ _ => rfl) (fun _ _ _ _ => rfl) (fun _ _ _ _ => rfl)
      exact tidy_turn kept there _ (fun here => by cases steady here) (fun here => by cases steady here)
  · exact tidy_turn tidy there _ (fun here _ => tidy.wrote login member here (.inr phase))
      (fun here _ => tidy.stored login member here phase)

theorem tidy_move (placed : Placed world) (tidy : Tidy connId world) (steady : Steady connId world step) :
    Tidy connId (move world step) := by
  cases step with
  | createSession connId' =>
    refine tidy_frame tidy rfl (fun login there _ => ?_) (fun _ _ _ _ => rfl) (fun _ _ _ _ => rfl)
    have used := placed.used login there
    exact Function.update_of_ne (by omega) ..
  | loginGame sessionId player =>
    unfold move
    dsimp only
    split
    · exact tidy
    rename_i connId' open_
    have mem {login : Login} (member : login ∈ world.logins ++ [⟨player, sessionId, connId', .asked⟩]) :
        login ∈ world.logins ∨ login = ⟨player, sessionId, connId', .asked⟩ :=
      (List.mem_append.mp member).imp id List.mem_singleton.mp
    refine ⟨?_, fun login member here => ?_, fun login member here late => ?_, fun login member here ended => ?_⟩
    · refine List.pairwise_append.mpr ⟨tidy.apart, List.pairwise_singleton _ _, fun login there other isNew here here' => ?_⟩
      rw [List.mem_singleton.mp isNew] at here' ⊢
      exact steady (here' ▸ open_) login there here
    · rcases mem member with old | rfl
      · exact tidy.live login old here
      · exact here ▸ open_
    · rcases mem member with old | rfl
      · exact tidy.wrote login old here late
      · simp [Login.Late] at late
    · rcases mem member with old | rfl
      · exact tidy.stored login old here ended
      · cases ended
  | advance i ok =>
    unfold move
    dsimp only
    split
    · exact tidy
    · rename_i login there
      exact tidy_advance placed tidy there steady
  | kickClientOffline j =>
    unfold move
    dsimp only
    split
    · exact tidy
    · rename_i kick there
      obtain ⟨-, online, sessions, logins, -⟩ := closeClient_rest world kick.info
      exact tidy_frame tidy logins (closeClient_kept tidy kick.info (steady kick there)) (fun _ _ _ _ => congrFun online _)
        (fun _ _ _ _ => congrFun sessions _)
  | destroy sessionId =>
    exact tidy_frame tidy rfl (fun login there here => Function.update_of_ne (steady login there here) ..) (fun _ _ _ _ => rfl)
      (fun _ _ _ _ => rfl)
  | delSession sessionId =>
    exact tidy_frame tidy rfl (fun _ _ _ => rfl) (fun _ _ _ _ => rfl)
      (fun login there here ended => Function.update_of_ne (steady login there here ended) ..)
  | exitGame player =>
    exact tidy_frame tidy rfl (fun _ _ _ => rfl) (fun login there here late => Function.update_of_ne (steady login there here late) ..)
      (fun _ _ _ _ => rfl)

/-! ### The counter -/

/-- The logins that have been called on the server. -/
def World.loginsOn (world : World) (connId : String) : List Login := world.logins.filter (·.connId = connId)

theorem loginsOn_length_turn (there : world.logins[i]? = some login) (phase : Phase) :
    ((world.turn i login phase).loginsOn connId).length = (world.loginsOn connId).length := by
  have unchanged : (world.logins.set i { login with phase }).map Login.connId = world.logins.map Login.connId := by
    obtain ⟨inside, rfl⟩ := List.getElem?_eq_some_iff.mp there
    rw [List.map_set]
    refine (congrArg _ ?_).trans (List.set_getElem_self (i := i) (by rw [List.length_map]; exact inside))
    rw [List.getElem_map]
  have counted (l : List Login) : (l.filter (·.connId = connId)).length = (l.map Login.connId).countP (· = connId) := by
    rw [List.countP_map, List.countP_eq_length_filter]
    rfl
  show ((world.logins.set i { login with phase }).filter _).length = _
  rw [counted, unchanged, ← counted]
  rfl

theorem advance_logins (world : World) (login : Login) (ok : Bool) : (world.advance login ok).1.logins = world.logins := by
  unfold World.advance
  split
  · rfl
  · rfl
  · exact (kickClient_rest world login _).2.2.2
  · split <;> rfl
  · cases ok <;> rfl
  · rfl

/-- The counter is the number of the logins. -/
theorem counted_move {servers : Servers} (counted : servers.playerNums connId = (servers.world.loginsOn connId).length) (step : Step) :
    (servers.move step).playerNums connId = ((servers.move step).world.loginsOn connId).length := by
  cases step with
  | createSession | destroy | delSession | exitGame => exact counted
  | loginGame sessionId player =>
    unfold Servers.move Conn.move
    dsimp only
    cases open_ : servers.world.sockets sessionId with
    | none => exact counted
    | some connId' =>
      show Function.update servers.playerNums connId' _ connId = ((servers.world.logins ++ [_]).filter _).length
      rw [List.filter_append, List.length_append, List.filter_singleton]
      by_cases here : connId' = connId
      · subst here
        rw [Function.update_self, counted]
        simp [World.loginsOn]
      · rw [Function.update_of_ne (Ne.symm here), counted]
        simp [World.loginsOn, here]
  | advance i ok =>
    show servers.playerNums connId = ((Conn.move servers.world (.advance i ok)).loginsOn connId).length
    unfold Conn.move
    dsimp only
    split
    · exact counted
    · rename_i login there
      have logins := advance_logins servers.world login ok
      refine counted.trans ?_
      refine Eq.trans ?_ (loginsOn_length_turn (logins ▸ there) _).symm
      rw [World.loginsOn, World.loginsOn, logins]
  | kickClientOffline j =>
    show servers.playerNums connId = ((Conn.move servers.world (.kickClientOffline j)).loginsOn connId).length
    unfold Conn.move
    dsimp only
    split
    · exact counted
    · rename_i kick there
      show _ = ((servers.world.closeClient kick.info).logins.filter _).length
      rw [(closeClient_rest servers.world kick.info).2.2.2.1]
      exact counted

/-- Who is logged in is who has come to the end of his login. -/
theorem playersOn_eq (placed : Placed world) (tidy : Tidy connId world) :
    world.playersOn connId = {player | player ∈ ((world.loginsOn connId).filter (·.phase = .ended)).map Login.player} := by
  ext player
  constructor
  · rintro ⟨sessionId, loggedIn⟩
    have there := placed.recorded sessionId connId player loggedIn.session
    refine List.mem_map.mpr ⟨_, List.mem_filter.mpr ⟨List.mem_filter.mpr ⟨there, ?_⟩, ?_⟩, rfl⟩ <;> simp
  · intro member
    obtain ⟨login, found, rfl⟩ := List.mem_map.mp member
    obtain ⟨found, ended⟩ := List.mem_filter.mp found
    obtain ⟨there, here⟩ := List.mem_filter.mp found
    replace here := of_decide_eq_true here
    replace ended := of_decide_eq_true ended
    exact ⟨login.sessionId, tidy.live login there here, tidy.stored login there here ended, tidy.wrote login there here (.inr ended)⟩

theorem playersOn_ncard (placed : Placed world) (tidy : Tidy connId world) :
    (world.playersOn connId).ncard = ((world.loginsOn connId).filter (·.phase = .ended)).length := by
  have distinct : (((world.loginsOn connId).filter (·.phase = .ended)).map Login.player).Nodup := by
    rw [List.Nodup, List.pairwise_map]
    have apart : ((world.loginsOn connId).filter (·.phase = .ended)).Pairwise (Apart connId) := (tidy.apart.filter _).filter _
    refine apart.imp_of_mem fun {login other} there there' apart => ?_
    have here := of_decide_eq_true (List.mem_filter.mp (List.mem_of_mem_filter there)).2
    have here' := of_decide_eq_true (List.mem_filter.mp (List.mem_of_mem_filter there')).2
    exact (apart here here').1
  rw [playersOn_eq placed tidy, ← List.coe_toFinset, Set.ncard_coe_finset, List.toFinset_card_of_nodup distinct, List.length_map]

theorem steady_loginGame (checked : ∀ login ∈ world.logins, login.connId = connId → login.player ≠ player ∧ login.sessionId ≠ sessionId) :
    Steady connId world (.loginGame sessionId player) := fun _ => checked

theorem steady_advance {ok : Bool} (checked : ∀ login ∈ world.logins[i]?, login.phase = .asked ∨ login.phase = .told none ∨
    login.phase = .ended ∨ (login.phase = .loading ∨ login.phase = .recording) ∧ login.connId = connId ∧ ok = true) :
    Steady connId world (.advance i ok) := by
  intro login there
  rcases checked login there with phase | phase | phase | ⟨phase | phase, here, passes⟩ <;> rw [phase]
  · trivial
  · trivial
  · trivial
  · exact (if_pos here).mpr passes
  · exact fun _ => passes

/-- Ann logs in. -/
def annLogsIn : List Step := .createSession "a" :: whole 1 0

/-- She exits and disconnects. She still counts. -/
def annLeaves : List Step := annLogsIn ++ [.exitGame ann, .destroy 1, .delSession 1]

end Tinygame.Conn
