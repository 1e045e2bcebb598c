import Mathlib.Data.Rat.Defs
import Tinygame.Base.Balance
import Tinygame.Base.LimitMap
import Tinygame.Base.Run

/-!
# The gate

`server/server_imp/gate_imp.js`. The gate sends a client to the connection server with the least
load it knows of, counts the client there, and asks all servers for their loads once a minute.
-/

namespace Tinygame.Gate

def CONN_SERVER_NUMS_LIMIT : Nat := 100
def CONNECT_SERVER_LIMIT : Int := 2000
def CACHE_EXPIRE_TIME : ℚ := 60

structure Server where
  loadNums : Int
  connName : String
  host : String
  port : Int
  deriving DecidableEq

/-- `tiny.DEFAULT_CONN_SERVER`, `tiny.DEFAULT_CONN_IP` and `tiny.DEFAULT_CONN_PORT`. -/
structure Config where
  connServer : String
  connIp : String
  connPort : Int

structure State where
  limitMap : LimitMap Server
  expireTime : ℚ
  /-- how often the servers were asked for their loads -/
  asked : Nat

/-- The cache with nothing but the default server. -/
def initConnServerCache (config : Config) : LimitMap Server :=
  (LimitMap.new CONN_SERVER_NUMS_LIMIT).set config.connServer
    { loadNums := CONNECT_SERVER_LIMIT, connName := config.connServer, host := config.connIp, port := config.connPort }

def initial (config : Config) : State := { limitMap := initConnServerCache config, expireTime := 0, asked := 0 }

/-- What a server answers when it is asked for its load. -/
def report (s : State) (server : Server) : State := { s with limitMap := s.limitMap.set server.connName server }

/-- One turn of the loop for the least load; `none` stands for `Number.MAX_VALUE`. -/
def lighter (m : LimitMap Server) (best : Option (String × Server)) (connName : String) : Option (String × Server) :=
  match m.get connName with
  | some server => if best.all (server.loadNums < ·.2.loadNums) then some (connName, server) else best
  | none => best

/-- The server with the least load, under its name in the cache. -/
def minServer (m : LimitMap Server) : Option (String × Server) := m.map.keys.foldl (lighter m) none

structure OutArgs where
  host : String
  port : Int
  loadNums : Int
  deriving DecidableEq

/-- `minServer.loadNums += 1` reaches the entry of the cache. -/
def count (m : LimitMap Server) (connName : String) : LimitMap Server :=
  { m with
    map := m.map.modify connName fun server => { server with loadNums := server.loadNums + 1 }
    keyed := fun key => by
      rw [m.keyed, ← Obj.mem_keys_iff_has, ← Obj.mem_keys_iff_has, Obj.keys_modify] }

/-- Asks the servers again when the cache is too old. -/
def refresh (config : Config) (s : State) (now : ℚ) : State :=
  if CACHE_EXPIRE_TIME < now - s.expireTime then
    { limitMap := initConnServerCache config, expireTime := now, asked := s.asked + 1 }
  else s

/-- `now` is `Date.now() / 1000`. Without a server the answer has no address. -/
def getAvgConnServerLoadNums (config : Config) (s : State) (now : ℚ) : Option OutArgs × State :=
  let s := refresh config s now
  match minServer s.limitMap with
  | some (connName, server) =>
    (some { host := server.host, port := server.port, loadNums := server.loadNums }, { s with limitMap := count s.limitMap connName })
  | none => (none, s)

/-! ### The least load -/

variable {config : Config} {m : LimitMap Server} {s : State}

theorem get_count (m : LimitMap Server) (connName key : String) :
    (count m connName).get key =
      if key = connName then (m.get connName).map fun server => { server with loadNums := server.loadNums + 1 } else m.get key :=
  Obj.get?_modify _ _ _ _

/-- The best of the servers seen. -/
def Scanned (m : LimitMap Server) (seen : List String) : Option (String × Server) → Prop
  | none => ∀ key ∈ seen, m.get key = none
  | some (chosen, server) => m.get chosen = some server ∧ ∀ key ∈ seen, ∀ other, m.get key = some other → server.loadNums ≤ other.loadNums

theorem lighter_scanned {seen : List String} {best : Option (String × Server)} (scanned : Scanned m seen best) (key : String) :
    Scanned m (seen ++ [key]) (lighter m best key) := by
  unfold lighter
  cases found : m.get key with
  | none =>
    cases best with
    | none =>
      intro other there
      rcases List.mem_append.mp there with before | last
      · exact scanned other before
      · rw [List.mem_singleton.mp last]
        exact found
    | some best =>
      refine ⟨scanned.1, fun other there server known => ?_⟩
      rcases List.mem_append.mp there with before | last
      · exact scanned.2 other before server known
      · rw [List.mem_singleton.mp last, found] at known
        cases known
  | some server =>
    dsimp only
    split
    · rename_i less
      refine ⟨found, fun other there server' known => ?_⟩
      rcases List.mem_append.mp there with before | last
      · cases best with
        | none =>
          rw [scanned other before] at known
          cases known
        | some best =>
          have below : server.loadNums < best.2.loadNums := by simpa using less
          have least := scanned.2 other before server' known
          omega
      · rw [List.mem_singleton.mp last, found] at known
        rw [Option.some.inj known]
    · rename_i more
      cases best with
      | none => simp at more
      | some best =>
        refine ⟨scanned.1, fun other there server' known => ?_⟩
        rcases List.mem_append.mp there with before | last
        · exact scanned.2 other before server' known
        · rw [List.mem_singleton.mp last, found] at known
          have same := Option.some.inj known
          have above : ¬ server.loadNums < best.2.loadNums := by simpa using more
          rw [← same]
          omega

theorem foldl_lighter_scanned (keys seen : List String) {best : Option (String × Server)} (scanned : Scanned m seen best) :
    Scanned m (seen ++ keys) (keys.foldl (lighter m) best) := by
  induction keys generalizing seen best with
  | nil => simpa using scanned
  | cons key rest ih => simpa using ih (seen ++ [key]) (lighter_scanned scanned key)

/-- The loop finds a server of the cache that no other has less load than, if there is one at all. -/
theorem minServer_least (m : LimitMap Server) :
    match minServer m with
    | some (chosen, server) => m.get chosen = some server ∧ ∀ key other, m.get key = some other → server.loadNums ≤ other.loadNums
    | none => ∀ key, m.get key = none := by
  have scanned := foldl_lighter_scanned m.map.keys [] (show Scanned m [] none by simp [Scanned])
  rw [List.nil_append] at scanned
  have all : ∀ key other, m.get key = some other → key ∈ m.map.keys := fun key other known => Obj.mem_keys_iff.mpr ⟨other, known⟩
  unfold minServer
  cases best : m.map.keys.foldl (lighter m) none with
  | none =>
    rw [best] at scanned
    intro key
    by_contra some_
    obtain ⟨other, known⟩ := Option.ne_none_iff_exists'.mp some_
    rw [scanned key (all key other known)] at known
    cases known
  | some best =>
    rw [best] at scanned
    exact ⟨scanned.1, fun key other known => scanned.2 key (all key other known) other known⟩

/-! ### Runs -/

inductive Event where
  /-- `getAvgConnServerLoadNums` at the time -/
  | request (now : ℚ)
  | report (server : Server)

def step (config : Config) (s : State) : Event → State
  | .request now => (getAvgConnServerLoadNums config s now).2
  | .report server => report s server

theorem keys_initConnServerCache (config : Config) : config.connServer ∈ (initConnServerCache config).map.keys :=
  Obj.mem_keys_iff.mpr ⟨_, LimitMap.get_set_self _ _ _⟩

theorem keys_count (m : LimitMap Server) (connName : String) : (count m connName).map.keys = m.map.keys := Obj.keys_modify _ _ _

/-- There is always a server to send a client to. -/
theorem run_known (config : Config) (events : List Event) : (run (step config) (initial config) events).limitMap.map.keys ≠ [] := by
  apply run_keeps (fun s : State => s.limitMap.map.keys ≠ [])
  · intro s e known
    cases e with
    | request now =>
      have fresh : (refresh config s now).limitMap.map.keys ≠ [] := by
        unfold refresh
        split
        · exact List.ne_nil_of_mem (keys_initConnServerCache config)
        · exact known
      show (getAvgConnServerLoadNums config s now).2.limitMap.map.keys ≠ []
      unfold getAvgConnServerLoadNums
      dsimp only
      split
      · rwa [keys_count]
      · exact fresh
    | report server =>
      have there : server.connName ∈ (s.limitMap.set server.connName server).map.keys :=
        Obj.mem_keys_iff.mpr ⟨_, LimitMap.get_set_self _ _ _⟩
      exact List.ne_nil_of_mem there
  · exact List.ne_nil_of_mem (keys_initConnServerCache config)

/-- The requests of several clients, one after the other. -/
def serve (config : Config) : State → List ℚ → List (Option OutArgs) × State
  | s, [] => ([], s)
  | s, now :: rest =>
    let (answer, s) := getAvgConnServerLoadNums config s now
    let (answers, s) := serve config s rest
    (answer :: answers, s)

/-- The loads the gate knows of. -/
def load (m : LimitMap Server) (connName : String) : Int := ((m.get connName).map Server.loadNums).getD 0

/-- The answer sends the client to the server. -/
def Addresses (m : LimitMap Server) (answer : Option OutArgs) (connName : String) : Prop :=
  ∃ server, m.get connName = some server ∧ answer.map (fun out => (out.host, out.port)) = some (server.host, server.port)

theorem get_of_key {connName : String} (there : connName ∈ m.map.keys) : ∃ server, m.get connName = some server :=
  Obj.mem_keys_iff.mp there

/-- A request that does not refresh the cache goes to a server of least load and counts there. -/
theorem request_least (config : Config) {now : ℚ} (fresh : ¬ CACHE_EXPIRE_TIME < now - s.expireTime) (known : s.limitMap.map.keys ≠ []) :
    ∃ connName, Balance.Least s.limitMap.map.keys.toFinset (load s.limitMap) connName ∧
      Addresses s.limitMap (getAvgConnServerLoadNums config s now).1 connName ∧
      (getAvgConnServerLoadNums config s now).2 = { s with limitMap := count s.limitMap connName } := by
  have least := minServer_least s.limitMap
  unfold getAvgConnServerLoadNums refresh
  rw [if_neg fresh]
  dsimp only
  cases best : minServer s.limitMap with
  | none =>
    rw [best] at least
    obtain ⟨key, there⟩ := List.exists_mem_of_ne_nil _ known
    obtain ⟨server, found⟩ := get_of_key there
    rw [least key] at found
    cases found
  | some entry =>
    obtain ⟨connName, server⟩ := entry
    rw [best] at least
    obtain ⟨found, below⟩ := least
    refine ⟨connName, ⟨List.mem_toFinset.mpr (Obj.mem_keys_iff.mpr ⟨server, found⟩), fun other there => ?_⟩, ⟨server, found, rfl⟩, rfl⟩
    obtain ⟨server', found'⟩ := get_of_key (List.mem_toFinset.mp there)
    have le := below other server' found'
    simpa [load, found, found'] using le

theorem load_count {connName : String} (there : connName ∈ m.map.keys) :
    load (count m connName) = Balance.bump (load m) connName := by
  obtain ⟨server, found⟩ := get_of_key there
  funext key
  unfold load Balance.bump
  rw [get_count]
  split
  · rename_i same
    simp [same, found]
  · rfl

/-- Requests while the cache is young are spread over the servers it has. -/
theorem serve_spreads (config : Config) {times : List ℚ} (fresh : ∀ now ∈ times, ¬ CACHE_EXPIRE_TIME < now - s.expireTime)
    (known : s.limitMap.map.keys ≠ []) :
    ∃ chosen, Balance.Spread s.limitMap.map.keys.toFinset (load s.limitMap) chosen (load (serve config s times).2.limitMap) ∧
      List.Forall₂ (Addresses s.limitMap) (serve config s times).1 chosen := by
  induction times generalizing s with
  | nil => exact ⟨[], .nil _, .nil⟩
  | cons now rest ih =>
    obtain ⟨first, later⟩ := List.forall_mem_cons.mp fresh
    obtain ⟨connName, least, addressed, moved⟩ := request_least config first known
    have there : connName ∈ s.limitMap.map.keys := List.mem_toFinset.mp least.1
    obtain ⟨chosen, spread, addresses⟩ := @ih { s with limitMap := count s.limitMap connName } later (by rwa [keys_count])
    rw [keys_count, load_count there] at spread
    refine ⟨connName :: chosen, ?_, ?_⟩
    · apply Balance.Spread.cons least
      show Balance.Spread _ _ _ (load (serve config (getAvgConnServerLoadNums config s now).2 rest).2.limitMap)
      rwa [moved]
    · refine .cons addressed ?_
      show List.Forall₂ _ (serve config (getAvgConnServerLoadNums config s now).2 rest).1 chosen
      rw [moved]
      refine addresses.imp fun answer name ⟨server, found, same⟩ => ?_
      have counted : (count s.limitMap connName).get name = some server := found
      rw [get_count] at counted
      split at counted
      · rename_i equal
        obtain ⟨before, held, rfl⟩ := Option.map_eq_some_iff.mp counted
        exact ⟨before, equal ▸ held, same⟩
      · exact ⟨server, counted, same⟩

/-- After any run, clients that come while the cache is young are sent to known servers so that every server that gets one of
them counts at most one more than any other, and however else they are shared out, the fullest server that gets one is no
less full. -/
theorem gate_balances (config : Config) (events : List Event) {times : List ℚ}
    (fresh : ∀ now ∈ times, ¬ CACHE_EXPIRE_TIME < now - (run (step config) (initial config) events).expireTime) :
    let s := run (step config) (initial config) events
    let s' := (serve config s times).2
    ∃ chosen, List.Forall₂ (Addresses s.limitMap) (serve config s times).1 chosen ∧
      (∀ connName, load s'.limitMap connName = load s.limitMap connName + chosen.count connName) ∧
      (∀ connName ∈ chosen, ∀ other ∈ s.limitMap.map.keys, load s'.limitMap connName ≤ load s'.limitMap other + 1) ∧
      ∀ share : String → ℕ, ∑ connName ∈ s.limitMap.map.keys.toFinset, share connName = times.length → ∀ connName ∈ chosen,
        ∃ other ∈ s.limitMap.map.keys, 0 < share other ∧ load s'.limitMap connName ≤ load s.limitMap other + share other := by
  intro s s'
  obtain ⟨chosen, spread, addresses⟩ := serve_spreads config fresh (run_known config events)
  refine ⟨chosen, addresses, spread.counts, fun connName got other there => ?_, fun share all connName got => ?_⟩
  · exact spread.level connName got other (List.mem_toFinset.mpr there)
  · have lengths : (serve config s times).1.length = times.length := by
      have counted : ∀ (times : List ℚ) (s : State), (serve config s times).1.length = times.length := by
        intro times
        induction times with
        | nil => exact fun _ => rfl
        | cons now rest ih => exact fun s => congrArg (· + 1) (ih _)
      exact counted times s
    have all' := all.trans (lengths.symm.trans addresses.length_eq)
    obtain ⟨other, there, some_, le⟩ := spread.optimal share all' got
    exact ⟨other, List.mem_toFinset.mp there, some_, le⟩

def twoServers : List Event :=
  [.request 1000, .report { loadNums := 5, connName := "conn-1", host := "h1", port := 1 },
    .report { loadNums := 3, connName := "conn-2", host := "h2", port := 2 }]

theorem gate_balances_two_servers :
    ∃ chosen, List.Forall₂ (Addresses (run (step ⟨"conn", "h", 0⟩) (initial ⟨"conn", "h", 0⟩) twoServers).limitMap)
      (serve ⟨"conn", "h", 0⟩ (run (step ⟨"conn", "h", 0⟩) (initial ⟨"conn", "h", 0⟩) twoServers) [1001, 1002, 1003]).1 chosen := by
  have fresh : ∀ now ∈ [1001, 1002, (1003 : ℚ)], ¬ CACHE_EXPIRE_TIME < now -
      (run (step ⟨"conn", "h", 0⟩) (initial ⟨"conn", "h", 0⟩) twoServers).expireTime := by decide +kernel
  obtain ⟨chosen, addresses, _⟩ := gate_balances ⟨"conn", "h", 0⟩ twoServers fresh
  exact ⟨chosen, addresses⟩

end Tinygame.Gate
