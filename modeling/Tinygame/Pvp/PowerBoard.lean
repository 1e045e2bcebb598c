import Tinygame.Pvp.PowerIndex

/-!
# Setting powers side by side

Requests of any players, with the removals they start, run together on one store. The board is what
they make of the base infos and the power index and where each of them is; the pool of programs
moves as the board does.
-/

namespace Tinygame.PowerIndex
open Redis

/-! ### Keys -/

theorem bagListKey_ne_base (u v : UserArea) : bagListKey u ≠ baseInfoKey v :=
  key_ne '8' '4' (by decide) (by decide) (by decide)

theorem heroKey_ne_power (u : UserArea) : heroKey u ≠ powerKey :=
  key_ne '5' 'l' (by decide) (by decide) (by decide)

/-! ### The board -/

/-- `jobs` are the requests that have started their removal, in order. -/
structure Board where
  bases : UserArea → BaseInfo
  buckets : String → Option Value
  phases : Nat → Phase
  jobs : List Nat
  removals : Nat → Removal

/-- The players listed in a stored range. -/
def entries : Option Value → List UserArea
  | some (.power bucket) => bucket.keys
  | _ => []

@[simp] theorem entries_power (bucket : Lru) : entries (some (.power bucket)) = bucket.keys := rfl

theorem dataMap_keys (id : Nat) (data : Option Value) : (dataMap id data).keys = entries data := by
  cases data with
  | none => rfl
  | some value => cases value <;> rfl

/-- What the requests find in the store and nobody here writes. -/
structure Stock where
  bags : UserArea → Option Value
  heroes : UserArea → Obj Value

section
variable (matching : BaseInfo → Query (Option Value)) (getPlayerPower : BaseInfo → Option Value → Option Value → Nat)
  (stock : Stock) (requests : List Request)

namespace Board

def go (b : Board) (i : Nat) (phase : Phase) : Board := { b with phases := Function.update b.phases i phase }

def side (b : Board) (i : Nat) (removal : Removal) : Board :=
  { b with removals := Function.update b.removals i removal }

def put (b : Board) (field : String) (bucket : Lru) : Board :=
  { b with buckets := Function.update b.buckets field (some (.power bucket)) }

/-- The next step of request `i`. -/
def main (b : Board) (i : Nat) (r : Request) : Board :=
  match b.phases i with
  | .session => b.go i .baseInfo
  | .baseInfo => b.go i (.bagList (b.bases r.player))
  | .bagList base => match stock.bags r.player with
    | some bag => b.go i (if bag.truthy then .team base bag else .ended (some (.failure 2003)))
    | none => b.go i (.ended (some (.failure 2003)))
  | .team base bag =>
    let heroIds := getHeroIdsFromPosList base.posList
    b.go i (if heroIds = [] then .ended (some (.failure 2005))
      else .start base bag (teamHeroList base (heroIds.map (stock.heroes r.player).get?)))
  | .start base bag team =>
    { (b.go i (.saveBase base bag team)).side i (.find base) with jobs := b.jobs ++ [i] }
  | .saveBase base bag team =>
    { b.go i (.find base bag team) with
      bases := Function.update b.bases r.player (raised getPlayerPower base bag team) }
  | .find base bag team => b.go i (.save base bag team (b.buckets (range (raised getPlayerPower base bag team).power)))
  | .save base bag team data =>
    let new := raised getPlayerPower base bag team
    (b.go i (.ended (some (answer getPlayerPower base bag team)))).put (range new.power) (enter new data)
  | .ended _ => b

/-- The next step of the removal request `i` has started. -/
def remove (b : Board) (i : Nat) : Board :=
  match b.removals i with
  | .find base => b.side i (.save base (b.buckets (range base.power)))
  | .save base data => (b.side i .ended).put (range base.power) (leave base data)
  | _ => b

/-- The next step of program `j` of the pool. -/
def move (b : Board) (j : Nat) : Board :=
  match requests[j]? with
  | some r => b.main getPlayerPower stock j r
  | none => match b.jobs[j - requests.length]? with
    | some i => b.remove i
    | none => b

end Board

/-- What a request in this phase has been answered. -/
def Phase.read (r : Request) : Phase → List (Read × Reply Value)
  | .bagList base | .team base _ | .start base _ _ | .saveBase base _ _ | .find base _ _ =>
    [(.get (baseInfoKey r.player), .value (some (.baseInfo base)))]
  | .save base bag heroes data =>
    [(.get (baseInfoKey r.player), .value (some (.baseInfo base))),
      (.hget powerKey (range (raised getPlayerPower base bag heroes).power), .value data)]
  | _ => []

def Removal.read : Removal → List (Read × Reply Value)
  | .save base data => [(.hget powerKey (range base.power), .value data)]
  | _ => []

/-- The request has read the base info of its player. -/
def Phase.Past : Phase → Prop
  | .session | .baseInfo => False
  | _ => True

def Phase.Ended : Phase → Prop
  | .ended _ => True
  | _ => False

/-- The removal has ended, or there is none. -/
def Removal.Over : Removal → Prop
  | .unstarted | .ended => True
  | _ => False

/-- A request has started its removal when it has come to its stores. -/
def Phase.Fits (removal : Removal) : Phase → Prop
  | .saveBase _ _ _ | .find _ _ _ | .save _ _ _ _ => removal ≠ .unstarted
  | .ended response => removal ≠ .unstarted ↔ ∃ answer, response = some answer ∧ ErrCode.passes answer.retCode
  | _ => removal = .unstarted

/-- The removals are those of requests that have come so far, one each. -/
structure Board.Sound (b : Board) : Prop where
  once : b.jobs.Nodup
  started : ∀ i, i ∈ b.jobs ↔ b.removals i ≠ .unstarted
  fits : ∀ i, (b.phases i).Fits (b.removals i)

/-- The store holds what the board shows. -/
structure Holds (store : Store Value) (b : Board) : Prop where
  sessions : ∀ r ∈ requests, store.sessions.get? r.sid = some ⟨r.area, r.uuid⟩
  bases : ∀ r ∈ requests, store.strings.get? (baseInfoKey r.player) = some (.baseInfo (b.bases r.player))
  bags : ∀ r ∈ requests, store.strings.get? (bagListKey r.player) = stock.bags r.player
  heroes : ∀ r ∈ requests, store.hash (heroKey r.player) = stock.heroes r.player
  buckets : ∀ field, store.hget powerKey field = b.buckets field

/-- The programs are where the board says, the requests first and their removals behind them. -/
structure Runs (pool : AgentPool) (b : Board) : Prop where
  length : pool.programs.length = requests.length + b.jobs.length
  jobs : pool.jobs.map Prod.fst = b.jobs
  mains : ∀ i r, requests[i]? = some r → pool.programs[i]? = some (code matching getPlayerPower r (b.phases i))
  sides : ∀ k i, b.jobs[k]? = some i → pool.programs[requests.length + k]? = some (sideCode (b.removals i))
  reads : ∀ i r, requests[i]? = some r → ∀ entry ∈ (b.phases i).read getPlayerPower r,
    lastAnswer (pool.journalOf i) entry.1 = some entry.2
  past : ∀ i r, requests[i]? = some r →
    ((lastAnswer (pool.journalOf i) (.get (baseInfoKey r.player))).isSome ↔ (b.phases i).Past)
  sideReads : ∀ k i, b.jobs[k]? = some i → ∀ entry ∈ (b.removals i).read,
    lastAnswer (pool.journalOf (requests.length + k)) entry.1 = some entry.2

/-- Different players have their base infos under different keys. -/
def DistinctKeys : Prop :=
  ∀ r ∈ requests, ∀ s ∈ requests, baseInfoKey r.player = baseInfoKey s.player → r.player = s.player

/-- One program makes a step, the others wait. -/
def move (pool : AgentPool) (j : Nat) : AgentPool := agentStep pool (j, false)

variable {matching getPlayerPower stock requests} {pool : AgentPool} {b b' : Board} {i j k : Nat} {r : Request}

/-- A command of request `i` was carried out and brought it to `phase`. -/
theorem Runs.step (runs : Runs matching getPlayerPower requests pool b) (asked : requests[i]? = some r)
    {command : Command Value} {next : Reply Value → Work (Option Response)}
    (found : pool.programs[i]? = some (.call command next))
    {phase : Phase} (goes : next (pool.store.exec command false).2 = code matching getPlayerPower r phase)
    (phases : b'.phases = Function.update b.phases i phase) (jobs : b'.jobs = b.jobs) (removals : b'.removals = b.removals)
    (reads : ∀ entry ∈ phase.read getPlayerPower r,
      lastAnswer (pool.journalOf i ++ [(command, (pool.store.exec command false).2)]) entry.1 = some entry.2)
    (past : (lastAnswer (pool.journalOf i ++ [(command, (pool.store.exec command false).2)])
      (.get (baseInfoKey r.player))).isSome ↔ phase.Past) :
    Runs matching getPlayerPower requests (move pool i) b' := by
  have short : i < requests.length := (List.getElem?_eq_some_iff.mp asked).1
  have stepped := Pool.step_call Store.exec SideProgram.work false found
  have own : ∀ {j s}, requests[j]? = some s → j = i → s = r := by
    rintro j s other rfl
    exact Option.some.inj (other.symm.trans asked)
  constructor
  · rw [move, agentStep, stepped, jobs, List.length_set]
    exact runs.length
  · rw [move, agentStep, stepped, jobs]
    exact runs.jobs
  · intro j s other
    rw [move, agentStep, Pool.programs_call found, phases]
    by_cases same : j = i
    · rw [own other same, same, if_pos rfl, Function.update_self, goes]
    · rw [if_neg same, Function.update_of_ne same]
      exact runs.mains j s other
  · intro k j job
    rw [jobs] at job
    rw [move, agentStep, Pool.programs_call found, removals, if_neg (by omega)]
    exact runs.sides k j job
  · intro j s other
    rw [move, agentStep, Pool.journalOf_call found, phases]
    by_cases same : j = i
    · rw [own other same, same, Function.update_self, if_pos rfl]
      exact reads
    · rw [Function.update_of_ne same, if_neg (Ne.symm same), List.append_nil]
      exact runs.reads j s other
  · intro j s other
    rw [move, agentStep, Pool.journalOf_call found, phases]
    by_cases same : j = i
    · rw [own other same, same, Function.update_self, if_pos rfl]
      exact past
    · rw [Function.update_of_ne same, if_neg (Ne.symm same), List.append_nil]
      exact runs.past j s other
  · intro k j job
    rw [jobs] at job
    rw [move, agentStep, Pool.journalOf_call found, removals, if_neg (by omega), List.append_nil]
    exact runs.sideReads k j job

/-- A command of the removal of request `i` was carried out and brought it to `removal`. -/
theorem Runs.sideStep (runs : Runs matching getPlayerPower requests pool b) (once : b.jobs.Nodup)
    (job : b.jobs[k]? = some i) {command : Command Value} {next : Reply Value → Work (Option Response)}
    (found : pool.programs[requests.length + k]? = some (.call command next))
    {removal : Removal} (goes : next (pool.store.exec command false).2 = sideCode removal)
    (phases : b'.phases = b.phases) (jobs : b'.jobs = b.jobs) (removals : b'.removals = Function.update b.removals i removal)
    (reads : ∀ entry ∈ removal.read,
      lastAnswer (pool.journalOf (requests.length + k) ++ [(command, (pool.store.exec command false).2)]) entry.1 =
        some entry.2) :
    Runs matching getPlayerPower requests (move pool (requests.length + k)) b' := by
  have stepped := Pool.step_call Store.exec SideProgram.work false found
  have main : ∀ {j s}, requests[j]? = some s → j ≠ requests.length + k := by
    intro j s other
    have short : j < requests.length := (List.getElem?_eq_some_iff.mp other).1
    omega
  have own : ∀ {l j}, b.jobs[l]? = some j → (l = k ↔ j = i) := by
    intro l j other
    constructor
    · rintro rfl
      exact Option.some.inj (other.symm.trans job)
    · rintro rfl
      exact (List.getElem?_inj (List.getElem?_eq_some_iff.mp other).1 once).mp (other.trans job.symm)
  constructor
  · rw [move, agentStep, stepped, jobs, List.length_set]
    exact runs.length
  · rw [move, agentStep, stepped, jobs]
    exact runs.jobs
  · intro j s other
    rw [move, agentStep, Pool.programs_call found, phases, if_neg (main other)]
    exact runs.mains j s other
  · intro l j other
    rw [jobs] at other
    rw [move, agentStep, Pool.programs_call found, removals]
    by_cases same : l = k
    · rw [same, if_pos rfl, (own other).mp same, Function.update_self, goes]
    · rw [if_neg (by omega), Function.update_of_ne (mt (own other).mpr same)]
      exact runs.sides l j other
  · intro j s other
    rw [move, agentStep, Pool.journalOf_call found, phases, if_neg (main other).symm, List.append_nil]
    exact runs.reads j s other
  · intro j s other
    rw [move, agentStep, Pool.journalOf_call found, phases, if_neg (main other).symm, List.append_nil]
    exact runs.past j s other
  · intro l j other
    rw [jobs] at other
    rw [move, agentStep, Pool.journalOf_call found, removals]
    by_cases same : l = k
    · rw [same, if_pos rfl, (own other).mp same, Function.update_self]
      exact reads
    · rw [if_neg (by omega), Function.update_of_ne (mt (own other).mpr same), List.append_nil]
      exact runs.sideReads l j other

/-- Request `i` has started its removal. -/
theorem Runs.fork (runs : Runs matching getPlayerPower requests pool b) (asked : requests[i]? = some r)
    {base : BaseInfo} {next : Work (Option Response)} (found : pool.programs[i]? = some (.fork (removal base) next))
    {phase : Phase} (goes : next = code matching getPlayerPower r phase) (unstarted : i ∉ b.jobs)
    (reads : phase.read getPlayerPower r = (b.phases i).read getPlayerPower r)
    (past : phase.Past ↔ (b.phases i).Past) :
    Runs matching getPlayerPower requests (move pool i)
      { (b.go i phase).side i (.find base) with jobs := b.jobs ++ [i] } := by
  have short : i < requests.length := (List.getElem?_eq_some_iff.mp asked).1
  have stepped := Pool.step_fork Store.exec SideProgram.work false found
  have journal : ∀ j, (move pool i).journalOf j = pool.journalOf j := by
    intro j
    rw [move, agentStep, stepped]
    rfl
  have size := runs.length
  constructor
  · rw [move, agentStep, stepped]
    simp [size, Nat.add_assoc]
  · rw [move, agentStep, stepped]
    simp [runs.jobs]
  · intro j s other
    have within : j < requests.length := (List.getElem?_eq_some_iff.mp other).1
    rw [move, agentStep, stepped]
    dsimp only [Board.go, Board.side]
    rw [List.getElem?_append_left (by rw [List.length_set]; omega)]
    by_cases same : j = i
    · subst same
      cases asked.symm.trans other
      rw [List.getElem?_set_self (by omega), Function.update_self, goes]
    · rw [List.getElem?_set_ne (Ne.symm same), Function.update_of_ne same]
      exact runs.mains j s other
  · intro k j job
    rw [move, agentStep, stepped]
    dsimp only [Board.go, Board.side] at job ⊢
    by_cases old : k < b.jobs.length
    · rw [List.getElem?_append_left old] at job
      have different : j ≠ i := fun same => unstarted (same ▸ List.mem_of_getElem? job)
      rw [List.getElem?_append_left (by rw [List.length_set]; omega), List.getElem?_set_ne (by omega),
        Function.update_of_ne different]
      exact runs.sides k j job
    · have last : k = b.jobs.length := by
        have bound := (List.getElem?_eq_some_iff.mp job).1
        rw [List.length_append, List.length_singleton] at bound
        omega
      subst last
      rw [List.getElem?_concat_length] at job
      cases job
      rw [List.getElem?_append_right (by rw [List.length_set]; omega), List.length_set, size, Nat.sub_self,
        Function.update_self]
      rfl
  · intro j s other
    rw [journal]
    dsimp only [Board.go, Board.side]
    by_cases same : j = i
    · subst same
      cases asked.symm.trans other
      rw [Function.update_self, reads]
      exact runs.reads j r asked
    · rw [Function.update_of_ne same]
      exact runs.reads j s other
  · intro j s other
    rw [journal]
    dsimp only [Board.go, Board.side]
    by_cases same : j = i
    · subst same
      cases asked.symm.trans other
      rw [Function.update_self, past]
      exact runs.past j r asked
    · rw [Function.update_of_ne same]
      exact runs.past j s other
  · intro k j job
    rw [journal]
    dsimp only [Board.go, Board.side] at job ⊢
    by_cases same : j = i
    · subst same
      rw [Function.update_self]
      exact fun entry member => absurd member List.not_mem_nil
    · rw [Function.update_of_ne same]
      rw [List.getElem?_append] at job
      split at job
      · exact runs.sideReads k j job
      · exact absurd (List.mem_singleton.mp (List.mem_of_getElem? job)) same

/-- A request reads: the store stays, and the request goes on to `phase`. -/
theorem read_move (holds : Holds stock requests pool.store b) (runs : Runs matching getPlayerPower requests pool b)
    (asked : requests[i]? = some r) {command : Read} {next : Reply Value → Work (Option Response)}
    (found : code matching getPlayerPower r (b.phases i) = .call (.read command) next) {reply : Reply Value}
    (answer : pool.store.answer (.read command) = reply) {phase : Phase}
    (goes : next reply = code matching getPlayerPower r phase)
    (reads : ∀ entry ∈ phase.read getPlayerPower r, entry = (command, reply) ∨
      entry.1 ≠ command ∧ entry ∈ (b.phases i).read getPlayerPower r)
    (past : phase.Past ↔ command = .get (baseInfoKey r.player) ∨ (b.phases i).Past) :
    Holds stock requests (move pool i).store (b.go i phase) ∧
      Runs matching getPlayerPower requests (move pool i) (b.go i phase) := by
  have calls : pool.programs[i]? = some (.call (.read command) next) := by rw [runs.mains i r asked, found]
  have replied : (pool.store.exec (.read command) false).2 = reply := by rw [Store.exec_read, answer]
  have store : (move pool i).store = pool.store := by rw [move, agentStep, Pool.store_call calls, Store.exec_read]
  refine ⟨?_, runs.step asked calls (replied ▸ goes) rfl rfl rfl ?_ ?_⟩
  · rw [store]
    exact ⟨holds.sessions, holds.bases, holds.bags, holds.heroes, holds.buckets⟩
  · intro entry member
    rw [replied, lastAnswer_read]
    rcases reads entry member with rfl | ⟨different, old⟩
    · rw [if_pos rfl]
    · rw [if_neg (Ne.symm different)]
      exact runs.reads i r asked entry old
  · rw [replied, lastAnswer_read, past]
    split
    · simp_all
    · rename_i different
      rw [runs.past i r asked]
      simp [different]

/-- A request stores and goes on to `phase`. -/
theorem write_move (b' : Board) (runs : Runs matching getPlayerPower requests pool b) (asked : requests[i]? = some r)
    {write : Write Value} {next : Reply Value → Work (Option Response)}
    (found : code matching getPlayerPower r (b.phases i) = .call (.write write) next)
    (done : pool.store.exec (.write write) false = (pool.store.put write, .ok)) {phase : Phase}
    (goes : next .ok = code matching getPlayerPower r phase)
    (phases : b'.phases = Function.update b.phases i phase) (jobs : b'.jobs = b.jobs) (removals : b'.removals = b.removals)
    (kept : ∀ entry ∈ phase.read getPlayerPower r, entry ∈ (b.phases i).read getPlayerPower r)
    (past : phase.Past ↔ (b.phases i).Past) :
    (move pool i).store = pool.store.put write ∧ Runs matching getPlayerPower requests (move pool i) b' := by
  have calls : pool.programs[i]? = some (.call (.write write) next) := by rw [runs.mains i r asked, found]
  refine ⟨?_, runs.step asked calls (done ▸ goes) phases jobs removals ?_ ?_⟩
  · rw [move, agentStep, Pool.store_call calls, done]
  · intro entry member
    rw [lastAnswer_write]
    exact runs.reads i r asked entry (kept entry member)
  · rw [lastAnswer_write, past]
    exact runs.past i r asked

/-- The removal of request `i` makes a step that leads to `removal`. -/
theorem side_move (b' : Board) (runs : Runs matching getPlayerPower requests pool b) (once : b.jobs.Nodup)
    (job : b.jobs[k]? = some i) {command : Command Value} {next : Reply Value → Work (Option Response)}
    (found : sideCode (b.removals i) = .call command next) {store : Store Value} {reply : Reply Value}
    (done : pool.store.exec command false = (store, reply)) {removal : Removal} (goes : next reply = sideCode removal)
    (phases : b'.phases = b.phases) (jobs : b'.jobs = b.jobs) (removals : b'.removals = Function.update b.removals i removal)
    (reads : ∀ entry ∈ removal.read, ∃ read, command = .read read ∧ entry = (read, reply)) :
    (move pool (requests.length + k)).store = store ∧
      Runs matching getPlayerPower requests (move pool (requests.length + k)) b' := by
  have calls : pool.programs[requests.length + k]? = some (.call command next) := by rw [runs.sides k i job, found]
  refine ⟨?_, runs.sideStep once job calls (by rw [done, goes]) phases jobs removals ?_⟩
  · rw [move, agentStep, Pool.store_call calls, done]
  · intro entry member
    obtain ⟨read, rfl, rfl⟩ := reads entry member
    rw [done, lastAnswer_read, if_pos rfl]

theorem Holds.put (holds : Holds stock requests pool.store b) (field : String) (bucket : Lru)
    (bases : b'.bases = b.bases) (buckets : b'.buckets = Function.update b.buckets field (some (.power bucket))) :
    Holds stock requests (pool.store.put (.hset powerKey field (.power bucket))) b' := by
  constructor
  · exact holds.sessions
  · rw [bases]
    exact holds.bases
  · exact holds.bags
  · intro s there
    rw [Store.put, Store.hash_hset, if_neg (heroKey_ne_power s.player)]
    exact holds.heroes s there
  · intro other
    rw [Store.put, Store.hget_hset, buckets, Function.update_apply]
    by_cases same : other = field
    · simp [same]
    · simp [same, holds.buckets]

/-- The pool moves as the board does. -/
theorem represents_move (distinct : DistinctKeys requests) (sound : b.Sound)
    (holds : Holds stock requests pool.store b) (runs : Runs matching getPlayerPower requests pool b) (j : Nat) :
    Holds stock requests (move pool j).store (b.move getPlayerPower stock requests j) ∧
      Runs matching getPlayerPower requests (move pool j) (b.move getPlayerPower stock requests j) := by
  cases asked : requests[j]? with
  | some r =>
    have member : r ∈ requests := List.mem_of_getElem? asked
    simp only [Board.move, asked, Board.main]
    cases phase : b.phases j with
    | session =>
      obtain ⟨next, step, goes⟩ := code_session matching getPlayerPower r
      exact read_move holds runs asked (phase ▸ step) (by simp only [Store.answer, holds.sessions r member]) goes
        (by simp [Phase.read]) (by simp [Phase.Past, phase])
    | baseInfo =>
      obtain ⟨next, step, goes⟩ := code_baseInfo matching getPlayerPower r (b.bases r.player)
      exact read_move holds runs asked (phase ▸ step) (by rw [Store.answer, holds.bases r member]) goes
        (by simp [Phase.read]) (by simp [Phase.Past])
    | bagList base =>
      obtain ⟨next, step, goes, absent⟩ := code_bagList matching getPlayerPower r base
      have found : pool.store.answer (.read (.get (bagListKey r.player))) = .value (stock.bags r.player) := by
        rw [Store.answer, holds.bags r member]
      cases bag : stock.bags r.player with
      | none =>
        exact read_move holds runs asked (phase ▸ step) (found.trans (by rw [bag])) absent
          (by simp [Phase.read]) (by simp [Phase.Past, phase])
      | some bag =>
        refine read_move holds runs asked (phase ▸ step) (found.trans (by rw [bag])) ?_ ?_ ?_
        · rw [goes]
          split <;> rfl
        · split <;> simp [Phase.read, phase, (bagListKey_ne_base _ _).symm]
        · split <;> simp [Phase.Past, phase]
    | team base bag =>
      obtain ⟨next, step, goes, absent⟩ := code_team matching getPlayerPower r base bag
      refine read_move holds runs asked (phase ▸ step) rfl ?_ ?_ ?_
      · simp only [Store.answer]
        split
        · exact absent
        · rw [goes]
          have same : (getHeroIdsFromPosList base.posList).map (pool.store.hget (heroKey r.player)) =
              (getHeroIdsFromPosList base.posList).map (stock.heroes r.player).get? := by
            rw [← holds.heroes r member]
            rfl
          rw [same]
      · split <;> simp [Phase.read, phase]
      · split <;> simp [Phase.Past, phase]
    | start base bag team =>
      have step := code_start matching getPlayerPower r base bag team
      have calls := runs.mains j r asked
      rw [phase, step] at calls
      have fits := sound.fits j
      rw [phase] at fits
      have unstarted : j ∉ b.jobs := fun job => (sound.started j).mp job fits
      have store : (move pool j).store = pool.store := by
        rw [move, agentStep, Pool.step_fork _ _ _ calls]
      refine ⟨?_, runs.fork asked calls rfl unstarted (by simp [Phase.read, phase]) (by simp [Phase.Past, phase])⟩
      rw [store]
      exact ⟨holds.sessions, holds.bases, holds.bags, holds.heroes, holds.buckets⟩
    | saveBase base bag team =>
      obtain ⟨next, step, goes⟩ := code_saveBase matching getPlayerPower r base bag team
      obtain ⟨store, runs'⟩ := write_move ({ b.go j (.find base bag team) with
        bases := Function.update b.bases r.player (raised getPlayerPower base bag team) }) runs asked (phase ▸ step)
        rfl goes rfl rfl rfl (by simp [Phase.read, phase]) (by simp [Phase.Past, phase])
      refine ⟨?_, runs'⟩
      rw [store]
      constructor
      · exact holds.sessions
      · intro s there
        simp only [Store.put]
        rw [Obj.get?_set]
        by_cases same : s.player = r.player
        · rw [same, if_pos rfl, Function.update_self]
        · rw [if_neg fun keys => same (distinct s there r member keys), Function.update_of_ne same]
          exact holds.bases s there
      · exact fun s there => (Obj.get?_set_of_ne _ _ (bagListKey_ne_base _ _)).trans (holds.bags s there)
      · exact holds.heroes
      · exact holds.buckets
    | find base bag team =>
      obtain ⟨next, step, goes⟩ := code_find matching getPlayerPower r base bag team
      exact read_move holds runs asked (phase ▸ step) (by rw [Store.answer, holds.buckets]) (goes _)
        (by simp [Phase.read, phase]) (by simp [Phase.Past, phase])
    | save base bag team data =>
      obtain ⟨next, step, goes⟩ := code_save matching getPlayerPower r base bag team data
      obtain ⟨store, runs'⟩ := write_move ((b.go j (.ended (some (answer getPlayerPower base bag team)))).put
        (range (raised getPlayerPower base bag team).power) (enter (raised getPlayerPower base bag team) data))
        runs asked (phase ▸ step) rfl goes rfl rfl rfl (by simp [Phase.read]) (by simp [Phase.Past, phase])
      refine ⟨?_, runs'⟩
      rw [store]
      exact holds.put _ _ rfl rfl
    | ended response =>
      have isOver : pool.programs[j]? = some (.done response) := by rw [runs.mains j r asked, phase, code]
      have still : move pool j = pool := Pool.step_ended ⟨response, isOver⟩
      rw [still]
      exact ⟨holds, runs⟩
  | none =>
    obtain ⟨k, rfl⟩ := Nat.exists_eq_add_of_le (List.getElem?_eq_none_iff.mp asked)
    simp only [Board.move, asked, Nat.add_sub_cancel_left]
    cases job : b.jobs[k]? with
    | none =>
      have outside := List.getElem?_eq_none_iff.mp job
      have absent : pool.programs[requests.length + k]? = none :=
        List.getElem?_eq_none (by rw [runs.length]; omega)
      have still : move pool (requests.length + k) = pool := Pool.step_absent absent
      rw [still]
      exact ⟨holds, runs⟩
    | some i =>
      simp only [Board.remove]
      cases phase : b.removals i with
      | unstarted => exact absurd phase ((sound.started i).mp (List.mem_of_getElem? job))
      | find base =>
        obtain ⟨next, step, goes⟩ := side_find base
        have done : pool.store.exec (.read (.hget powerKey (range base.power))) false =
            (pool.store, .value (b.buckets (range base.power))) := by
          rw [Store.exec_read, Store.answer, holds.buckets]
        obtain ⟨store, runs'⟩ := side_move (b.side i (.save base (b.buckets (range base.power)))) runs sound.once
          job (phase ▸ step) done (goes _) rfl rfl rfl (by simp [Removal.read])
        refine ⟨?_, runs'⟩
        rw [store]
        exact ⟨holds.sessions, holds.bases, holds.bags, holds.heroes, holds.buckets⟩
      | save base data =>
        obtain ⟨next, step, goes⟩ := side_save base data
        obtain ⟨store, runs'⟩ := side_move ((b.side i .ended).put (range base.power) (leave base data)) runs
          sound.once job (phase ▸ step) rfl goes rfl rfl rfl (by simp [Removal.read])
        refine ⟨?_, runs'⟩
        rw [store]
        exact holds.put _ _ rfl rfl
      | ended =>
        have isOver : pool.programs[requests.length + k]? = some (.done none) := by
          rw [runs.sides k i job, phase, sideCode]
        have still : move pool (requests.length + k) = pool := Pool.step_ended ⟨none, isOver⟩
        rw [still]
        exact ⟨holds, runs⟩

/-! ### Sound boards -/

theorem Board.Sound.go (sound : b.Sound) (phase : Phase) (fits : phase.Fits (b.removals i))
    (phases : b'.phases = Function.update b.phases i phase) (jobs : b'.jobs = b.jobs) (removals : b'.removals = b.removals) :
    b'.Sound := by
  refine ⟨jobs ▸ sound.once, fun j => by rw [jobs, removals]; exact sound.started j, fun j => ?_⟩
  rw [phases, removals]
  by_cases same : j = i
  · rw [same, Function.update_self]
    exact fits
  · rw [Function.update_of_ne same]
    exact sound.fits j

theorem fits_started {removal removal' : Removal} {phase : Phase} (fits : phase.Fits removal) (was : removal ≠ .unstarted)
    (now : removal' ≠ .unstarted) : phase.Fits removal' := by
  cases phase with
  | saveBase => exact now
  | find => exact now
  | save => exact now
  | ended response => exact ⟨fun _ => fits.mp was, fun _ => now⟩
  | _ => exact absurd fits was

theorem Board.Sound.side (sound : b.Sound) (removal : Removal) (was : b.removals i ≠ .unstarted)
    (now : removal ≠ .unstarted) (phases : b'.phases = b.phases) (jobs : b'.jobs = b.jobs)
    (removals : b'.removals = Function.update b.removals i removal) : b'.Sound := by
  refine ⟨jobs ▸ sound.once, fun j => ?_, fun j => ?_⟩
  · rw [jobs, removals]
    by_cases same : j = i
    · rw [same, Function.update_self]
      exact iff_of_true ((sound.started i).mpr was) now
    · rw [Function.update_of_ne same]
      exact sound.started j
  · rw [phases, removals]
    by_cases same : j = i
    · rw [same, Function.update_self]
      exact fits_started (sound.fits i) was now
    · rw [Function.update_of_ne same]
      exact sound.fits j

/-- The start of a removal. -/
theorem Board.Sound.start (sound : b.Sound) (unstarted : b.removals i = .unstarted) {phase : Phase} (base : BaseInfo)
    (fits : phase.Fits (.find base)) : Board.Sound { (b.go i phase).side i (.find base) with jobs := b.jobs ++ [i] } := by
  have absent : i ∉ b.jobs := fun job => (sound.started i).mp job unstarted
  refine ⟨?_, fun j => ?_, fun j => ?_⟩
  · exact List.nodup_append.mpr ⟨sound.once, List.nodup_singleton i, fun j job k last same =>
      absent (List.mem_singleton.mp last ▸ same ▸ job)⟩
  · dsimp only [Board.go, Board.side]
    rw [List.mem_append, List.mem_singleton]
    by_cases same : j = i
    · rw [same, Function.update_self]
      exact iff_of_true (.inr rfl) fun started => nomatch started
    · rw [Function.update_of_ne same, or_iff_left same]
      exact sound.started j
  · dsimp only [Board.go, Board.side]
    by_cases same : j = i
    · rw [same, Function.update_self, Function.update_self]
      exact fits
    · rw [Function.update_of_ne same, Function.update_of_ne same]
      exact sound.fits j

theorem fits_failure {errCode : Nat} (fails : ¬ ErrCode.passes errCode) :
    Phase.Fits .unstarted (.ended (some (.failure errCode))) := by
  refine iff_of_false (fun started => started rfl) ?_
  rintro ⟨_, same, passes⟩
  cases same
  exact fails passes

theorem sound_move (sound : b.Sound) (j : Nat) : (b.move getPlayerPower stock requests j).Sound := by
  unfold Board.move
  cases requests[j]? with
  | some r =>
    have fits := sound.fits j
    simp only [Board.main]
    cases phase : b.phases j <;> rw [phase] at fits
    case session => exact sound.go .baseInfo fits rfl rfl rfl
    case baseInfo => exact sound.go (.bagList _) fits rfl rfl rfl
    case bagList base =>
      have unstarted : b.removals j = .unstarted := fits
      cases stock.bags r.player with
      | none => exact sound.go _ (unstarted ▸ fits_failure (by decide)) rfl rfl rfl
      | some bag =>
        refine sound.go _ ?_ rfl rfl rfl
        rw [unstarted]
        split
        · rfl
        · exact fits_failure (by decide)
    case team base bag =>
      have unstarted : b.removals j = .unstarted := fits
      refine sound.go _ ?_ rfl rfl rfl
      rw [unstarted]
      split
      · exact fits_failure (by decide)
      · rfl
    case start base bag team => exact sound.start fits base fun started => nomatch started
    case saveBase base bag team => exact sound.go (.find base bag team) fits rfl rfl rfl
    case find base bag team => exact sound.go (.save base bag team _) fits rfl rfl rfl
    case save base bag team data =>
      exact sound.go (.ended _) (iff_of_true fits ⟨_, rfl, .inl rfl⟩) rfl rfl rfl
    case ended => exact sound
  | none =>
    cases job : b.jobs[j - requests.length]? with
    | none => exact sound
    | some i =>
      have started := (sound.started i).mp (List.mem_of_getElem? job)
      simp only [Board.remove]
      cases b.removals i with
      | find base => exact sound.side (.save base _) started (fun same => nomatch same) rfl rfl rfl
      | save base data => exact sound.side .ended started (fun same => nomatch same) rfl rfl rfl
      | _ => exact sound

/-- Only requests start removals. -/
theorem valid_move (valid : ∀ i ∈ b.jobs, i < requests.length) (j : Nat) :
    ∀ i ∈ (b.move getPlayerPower stock requests j).jobs, i < requests.length := by
  unfold Board.move
  cases asked : requests[j]? with
  | some r =>
    simp only [Board.main]
    cases b.phases j with
    | start base bag team =>
      intro i job
      rcases List.mem_append.mp job with old | new
      · exact valid i old
      · rw [List.mem_singleton.mp new]
        exact (List.getElem?_eq_some_iff.mp asked).1
    | bagList base =>
      dsimp only
      split <;> exact valid
    | _ => exact valid
  | none =>
    dsimp only
    split
    · simp only [Board.remove]
      split <;> exact valid
    · exact valid

end
end Tinygame.PowerIndex
