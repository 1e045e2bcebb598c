import Tinygame.Pvp.EnrollDay

/-!
# Enrolments side by side

The enrolment requests of one area, run together on one store. The board is what they make of the
store and where each of them is; the pool of their programs moves as the board does.
-/

namespace Tinygame.Pvp
open Redis

/-! ### Keys -/

section
variable {area uuid area' uuid' : String}

theorem pvpInfoKey_ne_base : pvpInfoKey area uuid ≠ baseInfoKey area' uuid' :=
  key_ne 'p' '4' (by decide) (by decide) (by decide)

theorem pvpInfoKey_ne_day : pvpInfoKey area uuid ≠ pvpDayKey area' :=
  key_ne 'p' 'a' (by decide) (by decide) (by decide)

theorem pvpInfoKey_ne_global : pvpInfoKey area uuid ≠ globalInfoKey :=
  key_ne 'p' 'l' (by decide) (by decide) (by decide)

theorem pvpDayKey_ne_base : pvpDayKey area ≠ baseInfoKey area' uuid' :=
  key_ne 'a' '4' (by decide) (by decide) (by decide)

theorem pvpDayKey_ne_global : pvpDayKey area ≠ globalInfoKey :=
  key_ne 'a' 'l' (by decide) (by decide) (by decide)

theorem globalInfoKey_ne_base : globalInfoKey ≠ baseInfoKey area' uuid' :=
  key_ne 'l' '4' (by decide) (by decide) (by decide)

end

/-! ### The board -/

structure Board where
  infos : String → PvpInfo
  day : PvpDay
  world : GlobalInfo
  phases : Nat → Phase

/-- The area's numbers in a global record that has them. -/
def todayOf (area : String) (world : GlobalInfo) : AreaDay := (world.pvpDay.get? area).getD ⟨0, 0, 0, 0⟩

/-- The handler let the request go on; it holds of every phase that stores. -/
def Passed (area : String) (r : Request) (base : Value) (info : PvpInfo) (day : PvpDay) (world : GlobalInfo) : Prop :=
  ∃ handled, handled? area r base info day world = some handled ∧ ErrCode.passes handled.code ∧
    world.pvpDay.get? area = some (todayOf area world)

section
variable (matching : BaseInfo → Query (Option Value)) (area : String) (base : String → Option Value)
  (requests : List Request)

namespace Board

def go (b : Board) (i : Nat) (phase : Phase) : Board := { b with phases := Function.update b.phases i phase }

/-- The next step of request `i`. -/
def move (b : Board) (i : Nat) : Board :=
  match requests[i]? with
  | none => b
  | some r =>
    match b.phases i with
    | .session => b.go i .baseInfo
    | .baseInfo => match base r.uuid with
      | some value => b.go i (if value.truthy then .pvpInfo value else .ended (some (.failure 2001)))
      | none => b.go i (.ended (some (.failure 2001)))
    | .pvpInfo value => b.go i (.pvpDay value (b.infos r.uuid))
    | .pvpDay value info => b.go i (.globalInfo value info b.day)
    | .globalInfo value info day => b.go i (decided area r value info day b.world)
    | .savePvpInfo value info day world =>
      { b.go i (.savePvpDay value info day world) with
        infos := Function.update b.infos r.uuid (afterInfo info (todayOf area world)) }
    | .savePvpDay value info day world =>
      { b.go i (.saveGlobalInfo value info day world) with
        day := afterDay r.uuid info day (todayOf area world) }
    | .saveGlobalInfo value info day world =>
      { b.go i (.ended (answered area r value info day world)) with
        world := afterGlobal area info world (todayOf area world) }
    | .ended _ => b

/-- A request that stores next finds the entity as it read it. -/
def Fresh (b : Board) (i : Nat) : Prop :=
  ∀ r, requests[i]? = some r → match b.phases i with
    | .savePvpInfo _ info _ _ => b.infos r.uuid = info
    | .savePvpDay _ _ day _ => b.day = day
    | .saveGlobalInfo _ _ _ world => b.world = world
    | _ => True

end Board

/-- What a request in this phase has been answered, by key. -/
def Phase.read (r : Request) : Phase → List (String × Value)
  | .pvpDay _ info => [(pvpInfoKey area r.uuid, .pvpInfo info)]
  | .globalInfo _ info day => [(pvpInfoKey area r.uuid, .pvpInfo info), (pvpDayKey area, .pvpDay day)]
  | .savePvpInfo _ info day world | .savePvpDay _ info day world | .saveGlobalInfo _ info day world =>
    [(pvpInfoKey area r.uuid, .pvpInfo info), (pvpDayKey area, .pvpDay day), (globalInfoKey, .globalInfo world)]
  | _ => []

/-- A phase that stores is one the handler passed. -/
def Phase.Stands (r : Request) : Phase → Prop
  | .savePvpInfo value info day world | .savePvpDay value info day world | .saveGlobalInfo value info day world =>
    Passed area r value info day world
  | _ => True

/-- The store holds what the board shows. -/
structure Holds (store : Store Value) (b : Board) : Prop where
  sessions : ∀ r ∈ requests, store.sessions.get? r.sid = some ⟨area, r.uuid⟩
  bases : ∀ r ∈ requests, store.strings.get? (baseInfoKey area r.uuid) = base r.uuid
  infos : ∀ r ∈ requests, store.strings.get? (pvpInfoKey area r.uuid) = some (.pvpInfo (b.infos r.uuid))
  day : store.strings.get? (pvpDayKey area) = some (.pvpDay b.day)
  world : store.strings.get? globalInfoKey = some (.globalInfo b.world)

/-- The programs are in these phases. -/
structure Runs (pool : AgentPool) (phases : Nat → Phase) : Prop where
  length : pool.programs.length = requests.length
  programs : ∀ i r, requests[i]? = some r → pool.programs[i]? = some (code matching area r (phases i))
  stands : ∀ i r, requests[i]? = some r → (phases i).Stands area r
  reads : ∀ i r, requests[i]? = some r → ∀ entry ∈ (phases i).read area r,
    lastAnswer (pool.journalOf i) (.get entry.1) = some (.value (some entry.2))

/-- Different players have their records under different keys. -/
def DistinctKeys : Prop :=
  ∀ r ∈ requests, ∀ s ∈ requests, pvpInfoKey area r.uuid = pvpInfoKey area s.uuid → r.uuid = s.uuid

/-- One request makes a step, the others wait. -/
def move (pool : AgentPool) (i : Nat) : AgentPool := agentStep pool (i, false)

variable {matching area base requests} {pool : AgentPool} {b : Board} {i : Nat} {r : Request}

theorem Passed.today {value : Value} {info : PvpInfo} {day : PvpDay} {world : GlobalInfo} {handled : Handled}
    (ran : handled? area r value info day world = some handled) (passes : ErrCode.passes handled.code) :
    Passed area r value info day world := by
  refine ⟨handled, ran, passes, ?_⟩
  cases stands : world.pvpDay.get? area with
  | some today => rw [todayOf, stands, Option.getD_some]
  | none => simp [handled?, enrollPvpDay, seen, pvpInfo?, globalInfo?, stands] at ran

theorem decided_stands (value : Value) (info : PvpInfo) (day : PvpDay) (world : GlobalInfo) :
    (decided area r value info day world).Stands area r := by
  unfold decided
  split
  · rename_i handled ran
    split
    · rename_i passes
      exact Passed.today ran passes
    · trivial
  · trivial

theorem decided_read (value : Value) (info : PvpInfo) (day : PvpDay) (world : GlobalInfo) :
    ∀ entry ∈ (decided area r value info day world).read area r,
      entry ∈ (Phase.savePvpInfo value info day world).read area r := by
  unfold decided
  split
  · split
    · exact fun entry member => member
    · exact fun entry member => absurd member List.not_mem_nil
  · exact fun entry member => absurd member List.not_mem_nil

/-- A command of request `i` was carried out and brought it to `phase`. -/
theorem Runs.step {phases : Nat → Phase} (runs : Runs matching area requests pool phases)
    (asked : requests[i]? = some r) {command : Command Value}
    {next : Reply Value → Work (Option Response)} (found : pool.programs[i]? = some (.call command next))
    {phase : Phase} (goes : next (pool.store.exec command false).2 = code matching area r phase)
    (stands : phase.Stands area r)
    (reads : ∀ entry ∈ phase.read area r,
      lastAnswer (pool.journalOf i ++ [(command, (pool.store.exec command false).2)]) (.get entry.1) =
        some (.value (some entry.2))) :
    Runs matching area requests (move pool i) (Function.update phases i phase) := by
  constructor
  · have length : (move pool i).programs.length = (pool.programs.set i _).length :=
      congrArg (fun pool : AgentPool => pool.programs.length) (Pool.step_call _ _ _ found)
    rw [length, List.length_set]
    exact runs.length
  · intro j s other
    rw [move, agentStep, Pool.programs_call found]
    by_cases same : j = i
    · subst same
      rw [asked] at other
      cases other
      rw [if_pos rfl, Function.update_self, goes]
    · rw [if_neg same, Function.update_of_ne same]
      exact runs.programs j s other
  · intro j s other
    by_cases same : j = i
    · subst same
      rw [asked] at other
      cases other
      rw [Function.update_self]
      exact stands
    · rw [Function.update_of_ne same]
      exact runs.stands j s other
  · intro j s other
    rw [move, agentStep, Pool.journalOf_call found]
    by_cases same : j = i
    · subst same
      rw [asked] at other
      cases other
      rw [Function.update_self, if_pos rfl]
      exact reads
    · rw [Function.update_of_ne same, if_neg (Ne.symm same), List.append_nil]
      exact runs.reads j s other

/-- A read that found `value` under `key`. -/
theorem read_answers {key : String} {value : Value} {trace : List (Command Value × Reply Value)}
    {before after : List (String × Value)}
    (known : ∀ entry ∈ before, lastAnswer trace (.get entry.1) = some (.value (some entry.2)))
    (grown : ∀ entry ∈ after, entry ∈ before ∧ entry.1 ≠ key ∨ entry = (key, value)) :
    ∀ entry ∈ after, lastAnswer (trace ++ [(.read (.get key), .value (some value))]) (.get entry.1) =
      some (.value (some entry.2)) := by
  intro entry member
  rw [lastAnswer_read]
  rcases grown entry member with ⟨old, different⟩ | rfl
  · have other : Read.get key ≠ Read.get entry.1 := fun same => different (Read.get.inj same).symm
    rw [if_neg other]
    exact known entry old
  · rw [if_pos rfl]

/-- A request reads: the store stays, and the request goes on to `phase`. -/
theorem read_move (holds : Holds area base requests pool.store b) (runs : Runs matching area requests pool b.phases)
    (asked : requests[i]? = some r) {command : Read} {next : Reply Value → Work (Option Response)}
    (found : code matching area r (b.phases i) = .call (.read command) next) {reply : Reply Value}
    (answer : pool.store.answer (.read command) = reply) {phase : Phase} (goes : next reply = code matching area r phase)
    (stands : phase.Stands area r)
    (reads : ∀ entry ∈ phase.read area r,
      lastAnswer (pool.journalOf i ++ [(.read command, reply)]) (.get entry.1) = some (.value (some entry.2))) :
    Holds area base requests (move pool i).store (b.go i phase) ∧
      Runs matching area requests (move pool i) (b.go i phase).phases := by
  have calls : pool.programs[i]? = some (.call (.read command) next) := by rw [runs.programs i r asked, found]
  have replied : (pool.store.exec (.read command) false).2 = reply := by rw [Store.exec_read, answer]
  have store : (move pool i).store = pool.store := by rw [move, agentStep, Pool.store_call calls, Store.exec_read]
  refine ⟨?_, runs.step asked calls (replied ▸ goes) stands (replied ▸ reads)⟩
  rw [store]
  exact ⟨holds.sessions, holds.bases, holds.infos, holds.day, holds.world⟩

/-- A request stores `value` under `key` and goes on to `phase`. -/
theorem write_move (runs : Runs matching area requests pool b.phases)
    (asked : requests[i]? = some r) {key : String} {value : Value} {next : Reply Value → Work (Option Response)}
    (found : code matching area r (b.phases i) = .call (.write (.set key value)) next)
    {phase : Phase} (goes : next .ok = code matching area r phase) (stands : phase.Stands area r)
    (kept : ∀ entry ∈ phase.read area r, entry ∈ (b.phases i).read area r) :
    (move pool i).store = { pool.store with strings := pool.store.strings.set key value } ∧
      Runs matching area requests (move pool i) (Function.update b.phases i phase) := by
  have calls : pool.programs[i]? = some (.call (.write (.set key value)) next) := by rw [runs.programs i r asked, found]
  refine ⟨?_, runs.step asked calls goes stands ?_⟩
  · rw [move, agentStep, Pool.store_call calls, Store.exec_set]
  · intro entry member
    rw [lastAnswer_write]
    exact runs.reads i r asked entry (kept entry member)

/-- The pool moves as the board does. -/
theorem represents_move (distinct : DistinctKeys area requests) (holds : Holds area base requests pool.store b)
    (runs : Runs matching area requests pool b.phases) (i : Nat) :
    Holds area base requests (move pool i).store (b.move area base requests i) ∧
      Runs matching area requests (move pool i) (b.move area base requests i).phases := by
  cases asked : requests[i]? with
  | none =>
    have absent : pool.programs[i]? = none :=
      List.getElem?_eq_none (runs.length ▸ List.getElem?_eq_none_iff.mp asked)
    have still : move pool i = pool := Pool.step_absent absent
    simp only [still, Board.move, asked]
    exact ⟨holds, runs⟩
  | some r =>
    have member : r ∈ requests := List.mem_of_getElem? asked
    have known := runs.reads i r asked
    have standing := runs.stands i r asked
    simp only [Board.move, asked]
    cases phase : b.phases i with
    | session =>
      obtain ⟨next, step, goes⟩ := code_session matching area r
      exact read_move holds runs asked (phase ▸ step) (by simp only [Store.answer, holds.sessions r member]) goes
        trivial (by simp [Phase.read])
    | baseInfo =>
      obtain ⟨next, step, goes, absent⟩ := code_baseInfo matching area r
      have found : pool.store.answer (.read (.get (baseInfoKey area r.uuid))) = .value (base r.uuid) := by
        rw [Store.answer, holds.bases r member]
      cases value : base r.uuid with
      | none =>
        exact read_move holds runs asked (phase ▸ step) (found.trans (by rw [value])) absent trivial
          (by simp [Phase.read])
      | some value =>
        refine read_move holds runs asked (phase ▸ step) (found.trans (by rw [value])) ?_ ?_ ?_
        · rw [goes]
          split <;> rfl
        · split <;> trivial
        · split <;> simp [Phase.read]
    | pvpInfo value =>
      obtain ⟨next, step, goes⟩ := code_pvpInfo matching area r value (b.infos r.uuid)
      exact read_move holds runs asked (phase ▸ step) (by rw [Store.answer, holds.infos r member]) goes trivial
        (read_answers known (by simp [Phase.read]))
    | pvpDay value info =>
      rw [phase] at known
      obtain ⟨next, step, goes⟩ := code_pvpDay matching area r value info b.day
      exact read_move holds runs asked (phase ▸ step) (by rw [Store.answer, holds.day]) goes trivial
        (read_answers known (by simp [Phase.read, pvpInfoKey_ne_day]))
    | globalInfo value info day =>
      rw [phase] at known
      obtain ⟨next, step, goes⟩ := code_globalInfo matching area r value info day b.world
      refine read_move holds runs asked (phase ▸ step) (by rw [Store.answer, holds.world]) goes (decided_stands ..)
        (read_answers known fun entry later => ?_)
      have all := decided_read value info day b.world entry later
      simp only [Phase.read, List.mem_cons, List.not_mem_nil, or_false] at all ⊢
      rcases all with rfl | rfl | rfl
      · exact .inl ⟨.inl rfl, pvpInfoKey_ne_global⟩
      · exact .inl ⟨.inr rfl, pvpDayKey_ne_global⟩
      · exact .inr rfl
    | savePvpInfo value info day world =>
      rw [phase] at standing
      obtain ⟨handled, ran, passes, today⟩ := standing
      obtain ⟨⟨next, step, goes⟩, -, -⟩ := code_save matching today ran passes
      obtain ⟨store, runs'⟩ := write_move runs asked (phase ▸ step) goes ⟨handled, ran, passes, today⟩
        (by rw [phase]; exact fun entry member => member)
      refine ⟨?_, runs'⟩
      rw [store]
      constructor
      · exact holds.sessions
      · intro s there
        rw [Obj.get?_set_of_ne _ _ pvpInfoKey_ne_base.symm]
        exact holds.bases s there
      · intro s there
        dsimp only
        rw [Obj.get?_set]
        by_cases same : s.uuid = r.uuid
        · rw [same, if_pos rfl, Function.update_self]
        · rw [if_neg fun keys => same (distinct s there r member keys), Function.update_of_ne same]
          exact holds.infos s there
      · exact (Obj.get?_set_of_ne _ _ pvpInfoKey_ne_day.symm).trans holds.day
      · exact (Obj.get?_set_of_ne _ _ pvpInfoKey_ne_global.symm).trans holds.world
    | savePvpDay value info day world =>
      rw [phase] at standing
      obtain ⟨handled, ran, passes, today⟩ := standing
      obtain ⟨-, ⟨next, step, goes⟩, -⟩ := code_save matching today ran passes
      obtain ⟨store, runs'⟩ := write_move runs asked (phase ▸ step) goes ⟨handled, ran, passes, today⟩
        (by rw [phase]; exact fun entry member => member)
      refine ⟨?_, runs'⟩
      rw [store]
      constructor
      · exact holds.sessions
      · exact fun s there => (Obj.get?_set_of_ne _ _ pvpDayKey_ne_base.symm).trans (holds.bases s there)
      · exact fun s there => (Obj.get?_set_of_ne _ _ pvpInfoKey_ne_day).trans (holds.infos s there)
      · exact Obj.get?_set_self _ _ _
      · exact (Obj.get?_set_of_ne _ _ pvpDayKey_ne_global.symm).trans holds.world
    | saveGlobalInfo value info day world =>
      rw [phase] at standing
      obtain ⟨handled, ran, passes, today⟩ := standing
      obtain ⟨-, -, ⟨next, step, goes⟩⟩ := code_save matching today ran passes
      obtain ⟨store, runs'⟩ := write_move runs asked (phase ▸ step) goes trivial
        (fun entry member => absurd member List.not_mem_nil)
      refine ⟨?_, runs'⟩
      rw [store]
      constructor
      · exact holds.sessions
      · exact fun s there => (Obj.get?_set_of_ne _ _ globalInfoKey_ne_base.symm).trans (holds.bases s there)
      · exact fun s there => (Obj.get?_set_of_ne _ _ pvpInfoKey_ne_global).trans (holds.infos s there)
      · exact (Obj.get?_set_of_ne _ _ pvpDayKey_ne_global).trans holds.day
      · exact Obj.get?_set_self _ _ _
    | ended response =>
      have isOver : pool.programs[i]? = some (.done response) := by rw [runs.programs i r asked, phase, code]
      have still : move pool i = pool := Pool.step_ended ⟨response, isOver⟩
      rw [still]
      exact ⟨holds, runs⟩

/-- A fresh step of the pool is one of the board. -/
theorem fresh_board (holds : Holds area base requests pool.store b) (runs : Runs matching area requests pool b.phases)
    (fresh : Redis.Fresh pool i) : b.Fresh requests i := by
  intro r asked
  have program := runs.programs i r asked
  have known := runs.reads i r asked
  have standing := runs.stands i r asked
  have member : r ∈ requests := List.mem_of_getElem? asked
  cases phase : b.phases i with
  | savePvpInfo value info day world =>
    rw [phase] at program known standing
    obtain ⟨handled, ran, passes, today⟩ := standing
    obtain ⟨⟨next, step, -⟩, -, -⟩ := code_save matching today ran passes
    have same := fresh _ next _ (program.trans (congrArg some step)) rfl
    have read := known _ (List.mem_cons_self)
    rw [read, Store.answer, holds.infos r member] at same
    exact (Value.pvpInfo.inj (Option.some.inj (Reply.value.inj (Option.some.inj same)))).symm
  | savePvpDay value info day world =>
    rw [phase] at program known standing
    obtain ⟨handled, ran, passes, today⟩ := standing
    obtain ⟨-, ⟨next, step, -⟩, -⟩ := code_save matching today ran passes
    have same := fresh _ next _ (program.trans (congrArg some step)) rfl
    have read := known _ (List.mem_cons_of_mem _ List.mem_cons_self)
    rw [read, Store.answer, holds.day] at same
    exact (Value.pvpDay.inj (Option.some.inj (Reply.value.inj (Option.some.inj same)))).symm
  | saveGlobalInfo value info day world =>
    rw [phase] at program known standing
    obtain ⟨handled, ran, passes, today⟩ := standing
    obtain ⟨-, -, ⟨next, step, -⟩⟩ := code_save matching today ran passes
    have same := fresh _ next _ (program.trans (congrArg some step)) rfl
    have read := known _ (List.mem_cons_of_mem _ (List.mem_cons_of_mem _ List.mem_cons_self))
    rw [read, Store.answer, holds.world] at same
    exact (Value.globalInfo.inj (Option.some.inj (Reply.value.inj (Option.some.inj same)))).symm
  | _ => trivial

/-- A program that stores `value` under `key`, as it read it, makes a fresh step. -/
theorem fresh_of_write {key : String} {value old : Value} {next : Reply Value → Work (Option Response)}
    (program : pool.programs[i]? = some (.call (.write (.set key value)) next))
    (read : lastAnswer (pool.journalOf i) (.get key) = some (.value (some old)))
    (found : pool.store.strings.get? key = some old) : Redis.Fresh pool i := by
  intro write next' command calls replaces
  rw [program] at calls
  cases calls
  cases replaces
  rw [read, Store.answer, found]

/-- A fresh step of the board is one of the pool. -/
theorem fresh_pool (holds : Holds area base requests pool.store b) (runs : Runs matching area requests pool b.phases)
    (fresh : b.Fresh requests i) : Redis.Fresh pool i := by
  have reads : ∀ {command : Read} {next : Reply Value → Work (Option Response)},
      pool.programs[i]? = some (.call (.read command) next) → Redis.Fresh pool i := by
    intro command next program write next' read calls
    rw [program] at calls
    cases calls
  cases asked : requests[i]? with
  | none =>
    intro write next read calls
    have absent : pool.programs[i]? = none :=
      List.getElem?_eq_none (runs.length ▸ List.getElem?_eq_none_iff.mp asked)
    rw [absent] at calls
    cases calls
  | some r =>
    have program := runs.programs i r asked
    have known := runs.reads i r asked
    have standing := runs.stands i r asked
    have finds := fresh r asked
    have member : r ∈ requests := List.mem_of_getElem? asked
    cases phase : b.phases i with
    | session =>
      obtain ⟨next, step, -⟩ := code_session matching area r
      exact reads (program.trans (by rw [phase, step]))
    | baseInfo =>
      obtain ⟨next, step, -⟩ := code_baseInfo matching area r
      exact reads (program.trans (by rw [phase, step]))
    | pvpInfo value =>
      obtain ⟨next, step, -⟩ := code_pvpInfo matching area r value ⟨0, 0, 0⟩
      exact reads (program.trans (by rw [phase, step]))
    | pvpDay value info =>
      obtain ⟨next, step, -⟩ := code_pvpDay matching area r value info ⟨"", []⟩
      exact reads (program.trans (by rw [phase, step]))
    | globalInfo value info day =>
      obtain ⟨next, step, -⟩ := code_globalInfo matching area r value info day ⟨∅⟩
      exact reads (program.trans (by rw [phase, step]))
    | savePvpInfo value info day world =>
      rw [phase] at program known standing finds
      obtain ⟨handled, ran, passes, today⟩ := standing
      obtain ⟨⟨next, step, -⟩, -, -⟩ := code_save matching today ran passes
      exact fresh_of_write (program.trans (congrArg some step)) (known _ List.mem_cons_self)
        (finds ▸ holds.infos r member)
    | savePvpDay value info day world =>
      rw [phase] at program known standing finds
      obtain ⟨handled, ran, passes, today⟩ := standing
      obtain ⟨-, ⟨next, step, -⟩, -⟩ := code_save matching today ran passes
      exact fresh_of_write (program.trans (congrArg some step)) (known _ (List.mem_cons_of_mem _ List.mem_cons_self))
        (finds ▸ holds.day)
    | saveGlobalInfo value info day world =>
      rw [phase] at program known standing finds
      obtain ⟨handled, ran, passes, today⟩ := standing
      obtain ⟨-, -, ⟨next, step, -⟩⟩ := code_save matching today ran passes
      exact fresh_of_write (program.trans (congrArg some step))
        (known _ (List.mem_cons_of_mem _ (List.mem_cons_of_mem _ List.mem_cons_self))) (finds ▸ holds.world)
    | ended response =>
      intro write next read calls
      rw [program, phase, code] at calls
      cases calls

/-! ### One request at a time -/

namespace Board

/-- What the request has read and not yet stored is still so. -/
def Current (b : Board) (r : Request) : Phase → Prop
  | .pvpDay _ info => b.infos r.uuid = info
  | .globalInfo _ info day => b.infos r.uuid = info ∧ b.day = day
  | .savePvpInfo _ info day world => b.infos r.uuid = info ∧ b.day = day ∧ b.world = world
  | .savePvpDay _ _ day world => b.day = day ∧ b.world = world
  | .saveGlobalInfo _ _ _ world => b.world = world
  | _ => True

theorem Current.fresh (asked : requests[i]? = some r) (current : b.Current r (b.phases i)) : b.Fresh requests i := by
  intro s other
  cases asked.symm.trans other
  cases phase : b.phases i with
  | savePvpInfo => rw [phase] at current; exact current.1
  | savePvpDay => rw [phase] at current; exact current.1
  | saveGlobalInfo => rw [phase] at current; exact current
  | _ => trivial

theorem Current.move (asked : requests[i]? = some r) (current : b.Current r (b.phases i)) :
    (b.move area base requests i).Current r ((b.move area base requests i).phases i) := by
  simp only [Board.move, asked]
  cases phase : b.phases i with
  | session => simp [go, Current]
  | baseInfo =>
    cases base r.uuid with
    | none => simp [go, Current]
    | some value =>
      dsimp only
      split <;> simp [go, Current]
  | pvpInfo value => simp [go, Current]
  | pvpDay value info =>
    rw [phase] at current
    simp only [go, Function.update_self]
    exact ⟨current, rfl⟩
  | globalInfo value info day =>
    rw [phase] at current
    simp only [go, Function.update_self, decided]
    split
    · split
      · exact ⟨current.1, current.2, rfl⟩
      · trivial
    · trivial
  | savePvpInfo value info day world =>
    rw [phase] at current
    simp only [go, Function.update_self]
    exact current.2
  | savePvpDay value info day world =>
    rw [phase] at current
    simp only [go, Function.update_self]
    exact current.2
  | saveGlobalInfo value info day world => simp [go, Current]
  | ended response =>
    rw [phase] at current
    simp only [phase]
    exact current

theorem phases_move {j : Nat} (other : j ≠ i) : (b.move area base requests i).phases j = b.phases j := by
  unfold Board.move
  cases requests[i]? with
  | none => rfl
  | some r =>
    cases b.phases i with
    | baseInfo =>
      dsimp only
      cases base r.uuid with
      | none => exact Function.update_of_ne other _ _
      | some value => exact Function.update_of_ne other _ _
    | ended response => rfl
    | _ => exact Function.update_of_ne other _ _

/-- A request that has the store for itself stays fresh, and the others wait where they are. -/
theorem Current.alone_fresh (asked : requests[i]? = some r) (current : b.Current r (b.phases i)) (n : Nat) :
    Along (Board.move area base requests) (Board.Fresh requests) b (List.replicate n i) ∧
      ∀ j, j ≠ i → (run (Board.move area base requests) b (List.replicate n i)).phases j = b.phases j := by
  induction n generalizing b with
  | zero => exact ⟨trivial, fun _ _ => rfl⟩
  | succ n ih =>
    obtain ⟨along, wait⟩ := ih (current.move asked)
    exact ⟨⟨current.fresh asked, along⟩, fun j other => (wait j other).trans (phases_move other)⟩

end Board

end

end Tinygame.Pvp
