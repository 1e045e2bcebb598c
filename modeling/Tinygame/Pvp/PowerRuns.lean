import Mathlib
import Tinygame.Pvp.PowerLedger

/-!
# The power index after a run

The pool is watched for the entries that full ranges push out. When an orderly run has come to rest,
every player that was set is listed once, in the range of its power, unless it was pushed out of it,
and everybody else is listed as before.
-/

namespace Tinygame.PowerIndex
open Redis

section
variable (matching : BaseInfo → Query (Option Value)) (getPlayerPower : BaseInfo → Option Value → Option Value → Nat)
  (o : Opening) (store : Store Value) (requests : List Request)

/-- How often the player is listed in the range. -/
def listed (store : Store Value) (u : UserArea) (field : String) : Nat := (entries (store.hget powerKey field)).count u

/-- The store before the requests come in. -/
structure Opens : Prop where
  sessions : ∀ r ∈ requests, store.sessions.get? r.sid = some ⟨r.area, r.uuid⟩
  bases : ∀ r ∈ requests, store.strings.get? (baseInfoKey r.player) = some (.baseInfo (o.bases r.player))
  listed : ∀ u field, listed store u field = o.listed u field
  distinct : DistinctKeys requests
  eligible : o.Eligible requests

/-- The requests as they come in. -/
def incoming : AgentPool :=
  Pool.init store (requests.map fun r => bindFunCallback matching (setMaxPower getPlayerPower) "setMaxPower" r.inArgs r.sid)

/-! ### Evictions -/

/-- The range a program is about to write back. -/
def writing (pool : AgentPool) (j : Nat) : Option String :=
  match pool.programs[j]? with
  | some (.call (.write (.hset key field _)) _) => if key = powerKey then some field else none
  | _ => none

/-- The request that program `j` is, or whose removal it is. -/
def owner (pool : AgentPool) (j : Nat) : Option Request :=
  match requests[j]? with
  | some r => some r
  | none => (pool.jobs[j - requests.length]?).bind fun job => requests[job.1]?

/-- The evicted entries after the next step of program `j`: a player coming in may push one out, and
a player coming in or leaving has none in the range. -/
def evict (pool : AgentPool) (j : Nat) (evicted : List (UserArea × String)) : List (UserArea × String) :=
  match writing pool j, owner requests pool j with
  | some field, some r =>
    if j < requests.length then entered r.player field (pool.store.hget powerKey field) evicted
    else gone r.player field evicted
  | _, _ => evicted

/-- One program makes a step, and the evicted entries are kept. -/
def watch (state : AgentPool × List (UserArea × String)) (j : Nat) : AgentPool × List (UserArea × String) :=
  (move state.1 j, evict requests state.1 j state.2)

def Board.watch (stock : Stock) (state : Board × List (UserArea × String)) (j : Nat) :
    Board × List (UserArea × String) :=
  (state.1.move getPlayerPower stock requests j, state.1.evict getPlayerPower requests j state.2)

/-- A request has set the power of the player. -/
def WasSet (pool : AgentPool) (u : UserArea) : Prop :=
  ∃ (i : Nat) (r : Request) (response : Response), requests[i]? = some r ∧ r.player = u ∧
    pool.programs[i]? = some (.done (some response)) ∧ ErrCode.passes response.retCode

/-- The index when all have completed. -/
def Consistent (state : AgentPool × List (UserArea × String)) : Prop :=
  state.1.Quiet →
    (∀ r ∈ requests, WasSet requests state.1 r.player → ∃ base,
      state.1.store.strings.get? (baseInfoKey r.player) = some (.baseInfo base) ∧
        ∀ field, listed state.1.store r.player field =
          if (r.player, field) ∈ state.2 then 0 else if field = range base.power then 1 else 0) ∧
    ∀ u, ¬ WasSet requests state.1 u → ∀ field, listed state.1.store u field =
      if (u, field) ∈ state.2 then 0 else o.listed u field

variable {matching getPlayerPower o store requests} {stock : Stock} {pool : AgentPool} {b : Board}
  {evicted : List (UserArea × String)} {i j : Nat} {r : Request}

theorem evict_idle (idle : writing pool j = none) : evict requests pool j evicted = evicted := by
  rw [evict, idle]

theorem writing_hset {field : String} {value : Value} {next : Reply Value → Work (Option Response)}
    (found : pool.programs[j]? = some (.call (.write (.hset powerKey field value)) next)) :
    writing pool j = some field := by
  simp [writing, found]

/-- The board loses the same entries. -/
theorem evict_board (holds : Holds stock requests pool.store b)
    (runs : Runs matching getPlayerPower requests pool b) (j : Nat) (evicted : List (UserArea × String)) :
    evict requests pool j evicted = b.evict getPlayerPower requests j evicted := by
  unfold Board.evict
  cases asked : requests[j]? with
  | some r =>
    have short : j < requests.length := (List.getElem?_eq_some_iff.mp asked).1
    have program := runs.mains j r asked
    dsimp only
    cases phase : b.phases j <;> rw [phase] at program
    case session =>
      obtain ⟨_, step, -⟩ := code_session matching getPlayerPower r
      exact evict_idle (by simp [writing, program, step])
    case baseInfo =>
      obtain ⟨_, step, -⟩ := code_baseInfo matching getPlayerPower r (b.bases r.player)
      exact evict_idle (by simp [writing, program, step])
    case bagList base =>
      obtain ⟨_, step, -⟩ := code_bagList matching getPlayerPower r base
      exact evict_idle (by simp [writing, program, step])
    case team base bag =>
      obtain ⟨_, step, -⟩ := code_team matching getPlayerPower r base bag
      exact evict_idle (by simp [writing, program, step])
    case start base bag team =>
      exact evict_idle (by simp [writing, program, code_start])
    case saveBase base bag team =>
      obtain ⟨_, step, -⟩ := code_saveBase matching getPlayerPower r base bag team
      exact evict_idle (by simp [writing, program, step])
    case find base bag team =>
      obtain ⟨_, step, -⟩ := code_find matching getPlayerPower r base bag team
      exact evict_idle (by simp [writing, program, step])
    case save base bag team data =>
      obtain ⟨_, step, -⟩ := code_save matching getPlayerPower r base bag team data
      have field := writing_hset (program.trans (congrArg some step))
      simp only [evict, field, owner, asked, if_pos short, holds.buckets]
    case ended response => exact evict_idle (by simp [writing, program, code])
  | none =>
    obtain ⟨k, rfl⟩ := Nat.exists_eq_add_of_le (List.getElem?_eq_none_iff.mp asked)
    have outside : ¬ requests.length + k < requests.length := by omega
    rw [Nat.add_sub_cancel_left]
    cases job : b.jobs[k]? with
    | none =>
      have beyond := List.getElem?_eq_none_iff.mp job
      have absent : pool.programs[requests.length + k]? = none :=
        List.getElem?_eq_none (by rw [runs.length]; omega)
      exact evict_idle (by simp [writing, absent])
    | some i =>
      have program := runs.sides k i job
      have owned : owner requests pool (requests.length + k) = requests[i]? := by
        rw [← runs.jobs, List.getElem?_map, Option.map_eq_some_iff] at job
        obtain ⟨entry, found, rfl⟩ := job
        simp [owner, found]
      dsimp only
      cases removal : b.removals i <;> rw [removal] at program
      case unstarted => rw [evict_idle (by simp [writing, program, sideCode])]; cases requests[i]? <;> rfl
      case ended => rw [evict_idle (by simp [writing, program, sideCode])]; cases requests[i]? <;> rfl
      case find base =>
        obtain ⟨_, step, -⟩ := side_find base
        rw [evict_idle (by simp [writing, program, step])]
        cases requests[i]? <;> rfl
      case save base data =>
        obtain ⟨_, step, -⟩ := side_save base data
        have field := writing_hset (program.trans (congrArg some step))
        rw [evict, field, owned]
        cases requests[i]? with
        | none => rfl
        | some r => simp only [if_neg outside]

/-! ### Runs -/

/-- What the requests find in the store. -/
def stockOf (store : Store Value) : Stock :=
  ⟨fun u => store.strings.get? (bagListKey u), fun u => store.hash (heroKey u)⟩

/-- Where the board stands when the requests come in. -/
def Opening.board (o : Opening) (store : Store Value) : Board :=
  ⟨o.bases, store.hget powerKey, fun _ => .session, [], fun _ => .unstarted⟩

theorem incoming_sound : (o.board store).Sound where
  once := List.nodup_nil
  started _ := iff_of_false List.not_mem_nil fun started => started rfl
  fits _ := rfl

theorem incoming_holds (opens : Opens o store requests) :
    Holds (stockOf store) requests (incoming matching getPlayerPower store requests).store (o.board store) :=
  ⟨opens.sessions, opens.bases, fun _ _ => rfl, fun _ _ => rfl, fun _ => rfl⟩

theorem incoming_runs :
    Runs matching getPlayerPower requests (incoming matching getPlayerPower store requests) (o.board store) where
  length := by simp [incoming, Pool.init, Opening.board]
  jobs := rfl
  mains i r asked := by simp [incoming, Pool.init, asked, Opening.board, code]
  sides k i job := by cases job
  reads i r asked entry member := absurd member List.not_mem_nil
  past i r asked := iff_of_false Bool.false_ne_true id
  sideReads k i job := by cases job

theorem incoming_tidy (opens : Opens o store requests) : Tidy getPlayerPower o requests (o.board store) [] := by
  have owes : ∀ u field, owed (store.hget powerKey) [] u field = o.listed u field := by
    intro u field
    rw [← opens.listed]
    simp [owed, PowerIndex.listed]
  constructor
  · exact opens.eligible.named
  · exact fun u field => Nat.le_trans (Nat.le_of_eq (owes u field)) (opens.eligible.once u field)
  · exact fun i j r s _ _ _ busy => busy.1.elim
  · refine fun u idle => ⟨fun touched => ?_, fun _ => ⟨rfl, owes u⟩⟩
    obtain ⟨i, r, -, -, started⟩ := touched
    exact absurd rfl started
  · exact fun i r _ busy => busy.1.elim

/-- Along an orderly run the board is there, and its ledger is tidy. -/
theorem tidy_run (distinct : DistinctKeys requests) (eligible : o.Eligible requests) (sound : b.Sound)
    (valid : ∀ i ∈ b.jobs, i < requests.length) (holds : Holds stock requests pool.store b)
    (runs : Runs matching getPlayerPower requests pool b) (tidy : Tidy getPlayerPower o requests b evicted) {events : List Nat}
    (along : Along move (Orderly requests) pool events) :
    ∃ b', b'.Sound ∧ Holds stock requests (run (watch requests) (pool, evicted) events).1.store b' ∧
      Runs matching getPlayerPower requests (run (watch requests) (pool, evicted) events).1 b' ∧
      Tidy getPlayerPower o requests b' (run (watch requests) (pool, evicted) events).2 := by
  induction events generalizing pool b evicted with
  | nil => exact ⟨b, sound, holds, runs, tidy⟩
  | cons j rest ih =>
    obtain ⟨first, later⟩ := along
    obtain ⟨holds', runs'⟩ := represents_move distinct sound holds runs j
    have tidy' := tidy_move stock eligible sound valid tidy (orderly_board sound holds runs first)
    rw [run_cons, watch, evict_board holds runs j evicted]
    exact ih (sound_move sound j) (valid_move valid j) holds' runs' tidy' later

/-- The players that were set are those whose removal has started. -/
theorem wasSet_iff (sound : b.Sound) (runs : Runs matching getPlayerPower requests pool b) (quiet : pool.Quiet)
    (u : UserArea) : WasSet requests pool u ↔ b.Touched requests u := by
  constructor
  · rintro ⟨i, r, response, asked, player, ended, passes⟩
    have last := code_done (Option.some.inj ((runs.mains i r asked).symm.trans ended))
    have fits := sound.fits i
    rw [last] at fits
    exact ⟨i, r, asked, player, fits.mpr ⟨response, rfl, passes⟩⟩
  · rintro ⟨i, r, asked, player, started⟩
    have program := runs.mains i r asked
    obtain ⟨result, ended⟩ := quiet.ended program
    have last := code_done (Option.some.inj (program.symm.trans ended))
    have fits := sound.fits i
    rw [last] at fits
    obtain ⟨response, rfl, passes⟩ := fits.mp started
    exact ⟨i, r, response, asked, player, ended, passes⟩

/-- When the pool is quiet nobody is busy. -/
theorem idle_of_quiet (sound : b.Sound) (runs : Runs matching getPlayerPower requests pool b) (quiet : pool.Quiet)
    (asked : requests[i]? = some r) : ¬ b.Busy i := by
  refine fun busy => busy.2 ⟨(ended_iff runs asked).mp (quiet.ended (runs.mains i r asked)), ?_⟩
  by_cases unstarted : b.removals i = .unstarted
  · rw [unstarted]
    trivial
  · obtain ⟨k, job⟩ := List.mem_iff_getElem?.mp ((sound.started i).mpr unstarted)
    exact (side_ended_iff runs job).mp (quiet.ended (runs.sides k i job))

/-- **The power index.** In a run of requests that set powers in order, the index is consistent. -/
theorem power_indexed (opens : Opens o store requests) {events : List Nat}
    (along : Along move (Orderly requests) (incoming matching getPlayerPower store requests) events) :
    Consistent o requests (run (watch requests) (incoming matching getPlayerPower store requests, []) events) := by
  obtain ⟨b, sound, holds, runs, tidy⟩ := tidy_run opens.distinct opens.eligible incoming_sound
    (fun i job => absurd job List.not_mem_nil) (incoming_holds opens) incoming_runs (incoming_tidy opens) along
  intro quiet
  have rest : ∀ u, Rest o u (b.Touched requests u) (b.bases u) (owed b.buckets _ u) :=
    fun u => tidy.rest u fun i r asked _ => idle_of_quiet sound runs quiet asked
  have counts : ∀ u field, listed (run (watch requests) (incoming matching getPlayerPower store requests, []) events).1.store
      u field = (entries (b.buckets field)).count u := by
    intro u field
    rw [PowerIndex.listed, holds.buckets]
  have settled : ∀ u field n, n ≤ 1 → owed b.buckets
      (run (watch requests) (incoming matching getPlayerPower store requests, []) events).2 u field = n →
      (entries (b.buckets field)).count u =
        if (u, field) ∈ (run (watch requests) (incoming matching getPlayerPower store requests, []) events).2 then 0 else n := by
    intro u field n small owes
    unfold owed at owes
    split at owes <;> rename_i out
    · rw [if_pos out]
      omega
    · rw [if_neg out]
      omega
  constructor
  · intro r there set
    have placed := (rest r.player).placed ((wasSet_iff sound runs quiet _).mp set)
    refine ⟨b.bases r.player, holds.bases r there, fun field => ?_⟩
    rw [counts]
    exact settled _ _ _ (by split <;> omega) (placed field)
  · intro u unset field
    have kept := ((rest u).kept (mt (wasSet_iff sound runs quiet u).mpr unset)).2 field
    rw [counts]
    exact settled _ _ _ (opens.eligible.once u field) kept

/-- An orderly run of the board is one of the pool. -/
theorem along_orderly (distinct : DistinctKeys requests) (sound : b.Sound) (holds : Holds stock requests pool.store b)
    (runs : Runs matching getPlayerPower requests pool b) {events : List Nat}
    (along : Along (Board.move getPlayerPower stock requests) (Board.Orderly getPlayerPower requests) b events) :
    Along move (Orderly requests) pool events := by
  induction events generalizing pool b with
  | nil => trivial
  | cons j rest ih =>
    obtain ⟨holds', runs'⟩ := represents_move distinct sound holds runs j
    exact ⟨orderly_pool sound holds runs along.1, ih (sound_move sound j) holds' runs' along.2⟩

/-- A run of the watched pool is one of the watched board. -/
theorem represents_run (distinct : DistinctKeys requests) (sound : b.Sound) (holds : Holds stock requests pool.store b)
    (runs : Runs matching getPlayerPower requests pool b) (evicted : List (UserArea × String)) (events : List Nat) :
    let state := run (watch requests) (pool, evicted) events
    let after := run (Board.watch getPlayerPower requests stock) (b, evicted) events
    after.1.Sound ∧ Holds stock requests state.1.store after.1 ∧ Runs matching getPlayerPower requests state.1 after.1 ∧
      state.2 = after.2 := by
  induction events generalizing pool b evicted with
  | nil => exact ⟨sound, holds, runs, rfl⟩
  | cons j rest ih =>
    obtain ⟨holds', runs'⟩ := represents_move distinct sound holds runs j
    simp only [run_cons]
    rw [watch, evict_board holds runs j evicted]
    exact ih (sound_move sound j) holds' runs' _

theorem quiet_of_ended (runs : Runs matching getPlayerPower requests pool b)
    (isOver : ∀ i r, requests[i]? = some r → b.Over i) (valid : ∀ i ∈ b.jobs, i < requests.length) : pool.Quiet := by
  intro program member
  obtain ⟨j, running⟩ := List.mem_iff_getElem?.mp member
  cases asked : requests[j]? with
  | some r =>
    obtain ⟨result, ended⟩ := (ended_iff runs asked).mpr (isOver j r asked).1
    exact ⟨result, Option.some.inj (running.symm.trans ended)⟩
  | none =>
    obtain ⟨k, rfl⟩ := Nat.exists_eq_add_of_le (List.getElem?_eq_none_iff.mp asked)
    have short := (List.getElem?_eq_some_iff.mp running).1
    rw [runs.length] at short
    have job : b.jobs[k]? = some b.jobs[k] := List.getElem?_eq_getElem (by omega)
    have asked' := List.getElem?_eq_getElem (valid _ (List.mem_of_getElem? job))
    obtain ⟨result, ended⟩ := (side_ended_iff runs job).mpr (isOver _ _ asked').2
    exact ⟨result, Option.some.inj (running.symm.trans ended)⟩

end

/-! ### Two players -/

namespace TwoPlayers

def ann : UserArea := ⟨"1", "ann"⟩
def bob : UserArea := ⟨"1", "bob"⟩

def requests : List Request := [⟨"s0", "1", "ann", ∅⟩, ⟨"s1", "1", "bob", ∅⟩]

/-- Both players have come to a power of 150. -/
def power : BaseInfo → Option Value → Option Value → Nat := fun _ _ _ => 150

def base (u : UserArea) : BaseInfo := ⟨u.area, u.uuid, 50, [⟨7, 1⟩]⟩

/-- Both are listed in the lowest range. -/
def opening : Opening := ⟨base, fun u field => if field = "0" then [ann, bob].count u else 0⟩

def store : Store Value where
  sessions := (Obj.set ∅ "s0" ⟨"1", "ann"⟩).set "s1" ⟨"1", "bob"⟩
  strings := (((Obj.set ∅ (baseInfoKey ann) (.baseInfo (base ann))).set (baseInfoKey bob) (.baseInfo (base bob))).set
    (bagListKey ann) (.hash [])).set (bagListKey bob) (.hash [])
  hashes := Obj.set ∅ powerKey (Obj.set ∅ "0" (.power ⟨0, [ann, bob]⟩))

theorem players {P : Request → Prop} (first : P ⟨"s0", "1", "ann", ∅⟩) (second : P ⟨"s1", "1", "bob", ∅⟩) :
    ∀ r ∈ requests, P r := by
  intro r there
  simp only [requests, List.mem_cons, List.not_mem_nil, or_false] at there
  rcases there with rfl | rfl
  · exact first
  · exact second

theorem opens : Opens opening store requests where
  sessions := players rfl rfl
  bases := players rfl rfl
  listed u field := by
    have found : store.hget powerKey field = if field = "0" then some (.power ⟨0, [ann, bob]⟩) else none := by
      unfold Store.hget Store.hash store
      rw [Obj.get?_set_self, Option.getD_some, Obj.get?_set]
      rfl
    rw [PowerIndex.listed, found]
    by_cases there : field = "0" <;> simp [opening, there, entries]
  distinct := players (players (fun _ => rfl) (by decide)) (players (by decide) (fun _ => rfl))
  eligible := by
    refine ⟨players rfl rfl, fun u field => ?_, players ?_ ?_⟩
    · dsimp only [opening]
      split
      · exact List.nodup_iff_count_le_one.mp (by decide) u
      · exact Nat.zero_le 1
    all_goals exact fun field different => if_neg different

/-- Nobody looks for opponents here. -/
def matching : BaseInfo → Query (Option Value) := fun _ => .done none

/-- The players one after the other, each leaving the old range before it enters the new one. -/
def inTurn : List Nat := [0, 0, 0, 0, 0, 2, 2, 0, 0, 0, 1, 1, 1, 1, 1, 3, 3, 1, 1, 1]

/-- Both players read the new range before either writes it back. -/
def crossed : List Nat := [0, 0, 0, 0, 0, 2, 2, 1, 1, 1, 1, 1, 3, 3, 0, 0, 1, 1, 0, 1]

theorem alone {b : Board} {u : UserArea} (first : ann = u → (b.phases 0).Past → b.Over 0)
    (second : bob = u → (b.phases 1).Past → b.Over 1) :
    ∀ i s, requests[i]? = some s → s.player = u → (b.phases i).Past → b.Over i := by
  intro i s asked same past
  match i, asked with
  | 0, asked => cases asked; exact first same past
  | 1, asked => cases asked; exact second same past

theorem inTurn_orderly : Along move (Orderly requests) (incoming matching power store requests) inTurn := by
  refine along_orderly opens.distinct incoming_sound (incoming_holds opens) incoming_runs ?_
  have annFirst : ∀ b : Board, b.phases 0 = .baseInfo → b.phases 1 = .session →
      ∀ i s, requests[i]? = some s → s.player = ann → (b.phases i).Past → b.Over i :=
    fun b here there => alone (fun _ past => (here ▸ past : Phase.Past .baseInfo).elim)
      fun same => absurd same (by decide)
  have bobThen : ∀ b : Board, b.phases 1 = .baseInfo →
      ∀ i s, requests[i]? = some s → s.player = bob → (b.phases i).Past → b.Over i :=
    fun b here => alone (fun same => absurd same (by decide)) fun _ past => (here ▸ past : Phase.Past .baseInfo).elim
  exact ⟨trivial, annFirst _ rfl rfl, trivial, trivial, trivial, trivial, rfl, rfl, trivial, ⟨rfl, fun _ => trivial⟩,
    trivial, bobThen _ rfl, trivial, trivial, trivial, trivial, rfl, rfl, trivial, ⟨rfl, fun _ => trivial⟩, trivial⟩

/-- Two players set their powers one after the other and both are found in their new range. -/
theorem power_indexed_in_turn :
    Consistent opening requests (run (watch requests) (incoming matching power store requests, []) inTurn) :=
  power_indexed opens inTurn_orderly

theorem crossed_ends :
    let after := run (Board.watch power requests (stockOf store)) (opening.board store, []) crossed
    after.1.buckets "1" = some (.power ⟨1, [bob]⟩) ∧ after.1.bases ann = { base ann with power := 150 } ∧
      after.1.phases 0 = .ended (some ⟨ErrCode.success, [("maxPower", .num 150)]⟩) ∧ after.1.jobs = [0, 1] ∧
      after.1.Over 0 ∧ after.1.Over 1 ∧ after.2 = [] :=
  ⟨rfl, rfl, rfl, rfl, ⟨trivial, trivial⟩, ⟨trivial, trivial⟩, rfl⟩

/-- Both players are told their new power, and one of them is listed nowhere. -/
theorem power_dropped : Opens opening store requests ∧
    ¬ Consistent opening requests (run (watch requests) (incoming matching power store requests, []) crossed) := by
  refine ⟨opens, fun consistent => ?_⟩
  obtain ⟨sound, holds, runs, evicts⟩ := represents_run opens.distinct incoming_sound
    (@incoming_holds matching power opening store requests opens) incoming_runs [] crossed
  obtain ⟨bucket, current, told, jobs, first, second, out⟩ := crossed_ends
  generalize run (Board.watch power requests (stockOf store)) (opening.board store, []) crossed = after
    at sound holds runs evicts bucket current told jobs first second out
  generalize run (watch requests) (incoming matching power store requests, []) crossed = state
    at consistent holds runs evicts
  have quiet : state.1.Quiet := by
    refine quiet_of_ended runs (fun i r asked => ?_) (by rw [jobs]; decide)
    match i, asked with
    | 0, _ => exact first
    | 1, _ => exact second
  have set : WasSet requests state.1 ann := by
    have program := runs.mains 0 ⟨"s0", "1", "ann", ∅⟩ rfl
    rw [told, code] at program
    exact ⟨0, _, _, rfl, rfl, program, .inl rfl⟩
  obtain ⟨found, stored, placed⟩ := (consistent quiet).1 ⟨"s0", "1", "ann", ∅⟩ List.mem_cons_self set
  have same : found = { base ann with power := 150 } := by
    have shown := holds.bases ⟨"s0", "1", "ann", ∅⟩ List.mem_cons_self
    rw [stored] at shown
    exact (Value.baseInfo.inj (Option.some.inj shown)).trans current
  have counted := placed "1"
  rw [evicts, out, same, PowerIndex.listed, holds.buckets, bucket] at counted
  exact absurd counted (by decide)

end TwoPlayers
end Tinygame.PowerIndex
