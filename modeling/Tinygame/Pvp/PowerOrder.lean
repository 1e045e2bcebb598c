import Tinygame.Pvp.PowerBoard

/-!
# Powers set in order

When the requests of the pool keep out of each other's way: a store finds what it replaces as it was
read, the requests of one player come one after the other, and a player comes back into a range only
after having left it. The board shows the same of itself.
-/

namespace Tinygame.PowerIndex
open Redis

section
variable (matching : BaseInfo → Query (Option Value)) (getPlayerPower : BaseInfo → Option Value → Option Value → Nat)
  (stock : Stock) (requests : List Request)

/-- The removal of request `i` has ended, if there is one. -/
def Cleared (pool : AgentPool) (i : Nat) : Prop :=
  ∀ k job, pool.jobs[k]? = some (i, job) → pool.Ended (requests.length + k)

def Over (pool : AgentPool) (i : Nat) : Prop := pool.Ended i ∧ Cleared requests pool i

/-- The next step of program `j` keeps the order. -/
structure Orderly (pool : AgentPool) (j : Nat) : Prop where
  fresh : Redis.Fresh pool j
  alone : ∀ r next, requests[j]? = some r →
    pool.programs[j]? = some (.call (.read (.get (baseInfoKey r.player))) next) →
    ∀ i s, requests[i]? = some s → s.player = r.player →
      (lastAnswer (pool.journalOf i) (.get (baseInfoKey r.player))).isSome → Over requests pool i
  cleared : ∀ r base value next, requests[j]? = some r →
    pool.programs[j]? = some (.call (.write (.hset powerKey (range base.power) value)) next) →
    lastAnswer (pool.journalOf j) (.get (baseInfoKey r.player)) = some (.value (some (.baseInfo base))) →
    Cleared requests pool j

namespace Board

def Over (b : Board) (i : Nat) : Prop := (b.phases i).Ended ∧ (b.removals i).Over

def Orderly (b : Board) (j : Nat) : Prop :=
  match requests[j]? with
  | some r => match b.phases j with
    | .baseInfo => ∀ i s, requests[i]? = some s → s.player = r.player → (b.phases i).Past → b.Over i
    | .saveBase base _ _ => b.bases r.player = base
    | .save base bag team data =>
      let new := raised getPlayerPower base bag team
      b.buckets (range new.power) = data ∧ (range base.power = range new.power → (b.removals j).Over)
    | _ => True
  | none => match b.jobs[j - requests.length]? with
    | some i => match b.removals i with
      | .save base data => b.buckets (range base.power) = data
      | _ => True
    | none => True

end Board

variable {matching getPlayerPower stock requests} {pool : AgentPool} {b : Board} {i j k : Nat} {r : Request}

/-! ### Ended programs -/

/-- A request whose program has ended is in its last phase. -/
theorem code_done {phase : Phase} {result : Option Response}
    (ended : code matching getPlayerPower r phase = .done result) : phase = .ended result := by
  cases phase with
  | session => obtain ⟨_, step, -⟩ := code_session matching getPlayerPower r; rw [step] at ended; cases ended
  | baseInfo =>
    obtain ⟨_, step, -⟩ := code_baseInfo matching getPlayerPower r ⟨"", "", 0, []⟩
    rw [step] at ended
    cases ended
  | bagList base =>
    obtain ⟨_, step, -⟩ := code_bagList matching getPlayerPower r base
    rw [step] at ended
    cases ended
  | team base bag =>
    obtain ⟨_, step, -⟩ := code_team matching getPlayerPower r base bag
    rw [step] at ended
    cases ended
  | start base bag team => rw [code_start] at ended; cases ended
  | saveBase base bag team =>
    obtain ⟨_, step, -⟩ := code_saveBase matching getPlayerPower r base bag team
    rw [step] at ended
    cases ended
  | find base bag team =>
    obtain ⟨_, step, -⟩ := code_find matching getPlayerPower r base bag team
    rw [step] at ended
    cases ended
  | save base bag team data => cases ended
  | ended response => cases ended; rfl

theorem ended_iff (runs : Runs matching getPlayerPower requests pool b) (asked : requests[i]? = some r) :
    pool.Ended i ↔ (b.phases i).Ended := by
  have program := runs.mains i r asked
  constructor
  · rintro ⟨result, ended⟩
    rw [code_done (Option.some.inj (program.symm.trans ended))]
    trivial
  · intro last
    cases phase : b.phases i with
    | ended response => exact ⟨response, by rw [program, phase, code]⟩
    | _ => rw [phase] at last; exact last.elim

theorem side_ended_iff (runs : Runs matching getPlayerPower requests pool b) (job : b.jobs[k]? = some i) :
    pool.Ended (requests.length + k) ↔ (b.removals i).Over := by
  have program := runs.sides k i job
  cases removal : b.removals i with
  | unstarted => exact ⟨fun _ => trivial, fun _ => ⟨none, by rw [program, removal, sideCode]⟩⟩
  | ended => exact ⟨fun _ => trivial, fun _ => ⟨none, by rw [program, removal, sideCode]⟩⟩
  | find base =>
    obtain ⟨_, step, -⟩ := side_find base
    rw [removal, step] at program
    refine ⟨fun ended => ?_, False.elim⟩
    obtain ⟨_, ended⟩ := ended
    rw [program] at ended
    cases ended
  | save base data =>
    obtain ⟨_, step, -⟩ := side_save base data
    rw [removal, step] at program
    refine ⟨fun ended => ?_, False.elim⟩
    obtain ⟨_, ended⟩ := ended
    rw [program] at ended
    cases ended

theorem cleared_iff (sound : b.Sound) (runs : Runs matching getPlayerPower requests pool b) (i : Nat) :
    Cleared requests pool i ↔ (b.removals i).Over := by
  have listed : ∀ k : Nat, b.jobs[k]? = some i ↔ ∃ job, pool.jobs[k]? = some (i, job) := by
    intro k
    rw [← runs.jobs, List.getElem?_map, Option.map_eq_some_iff]
    constructor
    · rintro ⟨⟨_, job⟩, found, rfl⟩
      exact ⟨job, found⟩
    · rintro ⟨job, found⟩
      exact ⟨_, found, rfl⟩
  constructor
  · intro cleared
    by_cases unstarted : b.removals i = .unstarted
    · rw [unstarted]
      trivial
    · obtain ⟨k, job⟩ := List.mem_iff_getElem?.mp ((sound.started i).mpr unstarted)
      obtain ⟨_, found⟩ := (listed k).mp job
      exact (side_ended_iff runs job).mp (cleared k _ found)
  · intro isOver k job found
    exact (side_ended_iff runs ((listed k).mpr ⟨job, found⟩)).mpr isOver

theorem over_iff (sound : b.Sound) (runs : Runs matching getPlayerPower requests pool b) (asked : requests[i]? = some r) :
    Over requests pool i ↔ b.Over i :=
  and_congr (ended_iff runs asked) (cleared_iff sound runs i)

/-! ### Order on the board -/

/-- An orderly step of the pool is one of the board. -/
theorem orderly_board (sound : b.Sound) (holds : Holds stock requests pool.store b)
    (runs : Runs matching getPlayerPower requests pool b) (orderly : Orderly requests pool j) :
    b.Orderly getPlayerPower requests j := by
  unfold Board.Orderly
  cases asked : requests[j]? with
  | some r =>
    have program := runs.mains j r asked
    have known := runs.reads j r asked
    have member : r ∈ requests := List.mem_of_getElem? asked
    dsimp only
    cases phase : b.phases j with
    | baseInfo =>
      obtain ⟨next, step, -⟩ := code_baseInfo matching getPlayerPower r (b.bases r.player)
      intro i s other same past
      have read := (runs.past i s other).mpr past
      rw [same] at read
      exact (over_iff sound runs other).mp
        (orderly.alone r next asked (by rw [program, phase, step]) i s other same read)
    | saveBase base bag team =>
      rw [phase] at program known
      obtain ⟨next, step, -⟩ := code_saveBase matching getPlayerPower r base bag team
      have same := orderly.fresh _ next _ (program.trans (congrArg some step)) rfl
      rw [known _ List.mem_cons_self, Store.answer, holds.bases r member] at same
      exact (Value.baseInfo.inj (Option.some.inj (Reply.value.inj (Option.some.inj same)))).symm
    | save base bag team data =>
      rw [phase] at program known
      obtain ⟨next, step, -⟩ := code_save matching getPlayerPower r base bag team data
      have calls := program.trans (congrArg some step)
      constructor
      · have same := orderly.fresh _ next _ calls rfl
        rw [known _ (List.mem_cons_of_mem _ List.mem_cons_self), Store.answer, holds.buckets] at same
        exact (Reply.value.inj (Option.some.inj same)).symm
      · intro ranges
        rw [← ranges] at calls
        exact (cleared_iff sound runs j).mp (orderly.cleared r base _ next asked calls (known _ List.mem_cons_self))
    | _ => trivial
  | none =>
    obtain ⟨k, rfl⟩ := Nat.exists_eq_add_of_le (List.getElem?_eq_none_iff.mp asked)
    rw [Nat.add_sub_cancel_left]
    cases job : b.jobs[k]? with
    | none => trivial
    | some i =>
      dsimp only
      cases removal : b.removals i with
      | save base data =>
        have program := runs.sides k i job
        have known := runs.sideReads k i job
        rw [removal] at program known
        obtain ⟨next, step, -⟩ := side_save base data
        have same := orderly.fresh _ next _ (program.trans (congrArg some step)) rfl
        rw [known _ List.mem_cons_self, Store.answer, holds.buckets] at same
        exact (Reply.value.inj (Option.some.inj same)).symm
      | _ => trivial

theorem orderly_done {result : Option Response} (found : pool.programs[j]? = some (.done result)) :
    Orderly requests pool j := by
  constructor
  · intro write next read calls
    cases found.symm.trans calls
  · intro r next asked calls
    cases found.symm.trans calls
  · intro r base value next asked calls
    cases found.symm.trans calls

theorem orderly_read {command : Read} {next : Reply Value → Work (Option Response)}
    (found : pool.programs[j]? = some (.call (.read command) next))
    (alone : ∀ r, requests[j]? = some r → command = .get (baseInfoKey r.player) →
      ∀ i s, requests[i]? = some s → s.player = r.player →
        (lastAnswer (pool.journalOf i) (.get (baseInfoKey r.player))).isSome → Over requests pool i) :
    Orderly requests pool j := by
  constructor
  · intro write next' read calls
    cases found.symm.trans calls
  · intro r next' asked calls
    cases found.symm.trans calls
    exact alone r asked rfl
  · intro r base value next' asked calls
    cases found.symm.trans calls

theorem orderly_set {key : String} {value old : Value} {next : Reply Value → Work (Option Response)}
    (found : pool.programs[j]? = some (.call (.write (.set key value)) next))
    (read : lastAnswer (pool.journalOf j) (.get key) = some (.value (some old)))
    (kept : pool.store.strings.get? key = some old) : Orderly requests pool j := by
  constructor
  · intro write next' command calls replaces
    cases found.symm.trans calls
    cases replaces
    rw [read, Store.answer, kept]
  · intro r next' asked calls
    cases found.symm.trans calls
  · intro r base value next' asked calls
    cases found.symm.trans calls

theorem orderly_hset {key field : String} {value : Value} {old : Option Value}
    {next : Reply Value → Work (Option Response)}
    (found : pool.programs[j]? = some (.call (.write (.hset key field value)) next))
    (read : lastAnswer (pool.journalOf j) (.hget key field) = some (.value old))
    (kept : pool.store.hget key field = old)
    (cleared : ∀ r base, requests[j]? = some r → range base.power = field →
      lastAnswer (pool.journalOf j) (.get (baseInfoKey r.player)) = some (.value (some (.baseInfo base))) →
      Cleared requests pool j) : Orderly requests pool j := by
  constructor
  · intro write next' command calls replaces
    cases found.symm.trans calls
    cases replaces
    rw [read, Store.answer, kept]
  · intro r next' asked calls
    cases found.symm.trans calls
  · intro r base value' next' asked calls
    have same := found.symm.trans calls
    simp only [Option.some.injEq, Program.call.injEq, Command.write.injEq, Write.hset.injEq] at same
    exact cleared r base asked same.1.2.1.symm

/-- An orderly step of the board is one of the pool. -/
theorem orderly_pool (sound : b.Sound) (holds : Holds stock requests pool.store b)
    (runs : Runs matching getPlayerPower requests pool b) (orderly : b.Orderly getPlayerPower requests j) :
    Orderly requests pool j := by
  unfold Board.Orderly at orderly
  cases asked : requests[j]? with
  | some r =>
    have program := runs.mains j r asked
    have known := runs.reads j r asked
    have member : r ∈ requests := List.mem_of_getElem? asked
    have own : ∀ s, requests[j]? = some s → s = r := fun s other => Option.some.inj (other.symm.trans asked)
    rw [asked] at orderly
    dsimp only at orderly
    cases phase : b.phases j with
    | session =>
      obtain ⟨_, step, -⟩ := code_session matching getPlayerPower r
      exact orderly_read (by rw [program, phase, step]) (fun s other base => by cases base)
    | baseInfo =>
      rw [phase] at orderly
      obtain ⟨_, step, -⟩ := code_baseInfo matching getPlayerPower r (b.bases r.player)
      refine orderly_read (by rw [program, phase, step]) fun s other _ i s' asked' same read => ?_
      rw [own s other] at same read
      refine (over_iff sound runs asked').mpr (orderly i s' asked' same ?_)
      rw [← same] at read
      exact (runs.past i s' asked').mp read
    | bagList base =>
      obtain ⟨_, step, -⟩ := code_bagList matching getPlayerPower r base
      exact orderly_read (by rw [program, phase, step])
        fun s other same => absurd (Read.get.inj same) (bagListKey_ne_base _ _)
    | team base bag =>
      obtain ⟨_, step, -⟩ := code_team matching getPlayerPower r base bag
      exact orderly_read (by rw [program, phase, step]) (fun s other base => by cases base)
    | start base bag team =>
      have found := program.trans (by rw [phase, code_start])
      constructor
      · intro write next read calls
        cases found.symm.trans calls
      · intro s next other calls
        cases found.symm.trans calls
      · intro s base' value next other calls
        cases found.symm.trans calls
    | saveBase base bag team =>
      rw [phase] at orderly known
      obtain ⟨_, step, -⟩ := code_saveBase matching getPlayerPower r base bag team
      exact orderly_set (by rw [program, phase, step]) (known _ List.mem_cons_self) (orderly ▸ holds.bases r member)
    | find base bag team =>
      obtain ⟨_, step, -⟩ := code_find matching getPlayerPower r base bag team
      exact orderly_read (by rw [program, phase, step]) (fun s other base => by cases base)
    | save base bag team data =>
      rw [phase] at orderly known
      obtain ⟨_, step, -⟩ := code_save matching getPlayerPower r base bag team data
      refine orderly_hset (by rw [program, phase, step]) (known _ (List.mem_cons_of_mem _ List.mem_cons_self))
        ((holds.buckets _).trans orderly.1) fun s base' other ranges read => ?_
      rw [own s other, known _ List.mem_cons_self] at read
      have same : base = base' := Value.baseInfo.inj (Option.some.inj (Reply.value.inj (Option.some.inj read)))
      exact (cleared_iff sound runs j).mpr (orderly.2 (same ▸ ranges))
    | ended response => exact orderly_done (by rw [program, phase, code])
  | none =>
    obtain ⟨k, rfl⟩ := Nat.exists_eq_add_of_le (List.getElem?_eq_none_iff.mp asked)
    have nobody : ∀ s, ¬ requests[requests.length + k]? = some s := by
      intro s other
      cases asked.symm.trans other
    rw [asked, Nat.add_sub_cancel_left] at orderly
    dsimp only at orderly
    cases job : b.jobs[k]? with
    | none =>
      have outside := List.getElem?_eq_none_iff.mp job
      have absent : pool.programs[requests.length + k]? = none :=
        List.getElem?_eq_none (by rw [runs.length]; omega)
      constructor
      · intro write next read calls
        cases absent.symm.trans calls
      · exact fun s next other => absurd other (nobody s)
      · exact fun s base value next other => absurd other (nobody s)
    | some i =>
      have program := runs.sides k i job
      have known := runs.sideReads k i job
      rw [job] at orderly
      dsimp only at orderly
      cases removal : b.removals i with
      | find base =>
        obtain ⟨_, step, -⟩ := side_find base
        exact orderly_read (by rw [program, removal, step]) fun s other => absurd other (nobody s)
      | save base data =>
        rw [removal] at orderly known
        obtain ⟨_, step, -⟩ := side_save base data
        exact orderly_hset (by rw [program, removal, step]) (known _ List.mem_cons_self)
          ((holds.buckets _).trans orderly) fun s base' other => absurd other (nobody s)
      | unstarted => exact orderly_done (by rw [program, removal, sideCode])
      | ended => exact orderly_done (by rw [program, removal, sideCode])

end
end Tinygame.PowerIndex
