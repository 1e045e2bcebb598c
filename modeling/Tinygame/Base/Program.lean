import Tinygame.Base.Run

/-!
# Programs over a shared store

A program issues commands and goes on with the replies. A pool runs many of them on one store:
each step takes one program, carries out its next command whole, and resumes it with the reply.
The journal keeps who issued which command and what was answered.
-/

namespace Tinygame

/-- `fork` starts a job beside the program, which does not wait for it. -/
inductive Program (κ ρ γ α : Type) where
  | done (result : α)
  | call (command : κ) (next : ρ → Program κ ρ γ α)
  | fork (job : γ) (next : Program κ ρ γ α)

namespace Program
variable {κ ρ γ α β : Type}

def bind : Program κ ρ γ α → (α → Program κ ρ γ β) → Program κ ρ γ β
  | .done result, rest => rest result
  | .call command next, rest => .call command fun reply => (next reply).bind rest
  | .fork job next, rest => .fork job (next.bind rest)

instance : Monad (Program κ ρ γ) where
  pure := done
  bind := bind

/-- Issue one command and return its reply. -/
def request (command : κ) : Program κ ρ γ ρ := .call command .done

/-- Start the jobs in order. -/
def forkAll : List γ → Program κ ρ γ α → Program κ ρ γ α
  | [], next => next
  | job :: rest, next => .fork job (forkAll rest next)

@[simp] theorem pure_eq (result : α) : (pure result : Program κ ρ γ α) = .done result := rfl

@[simp] theorem bind_done (result : α) (rest : α → Program κ ρ γ β) :
    (Program.done result >>= rest) = rest result := rfl

@[simp] theorem bind_call (command : κ) (next : ρ → Program κ ρ γ α) (rest : α → Program κ ρ γ β) :
    (Program.call command next >>= rest) = .call command fun reply => next reply >>= rest := rfl

@[simp] theorem bind_fork (job : γ) (next : Program κ ρ γ α) (rest : α → Program κ ρ γ β) :
    (Program.fork job next >>= rest) = .fork job (next >>= rest) := rfl

@[simp] theorem bind_request (command : κ) (rest : ρ → Program κ ρ γ β) :
    ((request command : Program κ ρ γ ρ) >>= rest) = .call command rest := rfl

/-! ### Following a program -/

/-- Answered as in the trace, the first program goes on as the second. -/
inductive Follows : Program κ ρ γ α → List (κ × ρ) → Program κ ρ γ α → Prop where
  | refl (p : Program κ ρ γ α) : Follows p [] p
  | call {command : κ} {next : ρ → Program κ ρ γ α} {reply : ρ} {trace : List (κ × ρ)} {p : Program κ ρ γ α} :
      Follows (next reply) trace p → Follows (.call command next) ((command, reply) :: trace) p
  | fork {job : γ} {next : Program κ ρ γ α} {trace : List (κ × ρ)} {p : Program κ ρ γ α} :
      Follows next trace p → Follows (.fork job next) trace p

theorem Follows.trans {p q r : Program κ ρ γ α} {first second : List (κ × ρ)} (start : Follows p first q)
    (rest : Follows q second r) : Follows p (first ++ second) r := by
  induction start with
  | refl => exact rest
  | call _ ih => exact .call (ih rest)
  | fork _ ih => exact .fork (ih rest)

/-- A program that ended followed the trace of its first part to its end, and then its second. -/
theorem follows_bind {p : Program κ ρ γ α} {rest : α → Program κ ρ γ β} {trace : List (κ × ρ)} {result : β}
    (follows : Follows (p >>= rest) trace (.done result)) :
    ∃ middle first second, trace = first ++ second ∧ Follows p first (.done middle) ∧
      Follows (rest middle) second (.done result) := by
  induction p generalizing trace with
  | done middle => exact ⟨middle, [], trace, rfl, .refl _, follows⟩
  | call command next ih =>
    rw [bind_call] at follows
    cases follows with
    | call follows =>
      obtain ⟨middle, first, second, split, start, later⟩ := ih _ follows
      exact ⟨middle, _ :: first, second, by rw [split]; rfl, .call start, later⟩
  | fork job next ih =>
    rw [bind_fork] at follows
    cases follows with
    | fork follows =>
      obtain ⟨middle, first, second, split, start, later⟩ := ih follows
      exact ⟨middle, first, second, split, .fork start, later⟩

theorem follows_done {result : α} {trace : List (κ × ρ)} {p : Program κ ρ γ α}
    (follows : Follows (.done result) trace p) : trace = [] ∧ p = .done result := by
  cases follows
  exact ⟨rfl, rfl⟩

theorem follows_call {command : κ} {next : ρ → Program κ ρ γ α} {trace : List (κ × ρ)} {result : α}
    (follows : Follows (.call command next) trace (.done result)) :
    ∃ reply rest, trace = (command, reply) :: rest ∧ Follows (next reply) rest (.done result) := by
  cases follows with
  | call follows => exact ⟨_, _, rfl, follows⟩

theorem follows_forkAll {jobs : List γ} {next : Program κ ρ γ α} {trace : List (κ × ρ)} {result : α}
    (follows : Follows (forkAll jobs next) trace (.done result)) : Follows next trace (.done result) := by
  induction jobs with
  | nil => exact follows
  | cons job rest ih =>
    cases follows with
    | fork follows => exact ih follows

/-! ### What a program asks -/

/-- Whatever it is answered, the program issues only such commands. -/
def Only (P : κ → Prop) : Program κ ρ γ α → Prop
  | .done _ => True
  | .call command next => P command ∧ ∀ reply, (next reply).Only P
  | .fork _ next => next.Only P

theorem Only.mono {P Q : κ → Prop} (imp : ∀ command, P command → Q command) {p : Program κ ρ γ α} (only : p.Only P) :
    p.Only Q := by
  induction p with
  | done result => trivial
  | call command next ih => exact ⟨imp _ only.1, fun reply => ih reply (only.2 reply)⟩
  | fork job next ih => exact ih only

/-- Whatever it is answered, the program ends in such results. -/
def Yields (Q : α → Prop) : Program κ ρ γ α → Prop
  | .done result => Q result
  | .call _ next => ∀ reply, (next reply).Yields Q
  | .fork _ next => next.Yields Q

theorem Only.bind {P : κ → Prop} {Q : α → Prop} {p : Program κ ρ γ α} {rest : α → Program κ ρ γ β} (only : p.Only P)
    (yields : p.Yields Q) (later : ∀ result, Q result → (rest result).Only P) : (p >>= rest).Only P := by
  induction p with
  | done result => exact later result yields
  | call command next ih => exact ⟨only.1, fun reply => ih reply (only.2 reply) (yields reply)⟩
  | fork job next ih => exact ih only yields

theorem Yields.bind {Q : α → Prop} {R : β → Prop} {p : Program κ ρ γ α} {rest : α → Program κ ρ γ β} (yields : p.Yields Q)
    (later : ∀ result, Q result → (rest result).Yields R) : (p >>= rest).Yields R := by
  induction p with
  | done result => exact later result yields
  | call command next ih => exact fun reply => ih reply (yields reply)
  | fork job next ih => exact ih yields

theorem Yields.result {Q : α → Prop} {p q : Program κ ρ γ α} {trace : List (κ × ρ)} (yields : p.Yields Q)
    (follows : Follows p trace q) : q.Yields Q := by
  induction follows with
  | refl => exact yields
  | call _ ih => exact ih (yields _)
  | fork _ ih => exact ih yields

theorem yields_true (p : Program κ ρ γ α) : p.Yields fun _ => True := by
  induction p with
  | done result => trivial
  | call command next ih => exact fun reply => ih reply
  | fork job next ih => exact ih

theorem only_forkAll {P : κ → Prop} (jobs : List γ) {next : Program κ ρ γ α} (only : next.Only P) :
    (forkAll jobs next).Only P := by
  induction jobs with
  | nil => exact only
  | cons job rest ih => exact ih

/-- What the journal of such a program holds. -/
theorem Follows.only {P : κ → Prop} {p q : Program κ ρ γ α} {trace : List (κ × ρ)} (follows : Follows p trace q)
    (only : p.Only P) : ∀ entry ∈ trace, P entry.1 := by
  induction follows with
  | refl => exact fun _ there => absurd there List.not_mem_nil
  | call _ ih =>
    intro entry there
    rcases List.mem_cons.mp there with rfl | later
    · exact only.1
    · exact ih (only.2 _) entry later
  | fork _ ih => exact ih only

end Program

/-! ### Pools -/

/-- `jobs` are the jobs started so far, each with the program that started it. -/
structure Pool (σ κ ρ γ α : Type) where
  store : σ
  programs : List (Program κ ρ γ α)
  jobs : List (Nat × γ)
  journal : List (Nat × κ × ρ)

namespace Pool
variable {σ κ ρ γ α ε : Type} {exec : σ → κ → ε → σ × ρ} {start : γ → Program κ ρ γ α}
  {pool : Pool σ κ ρ γ α} {i j : Nat}

/-- The programs before their first step. -/
def init (store : σ) (programs : List (Program κ ρ γ α)) : Pool σ κ ρ γ α := ⟨store, programs, [], []⟩

/-- Program `event.1` makes its next step; `event.2` is what the store may do with the command. -/
def step (exec : σ → κ → ε → σ × ρ) (start : γ → Program κ ρ γ α) (pool : Pool σ κ ρ γ α) (event : Nat × ε) :
    Pool σ κ ρ γ α :=
  match pool.programs[event.1]? with
  | some (.call command next) =>
    let answered := exec pool.store command event.2
    { pool with
      store := answered.1
      programs := pool.programs.set event.1 (next answered.2)
      journal := pool.journal ++ [(event.1, command, answered.2)] }
  | some (.fork job next) =>
    { pool with
      programs := pool.programs.set event.1 next ++ [start job]
      jobs := pool.jobs ++ [(event.1, job)] }
  | _ => pool

/-- What program `i` has asked, with the answers. -/
def journalOf (pool : Pool σ κ ρ γ α) (i : Nat) : List (κ × ρ) :=
  (pool.journal.filter (·.1 = i)).map Prod.snd

def Ended (pool : Pool σ κ ρ γ α) (i : Nat) : Prop := ∃ result, pool.programs[i]? = some (.done result)

/-- Every program has ended. -/
def Quiet (pool : Pool σ κ ρ γ α) : Prop := ∀ p ∈ pool.programs, ∃ result, p = .done result

theorem Quiet.ended (quiet : pool.Quiet) {p : Program κ ρ γ α} (found : pool.programs[i]? = some p) :
    pool.Ended i := by
  obtain ⟨result, rfl⟩ := quiet p (List.mem_of_getElem? found)
  exact ⟨result, found⟩

theorem step_call (exec : σ → κ → ε → σ × ρ) (start : γ → Program κ ρ γ α) (choice : ε) {command : κ}
    {next : ρ → Program κ ρ γ α}
    (found : pool.programs[i]? = some (.call command next)) :
    step exec start pool (i, choice) =
      { pool with
        store := (exec pool.store command choice).1
        programs := pool.programs.set i (next (exec pool.store command choice).2)
        journal := pool.journal ++ [(i, command, (exec pool.store command choice).2)] } := by
  simp only [step, found]

theorem step_fork (exec : σ → κ → ε → σ × ρ) (start : γ → Program κ ρ γ α) (choice : ε) {job : γ}
    {next : Program κ ρ γ α}
    (found : pool.programs[i]? = some (.fork job next)) :
    step exec start pool (i, choice) =
      { pool with
        programs := pool.programs.set i next ++ [start job]
        jobs := pool.jobs ++ [(i, job)] } := by
  simp only [step, found]

theorem step_ended {choice : ε} (ended : pool.Ended i) : step exec start pool (i, choice) = pool := by
  obtain ⟨result, found⟩ := ended
  simp only [step, found]

theorem step_absent {choice : ε} (absent : pool.programs[i]? = none) : step exec start pool (i, choice) = pool := by
  simp only [step, absent]

/-- A step is a command carried out, a job started, or nothing. -/
theorem step_cases (exec : σ → κ → ε → σ × ρ) (start : γ → Program κ ρ γ α) (pool : Pool σ κ ρ γ α) (i : Nat)
    (choice : ε) :
    (∃ command next, pool.programs[i]? = some (.call command next)) ∨
      (∃ job next, pool.programs[i]? = some (.fork job next)) ∨
      step exec start pool (i, choice) = pool := by
  cases found : pool.programs[i]? with
  | none => exact .inr (.inr (step_absent found))
  | some p =>
    cases p with
    | done result => exact .inr (.inr (step_ended ⟨result, found⟩))
    | call command next => exact .inl ⟨command, next, rfl⟩
    | fork job next => exact .inr (.inl ⟨job, next, rfl⟩)

/-- A step of program `j` puts its command into its own part of the journal. -/
theorem journalOf_call {command : κ} {next : ρ → Program κ ρ γ α} {choice : ε}
    (found : pool.programs[j]? = some (.call command next)) (i : Nat) :
    (step exec start pool (j, choice)).journalOf i =
      pool.journalOf i ++ if j = i then [(command, (exec pool.store command choice).2)] else [] := by
  rw [step_call _ _ _ found]
  unfold journalOf
  rw [List.filter_append, List.map_append]
  congr 1
  by_cases same : j = i <;> simp [same]

theorem store_call {command : κ} {next : ρ → Program κ ρ γ α} {choice : ε}
    (found : pool.programs[j]? = some (.call command next)) :
    (step exec start pool (j, choice)).store = (exec pool.store command choice).1 := by
  rw [step_call _ _ _ found]

theorem programs_call {command : κ} {next : ρ → Program κ ρ γ α} {choice : ε}
    (found : pool.programs[j]? = some (.call command next)) (i : Nat) :
    (step exec start pool (j, choice)).programs[i]? =
      if i = j then some (next (exec pool.store command choice).2) else pool.programs[i]? := by
  have present : j < pool.programs.length := (List.getElem?_eq_some_iff.mp found).1
  rw [step_call _ _ _ found, List.getElem?_set]
  by_cases same : i = j
  · simp [same, present]
  · simp [same, Ne.symm same]

/-- One step of the pool lets each program follow what its journal gained. -/
theorem follows_step (exec : σ → κ → ε → σ × ρ) (start : γ → Program κ ρ γ α) (event : Nat × ε) {p : Program κ ρ γ α}
    (found : pool.programs[i]? = some p) :
    ∃ trace p', (step exec start pool event).journalOf i = pool.journalOf i ++ trace ∧
      (step exec start pool event).programs[i]? = some p' ∧ p.Follows trace p' := by
  obtain ⟨j, choice⟩ := event
  have stay : ∃ trace p', pool.journalOf i = pool.journalOf i ++ trace ∧ pool.programs[i]? = some p' ∧
      p.Follows trace p' := ⟨[], p, by simp, found, .refl p⟩
  have short : i < pool.programs.length := (List.getElem?_eq_some_iff.mp found).1
  rcases step_cases exec start pool j choice with ⟨command, next, moving⟩ | ⟨job, next, moving⟩ | still
  · refine ⟨_, if j = i then next (exec pool.store command choice).2 else p, journalOf_call moving i, ?_, ?_⟩
    · rw [programs_call moving, found]
      by_cases same : i = j
      · simp [same]
      · simp [same, Ne.symm same]
    · split
      · rename_i same
        subst same
        rw [found] at moving
        cases moving
        exact .call (.refl _)
      · exact .refl p
  · rw [step_fork _ _ _ moving]
    refine ⟨[], if j = i then next else p, by simp [journalOf], ?_, ?_⟩
    · dsimp only
      rw [List.getElem?_append_left (by simpa using short), List.getElem?_set]
      split <;> simp_all
    · split
      · rename_i same
        subst same
        rw [found] at moving
        cases moving
        exact .fork (.refl _)
      · exact .refl p
  · rw [still]
    exact stay

/-- Over a run each program follows what its journal gained, whatever the others do. -/
theorem follows_run (exec : σ → κ → ε → σ × ρ) (start : γ → Program κ ρ γ α) (events : List (Nat × ε))
    {p : Program κ ρ γ α} (found : pool.programs[i]? = some p) :
    ∃ trace p', (run (step exec start) pool events).journalOf i = pool.journalOf i ++ trace ∧
      (run (step exec start) pool events).programs[i]? = some p' ∧ p.Follows trace p' := by
  induction events generalizing pool p with
  | nil => exact ⟨[], p, by simp, found, .refl p⟩
  | cons event rest ih =>
    obtain ⟨first, q, journal, moved, start⟩ := follows_step exec start event found
    obtain ⟨second, r, later, ended, follows⟩ := ih moved
    exact ⟨first ++ second, r, by rw [run_cons, later, journal, List.append_assoc], ended, start.trans follows⟩

/-- The store is what the journal made of it, when a command's effect shows in its reply. -/
theorem store_step {apply : σ → κ × ρ → σ}
    (shown : ∀ store command choice, (exec store command choice).1 =
      apply store (command, (exec store command choice).2)) (event : Nat × ε)
    {initial : σ} (before : pool.store = (pool.journal.map Prod.snd).foldl apply initial) :
    (step exec start pool event).store =
      ((step exec start pool event).journal.map Prod.snd).foldl apply initial := by
  obtain ⟨i, choice⟩ := event
  rcases step_cases exec start pool i choice with ⟨command, next, moving⟩ | ⟨job, next, moving⟩ | still
  · rw [step_call _ _ _ moving, List.map_append, List.foldl_append, ← before]
    exact shown _ _ _
  · rw [step_fork _ _ _ moving]
    exact before
  · rw [still]
    exact before

theorem store_run {apply : σ → κ × ρ → σ}
    (shown : ∀ store command choice, (exec store command choice).1 =
      apply store (command, (exec store command choice).2)) (events : List (Nat × ε))
    {initial : σ} (before : pool.store = (pool.journal.map Prod.snd).foldl apply initial) :
    (run (step exec start) pool events).store =
      ((run (step exec start) pool events).journal.map Prod.snd).foldl apply initial := by
  induction events generalizing pool with
  | nil => exact before
  | cons event rest ih => exact ih (store_step shown event before)

end Pool
end Tinygame
