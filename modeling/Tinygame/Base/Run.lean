import Mathlib.Data.List.Forall2
import Mathlib.Logic.Relation

/-!
# Runs of a step function

A component that handles one event at a time is a function `step : σ → ε → σ`. A run handles a
list of events in order. The rules here carry an invariant through a run, also when it speaks
about the events handled so far or when every step of the run meets a condition.
-/

namespace Tinygame
variable {σ ε : Type} {step : σ → ε → σ}

/-- The state after handling `events` in order. -/
def run (step : σ → ε → σ) : σ → List ε → σ
  | s, [] => s
  | s, e :: rest => run step (step s e) rest

@[simp] theorem run_nil (s : σ) : run step s [] = s := rfl

@[simp] theorem run_cons (s : σ) (e : ε) (rest : List ε) :
    run step s (e :: rest) = run step (step s e) rest := rfl

theorem run_append (s : σ) (first second : List ε) :
    run step s (first ++ second) = run step (run step s first) second := by
  induction first generalizing s with
  | nil => rfl
  | cons e rest ih => exact ih (step s e)

/-- Every step of the run meets `ok`, which sees the state before the step. -/
def Along (step : σ → ε → σ) (ok : σ → ε → Prop) : σ → List ε → Prop
  | _, [] => True
  | s, e :: rest => ok s e ∧ Along step ok (step s e) rest

theorem along_append {ok : σ → ε → Prop} {s : σ} {first second : List ε} :
    Along step ok s (first ++ second) ↔
      Along step ok s first ∧ Along step ok (run step s first) second := by
  induction first generalizing s with
  | nil => simp [Along]
  | cons e rest ih => simp [Along, ih, and_assoc]

theorem along_and {ok also : σ → ε → Prop} {s : σ} {events : List ε} (first : Along step ok s events)
    (second : Along step also s events) : Along step (fun s e => ok s e ∧ also s e) s events := by
  induction events generalizing s with
  | nil => trivial
  | cons e rest ih => exact ⟨⟨first.1, second.1⟩, ih first.2 second.2⟩

/-- An invariant kept by every step that meets `ok` holds after a run of such steps. -/
theorem run_invariant {ok : σ → ε → Prop} {inv : σ → Prop}
    (keep : ∀ s e, inv s → ok s e → inv (step s e)) {s : σ} {events : List ε}
    (start : inv s) (along : Along step ok s events) : inv (run step s events) := by
  induction events generalizing s with
  | nil => exact start
  | cons e rest ih => exact ih (keep s e start along.1) along.2

/-- An invariant that every step keeps. -/
theorem run_keeps (inv : σ → Prop) (keep : ∀ s e, inv s → inv (step s e)) {s : σ} (start : inv s)
    (events : List ε) : inv (run step s events) := by
  induction events generalizing s with
  | nil => exact start
  | cons e rest ih => exact ih (keep s e start)

/-- Where a step keeps the invariant exactly when it meets `ok`, the invariant holds all along a run exactly when every
step meets `ok`. -/
theorem always_iff_along {ok : σ → ε → Prop} (inv : σ → Prop) (keep : ∀ s e, inv s → (inv (step s e) ↔ ok s e)) {s : σ}
    (start : inv s) (events : List ε) :
    (∀ past later, events = past ++ later → inv (run step s past)) ↔ Along step ok s events := by
  induction events generalizing s with
  | nil =>
    constructor
    · intro _
      trivial
    · intro _ past later whole
      obtain ⟨rfl, -⟩ := List.append_eq_nil_iff.mp whole.symm
      exact start
  | cons e rest ih =>
    constructor
    · intro always
      have next : inv (step s e) := always [e] rest rfl
      refine ⟨(keep s e start).mp next, (ih next).mp ?_⟩
      intro past later whole
      exact always (e :: past) later (congrArg (e :: ·) whole)
    · intro along past later whole
      have next := (keep s e start).mpr along.1
      cases past with
      | nil => exact start
      | cons first more =>
        obtain ⟨rfl, tail⟩ := List.cons_eq_cons.mp whole
        exact (ih next).mpr along.2 more later tail

/-- An invariant of the state and the events handled so far. `ok` sees the whole history. -/
theorem run_history {ok : List ε → Prop} {inv : List ε → σ → Prop}
    (keep : ∀ past s e, inv past s → ok (past ++ [e]) → inv (past ++ [e]) (step s e))
    (closed : ∀ past later, ok (past ++ later) → ok past) {past events : List ε} {s : σ}
    (start : inv past s) (whole : ok (past ++ events)) :
    inv (past ++ events) (run step s events) := by
  induction events generalizing past s with
  | nil => simpa using start
  | cons e rest ih =>
    have split : past ++ e :: rest = (past ++ [e]) ++ rest := by simp
    rw [split] at whole ⊢
    exact ih (keep past s e start (closed _ _ whole)) whole

theorem along_of_forall {ok : σ → ε → Prop} {events : List ε} (each : ∀ e ∈ events, ∀ s, ok s e) (s : σ) : Along step ok s events := by
  induction events generalizing s with
  | nil => trivial
  | cons e rest ih =>
    constructor
    · exact each e List.mem_cons_self s
    · exact ih (fun e there => each e (List.mem_cons_of_mem _ there)) _

/-- How many steps of a run `p` counts. -/
def tally (step : σ → ε → σ) (p : σ → ε → Bool) : σ → List ε → Nat
  | _, [] => 0
  | s, e :: rest => (p s e).toNat + tally step p (step s e) rest

/-- An invariant of the state and the count. -/
theorem tally_invariant {p : σ → ε → Bool} {ok : σ → ε → Prop} {inv : Nat → σ → Prop}
    (keep : ∀ n s e, inv n s → ok s e → inv (n + (p s e).toNat) (step s e)) {n : Nat} {s : σ} {events : List ε}
    (start : inv n s) (along : Along step ok s events) : inv (n + tally step p s events) (run step s events) := by
  induction events generalizing n s with
  | nil => exact start
  | cons e rest ih =>
    have later := ih (keep n s e start along.1) along.2
    rw [Nat.add_assoc] at later
    exact later

theorem along_of_tally_eq_zero {p : σ → ε → Bool} {s : σ} {events : List ε} (none : tally step p s events = 0) :
    Along step (fun s e => p s e = false) s events := by
  induction events generalizing s with
  | nil => trivial
  | cons e rest ih =>
    obtain ⟨here, later⟩ := Nat.add_eq_zero_iff.mp none
    exact ⟨by simpa using here, ih later⟩

/-- A loop that may fail keeps what every round keeps that succeeds. -/
theorem foldlM_keeps {φ : Type} {f : σ → ε → Except φ σ} (inv : σ → Prop) {events : List ε}
    (keep : ∀ s s', ∀ e ∈ events, inv s → f s e = .ok s' → inv s') {s s' : σ} (start : inv s)
    (ok : events.foldlM f s = .ok s') : inv s' := by
  induction events generalizing s with
  | nil => exact Except.ok.inj ok ▸ start
  | cons e rest ih =>
    rw [List.foldlM_cons] at ok
    cases first : f s e with
    | error failure =>
      rw [first] at ok
      cases ok
    | ok next =>
      rw [first] at ok
      exact ih (fun s s' e member => keep s s' e (List.mem_cons_of_mem _ member))
        (keep s next e (List.mem_cons_self ..) start first) ok

/-- A loop that ran through keeps what each of its rounds keeps, also of the rounds to come. -/
theorem foldlM_ran {f : σ → ε → Option σ} (inv : List ε → σ → Prop)
    (keep : ∀ e rest s s', inv (e :: rest) s → f s e = some s' → inv rest s') {events : List ε} {s s' : σ}
    (start : inv events s) (ran : events.foldlM f s = some s') : inv [] s' := by
  induction events generalizing s with
  | nil => exact Option.some.inj ran ▸ start
  | cons e rest ih =>
    rw [List.foldlM_cons] at ran
    obtain ⟨next, first, later⟩ := Option.bind_eq_some_iff.mp ran
    exact ih (keep e rest s next start first) later

/-- A loop none of whose rounds fails. -/
theorem foldlM_some {f : σ → ε → Option σ} {g : σ → ε → σ} {events : List ε} {s : σ}
    (round : ∀ s, ∀ e ∈ events, f s e = some (g s e)) : events.foldlM f s = some (events.foldl g s) := by
  induction events generalizing s with
  | nil => rfl
  | cons e rest ih =>
    obtain ⟨first, later⟩ := List.forall_mem_cons.mp fun e member s => round s e member
    rw [List.foldlM_cons, first s]
    exact ih fun s e member => later e member s

/-- A loop runs through when each of its rounds does. -/
theorem foldlM_succeeds {f : σ → ε → Option σ} (inv : σ → Prop) {events : List ε}
    (round : ∀ s, ∀ e ∈ events, inv s → ∃ s', f s e = some s' ∧ inv s') {s : σ} (start : inv s) :
    ∃ s', events.foldlM f s = some s' ∧ inv s' := by
  induction events generalizing s with
  | nil => exact ⟨s, rfl, start⟩
  | cons e rest ih =>
    obtain ⟨next, first, met⟩ := round s e (List.mem_cons_self ..) start
    rw [List.foldlM_cons, first]
    exact ih (fun s e member => round s e (List.mem_cons_of_mem _ member)) met

theorem bind_succeeds {φ : Type} {first : Option σ} {next : σ → Option φ} {between : σ → Prop} {met : φ → Prop}
    (here : ∃ s, first = some s ∧ between s) (rest : ∀ s, between s → ∃ x, next s = some x ∧ met x) :
    ∃ x, (first >>= next) = some x ∧ met x := by
  obtain ⟨s, rfl, holds⟩ := here
  exact rest s holds

/-- A fold whose steps may be exchanged, as long as the state is as it should be. -/
theorem foldlM_perm {α : Type} {f : σ → α → Option σ} {ok : σ → Prop} {l l' : List α} (same : l.Perm l')
    (keep : ∀ s a s', a ∈ l → ok s → f s a = some s' → ok s')
    (swap : ∀ s, ok s → ∀ a ∈ l, ∀ b ∈ l, ((f s a).bind (f · b)) = ((f s b).bind (f · a))) {s : σ} (start : ok s) :
    l.foldlM f s = l'.foldlM f s := by
  induction same generalizing s with
  | nil => rfl
  | @cons x l l' _ ih =>
    rw [List.foldlM_cons, List.foldlM_cons]
    cases first : f s x with
    | none => rfl
    | some s' =>
      apply ih
      · exact fun s a s' there => keep s a s' (List.mem_cons_of_mem _ there)
      · exact fun s good a there b there' => swap s good a (List.mem_cons_of_mem _ there) b (List.mem_cons_of_mem _ there')
      · exact keep s x s' List.mem_cons_self start first
  | swap x y l =>
    have exchanged := swap s start y List.mem_cons_self x (List.mem_cons_of_mem _ List.mem_cons_self)
    have split : ∀ a b, (a :: b :: l).foldlM f s = ((f s a).bind (f · b)).bind fun s => l.foldlM f s := by
      intro a b
      rw [Option.bind_assoc]
      rfl
    rw [split, split, exchanged]
  | @trans l l' l'' first _ ih ih' =>
    rw [ih keep swap start]
    apply ih'
    · exact fun s a s' there => keep s a s' (first.mem_iff.mpr there)
    · exact fun s good a there b there' => swap s good a (first.mem_iff.mpr there) b (first.mem_iff.mpr there')
    · exact start

/-- A fold whose steps agree, as long as the state is as it should be. -/
theorem foldlM_congr {α : Type} {f g : σ → α → Option σ} (ok : σ → Prop) {l : List α}
    (keep : ∀ s a s', a ∈ l → ok s → f s a = some s' → ok s') (agree : ∀ s a, a ∈ l → ok s → g s a = f s a) {s : σ} (start : ok s) :
    l.foldlM g s = l.foldlM f s := by
  induction l generalizing s with
  | nil => rfl
  | cons a rest ih =>
    rw [List.foldlM_cons, List.foldlM_cons, agree s a List.mem_cons_self start]
    cases first : f s a with
    | none => rfl
    | some s' =>
      apply ih
      · exact fun s a s' there => keep s a s' (List.mem_cons_of_mem _ there)
      · exact fun s a there => agree s a (List.mem_cons_of_mem _ there)
      · exact keep s a s' List.mem_cons_self start first

/-- A fold over two lists that the step does not tell apart. -/
theorem foldlM_congr₂ {α : Type} {f : σ → α → Option σ} {same : α → α → Prop} {l l' : List α}
    (alike : List.Forall₂ same l l') (step : ∀ a a', same a a' → ∀ s, f s a' = f s a) (s : σ) : l'.foldlM f s = l.foldlM f s := by
  induction alike generalizing s with
  | nil => rfl
  | cons first _ ih =>
    rw [List.foldlM_cons, List.foldlM_cons, step _ _ first]
    cases f s _ with
    | none => rfl
    | some s' => exact ih s'

end Tinygame
