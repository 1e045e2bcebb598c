import Tinygame.Fight.MiniFight
import Mathlib.Data.List.Perm.Subperm

/-!
# Chains of skills are bounded

The counter of a phase grows with every call of `castSkill`, and above `MAX_CAST_SKILL` a call has no effect.
A monitor follows the counter through the trace of a fight: its clock is 0 when a phase begins, a call takes it
beyond twice the counter, and a search for targets one further.
-/

namespace Tinygame.Fight
open Traced Battle
variable {N : Type}

/-! ### What a trace shows of the counter -/

inductive Beat where
  | phase
  | call
  | search
  | other
deriving DecidableEq

/-- A phase begins, `castSkill` is called, or a cast has got as far as the search for targets. -/
def Event.beat : Event N → Beat
  | .doHero _ | .doSummon _ => .phase
  | .castSkill .. => .call
  | .search .. => .search
  | _ => .other

/-- The counter at each point of a kind. -/
def counters (beat : Beat) (points : List (Event N × FightManager N)) : List Nat :=
  (points.filter fun point => point.1.beat = beat).map fun point => point.2.castSkill

theorem counters_cons (beat : Beat) (point : Event N × FightManager N) (rest : List (Event N × FightManager N)) :
    counters beat (point :: rest) = if point.1.beat = beat then point.2.castSkill :: counters beat rest else counters beat rest := by
  unfold counters
  rw [List.filter_cons]
  split <;> simp_all

/-! ### The monitor -/

structure Pace where
  phases : Nat
  clock : Nat

def pace (k : Pace) (point : Event N × FightManager N) : Option Pace :=
  match point.1.beat with
  | .phase => if 0 < k.phases ∧ point.2.castSkill = 0 then some ⟨k.phases - 1, 0⟩ else none
  | .call => if k.clock ≤ 2 * point.2.castSkill then some ⟨k.phases, 2 * point.2.castSkill + 1⟩ else none
  | .search =>
    if k.clock ≤ 2 * point.2.castSkill + 1 ∧ point.2.castSkill ≤ MAX_CAST_SKILL then
      some ⟨k.phases, 2 * point.2.castSkill + 2⟩
    else none
  | .other => some k

/-- The calls and the searches of a stretch without a new phase, each before the next. -/
theorem paced_stretch {points : List (Event N × FightManager N)} {k last : Pace} (one : ∀ point ∈ points, point.1.beat ≠ .phase)
    (accepts : points.foldlM pace k = some last) :
    (counters .call points).Pairwise (· < ·) ∧ (counters .search points).Pairwise (· < ·) ∧
      (∀ c ∈ counters .call points, k.clock ≤ 2 * c) ∧
      ∀ c ∈ counters .search points, k.clock ≤ 2 * c + 1 ∧ c ≤ MAX_CAST_SKILL := by
  induction points generalizing k with
  | nil => simp [counters]
  | cons point rest ih =>
    rw [List.foldlM_cons] at accepts
    obtain ⟨next, here, goesOn⟩ := Option.bind_eq_some_iff.mp accepts
    obtain ⟨called, searched, callsLater, searchesLater⟩ :=
      ih (fun point member => one point (List.mem_cons_of_mem _ member)) goesOn
    unfold pace at here
    cases beat : point.1.beat with
    | phase => exact absurd beat (one point (List.mem_cons_self ..))
    | call =>
      rw [beat] at here
      dsimp only at here
      split at here <;> cases here
      rename_i due
      simp only [counters_cons, beat, ↓reduceIte, reduceCtorEq, List.pairwise_cons, List.forall_mem_cons]
      dsimp only at callsLater searchesLater
      refine ⟨⟨fun c member => ?_, called⟩, searched, ⟨due, fun c member => ?_⟩, fun c member => ?_⟩
      · have later := callsLater c member
        omega
      · have later := callsLater c member
        omega
      · have later := searchesLater c member
        omega
    | search =>
      rw [beat] at here
      dsimp only at here
      split at here <;> cases here
      rename_i due
      simp only [counters_cons, beat, ↓reduceIte, reduceCtorEq, List.pairwise_cons, List.forall_mem_cons]
      dsimp only at callsLater searchesLater
      refine ⟨called, ⟨fun c member => ?_, searched⟩, fun c member => ?_, due, fun c member => ?_⟩
      · have later := searchesLater c member
        omega
      · have later := callsLater c member
        omega
      · have later := searchesLater c member
        omega
    | other =>
      rw [beat] at here
      cases here
      simp only [counters_cons, beat, ↓reduceIte, reduceCtorEq]
      exact ⟨called, searched, callsLater, searchesLater⟩

/-- What is left of the casts of the phases to come, and of this one. -/
def Pace.room (k : Pace) : Nat := (MAX_CAST_SKILL + 1) * k.phases + (2 * MAX_CAST_SKILL + 3 - k.clock) / 2

theorem paced_total {points : List (Event N × FightManager N)} {k last : Pace} (accepts : points.foldlM pace k = some last) :
    (counters .search points).length ≤ k.room := by
  induction points generalizing k with
  | nil => exact Nat.zero_le _
  | cons point rest ih =>
    rw [List.foldlM_cons] at accepts
    obtain ⟨next, here, goesOn⟩ := Option.bind_eq_some_iff.mp accepts
    have later := ih goesOn
    unfold Pace.room MAX_CAST_SKILL at later ⊢
    unfold pace MAX_CAST_SKILL at here
    rw [counters_cons]
    cases beat : point.1.beat with
    | phase | call =>
      rw [beat] at here
      dsimp only at here
      split at here <;> cases here
      dsimp only at later
      simp only [reduceCtorEq, ↓reduceIte]
      omega
    | search =>
      rw [beat] at here
      dsimp only at here
      split at here <;> cases here
      dsimp only at later
      simp only [↓reduceIte, List.length_cons]
      omega
    | other =>
      rw [beat] at here
      cases here
      exact later

/-! ### Following a fight -/

/-- The monitor accepts the computation, which does not stop for want of fuel. -/
abbrev Paced {α : Type} (k : Pace) (m : Battle N α) (s : FightManager N) (post : α → FightManager N → Pace → Prop) : Prop :=
  Monitored pace (fun reason => reason ≠ Halt.outOfFuel) k m s post

/-- On the field the counter stands still. -/
theorem paced_play {α : Type} (m : Play N α) (k : Pace) (s : FightManager N) :
    Paced k (play m) s fun _ s' last => s'.castSkill = s.castSkill ∧ last = k := by
  have other (points : List (Act N × Field N)) :
      (points.map fun point => (Event.act point.1, { s with field := point.2 })).foldlM pace k = some k := by
    induction points with
    | nil => rfl
    | cons point rest ih => exact ih
  refine ⟨k, other _, ?_⟩
  unfold play within
  dsimp only
  cases (m s.field).result with
  | ok result => exact ⟨rfl, rfl⟩
  | error reason => exact nofun

section
variable {α β : Type} {k : Pace} {s : FightManager N} {post : β → FightManager N → Pace → Prop}

theorem paced_play_bind {m : Play N α} {next : α → Battle N β}
    (rest : ∀ result s', s'.castSkill = s.castSkill → Paced k (next result) s' post) : Paced k (play m >>= next) s post := by
  refine monitored_bind (paced_play m k s) ?_
  rintro result s' _ ⟨same, rfl⟩
  exact rest result s' same

theorem paced_read_bind {next : FightManager N → Battle N β} (rest : Paced k (next s) s post) : Paced k (read >>= next) s post :=
  monitored_run_bind rfl rfl rest

theorem paced_modify_bind {f : FightManager N → FightManager N} {next : Unit → Battle N β} (rest : Paced k (next ()) (f s) post) :
    Paced k (modify f >>= next) s post :=
  monitored_run_bind rfl rfl rest

theorem paced_mark_bind {event : Event N} {next : Unit → Battle N β} {there : Pace} (accepts : pace k (event, s) = some there)
    (rest : Paced there (next ()) s post) : Paced k (mark event >>= next) s post :=
  monitored_run_bind (run_mark event s) (by simp [accepts]) rest

end

theorem pace_other {event : Event N} (other : event.beat = .other) (k : Pace) (s : FightManager N) : pace k (event, s) = some k := by
  unfold pace
  rw [other]

theorem record_paced (entry : Entry N) (k : Pace) (s : FightManager N) :
    Paced k (record entry) s fun _ s' last => s'.castSkill = s.castSkill ∧ last = k :=
  monitored_modify ⟨rfl, rfl⟩

theorem endCast_paced (k : Pace) (s : FightManager N) :
    Paced k endCast s fun _ s' last => s'.castSkill = s.castSkill + 1 ∧ last = k := by
  unfold endCast
  apply paced_modify_bind
  apply paced_read_bind
  exact record_paced ..

/-- Later in the same phase. -/
structure Later (k : Pace) (c : Nat) (s' : FightManager N) (last : Pace) : Prop where
  phases : last.phases = k.phases
  due : last.clock ≤ 2 * s'.castSkill
  grown : c ≤ s'.castSkill

theorem Later.here {k : Pace} {c : Nat} {s : FightManager N} (due : k.clock ≤ 2 * s.castSkill) (reached : c ≤ s.castSkill) :
    Later k c s k :=
  ⟨rfl, due, reached⟩

/-! ### The functions of a phase -/

section
variable [Number N] (tables : Tables N) {k : Pace} {s : FightManager N}

theorem takeEffect_paced (camp : Camp) (idx skillid : Nat) (rein : Bool) (due : k.clock ≤ 2 * s.castSkill + 1)
    (few : s.castSkill ≤ MAX_CAST_SKILL) :
    Paced k (takeEffect tables camp idx skillid rein) s fun _ s' last =>
      s'.castSkill = s.castSkill ∧ last.phases = k.phases ∧ last.clock ≤ 2 * s.castSkill + 2 := by
  unfold takeEffect
  refine paced_play_bind fun caster s₁ same₁ => ?_
  cases caster with
  | none => exact monitored_pure ⟨same₁, rfl, by omega⟩
  | some caster =>
    refine paced_play_bind fun row s₂ same₂ => paced_play_bind fun result s₃ same₃ => ?_
    refine paced_play_bind fun buff s₄ same₄ => paced_play_bind fun _ s₅ same₅ => ?_
    have same : s₅.castSkill = s.castSkill := by omega
    have accepts (event : Event N) (search : event.beat = .search) :
        pace k (event, s₅) = some ⟨k.phases, 2 * s.castSkill + 2⟩ := by
      unfold pace
      rw [search]
      dsimp only
      rw [same, if_pos ⟨due, few⟩]
    refine paced_mark_bind (accepts _ rfl) (paced_play_bind fun tbTarget s₆ same₆ => ?_)
    split
    · exact monitored_pure ⟨by omega, rfl, le_rfl⟩
    · refine paced_play_bind fun _ s₇ same₇ => paced_play_bind fun tbTarget s₈ same₈ => ?_
      split
      · exact monitored_pure ⟨by omega, rfl, le_rfl⟩
      · refine paced_mark_bind (pace_other rfl _ _) (paced_play_bind fun _ s₉ same₉ => ?_)
        exact monitored_pure ⟨by omega, rfl, le_rfl⟩

/-- A way to cast that keeps pace, from a value of the counter on. -/
def KeepsPace (c : Nat) (cast : Cast N) : Prop :=
  ∀ camp idx skillid rein (s : FightManager N) (k : Pace), c ≤ s.castSkill → k.clock ≤ 2 * s.castSkill →
    Paced k (cast camp idx skillid rein) s fun _ => Later k c

variable {c : Nat} {cast : Cast N} (keeps : KeepsPace c cast) (reached : c ≤ s.castSkill) (due : k.clock ≤ 2 * s.castSkill)
include keeps reached due

omit [Number N] in
theorem castNormalAtk_paced (camp : Camp) : Paced k (castNormalAtk cast camp) s fun _ => Later k c := by
  unfold castNormalAtk
  refine paced_play_bind fun there s₁ same₁ => ?_
  dsimp only
  split
  · exact monitored_pure (.here (by omega) (by omega))
  · refine paced_play_bind fun ret s₂ same₂ => paced_play_bind fun idx s₃ same₃ => paced_play_bind fun hero s₄ same₄ => ?_
    exact paced_read_bind (keeps _ _ _ _ _ _ (by omega) (by omega))

theorem heroCostSkill_paced (camp : Camp) (cost : Int) (rein : Bool) :
    Paced k (heroCostSkill cast camp cost rein) s fun _ => Later k c := by
  unfold heroCostSkill
  refine paced_play_bind fun there s₁ same₁ => ?_
  split
  · exact castNormalAtk_paced keeps (by omega) (by omega) camp
  · refine paced_play_bind fun skillIdx s₂ same₂ => ?_
    split
    · exact castNormalAtk_paced keeps (by omega) (by omega) camp
    · refine paced_play_bind fun skill s₃ same₃ => paced_play_bind fun hero s₄ same₄ => ?_
      split
      · exact castNormalAtk_paced keeps (by omega) (by omega) camp
      · exact keeps _ _ _ _ _ _ (by omega) (by omega)

theorem summonCostSkill_paced (camp : Camp) (pos : Nat) (rein : Bool) :
    Paced k (summonCostSkill cast camp pos rein) s fun _ => Later k c := by
  unfold summonCostSkill
  refine paced_play_bind fun summon s₁ same₁ => paced_read_bind ?_
  dsimp only
  split
  · exact keeps _ _ _ _ _ _ (by omega) (by omega)
  · refine paced_play_bind fun skillIdx s₂ same₂ => ?_
    split
    · exact keeps _ _ _ _ _ _ (by omega) (by omega)
    · exact paced_play_bind fun skillid s₃ same₃ => keeps _ _ _ _ _ _ (by omega) (by omega)

theorem randomCostSkill_paced (camp : Camp) (cost : Int) (type : TargetType) (pos : Nat) (rein : Bool) :
    Paced k (randomCostSkill cast camp cost type pos rein) s fun _ => Later k c := by
  cases type with
  | hero => exact heroCostSkill_paced keeps reached due camp cost rein
  | summon => exact summonCostSkill_paced keeps reached due camp pos rein

theorem castQueued_paced : Paced k (castQueued cast) s fun _ => Later k c := by
  unfold castQueued
  apply paced_read_bind
  split
  · exact monitored_pure (.here due reached)
  · refine paced_play_bind fun _ s₁ same₁ => paced_mark_bind (pace_other rfl _ _) ?_
    split
    · exact keeps _ _ _ _ _ _ (by omega) (by omega)
    · exact randomCostSkill_paced keeps (by omega) (by omega) ..
    · exact monitored_pure (.here (by omega) (by omega))

end

/-- The counter is above where it was, so the fuel is used up no sooner than the calls that are allowed. -/
theorem castSkill_paced [Number N] (tables : Tables N) (fuel : Nat) (camp : Camp) (idx skillid : Nat) (rein : Bool)
    (s : FightManager N) (k : Pace) (enough : MAX_CAST_SKILL + 2 ≤ fuel + s.castSkill) (fed : 0 < fuel)
    (due : k.clock ≤ 2 * s.castSkill) :
    Paced k (castSkill tables fuel camp idx skillid rein) s fun _ => Later k (s.castSkill + 1) := by
  induction fuel generalizing camp idx skillid rein s k with
  | zero => exact absurd fed (lt_irrefl 0)
  | succ fuel ih =>
    unfold castSkill
    refine paced_play_bind fun _ s₁ same₁ => ?_
    have accepts : pace k (Event.castSkill camp idx skillid, s₁) = some ⟨k.phases, 2 * s.castSkill + 1⟩ := by
      show (if k.clock ≤ 2 * s₁.castSkill then some (Pace.mk k.phases (2 * s₁.castSkill + 1)) else none) = _
      rw [same₁, if_pos due]
    refine paced_mark_bind accepts (paced_read_bind ?_)
    split
    · refine paced_play_bind fun _ s₂ same₂ => (endCast_paced _ _).mono ?_
      rintro _ s₃ _ ⟨same₃, rfl⟩
      exact ⟨rfl, by dsimp only; omega, by omega⟩
    · rename_i few
      refine monitored_bind (takeEffect_paced tables camp idx skillid rein (by dsimp only; omega) (by omega)) ?_
      rintro goOn s₂ k₂ ⟨same₂, phases, clock⟩
      refine monitored_bind (endCast_paced k₂ s₂) ?_
      rintro _ s₃ k₃ ⟨same₃, rfl⟩
      have queued : Later k₃ (s.castSkill + 1) s₃ k₃ := ⟨rfl, by omega, by omega⟩
      split
      · have keeps : KeepsPace (s.castSkill + 1) (castSkill tables fuel) := by
          intro camp idx skillid rein s' k' reached due
          refine (ih camp idx skillid rein s' k' (by omega) (by unfold MAX_CAST_SKILL at *; omega) due).mono ?_
          exact fun _ _ _ later => ⟨later.phases, later.due, by have := later.grown; omega⟩
        exact (castQueued_paced keeps queued.grown queued.due).mono fun _ _ _ later =>
          ⟨later.phases.trans phases, later.due, later.grown⟩
      · exact monitored_pure ⟨phases, queued.due, queued.grown⟩

/-! ### The turns -/

theorem pace_phase {event : Event N} (phase : event.beat = .phase) {k : Pace} {s : FightManager N} (left : 0 < k.phases)
    (zero : s.castSkill = 0) : pace k (event, s) = some ⟨k.phases - 1, 0⟩ := by
  unfold pace
  rw [phase]
  exact if_pos ⟨left, zero⟩

section
variable [Number N] (tables : Tables N) {fuel : Nat} (enough : MAX_CAST_SKILL + 2 ≤ fuel) {k : Pace} {s : FightManager N}
include enough

theorem castSkill_keepsPace : KeepsPace 0 (castSkill tables fuel) := by
  intro camp idx skillid rein s k _ due
  refine (castSkill_paced tables fuel camp idx skillid rein s k (by omega) (by unfold MAX_CAST_SKILL at *; omega) due).mono ?_
  exact fun _ _ _ later => ⟨later.phases, later.due, Nat.zero_le _⟩

theorem doHero_paced (camp : Camp) (left : 0 < k.phases) :
    Paced k (doHero tables fuel camp) s fun _ _ last => last.phases = k.phases - 1 := by
  unfold doHero beginPhase
  refine paced_modify_bind (paced_mark_bind (pace_phase rfl left rfl) ?_)
  refine paced_play_bind fun cost s₁ same₁ => paced_play_bind fun _ s₂ same₂ => ?_
  refine paced_mark_bind (pace_other rfl _ _) (paced_play_bind fun there s₃ same₃ => ?_)
  have rest (comboIndex : Nat) (s : FightManager N) :
      Paced ⟨k.phases - 1, 0⟩ (if 0 < comboIndex then Traced.stop (.stop .error)
        else randomCostSkill (castSkill tables fuel) camp cost .hero 0 false) s
        fun _ _ last => last.phases = k.phases - 1 := by
    split
    · exact monitored_stop nofun
    · exact (randomCostSkill_paced (castSkill_keepsPace tables enough) (Nat.zero_le _) (Nat.zero_le _) ..).mono
        fun _ _ _ later => later.phases
  split
  · exact rest 0 s₃
  · exact paced_play_bind fun comboIndex s₄ same₄ => rest comboIndex s₄

theorem actSummon_paced (camp : Camp) (i : Nat) (due : k.clock ≤ 2 * s.castSkill) :
    Paced k (actSummon tables fuel camp i) s fun _ => Later k 0 := by
  unfold actSummon
  refine paced_play_bind fun there s₁ same₁ => ?_
  split
  · exact monitored_pure (.here (by omega) (by omega))
  · refine paced_play_bind fun dizzy s₂ same₂ => ?_
    split
    · exact monitored_pure (.here (by omega) (by omega))
    · exact paced_play_bind fun _ s₃ same₃ =>
        randomCostSkill_paced (castSkill_keepsPace tables enough) (Nat.zero_le _) (by omega) ..

theorem doSummon_paced (camp : Camp) (left : 0 < k.phases) :
    Paced k (doSummon tables fuel camp) s fun _ _ last => last.phases = k.phases - 1 := by
  unfold doSummon beginPhase
  refine paced_modify_bind (paced_mark_bind (pace_phase rfl left rfl) ?_)
  refine Monitored.mono (monitored_forM
    (fun _ s' (last : Pace) => last.phases = k.phases - 1 ∧ last.clock ≤ 2 * s'.castSkill) ?_ ⟨rfl, Nat.zero_le _⟩)
    fun _ _ _ inv => inv.1
  intro i _ s' k' inv
  exact (actSummon_paced tables enough camp i inv.2).mono fun _ _ _ later => ⟨later.phases.trans inv.1, later.due⟩

end

/-- The monitor stays where it is. -/
abbrev Quiet (m : Battle N Unit) : Prop := ∀ (k : Pace) (s : FightManager N), Paced k m s fun _ _ last => last = k

theorem quiet_forM {α : Type} {step : α → Battle N Unit} {rounds : List α} (quiet : ∀ round, Quiet (step round)) :
    Quiet (rounds.forM step) := by
  intro k s
  refine monitored_forM (fun _ _ last => last = k) ?_ rfl
  rintro round _ state _ rfl
  exact quiet round _ state

section
variable (tables : Tables N)

theorem updateStatus_quiet (camp : Camp) (pos i : Nat) : Quiet (updateStatus tables camp pos i) := by
  intro k s
  unfold updateStatus
  refine paced_play_bind fun there s₁ _ => paced_play_bind fun status s₂ _ => ?_
  split
  · exact monitored_pure rfl
  · split
    · refine paced_mark_bind (pace_other rfl _ _) (paced_play_bind fun id s₃ _ => ?_)
      exact monitored_modify rfl
    · exact (paced_play _ _ _).mono fun _ _ _ same => same.2

theorem updateFighter_quiet (camp : Camp) (pos : Nat) : Quiet (updateFighter tables camp pos) := by
  intro k s
  unfold updateFighter
  refine paced_play_bind fun there s₁ _ => ?_
  split
  · exact monitored_pure rfl
  · exact quiet_forM (updateStatus_quiet tables camp pos) k s₁

theorem updateCond_quiet : Quiet (updateCond tables) := by
  refine quiet_forM fun i k s => ?_
  refine monitored_bind (updateFighter_quiet tables .me i k s) ?_
  rintro _ s₁ _ rfl
  exact updateFighter_quiet tables .obs i _ s₁

variable [Number N]

theorem recordConditions_quiet (condition : ConditionType) : Quiet (recordConditions tables condition) := by
  intro k s
  refine paced_play_bind fun tb s₁ _ => ?_
  exact quiet_forM (fun op k s => (record_paced _ k s).mono fun _ _ _ same => same.2) k s₁

theorem doTurn_paced {fuel : Nat} (enough : MAX_CAST_SKILL + 2 ≤ fuel) (turn : Nat) {k : Pace} {s : FightManager N}
    (left : 4 ≤ k.phases) : Paced k (doTurn tables fuel turn) s fun _ _ last => last.phases = k.phases - 4 := by
  unfold doTurn
  refine paced_modify_bind (paced_mark_bind (pace_other rfl _ _) ?_)
  refine monitored_bind (recordConditions_quiet tables _ _ _) ?_
  rintro _ s₁ _ rfl
  apply paced_read_bind
  refine monitored_bind (doHero_paced tables enough _ (by omega)) fun _ s₂ k₂ phases₂ => ?_
  refine monitored_bind (doHero_paced tables enough _ (by omega)) fun _ s₃ k₃ phases₃ => ?_
  refine monitored_bind (doSummon_paced tables enough _ (by omega)) fun _ s₄ k₄ phases₄ => ?_
  refine monitored_bind (doSummon_paced tables enough _ (by omega)) fun _ s₅ k₅ phases₅ => ?_
  refine monitored_bind (recordConditions_quiet tables _ _ _) ?_
  rintro _ s₆ k₆ rfl
  refine monitored_bind (updateCond_quiet tables _ _) ?_
  rintro _ s₇ k₇ rfl
  refine paced_mark_bind (pace_other rfl _ _) ((paced_play _ _ _).mono ?_)
  rintro _ _ _ ⟨-, rfl⟩
  omega

theorem allTurns_paced {fuel : Nat} (enough : MAX_CAST_SKILL + 2 ≤ fuel) (s : FightManager N) (clock : Nat) :
    Paced ⟨4 * MAX_TURN, clock⟩ (allTurns tables fuel) s fun _ _ _ => True := by
  refine Monitored.mono (monitored_forM (fun rest _ (last : Pace) => 4 * rest.length ≤ last.phases) ?_ (le_refl (4 * MAX_TURN)))
    fun _ _ _ _ => trivial
  intro turn rest s k left
  rw [List.length_cons] at left
  exact (doTurn_paced tables enough turn (by omega)).mono fun _ _ last phases => by omega

end

/-! ### The bound -/

theorem coroutine_fed [Number N] (tables : Tables N) {fuel : Nat} (enough : MAX_CAST_SKILL + 2 ≤ fuel) (fighter1 fighter2 : Side N)
    (seed : Int) : (coroutine tables fuel fighter1 fighter2 seed).result ≠ .error .outOfFuel := by
  obtain ⟨last, -, ends⟩ := allTurns_paced tables enough (createManager fighter1 fighter2 seed) (2 * MAX_CAST_SKILL + 3)
  intro same
  have ended : (allTurns tables fuel (createManager fighter1 fighter2 seed)).result = .error .outOfFuel := same
  rw [ended] at ends
  exact ends rfl

/-- Tables without a row. -/
def noTables : Tables Exact where
  tbMonsterBox _ := none
  tbMonster _ := none
  tbSkill _ := none
  tbSkillResult _ := none
  tbStatus _ := none
  tbStatusType _ := none
  tbCharacter _ := none

end Tinygame.Fight
