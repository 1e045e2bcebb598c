import Tinygame.Base.Run

/-!
# Computations that leave a trace

A `Traced` computation changes a state, may stop before its end, and leaves the points it passes: what it
was about to do, and the state it was in. `Holds` is a triple for such computations. It may assume of every
point what its terms call careful, and shows of every point, of every stop and of the result what they ask.
-/

namespace Tinygame

structure Trail (ν σ ε α : Type) where
  points : List (ν × σ)
  state : σ
  result : Except ε α

/-- `ν` names the points, `ε` the ways to stop. -/
def Traced (ν σ ε α : Type) := σ → Trail ν σ ε α

namespace Traced
variable {ν μ σ τ ε φ α β : Type}

def pure (result : α) : Traced ν σ ε α := fun s => ⟨[], s, .ok result⟩

def bind (m : Traced ν σ ε α) (next : α → Traced ν σ ε β) : Traced ν σ ε β := fun s =>
  match m s with
  | ⟨points, state, .error stop⟩ => ⟨points, state, .error stop⟩
  | ⟨points, state, .ok result⟩ =>
    match next result state with
    | ⟨later, last, ended⟩ => ⟨points ++ later, last, ended⟩

instance : Monad (Traced ν σ ε) where
  pure := pure
  bind := bind

def read : Traced ν σ ε σ := fun s => ⟨[], s, .ok s⟩

def modify (f : σ → σ) : Traced ν σ ε Unit := fun s => ⟨[], f s, .ok ()⟩

def stop (reason : ε) : Traced ν σ ε α := fun s => ⟨[], s, .error reason⟩

/-- Pass a point. -/
def mark (name : ν) : Traced ν σ ε Unit := fun s => ⟨[(name, s)], s, .ok ()⟩

/-- Go on with the value, or stop where there is none. -/
def require (reason : ε) : Option α → Traced ν σ ε α
  | some result => pure result
  | none => stop reason

/-- Run on a part of a larger state. -/
def within (part : τ → σ) (put : σ → τ → τ) (name : ν → μ) (reason : ε → φ) (m : Traced ν σ ε α) : Traced μ τ φ α := fun t =>
  match m (part t) with
  | ⟨points, state, result⟩ => ⟨points.map fun point => (name point.1, put point.2 t), put state t, result.mapError reason⟩

/-! ### Running a computation -/

@[simp] theorem run_pure (result : α) (s : σ) : (Pure.pure result : Traced ν σ ε α) s = ⟨[], s, .ok result⟩ := rfl
@[simp] theorem run_read (s : σ) : (read : Traced ν σ ε σ) s = ⟨[], s, .ok s⟩ := rfl
@[simp] theorem run_modify (f : σ → σ) (s : σ) : (modify f : Traced ν σ ε Unit) s = ⟨[], f s, .ok ()⟩ := rfl
@[simp] theorem run_stop (reason : ε) (s : σ) : (stop reason : Traced ν σ ε α) s = ⟨[], s, .error reason⟩ := rfl
@[simp] theorem run_mark (name : ν) (s : σ) : (mark name : Traced ν σ ε Unit) s = ⟨[(name, s)], s, .ok ()⟩ := rfl

theorem run_bind_error {m : Traced ν σ ε α} {s : σ} {points : List (ν × σ)} {state : σ} {reason : ε}
    (first : m s = ⟨points, state, .error reason⟩) (next : α → Traced ν σ ε β) :
    (m >>= next) s = ⟨points, state, .error reason⟩ := by
  show bind m next s = _
  unfold bind
  rw [first]

theorem run_bind_ok {m : Traced ν σ ε α} {s : σ} {points : List (ν × σ)} {state : σ} {result : α}
    (first : m s = ⟨points, state, .ok result⟩) (next : α → Traced ν σ ε β) :
    (m >>= next) s = ⟨points ++ (next result state).points, (next result state).state, (next result state).result⟩ := by
  show bind m next s = _
  unfold bind
  rw [first]

theorem bind_pure (m : Traced ν σ ε α) : (m >>= Pure.pure) = m := by
  funext s
  rcases ran : m s with ⟨points, state, reason | result⟩
  · rw [run_bind_error ran]
  · rw [run_bind_ok ran]
    simp

theorem bind_assoc {γ : Type} (m : Traced ν σ ε α) (next : α → Traced ν σ ε β) (last : β → Traced ν σ ε γ) :
    (m >>= next) >>= last = m >>= fun result => next result >>= last := by
  funext s
  rcases ran : m s with ⟨points, state, reason | result⟩
  · rw [run_bind_error (run_bind_error ran next) last, run_bind_error ran]
  · have both := run_bind_ok ran next
    rw [run_bind_ok ran]
    rcases ran' : next result state with ⟨later, state', reason | result'⟩
    · rw [ran'] at both
      rw [run_bind_error both, run_bind_error ran']
    · rw [ran'] at both
      rw [run_bind_ok both, run_bind_ok ran', List.append_assoc]

instance : LawfulMonad (Traced ν σ ε) := LawfulMonad.mk' _ bind_pure (fun _ _ => rfl) bind_assoc

/-! ### Triples -/

/-- What a proof about a computation may assume of the points, and what it has to show of points and stops. -/
structure Terms (ν σ ε : Type) where
  careful : ν → σ → Prop
  always : ν → σ → Prop
  stopped : ε → σ → Prop

/-- Where every point is careful, the rest of the terms are met, and the result meets `post`. -/
def Holds (terms : Terms ν σ ε) (m : Traced ν σ ε α) (s : σ) (post : α → σ → Prop) : Prop :=
  (∀ point ∈ (m s).points, terms.careful point.1 point.2) →
    (∀ point ∈ (m s).points, terms.always point.1 point.2) ∧
      match (m s).result with
      | .ok result => post result (m s).state
      | .error reason => terms.stopped reason (m s).state

variable {terms : Terms ν σ ε} {s : σ} {post : β → σ → Prop}

theorem holds_pure {result : β} (met : post result s) : Holds terms (Pure.pure result) s post :=
  fun _ => ⟨by simp, met⟩

theorem holds_modify {f : σ → σ} {post : Unit → σ → Prop} (met : post () (f s)) : Holds terms (modify f) s post :=
  fun _ => ⟨by simp, met⟩

theorem holds_stop {reason : ε} (met : terms.stopped reason s) : Holds terms (stop reason) s post :=
  fun _ => ⟨by simp, met⟩

theorem holds_bind {m : Traced ν σ ε α} {next : α → Traced ν σ ε β} {between : α → σ → Prop}
    (first : Holds terms m s between)
    (rest : ∀ result state, between result state → Holds terms (next result) state post) :
    Holds terms (m >>= next) s post := by
  intro careful
  unfold Holds at first
  rcases ran : m s with ⟨points, state, reason | result⟩
  · rw [run_bind_error ran next] at careful ⊢
    rw [ran] at first
    exact first careful
  · rw [run_bind_ok ran next] at careful ⊢
    rw [ran] at first
    obtain ⟨here, middle⟩ := first fun point member => careful point (List.mem_append_left _ member)
    obtain ⟨there, last⟩ := rest result state middle fun point member => careful point (List.mem_append_right _ member)
    refine ⟨fun point member => ?_, last⟩
    exact (List.mem_append.mp member).elim (here point) (there point)

theorem Holds.mono {m : Traced ν σ ε β} {weaker : β → σ → Prop} (holds : Holds terms m s post)
    (weaken : ∀ result state, post result state → weaker result state) : Holds terms m s weaker := by
  intro careful
  obtain ⟨here, last⟩ := holds careful
  refine ⟨here, ?_⟩
  split <;> rename_i same
  · rw [same] at last
    exact weaken _ _ last
  · rw [same] at last
    exact last

theorem holds_require {reason : ε} {value : Option β} (found : ∀ result, value = some result → post result s)
    (missing : value = none → terms.stopped reason s) : Holds terms (require reason value) s post := by
  cases value with
  | none => exact holds_stop (missing rfl)
  | some result => exact holds_pure (found result rfl)

section
variable {next : α → Traced ν σ ε β}

/-- What a first part that passes no point comes to is put in its place. -/
theorem holds_run_bind {m : Traced ν σ ε α} {result : α} {state : σ} (ran : m s = ⟨[], state, .ok result⟩)
    (rest : Holds terms (next result) state post) : Holds terms (m >>= next) s post := by
  intro careful
  rw [run_bind_ok ran next] at careful ⊢
  exact rest careful

theorem holds_run_error {m : Traced ν σ ε α} {reason : ε} {state : σ} (ran : m s = ⟨[], state, .error reason⟩)
    (met : terms.stopped reason state) : Holds terms (m >>= next) s post := by
  intro _
  rw [run_bind_error ran next]
  exact ⟨nofun, met⟩

theorem holds_pure_bind {result : α} (rest : Holds terms (next result) s post) : Holds terms (Pure.pure result >>= next) s post :=
  holds_run_bind rfl rest

theorem holds_require_bind {reason : ε} {value : Option α} {result : α} (found : value = some result)
    (rest : Holds terms (next result) s post) : Holds terms (require reason value >>= next) s post := by
  rw [found]
  exact holds_pure_bind rest

theorem holds_read_bind {next : σ → Traced ν σ ε β} (rest : Holds terms (next s) s post) : Holds terms (read >>= next) s post :=
  holds_run_bind rfl rest

theorem holds_modify_bind {f : σ → σ} {next : Unit → Traced ν σ ε β} (rest : Holds terms (next ()) (f s) post) :
    Holds terms (modify f >>= next) s post :=
  holds_run_bind rfl rest

theorem holds_mark_bind {name : ν} {next : Unit → Traced ν σ ε β}
    (rest : terms.careful name s → terms.always name s ∧ Holds terms (next ()) s post) :
    Holds terms (mark name >>= next) s post := by
  intro careful
  rw [run_bind_ok (run_mark name s) next] at careful ⊢
  obtain ⟨here, later⟩ := rest (careful (name, s) (List.mem_cons_self ..))
  obtain ⟨points, last⟩ := later fun point member => careful point (List.mem_cons_of_mem _ member)
  exact ⟨List.forall_mem_cons.mpr ⟨here, points⟩, last⟩

end

/-- A loop keeps what each of its rounds keeps, also of the rounds to come. -/
theorem holds_foldlM {step : β → α → Traced ν σ ε β} (inv : List α → β → σ → Prop)
    (keep : ∀ round rest acc state, inv (round :: rest) acc state → Holds terms (step acc round) state (inv rest))
    {rounds : List α} {acc : β} (start : inv rounds acc s) : Holds terms (rounds.foldlM step acc) s (inv []) := by
  induction rounds generalizing acc s with
  | nil => exact holds_pure start
  | cons round rest ih =>
    rw [List.foldlM_cons]
    exact holds_bind (keep round rest acc s start) fun acc' state' kept => ih kept

theorem holds_forM {step : α → Traced ν σ ε PUnit} (inv : List α → σ → Prop)
    (keep : ∀ round rest state, inv (round :: rest) state → Holds terms (step round) state fun _ => inv rest)
    {rounds : List α} (start : inv rounds s) : Holds terms (rounds.forM step) s fun _ => inv [] := by
  induction rounds generalizing s with
  | nil => exact holds_pure start
  | cons round rest ih =>
    show Holds terms (step round >>= fun _ => rest.forM step) s fun _ => inv []
    exact holds_bind (keep round rest s start) fun _ state' kept => ih kept

/-- What holds of a computation on a part holds of it on the whole. -/
theorem holds_within {part : τ → σ} {put : σ → τ → τ} {name : ν → μ} {reason : ε → φ} {whole : Terms μ τ φ} {t : τ}
    {m : Traced ν σ ε β} {post : β → τ → Prop}
    (holds : Holds ⟨fun n s => whole.careful (name n) (put s t), fun n s => whole.always (name n) (put s t),
      fun r s => whole.stopped (reason r) (put s t)⟩ m (part t) fun result s => post result (put s t)) :
    Holds whole (within part put name reason m) t post := by
  intro careful
  unfold Holds at holds
  unfold within at careful ⊢
  rcases ran : m (part t) with ⟨points, state, stop | result⟩
  all_goals
    rw [ran] at careful holds
    obtain ⟨here, last⟩ := holds fun point member => careful _ (List.mem_map_of_mem member)
    refine ⟨fun point member => ?_, last⟩
    obtain ⟨inner, there, rfl⟩ := List.mem_map.mp member
    exact here inner there

/-! ### What a computation keeps -/

def keeping (R : σ → Prop) : Terms ν σ ε := ⟨fun _ _ => True, fun _ _ => True, fun _ => R⟩

/-- However the computation ends, it ends in a state that keeps `R`. -/
def Keeps (R : σ → Prop) (m : Traced ν σ ε α) (s : σ) : Prop := Holds (keeping R) m s fun _ => R

section
variable {R : σ → Prop} {m : Traced ν σ ε α} {next : α → Traced ν σ ε β}

theorem Keeps.state (keeps : Keeps R m s) : R (m s).state := by
  obtain ⟨-, last⟩ := keeps fun _ _ => trivial
  split at last <;> exact last

theorem keeps_bind (first : Keeps R m s) (rest : ∀ result state, R state → Keeps R (next result) state) :
    Keeps R (m >>= next) s :=
  holds_bind first rest

theorem keeps_mark_bind {name : ν} {next : Unit → Traced ν σ ε β} (rest : Keeps R (next ()) s) : Keeps R (mark name >>= next) s :=
  holds_mark_bind fun _ => ⟨trivial, rest⟩

theorem keeps_require {reason : ε} {value : Option α} (kept : R s) :
    Keeps R (require reason value : Traced ν σ ε α) s :=
  holds_require (fun _ _ => kept) fun _ => kept

theorem keeps_require_bind {reason : ε} {value : Option α} (kept : R s) (rest : ∀ result, value = some result → Keeps R (next result) s) :
    Keeps R (require reason value >>= next) s := by
  cases value with
  | none => exact holds_run_error rfl kept
  | some result => exact holds_pure_bind (rest result rfl)

theorem keeps_forM {step : α → Traced ν σ ε PUnit} (each : ∀ round state, R state → Keeps R (step round) state)
    (rounds : List α) (kept : R s) : Keeps R (rounds.forM step) s :=
  holds_forM (fun _ => R) (fun round _ => each round) kept

theorem keeps_foldlM {step : β → α → Traced ν σ ε β} (each : ∀ acc round state, R state → Keeps R (step acc round) state)
    (rounds : List α) (acc : β) (kept : R s) : Keeps R (rounds.foldlM step acc) s :=
  holds_foldlM (fun _ _ => R) (fun round _ acc => each acc round) kept

theorem keeps_within {part : τ → σ} {put : σ → τ → τ} {name : ν → μ} {reason : ε → φ} {t : τ} {R : τ → Prop}
    (keeps : Keeps (fun s => R (put s t)) m (part t)) : Keeps R (within part put name reason m) t :=
  holds_within keeps

end

/-- What does nothing on any terms. -/
theorem run_of_holds {m : Traced ν σ ε α} {result : α}
    (holds : ∀ terms : Terms ν σ ε, Holds terms m s fun result' s' => result' = result ∧ s' = s) : m s = ⟨[], s, .ok result⟩ := by
  obtain ⟨never, last⟩ := holds ⟨fun _ _ => True, fun _ _ => False, fun _ _ => False⟩ fun _ _ => trivial
  rcases ran : m s with ⟨points, state, reason | result'⟩
  all_goals
    rw [ran] at never last
    obtain rfl := List.eq_nil_iff_forall_not_mem.mpr never
  · exact last.elim
  · obtain ⟨rfl, rfl⟩ := last
    rfl

/-! ### Invariants -/

/-- From every state of the invariant `R` to one of it, with a result that meets `Q`. -/
def Preserves (terms : Terms ν σ ε) (R : σ → Prop) (m : Traced ν σ ε α) (Q : α → Prop) : Prop :=
  ∀ s, R s → Holds terms m s fun result s' => Q result ∧ R s'

section
variable {terms : Terms ν σ ε} {R : σ → Prop} {m : Traced ν σ ε α} {next : α → Traced ν σ ε β} {P : α → Prop} {Q : β → Prop}

theorem preserves_pure {result : β} (met : Q result) : Preserves terms R (Pure.pure result) Q :=
  fun _ kept => holds_pure ⟨met, kept⟩

theorem preserves_bind (first : Preserves terms R m P) (rest : ∀ result, P result → Preserves terms R (next result) Q) :
    Preserves terms R (m >>= next) Q :=
  fun s kept => holds_bind (first s kept) fun result state ⟨met, kept⟩ => rest result met state kept

theorem Preserves.holds {s : σ} (preserves : Preserves terms R m P) (kept : R s) : Holds terms m s fun _ => R :=
  (preserves s kept).mono fun _ _ => And.right

theorem Preserves.mono {Q' : β → Prop} {m : Traced ν σ ε β} (preserves : Preserves terms R m Q)
    (weaken : ∀ result, Q result → Q' result) : Preserves terms R m Q' :=
  fun s kept => (preserves s kept).mono fun result _ ⟨met, kept⟩ => ⟨weaken result met, kept⟩

theorem preserves_read : Preserves terms R read R := fun _ kept _ => ⟨by simp, kept, kept⟩

theorem preserves_modify {f : σ → σ} (each : ∀ s, R s → R (f s)) : Preserves terms R (modify f) fun _ => True :=
  fun s kept => holds_modify ⟨trivial, each s kept⟩

theorem preserves_stop {reason : ε} (met : ∀ s, R s → terms.stopped reason s) : Preserves terms R (stop reason) Q :=
  fun s kept => holds_stop (met s kept)

theorem preserves_mark {name : ν} (met : ∀ s, R s → terms.always name s) : Preserves terms R (mark name) fun _ => True :=
  fun s kept _ => ⟨fun _ member => List.mem_singleton.mp member ▸ met s kept, trivial, kept⟩

theorem preserves_require {reason : ε} {value : Option β} (found : ∀ result, value = some result → Q result)
    (met : ∀ s, R s → terms.stopped reason s) : Preserves terms R (require reason value) Q :=
  fun s kept => holds_require (fun result same => ⟨found result same, kept⟩) fun _ => met s kept

theorem preserves_foldlM {step : β → α → Traced ν σ ε β} (each : ∀ acc round, Q acc → Preserves terms R (step acc round) Q)
    (rounds : List α) {acc : β} (start : Q acc) : Preserves terms R (rounds.foldlM step acc) Q :=
  fun _ kept => holds_foldlM (fun _ acc s => Q acc ∧ R s) (fun round _ acc state met => each acc round met.1 state met.2) ⟨start, kept⟩

theorem preserves_forM {step : α → Traced ν σ ε PUnit} (each : ∀ round, Preserves terms R (step round) fun _ => True)
    (rounds : List α) : Preserves terms R (rounds.forM step) fun _ => True :=
  fun _ kept => (holds_forM (fun _ => R) (fun round _ state kept => (each round state kept).mono fun _ _ => And.right) kept).mono
    fun _ _ kept => ⟨trivial, kept⟩

end

/-! ### Monitors -/

/-- The monitor accepts the points from `k` on; `post` sees where it is at the end. -/
def Monitored {κ : Type} (monitor : κ → ν × σ → Option κ) (stopped : ε → Prop) (k : κ) (m : Traced ν σ ε α) (s : σ)
    (post : α → σ → κ → Prop) : Prop :=
  ∃ last, (m s).points.foldlM monitor k = some last ∧
    match (m s).result with
    | .ok result => post result (m s).state last
    | .error reason => stopped reason

section
variable {κ : Type} {monitor : κ → ν × σ → Option κ} {stopped : ε → Prop} {k : κ} {s : σ} {post : β → σ → κ → Prop}

theorem monitored_pure {result : β} (met : post result s k) : Monitored monitor stopped k (Pure.pure result) s post :=
  ⟨k, rfl, met⟩

theorem monitored_modify {f : σ → σ} {post : Unit → σ → κ → Prop} (met : post () (f s) k) :
    Monitored monitor stopped k (modify f) s post :=
  ⟨k, rfl, met⟩

theorem monitored_stop {reason : ε} (met : stopped reason) : Monitored monitor stopped k (stop reason) s post :=
  ⟨k, rfl, met⟩

/-- What a first part comes to is put in its place. -/
theorem monitored_run_bind {m : Traced ν σ ε α} {next : α → Traced ν σ ε β} {points : List (ν × σ)} {result : α} {state : σ} {mid : κ}
    (ran : m s = ⟨points, state, .ok result⟩) (accepts : points.foldlM monitor k = some mid)
    (rest : Monitored monitor stopped mid (next result) state post) : Monitored monitor stopped k (m >>= next) s post := by
  obtain ⟨last, goesOn, met⟩ := rest
  unfold Monitored
  rw [run_bind_ok ran next]
  refine ⟨last, ?_, met⟩
  show (points ++ (next result state).points).foldlM monitor k = some last
  rw [List.foldlM_append, accepts]
  exact goesOn

theorem monitored_bind {m : Traced ν σ ε α} {next : α → Traced ν σ ε β} {between : α → σ → κ → Prop}
    (first : Monitored monitor stopped k m s between)
    (rest : ∀ result state mid, between result state mid → Monitored monitor stopped mid (next result) state post) :
    Monitored monitor stopped k (m >>= next) s post := by
  obtain ⟨mid, accepts, ends⟩ := first
  rcases ran : m s with ⟨points, state, reason | result⟩
  · rw [ran] at accepts ends
    unfold Monitored
    rw [run_bind_error ran next]
    exact ⟨mid, accepts, ends⟩
  · rw [ran] at accepts ends
    exact monitored_run_bind ran accepts (rest result state mid ends)

theorem Monitored.mono {m : Traced ν σ ε β} {weaker : β → σ → κ → Prop} (holds : Monitored monitor stopped k m s post)
    (weaken : ∀ result state last, post result state last → weaker result state last) :
    Monitored monitor stopped k m s weaker := by
  obtain ⟨last, accepts, ends⟩ := holds
  refine ⟨last, accepts, ?_⟩
  split <;> rename_i same
  · rw [same] at ends
    exact weaken _ _ _ ends
  · rw [same] at ends
    exact ends

/-- A loop keeps what each of its rounds keeps, also of the rounds to come. -/
theorem monitored_forM {step : α → Traced ν σ ε PUnit} (inv : List α → σ → κ → Prop)
    (keep : ∀ round rest state k, inv (round :: rest) state k →
      Monitored monitor stopped k (step round) state fun _ => inv rest)
    {rounds : List α} (start : inv rounds s k) : Monitored monitor stopped k (rounds.forM step) s fun _ => inv [] := by
  induction rounds generalizing s k with
  | nil => exact monitored_pure start
  | cons round rest ih =>
    show Monitored monitor stopped k (step round >>= fun _ => rest.forM step) s fun _ => inv []
    exact monitored_bind (keep round rest s k start) fun _ state mid kept => ih kept

end

end Traced
end Tinygame
