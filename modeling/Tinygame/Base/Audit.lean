import Tinygame.Base.Traced

/-!
# Computations that keep a log

The state of a computation holds a log, and some of the points it passes are worth an entry. Between such a point and
the entry it is worth, the entry is due.
-/

namespace Tinygame.Traced

/-- What the log says, what a point is worth, and what a stop may leave behind with an entry due. -/
structure Audit (ν σ ε κ : Type) where
  log : σ → List κ
  worth : ν → List κ
  halted : ε → σ → List κ → Prop

namespace Audit
variable {ν μ σ τ ε φ κ α β : Type} (audit : Audit ν σ ε κ)

def earned (points : List (ν × σ)) : List κ := points.flatMap fun point => audit.worth point.1

/-- Where `owed` is due, the log gains what was due and what the points are worth, less what is due in the end. -/
def Agrees (m : Traced ν σ ε α) (s : σ) (owed : List κ) (post : α → σ → List κ → Prop) : Prop :=
  ∃ due, audit.log (m s).state ++ due = audit.log s ++ owed ++ audit.earned (m s).points ∧
    match (m s).result with
    | .ok result => post result (m s).state due
    | .error reason => audit.halted reason (m s).state due

section
variable {audit} {s : σ} {owed : List κ} {m : Traced ν σ ε α} {next : α → Traced ν σ ε β}
  {post : β → σ → List κ → Prop}

theorem agrees_pure {result : β} (met : post result s owed) : audit.Agrees (Pure.pure result) s owed post :=
  ⟨owed, by simp [earned], met⟩

theorem agrees_stop {reason : ε} (met : audit.halted reason s owed) : audit.Agrees (stop reason) s owed post :=
  ⟨owed, by simp [earned], met⟩

theorem agrees_bind (between : α → σ → List κ → Prop) (first : audit.Agrees m s owed between)
    (rest : ∀ result s' due, between result s' due → audit.Agrees (next result) s' due post) :
    audit.Agrees (m >>= next) s owed post := by
  obtain ⟨due, balance, met⟩ := first
  rcases ran : m s with ⟨points, state, reason | result⟩
  · rw [ran] at balance met
    unfold Agrees
    rw [run_bind_error ran next]
    exact ⟨due, balance, met⟩
  · rw [ran] at balance met
    obtain ⟨left, later, last⟩ := rest result state due met
    unfold Agrees
    rw [run_bind_ok ran next]
    refine ⟨left, ?_, last⟩
    have split : audit.earned (points ++ (next result state).points) = audit.earned points ++ audit.earned (next result state).points :=
      List.flatMap_append
    rw [later, balance, split, List.append_assoc _ (audit.earned points)]

theorem Agrees.mono {m : Traced ν σ ε β} {weaker : β → σ → List κ → Prop} (agrees : audit.Agrees m s owed post)
    (weaken : ∀ result s' due, post result s' due → weaker result s' due) : audit.Agrees m s owed weaker := by
  obtain ⟨due, balance, met⟩ := agrees
  refine ⟨due, balance, ?_⟩
  split <;> rename_i ended <;> rw [ended] at met
  · exact weaken _ _ _ met
  · exact met

theorem agrees_read_bind {next : σ → Traced ν σ ε β} (rest : audit.Agrees (next s) s owed post) :
    audit.Agrees (read >>= next) s owed post := by
  obtain ⟨due, balance, met⟩ := rest
  unfold Agrees
  rw [run_bind_ok (run_read s) next]
  exact ⟨due, balance, met⟩

/-- A change pays what it writes into the log. -/
theorem agrees_modify {f : σ → σ} (due : List κ) {post : Unit → σ → List κ → Prop}
    (paid : audit.log (f s) ++ due = audit.log s ++ owed) (met : post () (f s) due) : audit.Agrees (modify f) s owed post :=
  ⟨due, by simpa [earned] using paid, met⟩

theorem agrees_mark {name : ν} {post : Unit → σ → List κ → Prop} (met : post () s (owed ++ audit.worth name)) :
    audit.Agrees (mark name) s owed post :=
  ⟨owed ++ audit.worth name, by simp [earned], met⟩

theorem agrees_forM {step : α → Traced ν σ ε PUnit} (inv : List α → σ → List κ → Prop)
    (keep : ∀ round rest s due, inv (round :: rest) s due → audit.Agrees (step round) s due fun _ => inv rest)
    {rounds : List α} (start : inv rounds s owed) : audit.Agrees (rounds.forM step) s owed fun _ => inv [] := by
  induction rounds generalizing s owed with
  | nil => exact agrees_pure start
  | cons round rest ih =>
    show audit.Agrees (step round >>= fun _ => rest.forM step) s owed fun _ => inv []
    exact agrees_bind _ (keep round rest s owed start) fun _ s' due kept => ih kept

/-- A part of the state that neither holds the log nor passes points that are worth anything. -/
theorem agrees_within {part : τ → σ} {put : σ → τ → τ} {name : ν → μ} {reason : ε → φ} {whole : Audit μ τ φ κ} {t : τ}
    {m : Traced ν σ ε β} {post : β → τ → List κ → Prop} (outside : ∀ s, whole.log (put s t) = whole.log t)
    (free : ∀ n, whole.worth (name n) = [])
    (holds : Holds ⟨fun _ _ => True, fun _ _ => True, fun r s => whole.halted (reason r) (put s t) owed⟩ m (part t)
      fun result s => post result (put s t) owed) : whole.Agrees (within part put name reason m) t owed post := by
  obtain ⟨-, last⟩ := holds fun _ _ => trivial
  unfold Agrees within
  rcases ran : m (part t) with ⟨points, state, stopped | result⟩
  all_goals
    rw [ran] at last
    refine ⟨owed, ?_, last⟩
    have nothing : whole.earned (points.map fun point => (name point.1, put point.2 t)) = [] := by
      simp [earned, List.flatMap_map, free]
    rw [nothing, outside, List.append_nil]

end

end Audit

end Tinygame.Traced
