import Tinygame.Base.Traced

/-!
# What a traced computation comes to

`Ends m s result s'` says that `m` goes from `s` to its end in `s'`, whatever points it passes. One rule for each
construct tells when a computation comes to what, in both directions.
-/

namespace Tinygame.Traced
variable {ν μ σ τ ε φ α β : Type}

def Ends (m : Traced ν σ ε α) (s : σ) (result : α) (s' : σ) : Prop := ∃ points, m s = ⟨points, s', .ok result⟩

section
variable {m : Traced ν σ ε α} {next : α → Traced ν σ ε β} {s s' s'' : σ} {result result' : α} {last : β}

theorem ends_iff : Ends m s result s' ↔ (m s).result = .ok result ∧ (m s).state = s' := by
  constructor
  · rintro ⟨points, ran⟩
    rw [ran]
    exact ⟨rfl, rfl⟩
  · rintro ⟨ended, rfl⟩
    exact ⟨(m s).points, by rw [← ended]⟩

theorem Ends.unique (first : Ends m s result s') (second : Ends m s result' s'') : result' = result ∧ s'' = s' := by
  obtain ⟨_, ran⟩ := first
  obtain ⟨_, ran'⟩ := second
  rw [ran] at ran'
  cases ran'
  exact ⟨rfl, rfl⟩

theorem ends_bind_iff : Ends (m >>= next) s last s'' ↔ ∃ result s', Ends m s result s' ∧ Ends (next result) s' last s'' := by
  constructor
  · rintro ⟨points, both⟩
    rcases ran : m s with ⟨early, s', reason | result⟩
    · rw [run_bind_error ran next] at both
      cases both
    · rw [run_bind_ok ran next] at both
      injection both with _ state ended
      exact ⟨result, s', ⟨early, ran⟩, ends_iff.mpr ⟨ended, state⟩⟩
  · rintro ⟨result, s', ⟨early, ran⟩, ⟨later, ran'⟩⟩
    exact ⟨early ++ later, by rw [run_bind_ok ran next, ran']⟩

/-- A first part that comes to one end is put in its place. -/
theorem ends_bind_of (first : Ends m s result s') : Ends (m >>= next) s last s'' ↔ Ends (next result) s' last s'' := by
  rw [ends_bind_iff]
  constructor
  · rintro ⟨other, mid, ran, rest⟩
    obtain ⟨rfl, rfl⟩ := first.unique ran
    exact rest
  · exact fun rest => ⟨result, s', first, rest⟩

theorem ends_pure_iff : Ends (Pure.pure result : Traced ν σ ε α) s result' s' ↔ result' = result ∧ s' = s := by
  refine ends_iff.trans ⟨?_, ?_⟩
  · rintro ⟨ended, rfl⟩
    exact ⟨(Except.ok.inj ended).symm, rfl⟩
  · rintro ⟨rfl, rfl⟩
    exact ⟨rfl, rfl⟩

theorem ends_pure (result : α) (s : σ) : Ends (Pure.pure result : Traced ν σ ε α) s result s := ends_pure_iff.mpr ⟨rfl, rfl⟩

theorem ends_read (s : σ) : Ends (read : Traced ν σ ε σ) s s s := ⟨[], rfl⟩

theorem ends_modify (f : σ → σ) (s : σ) : Ends (modify f : Traced ν σ ε Unit) s () (f s) := ⟨[], rfl⟩

theorem ends_mark (name : ν) (s : σ) : Ends (mark name : Traced ν σ ε Unit) s () s := ⟨_, rfl⟩

theorem not_ends_stop (reason : ε) : ¬ Ends (stop reason : Traced ν σ ε α) s result s' := by
  rintro ⟨_, ran⟩
  cases ran

theorem ends_require_iff {reason : ε} {value : Option α} :
    Ends (require reason value : Traced ν σ ε α) s result s' ↔ value = some result ∧ s' = s := by
  cases value with
  | none => exact iff_of_false (not_ends_stop reason) (by simp)
  | some found =>
    refine ends_pure_iff.trans ?_
    simp [eq_comm]

theorem ends_require {reason : ε} {value : Option α} (found : value = some result) :
    Ends (require reason value : Traced ν σ ε α) s result s := ends_require_iff.mpr ⟨found, rfl⟩

/-- On a part of a larger state. -/
theorem ends_within_iff {part : τ → σ} {put : σ → τ → τ} {name : ν → μ} {reason : ε → φ} {t t' : τ} :
    Ends (within part put name reason m) t result t' ↔ ∃ s', Ends m (part t) result s' ∧ t' = put s' t := by
  constructor
  · rintro ⟨points, ran⟩
    unfold within at ran
    rcases inner : m (part t) with ⟨early, s', stop | found⟩ <;> rw [inner] at ran
    · cases ran
    · cases ran
      exact ⟨s', ⟨early, inner⟩, rfl⟩
  · rintro ⟨s', ⟨early, inner⟩, rfl⟩
    refine ⟨early.map fun point => (name point.1, put point.2 t), ?_⟩
    unfold within
    rw [inner]
    rfl

end

/-! ### Loops -/

section
variable {step : α → Traced ν σ ε PUnit} {rounds : List α} {round : α} {s s' : σ}

theorem ends_forM_nil_iff : Ends (([] : List α).forM step) s () s' ↔ s' = s := by
  refine ends_pure_iff.trans ?_
  simp

theorem ends_forM_cons_iff :
    Ends ((round :: rounds).forM step) s () s' ↔ ∃ mid, Ends (step round) s () mid ∧ Ends (rounds.forM step) mid () s' := by
  show Ends (step round >>= fun _ => rounds.forM step) s () s' ↔ _
  rw [ends_bind_iff]
  exact ⟨fun ⟨_, mid, first, rest⟩ => ⟨mid, first, rest⟩, fun ⟨mid, first, rest⟩ => ⟨(), mid, first, rest⟩⟩

/-- What each round keeps of a relation that goes on, the loop keeps. -/
theorem Ends.forM_rel {R : σ → σ → Prop} (refl : ∀ s, R s s) (trans : ∀ s t u, R s t → R t u → R s u)
    (each : ∀ round s s', Ends (step round) s () s' → R s s') (ends : Ends (rounds.forM step) s () s') : R s s' := by
  induction rounds generalizing s with
  | nil =>
    obtain rfl := ends_forM_nil_iff.mp ends
    exact refl _
  | cons round rest ih =>
    obtain ⟨mid, first, later⟩ := ends_forM_cons_iff.mp ends
    exact trans _ _ _ (each _ _ _ first) (ih later)

end

end Tinygame.Traced
