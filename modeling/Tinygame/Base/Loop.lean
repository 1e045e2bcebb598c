import Mathlib.Data.Int.Order.Basic

/-!
# Loops

A `while` loop over a state, with a measure that every round lowers. The measure at the start bounds the rounds,
so the loop is a total function, and `whileDo_eq` unrolls it as the program does.
-/

namespace Tinygame
variable {σ τ : Type}

/-- At most so many rounds of the loop. -/
def rounds (cond : σ → Bool) (body : σ → σ) : Nat → σ → σ
  | 0, s => s
  | left + 1, s => if cond s then rounds cond body left (body s) else s

def whileDo (measure : σ → Nat) (cond : σ → Bool) (body : σ → σ) (s : σ) : σ := rounds cond body (measure s) s

def Lowers (measure : σ → Nat) (cond : σ → Bool) (body : σ → σ) : Prop :=
  ∀ s, cond s = true → measure (body s) < measure s

section
variable {measure : σ → Nat} {cond : σ → Bool} {body : σ → σ}

theorem rounds_of_stopped {s : σ} (stopped : cond s = false) (n : Nat) : rounds cond body n s = s := by
  cases n with
  | zero => rfl
  | succ n => simp [rounds, stopped]

/-- Rounds beyond the measure change nothing. -/
theorem rounds_enough (lowers : Lowers measure cond body) {n m : Nat} {s : σ} (left : measure s ≤ n) (right : measure s ≤ m) :
    rounds cond body n s = rounds cond body m s := by
  induction n generalizing m s with
  | zero =>
    have stopped : cond s = false := by
      apply Bool.eq_false_iff.mpr
      intro going
      have less := lowers s going
      omega
    rw [rounds_of_stopped stopped, rounds_of_stopped stopped]
  | succ n ih =>
    cases going : cond s with
    | false => rw [rounds_of_stopped going, rounds_of_stopped going]
    | true =>
      have less := lowers s going
      cases m with
      | zero => omega
      | succ m =>
        simp only [rounds, going, if_true]
        apply ih
        · omega
        · omega

theorem whileDo_eq (lowers : Lowers measure cond body) (s : σ) :
    whileDo measure cond body s = if cond s then whileDo measure cond body (body s) else s := by
  cases going : cond s with
  | false => simp [whileDo, rounds_of_stopped going]
  | true =>
    have less := lowers s going
    rw [if_pos rfl]
    unfold whileDo
    rw [rounds_enough lowers (Nat.le_refl _) (show measure s ≤ measure s - 1 + 1 by omega)]
    simp only [rounds, going, if_true]
    apply rounds_enough lowers
    · omega
    · omega

theorem whileDo_of_stopped {s : σ} (stopped : cond s = false) : whileDo measure cond body s = s :=
  rounds_of_stopped stopped _

/-- What holds where the loop stops, and is carried back over a round, holds of every state and where its loop ends. -/
theorem whileDo_related {R : σ → σ → Prop} (lowers : Lowers measure cond body) (stop : ∀ s, cond s = false → R s s)
    (back : ∀ s t, cond s = true → R (body s) t → R s t) (s : σ) : R s (whileDo measure cond body s) := by
  induction bound : measure s using Nat.strongRecOn generalizing s with
  | ind n ih =>
    rw [whileDo_eq lowers]
    cases going : cond s with
    | false => simpa using stop s going
    | true =>
      rw [if_pos rfl]
      apply back s _ going
      exact ih _ (bound ▸ lowers s going) _ rfl

/-- The loop ends because its condition fails. -/
theorem whileDo_stopped (lowers : Lowers measure cond body) (s : σ) : cond (whileDo measure cond body s) = false := by
  apply whileDo_related (R := fun _ t => cond t = false) lowers
  · intro s stopped
    exact stopped
  · intro s t _ stopped
    exact stopped

theorem whileDo_keeps {P : σ → Prop} (lowers : Lowers measure cond body) (keep : ∀ s, cond s = true → P s → P (body s))
    {s : σ} (start : P s) : P (whileDo measure cond body s) := by
  refine whileDo_related (R := fun s t => P s → P t) lowers ?_ ?_ s start
  · intro s _ holds
    exact holds
  · intro s t going later holds
    exact later (keep s going holds)

/-- A view of the state that goes through a loop of its own. -/
theorem whileDo_view {measure' : τ → Nat} {cond' : τ → Bool} {body' : τ → τ} (view : σ → τ) (lowers : Lowers measure cond body)
    (lowers' : Lowers measure' cond' body') (sameCond : ∀ s, cond' (view s) = cond s)
    (sameBody : ∀ s, cond s = true → view (body s) = body' (view s)) (s : σ) :
    view (whileDo measure cond body s) = whileDo measure' cond' body' (view s) := by
  apply whileDo_related (R := fun s t => view t = whileDo measure' cond' body' (view s)) lowers
  · intro s stopped
    rw [whileDo_of_stopped (by rw [sameCond, stopped])]
  · intro s t going later
    rw [later, sameBody s going, whileDo_eq lowers' (view s), sameCond, going, if_pos rfl]

end
end Tinygame
