import Mathlib.Data.List.Induction

/-!
# Answers along a run

A component that answers every operation is a function `step : σ → ε → α × σ`. Two components give the
same answers when a relation between their states makes every answer the same and is kept.
-/

namespace Tinygame
variable {σ τ ε α : Type} {step : σ → ε → α × σ} {step' : τ → ε → α × τ}

/-- What the operations are answered, one after the other. -/
def answers (step : σ → ε → α × σ) : σ → List ε → List α
  | _, [] => []
  | s, op :: rest => (step s op).1 :: answers step (step s op).2 rest

/-- The state the operations lead to. -/
def after (step : σ → ε → α × σ) (s : σ) (ops : List ε) : σ := ops.foldl (fun s op => (step s op).2) s

@[simp] theorem after_nil (s : σ) : after step s [] = s := rfl

@[simp] theorem after_cons (s : σ) (op : ε) (rest : List ε) : after step s (op :: rest) = after step (step s op).2 rest := rfl

theorem after_snoc (s : σ) (ops : List ε) (op : ε) : after step s (ops ++ [op]) = (step (after step s ops) op).2 := by
  simp [after]

section
variable (rel : σ → τ → Prop)

/-- The second component can be put in the place of the first. -/
structure Refines (step : σ → ε → α × σ) (step' : τ → ε → α × τ) : Prop where
  answer : ∀ s t op, rel s t → (step s op).1 = (step' t op).1
  next : ∀ s t op, rel s t → rel (step s op).2 (step' t op).2

variable {rel} {s : σ} {t : τ}

theorem Refines.answers_eq (refines : Refines rel step step') (start : rel s t) (ops : List ε) :
    answers step s ops = answers step' t ops := by
  induction ops generalizing s t with
  | nil => rfl
  | cons op rest ih =>
    have first := refines.answer s t op start
    have later := ih (refines.next s t op start)
    unfold answers
    rw [first, later]

end

/-- An invariant of the operations so far and the state they have led to. -/
theorem after_invariant (inv : List ε → σ → Prop) {start : σ} (empty : inv [] start)
    (keep : ∀ past s op, s = after step start past → inv past s → inv (past ++ [op]) (step s op).2) (ops : List ε) :
    inv ops (after step start ops) := by
  induction ops using List.reverseRecOn with
  | nil => exact empty
  | append_singleton past op ih =>
    rw [after_snoc]
    exact keep past _ op rfl ih

end Tinygame
