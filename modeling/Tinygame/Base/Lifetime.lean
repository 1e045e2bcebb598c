import Mathlib.Data.List.Induction
import Tinygame.Base.Run

/-!
# The life of an entry

A place of the state that is empty or holds one value. A step may open the place where it is empty; a value there lives
on, changed or not, or is gone after the step. What the place holds after a run was opened by one event of the run and
lived through all later ones.
-/

namespace Tinygame
variable {σ ε α : Type} {step : σ → ε → σ}

theorem lived_concat (lives : α → ε → Option α) (later : List ε) (e : ε) (first : α) :
    (later ++ [e]).foldlM lives first = (later.foldlM lives first).bind fun a => lives a e := by
  rw [List.foldlM_append]
  apply bind_congr
  intro a
  exact bind_pure (lives a e)

section
variable (entry : σ → Option α) (opens : σ → ε → Option α) (lives : α → ε → Option α) (inv : σ → Prop)
  (keep : ∀ s e, inv s → inv (step s e))
  (next : ∀ s e, inv s → entry (step s e) = (entry s).elim (opens s e) fun a => lives a e)
include keep next

theorem entry_run {s : σ} (start : inv s) {first a : α} (found : entry s = some first) {later : List ε}
    (lived : later.foldlM lives first = some a) : entry (run step s later) = some a := by
  induction later generalizing s first with
  | nil => exact found.trans lived
  | cons e rest ih =>
    rw [List.foldlM_cons] at lived
    obtain ⟨between, stays, lived⟩ := Option.bind_eq_some_iff.mp lived
    apply ih (keep s e start) ?_ lived
    rw [next s e start, found]
    exact stays

/-- `inv` carries what the steps rely on. -/
theorem entry_iff_lived {s : σ} (start : inv s) (empty : entry s = none) (events : List ε) (a : α) :
    entry (run step s events) = some a ↔ ∃ past e later first, events = past ++ e :: later ∧
      entry (run step s past) = none ∧ opens (run step s past) e = some first ∧ later.foldlM lives first = some a := by
  constructor
  · intro there
    induction events using List.reverseRecOn generalizing a with
    | nil =>
      rw [run_nil, empty] at there
      cases there
    | append_singleton events last ih =>
      rw [run_append, run_cons, run_nil, next _ last (run_keeps inv keep start events)] at there
      cases was : entry (run step s events) with
      | none =>
        rw [was] at there
        exact ⟨events, last, [], a, rfl, was, there, rfl⟩
      | some before =>
        rw [was] at there
        obtain ⟨past, e, later, first, rfl, free, opened, lived⟩ := ih before was
        refine ⟨past, e, later ++ [last], first, by simp, free, opened, ?_⟩
        rw [lived_concat, lived]
        exact there
  · rintro ⟨past, e, later, first, rfl, free, opened, lived⟩
    have sound := run_keeps inv keep start past
    rw [run_append, run_cons]
    apply entry_run entry opens lives inv keep next (keep _ e sound) ?_ lived
    rw [next _ e sound, free]
    exact opened

end

end Tinygame
