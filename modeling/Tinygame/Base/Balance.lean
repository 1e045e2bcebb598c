import Mathlib.Algebra.BigOperators.Group.Finset.Basic
import Mathlib.Algebra.Order.BigOperators.Group.Finset
import Mathlib.Data.Finset.Lattice.Fold

/-!
# Handing out to the least loaded

Units are handed out one after the other, each to a member whose load is the least then. However the
same number of units is handed out otherwise, the fullest member that gets one is not less full.
-/

namespace Tinygame.Balance
variable {ι : Type} [DecidableEq ι] {members : Finset ι} {load load' : ι → ℤ} {chosen : List ι} {i j : ι}

def Least (members : Finset ι) (load : ι → ℤ) (i : ι) : Prop := i ∈ members ∧ ∀ j ∈ members, load i ≤ load j

/-- The member gets one more. -/
def bump (load : ι → ℤ) (i : ι) : ι → ℤ := fun j => if j = i then load j + 1 else load j

@[simp] theorem bump_self (load : ι → ℤ) (i : ι) : bump load i i = load i + 1 := if_pos rfl

@[simp] theorem bump_other (load : ι → ℤ) (other : j ≠ i) : bump load i j = load j := if_neg other

theorem le_bump (load : ι → ℤ) (i j : ι) : load j ≤ bump load i j := by
  unfold bump
  split <;> omega

/-- The members chosen for the units, and the loads they lead to. -/
inductive Spread (members : Finset ι) : (ι → ℤ) → List ι → (ι → ℤ) → Prop where
  | nil (load : ι → ℤ) : Spread members load [] load
  | cons {load load' : ι → ℤ} {i : ι} {rest : List ι} (least : Least members load i)
      (later : Spread members (bump load i) rest load') : Spread members load (i :: rest) load'

/-- What a member ends with is what it began with and the units it got. -/
theorem Spread.counts (spread : Spread members load chosen load') (j : ι) : load' j = load j + chosen.count j := by
  induction spread with
  | nil => simp
  | @cons load load' i rest _ _ ih =>
    rw [ih]
    by_cases same : j = i
    · subst same
      simp
      omega
    · simp [same, List.count_cons_of_ne (Ne.symm same)]

theorem Spread.mem (spread : Spread members load chosen load') : ∀ i ∈ chosen, i ∈ members := by
  induction spread with
  | nil => simp
  | cons least _ ih => exact List.forall_mem_cons.mpr ⟨least.1, ih⟩

/-- The members that got a unit stand at most one above every other. -/
def Level (members : Finset ι) (load : ι → ℤ) (served : List ι) : Prop := ∀ i ∈ served, ∀ j ∈ members, load i ≤ load j + 1

theorem Level.bump {served : List ι} (level : Level members load served) (least : Least members load i) :
    Level members (bump load i) (i :: served) := by
  have above := least.2
  intro k there j member
  have low := above j member
  have more := le_bump load i j
  by_cases same : k = i
  · subst same
    by_cases own : j = k
    · subst own
      omega
    · rw [bump_self, bump_other load own]
      omega
  · have earlier : k ∈ served := (List.mem_cons.mp there).resolve_left same
    have before := level k earlier j member
    rw [bump_other load same]
    omega

theorem Spread.level_from (spread : Spread members load chosen load') {served : List ι} (level : Level members load served) :
    Level members load' (chosen ++ served) := by
  induction spread generalizing served with
  | nil => exact level
  | @cons load load' i rest least _ ih =>
    intro k there
    apply ih (level.bump least)
    simp only [List.mem_append, List.mem_cons] at there ⊢
    tauto

theorem Spread.level (spread : Spread members load chosen load') : Level members load' chosen := by
  have nobody : Level members load [] := by simp [Level]
  have level := spread.level_from nobody
  rwa [List.append_nil] at level

/-- However the units are handed out otherwise, some member that gets one ends as full as any that got one here. -/
theorem Spread.optimal (spread : Spread members load chosen load') (share : ι → ℕ) (all : ∑ j ∈ members, share j = chosen.length)
    (got : i ∈ chosen) : ∃ j ∈ members, 0 < share j ∧ load' i ≤ load j + share j := by
  by_contra none_
  have lower : ∀ j ∈ members, 0 < share j → load j + share j < load' i := by
    intro j member some_
    by_contra high
    exact none_ ⟨j, member, some_, not_lt.mp high⟩
  have level := spread.level i got
  have fewer : ∀ j ∈ members, share j ≤ chosen.count j := by
    intro j member
    by_cases nothing : share j = 0
    · omega
    · have below := lower j member (Nat.pos_of_ne_zero nothing)
      have near := level j member
      have ends := spread.counts j
      omega
  have less : share i < chosen.count i := by
    by_cases nothing : share i = 0
    · rw [nothing]
      exact List.count_pos_iff.mpr got
    · have below := lower i (spread.mem i got) (Nat.pos_of_ne_zero nothing)
      have ends := spread.counts i
      omega
  have total : ∑ j ∈ members, chosen.count j = chosen.length := by
    have within : chosen.toFinset ⊆ members := fun j there => spread.mem j (List.mem_toFinset.mp there)
    rw [← List.sum_toFinset_count_eq_length chosen]
    symm
    apply Finset.sum_subset within
    intro j _ absent
    exact List.count_eq_zero.mpr fun there => absent (List.mem_toFinset.mpr there)
  have strict : ∑ j ∈ members, share j < ∑ j ∈ members, chosen.count j :=
    Finset.sum_lt_sum fewer ⟨i, spread.mem i got, less⟩
  omega

end Tinygame.Balance
