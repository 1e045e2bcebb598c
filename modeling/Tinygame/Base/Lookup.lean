import Mathlib.Data.List.Basic

/-!
# Association lists

`lookup` in a list in which every key comes once depends on which entries there are, not on their order.
-/

namespace Tinygame

variable {κ α : Type} [BEq κ] [LawfulBEq κ] {key : κ} {entries base : List (κ × α)} {x : α}

theorem lookup_isSome : (entries.lookup key).isSome = true ↔ key ∈ entries.map Prod.fst := by
  rw [← not_iff_not, Bool.not_eq_true, Option.isSome_eq_false_iff, Option.isNone_iff_eq_none, List.lookup_eq_none_iff]
  simp only [bne_iff_ne, List.mem_map, not_exists, not_and]
  exact ⟨fun none entry there same => none entry there same.symm, fun none entry there same => none entry there same.symm⟩

theorem lookup_eq_of_mem (distinct : (entries.map Prod.fst).Nodup) (there : (key, x) ∈ entries) :
    entries.lookup key = some x := by
  induction entries with
  | nil => cases there
  | cons entry rest ih =>
    obtain ⟨first, later⟩ := List.nodup_cons.mp distinct
    rcases List.mem_cons.mp there with same | there
    · rw [← same, List.lookup_cons_self]
    · have different : key ≠ entry.1 := fun same => first (List.mem_map.mpr ⟨(key, x), there, same⟩)
      rw [List.lookup_cons, beq_eq_false_iff_ne.mpr different]
      exact ih later there

theorem mem_of_lookup_eq (found : entries.lookup key = some x) : (key, x) ∈ entries := by
  obtain ⟨before, after, split, -⟩ := List.lookup_eq_some_iff.mp found
  rw [split]
  exact List.mem_append_right _ List.mem_cons_self

theorem lookup_perm (distinct : (base.map Prod.fst).Nodup) (same : entries.Perm base) :
    entries.lookup key = base.lookup key := by
  cases found : base.lookup key with
  | some x =>
    have distinct' : (entries.map Prod.fst).Nodup := (same.map Prod.fst).nodup_iff.mpr distinct
    exact lookup_eq_of_mem distinct' (same.mem_iff.mpr (mem_of_lookup_eq found))
  | none =>
    cases other : entries.lookup key with
    | none => rfl
    | some x =>
      have there := lookup_eq_of_mem distinct (same.mem_iff.mp (mem_of_lookup_eq other))
      cases found.symm.trans there

end Tinygame
