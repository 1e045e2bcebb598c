import Tinygame.Base.Obj

/-!
# Lists with keys

A list that has each key at most once is read by its keys, and what happens at the position of a key happens to that key
alone.
-/

namespace Tinygame.Keyed
variable {α κ : Type} [DecidableEq κ] (key : α → κ)

def lookup (list : List α) (k : κ) : Option α := list.find? fun a => key a = k

/-- Each key at most once. -/
def Once (list : List α) : Prop := (list.map key).Nodup

variable {key} {list list' : List α} {a b : α} {k : κ} {i j : Nat}

omit [DecidableEq κ] in
theorem Once.inj (once : Once key list) (first : a ∈ list) (second : b ∈ list) (same : key a = key b) : a = b :=
  List.inj_on_of_nodup_map once first second same

theorem lookup_eq_some (once : Once key list) : lookup key list k = some a ↔ a ∈ list ∧ key a = k := by
  unfold lookup
  constructor
  · intro found
    exact ⟨List.mem_of_find?_eq_some found, by simpa using List.find?_some found⟩
  · rintro ⟨member, rfl⟩
    cases found : list.find? fun b => key b = key a with
    | none =>
      have other := List.find?_eq_none.mp found a member
      simp at other
    | some b =>
      have same : key b = key a := by simpa using List.find?_some found
      rw [once.inj (List.mem_of_find?_eq_some found) member same]

theorem lookup_eq_none : lookup key list k = none ↔ ∀ a ∈ list, key a ≠ k := by
  simp [lookup]

/-- Lists that are read alike are the same but for their order. -/
theorem perm_of_lookup (once : Once key list) (once' : Once key list') (same : ∀ k, lookup key list k = lookup key list' k) :
    list.Perm list' := by
  rw [List.perm_ext_iff_of_nodup once.of_map once'.of_map]
  intro a
  have here := lookup_eq_some (k := key a) (a := a) once
  have there := lookup_eq_some (k := key a) (a := a) once'
  rw [same] at here
  simpa using here.symm.trans there

/-! ### At the end -/

theorem Once.append (once : Once key list) (new : lookup key list (key a) = none) : Once key (list ++ [a]) := by
  unfold Once
  rw [List.map_append, List.map_singleton]
  refine List.Nodup.append once (List.nodup_singleton _) ?_
  intro k member last
  obtain rfl := List.mem_singleton.mp last
  obtain ⟨b, there, same⟩ := List.mem_map.mp member
  exact lookup_eq_none.mp new b there same

theorem lookup_append (new : lookup key list (key a) = none) (k : κ) :
    lookup key (list ++ [a]) k = if k = key a then some a else lookup key list k := by
  unfold lookup at new ⊢
  rw [List.find?_append]
  by_cases here : k = key a
  · subst here
    simp [new]
  · simp [here, Ne.symm here]

/-! ### At the position of a key -/

theorem modify_eq_map {f : α → α} (once : Once key list) (there : list[i]? = some a) :
    list.modify i f = list.map fun b => if key b = key a then f b else b := by
  induction list generalizing i with
  | nil => nomatch there
  | cons b rest ih =>
    obtain ⟨apart, once⟩ := List.nodup_cons.mp once
    cases i with
    | zero =>
      obtain rfl := Option.some.inj there
      have others : ∀ c ∈ rest, (if key c = key b then f c else c) = c := by
        intro c member
        apply if_neg
        intro same
        exact apart (same ▸ List.mem_map_of_mem member)
      rw [List.modify_zero_cons, List.map_cons, if_pos rfl, List.map_congr_left others, List.map_id']
    | succ i =>
      have member : a ∈ rest := List.mem_of_getElem? there
      have other : key b ≠ key a := fun same => apart (same ▸ List.mem_map_of_mem member)
      rw [List.modify_succ_cons, List.map_cons, if_neg other, ih once there]

theorem eraseIdx_eq_filter (once : Once key list) (there : list[i]? = some a) :
    list.eraseIdx i = list.filter fun b => key b ≠ key a := by
  induction list generalizing i with
  | nil => nomatch there
  | cons b rest ih =>
    obtain ⟨apart, once⟩ := List.nodup_cons.mp once
    cases i with
    | zero =>
      obtain rfl := Option.some.inj there
      have others : ∀ c ∈ rest, key c ≠ key b := fun c member same => apart (same ▸ List.mem_map_of_mem member)
      rw [List.eraseIdx_zero, List.tail_cons, List.filter_cons_of_neg (by simp), List.filter_eq_self.mpr]
      simpa using others
    | succ i =>
      have member : a ∈ rest := List.mem_of_getElem? there
      have other : key b ≠ key a := fun same => apart (same ▸ List.mem_map_of_mem member)
      rw [List.eraseIdx_cons_succ, List.filter_cons_of_pos (by simpa using other), ih once there]

/-- Two lists that have the same of a key are read alike there. -/
theorem lookup_congr (once : Once key list) (once' : Once key list')
    (same : ∀ b, key b = k → (b ∈ list ↔ b ∈ list')) : lookup key list k = lookup key list' k := by
  ext b
  rw [lookup_eq_some once, lookup_eq_some once']
  constructor
  · rintro ⟨member, here⟩
    exact ⟨(same b here).mp member, here⟩
  · rintro ⟨member, here⟩
    exact ⟨(same b here).mpr member, here⟩

/-- The value of a key changes, the key does not. -/
theorem lookup_modify {f : α → α} (kept : ∀ a, key (f a) = key a) (once : Once key list) (there : list[i]? = some a) :
    Once key (list.modify i f) ∧
      ∀ k, lookup key (list.modify i f) k = if k = key a then some (f a) else lookup key list k := by
  have once' : Once key (list.modify i f) := by
    have keys : (list.modify i f).map key = list.map key := by
      rw [modify_eq_map once there, List.map_map]
      apply List.map_congr_left
      intro b _
      by_cases here : key b = key a
      · simp [here, kept]
      · simp [here]
    unfold Once
    rw [keys]
    exact once
  refine ⟨once', fun k => ?_⟩
  have member := List.mem_of_getElem? there
  by_cases here : k = key a
  · rw [if_pos here, lookup_eq_some once', modify_eq_map once there]
    exact ⟨List.mem_map.mpr ⟨a, member, if_pos rfl⟩, (kept a).trans here.symm⟩
  · rw [if_neg here]
    apply lookup_congr once' once
    intro b found
    rw [modify_eq_map once there, List.mem_map]
    constructor
    · rintro ⟨c, old, rfl⟩
      by_cases same : key c = key a
      · rw [if_pos same, kept] at found
        exact absurd (found.symm.trans same) here
      · rwa [if_neg same]
    · intro old
      exact ⟨b, old, if_neg fun same => here (found.symm.trans same)⟩

theorem lookup_eraseIdx (once : Once key list) (there : list[i]? = some a) : Once key (list.eraseIdx i) ∧
    ∀ k, lookup key (list.eraseIdx i) k = if k = key a then none else lookup key list k := by
  have once' : Once key (list.eraseIdx i) := once.sublist ((List.eraseIdx_sublist list i).map key)
  refine ⟨once', fun k => ?_⟩
  by_cases here : k = key a
  · rw [if_pos here, lookup_eq_none, eraseIdx_eq_filter once there]
    intro b member same
    have other := (List.mem_filter.mp member).2
    simp [same, here] at other
  · rw [if_neg here]
    apply lookup_congr once' once
    intro b found
    rw [eraseIdx_eq_filter once there, List.mem_filter]
    simp [found, here]

end Tinygame.Keyed
