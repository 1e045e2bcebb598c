import Tinygame.Base.Obj

/-!
# Bounded maps

`LimitMap` of `module/utils.js`: a dictionary that drops its oldest key when a new one finds it
full. Writing to a key that is present does not make it younger.
-/

namespace Tinygame
variable {α : Type}

/-- `keys` lists the properties of `map` from the oldest on. -/
structure LimitMap (α : Type) where
  limit : Nat
  map : Obj α
  keys : List String
  positive : 0 < limit
  keyed : ∀ key, key ∈ keys ↔ map.has key = true
  once : keys.Nodup
  bounded : keys.length ≤ limit

namespace LimitMap
variable {m : LimitMap α} {key other : String} {value : α}

/-- `new LimitMap(limit)`: a limit of zero counts as not given. -/
def new (limit : Nat) : LimitMap α where
  limit := if limit = 0 then 10 else limit
  map := ∅
  keys := []
  positive := by split <;> omega
  keyed := by simp
  once := List.nodup_nil
  bounded := Nat.zero_le _

/-- Room for a new key: `keys.shift()` and the deletion of what it named, when the map is full. -/
def makeRoom (m : LimitMap α) : List String × Obj α :=
  match m.keys with
  | firstKey :: rest => if m.limit ≤ m.keys.length then (rest, m.map.delete firstKey) else (m.keys, m.map)
  | [] => ([], m.map)

theorem makeRoom_keyed (m : LimitMap α) (key : String) :
    key ∈ m.makeRoom.1 ↔ m.makeRoom.2.has key = true := by
  have keyed := m.keyed key
  have once := m.once
  unfold makeRoom
  cases keys : m.keys with
  | nil => simpa [keys] using keyed
  | cons firstKey rest =>
    rw [keys] at keyed once
    dsimp only
    split
    · rw [Obj.has_delete]
      by_cases same : key = firstKey
      · subst same
        simp [(List.nodup_cons.mp once).1]
      · simpa [same] using keyed
    · exact keyed

theorem makeRoom_sublist (m : LimitMap α) : m.makeRoom.1.Sublist m.keys := by
  unfold makeRoom
  cases m.keys with
  | nil => exact List.Sublist.refl _
  | cons firstKey rest =>
    dsimp only
    split
    · exact List.sublist_cons_self _ _
    · exact List.Sublist.refl _

theorem makeRoom_length (m : LimitMap α) : m.makeRoom.1.length < m.limit := by
  have bounded := m.bounded
  have positive := m.positive
  unfold makeRoom
  cases keys : m.keys with
  | nil => exact positive
  | cons firstKey rest =>
    rw [keys] at bounded
    dsimp only
    split
    · exact bounded
    · exact Nat.lt_of_not_le (by rwa [keys] at *)

def set (m : LimitMap α) (key : String) (value : α) : LimitMap α :=
  if present : m.map.has key = true then
    { m with
      map := m.map.set key value
      keyed := fun k => by
        rw [m.keyed, Obj.has_set]
        by_cases same : k = key <;> simp [same, present] }
  else
    { m with
      map := m.makeRoom.2.set key value
      keys := m.makeRoom.1 ++ [key]
      keyed := fun k => by
        rw [List.mem_append, makeRoom_keyed, Obj.has_set]
        by_cases same : k = key <;> simp [same]
      once := by
        have fresh : key ∉ m.makeRoom.1 := fun member =>
          present ((m.keyed key).mp (m.makeRoom_sublist.subset member))
        exact List.nodup_append.mpr ⟨m.makeRoom_sublist.nodup m.once, by simp, by
          intro a member b last same
          rw [same, List.mem_singleton.mp last] at member
          exact fresh member⟩
      bounded := by
        rw [List.length_append]
        exact m.makeRoom_length }

def get (m : LimitMap α) (key : String) : Option α := m.map.get? key

theorem get_set_self (m : LimitMap α) (key : String) (value : α) : (m.set key value).get key = some value := by
  unfold set get
  split <;> exact Obj.get?_set_self _ _ _

theorem limit_set (m : LimitMap α) (key : String) (value : α) : (m.set key value).limit = m.limit := by
  unfold set
  split <;> rfl

theorem keys_set_of_has (value : α) (present : m.map.has key = true) : (m.set key value).keys = m.keys := by
  unfold set
  rw [dif_pos present]

theorem keys_set_of_new (value : α) (absent : m.map.has key = false) :
    (m.set key value).keys = m.makeRoom.1 ++ [key] := by
  unfold set
  rw [dif_neg (by simp [absent])]

theorem mem_keys_of_get (found : m.get key = some value) : key ∈ m.keys :=
  (m.keyed key).mpr (Obj.has_iff.mpr ⟨value, found⟩)

theorem get_eq_none (absent : key ∉ m.keys) : m.get key = none := by
  cases found : m.get key with
  | none => rfl
  | some value => exact absurd (mem_keys_of_get found) absent

theorem get_set_none {new : α} (absent : m.get key = none) (different : key ≠ other) :
    (m.set other new).get key = none := by
  refine get_eq_none fun member => ?_
  have unlisted : key ∉ m.keys := fun listed => by
    have present := (m.keyed key).mp listed
    rw [Obj.has_eq_false.mpr absent] at present
    cases present
  cases present : m.map.has other with
  | true => exact unlisted (keys_set_of_has new present ▸ member)
  | false =>
    rw [keys_set_of_new new present, List.mem_append, List.mem_singleton] at member
    exact member.elim (fun older => unlisted (m.makeRoom_sublist.subset older)) different

/-! ### Other keys -/

/-- The key that a write to `key` pushes out. -/
def evicted (m : LimitMap α) (key : String) : Option String :=
  if m.map.has key = true then none else if m.limit ≤ m.keys.length then m.keys.head? else none

theorem makeRoom_get (different : m.evicted other ≠ some key) (absent : m.map.has other = false) :
    m.makeRoom.2.get? key = m.get key := by
  unfold evicted at different
  rw [if_neg (by simp [absent])] at different
  unfold makeRoom get
  cases keys : m.keys with
  | nil => rfl
  | cons firstKey rest =>
    rw [keys] at different
    dsimp only
    split
    · rename_i full
      rw [if_pos full] at different
      exact Obj.get?_delete_of_ne _ fun same => different (congrArg some same.symm)
    · rfl

theorem get_set_of_ne {new : α} (different : key ≠ other) (stays : m.evicted other ≠ some key) :
    (m.set other new).get key = m.get key := by
  cases present : m.map.has other with
  | true =>
    unfold set
    rw [dif_pos present]
    exact Obj.get?_set_of_ne _ _ different
  | false =>
    refine Eq.trans ?_ (makeRoom_get stays present)
    unfold set
    rw [dif_neg (by simp [present])]
    exact Obj.get?_set_of_ne _ _ different

theorem get_of_get_set {new : α} (different : key ≠ other) (found : (m.set other new).get key = some value) :
    m.get key = some value := by
  by_cases stays : m.evicted other = some key
  · have gone : (m.set other new).get key = none := by
      refine get_eq_none fun listed => ?_
      unfold evicted at stays
      split at stays
      · cases stays
      · rename_i absent
        split at stays
        · rename_i full
          cases keys : m.keys with
          | nil => rw [keys] at stays; cases stays
          | cons firstKey rest =>
            rw [keys] at stays full
            obtain rfl := Option.some.inj stays
            have once := m.once
            have room : m.makeRoom.1 = rest := by
              unfold makeRoom
              rw [keys]
              exact congrArg Prod.fst (if_pos full)
            rw [keys_set_of_new new (by simpa using absent), room, List.mem_append, List.mem_singleton] at listed
            rw [keys] at once
            exact listed.elim (List.nodup_cons.mp once).1 different
        · cases stays
    rw [gone] at found
    cases found
  · rw [← get_set_of_ne different stays]
    exact found

/-! ### What stays -/

/-- The value is held, and at most `younger` keys are younger than its own. -/
def Held (m : LimitMap α) (key : String) (value : α) (younger : Nat) : Prop :=
  m.get key = some value ∧ ∃ front back, m.keys = front ++ key :: back ∧ back.length ≤ younger

theorem set_new_held (value : α) (absent : m.map.has key = false) : Held (m.set key value) key value 0 :=
  ⟨get_set_self m key value, m.makeRoom.1, [], keys_set_of_new value absent, Nat.le_refl _⟩

/-- Another key drops the oldest one at most, which is not this one while few are younger. -/
theorem set_other_held {younger : Nat} {new : α} (held : Held m key value younger) (different : key ≠ other)
    (room : younger + 1 < m.limit) : Held (m.set other new) key value (younger + 1) := by
  obtain ⟨found, front, back, keys, few⟩ := held
  cases present : m.map.has other with
  | true =>
    refine ⟨?_, front, back, by rw [keys_set_of_has new present, keys], Nat.le_succ_of_le few⟩
    unfold set get
    rw [dif_pos present]
    exact (Obj.get?_set_of_ne _ _ different).trans found
  | false =>
    have kept : ∃ front', m.makeRoom.1 = front' ++ key :: back ∧ m.makeRoom.2.get? key = some value := by
      unfold makeRoom
      cases front with
      | nil =>
        rw [keys, List.nil_append]
        have short : ¬ m.limit ≤ (key :: back).length := by
          rw [List.length_cons]
          omega
        dsimp only
        rw [if_neg short]
        exact ⟨[], rfl, found⟩
      | cons firstKey rest =>
        have once := m.once
        rw [keys, List.cons_append] at once ⊢
        dsimp only
        split
        · have older : key ≠ firstKey := by
            rintro rfl
            exact (List.nodup_cons.mp once).1 (by simp)
          exact ⟨rest, rfl, (Obj.get?_delete_of_ne _ older).trans found⟩
        · exact ⟨firstKey :: rest, rfl, found⟩
    obtain ⟨front', room', value'⟩ := kept
    refine ⟨?_, front', back ++ [other], by rw [keys_set_of_new new present, room']; simp, by simpa using few⟩
    unfold set get
    rw [dif_neg (by simp [present])]
    exact (Obj.get?_set_of_ne _ _ different).trans value'

/-! ### What goes -/

theorem makeRoom_drop (m : LimitMap α) : m.makeRoom.1 = m.keys.drop (m.keys.length + 1 - m.limit) := by
  have bounded := m.bounded
  have positive := m.positive
  unfold makeRoom
  cases keys : m.keys with
  | nil => simp
  | cons firstKey rest =>
    rw [keys] at bounded
    dsimp only
    split
    · rename_i full
      have one : (firstKey :: rest).length + 1 - m.limit = 1 := by omega
      rw [one]
      rfl
    · rename_i space
      have none_ : (firstKey :: rest).length + 1 - m.limit = 0 := by omega
      rw [none_]
      rfl

/-- After a series of new keys the map holds the youngest ones, as many as its limit. -/
theorem keys_foldl_set (entries : List (String × α)) (new : (m.keys ++ entries.map Prod.fst).Nodup) :
    (entries.foldl (fun m e => m.set e.1 e.2) m).keys =
      (m.keys ++ entries.map Prod.fst).drop ((m.keys ++ entries.map Prod.fst).length - m.limit) := by
  induction entries generalizing m with
  | nil =>
    have within := m.bounded
    simp [Nat.sub_eq_zero_of_le within]
  | cons e rest ih =>
    have absent : m.map.has e.1 = false := by
      rw [Bool.eq_false_iff, Ne, ← m.keyed]
      intro member
      have apart := (List.nodup_append.mp new).2.2
      exact apart e.1 member e.1 (by simp) rfl
    have keys := keys_set_of_new e.2 absent
    have shorter : ((m.set e.1 e.2).keys ++ rest.map Prod.fst).Sublist (m.keys ++ (e :: rest).map Prod.fst) := by
      rw [keys, List.append_assoc]
      exact m.makeRoom_sublist.append (List.Sublist.refl _)
    rw [List.foldl_cons, ih (shorter.nodup new), limit_set, keys, makeRoom_drop]
    have bounded := m.bounded
    have positive := m.positive
    have front : m.keys.drop (m.keys.length + 1 - m.limit) ++ [e.1] ++ rest.map Prod.fst =
        (m.keys ++ (e :: rest).map Prod.fst).drop (m.keys.length + 1 - m.limit) := by
      rw [List.append_assoc, List.drop_append_of_le_length (by omega)]
      rfl
    rw [front, List.drop_drop]
    simp only [List.length_drop, List.length_append, List.length_map, List.length_cons]
    congr 1
    omega

end LimitMap
end Tinygame
