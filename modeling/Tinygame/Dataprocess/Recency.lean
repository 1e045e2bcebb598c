import Tinygame.Base.Answers
import Tinygame.Dataprocess.Entity

/-!
# The recency list of lru.js

Any operations on a list that `lruCreate` made. A key that is set or got moves to the end of the list, so that the
first one is the one that has not been used for longest.
-/

namespace Tinygame.Recency

/-! ### lru.js -/

/-- An entry is found by its two fields, whatever object it is. -/
def aIndexOf (val : UserArea) (array : List UserArea) : Int :=
  match array.findIdx? fun entry => entry.uuid = val.uuid ∧ entry.area = val.area with
  | some i => i
  | none => -1

/-- What `aRemove` returns: nothing where it has cut an entry out. -/
def aRemoveReturn (val : UserArea) (array : List UserArea) : Option Int := if -1 < aIndexOf val array then none else some (-1)

/-- `result < 0`, which `undefined` does not meet. -/
def negative : Option Int → Bool
  | some n => n < 0
  | none => false

def lruGet (key : UserArea) (data : Lru) : Option UserArea × Lru :=
  if negative (aRemoveReturn key data.keys) then (none, data)
  else (some key, { data with keys := aRemove key data.keys ++ [key] })

inductive Op where
  | lruSet (key : UserArea)
  | lruGet (key : UserArea)
  | lruRemove (key : UserArea)
  deriving DecidableEq

/-- What the operation returns, and the list it leaves. -/
def perform (data : Lru) : Op → Option UserArea × Lru
  | .lruSet key => (some key, lruSet key data)
  | .lruGet key => lruGet key data
  | .lruRemove key => (none, lruRemove key data)

variable {data : Lru} {key other : UserArea} {keys : List UserArea} {ops : List Op} {op : Op}

theorem aIndexOf_eq (val : UserArea) (array : List UserArea) :
    aIndexOf val array = (array.idxOf? val).elim (-1) fun i => (i : Int) := by
  have fields : (fun entry : UserArea => decide (entry.uuid = val.uuid ∧ entry.area = val.area)) = (· == val) := by
    funext entry
    cases entry
    cases val
    rw [Bool.eq_iff_iff]
    simp [and_comm]
  unfold aIndexOf
  rw [fields]
  show _ = (array.findIdx? (· == val)).elim (-1) fun i => (i : Int)
  cases array.findIdx? (· == val) <;> rfl

theorem aIndexOf_found (val : UserArea) (array : List UserArea) : -1 < aIndexOf val array ↔ val ∈ array := by
  rw [aIndexOf_eq]
  cases found : array.idxOf? val with
  | none =>
    have absent := List.idxOf?_eq_none_iff.mp found
    exact iff_of_false (Int.lt_irrefl _) absent
  | some i =>
    obtain ⟨below, is, -⟩ := List.idxOf?_eq_some_iff.mp found
    exact iff_of_true (by dsimp only [Option.elim_some]; omega) (is ▸ List.getElem_mem below)

theorem aRemove_eq (val : UserArea) (array : List UserArea) :
    aRemove val array = if -1 < aIndexOf val array then array.eraseIdx (aIndexOf val array).toNat else array := by
  unfold aRemove
  rw [aIndexOf_eq, List.erase_eq_eraseIdx]
  cases array.idxOf? val with
  | none => rfl
  | some i =>
    have index : (-1 : Int) < i := by omega
    exact (if_pos index).symm

theorem lruGet_eq (key : UserArea) (data : Lru) :
    lruGet key data = if key ∈ data.keys then (some key, { data with keys := aRemove key data.keys ++ [key] }) else (none, data) := by
  unfold lruGet aRemoveReturn
  by_cases there : key ∈ data.keys
  · rw [if_pos ((aIndexOf_found key data.keys).mpr there), if_pos there]
    rfl
  · rw [if_neg (mt (aIndexOf_found key data.keys).mp there), if_neg there]
    rfl

/-! ### Recency -/

def Op.uses (key : UserArea) : Op → Bool
  | .lruSet used => used = key
  | .lruGet used => used = key
  | .lruRemove _ => false

theorem uses_self (key : UserArea) : (Op.lruSet key).uses key = true ∧ (Op.lruGet key).uses key = true := by
  simp [Op.uses]

/-- The number, counted from one, of the last operation that sets or gets the key; zero when none does. -/
def lastUsed (ops : List Op) (key : UserArea) : Nat := ops.length - ops.reverse.findIdx (Op.uses key)

theorem lastUsed_snoc (ops : List Op) (op : Op) (key : UserArea) :
    lastUsed (ops ++ [op]) key = if op.uses key then ops.length + 1 else lastUsed ops key := by
  unfold lastUsed
  rw [List.reverse_append, List.reverse_singleton, List.singleton_append, List.findIdx_cons, List.length_append,
    List.length_singleton]
  cases op.uses key with
  | true => rfl
  | false =>
    dsimp only [cond_false]
    rw [if_neg Bool.false_ne_true]
    omega

theorem lastUsed_le (ops : List Op) (key : UserArea) : lastUsed ops key ≤ ops.length := Nat.sub_le _ _

/-- No key twice, not too many, and each one used after those before it. -/
structure Recent (ops : List Op) (keys : List UserArea) : Prop where
  once : keys.Nodup
  bounded : keys.length ≤ lruMapLimit
  ordered : keys.Pairwise fun older younger => lastUsed ops older < lastUsed ops younger

/-- No key has been unused for longer. -/
def Oldest (ops : List Op) (keys : List UserArea) (key : UserArea) : Prop :=
  key ∈ keys ∧ ∀ other ∈ keys, lastUsed ops key ≤ lastUsed ops other

/-- A set leaves the key and those that were there, without the oldest one when there is no room for a new key. -/
def Admits (ops : List Op) (data : Lru) (key : UserArea) : Prop :=
  ∀ other, other ∈ (lruSet key data).keys ↔
    other = key ∨ other ∈ data.keys ∧ ¬ (key ∉ data.keys ∧ data.keys.length = lruMapLimit ∧ Oldest ops data.keys other)

theorem Recent.sublist (recent : Recent ops keys) {fewer : List UserArea} (sub : fewer.Sublist keys) : Recent ops fewer :=
  ⟨sub.nodup recent.once, sub.length_le.trans recent.bounded, recent.ordered.sublist sub⟩

/-- What does not use any of the keys leaves their order. -/
theorem Recent.unused (recent : Recent ops keys) (unused : ∀ k ∈ keys, op.uses k = false) : Recent (ops ++ [op]) keys := by
  refine ⟨recent.once, recent.bounded, recent.ordered.imp_of_mem ?_⟩
  intro older younger there there' before
  rw [lastUsed_snoc, lastUsed_snoc, unused older there, unused younger there']
  exact before

/-- The key that is used goes behind all others. -/
theorem Recent.moved (recent : Recent ops keys) (uses : op.uses key = true)
    (others : ∀ k ∈ keys, op.uses k = false) :
    (keys ++ [key]).Nodup ∧
      (keys ++ [key]).Pairwise fun older younger => lastUsed (ops ++ [op]) older < lastUsed (ops ++ [op]) younger := by
  have kept := recent.unused others
  constructor
  · refine List.nodup_append.mpr ⟨recent.once, List.nodup_singleton key, ?_⟩
    intro k there last only same
    rw [same, List.mem_singleton.mp only] at there
    rw [others key there] at uses
    cases uses
  · refine List.pairwise_append.mpr ⟨kept.ordered, List.pairwise_singleton _ _, ?_⟩
    intro k there last only
    rw [List.mem_singleton.mp only, lastUsed_snoc, lastUsed_snoc, uses, others k there]
    have early := lastUsed_le ops k
    exact Nat.lt_succ_of_le early

theorem mem_aRemove (recent : Recent ops keys) (key other : UserArea) : other ∈ aRemove key keys ↔ other ≠ key ∧ other ∈ keys :=
  recent.once.mem_erase_iff

theorem recent_step (recent : Recent ops data.keys) (op : Op) : Recent (ops ++ [op]) (perform data op).2.keys := by
  have cut : ∀ key, (aRemove key data.keys).Sublist data.keys := fun key => List.erase_sublist
  cases op with
  | lruSet key =>
    have others : ∀ k ∈ aRemove key data.keys, (Op.lruSet key).uses k = false := fun k there =>
      decide_eq_false ((mem_aRemove recent key k).mp there).1.symm
    obtain ⟨once, ordered⟩ := (recent.sublist (cut key)).moved (uses_self key).1 others
    have short := (cut key).length_le.trans recent.bounded
    show Recent _ (lruSet key data).keys
    unfold lruSet
    dsimp only
    split
    · have tail := List.tail_sublist (aRemove key data.keys ++ [key])
      refine ⟨tail.nodup once, ?_, ordered.sublist tail⟩
      rw [List.length_tail, List.length_append, List.length_singleton]
      omega
    · rename_i within
      exact ⟨once, Nat.le_of_not_lt within, ordered⟩
  | lruGet key =>
    show Recent _ (lruGet key data).2.keys
    rw [lruGet_eq]
    split
    · rename_i there
      have others : ∀ k ∈ aRemove key data.keys, (Op.lruGet key).uses k = false := fun k there =>
        decide_eq_false ((mem_aRemove recent key k).mp there).1.symm
      obtain ⟨once, ordered⟩ := (recent.sublist (cut key)).moved (uses_self key).2 others
      have left : (aRemove key data.keys).length = data.keys.length - 1 := List.length_erase_of_mem there
      have some_ := List.length_pos_of_mem there
      have bounded := recent.bounded
      refine ⟨once, ?_, ordered⟩
      rw [List.length_append, List.length_singleton, left]
      omega
    · rename_i absent
      exact recent.unused fun k there => decide_eq_false fun same => absent (same ▸ there)
  | lruRemove key => exact (recent.sublist (cut key)).unused fun _ _ => rfl

/-! ### Eviction -/

/-- In order of use the first key is the oldest one, and no other is. -/
theorem oldest_iff {first : UserArea} {rest : List UserArea} (recent : Recent ops (first :: rest)) :
    Oldest ops (first :: rest) other ↔ other = first := by
  obtain ⟨before, -⟩ := List.pairwise_cons.mp recent.ordered
  constructor
  · rintro ⟨there, least⟩
    rcases List.mem_cons.mp there with same | later
    · exact same
    · have first := least first List.mem_cons_self
      have younger := before other later
      omega
  · rintro rfl
    refine ⟨List.mem_cons_self, fun k there => ?_⟩
    rcases List.mem_cons.mp there with rfl | later
    · exact Nat.le_refl _
    · exact (before k later).le

theorem admits_of_recent (recent : Recent ops data.keys) (key : UserArea) : Admits ops data key := by
  intro other
  have bounded := recent.bounded
  have members := mem_aRemove recent key other
  unfold lruSet
  dsimp only
  by_cases there : key ∈ data.keys
  · have left : (aRemove key data.keys).length = data.keys.length - 1 := List.length_erase_of_mem there
    have some_ := List.length_pos_of_mem there
    have within : ¬ lruMapLimit < (aRemove key data.keys ++ [key]).length := by
      rw [List.length_append, List.length_singleton, left]
      omega
    rw [if_neg within, List.mem_append, List.mem_singleton, members]
    by_cases same : other = key <;> simp [same, there]
  · have all : aRemove key data.keys = data.keys := List.erase_of_not_mem there
    rw [all]
    by_cases full : data.keys.length = lruMapLimit
    · have beyond : lruMapLimit < (data.keys ++ [key]).length := by
        rw [List.length_append, List.length_singleton]
        omega
      rw [if_pos beyond]
      cases keys : data.keys with
      | nil =>
        rw [keys] at full
        cases full
      | cons first rest =>
        rw [keys] at recent there full
        have once := (List.nodup_cons.mp recent.once).1
        rw [List.cons_append, List.tail_cons, List.mem_append, List.mem_singleton, oldest_iff recent, List.mem_cons]
        constructor
        · rintro (later | same)
          · exact .inr ⟨.inr later, fun gone => once (gone.2.2 ▸ later)⟩
          · exact .inl same
        · rintro (same | ⟨old, stays⟩)
          · exact .inr same
          · exact .inl (old.resolve_left fun same => stays ⟨there, full, same⟩)
    · have within : ¬ lruMapLimit < (data.keys ++ [key]).length := by
        rw [List.length_append, List.length_singleton]
        omega
      rw [if_neg within, List.mem_append, List.mem_singleton]
      simp [full, or_comm]

/-- The list is in order of use after any operations, a set takes out the oldest key at most, and a get finds the key
when it is there. -/
theorem recency_list (id : Nat) (ops : List Op) :
    Recent ops (after perform (lruCreate id) ops).keys ∧
      (∀ key, Admits ops (after perform (lruCreate id) ops) key) ∧
      ∀ key, (lruGet key (after perform (lruCreate id) ops)).1 =
        if key ∈ (after perform (lruCreate id) ops).keys then some key else none := by
  have recent : Recent ops (after perform (lruCreate id) ops).keys := by
    apply after_invariant fun ops (data : Lru) => Recent ops data.keys
    · exact ⟨List.nodup_nil, Nat.zero_le _, List.Pairwise.nil⟩
    · exact fun past data op _ recent => recent_step recent op
  refine ⟨recent, admits_of_recent recent, fun key => ?_⟩
  rw [lruGet_eq]
  split <;> rfl

end Tinygame.Recency
