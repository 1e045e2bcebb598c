import Mathlib.Data.List.AList
import Mathlib.Algebra.Order.BigOperators.Group.List
import Mathlib.Algebra.Order.Ring.Int

/-!
# Own-property maps

A JavaScript object used as a dictionary: string keys, each at most once, in enumeration order.
Array-index keys come first in numeric order, the others follow in insertion order, and writing
to a key that is present keeps its place. Inherited properties are not part of the map.
-/

namespace Tinygame

/-- The number a property name stands for when it is a canonical array index. -/
def arrayIndex? (key : String) : Option Nat :=
  let digits := key.toList
  if digits ≠ [] ∧ digits.all Char.isDigit ∧ (digits.head? = some '0' → digits.length = 1) then
    let n := digits.foldl (fun n c => 10 * n + (c.toNat - '0'.toNat)) 0
    if n < 2 ^ 32 - 1 then some n else none
  else none

/-- `for .. in` visits the new key `key` before the present key `other`. -/
def enumeratedBefore (key other : String) : Bool :=
  match arrayIndex? key, arrayIndex? other with
  | some m, some n => m < n
  | some _, none => true
  | none, _ => false

/-- The own properties of an object whose values have type `α`. -/
abbrev Obj (α : Type) := AList (fun _ : String => α)

namespace Obj
variable {α : Type} {o : Obj α} {k k' : String} {v : α}

def get? (o : Obj α) (k : String) : Option α := o.lookup k

/-- `o.hasOwnProperty(k)`. -/
def has (o : Obj α) (k : String) : Bool := (o.get? k).isSome

/-- `delete o[k]`. -/
def delete (o : Obj α) (k : String) : Obj α := AList.erase k o

/-- The place of a key that is not present yet. -/
def place (k : String) (v : α) (entries : List (Σ _ : String, α)) : List (Σ _ : String, α) :=
  entries.takeWhile (fun e => !enumeratedBefore k e.1) ++
    ⟨k, v⟩ :: entries.dropWhile (fun e => !enumeratedBefore k e.1)

theorem place_perm (k : String) (v : α) (entries : List (Σ _ : String, α)) :
    (place k v entries).Perm (⟨k, v⟩ :: entries) := by
  have split := List.takeWhile_append_dropWhile (p := fun e => !enumeratedBefore k e.1) (l := entries)
  have moved : (place k v entries).Perm (⟨k, v⟩ ::
      (entries.takeWhile (fun e => !enumeratedBefore k e.1) ++
        entries.dropWhile (fun e => !enumeratedBefore k e.1))) := List.perm_middle
  rwa [split] at moved

/-- `o[k] = v`. -/
def set (o : Obj α) (k : String) (v : α) : Obj α :=
  if h : k ∈ o then o.replace k v
  else ⟨place k v o.entries, (List.perm_nodupKeys (place_perm k v o.entries)).mpr
    (List.nodupKeys_cons.mpr ⟨h, o.nodupKeys⟩)⟩

/-- `o[k] = f(o[k])` for a property that is present. -/
def modify (o : Obj α) (k : String) (f : α → α) : Obj α :=
  match o.get? k with
  | some v => o.set k (f v)
  | none => o

/-- `for (k in o) o[k] = f(k, o[k])`. -/
def update (o : Obj α) (f : String → α → α) : Obj α :=
  ⟨o.entries.map fun e => ⟨e.1, f e.1 e.2⟩, by
    have keys : (o.entries.map fun e => (⟨e.1, f e.1 e.2⟩ : Σ _ : String, α)).keys = o.entries.keys := by
      simp [List.keys, Function.comp_def]
    rw [List.NodupKeys, keys]
    exact o.nodupKeys⟩

/-- `for (k in other) o[k] = other[k]`. -/
def assign (o other : Obj α) : Obj α := other.entries.foldl (fun o e => o.set e.1 e.2) o

/-- The number of properties whose value satisfies `p`. -/
def count (o : Obj α) (p : α → Bool) : Nat := o.entries.countP (fun e => p e.2)

/-! ### Reading a written map -/

theorem kreplace_perm (k : String) (v : α) {entries : List (Σ _ : String, α)}
    (present : k ∈ entries.keys) :
    (entries.kreplace k v).Perm (⟨k, v⟩ :: entries.kerase k) := by
  induction entries with
  | nil => simp at present
  | cons e rest ih =>
    by_cases same : k = e.1
    · have head : (e :: rest).kreplace k v = ⟨k, v⟩ :: rest :=
        List.lookmap_cons_some _ _ (by simp [same])
      rw [head, List.kerase_cons_eq same]
    · have later : k ∈ rest.keys := by simpa [same] using present
      have tail : (e :: rest).kreplace k v = e :: rest.kreplace k v :=
        List.lookmap_cons_none _ _ (by simp [same])
      rw [tail, List.kerase_cons_ne same]
      exact ((ih later).cons e).trans (List.Perm.swap _ _ _)

theorem set_perm (o : Obj α) (k : String) (v : α) :
    (o.set k v).entries.Perm (AList.insert k v o).entries := by
  unfold set
  split
  · rename_i present
    exact kreplace_perm k v present
  · rename_i absent
    rw [AList.entries_insert_of_notMem absent]
    exact place_perm k v o.entries

@[simp] theorem get?_empty (k : String) : (∅ : Obj α).get? k = none := rfl

@[simp] theorem has_empty (k : String) : (∅ : Obj α).has k = false := rfl

theorem get?_set (o : Obj α) (k k' : String) (v : α) :
    (o.set k v).get? k' = if k' = k then some v else o.get? k' := by
  unfold get?
  rw [AList.perm_lookup (set_perm o k v)]
  split
  · rename_i same
    subst same
    exact AList.lookup_insert o
  · rename_i other
    exact AList.lookup_insert_ne other

@[simp] theorem get?_set_self (o : Obj α) (k : String) (v : α) : (o.set k v).get? k = some v := by
  simp [get?_set]

theorem get?_set_of_ne (o : Obj α) (v : α) (h : k' ≠ k) : (o.set k v).get? k' = o.get? k' := by
  simp [get?_set, h]

theorem get?_delete (o : Obj α) (k k' : String) :
    (o.delete k).get? k' = if k' = k then none else o.get? k' := by
  unfold get? delete
  split
  · rename_i same
    subst same
    exact AList.lookup_erase _ o
  · rename_i other
    exact AList.lookup_erase_ne other

@[simp] theorem get?_delete_self (o : Obj α) (k : String) : (o.delete k).get? k = none := by
  simp [get?_delete]

theorem get?_delete_of_ne (o : Obj α) (h : k' ≠ k) : (o.delete k).get? k' = o.get? k' := by
  simp [get?_delete, h]

theorem get?_modify (o : Obj α) (k k' : String) (f : α → α) :
    (o.modify k f).get? k' = if k' = k then (o.get? k).map f else o.get? k' := by
  unfold modify
  split
  · rename_i v present
    rw [get?_set, present]
    rfl
  · rename_i absent
    split
    · rename_i same
      rw [same, absent]
      rfl
    · rfl

theorem get?_update (o : Obj α) (f : String → α → α) (k : String) :
    (o.update f).get? k = (o.get? k).map (f k) := by
  unfold get? update AList.lookup
  dsimp only
  induction o.entries with
  | nil => rfl
  | cons e rest ih =>
    obtain ⟨key, value⟩ := e
    by_cases same : key = k
    · subst same
      simp [List.dlookup_cons_eq]
    · rw [List.map_cons, List.dlookup_cons_ne _ _ (Ne.symm same), List.dlookup_cons_ne _ _ (Ne.symm same)]
      exact ih

/-- A loop over the properties of an object whose rounds touch only the property they are at. -/
theorem get?_foldl {β : Type} {f : Obj β → String → α → Obj β} {g : String → α → Option β → Option β}
    (own : ∀ b k v k', (f b k v).get? k' = if k' = k then g k v (b.get? k) else b.get? k') (o : Obj α) (b : Obj β) (k : String) :
    (o.entries.foldl (fun b e => f b e.1 e.2) b).get? k = (o.get? k).elim (b.get? k) fun v => g k v (b.get? k) := by
  suffices rounds : ∀ (entries : List (Σ _ : String, α)) (b : Obj β), entries.NodupKeys →
      (entries.foldl (fun b e => f b e.1 e.2) b).get? k = (entries.dlookup k).elim (b.get? k) fun v => g k v (b.get? k) from
    rounds o.entries b o.nodupKeys
  intro entries
  induction entries with
  | nil => intro b _; rfl
  | cons e rest ih =>
    intro b distinct
    obtain ⟨key, value⟩ := e
    obtain ⟨first, later⟩ := List.nodupKeys_cons.mp distinct
    rw [List.foldl_cons, ih _ later, own]
    by_cases same : k = key
    · rw [same, if_pos rfl, List.dlookup_cons_eq, List.dlookup_eq_none.mpr first]
      rfl
    · rw [if_neg same, List.dlookup_cons_ne _ _ same]

theorem get?_assign (o other : Obj α) (k : String) : (o.assign other).get? k = (other.get? k).or (o.get? k) := by
  have written := get?_foldl (f := set) (g := fun _ v _ => some v) (fun o key v k' => get?_set o key k' v) other o k
  unfold assign
  rw [written]
  cases other.get? k <;> rfl

theorem has_iff : o.has k = true ↔ ∃ v, o.get? k = some v := Option.isSome_iff_exists

theorem has_eq_false : o.has k = false ↔ o.get? k = none := by
  simp [has]

theorem has_set (o : Obj α) (k k' : String) (v : α) :
    (o.set k v).has k' = (decide (k' = k) || o.has k') := by
  unfold has
  rw [get?_set]
  split <;> simp_all

theorem has_delete (o : Obj α) (k k' : String) :
    (o.delete k).has k' = (!decide (k' = k) && o.has k') := by
  unfold has
  rw [get?_delete]
  split <;> simp_all

theorem mem_keys_iff : k ∈ o.keys ↔ ∃ v, o.get? k = some v := by
  rw [← AList.mem_keys, ← AList.lookup_isSome, Option.isSome_iff_exists]
  rfl

theorem mem_keys_iff_has : k ∈ o.keys ↔ o.has k = true := by
  rw [mem_keys_iff, has_iff]

theorem keys_set_of_has (v : α) (h : o.has k = true) : (o.set k v).keys = o.keys := by
  have present : k ∈ o := AList.mem_keys.mpr (mem_keys_iff_has.mpr h)
  rw [set, dif_pos present]
  exact AList.keys_replace k v o

theorem keys_modify (o : Obj α) (k : String) (f : α → α) : (o.modify k f).keys = o.keys := by
  unfold modify
  split
  · rename_i present
    exact keys_set_of_has _ (has_iff.mpr ⟨_, present⟩)
  · rfl

/-! ### Equal maps -/

theorem entries_pairs (o : Obj α) : o.entries.map (fun e => (e.1, some e.2)) = o.keys.map fun k => (k, o.get? k) := by
  show _ = (o.entries.map Sigma.fst).map fun k => (k, o.get? k)
  rw [List.map_map]
  apply List.map_congr_left
  intro e there
  have found : o.get? e.1 = some e.2 := AList.mem_lookup_iff.mpr there
  simp [found]

/-- Maps are equal that enumerate the same keys and have the same under each. -/
theorem ext_of_keys {o o' : Obj α} (keys : o.keys = o'.keys) (same : ∀ k, o.get? k = o'.get? k) : o = o' := by
  apply AList.ext
  have pairs : o.entries.map (fun e => (e.1, some e.2)) = o'.entries.map fun e => (e.1, some e.2) := by
    rw [entries_pairs, entries_pairs, keys]
    exact List.map_congr_left fun k _ => by rw [same]
  refine List.map_injective_iff.mpr ?_ pairs
  rintro ⟨k, v⟩ ⟨k', v'⟩ same
  simp only [Prod.mk.injEq, Option.some.injEq] at same
  obtain ⟨rfl, rfl⟩ := same
  rfl

theorem keys_delete (o : Obj α) (k : String) : (o.delete k).keys = o.keys.erase k := AList.keys_erase k o

/-- Write a property, or delete it. -/
def put (o : Obj α) (k : String) : Option α → Obj α
  | some v => o.set k v
  | none => o.delete k

theorem put_some (o : Obj α) (k : String) (v : α) : o.put k (some v) = o.set k v := rfl

theorem put_none (o : Obj α) (k : String) : o.put k none = o.delete k := rfl

theorem get?_put (o : Obj α) (k k' : String) (v : Option α) : (o.put k v).get? k' = if k' = k then v else o.get? k' := by
  cases v with
  | none => exact get?_delete o k k'
  | some v => exact get?_set o k k' v

/-- What is put back changes nothing. -/
theorem put_get? (o : Obj α) (k : String) : o.put k (o.get? k) = o := by
  apply ext_of_keys
  · cases found : o.get? k with
    | none => rw [put, keys_delete, List.erase_of_not_mem (mt mem_keys_iff_has.mp (by simp [has, found]))]
    | some v => exact keys_set_of_has v (has_iff.mpr ⟨v, found⟩)
  · intro k'
    rw [get?_put]
    split
    · rename_i same
      rw [same]
    · rfl

/-- A new property that is deleted leaves the others where they were. -/
theorem delete_set_of_new (v : α) (new : o.get? k = none) : (o.set k v).delete k = o := by
  have absent : k ∉ o := mt AList.mem_keys.mp (mt mem_keys_iff_has.mp (by simp [has, new]))
  have placed : (o.set k v).keys = (o.entries.takeWhile fun e => !enumeratedBefore k e.1).map Sigma.fst ++
      k :: (o.entries.dropWhile fun e => !enumeratedBefore k e.1).map Sigma.fst := by
    rw [set, dif_neg absent]
    show (place k v o.entries).map Sigma.fst = _
    simp [place]
  have old : o.keys = (o.entries.takeWhile fun e => !enumeratedBefore k e.1).map Sigma.fst ++
      (o.entries.dropWhile fun e => !enumeratedBefore k e.1).map Sigma.fst := by
    rw [← List.map_append, List.takeWhile_append_dropWhile]
    rfl
  apply ext_of_keys
  · have before : k ∉ (o.entries.takeWhile fun e => !enumeratedBefore k e.1).map Sigma.fst := by
      intro there
      apply absent
      rw [AList.mem_keys, old]
      exact List.mem_append_left _ there
    rw [keys_delete, placed, List.erase_append_right _ before, List.erase_cons_head, old]
  · intro k'
    rw [get?_delete, get?_set]
    split
    · rename_i same
      rw [same, new]
    · rfl

/-- Of two writes the last one stands. -/
theorem set_set (o : Obj α) (k : String) (v w : α) : (o.set k v).set k w = o.set k w := by
  have there : (o.set k v).has k = true := by simp [has_set]
  apply ext_of_keys
  · rw [keys_set_of_has w there]
    unfold set
    split
    · rw [AList.keys_replace, AList.keys_replace]
    · show (place k v o.entries).map Sigma.fst = (place k w o.entries).map Sigma.fst
      simp [place]
  · intro k'
    rw [get?_set, get?_set, get?_set]
    split <;> rfl

theorem keys_put_of_has {v : Option α} (there : v.isSome = true → o.has k = true) :
    (o.put k v).keys = if v.isSome then o.keys else o.keys.erase k := by
  cases v with
  | none => exact keys_delete o k
  | some v => exact keys_set_of_has v (there rfl)

/-- Changes of different properties can change places. -/
theorem put_comm {v v' : Option α} (different : k ≠ k') (there : v.isSome = true → o.has k = true)
    (there' : v'.isSome = true → o.has k' = true) : (o.put k v).put k' v' = (o.put k' v').put k v := by
  have still : v'.isSome = true → (o.put k v).has k' = true := by
    intro some_
    have before := there' some_
    unfold has at before ⊢
    rw [get?_put, if_neg different.symm]
    exact before
  have still' : v.isSome = true → (o.put k' v').has k = true := by
    intro some_
    have before := there some_
    unfold has at before ⊢
    rw [get?_put, if_neg different]
    exact before
  apply ext_of_keys
  · rw [keys_put_of_has still, keys_put_of_has still', keys_put_of_has there, keys_put_of_has there']
    cases v <;> cases v' <;> simp [List.erase_comm]
  · intro other
    simp only [get?_put]
    by_cases same : other = k
    · simp [same, different]
    · simp [same]

/-! ### Counting -/

@[simp] theorem count_empty (p : α → Bool) : (∅ : Obj α).count p = 0 := rfl

/-- Deleting takes one entry out of the list. -/
theorem delete_entries (o : Obj α) {old : α} (h : o.get? k = some old) :
    ∃ before after, o.entries = before ++ ⟨k, old⟩ :: after ∧ (o.delete k).entries = before ++ after := by
  have present : k ∈ o.entries.keys := mem_keys_iff.mpr ⟨old, h⟩
  obtain ⟨b, before, after, _, split, erased⟩ := List.exists_of_kerase present
  have found : o.lookup k = some b := AList.mem_lookup_iff.mpr (by rw [split]; simp)
  obtain rfl := Option.some.inj (found.symm.trans h)
  exact ⟨before, after, split, erased⟩

theorem delete_entries_of_none (o : Obj α) (h : o.get? k = none) : (o.delete k).entries = o.entries :=
  List.kerase_of_notMem_keys (AList.lookup_eq_none.mp h)

theorem count_delete (o : Obj α) (p : α → Bool) {old : α} (h : o.get? k = some old) :
    o.count p = (o.delete k).count p + (p old).toNat := by
  obtain ⟨before, after, split, rest⟩ := delete_entries o h
  unfold count
  rw [rest, split, List.countP_append, List.countP_cons, List.countP_append]
  cases p old <;> simp; omega

theorem count_delete_of_none (o : Obj α) (p : α → Bool) (h : o.get? k = none) :
    (o.delete k).count p = o.count p := by
  rw [count, delete_entries_of_none o h, count]

theorem count_set (o : Obj α) (p : α → Bool) (k : String) (v : α) :
    (o.set k v).count p = (o.delete k).count p + (p v).toNat := by
  have moved := (set_perm o k v).countP_eq (fun e => p e.2)
  rw [AList.entries_insert, List.countP_cons] at moved
  unfold count delete AList.erase
  rw [moved]
  cases p v <;> rfl

theorem count_modify (o : Obj α) (p : α → Bool) (f : α → α) {old : α} (h : o.get? k = some old) :
    (o.modify k f).count p + (p old).toNat = o.count p + (p (f old)).toNat := by
  have written := count_set o p k (f old)
  have removed := count_delete o p h
  unfold modify
  rw [h]
  dsimp only
  omega

theorem count_pos_iff (p : α → Bool) : 0 < o.count p ↔ ∃ k v, o.get? k = some v ∧ p v = true := by
  unfold count
  rw [List.countP_pos_iff]
  constructor
  · rintro ⟨⟨k, v⟩, member, holds⟩
    exact ⟨k, v, AList.mem_lookup_iff.mpr member, holds⟩
  · rintro ⟨k, v, found, holds⟩
    exact ⟨⟨k, v⟩, AList.mem_lookup_iff.mp found, holds⟩

/-! ### Summing -/

/-- The sum of `f` over the properties. -/
def sum (o : Obj α) (f : String → α → Int) : Int := (o.entries.map fun e => f e.1 e.2).sum

@[simp] theorem sum_empty (f : String → α → Int) : (∅ : Obj α).sum f = 0 := rfl

theorem sum_delete (o : Obj α) (f : String → α → Int) {old : α} (h : o.get? k = some old) :
    o.sum f = (o.delete k).sum f + f k old := by
  obtain ⟨before, after, split, rest⟩ := delete_entries o h
  unfold sum
  rw [rest, split]
  simp only [List.map_append, List.map_cons, List.sum_append, List.sum_cons]
  omega

theorem sum_delete_of_none (o : Obj α) (f : String → α → Int) (h : o.get? k = none) :
    (o.delete k).sum f = o.sum f := by
  rw [sum, delete_entries_of_none o h, sum]

theorem sum_set (o : Obj α) (f : String → α → Int) (k : String) (v : α) :
    (o.set k v).sum f = (o.delete k).sum f + f k v := by
  have moved := ((set_perm o k v).map fun e => f e.1 e.2).sum_eq
  rw [AList.entries_insert, List.map_cons, List.sum_cons] at moved
  unfold sum delete AList.erase
  rw [moved]
  dsimp only
  omega

theorem sum_nonneg (o : Obj α) (f : String → α → Int) (h : ∀ k v, o.get? k = some v → 0 ≤ f k v) :
    0 ≤ o.sum f := by
  refine List.sum_nonneg fun x member => ?_
  obtain ⟨⟨k, v⟩, entry, rfl⟩ := List.mem_map.mp member
  exact h k v (AList.mem_lookup_iff.mpr entry)

end Obj
/-- Numbers are different keys. -/
theorem toString_number {m n : Nat} : toString m = toString n ↔ m = n := by
  refine ⟨fun same => ?_, congrArg _⟩
  rw [Nat.toString_eq_ofList_toDigits, Nat.toString_eq_ofList_toDigits, String.ofList_inj] at same
  have read := congrArg (Nat.ofDigitChars 10 · 0) same
  rwa [Nat.ofDigitChars_toDigits (by decide) (by decide), Nat.ofDigitChars_toDigits (by decide) (by decide)] at read

theorem toString_digits (n : Nat) : ∀ c ∈ (toString n).toList, c.isDigit := by
  intro c there
  rw [Nat.toString_eq_ofList_toDigits, String.toList_ofList] at there
  exact Nat.isDigit_of_mem_toDigits (by decide) (by decide) there

end Tinygame
