import Tinygame.Dataprocess.LuaSerialize

/-!
# Values of server and client

A value of the server and a value of the client are the same when the one stands for the other: position
`k` for position `k - 1`, and a table without entries for an array or an object without any.
-/

namespace Tinygame.Codecs

open Serialize (Error Elem)
open LuaSerialize (Key Lua ofItems)

/-- A table with these values at the names of the members. -/
def ofMembers (members : List (String × Serialize.Value)) (values : List Lua) : List (Key × Lua) :=
  (members.zip values).map fun pair => (.name pair.1.1, pair.2)

inductive Same : Serialize.Value → Lua → Prop where
  | scalar (json : String) : Same (.scalar json) (.scalar json)
  | array {elements : List Serialize.Value} {items : List Lua} {entries : List (Key × Lua)}
      (size : elements.length = items.length) (placed : entries.Perm (ofItems items))
      (each : ∀ pair ∈ elements.zip items, Same pair.1 pair.2) : Same (.array elements) (.table entries)
  | object {members : List (String × Serialize.Value)} {values : List Lua} {entries : List (Key × Lua)}
      (distinct : (members.map Prod.fst).Nodup) (size : members.length = values.length)
      (placed : entries.Perm (ofMembers members values))
      (each : ∀ pair ∈ members.zip values, Same pair.1.2 pair.2) : Same (.object members) (.table entries)

/-! ### Lists side by side -/

section
variable {α β γ τ : Type}

theorem zip_of_map_eq {f : α → γ} {g : β → γ} : ∀ {as : List α} {bs : List β}, as.map f = bs.map g →
    ∀ pair ∈ as.zip bs, f pair.1 = g pair.2
  | [], _, _, _, there => absurd there List.not_mem_nil
  | _ :: _, [], _, _, there => absurd there List.not_mem_nil
  | _ :: _, _ :: _, same, pair, there => by
    obtain ⟨first, later⟩ := List.cons.inj same
    rcases List.mem_cons.mp there with rfl | there
    · exact first
    · exact zip_of_map_eq later pair there

theorem length_of_map_eq {f : α → γ} {g : β → γ} {as : List α} {bs : List β} (same : as.map f = bs.map g) :
    as.length = bs.length := by
  simpa using congrArg List.length same

end

/-! ### Same values -/

section
variable {τ : Type} {list : List τ} {v x y : Serialize.Value} {l m : Lua} {elements : List Serialize.Value}
  {members : List (String × Serialize.Value)} {items values : List Lua} {entries : List (Key × Lua)}

theorem Same.solid (same : Same v l) : l.isNil = false := by
  cases same <;> rfl

theorem Same.array_of {f : τ → Serialize.Value} {g : τ → Lua} (placed : entries.Perm (ofItems (list.map g)))
    (each : ∀ t ∈ list, Same (f t) (g t)) : Same (.array (list.map f)) (.table entries) := by
  refine .array (by simp) placed ?_
  rw [List.zip_map']
  rintro pair there
  obtain ⟨t, listed, rfl⟩ := List.mem_map.mp there
  exact each t listed

theorem Same.object_of {name : τ → String} {f : τ → Serialize.Value} {g : τ → Lua} (distinct : (list.map name).Nodup)
    (placed : entries.Perm (list.map fun t => (.name (name t), g t))) (each : ∀ t ∈ list, Same (f t) (g t)) :
    Same (.object (list.map fun t => (name t, f t))) (.table entries) := by
  refine @Same.object _ (list.map g) _ (by rw [List.map_map]; exact distinct) (by simp) ?_ ?_
  · rw [ofMembers, List.zip_map', List.map_map]
    exact placed
  · rw [List.zip_map']
    rintro pair there
    obtain ⟨t, listed, rfl⟩ := List.mem_map.mp there
    exact each t listed

theorem Same.table_of_array (same : Same (.array elements) m) : ∃ entries, m = .table entries := by
  cases same with
  | array => exact ⟨_, rfl⟩

theorem Same.table_of_object (same : Same (.object members) m) : ∃ entries, m = .table entries := by
  cases same with
  | object => exact ⟨_, rfl⟩

theorem Same.array_inv (same : Same (.array elements) (.table entries)) : ∃ pairs : List (Serialize.Value × Lua),
    elements = pairs.map Prod.fst ∧ entries.Perm (ofItems (pairs.map Prod.snd)) ∧
      ∀ pair ∈ pairs, Same pair.1 pair.2 := by
  cases same with
  | array size placed each =>
    rename_i items
    refine ⟨elements.zip items, (List.map_fst_zip (Nat.le_of_eq size)).symm, ?_, each⟩
    rwa [List.map_snd_zip (Nat.le_of_eq size.symm)]

theorem Same.object_inv (same : Same (.object members) (.table entries)) : ∃ pairs : List ((String × Serialize.Value) × Lua),
    (members.map Prod.fst).Nodup ∧ members = pairs.map Prod.fst ∧
      entries.Perm (pairs.map fun pair => (.name pair.1.1, pair.2)) ∧ ∀ pair ∈ pairs, Same pair.1.2 pair.2 := by
  cases same with
  | object distinct size placed each =>
    rename_i values
    exact ⟨members.zip values, distinct, (List.map_fst_zip (Nat.le_of_eq size)).symm, placed, each⟩

theorem ofItems_injective (same : (ofItems items).Perm (ofItems values)) : items = values := by
  refine List.ext_getElem? fun k => ?_
  rw [← LuaSerialize.lookup_ofItems k, ← LuaSerialize.lookup_ofItems k]
  exact lookup_perm (LuaSerialize.ofItems_distinct values) same

/-- Positions are no names. -/
theorem ofItems_names {pairs : List ((String × Serialize.Value) × Lua)}
    (same : (ofItems items).Perm (pairs.map fun pair => (Key.name pair.1.1, pair.2))) : items = [] ∧ pairs = [] := by
  cases items with
  | nil => exact ⟨rfl, List.map_eq_nil_iff.mp (List.nil_perm.mp same)⟩
  | cons x rest =>
    have first : (Key.index 1, x) ∈ ofItems (x :: rest) := List.mem_cons_self
    obtain ⟨pair, -, clash⟩ := List.mem_map.mp (same.mem_iff.mp first)
    cases clash

theorem empty_object : Same (.object []) (.table []) :=
  @Same.object [] [] [] List.nodup_nil rfl (List.Perm.refl _) fun _ there => absurd there List.not_mem_nil

theorem empty_array : Same (.array []) (.table []) :=
  @Same.array [] [] [] rfl (List.Perm.refl _) fun _ there => absurd there List.not_mem_nil

/-- The values of a converted map, with the members they are converted from. -/
theorem Same.map_inv {f : Serialize.Value → Serialize.Value}
    (same : Same (.object (members.map fun member => (member.1, f member.2))) (.table entries)) :
    ∃ pairs : List ((String × Serialize.Value) × Lua), (members.map Prod.fst).Nodup ∧ members = pairs.map Prod.fst ∧
      entries.Perm (pairs.map fun pair => (.name pair.1.1, pair.2)) ∧ ∀ pair ∈ pairs, Same (f pair.1.2) pair.2 := by
  obtain ⟨pairs, distinct, listed, placed, each⟩ := same.object_inv
  have sizes := length_of_map_eq listed
  have aligned := zip_of_map_eq listed
  refine ⟨members.zip (pairs.map Prod.snd), ?_, (List.map_fst_zip (by simp [sizes])).symm, ?_, ?_⟩
  · rwa [List.map_map] at distinct
  · rw [List.zip_map_right, List.map_map]
    refine placed.trans (List.Perm.of_eq ?_)
    have back : (members.zip pairs).map Prod.snd = pairs := List.map_snd_zip (Nat.le_of_eq sizes.symm)
    conv_lhs => rw [← back, List.map_map]
    refine List.map_congr_left fun pair there => ?_
    have here := aligned pair there
    simp [← here]
  · rw [List.zip_map_right]
    rintro pair there
    obtain ⟨zipped, listed, rfl⟩ := List.mem_map.mp there
    have here := aligned zipped listed
    have inside := each zipped.2 (List.of_mem_zip listed).2
    rw [← here] at inside
    exact inside

theorem Same.vector_inv {f : τ → Serialize.Value} (same : Same (.array (list.map f)) (.table entries)) :
    ∃ pairs : List (τ × Lua), list = pairs.map Prod.fst ∧ entries.Perm (ofItems (pairs.map Prod.snd)) ∧
      ∀ pair ∈ pairs, Same (f pair.1) pair.2 := by
  obtain ⟨pairs, listed, placed, each⟩ := same.array_inv
  have sizes := length_of_map_eq listed
  have aligned := zip_of_map_eq listed
  refine ⟨list.zip (pairs.map Prod.snd), (List.map_fst_zip (by simp [sizes])).symm, ?_, ?_⟩
  · rwa [List.map_snd_zip (by simp [sizes])]
  · rw [List.zip_map_right]
    rintro pair there
    obtain ⟨zipped, listed, rfl⟩ := List.mem_map.mp there
    have here := aligned zipped listed
    have inside := each zipped.2 (List.of_mem_zip listed).2
    rw [← here] at inside
    exact inside

theorem placed_distinct {pairs : List ((String × Serialize.Value) × Lua)} (distinct : ((pairs.map Prod.fst).map Prod.fst).Nodup)
    (placed : entries.Perm (pairs.map fun pair => (.name pair.1.1, pair.2))) : (entries.map Prod.fst).Nodup := by
  have names : (pairs.map fun pair => (Key.name pair.1.1, pair.2)).map Prod.fst =
      ((pairs.map Prod.fst).map Prod.fst).map Key.name := by
    simp only [List.map_map]
    rfl
  rw [(placed.map Prod.fst).nodup_iff, names]
  exact List.Nodup.map (fun a b same => by injection same) distinct

/-- Objects that stand for one table have the same members. -/
theorem Same.meet {others : List (String × Serialize.Value)} {key : String} (same : Same (.object members) m)
    (same' : Same (.object others) m) (there : (key, y) ∈ others) :
    ∃ x, (key, x) ∈ members ∧ ∃ l, Same x l ∧ Same y l := by
  obtain ⟨entries, rfl⟩ := same.table_of_object
  obtain ⟨pairs, -, rfl, placed, inside⟩ := same.object_inv
  obtain ⟨pairs', -, rfl, placed', inside'⟩ := same'.object_inv
  obtain ⟨pair', listed', here⟩ := List.mem_map.mp there
  have entry := placed.mem_iff.mp (placed'.mem_iff.mpr (List.mem_map.mpr ⟨pair', listed', rfl⟩))
  obtain ⟨pair, listed, same⟩ := List.mem_map.mp entry
  obtain ⟨name, value⟩ := Prod.mk.inj same
  have key : pair.1.1 = key := by
    have names : pair.1.1 = pair'.1.1 := by injection name
    rw [names, here]
  refine ⟨pair.1.2, List.mem_map.mpr ⟨pair, listed, Prod.ext key rfl⟩, pair.2, inside pair listed, ?_⟩
  have same' := inside' pair' listed'
  rwa [here, ← value] at same'

/-- Converting the values on both sides. -/
theorem Same.map_of {pairs : List ((String × Serialize.Value) × Lua)} (f : Serialize.Value → Serialize.Value) (g : Lua → Lua)
    (distinct : ((pairs.map Prod.fst).map Prod.fst).Nodup)
    (placed : entries.Perm (pairs.map fun pair => (.name pair.1.1, pair.2)))
    (each : ∀ pair ∈ pairs, Same (f pair.1.2) (g pair.2)) :
    Same (.object ((pairs.map Prod.fst).map fun member => (member.1, f member.2)))
      (.table (entries.map fun entry => (entry.1, g entry.2))) := by
  rw [List.map_map] at distinct ⊢
  refine Same.object_of distinct ?_ each
  have mapped := placed.map fun entry => (entry.1, g entry.2)
  rwa [List.map_map] at mapped

/-- An object and a table that have each other's members. -/
theorem Same.object_of_members (distinct : (members.map Prod.fst).Nodup) (keys : (entries.map Prod.fst).Nodup)
    (there : ∀ member ∈ members, ∃ l, (Key.name member.1, l) ∈ entries ∧ Same member.2 l)
    (here : ∀ entry ∈ entries, ∃ member ∈ members, entry.1 = .name member.1) :
    Same (.object members) (.table entries) := by
  let value (member : String × Serialize.Value) : Lua := (entries.lookup (.name member.1)).getD .nil
  have values (member : String × Serialize.Value) (listed : member ∈ members) :
      (Key.name member.1, value member) ∈ entries ∧ Same member.2 (value member) := by
    obtain ⟨l, entry, same⟩ := there member listed
    have found : value member = l := by
      dsimp only [value]
      rw [lookup_eq_of_mem keys entry]
      rfl
    exact found ▸ ⟨entry, same⟩
  have placed : entries.Perm (members.map fun member => (Key.name member.1, value member)) := by
    have names : (members.map fun member => (Key.name member.1, value member)).map Prod.fst =
        (members.map Prod.fst).map Key.name := by
      simp only [List.map_map]
      rfl
    have keys' : ((members.map fun member => (Key.name member.1, value member)).map Prod.fst).Nodup :=
      names ▸ List.Nodup.map (fun a b same => by injection same) distinct
    refine (List.perm_ext_iff_of_nodup keys.of_map keys'.of_map).mpr fun entry => ⟨fun listed => ?_, fun listed => ?_⟩
    · obtain ⟨member, listed', name⟩ := here entry listed
      refine List.mem_map.mpr ⟨member, listed', Prod.ext name.symm ?_⟩
      have listed : (Key.name member.1, entry.2) ∈ entries := name ▸ listed
      exact Option.some.inj ((lookup_eq_of_mem keys (values member listed').1).symm.trans (lookup_eq_of_mem keys listed))
    · obtain ⟨member, listed', rfl⟩ := List.mem_map.mp listed
      exact (values member listed').1
  have all : members.map (fun member => (member.1, member.2)) = members := List.map_id _
  rw [← all]
  exact Same.object_of distinct placed fun member listed => (values member listed).2

theorem Same.object_members (same : Same (.object members) (.table entries)) : (members.map Prod.fst).Nodup ∧
    (entries.map Prod.fst).Nodup ∧ (∀ member ∈ members, ∃ l, (Key.name member.1, l) ∈ entries ∧ Same member.2 l) ∧
      ∀ entry ∈ entries, ∃ member ∈ members, entry.1 = .name member.1 := by
  obtain ⟨pairs, distinct, rfl, placed, inside⟩ := same.object_inv
  refine ⟨distinct, placed_distinct distinct placed, fun member there => ?_, fun entry there => ?_⟩
  · obtain ⟨pair, listed, rfl⟩ := List.mem_map.mp there
    exact ⟨pair.2, placed.mem_iff.mpr (List.mem_map.mpr ⟨pair, listed, rfl⟩), inside pair listed⟩
  · obtain ⟨pair, listed, rfl⟩ := List.mem_map.mp (placed.mem_iff.mp there)
    exact ⟨pair.1, List.mem_map.mpr ⟨pair, listed, rfl⟩, rfl⟩

/-- Values that stand for one value of the client stand for the same ones. -/
theorem Same.transfer (same : Same v m) : ∀ {x l}, Same x m → Same x l → Same v l := by
  induction same with
  | scalar json =>
    intro x l same' toOther
    cases same'
    exact toOther
  | array size placed each ih =>
    rename_i elements items entries
    intro x l same' toOther
    cases x with
    | object members =>
      obtain ⟨entries', rfl⟩ := toOther.table_of_object
      obtain ⟨pairs, -, rfl, placed', -⟩ := same'.object_inv
      obtain ⟨rfl, rfl⟩ := ofItems_names (placed.symm.trans placed')
      obtain ⟨pairs, -, none, placed, -⟩ := toOther.object_inv
      obtain rfl := List.map_eq_nil_iff.mp none.symm
      obtain rfl := List.perm_nil.mp placed
      obtain rfl := List.length_eq_zero_iff.mp size
      exact empty_array
    | array others =>
      obtain ⟨entries', rfl⟩ := toOther.table_of_array
      obtain ⟨pairs, rfl, placed', inside⟩ := same'.array_inv
      obtain ⟨pairs', listed, placed'', inside'⟩ := toOther.array_inv
      have here : items = pairs.map Prod.snd := ofItems_injective (placed.symm.trans placed')
      subst here
      have sizes := length_of_map_eq listed
      rw [List.length_map] at size
      refine Same.array (by rw [size, sizes, List.length_map]) placed'' fun pair there => ?_
      obtain ⟨i, found⟩ := List.mem_iff_getElem?.mp there
      obtain ⟨first, second⟩ := List.getElem?_zip_eq_some.mp found
      obtain ⟨pair', found', item⟩ := Option.map_eq_some_iff.mp (List.getElem?_map .. ▸ second)
      have bound : i < pairs.length := sizes ▸ (List.getElem?_eq_some_iff.mp found').1
      have both : pairs[i].1 = pair'.1 := by
        have at_i := congrArg (·[i]?) listed
        simp only [List.getElem?_map, List.getElem?_eq_getElem bound, found'] at at_i
        exact Option.some.inj at_i
      have zipped : (pair.1, pairs[i].2) ∈ elements.zip (pairs.map Prod.snd) := by
        refine List.mem_iff_getElem?.mpr ⟨i, List.getElem?_zip_eq_some.mpr ⟨first, ?_⟩⟩
        rw [List.getElem?_map, List.getElem?_eq_getElem bound]
        rfl
      have toItem := inside pairs[i] (List.getElem_mem bound)
      have toOther := inside' pair' (List.mem_of_getElem? found')
      rw [item, ← both] at toOther
      exact ih _ zipped toItem toOther
    | undefined | null | scalar => cases same'
  | object distinct size placed each ih =>
    rename_i members values entries
    intro x l same' toOther
    have same : Same (.object members) (.table entries) := .object distinct size placed each
    cases x with
    | array others =>
      obtain ⟨entries', rfl⟩ := toOther.table_of_array
      obtain ⟨pairs, rfl, placed', -⟩ := same'.array_inv
      obtain ⟨pairs', -, rfl, placed'', -⟩ := same.object_inv
      obtain ⟨none, rfl⟩ := ofItems_names (placed'.symm.trans placed'')
      obtain rfl := List.map_eq_nil_iff.mp none
      obtain ⟨pairs, none, placed, -⟩ := toOther.array_inv
      obtain rfl := List.map_eq_nil_iff.mp none.symm
      obtain rfl := List.perm_nil.mp placed
      exact empty_object
    | object others =>
      obtain ⟨entries', rfl⟩ := toOther.table_of_object
      obtain ⟨-, keys, toEntries, ofEntries⟩ := same'.object_members
      obtain ⟨-, keys', toEntries', ofEntries'⟩ := toOther.object_members
      obtain ⟨-, -, -, back⟩ := same.object_members
      refine Same.object_of_members distinct keys' (fun member there => ?_) fun entry there => ?_
      · rw [← List.map_fst_zip (Nat.le_of_eq size)] at there
        obtain ⟨pair, zipped, rfl⟩ := List.mem_map.mp there
        have listed : (Key.name pair.1.1, pair.2) ∈ entries :=
          placed.mem_iff.mpr (List.mem_map.mpr ⟨pair, zipped, rfl⟩)
        obtain ⟨other, listed', name⟩ := ofEntries _ listed
        obtain ⟨l₁, first, toFirst⟩ := toEntries other listed'
        obtain ⟨l₂, second, toSecond⟩ := toEntries' other listed'
        rw [← name] at first second
        have one : l₁ = pair.2 :=
          Option.some.inj ((lookup_eq_of_mem keys first).symm.trans (lookup_eq_of_mem keys listed))
        exact ⟨l₂, second, ih pair zipped (one ▸ toFirst) toSecond⟩
      · obtain ⟨other, listed, name⟩ := ofEntries' entry there
        obtain ⟨l, listed', -⟩ := toEntries other listed
        obtain ⟨member, listed'', name'⟩ := back _ listed'
        exact ⟨member, listed'', name.trans name'⟩
    | undefined | null | scalar => cases same'

end

end Tinygame.Codecs
