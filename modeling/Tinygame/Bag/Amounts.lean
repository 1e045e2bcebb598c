import Tinygame.Base.RoundTrip
import Tinygame.Bag.Equips

/-!
# Amounts

How much is stored under a name, a stack and an equip together, and what `delItem` and `addItem` change of it. A change of
the bag says under which names something may have been taken or given, and by how much each amount has changed.
-/

namespace Tinygame.Bag

/-- What is stored under a name. -/
def BagList.stock (bagList : BagList) (name : String) : Int :=
  (bagList.itemList.get? name).elim 0 ItemCell.num + (bagList.equipList.get? name).elim 0 EquipInfo.num

/-- The stack under a name. -/
def BagList.held (bagList : BagList) (name : String) : Int := (bagList.itemList.get? name).elim 0 ItemCell.num

/-- That much under one name. -/
def just (name : String) (num : Int) : String → Int := fun other => if other = name then num else 0

/-- What a list of ids and numbers says of a name. -/
def total (entries : List (Id × Int)) (name : String) : Int := (entries.map fun entry => just entry.1.name entry.2 name).sum

def names (entries : List (Id × Int)) : List String := entries.map fun entry => entry.1.name

structure Moved (taken given : List String) (change : String → Int) (before after : BagList) : Prop where
  max : after.max = before.max
  stock : ∀ name, after.stock name = before.stock name + change name
  items : ∀ name, name ∉ taken → name ∉ given → after.itemList.get? name = before.itemList.get? name
  equips : ∀ name, name ∉ taken → after.equipList.get? name = before.equipList.get? name

variable {taken taken' given given' : List String} {change change' : String → Int} {bagList before between after : BagList}
  {index : Id} {num : Int}

theorem just_self (name : String) (num : Int) : just name num name = num := if_pos rfl

theorem just_of_ne {name other : String} (ne : other ≠ name) : just name num other = 0 := if_neg ne

theorem just_neg (name : String) (num : Int) (other : String) : just name (-num) other = -just name num other := by
  unfold just
  split <;> rfl

theorem just_add (name : String) (num more : Int) (other : String) :
    just name (num + more) other = just name num other + just name more other := by
  unfold just
  split <;> rfl

theorem total_cons (entry : Id × Int) (rest : List (Id × Int)) (name : String) :
    total (entry :: rest) name = just entry.1.name entry.2 name + total rest name := rfl

theorem total_single (entry : Id × Int) (name : String) : total [entry] name = just entry.1.name entry.2 name := Int.add_zero _

theorem mem_names_cons {entry : Id × Int} {rest : List (Id × Int)} {name : String} :
    name ∈ names (entry :: rest) ↔ name = entry.1.name ∨ name ∈ names rest := List.mem_cons

theorem mem_names_single {entry : Id × Int} {name : String} : name ∈ names [entry] ↔ name = entry.1.name := List.mem_singleton

theorem total_of_not_mem {entries : List (Id × Int)} {name : String} (other : name ∉ names entries) : total entries name = 0 := by
  induction entries with
  | nil => rfl
  | cons entry rest ih =>
    obtain ⟨ne, later⟩ := not_or.mp (mt mem_names_cons.mpr other)
    rw [total_cons, just_of_ne ne, ih later]
    rfl

/-! ### Changes -/

theorem Moved.rfl : Moved [] [] 0 bagList bagList where
  max := Eq.refl _
  stock _ := (Int.add_zero _).symm
  items _ _ _ := Eq.refl _
  equips _ _ := Eq.refl _

theorem Moved.trans (first : Moved taken given change before between) (second : Moved taken' given' change' between after) :
    Moved (taken ++ taken') (given ++ given') (change + change') before after where
  max := second.max.trans first.max
  stock name := by
    rw [second.stock, first.stock, Int.add_assoc]
    rfl
  items name untaken ungiven := by
    obtain ⟨untaken, untaken'⟩ := not_or.mp (mt List.mem_append.mpr untaken)
    obtain ⟨ungiven, ungiven'⟩ := not_or.mp (mt List.mem_append.mpr ungiven)
    exact (second.items name untaken' ungiven').trans (first.items name untaken ungiven)
  equips name untaken := by
    obtain ⟨untaken, untaken'⟩ := not_or.mp (mt List.mem_append.mpr untaken)
    exact (second.equips name untaken').trans (first.equips name untaken)

theorem Moved.mono (moved : Moved taken given change before after) (takenLe : taken ⊆ taken') (givenLe : given ⊆ given')
    (same : ∀ name, change name = change' name) : Moved taken' given' change' before after where
  max := moved.max
  stock name := same name ▸ moved.stock name
  items name untaken ungiven := moved.items name (fun there => untaken (takenLe there)) fun there => ungiven (givenLe there)
  equips name untaken := moved.equips name fun there => untaken (takenLe there)

/-! ### The operations -/

theorem counted_moved {α : Type} {value : α → Int} {o o' : Obj α} {name : String} (others : ∀ other, other ≠ name → o'.get? other = o.get? other)
    (now : (o'.get? name).elim 0 value = (o.get? name).elim 0 value + num) (other : String) :
    (o'.get? other).elim 0 value = (o.get? other).elim 0 value + just name num other := by
  by_cases same : other = name
  · rw [same, now, just_self]
  · rw [others other same, just_of_ne same, Int.add_zero]

/-- Only the stack of that name is written. -/
theorem moved_items {name : String} {itemList : Obj ItemCell}
    (others : ∀ other, other ≠ name → itemList.get? other = bagList.itemList.get? other)
    (now : (itemList.get? name).elim 0 ItemCell.num = (bagList.itemList.get? name).elim 0 ItemCell.num + num)
    (named : name ∈ taken ∨ name ∈ given) : Moved taken given (just name num) bagList { bagList with itemList } where
  max := rfl
  stock other := by
    have counted := counted_moved others now other
    unfold BagList.stock
    dsimp only
    omega
  items other untaken ungiven := by
    apply others
    rintro rfl
    exact named.elim untaken ungiven
  equips _ _ := rfl

/-- Only the equip of that name is written. -/
theorem moved_equips {name : String} {equipList : Obj EquipInfo}
    (others : ∀ other, other ≠ name → equipList.get? other = bagList.equipList.get? other)
    (now : (equipList.get? name).elim 0 EquipInfo.num = (bagList.equipList.get? name).elim 0 EquipInfo.num + num)
    (named : name ∈ taken) : Moved taken given (just name num) bagList { bagList with equipList } where
  max := rfl
  stock other := by
    have counted := counted_moved others now other
    unfold BagList.stock
    dsimp only
    omega
  items _ _ _ := rfl
  equips other untaken := by
    apply others
    rintro rfl
    exact untaken named

theorem delItem_moved (deleted : (delItem index num bagList).1 = true) :
    Moved [index.name] [] (just index.name (-num)) bagList (delItem index num bagList).2 := by
  unfold delItem at deleted ⊢
  split at deleted
  · cases deleted
  rename_i nonneg
  rw [if_neg nonneg]
  split at deleted
  · rename_i cell stack
    split at deleted
    · cases deleted
    rename_i enough
    rw [if_neg enough]
    split
    · refine moved_items (fun other ne => Obj.get?_delete_of_ne _ ne) ?_ (.inl (List.mem_cons_self ..))
      rw [Obj.get?_delete_self, stack]
      show 0 = cell.num + -num
      omega
    · refine moved_items (fun other ne => Obj.get?_set_of_ne _ _ ne) ?_ (.inl (List.mem_cons_self ..))
      rw [Obj.get?_set_self, stack]
      rfl
  · split at deleted
    · rename_i info equip
      split at deleted
      · cases deleted
      rename_i enough
      rw [if_neg enough]
      split
      · refine moved_equips (fun other ne => Obj.get?_delete_of_ne _ ne) ?_ (List.mem_cons_self ..)
        rw [Obj.get?_delete_self, equip]
        show 0 = info.num + -num
        omega
      · refine moved_equips (fun other ne => Obj.get?_set_of_ne _ _ ne) ?_ (List.mem_cons_self ..)
        rw [Obj.get?_set_self, equip]
        rfl
    · cases deleted

theorem addItem_moved {Item : ItemTable} (added : (addItem Item index num bagList).1 = true) :
    Moved [] [index.name] (just index.name num) bagList (addItem Item index num bagList).2 := by
  unfold addItem at added ⊢
  split at added
  · rename_i fits
    rw [if_pos fits]
    split
    · rename_i cell stack
      refine moved_items (fun other ne => Obj.get?_set_of_ne _ _ ne) ?_ (.inr (List.mem_cons_self ..))
      rw [Obj.get?_set_self, stack]
      rfl
    · rename_i none_
      refine moved_items (fun other ne => Obj.get?_set_of_ne _ _ ne) ?_ (.inr (List.mem_cons_self ..))
      rw [Obj.get?_set_self, none_]
      show num = 0 + num
      omega
  · cases added

/-! ### Stacks -/

theorem held_set (bagList : BagList) (key name : String) (cell : ItemCell) :
    BagList.held { bagList with itemList := bagList.itemList.set key cell } name = if name = key then cell.num else bagList.held name := by
  unfold BagList.held
  dsimp only
  rw [Obj.get?_set]
  split <;> rfl

theorem addItem_fst (Item : ItemTable) (itemID : Id) (num : Int) (bagList : BagList) :
    (addItem Item itemID num bagList).1 = tryAddItem Item itemID num bagList := by
  unfold addItem
  split
  · rename_i fits
    rw [fits]
    split <;> rfl
  · rename_i refused
    exact (Bool.eq_false_iff.mpr refused).symm

theorem addItem_equipList (Item : ItemTable) (itemID : Id) (num : Int) (bagList : BagList) :
    (addItem Item itemID num bagList).2.equipList = bagList.equipList := by
  unfold addItem
  split
  · split <;> rfl
  · rfl

theorem addItem_held (Item : ItemTable) (itemID : Id) (num : Int) (bagList : BagList) (name : String) :
    (addItem Item itemID num bagList).2.held name =
      bagList.held name + if tryAddItem Item itemID num bagList = true then just itemID.name num name else 0 := by
  unfold addItem
  split
  · rename_i fits
    have before : bagList.held itemID.name = (bagList.itemList.get? itemID.name).elim 0 ItemCell.num := rfl
    unfold just
    split
    · rename_i cell stack
      rw [stack] at before
      refine (held_set ..).trans ?_
      split
      · rename_i same
        rw [same, before]
        rfl
      · exact (Int.add_zero _).symm
    · rename_i none_
      rw [none_] at before
      refine (held_set ..).trans ?_
      split
      · rename_i same
        rw [same, before]
        exact (Int.zero_add _).symm
      · exact (Int.add_zero _).symm
  · exact (Int.add_zero _).symm

/-! ### The same content -/

/-- The two store the same, in whatever order. -/
structure Alike (bagList other : BagList) : Prop where
  max : bagList.max = other.max
  items : ∀ name, bagList.itemList.get? name = other.itemList.get? name
  equips : ∀ name, bagList.equipList.get? name = other.equipList.get? name

theorem Alike.refl (bagList : BagList) : Alike bagList bagList := ⟨rfl, fun _ => rfl, fun _ => rfl⟩

theorem entries_perm {α : Type} {o o' : Obj α} (same : ∀ name, o.get? name = o'.get? name) : o.entries.Perm o'.entries := by
  apply List.lookup_ext o.nodupKeys o'.nodupKeys
  intro name a
  show a ∈ o.get? name ↔ a ∈ o'.get? name
  rw [same]

section
variable (Item : ItemTable) {other : BagList}

/-- A room that every entry takes its cells from does not depend on their order. -/
theorem room_perm {α : Type} {room : List α → Int → Option Int} {taken : α → Option Int}
    (step : ∀ a rest leftRoom, room (a :: rest) leftRoom = (taken a).bind fun cells => room rest (leftRoom - cells))
    {entries entries' : List α} (perm : entries.Perm entries') (leftRoom : Int) : room entries leftRoom = room entries' leftRoom := by
  induction perm generalizing leftRoom with
  | nil => rfl
  | cons a _ ih =>
    rw [step, step]
    exact congrArg _ (funext fun cells => ih (leftRoom - cells))
  | swap a b rest =>
    rw [step, step, Option.bind_congr fun cells _ => step a rest (leftRoom - cells),
      Option.bind_congr fun cells _ => step b rest (leftRoom - cells)]
    cases taken a with
    | none => cases taken b <;> rfl
    | some m =>
      cases taken b with
      | none => rfl
      | some n =>
        show room rest (leftRoom - n - m) = room rest (leftRoom - m - n)
        exact congrArg (room rest) (by omega)
  | trans _ _ ih ih' => exact (ih leftRoom).trans (ih' leftRoom)

/-- The cells of a stack, or nothing where counting gives up. -/
def stackCells (entry : Σ _ : String, ItemCell) : Option Int :=
  (Item.rows.get? entry.1).bind fun row =>
    if entry.2.num ≤ 0 then none
    else row.stackMax.bind fun stackMax => if stackMax ≤ 0 then none else some (ceil entry.2.num stackMax)

def equipCells (entry : Σ _ : String, EquipInfo) : Option Int :=
  entry.2.id.bind fun id => if !id.truthy then none else if !Item.rows.has id.name then none else some 1

theorem itemsRoom_cons (entry : Σ _ : String, ItemCell) (rest : List (Σ _ : String, ItemCell)) (leftRoom : Int) :
    itemsRoom Item (entry :: rest) leftRoom = (stackCells Item entry).bind fun cells => itemsRoom Item rest (leftRoom - cells) := by
  rw [itemsRoom, stackCells]
  cases Item.rows.get? entry.1 with
  | none => rfl
  | some row =>
    dsimp only [Option.bind_some]
    split
    · rfl
    · cases row.stackMax with
      | none => rfl
      | some stackMax =>
        dsimp only [Option.bind_some]
        split <;> rfl

theorem equipsRoom_cons (entry : Σ _ : String, EquipInfo) (rest : List (Σ _ : String, EquipInfo)) (leftRoom : Int) :
    equipsRoom Item (entry :: rest) leftRoom = (equipCells Item entry).bind fun cells => equipsRoom Item rest (leftRoom - cells) := by
  rw [equipsRoom, equipCells]
  cases entry.2.id with
  | none => rfl
  | some id =>
    dsimp only [Option.bind_some]
    split
    · rfl
    · split <;> rfl

theorem Alike.getLeftRoom (alike : Alike bagList other) : getLeftRoom Item bagList = getLeftRoom Item other := by
  unfold Bag.getLeftRoom countRoom
  rw [alike.max, room_perm (itemsRoom_cons Item) (entries_perm alike.items),
    funext fun leftRoom => room_perm (equipsRoom_cons Item) (entries_perm alike.equips) leftRoom]

theorem Alike.getItemNum (alike : Alike bagList other) (index : Id) : getItemNum index bagList = getItemNum index other := by
  unfold Bag.getItemNum
  rw [alike.items, alike.equips]

theorem Alike.tryAddItem (alike : Alike bagList other) (itemID : Id) (num : Int) :
    tryAddItem Item itemID num bagList = tryAddItem Item itemID num other := by
  unfold Bag.tryAddItem
  rw [alike.getLeftRoom]

theorem Alike.addItem (alike : Alike bagList other) (itemID : Id) (num : Int) :
    (addItem Item itemID num bagList).1 = (addItem Item itemID num other).1 ∧
      Alike (addItem Item itemID num bagList).2 (addItem Item itemID num other).2 := by
  unfold Bag.addItem
  rw [alike.tryAddItem, alike.items]
  split
  · split <;> refine ⟨rfl, alike.max, fun name => ?_, alike.equips⟩ <;> rw [Obj.get?_set, Obj.get?_set, alike.items]
  · exact ⟨rfl, alike⟩

end

end Tinygame.Bag
