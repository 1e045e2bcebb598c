import Tinygame.Bag.Capacity

/-!
# Laws of items

What `delItem` and `addItem` do to the number of an id, and that the one undoes the other. Items and equips are kept in
maps of their own. Where an id is in both, `getItemNum` and `delItem` see the item alone.
-/

namespace Tinygame.Bag

/-- What there is of an id: its stack, or else its equip. -/
def BagList.pieces (bagList : BagList) (index : Id) : Option Int :=
  match bagList.itemList.get? index.name with
  | some cell => some cell.num
  | none => (bagList.equipList.get? index.name).map EquipInfo.num

/-- The id is not that of an item and of an equip. -/
def BagList.Single (index : Id) (bagList : BagList) : Prop :=
  bagList.itemList.get? index.name = none ∨ bagList.equipList.get? index.name = none

structure Elsewhere (index : Id) (before after : BagList) : Prop where
  max : after.max = before.max
  items : ∀ name, name ≠ index.name → after.itemList.get? name = before.itemList.get? name
  equips : ∀ name, name ≠ index.name → after.equipList.get? name = before.equipList.get? name

structure Reduced (index : Id) (num : Int) (before after : BagList) : Prop where
  less : getItemNum index after = getItemNum index before - num
  gone : before.pieces index = some num → after.pieces index = none

/-- What is said of `getItemNum` is said of the bags that are `counted`. -/
structure ItemLaws (Item : ItemTable) (counted : BagList → Prop) (bagList : BagList) (index : Id) (num : Int) : Prop where
  deletes : (delItem index num bagList).1 = true ↔ ∃ n, bagList.pieces index = some n ∧ num ≤ n
  took : (delItem index num bagList).1 = true → Elsewhere index bagList (delItem index num bagList).2 ∧
    (counted bagList → Reduced index num bagList (delItem index num bagList).2)
  refuses : (delItem index num bagList).1 = false → (delItem index num bagList).2 = bagList
  gave : (addItem Item index num bagList).1 = true → Elsewhere index bagList (addItem Item index num bagList).2 ∧
    (counted (addItem Item index num bagList).2 →
      getItemNum index (addItem Item index num bagList).2 = getItemNum index bagList + num)
  restores : (addItem Item index num bagList).1 = true → delItem index num (addItem Item index num bagList).2 = (true, bagList)
  commutes : ∀ other num', 0 ≤ num' → index.name ≠ other.name →
    (delItem other num' (delItem index num bagList).2).1 = (delItem other num' bagList).1 ∧
      (delItem index num (delItem other num' bagList).2).1 = (delItem index num bagList).1 ∧
      (delItem other num' (delItem index num bagList).2).2 = (delItem index num (delItem other num' bagList).2).2

/-! ### What a deletion leaves -/

/-- Whether it succeeds, and what it leaves under the id. -/
def remaining (num : Int) : Option ItemCell → Option EquipInfo → Bool × Option ItemCell × Option EquipInfo
  | some cell, info =>
    if cell.num < num then (false, some cell, info)
    else (true, if cell.num - num ≤ 0 then none else some ⟨cell.num - num⟩, info)
  | none, some info =>
    if info.num < num then (false, none, some info)
    else (true, none, if info.num - num ≤ 0 then none else some { info with num := info.num - num })
  | none, none => (false, none, none)

def BagList.remaining (bagList : BagList) (index : Id) (num : Int) : Bool × Option ItemCell × Option EquipInfo :=
  Bag.remaining num (bagList.itemList.get? index.name) (bagList.equipList.get? index.name)

section
variable {bagList other : BagList} {index : Id} {num : Int} {cell : Option ItemCell} {info : Option EquipInfo}

/-- Only what is under the id is read and written. -/
theorem delItem_eq (nonneg : 0 ≤ num) : delItem index num bagList = ((bagList.remaining index num).1,
    { bagList with
      itemList := bagList.itemList.put index.name (bagList.remaining index num).2.1
      equipList := bagList.equipList.put index.name (bagList.remaining index num).2.2 }) := by
  have items := Obj.put_get? bagList.itemList index.name
  have equips := Obj.put_get? bagList.equipList index.name
  unfold delItem BagList.remaining
  rw [if_neg (by omega)]
  cases stack : bagList.itemList.get? index.name with
  | some cell =>
    rw [stack, Obj.put_some] at items
    unfold Bag.remaining
    dsimp only
    by_cases short : cell.num < num
    · simp [short, items, equips, Obj.put_some]
    · by_cases last : cell.num - num ≤ 0
      · simp [short, last, equips, Obj.put_none]
      · simp [short, last, equips, Obj.put_some]
  | none =>
    rw [stack, Obj.put_none] at items
    cases equip : bagList.equipList.get? index.name with
    | some info =>
      rw [equip, Obj.put_some] at equips
      unfold Bag.remaining
      dsimp only
      by_cases short : info.num < num
      · simp [short, items, equips, Obj.put_none, Obj.put_some]
      · by_cases last : info.num - num ≤ 0
        · simp [short, last, items, Obj.put_none]
        · simp [short, last, items, Obj.put_none, Obj.put_some]
    | none =>
      rw [equip, Obj.put_none] at equips
      simp [Bag.remaining, items, equips, Obj.put_none]

theorem remaining_items (some_ : (remaining num cell info).2.1.isSome = true) : cell.isSome = true := by
  cases cell with
  | some cell => rfl
  | none => cases info with
    | none => exact some_
    | some info =>
      rw [remaining] at some_
      split at some_
      · exact some_
      · exact some_

theorem remaining_equips (some_ : (remaining num cell info).2.2.isSome = true) : info.isSome = true := by
  cases info with
  | some info => rfl
  | none => cases cell with
    | none => exact some_
    | some cell =>
      rw [remaining] at some_
      split at some_
      · exact some_
      · exact some_

theorem delItem_fst (nonneg : 0 ≤ num) : (delItem index num bagList).1 = (bagList.remaining index num).1 := by
  rw [delItem_eq nonneg]

theorem delItem_snd (nonneg : 0 ≤ num) : (delItem index num bagList).2 =
    { bagList with
      itemList := bagList.itemList.put index.name (bagList.remaining index num).2.1
      equipList := bagList.equipList.put index.name (bagList.remaining index num).2.2 } := by
  rw [delItem_eq nonneg]

theorem remaining_fst : (bagList.remaining index num).1 = true ↔ ∃ n, bagList.pieces index = some n ∧ num ≤ n := by
  unfold BagList.remaining BagList.pieces
  cases bagList.itemList.get? index.name with
  | some cell =>
    unfold remaining
    by_cases short : cell.num < num
    · simp [short]
    · simp [short, Int.not_lt.mp short]
  | none => cases bagList.equipList.get? index.name with
    | some info =>
      unfold remaining
      by_cases short : info.num < num
      · simp [short]
      · simp [short, Int.not_lt.mp short]
    | none => simp [remaining]

theorem delItem_elsewhere (nonneg : 0 ≤ num) : Elsewhere index bagList (delItem index num bagList).2 := by
  rw [delItem_snd nonneg]
  constructor
  · rfl
  · intro name other
    exact (Obj.get?_put ..).trans (if_neg other)
  · intro name other
    exact (Obj.get?_put ..).trans (if_neg other)

/-- What another deletion finds is as it was. -/
theorem remaining_elsewhere {after : BagList} {other : Id} {num' : Int} (elsewhere : Elsewhere index bagList after)
    (different : index.name ≠ other.name) : after.remaining other num' = bagList.remaining other num' := by
  unfold BagList.remaining
  rw [elsewhere.items _ different.symm, elsewhere.equips _ different.symm]

theorem delItem_comm {other : Id} {num' : Int} (nonneg : 0 ≤ num) (nonneg' : 0 ≤ num') (different : index.name ≠ other.name) :
    (delItem other num' (delItem index num bagList).2).2 = (delItem index num (delItem other num' bagList).2).2 := by
  have first : (delItem index num bagList).2.remaining other num' = bagList.remaining other num' :=
    remaining_elsewhere (delItem_elsewhere nonneg) different
  have second : (delItem other num' bagList).2.remaining index num = bagList.remaining index num :=
    remaining_elsewhere (delItem_elsewhere nonneg') different.symm
  rw [delItem_snd nonneg', first]
  rw [delItem_snd nonneg, delItem_snd nonneg, second, delItem_snd nonneg']
  congr 1
  · exact Obj.put_comm different remaining_items remaining_items
  · exact Obj.put_comm different remaining_equips remaining_equips

theorem delItem_refused (nonneg : 0 ≤ num) (refused : (delItem index num bagList).1 = false) :
    (delItem index num bagList).2 = bagList := by
  unfold delItem at refused ⊢
  rw [if_neg (by omega)] at refused ⊢
  split at refused
  · split at refused
    · rename_i short
      exact congrArg Prod.snd (if_pos short)
    · split at refused <;> cases refused
  · split at refused
    · split at refused
      · rename_i short
        exact congrArg Prod.snd (if_pos short)
      · split at refused <;> cases refused
    · rfl

theorem getItemNum_pieces : getItemNum index bagList = (bagList.pieces index).elim 0 fun n => if n ≤ 0 then 0 else n := by
  unfold getItemNum BagList.pieces
  cases bagList.itemList.get? index.name with
  | some cell => rfl
  | none => cases bagList.equipList.get? index.name with
    | some info => rfl
    | none => rfl

/-- What shows under the id afterwards is what is left, where no equip has been hidden by the item. -/
theorem delItem_pieces {n : Int} (nonneg : 0 ≤ num) (single : bagList.Single index) (found : bagList.pieces index = some n)
    (enough : num ≤ n) : (delItem index num bagList).2.pieces index = if n - num ≤ 0 then none else some (n - num) := by
  rw [delItem_snd nonneg]
  unfold BagList.pieces at found ⊢
  unfold BagList.remaining
  dsimp only
  rw [Obj.get?_put, Obj.get?_put, if_pos rfl, if_pos rfl]
  cases stack : bagList.itemList.get? index.name with
  | some cell =>
    have alone : bagList.equipList.get? index.name = none := single.resolve_left (by rw [stack]; exact nofun)
    rw [stack] at found
    obtain rfl := Option.some.inj found
    rw [alone, remaining, if_neg (by omega)]
    by_cases last : cell.num - num ≤ 0
    · simp [last]
    · simp [last]
  | none =>
    rw [stack] at found
    obtain ⟨info, equip, rfl⟩ := Option.map_eq_some_iff.mp found
    rw [equip, remaining, if_neg (by omega)]
    by_cases last : info.num - num ≤ 0
    · simp [last]
    · simp [last]

theorem delItem_reduced (nonneg : 0 ≤ num) (single : bagList.Single index) (deleted : (delItem index num bagList).1 = true) :
    Reduced index num bagList (delItem index num bagList).2 := by
  rw [delItem_fst nonneg] at deleted
  obtain ⟨n, found, enough⟩ := remaining_fst.mp deleted
  have left := delItem_pieces nonneg single found enough
  constructor
  · rw [getItemNum_pieces, getItemNum_pieces, left, found]
    by_cases last : n - num ≤ 0
    · rw [if_pos last]
      dsimp only [Option.elim]
      split <;> omega
    · rw [if_neg last]
      dsimp only [Option.elim]
      rw [if_neg last, if_neg (by omega)]
  · intro all
    obtain rfl := Option.some.inj (found.symm.trans all)
    rw [left, if_pos (by omega)]

/-! ### Additions -/

theorem itemsRoom_positive {Item : ItemTable} {entries : List (Σ _ : String, ItemCell)} {leftRoom room : Int}
    (counted : itemsRoom Item entries leftRoom = some room) : ∀ entry ∈ entries, 0 < entry.2.num := by
  induction entries generalizing leftRoom with
  | nil => simp
  | cons entry rest ih =>
    rw [itemsRoom] at counted
    split at counted
    · cases counted
    · split at counted
      · cases counted
      · rename_i positive
        split at counted
        · cases counted
        · split at counted
          · cases counted
          · intro other there
            rcases List.mem_cons.mp there with rfl | later
            · exact Int.not_le.mp positive
            · exact ih counted other later

/-- Nothing is added to a bag with an item that has no pieces. -/
theorem tryAddItem_positive {Item : ItemTable} (fits : tryAddItem Item index num bagList = true) :
    0 < num ∧ ∀ name cell, bagList.itemList.get? name = some cell → 0 < cell.num := by
  unfold tryAddItem at fits
  split at fits
  · cases fits
  rename_i positive
  split at fits
  · cases fits
  split at fits
  · cases fits
  rename_i stackMax _
  split at fits
  · cases fits
  rename_i stack
  refine ⟨Int.not_le.mp positive, fun name cell there => ?_⟩
  have some_ : 0 < ceil num stackMax := by
    by_contra none_
    have few := (ceil_le_iff (c := 0) (Int.not_le.mp stack)).mp (Int.not_lt.mp none_)
    omega
  have room : 0 < getLeftRoom Item bagList := by
    simp only [Bool.not_eq_true', decide_eq_false_iff_not] at fits
    omega
  unfold getLeftRoom countRoom at room
  split at room
  · exact absurd room (lt_irrefl _)
  rename_i left counted
  split at counted
  · cases counted
  obtain ⟨items, first, -⟩ := Option.bind_eq_some_iff.mp counted
  exact itemsRoom_positive first ⟨name, cell⟩ (AList.mem_lookup_iff.mp there)

/-- What an addition that succeeds does: the stack is put, with the amount. -/
theorem addItem_put {Item : ItemTable} (added : (addItem Item index num bagList).1 = true) :
    ∃ had : Int, 0 < num ∧ (bagList.itemList.get? index.name = none ∧ had = 0 ∨
        bagList.itemList.get? index.name = some ⟨had⟩ ∧ 0 < had) ∧
      (addItem Item index num bagList).2 = { bagList with itemList := bagList.itemList.set index.name ⟨had + num⟩ } := by
  unfold addItem at added ⊢
  split at added
  · rename_i fits
    obtain ⟨positive, all⟩ := tryAddItem_positive fits
    rw [if_pos fits]
    cases stack : bagList.itemList.get? index.name with
    | some cell => exact ⟨cell.num, positive, .inr ⟨rfl, all _ cell stack⟩, rfl⟩
    | none => exact ⟨0, positive, .inl ⟨rfl, rfl⟩, by simp⟩
  · cases added

theorem addItem_elsewhere {Item : ItemTable} (added : (addItem Item index num bagList).1 = true) :
    Elsewhere index bagList (addItem Item index num bagList).2 := by
  obtain ⟨had, -, -, same⟩ := addItem_put added
  rw [same]
  constructor
  · rfl
  · intro name other
    exact Obj.get?_set_of_ne _ _ other
  · intro name other
    rfl

theorem addItem_raised {Item : ItemTable} (added : (addItem Item index num bagList).1 = true)
    (single : (addItem Item index num bagList).2.Single index) :
    getItemNum index (addItem Item index num bagList).2 = getItemNum index bagList + num := by
  obtain ⟨had, positive, before, same⟩ := addItem_put added
  rw [same] at single ⊢
  have there : (bagList.itemList.set index.name ⟨had + num⟩).get? index.name = some ⟨had + num⟩ := Obj.get?_set_self ..
  have alone : bagList.equipList.get? index.name = none := single.resolve_left (by dsimp only; rw [there]; exact nofun)
  unfold getItemNum
  dsimp only
  rw [there, alone]
  rcases before with ⟨new, rfl⟩ | ⟨old, some_⟩
  · rw [new]
    dsimp only
    rw [if_neg (by omega)]
  · rw [old]
    dsimp only
    rw [if_neg (by omega), if_neg (by omega)]

/-- What has been added can be taken out, and then all is as it was. -/
theorem delItem_addItem {Item : ItemTable} (added : (addItem Item index num bagList).1 = true) :
    delItem index num (addItem Item index num bagList).2 = (true, bagList) := by
  obtain ⟨had, positive, before, same⟩ := addItem_put added
  have there : (bagList.itemList.set index.name ⟨had + num⟩).get? index.name = some ⟨had + num⟩ := Obj.get?_set_self ..
  rw [same]
  unfold delItem
  rw [if_neg (by omega)]
  dsimp only
  rw [there]
  dsimp only
  rcases before with ⟨new, rfl⟩ | ⟨old, some_⟩
  · rw [if_neg (by omega), if_pos (by omega), Obj.delete_set_of_new _ new]
  · have back := Obj.put_get? bagList.itemList index.name
    rw [old, Obj.put_some] at back
    rw [if_neg (by omega), if_neg (by omega), Obj.set_set, Int.add_sub_cancel, back]

/-- The laws of items. An id that an item and an equip share shows the number of the item while there is one. -/
theorem item_laws (Item : ItemTable) (bagList : BagList) (index : Id) (num : Int) (nonneg : 0 ≤ num) :
    ItemLaws Item (BagList.Single index) bagList index num where
  deletes := by rw [delItem_fst nonneg, remaining_fst]
  took deleted := ⟨delItem_elsewhere nonneg, fun single => delItem_reduced nonneg single deleted⟩
  refuses := delItem_refused nonneg
  gave added := ⟨addItem_elsewhere added, addItem_raised added⟩
  restores := delItem_addItem
  commutes other num' nonneg' different := by
    refine ⟨?_, ?_, delItem_comm nonneg nonneg' different⟩
    · rw [delItem_fst nonneg', delItem_fst nonneg', remaining_elsewhere (delItem_elsewhere nonneg) different]
    · rw [delItem_fst nonneg, delItem_fst nonneg, remaining_elsewhere (delItem_elsewhere nonneg') different.symm]

end

/-- Potions, and swords to wear. -/
def potions : ItemTable where
  rows := ((∅ : Obj ItemRow).set "7" ⟨2, some 10, 1, 1, some 5⟩).set "8" ⟨1, some 1, 1, 1, some 5⟩
  truthful := by decide +kernel

def carried : BagList := (addItem potions (.number 7) 1 createRobotBagList).2

/-- A potion, and a sword that has been given the index 7. -/
def shared : BagList := (addEquip potions 7 (createEquip (.number 8) ⟨1, some 1, 1, 1, some 5⟩ ⟨0, 0, 0⟩).2 carried).2

theorem item_laws_potion : ItemLaws potions (BagList.Single (.number 7)) carried (.number 7) 1 :=
  item_laws potions carried (.number 7) 1 (by decide)

/-- The potion is taken, and the number that is told stays. -/
theorem shared_shows : ¬ ItemLaws potions (fun _ => True) shared (.number 7) 1 := by
  intro laws
  have took := (laws.took (by decide +kernel)).2 trivial
  have before : getItemNum (.number 7) shared = 1 := by decide +kernel
  have after : getItemNum (.number 7) (delItem (.number 7) 1 shared).2 = 1 := by decide +kernel
  have less := took.less
  omega

end Tinygame.Bag
