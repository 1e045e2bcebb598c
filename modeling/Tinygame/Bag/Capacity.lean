import Tinygame.Bag.Award
import Tinygame.Base.Run

/-!
# Bag capacity

The room `addItem` asks for is that of the added amount alone. Stacks of the same item merge, so what is taken
in the end is at most that, and the cells in use never exceed the size of the bag.
-/

namespace Tinygame.Bag

/-! ### Stacks -/

theorem ceil_le_iff {num stackMax c : Int} (positive : 0 < stackMax) :
    ceil num stackMax ≤ c ↔ num ≤ c * stackMax := by
  have floor := Int.le_ediv_iff_mul_le (a := -c) (b := -num) positive
  rw [Int.neg_mul] at floor
  unfold ceil
  omega

theorem ceil_mono {few many stackMax : Int} (positive : 0 < stackMax) (le : few ≤ many) :
    ceil few stackMax ≤ ceil many stackMax :=
  (ceil_le_iff positive).mpr (Int.le_trans le ((ceil_le_iff positive).mp (Int.le_refl _)))

theorem ceil_nonneg {num stackMax : Int} (positive : 0 < stackMax) (nonneg : 0 ≤ num) : 0 ≤ ceil num stackMax := by
  have zero : ceil 0 stackMax = 0 := by simp [ceil]
  have le := ceil_mono positive nonneg
  rwa [zero] at le

/-- Two stacks of an item need no more cells together than apart. -/
theorem ceil_add_le (a b : Int) {stackMax : Int} (positive : 0 < stackMax) :
    ceil (a + b) stackMax ≤ ceil a stackMax + ceil b stackMax := by
  have first := (ceil_le_iff positive).mp (Int.le_refl (ceil a stackMax))
  have second := (ceil_le_iff positive).mp (Int.le_refl (ceil b stackMax))
  rw [ceil_le_iff positive, Int.add_mul]
  omega

section
variable (Item : ItemTable)

/-- Every item of the table can be stacked. -/
def Stackable : Prop :=
  ∀ index row, Item.rows.get? index = some row → ∃ stackMax, row.stackMax = some stackMax ∧ 0 < stackMax

/-- The cells a stack takes. -/
def cells (index : String) (cell : ItemCell) : Int :=
  match (Item.rows.get? index).bind ItemRow.stackMax with
  | some stackMax => ceil cell.num stackMax
  | none => 0

/-- The cells in use: the stacks, and one for every equip. -/
def occupied (bagList : BagList) : Int :=
  bagList.itemList.sum (cells Item) + bagList.equipList.sum fun _ _ => 1

/-- A stored item is known, and there is some of it. -/
def GoodItem (index : String) (cell : ItemCell) : Prop := 0 < cell.num ∧ Item.rows.has index = true

def GoodEquip (info : EquipInfo) : Prop := ∃ id, info.id = some id ∧ Item.rows.has id.name = true

structure Sound (bagList : BagList) : Prop where
  items : ∀ index cell, bagList.itemList.get? index = some cell → GoodItem Item index cell
  equips : ∀ index info, bagList.equipList.get? index = some info → GoodEquip Item info
  sized : 0 < bagList.max
  fits : occupied Item bagList ≤ bagList.max

end

section
variable {Item : ItemTable} {bagList : BagList} {index : String} {cell : ItemCell}

theorem ItemTable.truthy (id : Id) (known : Item.rows.has id.name = true) : id.truthy = true := by
  have truthful := Item.truthful
  simp only [List.all_cons, List.all_nil, Bool.and_eq_true, Bool.not_eq_true'] at truthful
  obtain ⟨zero, empty, no, undefined, null, _⟩ := truthful
  cases id with
  | number n =>
    by_cases isZero : n = 0
    · subst isZero
      exact absurd known (Bool.eq_false_iff.mp zero)
    · simpa [Id.truthy] using isZero
  | text s =>
    by_cases isEmpty : s = ""
    · subst isEmpty
      exact absurd known (Bool.eq_false_iff.mp empty)
    · simpa [Id.truthy] using isEmpty
  | bool b =>
    cases b with
    | false => exact absurd known (Bool.eq_false_iff.mp no)
    | true => rfl
  | undefined => exact absurd known (Bool.eq_false_iff.mp undefined)
  | null => exact absurd known (Bool.eq_false_iff.mp null)
  | object name => rfl

theorem cells_of_row {row : ItemRow} {stackMax : Int} (found : Item.rows.get? index = some row)
    (stack : row.stackMax = some stackMax) : cells Item index cell = ceil cell.num stackMax := by
  simp [cells, found, stack]

theorem cells_nonneg (stackable : Stackable Item) (good : GoodItem Item index cell) :
    0 ≤ cells Item index cell := by
  obtain ⟨row, found⟩ := Obj.has_iff.mp good.2
  obtain ⟨stackMax, stack, positive⟩ := stackable index row found
  rw [cells_of_row found stack]
  exact ceil_nonneg positive (Int.le_of_lt good.1)

/-! ### Counting the room -/

theorem itemsRoom_eq (stackable : Stackable Item) (entries : List (Σ _ : String, ItemCell))
    (good : ∀ entry ∈ entries, GoodItem Item entry.1 entry.2) (leftRoom : Int) :
    itemsRoom Item entries leftRoom = some (leftRoom - (entries.map fun e => cells Item e.1 e.2).sum) := by
  induction entries generalizing leftRoom with
  | nil => simp [itemsRoom]
  | cons entry rest ih =>
    obtain ⟨index, cell⟩ := entry
    obtain ⟨positiveNum, known⟩ : GoodItem Item index cell := good _ (List.mem_cons_self ..)
    obtain ⟨row, found⟩ := Obj.has_iff.mp known
    obtain ⟨stackMax, stack, positive⟩ := stackable index row found
    have num : ¬ cell.num ≤ 0 := by omega
    have size : ¬ stackMax ≤ 0 := by omega
    have later := ih (fun e member => good e (List.mem_cons_of_mem _ member)) (leftRoom - ceil cell.num stackMax)
    have here : itemsRoom Item (⟨index, cell⟩ :: rest) leftRoom =
        itemsRoom Item rest (leftRoom - ceil cell.num stackMax) := by
      simp [itemsRoom, found, stack, num, size]
    rw [here, later, List.map_cons, List.sum_cons, cells_of_row found stack, Int.sub_sub]

theorem equipsRoom_eq (Item : ItemTable) (entries : List (Σ _ : String, EquipInfo))
    (good : ∀ entry ∈ entries, GoodEquip Item entry.2) (leftRoom : Int) :
    equipsRoom Item entries leftRoom = some (leftRoom - (entries.map fun _ => 1).sum) := by
  induction entries generalizing leftRoom with
  | nil => simp [equipsRoom]
  | cons entry rest ih =>
    obtain ⟨index, info⟩ := entry
    obtain ⟨id, given, known⟩ : GoodEquip Item info := good _ (List.mem_cons_self ..)
    have later := ih (fun e member => good e (List.mem_cons_of_mem _ member)) (leftRoom - 1)
    have here : equipsRoom Item (⟨index, info⟩ :: rest) leftRoom = equipsRoom Item rest (leftRoom - 1) := by
      simp [equipsRoom, given, Item.truthy id known, known]
    rw [here, later, List.map_cons, List.sum_cons, Int.sub_sub]

theorem countRoom_eq (stackable : Stackable Item) (sound : Sound Item bagList) :
    countRoom Item bagList = some (bagList.max - occupied Item bagList) := by
  have items := itemsRoom_eq stackable bagList.itemList.entries
    (fun entry member => sound.items _ _ (AList.mem_lookup_iff.mpr member)) bagList.max
  have equips := equipsRoom_eq Item bagList.equipList.entries
    (fun entry member => sound.equips entry.1 _ (AList.mem_lookup_iff.mpr member))
  have sized : bagList.max ≠ 0 := by have := sound.sized; omega
  rw [countRoom, if_neg sized, items, Option.bind_some, equips]
  unfold occupied Obj.sum
  rw [Int.sub_sub]

theorem getLeftRoom_eq (stackable : Stackable Item) (sound : Sound Item bagList) :
    getLeftRoom Item bagList = bagList.max - occupied Item bagList := by
  have fits := sound.fits
  have enough : ¬ bagList.max - occupied Item bagList < 0 := by omega
  simp only [getLeftRoom, countRoom_eq stackable sound, enough, if_false]

/-! ### What each call keeps -/

theorem occupied_setItem (cell : ItemCell) :
    occupied Item { bagList with itemList := bagList.itemList.set index cell } =
      occupied Item { bagList with itemList := bagList.itemList.delete index } + cells Item index cell := by
  simp only [occupied, Obj.sum_set]
  omega

theorem occupied_deleteItem (Item : ItemTable) (h : bagList.itemList.get? index = some cell) :
    occupied Item bagList =
      occupied Item { bagList with itemList := bagList.itemList.delete index } + cells Item index cell := by
  simp only [occupied, Obj.sum_delete bagList.itemList (cells Item) h]
  omega

theorem occupied_setEquip (info : EquipInfo) :
    occupied Item { bagList with equipList := bagList.equipList.set index info } =
      occupied Item { bagList with equipList := bagList.equipList.delete index } + 1 := by
  simp only [occupied, Obj.sum_set]
  omega

theorem occupied_deleteEquip (Item : ItemTable) {info : EquipInfo} (h : bagList.equipList.get? index = some info) :
    occupied Item bagList =
      occupied Item { bagList with equipList := bagList.equipList.delete index } + 1 := by
  simp only [occupied, Obj.sum_delete bagList.equipList (fun _ _ => 1) h]
  omega

theorem Sound.deleteItem (stackable : Stackable Item) (sound : Sound Item bagList)
    (h : bagList.itemList.get? index = some cell) :
    Sound Item { bagList with itemList := bagList.itemList.delete index } := by
  refine ⟨fun other c found => ?_, sound.equips, sound.sized, ?_⟩
  · dsimp only at found
    rw [Obj.get?_delete] at found
    split at found
    · exact absurd found (by simp)
    · exact sound.items other c found
  · have before := occupied_deleteItem Item h
    have nonneg := cells_nonneg stackable (sound.items index cell h)
    have fits := sound.fits
    dsimp only
    omega

theorem Sound.setItem (sound : Sound Item bagList) (good : GoodItem Item index cell)
    (fits : occupied Item { bagList with itemList := bagList.itemList.delete index } + cells Item index cell ≤
      bagList.max) :
    Sound Item { bagList with itemList := bagList.itemList.set index cell } := by
  refine ⟨fun other c found => ?_, sound.equips, sound.sized, ?_⟩
  · dsimp only at found
    rw [Obj.get?_set] at found
    split at found
    · rename_i same
      rw [same, ← Option.some.inj found]
      exact good
    · exact sound.items other c found
  · rw [occupied_setItem]
    exact fits

theorem Sound.deleteEquip (sound : Sound Item bagList) {info : EquipInfo}
    (h : bagList.equipList.get? index = some info) :
    Sound Item { bagList with equipList := bagList.equipList.delete index } := by
  refine ⟨sound.items, fun other i found => ?_, sound.sized, ?_⟩
  · dsimp only at found
    rw [Obj.get?_delete] at found
    split at found
    · exact absurd found (by simp)
    · exact sound.equips other i found
  · have before := occupied_deleteEquip Item h
    have fits := sound.fits
    dsimp only
    omega

theorem Sound.setEquip (sound : Sound Item bagList) {info : EquipInfo} (good : GoodEquip Item info)
    (fits : occupied Item { bagList with equipList := bagList.equipList.delete index } + 1 ≤ bagList.max) :
    Sound Item { bagList with equipList := bagList.equipList.set index info } := by
  refine ⟨sound.items, fun other i found => ?_, sound.sized, ?_⟩
  · dsimp only at found
    rw [Obj.get?_set] at found
    split at found
    · rw [← Option.some.inj found]
      exact good
    · exact sound.equips other i found
  · rw [occupied_setEquip]
    exact fits

theorem delItem_sound (stackable : Stackable Item) (sound : Sound Item bagList) (index : Id) (num : Int) :
    Sound Item (delItem index num bagList).2 := by
  unfold delItem
  split
  · exact sound
  split
  · rename_i nonneg cell found
    split
    · exact sound
    split
    · exact sound.deleteItem stackable found
    · rename_i left
      obtain ⟨-, known⟩ := sound.items _ _ found
      obtain ⟨row, rowFound⟩ := Obj.has_iff.mp known
      obtain ⟨stackMax, stack, positive⟩ := stackable _ _ rowFound
      refine sound.setItem ⟨by dsimp only; omega, known⟩ ?_
      have before := occupied_deleteItem Item found
      have fewer : ceil (cell.num - num) stackMax ≤ ceil cell.num stackMax := ceil_mono positive (by omega)
      have fits := sound.fits
      rw [cells_of_row rowFound stack] at before ⊢
      dsimp only
      omega
  · split
    · rename_i info found
      split
      · exact sound
      split
      · exact sound.deleteEquip found
      · have good : GoodEquip Item { info with num := info.num - num } := sound.equips _ info found
        refine sound.setEquip good ?_
        have before := occupied_deleteEquip Item found
        have fits := sound.fits
        omega
    · exact sound

/-- The room `tryAddItem` has found. -/
theorem tryAddItem_room (stackable : Stackable Item) (sound : Sound Item bagList) {itemID : Id} {num : Int}
    (accepted : tryAddItem Item itemID num bagList = true) :
    0 < num ∧ ∃ row stackMax, Item.rows.get? itemID.name = some row ∧ row.stackMax = some stackMax ∧
      0 < stackMax ∧ occupied Item bagList + ceil num stackMax ≤ bagList.max := by
  unfold tryAddItem at accepted
  split at accepted
  · cases accepted
  split at accepted
  · cases accepted
  rename_i positiveNum row found
  split at accepted
  · cases accepted
  rename_i stackMax stack
  split at accepted
  · cases accepted
  rename_i positive
  have enough : ¬ getLeftRoom Item bagList < ceil num stackMax := by simpa using accepted
  rw [getLeftRoom_eq stackable sound] at enough
  exact ⟨by omega, row, stackMax, found, stack, by omega, by omega⟩

theorem addItem_sound (stackable : Stackable Item) (sound : Sound Item bagList) (itemID : Id) (num : Int) :
    Sound Item (addItem Item itemID num bagList).2 := by
  unfold addItem
  split
  · rename_i accepted
    obtain ⟨positiveNum, row, stackMax, found, stack, positive, room⟩ :=
      tryAddItem_room stackable sound accepted
    have known : Item.rows.has itemID.name = true := Obj.has_iff.mpr ⟨row, found⟩
    split
    · rename_i cell present
      have before := occupied_deleteItem Item present
      have merged := ceil_add_le cell.num num positive
      have positiveOld := (sound.items _ _ present).1
      refine sound.setItem ⟨by dsimp only; omega, known⟩ ?_
      rw [cells_of_row found stack] at before ⊢
      dsimp only
      omega
    · rename_i absent
      have unchanged : occupied Item { bagList with itemList := bagList.itemList.delete itemID.name } =
          occupied Item bagList := by
        simp only [occupied, Obj.sum_delete_of_none bagList.itemList _ absent]
      refine sound.setItem ⟨positiveNum, known⟩ ?_
      rw [unchanged, cells_of_row found stack]
      exact room
  · exact sound

theorem Fits.sound (stackable : Stackable Item) (sound : Sound Item bagList) {index : Int} {info : EquipInfo}
    (fits : Fits Item bagList index info) :
    Sound Item { bagList with equipList := bagList.equipList.set (toString index) info } := by
  obtain ⟨id, row, given, found, -⟩ := fits.known
  have room := fits.room
  have unchanged : occupied Item { bagList with equipList := bagList.equipList.delete (toString index) } =
      occupied Item bagList := by
    simp only [occupied, Obj.sum_delete_of_none bagList.equipList _ fits.free]
  refine sound.setEquip ⟨id, given, Obj.has_iff.mpr ⟨row, found⟩⟩ ?_
  rw [getLeftRoom_eq stackable sound] at room
  rw [unchanged]
  omega

theorem addEquip_sound (stackable : Stackable Item) (sound : Sound Item bagList) (index : Int)
    (info : EquipInfo) : Sound Item (addEquip Item index info bagList).2 := by
  rcases addEquip_cases index info bagList with refused | ⟨fits, put⟩
  · rw [refused]
    exact sound
  · rw [put]
    exact fits.sound stackable sound

theorem awardEquips_sound (stackable : Stackable Item) (itemID : Id) (row : ItemRow) (left : Nat)
    (moments : Nat → Moment) (sound : Sound Item bagList) (record : Record) :
    Sound Item (awardEquips Item itemID row left moments bagList record).2.1 :=
  awardEquips_induct (fun bagList _ => Sound Item bagList) (fun _ _ _ fits sound => fits.sound stackable sound) left moments sound

theorem getItemAward_sound (stackable : Stackable Item) (sound : Sound Item bagList) (itemID : Id)
    (itemNum : Int) (moments : Nat → Moment) (record : Record) :
    Sound Item (getItemAward Item itemID itemNum moments bagList record).2.1 := by
  have added := addItem_sound stackable sound itemID itemNum
  unfold getItemAward
  split
  · exact sound
  split
  · exact awardEquips_sound stackable itemID _ _ moments sound record
  · split
    · rename_i refused
      rwa [refused] at added
    · rename_i accepted
      rwa [accepted] at added

theorem delItem_max (index : Id) (num : Int) (bagList : BagList) :
    (delItem index num bagList).2.max = bagList.max := by
  unfold delItem
  split
  · rfl
  split
  · split
    · rfl
    · split <;> rfl
  · split
    · split
      · rfl
      · split <;> rfl
    · rfl

theorem Sound.widen (sound : Sound Item bagList) {max : Int} (wider : bagList.max ≤ max) :
    Sound Item { bagList with max := max } :=
  ⟨sound.items, sound.equips, Int.lt_of_lt_of_le sound.sized wider, Int.le_trans sound.fits wider⟩

theorem expandBagCapacity_sound (stackable : Stackable Item) (sound : Sound Item bagList) (itemId : Id)
    (itemNo : Int) : Sound Item (expandBagCapacity itemId itemNo bagList).2 := by
  let taken := if 0 < itemNo then delItem itemId itemNo bagList else (true, bagList)
  have kept : Sound Item taken.2 ∧ taken.2.max = bagList.max := by
    unfold taken
    split
    · exact ⟨delItem_sound stackable sound itemId itemNo, delItem_max itemId itemNo bagList⟩
    · exact ⟨sound, rfl⟩
  have sized := sound.sized
  change Sound Item (if !taken.1 then (none, taken.2) else
    (some (bagList.max * 2), { taken.2 with max := bagList.max * 2 })).2
  split
  · exact kept.1
  · exact kept.1.widen (by omega)

theorem unlockBag_sound (stackable : Stackable Item) (sound : Sound Item bagList)
    (Unlock : Int → Option UnlockRow) : Sound Item (unlockBag Unlock bagList).2 := by
  unfold unlockBag
  split
  · exact sound
  rename_i row found
  dsimp only
  have expanded := expandBagCapacity_sound stackable sound row.itemId
    (if getItemNum row.itemId bagList ≥ row.itemNo then ((0 : Int), row.itemNo)
      else ((row.itemNo - getItemNum row.itemId bagList) * row.price * -1, getItemNum row.itemId bagList)).2
  split <;> rename_i result <;> rwa [result] at expanded

/-! ### Runs -/

/-- A call on the bag, with what its caller hands in. -/
inductive Call
  | addItem (itemID : Id) (num : Int)
  | addEquip (index : Int) (info : EquipInfo)
  | delItem (index : Id) (num : Int)
  | getItemAward (itemID : Id) (itemNum : Int) (moments : Nat → Moment) (record : Record)
  | unlockBag

/-- The bag after a call. -/
def call (Item : ItemTable) (Unlock : Int → Option UnlockRow) (bagList : BagList) : Call → BagList
  | .addItem itemID num => (addItem Item itemID num bagList).2
  | .addEquip index info => (addEquip Item index info bagList).2
  | .delItem index num => (delItem index num bagList).2
  | .getItemAward itemID itemNum moments record => (getItemAward Item itemID itemNum moments bagList record).2.1
  | .unlockBag => (unlockBag Unlock bagList).2

theorem call_sound (stackable : Stackable Item) (Unlock : Int → Option UnlockRow) (sound : Sound Item bagList)
    (next : Call) : Sound Item (call Item Unlock bagList next) := by
  cases next with
  | addItem itemID num => exact addItem_sound stackable sound itemID num
  | addEquip index info => exact addEquip_sound stackable sound index info
  | delItem index num => exact delItem_sound stackable sound index num
  | getItemAward itemID itemNum moments record =>
    exact getItemAward_sound stackable sound itemID itemNum moments record
  | unlockBag => exact unlockBag_sound stackable sound Unlock

theorem createRobotBagList_sound : Sound Item createRobotBagList :=
  { items := fun _ _ found => by cases found
    equips := fun _ _ found => by cases found
    sized := by decide
    fits := by simp [occupied, createRobotBagList] }

theorem run_sound (stackable : Stackable Item) (Unlock : Int → Option UnlockRow) (calls : List Call) :
    Sound Item (run (call Item Unlock) createRobotBagList calls) :=
  run_keeps (Sound Item) (fun _ next sound => call_sound stackable Unlock sound next)
    createRobotBagList_sound calls

/-- However the calls are mixed, the stored items and equips are known, the cells in use fit the bag and
`getLeftRoom` is the number of free ones. -/
theorem capacity_kept (Item : ItemTable) (Unlock : Int → Option UnlockRow) (stackable : Stackable Item)
    (calls : List Call) :
    let bagList := run (call Item Unlock) createRobotBagList calls
    (∀ index cell, bagList.itemList.get? index = some cell → 0 < cell.num ∧ Item.rows.has index = true) ∧
      (∀ index info, bagList.equipList.get? index = some info →
        ∃ id, info.id = some id ∧ Item.rows.has id.name = true) ∧
      occupied Item bagList ≤ bagList.max ∧
      countRoom Item bagList = some (bagList.max - occupied Item bagList) ∧
      getLeftRoom Item bagList = bagList.max - occupied Item bagList := by
  have sound := run_sound stackable Unlock calls
  exact ⟨sound.items, sound.equips, sound.fits, countRoom_eq stackable sound, getLeftRoom_eq stackable sound⟩

end

/-! ### A sword, a pack of steps and an unlocking -/

/-- Two rows of `config/pick/item`. -/
def swordAndPack : ItemTable where
  rows := ((∅ : Obj ItemRow).set "10101" ⟨1, some 1, 1, 1, some 1000⟩).set "12001" ⟨2, some 99, 4, 0, some 100⟩
  truthful := by decide

theorem swordAndPack_stackable : Stackable swordAndPack := by
  intro index row found
  have rows : swordAndPack.rows.get? index = if index = "12001" then some ⟨2, some 99, 4, 0, some 100⟩
      else if index = "10101" then some ⟨1, some 1, 1, 1, some 1000⟩ else none := by
    simp only [swordAndPack, Obj.get?_set, Obj.get?_empty]
  rw [rows] at found
  split at found
  · exact ⟨99, by rw [← Option.some.inj found], by decide⟩
  split at found
  · exact ⟨1, by rw [← Option.some.inj found], by decide⟩
  · cases found

/-- The bag of 100 cells is unlocked for ten packs. -/
def tenPacks (id : Int) : Option UnlockRow := if id = 0 then some ⟨.number 12001, 10, 10⟩ else none

def mixedCalls : List Call :=
  [.addItem (.number 12001) 150,
    .getItemAward (.text "10101") 3 (fun k => ⟨1436338999000 + k, 7, 1⟩) ⟨none, none⟩,
    .addItem (.text "12001") 60,
    .unlockBag,
    .delItem (.number 12001) 1]

theorem capacity_kept_mixed :
    let bagList := run (call swordAndPack tenPacks) createRobotBagList mixedCalls
    bagList.max = 200 ∧ occupied swordAndPack bagList = 6 ∧ getLeftRoom swordAndPack bagList = 194 := by
  have kept := capacity_kept swordAndPack tenPacks swordAndPack_stackable mixedCalls
  have unlocked : (run (call swordAndPack tenPacks) createRobotBagList mixedCalls).max = 200 := by
    decide +kernel
  have used : occupied swordAndPack (run (call swordAndPack tenPacks) createRobotBagList mixedCalls) = 6 := by
    decide +kernel
  refine ⟨unlocked, used, kept.2.2.2.2.trans ?_⟩
  rw [unlocked, used]
  rfl

end Tinygame.Bag
