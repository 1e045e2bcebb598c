import Tinygame.Base.Keyed
import Tinygame.Client.Rewards

/-!
# The client's bag

`storage/storagebase.lua`, with the numbers of `item/itembase.lua`. The bag is a list of items. What has an index is searched
for by making tables of the whole list.
-/

namespace Tinygame.Client.Storage
open Bag (Id ItemTable ItemRow ceil mainTypeEquip)
open Keyed (lookup Once)

/-! ### An item -/

structure ItemObject where
  m_nIndex : String
  m_conifg : ItemRow
  m_nNum : Int

namespace ItemObject

/-- A quotient by nothing is an error, one by zero no number of cells. -/
def getGirdSpace (item : ItemObject) : Option Int :=
  item.m_conifg.stackMax.bind fun stackMax => if stackMax = 0 then none else some (ceil item.m_nNum stackMax)

def isEquip (item : ItemObject) : Bool := item.m_conifg.itemTepy = mainTypeEquip

def setNum (nNum : Int) (item : ItemObject) : ItemObject := { item with m_nNum := nNum }

def addNum (nNum : Int) (item : ItemObject) : ItemObject := item.setNum (item.m_nNum + nNum)

/-- What is left, where there is no return before. -/
def subNum (nNum : Int) (item : ItemObject) : Option Int :=
  if item.m_nNum < nNum ∧ nNum ≤ 0 then none else some (item.m_nNum - nNum)

end ItemObject

/-! ### The list -/

/-- What is under each index, and where it is in the list. -/
def getItemsHashTable (tbItems : List ItemObject) : Obj ItemObject × Obj Nat :=
  (tbItems.zipIdx 1).foldl (fun tables e => (tables.1.set e.1.m_nIndex e.1, tables.2.set e.1.m_nIndex e.2)) (∅, ∅)

def getItemByIndex (tbItems : List ItemObject) (nIndex : String) : Option ItemObject × Option Nat :=
  let tables := getItemsHashTable tbItems
  (tables.1.get? nIndex, tables.2.get? nIndex)

def getUsedSize (tbItems : List ItemObject) : Option Int :=
  tbItems.foldlM (fun iNum v => v.getGirdSpace.map (iNum + ·)) 0

/-- The item that is added to is changed where it is. -/
def insert (nIndex : String) (item : ItemObject) (tbItems : List ItemObject) : List ItemObject :=
  match getItemByIndex tbItems nIndex with
  | (some _, some i) => if !item.isEquip then tbItems.modify (i - 1) (ItemObject.addNum item.m_nNum) else tbItems
  | _ => tbItems ++ [item]

/-- Without an `id` the index is the id. The type of an item without a row is an error. -/
def addItem (Item : ItemTable) (nIndex : String) (id : Option Id) (num : Int) (tbItems : List ItemObject) :
    Option (List ItemObject) :=
  match Item.rows.get? ((id.map Id.name).getD nIndex) with
  | none => none
  | some row =>
    if row.itemTepy = mainTypeEquip then some (insert nIndex ⟨nIndex, row, 1⟩ tbItems)
    else some (insert nIndex ⟨nIndex, row, num⟩ tbItems)

def subItemByTableIndex (nIndex : Nat) (tbItems : List ItemObject) : List ItemObject :=
  if 0 < nIndex ∧ nIndex ≤ tbItems.length then tbItems.eraseIdx (nIndex - 1) else tbItems

/-- Without a number left the comparison is an error. -/
def subItem (nIndex : String) (nNum : Int) (tbItems : List ItemObject) : Option (List ItemObject) :=
  match getItemByIndex tbItems nIndex with
  | (some item, some nTableIndex) =>
    (item.subNum nNum).map fun nLeft =>
      let tbItems := tbItems.modify (nTableIndex - 1) (ItemObject.setNum nLeft)
      if nLeft ≤ 0 then subItemByTableIndex nTableIndex tbItems else tbItems
  | _ => some tbItems

/-- An entry of what the server has sent: the index, the `id` if it has one, the `num`. -/
structure TbItem where
  nIndex : String
  id : Option Id
  num : Int

/-- `InitItems` and `InitEquips`, of the entries in the order they are met. -/
def initItems (Item : ItemTable) (tbDatas : List TbItem) (tbItems : List ItemObject) : Option (List ItemObject) :=
  tbDatas.foldlM (fun tbItems e => addItem Item e.nIndex e.id e.num tbItems) tbItems

def init (Item : ItemTable) (tbItems tbEquips : List TbItem) : Option (List ItemObject) :=
  (initItems Item tbItems []).bind (initItems Item tbEquips)

/-! ### What is under an index -/

/-- The item with an index. -/
abbrev under (tbItems : List ItemObject) (nIndex : String) : Option ItemObject := lookup ItemObject.m_nIndex tbItems nIndex

abbrev Indexed (tbItems : List ItemObject) : Prop := Once ItemObject.m_nIndex tbItems

section
variable {tbItems : List ItemObject} {item obj : ItemObject} {nIndex : String} {nNum : Int}

theorem tables_eq (entries : List (ItemObject × Nat)) (once : Once (fun e : ItemObject × Nat => e.1.m_nIndex) entries)
    (tables : Obj ItemObject × Obj Nat) (k : String) :
    let made := entries.foldl (fun tables e => (tables.1.set e.1.m_nIndex e.1, tables.2.set e.1.m_nIndex e.2)) tables
    (made.1.get? k, made.2.get? k) =
      match lookup (fun e : ItemObject × Nat => e.1.m_nIndex) entries k with
      | some e => (some e.1, some e.2)
      | none => (tables.1.get? k, tables.2.get? k) := by
  induction entries generalizing tables with
  | nil => rfl
  | cons e rest ih =>
    obtain ⟨apart, once⟩ := List.nodup_cons.mp once
    have later := ih once (tables.1.set e.1.m_nIndex e.1, tables.2.set e.1.m_nIndex e.2)
    simp only [List.foldl_cons] at later ⊢
    rw [later]
    by_cases here : e.1.m_nIndex = k
    · subst here
      have none_ : lookup (fun e : ItemObject × Nat => e.1.m_nIndex) rest e.1.m_nIndex = none := by
        rw [Keyed.lookup_eq_none]
        intro other member same
        exact apart (List.mem_map.mpr ⟨other, member, same⟩)
      rw [none_]
      simp [lookup]
    · simp [lookup, here, Obj.get?_set, Ne.symm here]

theorem zipIdx_once (once : Indexed tbItems) (i : Nat) :
    Once (fun e : ItemObject × Nat => e.1.m_nIndex) (tbItems.zipIdx i) := by
  have keys : (tbItems.zipIdx i).map (fun e => e.1.m_nIndex) = tbItems.map ItemObject.m_nIndex := by
    calc (tbItems.zipIdx i).map (fun e => e.1.m_nIndex)
        = ((tbItems.zipIdx i).map Prod.fst).map ItemObject.m_nIndex := List.map_map.symm
      _ = tbItems.map ItemObject.m_nIndex := by rw [List.zipIdx_map_fst]
  unfold Once
  rw [keys]
  exact once

theorem getItemByIndex_some (once : Indexed tbItems) (found : under tbItems nIndex = some item) :
    ∃ i, getItemByIndex tbItems nIndex = (some item, some (i + 1)) ∧ tbItems[i]? = some item := by
  obtain ⟨member, rfl⟩ := (Keyed.lookup_eq_some once).mp found
  obtain ⟨i, there⟩ := List.mem_iff_getElem?.mp member
  refine ⟨i, ?_, there⟩
  have entry : (item, i + 1) ∈ tbItems.zipIdx 1 := by simp [List.mk_mem_zipIdx_iff_le_and_getElem?_sub, there]
  have read := tables_eq (tbItems.zipIdx 1) (zipIdx_once once 1) (∅, ∅) item.m_nIndex
  rw [(Keyed.lookup_eq_some (zipIdx_once once 1)).mpr ⟨entry, rfl⟩] at read
  exact read

theorem getItemByIndex_none (once : Indexed tbItems) (absent : under tbItems nIndex = none) :
    getItemByIndex tbItems nIndex = (none, none) := by
  have read := tables_eq (tbItems.zipIdx 1) (zipIdx_once once 1) (∅, ∅) nIndex
  have none_ : lookup (fun e : ItemObject × Nat => e.1.m_nIndex) (tbItems.zipIdx 1) nIndex = none := by
    rw [Keyed.lookup_eq_none]
    intro e member
    exact Keyed.lookup_eq_none.mp absent e.1 (List.fst_mem_of_mem_zipIdx member)
  rw [none_] at read
  exact read

theorem getItemByIndex_eq (once : Indexed tbItems) : (getItemByIndex tbItems nIndex).1 = under tbItems nIndex := by
  cases found : under tbItems nIndex with
  | none => rw [getItemByIndex_none once found]
  | some item =>
    obtain ⟨i, read, -⟩ := getItemByIndex_some once found
    rw [read]

/-! ### What is added and taken -/

/-- What `insert` leaves under its index. -/
def inserted (item : ItemObject) : Option ItemObject → ItemObject
  | none => item
  | some obj => if !item.isEquip then obj.addNum item.m_nNum else obj

theorem insert_spec (once : Indexed tbItems) (same : item.m_nIndex = nIndex) :
    Indexed (insert nIndex item tbItems) ∧ ∀ k, under (insert nIndex item tbItems) k =
      if k = nIndex then some (inserted item (under tbItems nIndex)) else under tbItems k := by
  subst same
  unfold insert
  cases found : under tbItems item.m_nIndex with
  | none =>
    rw [getItemByIndex_none once found]
    exact ⟨once.append found, Keyed.lookup_append found⟩
  | some obj =>
    obtain ⟨i, read, there⟩ := getItemByIndex_some once found
    obtain ⟨-, key⟩ := (Keyed.lookup_eq_some once).mp found
    rw [read]
    dsimp only
    unfold inserted
    split
    · have changed := Keyed.lookup_modify (f := ItemObject.addNum item.m_nNum) (fun _ => rfl) once there
      rwa [key] at changed
    · refine ⟨once, fun k => ?_⟩
      by_cases here : k = item.m_nIndex
      · rw [if_pos here, here, found]
      · rw [if_neg here]

/-- What `addItem` inserts. -/
def made (nIndex : String) (row : ItemRow) (num : Int) : ItemObject := ⟨nIndex, row, if row.itemTepy = mainTypeEquip then 1 else num⟩

theorem addItem_row {Item : ItemTable} {id : Option Id} {row : ItemRow} (found : Item.rows.get? ((id.map Id.name).getD nIndex) = some row)
    (num : Int) : addItem Item nIndex id num tbItems = some (insert nIndex (made nIndex row num) tbItems) := by
  unfold addItem made
  rw [found]
  dsimp only
  split <;> rfl

theorem addItem_new {Item : ItemTable} {id : Option Id} {row : ItemRow} (once : Indexed tbItems) (new : under tbItems nIndex = none)
    (found : Item.rows.get? ((id.map Id.name).getD nIndex) = some row) (num : Int) :
    addItem Item nIndex id num tbItems = some (tbItems ++ [made nIndex row num]) := by
  rw [addItem_row found, insert, getItemByIndex_none once new]

/-- What `subItem` leaves of an item. -/
def reduced (nNum : Int) (item : ItemObject) : Option ItemObject :=
  if item.m_nNum - nNum ≤ 0 then none else some (item.setNum (item.m_nNum - nNum))

theorem subItem_absent (once : Indexed tbItems) (absent : under tbItems nIndex = none) :
    subItem nIndex nNum tbItems = some tbItems := by
  unfold subItem
  rw [getItemByIndex_none once absent]

/-- More than there is, is taken as well. -/
theorem subItem_spec (once : Indexed tbItems) (found : under tbItems nIndex = some item) (guard : 0 < nNum ∨ nNum ≤ item.m_nNum) :
    ∃ tbItems', subItem nIndex nNum tbItems = some tbItems' ∧ Indexed tbItems' ∧
      ∀ k, under tbItems' k = if k = nIndex then reduced nNum item else under tbItems k := by
  obtain ⟨i, read, there⟩ := getItemByIndex_some once found
  obtain ⟨-, rfl⟩ := (Keyed.lookup_eq_some once).mp found
  have short : i < tbItems.length := (List.getElem?_eq_some_iff.mp there).1
  have taken : item.subNum nNum = some (item.m_nNum - nNum) := if_neg (by omega)
  unfold subItem reduced
  rw [read]
  dsimp only
  rw [taken, Option.map_some]
  refine ⟨_, rfl, ?_⟩
  split
  · unfold subItemByTableIndex
    rw [if_pos (by simp; omega), Nat.add_sub_cancel, List.eraseIdx_modify_of_eq]
    exact Keyed.lookup_eraseIdx once there
  · exact Keyed.lookup_modify (f := ItemObject.setNum (item.m_nNum - nNum)) (fun _ => rfl) once there

theorem getUsedSize_eq {space : ItemObject → Int} (each : ∀ item ∈ tbItems, item.getGirdSpace = some (space item)) :
    getUsedSize tbItems = some (tbItems.map space).sum := by
  have counted : ∀ (tbItems : List ItemObject) (iNum : Int), (∀ item ∈ tbItems, item.getGirdSpace = some (space item)) →
      tbItems.foldlM (fun iNum v => v.getGirdSpace.map (iNum + ·)) iNum = some (iNum + (tbItems.map space).sum) := by
    intro tbItems
    induction tbItems with
    | nil => simp
    | cons item rest ih =>
      intro iNum each
      obtain ⟨first, later⟩ := List.forall_mem_cons.mp each
      simp only [List.foldlM_cons, first, Option.map_some, Option.bind_eq_bind, Option.bind_some, List.map_cons, List.sum_cons]
      rw [ih _ later, Int.add_assoc]
  unfold getUsedSize
  rw [counted tbItems 0 each, Int.zero_add]

/-! ### The rewards -/

/-- What the rewards are given to: the type and the number under each index. -/
structure Seen (tbItems : List ItemObject) (bag : Obj Rewards.BagItem) : Prop where
  once : Indexed tbItems
  same : ∀ k, bag.get? k = (under tbItems k).map fun item => ⟨item.m_conifg.itemTepy, item.m_nNum⟩

/-- An addition to the list is one to what is under the indices. -/
theorem addItem_seen (Item : ItemTable) (nIndex : String) (id : Option Id) (num : Int) {bag : Obj Rewards.BagItem}
    (seen : Seen tbItems bag) : Option.Rel Seen (addItem Item nIndex id num tbItems) (Rewards.addItem Item nIndex id num bag) := by
  cases found : Item.rows.get? ((id.map Id.name).getD nIndex) with
  | none =>
    unfold addItem Rewards.addItem
    rw [found]
    exact .none
  | some row =>
    have added : Rewards.addItem Item nIndex id num bag =
        some (Rewards.insert nIndex ⟨row.itemTepy, (made nIndex row num).m_nNum⟩ bag) := by
      unfold Rewards.addItem made
      rw [found]
      dsimp only
      split <;> rfl
    rw [addItem_row found, added]
    obtain ⟨once, changed⟩ := insert_spec seen.once (show (made nIndex row num).m_nIndex = nIndex from rfl)
    refine .some ⟨once, fun k => ?_⟩
    rw [changed, Rewards.insert, Obj.get?_set, seen.same]
    by_cases here : k = nIndex
    · rw [if_pos here, if_pos here, Option.map_some]
      cases under tbItems nIndex with
      | none => rfl
      | some obj =>
        by_cases equip : row.itemTepy = mainTypeEquip
        · simp [inserted, Rewards.inserted, ItemObject.isEquip, made, equip]
        · simp [inserted, Rewards.inserted, ItemObject.isEquip, ItemObject.addNum, ItemObject.setNum, made, equip]
    · rw [if_neg here, if_neg here, seen.same]

end
end Tinygame.Client.Storage
