import Tinygame.Bag.ItemLaws
import Tinygame.Client.Storage

/-!
# The bag of the client and that of the server

Every addition and every removal is made in both. What the client shows is what the server has, unless more is removed than
there is: the server refuses, and the client, whose guard looks for an amount that is not positive as well, takes the item
out of the list.
-/

namespace Tinygame.Client.Storage
open Bag (Id ItemTable ItemRow ItemCell EquipInfo BagList Stackable occupied cells getLeftRoom ceil mainTypeEquip)
open Keyed (lookup Once)

structure Both where
  m_nMax : Int
  m_tbItems : List ItemObject
  bagList : BagList

inductive Op where
  | addItem (itemID : Id) (num : Nat)
  | addEquip (index : Int) (info : EquipInfo)
  | delItem (index : Id) (num : Nat)

section
variable (Item : ItemTable)

def serve (bagList : BagList) : Op → Bool × BagList
  | .addItem itemID num => Bag.addItem Item itemID num bagList
  | .addEquip index info => Bag.addEquip Item index info bagList
  | .delItem index num => Bag.delItem index num bagList

def follow (tbItems : List ItemObject) : Op → Option (List ItemObject)
  | .addItem itemID num => addItem Item itemID.name none num tbItems
  | .addEquip index info => addItem Item (toString index) info.id info.num tbItems
  | .delItem index num => subItem index.name num tbItems

/-- An error leaves the list of the client as it is. -/
def step (s : Both) (op : Op) : Both :=
  { s with m_tbItems := (follow Item s.m_tbItems op).getD s.m_tbItems, bagList := (serve Item s.bagList op).2 }

/-! ### What the server shows -/

/-- What is under an index, as an item of the client. -/
def entry (nIndex : String) : Option ItemCell → Option EquipInfo → Option ItemObject
  | some cell, _ => (Item.rows.get? nIndex).map fun row => ⟨nIndex, row, cell.num⟩
  | none, some info => (info.id.bind fun id => Item.rows.get? id.name).map fun row => ⟨nIndex, row, info.num⟩
  | none, none => none

def shown (bagList : BagList) (nIndex : String) : Option ItemObject :=
  entry Item nIndex (bagList.itemList.get? nIndex) (bagList.equipList.get? nIndex)

/-- A stack that holds something and is no equip, a single equip, or nothing. -/
inductive Held (nIndex : String) : Option ItemCell → Option EquipInfo → Prop
  | stack {cell : ItemCell} {row : ItemRow} (positive : 0 < cell.num) (found : Item.rows.get? nIndex = some row)
    (other : row.itemTepy ≠ mainTypeEquip) : Held nIndex (some cell) none
  | equip {info : EquipInfo} {id : Id} {row : ItemRow} (single : info.num = 1) (given : info.id = some id)
    (found : Item.rows.get? id.name = some row) (worn : row.itemTepy = mainTypeEquip) : Held nIndex none (some info)
  | nothing : Held nIndex none none

def Kept (bagList : BagList) : Prop :=
  ∀ nIndex, Held Item nIndex (bagList.itemList.get? nIndex) (bagList.equipList.get? nIndex)

/-- The client has what the server shows. -/
structure Mirrors (s : Both) : Prop where
  sized : s.m_nMax = s.bagList.max
  once : Indexed s.m_tbItems
  same : ∀ k, under s.m_tbItems k = shown Item s.bagList k
  kept : Kept Item s.bagList

/-- Each index at most once, with the amount of the server, and the room that is left. -/
structure Agrees (s : Both) : Prop where
  once : Indexed s.m_tbItems
  amounts : ∀ nIndex, (getItemByIndex s.m_tbItems nIndex).1.map ItemObject.m_nNum = s.bagList.pieces (.text nIndex)
  positive : ∀ item ∈ s.m_tbItems, 0 < item.m_nNum
  room : occupied Item s.bagList ≤ s.bagList.max →
    ∃ used, getUsedSize s.m_tbItems = some used ∧ s.m_nMax - used = getLeftRoom Item s.bagList

/-- What is added the server accepts: items as items, and equips one by one, under an index that is no item's. -/
def Applied (s : Both) : Op → Prop
  | .addItem itemID num => Bag.tryAddItem Item itemID num s.bagList = true ∧ s.bagList.equipList.get? itemID.name = none ∧
    ∀ row, Item.rows.get? itemID.name = some row → row.itemTepy ≠ mainTypeEquip
  | .addEquip index info => Bag.Fits Item s.bagList index info ∧ s.bagList.itemList.get? (toString index) = none ∧ info.num = 1
  | .delItem _ _ => True

end

/-- More is removed than there is, be it nothing. -/
def Exceeds (s : Both) : Op → Prop
  | .delItem index num => (s.bagList.pieces index).getD 0 < num
  | _ => False

/-- More is removed than there is, and there is some. -/
def Overdraws (s : Both) : Op → Prop
  | .delItem index num => ∃ n, s.bagList.pieces index = some n ∧ n < num
  | _ => False

section
variable {Item : ItemTable} {bagList after : BagList} {nIndex k : String} {item : ItemObject} {cell : Option ItemCell}
  {info : Option EquipInfo} {s : Both} {index : Id}

/-! ### One index -/

theorem Held.pieces (held : Held Item nIndex cell info) :
    (entry Item nIndex cell info).map ItemObject.m_nNum = (cell.map ItemCell.num).or (info.map EquipInfo.num) := by
  cases held with
  | stack positive found other => simp [entry, found]
  | equip single given found worn => simp [entry, given, found]
  | nothing => rfl

theorem Held.good (held : Held Item nIndex cell info) (there : entry Item nIndex cell info = some item) :
    item.m_nIndex = nIndex ∧ 0 < item.m_nNum := by
  cases held with
  | stack positive found other =>
    simp only [entry, found, Option.map_some, Option.some.injEq] at there
    subst there
    exact ⟨rfl, positive⟩
  | equip single given found worn =>
    simp only [entry, given, found, Option.bind_some, Option.map_some, Option.some.injEq] at there
    subst there
    exact ⟨rfl, by simp [single]⟩
  | nothing => cases there

theorem Kept.stack (kept : Kept Item bagList) {cell : ItemCell} (there : bagList.itemList.get? nIndex = some cell) :
    bagList.equipList.get? nIndex = none ∧ 0 < cell.num ∧
      ∃ row, Item.rows.get? nIndex = some row ∧ row.itemTepy ≠ mainTypeEquip := by
  have held := kept nIndex
  rw [there] at held
  generalize bagList.equipList.get? nIndex = info at held ⊢
  cases held with
  | stack positive found other => exact ⟨rfl, positive, _, found, other⟩

theorem Kept.equip (kept : Kept Item bagList) {info : EquipInfo} (there : bagList.equipList.get? nIndex = some info) :
    bagList.itemList.get? nIndex = none ∧ info.num = 1 ∧
      ∃ id row, info.id = some id ∧ Item.rows.get? id.name = some row ∧ row.itemTepy = mainTypeEquip := by
  have held := kept nIndex
  rw [there] at held
  generalize bagList.itemList.get? nIndex = cell at held ⊢
  cases held with
  | equip single given found worn => exact ⟨rfl, single, _, _, given, found, worn⟩

theorem Kept.shown_pieces (kept : Kept Item bagList) (index : Id) :
    (shown Item bagList index.name).map ItemObject.m_nNum = bagList.pieces index := by
  rw [shown, (kept index.name).pieces, BagList.pieces]
  cases bagList.itemList.get? index.name with
  | some cell => rfl
  | none => rfl

theorem shown_elsewhere (same : Bag.Elsewhere index bagList after) (other : k ≠ index.name) :
    shown Item after k = shown Item bagList k := by
  unfold shown
  rw [same.items k other, same.equips k other]

theorem Kept.elsewhere (kept : Kept Item bagList) (same : Bag.Elsewhere index bagList after)
    (here : Held Item index.name (after.itemList.get? index.name) (after.equipList.get? index.name)) : Kept Item after := by
  intro nIndex
  by_cases other : nIndex = index.name
  · rw [other]
    exact here
  · rw [same.items nIndex other, same.equips nIndex other]
    exact kept nIndex

/-- What changes under one index in both. -/
theorem Mirrors.next (mirrors : Mirrors Item s) {tbItems : List ItemObject} (once : Indexed tbItems)
    (changed : ∀ k, under tbItems k = if k = index.name then shown Item after index.name else under s.m_tbItems k)
    (same : Bag.Elsewhere index s.bagList after)
    (here : Held Item index.name (after.itemList.get? index.name) (after.equipList.get? index.name)) :
    Mirrors Item { s with m_tbItems := tbItems, bagList := after } where
  sized := mirrors.sized.trans same.max.symm
  once := once
  same k := by
    rw [changed]
    by_cases other : k = index.name
    · rw [if_pos other, other]
    · rw [if_neg other, mirrors.same, shown_elsewhere same other]
  kept := mirrors.kept.elsewhere same here

/-! ### Additions -/

theorem tryAddItem_known {num : Int} (fits : Bag.tryAddItem Item index num bagList = true) :
    ∃ row, Item.rows.get? index.name = some row := by
  unfold Bag.tryAddItem at fits
  split at fits
  · cases fits
  split at fits
  · cases fits
  · exact ⟨_, ‹_›⟩

theorem addItem_accepted {num : Int} (fits : Bag.tryAddItem Item index num bagList = true) :
    (Bag.addItem Item index num bagList).1 = true := by
  unfold Bag.addItem
  rw [if_pos fits]
  split <;> rfl

theorem addEquip_accepted {index : Int} {info : EquipInfo} (fits : Bag.Fits Item bagList index info) :
    Bag.addEquip Item index info bagList = (true, { bagList with equipList := bagList.equipList.set (toString index) info }) := by
  obtain ⟨id, row, given, found, worn⟩ := fits.known
  have free : bagList.equipList.has (toString index) = false := Obj.has_eq_false.mpr fits.free
  unfold Bag.addEquip
  rw [given]
  dsimp only
  rw [found]
  dsimp only
  rw [if_neg (not_not.mpr worn), if_neg (Int.not_lt.mpr fits.room), free]
  rfl

theorem addItem_mirrors (mirrors : Mirrors Item s) {itemID : Id} {num : Nat} (applied : Applied Item s (.addItem itemID num)) :
    Mirrors Item (step Item s (.addItem itemID num)) := by
  obtain ⟨fits, alone, items⟩ := applied
  obtain ⟨row, found⟩ := tryAddItem_known fits
  have added := addItem_accepted fits
  obtain ⟨had, positive, before, put⟩ := Bag.addItem_put added
  have other := items row found
  have elsewhere := Bag.addItem_elsewhere added
  have object : made itemID.name row num = ⟨itemID.name, row, num⟩ := by simp [made, other]
  obtain ⟨once, changed⟩ := insert_spec mirrors.once (show (made itemID.name row num).m_nIndex = itemID.name from rfl)
  have followed : follow Item s.m_tbItems (.addItem itemID num) =
      some (insert itemID.name (made itemID.name row num) s.m_tbItems) := addItem_row found num
  have stacked : (s.bagList.itemList.set itemID.name ⟨had + num⟩).get? itemID.name = some ⟨had + num⟩ := Obj.get?_set_self ..
  unfold step serve
  rw [followed, Option.getD_some]
  rw [put] at elsewhere
  dsimp only
  rw [put]
  apply mirrors.next once _ elsewhere
  · dsimp only
    rw [stacked, alone]
    refine .stack ?_ found other
    dsimp only
    omega
  · intro k
    rw [changed]
    congr 1
    rw [mirrors.same, object]
    unfold shown
    dsimp only
    rw [stacked, alone]
    rcases before with ⟨absent, rfl⟩ | ⟨there, -⟩
    · rw [absent]
      simp [entry, found, inserted]
    · rw [there]
      simp [entry, found, inserted, ItemObject.isEquip, ItemObject.addNum, ItemObject.setNum, other]

theorem addEquip_mirrors (mirrors : Mirrors Item s) {index : Int} {info : EquipInfo} (applied : Applied Item s (.addEquip index info)) :
    Mirrors Item (step Item s (.addEquip index info)) := by
  obtain ⟨fits, alone, single⟩ := applied
  have put := addEquip_accepted fits
  obtain ⟨id, row, given, found, worn⟩ := fits.known
  have absent : under s.m_tbItems (toString index) = none := by
    rw [mirrors.same, shown, alone, fits.free]
    rfl
  have object : made (toString index) row info.num = ⟨toString index, row, info.num⟩ := by simp [made, worn, single]
  have followed : follow Item s.m_tbItems (.addEquip index info) =
      some (s.m_tbItems ++ [made (toString index) row info.num]) := by
    apply addItem_new mirrors.once absent
    rw [given]
    exact found
  have elsewhere : Bag.Elsewhere (.text (toString index)) s.bagList
      { s.bagList with equipList := s.bagList.equipList.set (toString index) info } :=
    ⟨rfl, fun _ _ => rfl, fun _ other => Obj.get?_set_of_ne _ _ other⟩
  have worn_ : (s.bagList.equipList.set (toString index) info).get? (toString index) = some info := Obj.get?_set_self ..
  unfold step serve
  rw [followed, Option.getD_some]
  dsimp only
  rw [put]
  apply mirrors.next (mirrors.once.append absent) _ elsewhere
  · dsimp only [Id.name]
    rw [alone, worn_]
    exact .equip single given found worn
  · intro k
    rw [under, Keyed.lookup_append absent]
    congr 1
    rw [object, shown, Id.name]
    dsimp only
    rw [alone, worn_]
    simp [entry, given, found]

/-! ### Removals -/

theorem Held.remaining {num : Int} (held : Held Item nIndex cell info) (nonneg : 0 ≤ num)
    (there : entry Item nIndex cell info = some item) (enough : num ≤ item.m_nNum) :
    Held Item nIndex (Bag.remaining num cell info).2.1 (Bag.remaining num cell info).2.2 ∧
      entry Item nIndex (Bag.remaining num cell info).2.1 (Bag.remaining num cell info).2.2 = reduced num item := by
  cases held with
  | @stack cell row positive found other =>
    simp only [entry, found, Option.map_some, Option.some.injEq] at there
    subst there
    dsimp only at enough
    rw [Bag.remaining, if_neg (by omega)]
    dsimp only
    by_cases last : cell.num - num ≤ 0
    · rw [if_pos last]
      exact ⟨.nothing, (if_pos last).symm⟩
    · rw [if_neg last]
      refine ⟨.stack (by dsimp only; omega) found other, ?_⟩
      rw [reduced, if_neg last]
      simp [entry, found, ItemObject.setNum]
  | @equip info id row single given found worn =>
    simp only [entry, given, found, Option.bind_some, Option.map_some, Option.some.injEq] at there
    subst there
    dsimp only at enough
    rw [Bag.remaining, if_neg (by omega)]
    dsimp only
    by_cases last : info.num - num ≤ 0
    · rw [if_pos last]
      exact ⟨.nothing, (if_pos last).symm⟩
    · rw [if_neg last]
      refine ⟨.equip (by dsimp only; omega) given found worn, ?_⟩
      rw [reduced, if_neg last]
      simp [entry, given, found, ItemObject.setNum]
  | nothing => cases there

/-- What is not there, or not enough, the server does not take. -/
theorem delItem_unchanged {num : Nat} (short : s.bagList.pieces index = none ∨ Overdraws s (.delItem index num)) :
    (Bag.delItem index num s.bagList).2 = s.bagList := by
  apply Bag.delItem_refused (by omega)
  rw [Bag.delItem_fst (by omega), Bool.eq_false_iff, ne_eq, Bag.remaining_fst]
  rintro ⟨n, there, enough⟩
  rcases short with absent | ⟨m, present, less⟩
  · rw [absent] at there
    cases there
  · obtain rfl := Option.some.inj (present.symm.trans there)
    omega

theorem Mirrors.pieces (mirrors : Mirrors Item s) (index : Id) :
    (under s.m_tbItems index.name).map ItemObject.m_nNum = s.bagList.pieces index := by
  rw [mirrors.same, mirrors.kept.shown_pieces]

theorem delItem_absent (mirrors : Mirrors Item s) {num : Nat} (absent : under s.m_tbItems index.name = none) :
    step Item s (.delItem index num) = s := by
  have nothing := mirrors.pieces index
  rw [absent] at nothing
  unfold step follow serve
  dsimp only
  rw [subItem_absent mirrors.once absent, delItem_unchanged (.inl nothing.symm)]
  rfl

theorem delItem_mirrors (mirrors : Mirrors Item s) {num : Nat} (enough : ¬ Overdraws s (.delItem index num)) :
    Mirrors Item (step Item s (.delItem index num)) := by
  have pieces := mirrors.pieces index
  cases found : under s.m_tbItems index.name with
  | none =>
    rw [delItem_absent mirrors found]
    exact mirrors
  | some item =>
    rw [found] at pieces
    have covered : (num : Int) ≤ item.m_nNum := by
      by_contra short
      exact enough ⟨item.m_nNum, pieces.symm, by omega⟩
    obtain ⟨tbItems, followed, once, changed⟩ := subItem_spec mirrors.once found (.inr covered)
    have there : shown Item s.bagList index.name = some item := (mirrors.same index.name).symm.trans found
    obtain ⟨held, left⟩ := (mirrors.kept index.name).remaining (show (0 : Int) ≤ num by omega) there covered
    have elsewhere : Bag.Elsewhere index s.bagList (Bag.delItem index num s.bagList).2 := Bag.delItem_elsewhere (by omega)
    unfold step follow serve
    dsimp only
    rw [followed, Option.getD_some]
    rw [Bag.delItem_snd (by omega)] at elsewhere ⊢
    apply mirrors.next once _ elsewhere
    · dsimp only
      rw [Obj.get?_put, Obj.get?_put, if_pos rfl, if_pos rfl]
      exact held
    · intro k
      rw [changed]
      congr 1
      unfold shown
      dsimp only
      rw [Obj.get?_put, Obj.get?_put, if_pos rfl, if_pos rfl]
      exact left.symm

/-- The client takes out what the server keeps. -/
theorem step_overdraws (mirrors : Mirrors Item s) {op : Op} (overdraws : Overdraws s op) : step Item s op ≠ s := by
  cases op with
  | addItem itemID num => exact overdraws.elim
  | addEquip index info => exact overdraws.elim
  | delItem index num =>
    obtain ⟨n, present, short⟩ := overdraws
    have pieces := mirrors.pieces index
    rw [present] at pieces
    obtain ⟨item, found, rfl⟩ := Option.map_eq_some_iff.mp pieces
    have positive := ((mirrors.kept index.name).good ((mirrors.same index.name).symm.trans found)).2
    obtain ⟨tbItems, followed, -, changed⟩ := subItem_spec mirrors.once found (show (0 : Int) < num ∨ _ from .inl (by omega))
    intro same
    have list : tbItems = s.m_tbItems := by
      have kept := congrArg Both.m_tbItems same
      unfold step follow at kept
      dsimp only at kept
      rwa [followed, Option.getD_some] at kept
    have gone := changed index.name
    rw [list, found, if_pos rfl, reduced, if_pos (by omega)] at gone
    cases gone

/-! ### The room -/

/-- The cells of an item, where they are a number. -/
def space (item : ItemObject) : Int := item.getGirdSpace.getD 0

/-- The entries of the server, as the client would list them. -/
def listed (Item : ItemTable) (bagList : BagList) : List ItemObject :=
  bagList.itemList.entries.filterMap (fun e => shown Item bagList e.1) ++
    bagList.equipList.entries.filterMap fun e => shown Item bagList e.1

theorem map_filterMap_eq {α β γ : Type} {l : List α} {g : α → Option β} {h : β → γ} {f : α → γ}
    (each : ∀ a ∈ l, (g a).map h = some (f a)) : (l.filterMap g).map h = l.map f := by
  rw [List.map_filterMap, ← List.filterMap_eq_map]
  exact List.filterMap_congr each

theorem Held.girdSpace (stackable : Stackable Item) (held : Held Item nIndex cell info) :
    (entry Item nIndex cell info).bind ItemObject.getGirdSpace = (cell.map (cells Item nIndex)).or (info.map fun _ => 1) := by
  cases held with
  | stack positive found other =>
    obtain ⟨stackMax, stack, some_⟩ := stackable _ _ found
    simp [entry, found, ItemObject.getGirdSpace, stack, some_.ne', Bag.cells_of_row found stack]
  | equip single given found worn =>
    obtain ⟨stackMax, stack, some_⟩ := stackable _ _ found
    have one : ceil 1 stackMax = 1 := by
      have enough : ceil 1 stackMax ≤ 1 := (Bag.ceil_le_iff some_).mpr (by omega)
      have needed : ¬ ceil 1 stackMax ≤ 0 := (Bag.ceil_le_iff some_).not.mpr (by omega)
      omega
    simp [entry, given, found, single, ItemObject.getGirdSpace, stack, some_.ne', one]
  | nothing => rfl

theorem map_space {item : Option ItemObject} {n : Int} (counted : item.bind ItemObject.getGirdSpace = some n) :
    item.map space = some n := by
  obtain ⟨item, rfl, here⟩ := Option.bind_eq_some_iff.mp counted
  simp [space, here]

theorem Held.space (stackable : Stackable Item) (held : Held Item nIndex cell info)
    (there : entry Item nIndex cell info = some item) : item.getGirdSpace = some (Storage.space item) := by
  have counted := held.girdSpace stackable
  rw [there, Option.bind_some] at counted
  cases held with
  | stack positive found other => simp [Storage.space, counted]
  | equip single given found worn => simp [Storage.space, counted]
  | nothing => cases there

theorem listed_sum (stackable : Stackable Item) (kept : Kept Item bagList) :
    ((listed Item bagList).map space).sum = occupied Item bagList := by
  have items : (bagList.itemList.entries.filterMap fun e => shown Item bagList e.1).map space =
      bagList.itemList.entries.map fun e => cells Item e.1 e.2 := by
    apply map_filterMap_eq
    intro e member
    have there : bagList.itemList.get? e.1 = some e.2 := AList.mem_lookup_iff.mpr member
    have counted := (kept e.1).girdSpace stackable
    apply map_space
    rw [shown, counted, there]
    rfl
  have equips : (bagList.equipList.entries.filterMap fun e => shown Item bagList e.1).map space =
      bagList.equipList.entries.map fun _ => 1 := by
    apply map_filterMap_eq
    intro e member
    have there : bagList.equipList.get? e.1 = some e.2 := AList.mem_lookup_iff.mpr member
    have counted := (kept e.1).girdSpace stackable
    apply map_space
    rw [shown, counted, there, (kept.equip there).1]
    rfl
  unfold listed occupied Obj.sum
  rw [List.map_append, List.sum_append, items, equips]

theorem Held.entry_index (held : Held Item nIndex cell info) (there : (cell.isSome || info.isSome) = true) :
    (entry Item nIndex cell info).map ItemObject.m_nIndex = some nIndex := by
  cases held with
  | stack positive found other => simp [entry, found]
  | equip single given found worn => simp [entry, given, found]
  | nothing => cases there

/-- No index is met twice. -/
theorem Kept.apart (kept : Kept Item bagList) :
    (bagList.itemList.entries.map (fun e => e.1) ++ bagList.equipList.entries.map fun e => e.1).Nodup := by
  apply List.Nodup.append bagList.itemList.nodupKeys bagList.equipList.nodupKeys
  intro nIndex stacked worn
  obtain ⟨cell, stack⟩ := Obj.mem_keys_iff.mp stacked
  obtain ⟨info, equip⟩ := Obj.mem_keys_iff.mp worn
  rw [(kept.equip equip).1] at stack
  cases stack

theorem listed_once (kept : Kept Item bagList) : Indexed (listed Item bagList) := by
  have items : (bagList.itemList.entries.filterMap fun e => shown Item bagList e.1).map ItemObject.m_nIndex =
      bagList.itemList.entries.map fun e => e.1 := by
    apply map_filterMap_eq
    intro e member
    apply (kept e.1).entry_index
    have there : bagList.itemList.get? e.1 = some e.2 := AList.mem_lookup_iff.mpr member
    simp [there]
  have equips : (bagList.equipList.entries.filterMap fun e => shown Item bagList e.1).map ItemObject.m_nIndex =
      bagList.equipList.entries.map fun e => e.1 := by
    apply map_filterMap_eq
    intro e member
    apply (kept e.1).entry_index
    have there : bagList.equipList.get? e.1 = some e.2 := AList.mem_lookup_iff.mpr member
    simp [there]
  unfold Indexed Once listed
  rw [List.map_append, items, equips]
  exact kept.apart

theorem under_listed (kept : Kept Item bagList) (k : String) :
    under (listed Item bagList) k = shown Item bagList k := by
  ext item
  rw [under, Keyed.lookup_eq_some (listed_once kept)]
  unfold listed
  rw [List.mem_append, List.mem_filterMap, List.mem_filterMap]
  constructor
  · rintro ⟨⟨e, -, found⟩ | ⟨e, -, found⟩, rfl⟩
    · rwa [((kept e.1).good found).1]
    · rwa [((kept e.1).good found).1]
  · intro found
    refine ⟨?_, ((kept k).good found).1⟩
    unfold shown at found
    cases stack : bagList.itemList.get? k with
    | some cell => exact .inl ⟨⟨k, cell⟩, AList.mem_lookup_iff.mp stack, found⟩
    | none => cases equip : bagList.equipList.get? k with
      | some info => exact .inr ⟨⟨k, info⟩, AList.mem_lookup_iff.mp equip, found⟩
      | none =>
        rw [stack, equip] at found
        cases found

theorem Mirrors.perm (mirrors : Mirrors Item s) : s.m_tbItems.Perm (listed Item s.bagList) :=
  Keyed.perm_of_lookup mirrors.once (listed_once mirrors.kept) fun k =>
    (mirrors.same k).trans (under_listed mirrors.kept k).symm

theorem Mirrors.used (stackable : Stackable Item) (mirrors : Mirrors Item s) :
    getUsedSize s.m_tbItems = some (occupied Item s.bagList) := by
  have each : ∀ item ∈ s.m_tbItems, item.getGirdSpace = some (space item) := by
    intro item member
    have found := (Keyed.lookup_eq_some mirrors.once).mpr ⟨member, rfl⟩
    exact (mirrors.kept item.m_nIndex).space stackable ((mirrors.same item.m_nIndex).symm.trans found)
  rw [getUsedSize_eq each, (mirrors.perm.map space).sum_eq, listed_sum stackable mirrors.kept]

theorem Kept.leftRoom (stackable : Stackable Item) (kept : Kept Item bagList) (fits : occupied Item bagList ≤ bagList.max) :
    getLeftRoom Item bagList = bagList.max - occupied Item bagList := by
  have items : ∀ index cell, bagList.itemList.get? index = some cell → Bag.GoodItem Item index cell := by
    intro index cell there
    obtain ⟨-, positive, row, found, -⟩ := kept.stack there
    exact ⟨positive, Obj.has_iff.mpr ⟨row, found⟩⟩
  have equips : ∀ index info, bagList.equipList.get? index = some info → Bag.GoodEquip Item info := by
    intro index info there
    obtain ⟨-, -, id, row, given, found, -⟩ := kept.equip there
    exact ⟨id, given, Obj.has_iff.mpr ⟨row, found⟩⟩
  by_cases sized : 0 < bagList.max
  · exact Bag.getLeftRoom_eq stackable ⟨items, equips, sized, fits⟩
  · have stacked := Obj.sum_nonneg bagList.itemList (cells Item) fun index cell there =>
      Bag.cells_nonneg stackable (items index cell there)
    have single := Obj.sum_nonneg bagList.equipList (fun _ _ => 1) fun _ _ _ => by decide
    have empty : bagList.max = 0 ∧ occupied Item bagList = 0 := by
      unfold occupied at fits ⊢
      omega
    simp [getLeftRoom, Bag.countRoom, empty]

theorem Mirrors.agrees (stackable : Stackable Item) (mirrors : Mirrors Item s) : Agrees Item s where
  once := mirrors.once
  amounts nIndex := by
    rw [getItemByIndex_eq mirrors.once]
    exact mirrors.pieces (.text nIndex)
  positive item member := by
    have found := (Keyed.lookup_eq_some mirrors.once).mpr ⟨member, rfl⟩
    exact ((mirrors.kept item.m_nIndex).good ((mirrors.same item.m_nIndex).symm.trans found)).2
  room fits := by
    refine ⟨_, mirrors.used stackable, ?_⟩
    rw [mirrors.sized, mirrors.kept.leftRoom stackable fits]

/-! ### From what the server sends -/

def itemDatas (itemList : Obj ItemCell) : List TbItem := itemList.entries.map fun e => ⟨e.1, none, e.2.num⟩

def equipDatas (equipList : Obj EquipInfo) : List TbItem := equipList.entries.map fun e => ⟨e.1, e.2.id, e.2.num⟩

/-- What the client makes of an entry is what the server shows. -/
def Sends (Item : ItemTable) (bagList : BagList) (e : TbItem) : Prop :=
  ∃ row, Item.rows.get? ((e.id.map Id.name).getD e.nIndex) = some row ∧ shown Item bagList e.nIndex = some (made e.nIndex row e.num)

theorem Kept.sends (kept : Kept Item bagList) {e : TbItem} (sent : e ∈ itemDatas bagList.itemList ++ equipDatas bagList.equipList) :
    Sends Item bagList e := by
  rcases List.mem_append.mp sent with item | equip
  · obtain ⟨e, member, rfl⟩ := List.mem_map.mp item
    have there : bagList.itemList.get? e.1 = some e.2 := AList.mem_lookup_iff.mpr member
    obtain ⟨alone, positive, row, found, other⟩ := kept.stack there
    exact ⟨row, found, by simp [shown, there, entry, found, made, other]⟩
  · obtain ⟨e, member, rfl⟩ := List.mem_map.mp equip
    have there : bagList.equipList.get? e.1 = some e.2 := AList.mem_lookup_iff.mpr member
    obtain ⟨alone, single, id, row, given, found, worn⟩ := kept.equip there
    refine ⟨row, ?_, ?_⟩
    · dsimp only
      rw [given]
      exact found
    · simp [shown, alone, there, entry, given, found, made, single, worn]

theorem initItems_spec {tbDatas : List TbItem} (sends : ∀ e ∈ tbDatas, Sends Item bagList e)
    (apart : (tbDatas.map TbItem.nIndex).Nodup) {tbItems : List ItemObject} (once : Indexed tbItems)
    (fresh : ∀ e ∈ tbDatas, under tbItems e.nIndex = none) :
    ∃ tbItems', initItems Item tbDatas tbItems = some tbItems' ∧ Indexed tbItems' ∧
      ∀ k, under tbItems' k = if k ∈ tbDatas.map TbItem.nIndex then shown Item bagList k else under tbItems k := by
  induction tbDatas generalizing tbItems with
  | nil => exact ⟨tbItems, rfl, once, by simp⟩
  | cons e rest ih =>
    obtain ⟨⟨row, found, sent⟩, others⟩ := List.forall_mem_cons.mp sends
    obtain ⟨different, apart⟩ := List.nodup_cons.mp apart
    obtain ⟨new, later⟩ := List.forall_mem_cons.mp fresh
    have changed : ∀ k, under (tbItems ++ [made e.nIndex row e.num]) k =
        if k = e.nIndex then some (made e.nIndex row e.num) else under tbItems k := Keyed.lookup_append new
    have next : ∀ e' ∈ rest, under (tbItems ++ [made e.nIndex row e.num]) e'.nIndex = none := by
      intro e' member
      rw [changed, if_neg, later e' member]
      intro same
      exact different (List.mem_map.mpr ⟨e', member, same⟩)
    obtain ⟨tbItems', loaded, once', read⟩ := ih others apart (once.append new) next
    refine ⟨tbItems', ?_, once', fun k => ?_⟩
    · unfold initItems at loaded ⊢
      rw [List.foldlM_cons, addItem_new once new found]
      exact loaded
    · rw [read, List.map_cons, changed]
      by_cases here : k = e.nIndex
      · subst here
        rw [if_neg different, if_pos rfl, if_pos (List.mem_cons_self ..), sent]
      · simp [here]

/-- A client that starts with what the server sends, in whatever order, mirrors it. -/
theorem init_mirrors (kept : Kept Item bagList) {tbItems tbEquips : List TbItem} (items : tbItems.Perm (itemDatas bagList.itemList))
    (equips : tbEquips.Perm (equipDatas bagList.equipList)) :
    ∃ m_tbItems, init Item tbItems tbEquips = some m_tbItems ∧ Mirrors Item ⟨bagList.max, m_tbItems, bagList⟩ := by
  have all := items.append equips
  have names : (itemDatas bagList.itemList ++ equipDatas bagList.equipList).map TbItem.nIndex =
      bagList.itemList.entries.map (fun e => e.1) ++ bagList.equipList.entries.map fun e => e.1 := by
    rw [List.map_append, itemDatas, equipDatas, List.map_map, List.map_map]
    rfl
  have apart : ((tbItems ++ tbEquips).map TbItem.nIndex).Nodup := by
    rw [(all.map TbItem.nIndex).nodup_iff, names]
    exact kept.apart
  obtain ⟨m_tbItems, loaded, once, read⟩ := initItems_spec (fun e member => kept.sends (all.mem_iff.mp member)) apart
    (show Indexed [] from List.nodup_nil) fun _ _ => rfl
  refine ⟨m_tbItems, ?_, rfl, once, fun k => ?_, kept⟩
  · unfold init initItems at *
    rw [List.foldlM_append] at loaded
    exact loaded
  · rw [read]
    split
    · rfl
    · rename_i absent
      rw [(all.map TbItem.nIndex).mem_iff, names, List.mem_append] at absent
      have free : bagList.itemList.get? k = none := by
        by_contra there
        obtain ⟨cell, stack⟩ := Option.ne_none_iff_exists'.mp there
        exact absent (.inl (Obj.mem_keys_iff.mpr ⟨cell, stack⟩))
      have bare : bagList.equipList.get? k = none := by
        by_contra there
        obtain ⟨info, equip⟩ := Option.ne_none_iff_exists'.mp there
        exact absent (.inr (Obj.mem_keys_iff.mpr ⟨info, equip⟩))
      rw [shown, free, bare]
      rfl

/-! ### Runs -/

theorem not_overdraws {num : Nat} (enough : (s.bagList.pieces index).all (fun n => (num : Int) ≤ n) = true) :
    ¬ Overdraws s (.delItem index num) := by
  rintro ⟨n, present, short⟩
  simp only [present, Option.all_some, decide_eq_true_eq] at enough
  omega

theorem step_mirrors (mirrors : Mirrors Item s) {op : Op} (applied : Applied Item s op) (enough : ¬ Overdraws s op) :
    Mirrors Item (step Item s op) := by
  cases op with
  | addItem itemID num => exact addItem_mirrors mirrors applied
  | addEquip index info => exact addEquip_mirrors mirrors applied
  | delItem index num => exact delItem_mirrors mirrors enough

theorem step_exceeds (mirrors : Mirrors Item s) {op : Op} (enough : ¬ Overdraws s op) (exceeds : Exceeds s op) :
    step Item s op = s := by
  cases op with
  | addItem itemID num => exact exceeds.elim
  | addEquip index info => exact exceeds.elim
  | delItem index num =>
    apply delItem_absent mirrors
    have pieces := mirrors.pieces index
    cases present : s.bagList.pieces index with
    | some n =>
      have short : (s.bagList.pieces index).getD 0 < num := exceeds
      rw [present, Option.getD_some] at short
      exact absurd ⟨n, present, short⟩ enough
    | none =>
      rw [present] at pieces
      exact Option.map_eq_none_iff.mp pieces

/-- A step is as it should be exactly when it does not overdraw. -/
theorem step_agrees_iff (stackable : Stackable Item) (mirrors : Mirrors Item s) {op : Op} (applied : Applied Item s op) :
    Agrees Item (step Item s op) ∧ (Exceeds s op → step Item s op = s) ↔ ¬ Overdraws s op := by
  constructor
  · rintro ⟨-, unchanged⟩ overdraws
    have exceeds : Exceeds s op := by
      cases op with
      | addItem itemID num => exact overdraws
      | addEquip index info => exact overdraws
      | delItem index num =>
        obtain ⟨n, present, short⟩ := overdraws
        show (s.bagList.pieces index).getD 0 < num
        rwa [present]
    exact step_overdraws mirrors overdraws (unchanged exceeds)
  · intro enough
    exact ⟨(step_mirrors mirrors applied enough).agrees stackable, step_exceeds mirrors enough⟩

/-- The client goes along with the server as long as no removal overdraws. -/
theorem client_refines (stackable : Stackable Item) (mirrors : Mirrors Item s) (ops : List Op)
    (applied : Along (step Item) (Applied Item) s ops) :
    Agrees Item s ∧
      (Along (step Item) (fun s op => Agrees Item (step Item s op) ∧ (Exceeds s op → step Item s op = s)) s ops ↔
        Along (step Item) (fun s op => ¬ Overdraws s op) s ops) := by
  refine ⟨mirrors.agrees stackable, ?_⟩
  induction ops generalizing s with
  | nil => exact Iff.rfl
  | cons op rest ih =>
    obtain ⟨here, later⟩ := applied
    have one := step_agrees_iff stackable mirrors here
    constructor
    · rintro ⟨first, others⟩
      have enough := one.mp first
      exact ⟨enough, (ih (step_mirrors mirrors here enough) later).mp others⟩
    · rintro ⟨enough, others⟩
      exact ⟨one.mpr enough, (ih (step_mirrors mirrors here enough) later).mpr others⟩

end

/-! ### Packs and a sword -/

/-- A bag without anything in it, at both ends. -/
def emptyBags : Both := ⟨100, [], Bag.createRobotBagList⟩

theorem emptyBags_mirrors : Mirrors Bag.swordAndPack emptyBags := by
  have kept : Kept Bag.swordAndPack Bag.createRobotBagList := fun nIndex => .nothing
  obtain ⟨m_tbItems, loaded, mirrors⟩ := init_mirrors kept .nil .nil
  obtain rfl := Option.some.inj loaded
  exact mirrors

def sword : EquipInfo := ⟨some (.text "10101"), 1, 0, fun _ => (0, 0), none, none, none, none, ∅⟩

/-- Packs and a sword come, and some of them go; what is not there is asked for as well. -/
def someUsed : List Op :=
  [.addItem (.number 12001) 150, .addEquip 1436338999000 sword, .delItem (.text "12001") 60, .delItem (.number 7) 3,
    .delItem (.text "1436338999000") 1]

theorem client_refines_used :
    Along (step Bag.swordAndPack) (fun s op => Agrees Bag.swordAndPack (step Bag.swordAndPack s op) ∧
      (Exceeds s op → step Bag.swordAndPack s op = s)) emptyBags someUsed := by
  have applied : Along (step Bag.swordAndPack) (Applied Bag.swordAndPack) emptyBags someUsed := by
    refine ⟨⟨by decide +kernel, by decide +kernel, ?_⟩, ⟨⟨?_, by decide +kernel, by decide +kernel⟩, by decide +kernel, rfl⟩,
      trivial, trivial, trivial, trivial⟩
    · intro row found
      obtain rfl := Option.some.inj found
      decide
    · exact ⟨.text "10101", _, rfl, rfl, rfl⟩
  refine (client_refines Bag.swordAndPack_stackable emptyBags_mirrors someUsed applied).2.mpr ?_
  exact ⟨id, id, not_overdraws (by decide +kernel), not_overdraws (by decide +kernel), not_overdraws (by decide +kernel), trivial⟩

/-- Five of three packs are asked for: the server keeps the three, and the client nothing. -/
def tooMany : List Op := [.addItem (.number 12001) 3, .delItem (.number 12001) 5]

theorem overdrawn_lost : Along (step Bag.swordAndPack) (Applied Bag.swordAndPack) emptyBags tooMany ∧
    ¬ Along (step Bag.swordAndPack) (fun s op => Agrees Bag.swordAndPack (step Bag.swordAndPack s op) ∧
      (Exceeds s op → step Bag.swordAndPack s op = s)) emptyBags tooMany ∧
    (run (step Bag.swordAndPack) emptyBags tooMany).bagList.pieces (.number 12001) = some 3 ∧
    (run (step Bag.swordAndPack) emptyBags tooMany).m_tbItems.length = 0 := by
  refine ⟨⟨⟨by decide +kernel, by decide +kernel, ?_⟩, trivial, trivial⟩, ?_, by decide +kernel, by decide +kernel⟩
  · intro row found
    obtain rfl := Option.some.inj found
    decide
  · rintro ⟨-, ⟨-, unchanged⟩, -⟩
    have stocked : (step Bag.swordAndPack emptyBags (.addItem (.number 12001) 3)).bagList.pieces (.number 12001) = some 3 := by
      decide +kernel
    have kept := unchanged (show (Option.getD _ 0 : Int) < (5 : Nat) by rw [stocked]; decide)
    have lost := congrArg (fun s => s.m_tbItems.length) kept
    revert lost
    decide +kernel

end Tinygame.Client.Storage
