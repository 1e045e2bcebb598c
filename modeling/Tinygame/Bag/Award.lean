import Tinygame.Base.Double
import Tinygame.Bag.BagList
import Mathlib.Data.Fin.VecNotation

/-!
# Awards and bag size

`getItemAward` of `module/item/item.js`, and from `equip_handle.js` the equips it creates and the unlocking of
bag cells.
-/

namespace Tinygame.Bag

/-- What `createEquip` reads beside the table: the time, the random number and the server's number. -/
structure Moment where
  now : Int
  random : Int
  seq : Int

/-- The pairs of a new equip by quality: green 2, blue 3, purple 4, orange 5; white 1 is like any other. -/
def qualityAttrs (itemQuality : Int) : Fin 4 → Int × Int :=
  if itemQuality = 2 then ![(6, 20), (0, 0), (0, 0), (0, 0)]
  else if itemQuality = 3 then ![(6, 25), (5, 40), (0, 0), (0, 0)]
  else if itemQuality = 4 then ![(6, 40), (5, 20), (5, 40), (0, 0)]
  else if itemQuality = 5 then ![(6, 40), (6, 30), (5, 30), (5, 50)]
  else fun _ => (0, 0)

/-- Time, random number and server in one number, each step of which is rounded to a double. -/
def equipIndex (moment : Moment) : Int :=
  Double.ofInt (Double.ofInt (Double.ofInt (moment.now * 10000) + moment.random * 100) + moment.seq)

/-- The index and the equip of the item `equipId`, whose row is given. -/
def createEquip (equipId : Id) (row : ItemRow) (moment : Moment) : Int × EquipInfo :=
  (equipIndex moment,
    { id := some equipId
      num := 1
      star := 0
      attrs := qualityAttrs row.itemQuality
      sa := some 0
      sn := some 0
      ss := some (.number 0)
      index := none
      others := ∅ })

/-- What was awarded so far; a list that was never written is missing. -/
structure Record where
  equipList : Option (Obj EquipInfo)
  itemList : Option (Obj ItemCell)

def Record.addEquip (record : Record) (index : Int) (info : EquipInfo) : Record :=
  { record with equipList := some ((record.equipList.getD ∅).set (toString index) { info with num := 1 }) }

def Record.addItem (record : Record) (itemID : Id) (itemNum : Int) : Record :=
  let itemList := record.itemList.getD ∅
  let before := ((itemList.get? itemID.name).map ItemCell.num).getD 0
  { record with itemList := some (itemList.set itemID.name ⟨before + itemNum⟩) }

section
variable (Item : ItemTable)

/-- The loop that creates equips; `moments k` is the moment of the `k`-th. -/
def awardEquips (itemID : Id) (row : ItemRow) :
    Nat → (Nat → Moment) → BagList → Record → Bool × BagList × Record
  | 0, _, bagList, record => (true, bagList, record)
  | left + 1, moments, bagList, record =>
    let (index, equipInfo) := createEquip itemID row (moments 0)
    match addEquip Item index equipInfo bagList with
    | (false, bagList) => (false, bagList, record)
    | (true, bagList) =>
      awardEquips itemID row left (fun k => moments (k + 1)) bagList (record.addEquip index equipInfo)

variable {Item} in
/-- What each equip that is put keeps, the loop keeps. -/
theorem awardEquips_induct (kept : BagList → Record → Prop) {itemID : Id} {row : ItemRow}
    (puts : ∀ moment bagList record, Fits Item bagList (createEquip itemID row moment).1 (createEquip itemID row moment).2 →
      kept bagList record →
        kept { bagList with
            equipList := bagList.equipList.set (toString (createEquip itemID row moment).1) (createEquip itemID row moment).2 }
          (record.addEquip (createEquip itemID row moment).1 (createEquip itemID row moment).2))
    (left : Nat) (moments : Nat → Moment) {bagList : BagList} {record : Record} (start : kept bagList record) :
    kept (awardEquips Item itemID row left moments bagList record).2.1
      (awardEquips Item itemID row left moments bagList record).2.2 := by
  induction left generalizing moments bagList record with
  | zero => exact start
  | succ left ih =>
    unfold awardEquips
    dsimp only
    rcases addEquip_cases (createEquip itemID row (moments 0)).1 (createEquip itemID row (moments 0)).2 bagList with
      refused | ⟨fits, put⟩
    · rw [refused]
      exact start
    · rw [put]
      exact ih _ (puts (moments 0) bagList record fits start)

def getItemAward (itemID : Id) (itemNum : Int) (moments : Nat → Moment) (bagList : BagList) (record : Record) :
    Bool × BagList × Record :=
  match Item.rows.get? itemID.name with
  | none => (false, bagList, record)
  | some row =>
    if row.itemTepy = mainTypeEquip then awardEquips Item itemID row itemNum.toNat moments bagList record
    else match addItem Item itemID itemNum bagList with
      | (false, bagList) => (false, bagList, record)
      | (true, bagList) => (true, bagList, record.addItem itemID itemNum)

end

/-! ### Unlocking -/

structure UnlockRow where
  itemId : Id
  itemNo : Int
  price : Int

def createRobotBagList : BagList := ⟨100, ∅, ∅⟩

/-- The new `max`, or nothing when the items cannot be taken. -/
def expandBagCapacity (itemId : Id) (itemNo : Int) (bagList : BagList) : Option Int × BagList :=
  let taken := if 0 < itemNo then delItem itemId itemNo bagList else (true, bagList)
  if !taken.1 then (none, taken.2) else (some (bagList.max * 2), { taken.2 with max := bagList.max * 2 })

/-- The diamonds to add, or nothing when the bag stays as it is. -/
def unlockBag (Unlock : Int → Option UnlockRow) (bagList : BagList) : Option Int × BagList :=
  match Unlock (bagList.max.tdiv 1000) with
  | none => (none, bagList)
  | some row =>
    let bagItemNum := getItemNum row.itemId bagList
    let (diamond, itemNo) :=
      if bagItemNum ≥ row.itemNo then (0, row.itemNo)
      else ((row.itemNo - bagItemNum) * row.price * -1, bagItemNum)
    match expandBagCapacity row.itemId itemNo bagList with
    | (none, bagList) | (some 0, bagList) => (none, bagList)
    | (some _, bagList) => (some diamond, bagList)

end Tinygame.Bag
