import Tinygame.Base.Obj

/-!
# The bag

`module/bag/bag.js`. Items are kept in stacks under their id, equips one by one under an index of their own,
and both take cells of the bag. The item table is a parameter.
-/

namespace Tinygame.Bag

/-- A value given as an id. Of a value that is neither a number nor a string only the property it names
and whether it is true count. -/
inductive Id
  | number (n : Int)
  | text (s : String)
  | bool (b : Bool)
  | undefined
  | null
  | object (name : String)
  deriving DecidableEq

namespace Id

/-- The property an id names. -/
def name : Id → String
  | number n => toString n
  | text s => s
  | bool b => toString b
  | undefined => "undefined"
  | null => "null"
  | object name => name

def truthy : Id → Bool
  | number n => n ≠ 0
  | text s => s ≠ ""
  | bool b => b
  | undefined | null => false
  | object _ => true

/-- `===`. An object that was stored has been written out and read back, so it is never the one given. -/
def same : Id → Id → Bool
  | object _, _ => false
  | id, other => id = other

end Id

structure ItemRow where
  itemTepy : Int
  /-- `none` when it is not a number. -/
  stackMax : Option Int
  itemQuality : Int
  sell : Int
  /-- `none` when it is not a number. -/
  price : Option Int

/-- `config/pick/item`. Its ids are positive numbers, so none is the name of a value that is false. -/
structure ItemTable where
  rows : Obj ItemRow
  truthful : ["0", "", "false", "undefined", "null"].all (fun name => !rows.has name) = true

/-- The table without items. -/
def ItemTable.none : ItemTable := ⟨∅, rfl⟩

structure ItemCell where
  num : Int

structure EquipInfo where
  id : Option Id
  num : Int
  star : Int
  /-- The pairs (a1, n1), .. (a4, n4). -/
  attrs : Fin 4 → Int × Int
  sa : Option Int
  sn : Option Int
  ss : Option Id
  index : Option Id
  /-- Fields `a..` and `n..` that belong to no pair. -/
  others : Obj Int

structure BagList where
  max : Int
  itemList : Obj ItemCell
  equipList : Obj EquipInfo

/-- `Const.ITEM.MAIN_TYPE.EQUIP`. -/
def mainTypeEquip : Int := 1

/-- `Math.ceil(num / stackMax)`. -/
def ceil (num stackMax : Int) : Int := -(-num / stackMax)

section
variable (Item : ItemTable)

/-- The loop over `itemList`, with `none` for its error returns. -/
def itemsRoom : List (Σ _ : String, ItemCell) → Int → Option Int
  | [], leftRoom => some leftRoom
  | ⟨index, cell⟩ :: rest, leftRoom =>
    match Item.rows.get? index with
    | none => none
    | some row =>
      if cell.num ≤ 0 then none
      else match row.stackMax with
        | none => none
        | some stackMax => if stackMax ≤ 0 then none else itemsRoom rest (leftRoom - ceil cell.num stackMax)

/-- The loop over `equipList`. -/
def equipsRoom : List (Σ _ : String, EquipInfo) → Int → Option Int
  | [], leftRoom => some leftRoom
  | ⟨_, info⟩ :: rest, leftRoom =>
    match info.id with
    | none => none
    | some id =>
      if !id.truthy then none
      else if !Item.rows.has id.name then none
      else equipsRoom rest (leftRoom - 1)

/-- What `getLeftRoom` counts; `none` where it gives up and returns 0. -/
def countRoom (bagList : BagList) : Option Int :=
  if bagList.max = 0 then none
  else (itemsRoom Item bagList.itemList.entries bagList.max).bind (equipsRoom Item bagList.equipList.entries)

def getLeftRoom (bagList : BagList) : Int :=
  match countRoom Item bagList with
  | none => 0
  | some leftRoom => if leftRoom < 0 then 0 else leftRoom

def getItemNum (index : Id) (bagList : BagList) : Int :=
  match bagList.itemList.get? index.name with
  | some cell => if cell.num ≤ 0 then 0 else cell.num
  | none =>
    match bagList.equipList.get? index.name with
    | some info => if info.num ≤ 0 then 0 else info.num
    | none => 0

def delItem (index : Id) (num : Int) (bagList : BagList) : Bool × BagList :=
  if num < 0 then (false, bagList)
  else match bagList.itemList.get? index.name with
    | some cell =>
      if cell.num < num then (false, bagList)
      else if cell.num - num ≤ 0 then (true, { bagList with itemList := bagList.itemList.delete index.name })
      else (true, { bagList with itemList := bagList.itemList.set index.name ⟨cell.num - num⟩ })
    | none =>
      match bagList.equipList.get? index.name with
      | some info =>
        if info.num < num then (false, bagList)
        else if info.num - num ≤ 0 then (true, { bagList with equipList := bagList.equipList.delete index.name })
        else (true, { bagList with
          equipList := bagList.equipList.set index.name { info with num := info.num - num } })
      | none => (false, bagList)

def tryAddItem (itemID : Id) (num : Int) (bagList : BagList) : Bool :=
  if num ≤ 0 then false
  else match Item.rows.get? itemID.name with
    | none => false
    | some row =>
      match row.stackMax with
      | none => false
      | some stackMax =>
        if stackMax ≤ 0 then false else !decide (getLeftRoom Item bagList < ceil num stackMax)

def addItem (itemID : Id) (num : Int) (bagList : BagList) : Bool × BagList :=
  if tryAddItem Item itemID num bagList then
    match bagList.itemList.get? itemID.name with
    | some cell => (true, { bagList with itemList := bagList.itemList.set itemID.name ⟨cell.num + num⟩ })
    | none => (true, { bagList with itemList := bagList.itemList.set itemID.name ⟨num⟩ })
  else (false, bagList)

/-- An index is the number `createEquip` has made. -/
def addEquip (index : Int) (info : EquipInfo) (bagList : BagList) : Bool × BagList :=
  match info.id with
  | none => (false, bagList)
  | some id =>
    match Item.rows.get? id.name with
    | none => (false, bagList)
    | some row =>
      if row.itemTepy ≠ mainTypeEquip then (false, bagList)
      else if getLeftRoom Item bagList < 1 then (false, bagList)
      else if bagList.equipList.has (toString index) then (false, bagList)
      else (true, { bagList with equipList := bagList.equipList.set (toString index) info })

/-- What `addEquip` asks of an equip. -/
structure Fits (bagList : BagList) (index : Int) (info : EquipInfo) : Prop where
  known : ∃ id row, info.id = some id ∧ Item.rows.get? id.name = some row ∧ row.itemTepy = mainTypeEquip
  room : 1 ≤ getLeftRoom Item bagList
  free : bagList.equipList.get? (toString index) = none

variable {Item} in
/-- An equip is refused, or put under its index. -/
theorem addEquip_cases (index : Int) (info : EquipInfo) (bagList : BagList) :
    addEquip Item index info bagList = (false, bagList) ∨ Fits Item bagList index info ∧
      addEquip Item index info bagList = (true, { bagList with equipList := bagList.equipList.set (toString index) info }) := by
  unfold addEquip
  split
  · exact .inl rfl
  rename_i id given
  split
  · exact .inl rfl
  rename_i row found
  split
  · exact .inl rfl
  rename_i equip
  split
  · exact .inl rfl
  rename_i room
  split
  · exact .inl rfl
  rename_i free
  refine .inr ⟨⟨⟨id, row, given, found, not_not.mp equip⟩, by omega, ?_⟩, rfl⟩
  exact Obj.has_eq_false.mp (Bool.eq_false_iff.mpr free)

end
end Tinygame.Bag
