import Tinygame.Bag.Award

/-!
# Requests on equips

The handlers of `equip_imp.js`, `item_imp.js` and `hero_imp.js` that wear equips, take them off or take them out
of the bag, with the functions of `equip_handle.js` they call. A handler that sets a return code, or throws,
stores nothing.
-/

namespace Tinygame.Bag

structure Position where
  heroId : Id
  pos : Option Int
  equipIdList : Obj Id

structure BaseInfo where
  gold : Int
  posList : Obj Position

structure Player where
  baseInfo : BaseInfo
  bagList : BagList

inductive Failure
  | retCode (code : Int)
  | typeError

/-- A check of a handler, with the failure it ends in. -/
def require (holds : Prop) [Decidable holds] (failure : Failure) : Except Failure Unit :=
  if holds then .ok () else .error failure

def present {α : Type} (value : Option α) (failure : Failure) : Except Failure α :=
  match value with
  | some a => .ok a
  | none => .error failure

theorem require_ok {holds : Prop} [Decidable holds] {failure : Failure} {u : Unit} :
    require holds failure = .ok u ↔ holds := by
  unfold require
  split <;> simp_all

theorem present_ok {α : Type} {value : Option α} {failure : Failure} {a : α} :
    present value failure = .ok a ↔ value = some a := by
  cases value <;> simp [present]

/-! ### Creating a player -/

def createRobotBaseInfo (gold : Int) : BaseInfo :=
  let bare : Obj Id := (List.range 6).foldl (fun list i => list.set (toString (i + 1)) (.number 0)) ∅
  ⟨gold, ((((∅ : Obj Position).set "1" ⟨.number 10013, some 4, bare.set "1" (.number 10103)⟩).set
    "2" ⟨.number 10003, some 5, bare⟩).set "3" ⟨.number 10004, some 6, bare⟩)⟩

/-- `Init` lists the items of a new player. -/
def createBagList (Item : ItemTable) (Init : List (Id × Int)) : BagList :=
  Init.foldl (fun bagList entry => (addItem Item entry.1 entry.2 bagList).2) createRobotBagList

def createPlayer (Item : ItemTable) (Init : List (Id × Int)) (gold : Int) : Player :=
  ⟨createRobotBaseInfo gold, createBagList Item Init⟩

/-! ### Wearing -/

def equipSetOn : Int := 1
def equipSetOff : Int := 0

def Position.wear (position : Position) (id : String) (equipId : Id) : Position :=
  { position with equipIdList := position.equipIdList.set id equipId }

/-- `equipIdList[id] === equipId`. -/
def Position.wears (position : Position) (id : String) (equipId : Id) : Bool :=
  match position.equipIdList.get? id with
  | some worn => worn.same equipId
  | none => false

def checkEquipOn (posList : Obj Position) (pos : Id) (id : String) (equipId : Id) : Bool :=
  match posList.get? pos.name with
  | some position => position.wears id equipId
  | none => false

def offEquipOtherPosition (posList : Obj Position) (pos : Id) (id : String) (equipId : Id) : Obj Position :=
  posList.update fun i position =>
    if !(Id.text i).same pos && position.wears id equipId then position.wear id (.number 0) else position

/-- One round of `changeEquipInPosition`. -/
def changeSlot (seq sign : Id) (bagList : BagList) (posList : Obj Position) (entry : String × Id) : Obj Position :=
  let (idName, equipId) := entry
  if equipId.truthy && bagList.equipList.has equipId.name && posList.has seq.name then
    if sign.same (.number equipSetOn) then
      (offEquipOtherPosition posList seq idName equipId).modify seq.name (·.wear idName equipId)
    else if sign.same (.number equipSetOff) && checkEquipOn posList seq idName equipId then
      posList.modify seq.name (·.wear idName (.number 0))
    else posList
  else posList

def changeEquipInPosition (posList : Obj Position) (seq sign : Id) (equipIds : List (String × Id))
    (bagList : BagList) : Obj Position :=
  equipIds.foldl (changeSlot seq sign bagList) posList

/-- The six places of an equip. -/
def slotNames : List String := ["1", "2", "3", "4", "5", "6"]

def offEquip (baseInfo : BaseInfo) (equipId : Id) : BaseInfo :=
  { baseInfo with
    posList := slotNames.foldl (fun posList i => offEquipOtherPosition posList (.number (-1)) i equipId)
      baseInfo.posList }

/-- The equips worn in each position, as the client gets them. -/
def transPosListToEquipList (posList : Obj Position) (equips : Obj EquipInfo) : Obj (Obj EquipInfo) :=
  posList.entries.foldl (fun equipList entry => equipList.set entry.1
    (entry.2.equipIdList.entries.foldl (fun worn slot => match equips.get? slot.2.name with
      | some equip => worn.set slot.2.name equip
      | none => worn) ∅)) ∅

def changeEquip (player : Player) (sign seq : Id) (ids : Fin 6 → Id) : Player × Obj (Obj EquipInfo) :=
  let equipIds := (List.finRange 6).map fun k => (toString (k.val + 1), ids k)
  let posList := changeEquipInPosition player.baseInfo.posList seq sign equipIds player.bagList
  ({ player with baseInfo := { player.baseInfo with posList := posList } },
    transPosListToEquipList posList player.bagList.equipList)

/-! ### Selling -/

/-- The variables of `sellItemGroup`; `isEquip` is never reset. -/
structure Selling where
  player : Player
  cost : Int
  isEquip : Bool

section
variable (Item : ItemTable)

/-- One round of `sellItemGroup`; `num` is the parsed amount, if it is a number. -/
def sellItem (selling : Selling) (index : String) (num : Option Int) : Except Failure Selling := do
  let bagList := selling.player.bagList
  let num ← present num (.retCode 1002)
  require (0 ≤ num) (.retCode 1002)
  let equip := bagList.equipList.get? index
  let itemID := match equip with
    | some info => (info.id.getD .undefined).name
    | none => index
  let isEquip := equip.isSome || selling.isEquip
  let row ← present (Item.rows.get? itemID) (.retCode 1000)
  require (row.sell = 1) (.retCode 1000)
  let price ← present row.price (.retCode 1001)
  require (0 ≤ price) (.retCode 1001)
  require (num ≤ getItemNum (.text index) bagList) (.retCode 1003)
  let deleted := delItem (.text index) num bagList
  require (deleted.1 = true) (.retCode 1004)
  let baseInfo := if isEquip then offEquip selling.player.baseInfo (.text index) else selling.player.baseInfo
  return ⟨⟨baseInfo, deleted.2⟩, selling.cost + price * num, isEquip⟩

def sellItemGroup (player : Player) (sellgroup : Obj (Option Int)) : Except Failure (Player × Int) := do
  let selling ← sellgroup.entries.foldlM (fun selling entry => sellItem Item selling entry.1 entry.2)
    (⟨player, 0, false⟩ : Selling)
  return (selling.player, selling.cost)

end

/-! ### Splitting and melting -/

/-- The new amount of gold, or nothing when it leaves the range of `Const`. -/
def addPlayerGold (gold : Int) (baseInfo : BaseInfo) : Option Int × BaseInfo :=
  let tmp := baseInfo.gold + gold
  if 0 ≤ tmp ∧ tmp ≤ 999999999 then (some tmp, { baseInfo with gold := tmp }) else (none, baseInfo)

/-- A handler takes an amount of zero for a failure. -/
def requireGold (gold : Int) (baseInfo : BaseInfo) : Except Failure BaseInfo :=
  match addPlayerGold gold baseInfo with
  | (none, _) | (some 0, _) => .error (.retCode 400)
  | (some _, baseInfo) => .ok baseInfo

/-- `config/equip/eqStar`: what a split equip gives back, as pairs of an item (or gold) and an amount. -/
structure EqStarRow where
  splitReturn : Option (List (Id × Int))

def getGoldFromSplitConfig (splitConfig : List (Id × Int)) : Int :=
  match splitConfig.find? (·.1.same (.text "gold")) with
  | some entry => entry.2
  | none => 0

section
variable (Item : ItemTable) (eqStar : Int → Option EqStarRow)

/-- The loop that adds the materials, up to the first that does not fit. -/
def addMaterials : List (Id × Int) → (Nat → Nat → Moment) → BagList → Record → BagList × Record
  | [], _, bagList, result => (bagList, result)
  | (itemId, num) :: rest, moments, bagList, result =>
    if itemId.same (.text "gold") then addMaterials rest (fun k => moments (k + 1)) bagList result
    else match getItemAward Item itemId num (moments 0) bagList result with
      | (false, bagList, result) => (bagList, result)
      | (true, bagList, result) => addMaterials rest (fun k => moments (k + 1)) bagList result

/-- What it returns is not looked at. -/
def dealSplitEquipInBagList (bagList : BagList) (splitConfig : List (Id × Int)) (equipId : Id)
    (moments : Nat → Nat → Moment) (result : Record) : BagList × Record :=
  match delItem equipId 1 bagList with
  | (false, bagList) => (bagList, result)
  | (true, bagList) => addMaterials Item splitConfig moments bagList result

/-- What a split equip gives: its materials and the gold. -/
def splitReturn (equip : EquipInfo) : Option (List (Id × Int) × Int) :=
  if equip.star = 0 then some ([], 100)
  else do
    let row ← eqStar equip.star
    let splitConfig ← row.splitReturn
    return (splitConfig, getGoldFromSplitConfig splitConfig)

structure Splitting where
  bagList : BagList
  result : Record
  gold : Int

def splitOne (splitting : Splitting) (equipId : Id) (moments : Nat → Nat → Moment) : Except Failure Splitting := do
  require (getItemNum equipId splitting.bagList ≠ 0) (.retCode 400)
  let equip ← present (splitting.bagList.equipList.get? equipId.name) .typeError
  let (splitConfig, gold) ← present (splitReturn eqStar equip) (.retCode 400)
  let dealt := dealSplitEquipInBagList Item splitting.bagList splitConfig equipId moments splitting.result
  return ⟨dealt.1, dealt.2, splitting.gold + gold⟩

def splitEquip (player : Player) (equipIdList : List Id) (moments : Nat → Nat → Nat → Moment) :
    Except Failure (Player × Record × Int) := do
  let splitting ← equipIdList.zipIdx.foldlM
    (fun splitting entry => splitOne Item eqStar splitting entry.1 (moments entry.2))
    (⟨player.bagList, ⟨none, some ∅⟩, 0⟩ : Splitting)
  let baseInfo ← requireGold splitting.gold player.baseInfo
  return (⟨baseInfo, splitting.bagList⟩, splitting.result, splitting.gold)

end

namespace EquipInfo

/-- The pair an attribute number names. -/
def pair? (attr : Id) : Option (Fin 4) := (List.finRange 4).find? fun j => attr.name = toString (j.val + 1)

/-- `equip['a' + attr]`. -/
def getA (equip : EquipInfo) (attr : Id) : Option Int :=
  match pair? attr with
  | some j => some (equip.attrs j).1
  | none => equip.others.get? ("a" ++ attr.name)

/-- `equip['n' + attr]`, which can be the field num. -/
def getN (equip : EquipInfo) (attr : Id) : Option Int :=
  match pair? attr with
  | some j => some (equip.attrs j).2
  | none => if attr.name = "um" then some equip.num else equip.others.get? ("n" ++ attr.name)

def setPair (equip : EquipInfo) (attr : Id) (pair : Int × Int) : EquipInfo :=
  match pair? attr with
  | some j => { equip with attrs := Function.update equip.attrs j pair }
  | none =>
    let equip := { equip with others := equip.others.set ("a" ++ attr.name) pair.1 }
    if attr.name = "um" then { equip with num := pair.2 }
    else { equip with others := equip.others.set ("n" ++ attr.name) pair.2 }

end EquipInfo

section
variable (Item : ItemTable) (eqStar : Int → Option EqStarRow)
-- `outside attr` is `attr < EQUIP_ATTR_MIN || attr > EQUIP_ATTR_MAX` as JavaScript compares
variable (outside : Id → Bool)

/-- The left equip with a pair of the right one; `draw` picks among the pairs there are. -/
def dealAttrInEquip (lequip requip : EquipInfo) (attr : Id) (draw : Nat) : Option EquipInfo :=
  let vTmp := (List.finRange 4).filter fun j => (requip.attrs j).1 ≠ -1
  match vTmp[draw % vTmp.length]? with
  | none => some lequip
  | some i =>
    if outside attr then none
    else some ({ lequip with
      sa := lequip.getA attr
      sn := lequip.getN attr
      ss := some attr }.setPair attr (requip.attrs i))

/-- As `splitReturn`, but a star that is not in the table is an error. -/
def meltReturn (equip : EquipInfo) : Option (List (Id × Int) × Int) :=
  if equip.star = 0 then some ([], 100)
  else (eqStar equip.star).map fun row =>
    (row.splitReturn.getD [], getGoldFromSplitConfig (row.splitReturn.getD []))

def meltingEquip (player : Player) (lequipId requipId attr : Id) (draw : Nat) (moments : Nat → Nat → Moment) :
    Except Failure (Player × Record × EquipInfo × Int) := do
  let bagList := player.bagList
  require (getItemNum lequipId bagList ≠ 0) (.retCode 400)
  require (getItemNum requipId bagList ≠ 0) (.retCode 400)
  let requip ← present (bagList.equipList.get? requipId.name) .typeError
  let (splitConfig, gold) ← present (meltReturn eqStar requip) .typeError
  let baseInfo ← requireGold gold player.baseInfo
  -- an item has no attributes to write: an error, with or without a return code
  let lequip ← present (bagList.equipList.get? lequipId.name) .typeError
  let equip ← present (dealAttrInEquip outside lequip requip attr draw) (.retCode 400)
  let equip := { equip with index := some lequipId }
  let bagList := { bagList with equipList := bagList.equipList.set lequipId.name equip }
  let dealt := dealSplitEquipInBagList Item bagList splitConfig requipId moments ⟨none, some ∅⟩
  return (⟨baseInfo, dealt.1⟩, dealt.2, equip, gold)

end

/-! ### Making equips -/

/-- `config/equip/make`: the materials of a scroll and the equips it can give. -/
structure MakeRow where
  data1 : Option (List (Id × Int))
  eqScroll : Option (List Id)

section
variable (Item : ItemTable) (Make : String → Option MakeRow)

/-- The loop over `data1`. -/
def takeMaterials : List (Id × Int) → BagList → Option BagList
  | [], bagList => some bagList
  | (itemId, itemNum) :: rest, bagList =>
    match delItem itemId itemNum bagList with
    | (false, _) => none
    | (true, bagList) => takeMaterials rest bagList

/-- Takes the materials and the scroll, and draws the equip to make. -/
def checkMakeConfig (bagList : BagList) (scrollId : Id) (draw : Nat) : Option (Id × BagList) :=
  match Make scrollId.name with
  | some ⟨some data1, some eqScroll⟩ =>
    match takeMaterials data1 bagList with
    | none => none
    | some bagList =>
      match delItem scrollId 1 bagList with
      | (false, _) => none
      | (true, bagList) => (eqScroll[draw % eqScroll.length]?).map (·, bagList)
  | _ => none

/-- One round of `makeEquip`. -/
def makeOne (made : BagList × Obj EquipInfo) (scrollId : Id) (draw : Nat) (moment : Moment) :
    Except Failure (BagList × Obj EquipInfo) := do
  require (getLeftRoom Item made.1 ≠ 0) (.retCode 1502)
  let (itemId, bagList) ← present (checkMakeConfig Make made.1 scrollId draw) (.retCode 1502)
  require (itemId.truthy = true) (.retCode 1502)
  let row ← present (Item.rows.get? itemId.name) .typeError
  let equipData := createEquip itemId row moment
  let added := addEquip Item equipData.1 equipData.2 bagList
  require (added.1 = true) (.retCode 1502)
  return (added.2, made.2.set (toString equipData.1) equipData.2)

def makeEquip (player : Player) (scrollList : List Id) (draws : Nat → Nat) (moments : Nat → Moment) :
    Except Failure (Player × Obj EquipInfo) := do
  let made ← scrollList.zipIdx.foldlM
    (fun made entry => makeOne Item Make made entry.1 (draws entry.2) (moments entry.2)) (player.bagList, ∅)
  return ({ player with bagList := made.1 }, made.2)

end

/-! ### Heroes on positions -/

/-- `parseInt(id, 10)`, or nothing for NaN. -/
def Id.parseInt (id : Id) : Option Int :=
  let chars := id.name.toList.dropWhile Char.isWhitespace
  let (sign, chars) := match chars with
    | '-' :: rest => ((-1 : Int), rest)
    | '+' :: rest => (1, rest)
    | _ => (1, chars)
  let digits := chars.takeWhile Char.isDigit
  if digits = [] then none
  else some (sign * digits.foldl (fun (n : Int) c => 10 * n + (c.toNat - '0'.toNat : Nat)) 0)

def lineupMinPos : Int := 1
def lineupMaxPos : Int := 3

/-- The property a number or NaN names. -/
def numberName (n : Option Int) : String :=
  match n with
  | some n => toString n
  | none => "NaN"

/-- NaN is on neither side of the bounds. -/
def outsideLineup (posDst : Option Int) : Bool :=
  match posDst with
  | some n => n < lineupMinPos || n > lineupMaxPos
  | none => false

/-- The position found at `i` and the one at `key` change places. -/
def swapPositions (posList : Obj Position) (key i : String) (posDst : Option Int) (position tmp : Position) :
    Obj Position :=
  (((posList.set key position).set i tmp).modify key fun p => { p with pos := posDst.map (· + lineupMaxPos) }).modify i
    fun p => { p with pos := (Id.text i).parseInt.map (· + lineupMaxPos) }

/-- The player and `isOk`. -/
def makeHeroLineup (player : Player) (posDst heroId : Id) (heroInfo : Bool) : Except Failure (Player × Bool) := do
  let posDst := posDst.parseInt.map (· - lineupMaxPos)
  if outsideLineup posDst then return (player, false)
  let posList := player.baseInfo.posList
  let key := numberName posDst
  match posList.entries.find? fun entry => entry.2.heroId.same heroId with
  | some ⟨i, position⟩ =>
    -- without an entry at posDst there is nothing to put in its place at i
    let some tmp := posList.get? key | throw .typeError
    return ({ player with baseInfo := { player.baseInfo with
      posList := swapPositions posList key i posDst position tmp } }, true)
  | none =>
    if !heroInfo then return (player, false)
    let some position := posList.get? key | throw .typeError
    return ({ player with baseInfo := { player.baseInfo with
      posList := posList.set key { position with heroId := heroId } } }, true)

/-! ### Requests -/

/-- What a mail or a drop gives: items and equips, and the gold the player has then. -/
def award (Item : ItemTable) (player : Player) (things : List (Id × Int)) (moments : Nat → Nat → Moment) (gold : Int) :
    Player :=
  { baseInfo := { player.baseInfo with gold := gold }
    bagList := things.zipIdx.foldl (fun bagList thing =>
      (getItemAward Item thing.1.1 thing.1.2 (moments thing.2) bagList ⟨none, none⟩).2.1) player.bagList }

inductive Request
  | changeEquip (sign seq : Id) (ids : Fin 6 → Id)
  | sellItemGroup (sellgroup : Obj (Option Int))
  | splitEquip (equipIdList : List Id) (moments : Nat → Nat → Nat → Moment)
  | meltingEquip (lequipId requipId attr : Id) (draw : Nat) (moments : Nat → Nat → Moment)
  | makeEquip (scrollList : List Id) (draws : Nat → Nat) (moments : Nat → Moment)
  | makeHeroLineup (posDst heroId : Id) (heroInfo : Bool)
  | award (things : List (Id × Int)) (moments : Nat → Nat → Moment) (gold : Int)

/-- The tables the handlers read. -/
structure Tables where
  Item : ItemTable
  eqStar : Int → Option EqStarRow
  Make : String → Option MakeRow
  outside : Id → Bool

/-- The player a request leaves to be stored. -/
def handle (tables : Tables) (player : Player) : Request → Except Failure Player
  | .changeEquip sign seq ids => .ok (changeEquip player sign seq ids).1
  | .sellItemGroup sellgroup => (·.1) <$> sellItemGroup tables.Item player sellgroup
  | .splitEquip equipIdList moments => (·.1) <$> splitEquip tables.Item tables.eqStar player equipIdList moments
  | .meltingEquip lequipId requipId attr draw moments =>
    (·.1) <$> meltingEquip tables.Item tables.eqStar tables.outside player lequipId requipId attr draw moments
  | .makeEquip scrollList draws moments => (·.1) <$> makeEquip tables.Item tables.Make player scrollList draws moments
  | .makeHeroLineup posDst heroId heroInfo => (·.1) <$> makeHeroLineup player posDst heroId heroInfo
  | .award things moments gold => .ok (award tables.Item player things moments gold)

/-- The stored player after a request. -/
def request (tables : Tables) (player : Player) (r : Request) : Player :=
  match handle tables player r with
  | .ok player => player
  | .error _ => player

end Tinygame.Bag
