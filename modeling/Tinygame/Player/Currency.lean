import Tinygame.Bag.Equips

/-!
# Gold and diamonds

The handlers that change them, from `equip_imp.js`, `hero_imp.js`, `item_imp.js`, `item.js`, `mail_imp.js`,
`pvp_imp.js` and `hangup_imp.js`, with the two helpers they use: `addPlayerGold` and `addPlayerDiamond` of
`player_handle.js` refuse a sum outside the range, `addValue` of `utils.js` only cuts it off above. The amounts
in the tables are natural numbers. Experience, action points, signs and heroes are other fields.
-/

namespace Tinygame.Player
open Bag (Id BagList ItemTable EquipInfo Moment Failure require present)

/-! ### The helpers -/

def commonValueMin : Int := 0
def commonValueMax : Int := 999999999

/-- A number, or nothing for NaN. -/
abbrev Amount := Option Int

def checkValue (value : Id) : Int := value.parseInt.getD 0

def addValue (value : Int) : Int := if value > commonValueMax then commonValueMax else value

structure HeroInfo where
  heroId : String
  star : Int
  /-- The levels of the skill slots. -/
  skillSlotList : Obj Int
  suitIds : Fin 5 → Int

structure DataValue where
  player : Bag.Player
  diamond : Int
  heroInfo : HeroInfo

namespace DataValue

def gold (data : DataValue) : Int := data.player.baseInfo.gold

def bagList (data : DataValue) : BagList := data.player.bagList

def setGold (data : DataValue) (gold : Int) : DataValue :=
  { data with player := { data.player with baseInfo := { data.player.baseInfo with gold } } }

def setDiamond (data : DataValue) (diamond : Int) : DataValue := { data with diamond }

def setBagList (data : DataValue) (bagList : BagList) : DataValue := { data with player := { data.player with bagList } }

end DataValue

def addPlayerGold (gold : Amount) (data : DataValue) : Amount × DataValue :=
  match gold with
  | none => (none, data)
  | some gold =>
    let tmp := data.gold + gold
    if commonValueMin ≤ tmp ∧ tmp ≤ commonValueMax then (some tmp, data.setGold tmp) else (none, data)

def addPlayerDiamond (diamond : Amount) (data : DataValue) : Amount × DataValue :=
  match diamond with
  | none => (none, data)
  | some diamond =>
    let tmp := data.diamond + diamond
    if commonValueMin ≤ tmp ∧ tmp ≤ commonValueMax then (some tmp, data.setDiamond tmp) else (none, data)

/-- A handler takes a sum of zero for a failure. -/
def paid (code : Int) : Amount × DataValue → Except Failure DataValue
  | (none, _) | (some 0, _) => .error (.retCode code)
  | (some _, data) => .ok data

/-! ### Equips and heroes -/

structure HeroStarRow where
  gold : Nat
  itemId : Id
  itemNum : Int

structure AfkRow where
  offlineinterval : Nat
  offlinegold : Nat
  onlinegold : Nat

structure Tables where
  Item : ItemTable
  isStone : Id → Bool
  eqStar : Int → Option Bag.EqStarRow
  /-- `cost` of `eqStar`. -/
  starCost : Int → Option Nat
  outside : Id → Bool
  Unlock : Int → Option Bag.UnlockRow
  HeroStar : Int → Option HeroStarRow
  /-- The suits `SuitAu` draws for a hero and a place. -/
  suits : String → Fin 5 → Option (Nat → Int)
  Afkreward : String → Option AfkRow

section
variable (tables : Tables)

def equipStarLevelLimit : Int := 10
def skillSlotLevelLimit : Int := 6
def heroStarLevelLimit : Int := 5

/-- One round of the loop over the stones. -/
def takeStone (bagList : BagList) (id : Id) : Except Failure BagList :=
  if id.truthy then do
    let deleted := Bag.delItem id 1 bagList
    require (deleted.1 = true) (.retCode 1501)
    require (tables.isStone id = true) (.retCode 1501)
    return deleted.2
  else .ok bagList

def upgradeEquipStar (data : DataValue) (equipId : Id) (ids : Fin 5 → Id) : Except Failure DataValue := do
  let bagList ← ((List.finRange 5).map ids).foldlM (takeStone tables) data.bagList
  require (Bag.getItemNum equipId bagList ≠ 0) (.retCode 1501)
  let equip ← present (bagList.equipList.get? equipId.name) .typeError
  require (equip.star < equipStarLevelLimit) (.retCode 1501)
  let cost ← present (tables.starCost (equip.star + 1)) (.retCode 1501)
  require (cost ≠ 0) (.retCode 1501)
  let data ← paid 1501 (addPlayerGold (some (-cost)) (data.setBagList bagList))
  return data.setBagList { bagList with
    equipList := bagList.equipList.set equipId.name { equip with star := equip.star + 1, index := some equipId } }

def splitEquip (data : DataValue) (equipIdList : List Id) (moments : Nat → Nat → Nat → Moment) : Except Failure DataValue := do
  let split ← Bag.splitEquip tables.Item tables.eqStar data.player equipIdList moments
  return { data with player := split.1 }

def meltingEquip (data : DataValue) (lequipId requipId attr : Id) (draw : Nat) (moments : Nat → Nat → Moment) :
    Except Failure DataValue := do
  let melted ← Bag.meltingEquip tables.Item tables.eqStar tables.outside data.player lequipId requipId attr draw moments
  return { data with player := melted.1 }

def unlockBag (data : DataValue) : Except Failure DataValue := do
  let (diamond, bagList) := Bag.unlockBag tables.Unlock data.bagList
  let diamond ← present diamond (.retCode 1104)
  paid 1104 (addPlayerDiamond (some diamond) (data.setBagList bagList))

def upgradeSkillSlot (data : DataValue) (slotId : Id) : Except Failure DataValue := do
  let level ← present (data.heroInfo.skillSlotList.get? slotId.name) (.retCode 400)
  require (level < skillSlotLevelLimit) (.retCode 400)
  let data ← paid 400 (addPlayerGold (some (-(100 + 800 * (level - 1)))) data)
  return { data with heroInfo := { data.heroInfo with
    skillSlotList := data.heroInfo.skillSlotList.set slotId.name (level + 1) } }

/-- `upgradeHeroStarBaseInfo`, `upgradeHeroStarBagList` and `upgradeHeroStarLevel` in turn. -/
def upgradeHeroStar (data : DataValue) : Except Failure DataValue := do
  let star := data.heroInfo.star
  require (0 ≤ star ∧ star ≤ heroStarLevelLimit) (.retCode 400)
  let row ← present (tables.HeroStar (star + 1)) (.retCode 400)
  let data ← paid 400 (addPlayerGold (some (-row.gold)) data)
  let deleted := Bag.delItem row.itemId row.itemNum data.bagList
  require (deleted.1 = true) (.retCode 400)
  require (star < heroStarLevelLimit) (.retCode 400)
  return { data.setBagList deleted.2 with heroInfo := { data.heroInfo with star := star + 1 } }

/-- The item that washes a hero. -/
def washItem : Id := .number 15501

/-- `unlocked` tells which locks are read as zero. Whether the diamonds could be paid is not looked at. -/
def washHero (data : DataValue) (unlocked : Fin 5 → Bool) (pick draw : Nat) : Except Failure DataValue := do
  let pos := (List.finRange 5).filter unlocked
  let place ← present (pos[pick % pos.length]?) (.retCode 811)
  let data := (addPlayerDiamond (some (-250 + 50 * pos.length)) data).2
  let suits ← present (tables.suits data.heroInfo.heroId place) .typeError
  let data := { data with heroInfo := { data.heroInfo with suitIds := Function.update data.heroInfo.suitIds place (suits draw) } }
  require (0 < Bag.getItemNum washItem data.bagList) (.retCode 811)
  let deleted := Bag.delItem washItem 1 data.bagList
  require (deleted.1 = true) (.retCode 811)
  return data.setBagList deleted.2

end

/-! ### Drops and items -/

structure DropRow where
  foreverDrop : List (Id × Nat)
  /-- The draw of `number`, where there is one. -/
  number : Option (Nat → Nat)

/-- `retPack[1]`. -/
structure DropRecord where
  gold : Int
  diamond : Int
  team_exp : Int
  things : Bag.Record

def getPoolThing (Item : ItemTable) (valueType : Id) (value : Nat) (moments : Nat → Moment) (data : DataValue) (record : DropRecord) :
    DataValue × DropRecord :=
  if valueType.same (.text "gold") then
    let temp := addValue (data.gold + value)
    (data.setGold temp, { record with gold := record.gold + (temp - data.gold) })
  else if valueType.same (.text "rmb") then
    let temp := addValue (data.diamond + value)
    (data.setDiamond temp, { record with diamond := record.diamond + (temp - data.diamond) })
  else if valueType.same (.text "teamexp") then (data, { record with team_exp := record.team_exp + value })
  else if ["jjcgold", "magicgold", "sign", "heroexp", "ap"].any fun name => valueType.same (.text name) then (data, record)
  else
    let (_, bagList, things) := Bag.getItemAward Item valueType value moments data.bagList record.things
    (data.setBagList bagList, { record with things })

/-- What always drops, and then as many draws as `number` says. A draw is a pair of a type and a value, and
`indexScope[ret]` asks the list of pairs for a property of that name: it throws. -/
def dropPool (Item : ItemTable) (Drop : Id → Option DropRow) (id : Id) (draw : Nat) (moments : Nat → Nat → Moment) (data : DataValue) :
    Except Failure (DataValue × DropRecord) := do
  let row ← present (Drop id) (.retCode 947)
  let dropped := row.foreverDrop.zipIdx.foldl (fun (dropped : DataValue × DropRecord) thing =>
    getPoolThing Item thing.1.1 thing.1.2 (moments thing.2) dropped.1 dropped.2) (data, ⟨0, 0, 0, ⟨none, none⟩⟩)
  match row.number with
  | none => return dropped
  | some number => if number draw = 0 then return dropped else throw .typeError

def useTypeAddGold : Int := 5
def useTypeAddDiamond : Int := 6
def useTypeOpenBox : Int := 7

/-- `userTeyp` of the items: the effects by type. None takes anything away. -/
structure Effects where
  list : Id → Option (List (Int × Id))
  gives : ∀ id effects, list id = some effects → ∀ effect ∈ effects, 0 ≤ checkValue effect.2

section
variable (Item : ItemTable) (Drop : Id → Option DropRow) (userTeyp : Effects)

/-- One round of the loop over `userTeyp`. The amounts are read with `checkValue`. -/
def useEffect (draw : Nat) (moments : Nat → Nat → Moment) (data : DataValue) (effect : Int × Id) : Except Failure DataValue :=
  let amount := checkValue effect.2
  if effect.1 = useTypeAddGold then .ok (data.setGold (addValue (data.gold + amount)))
  else if effect.1 = useTypeAddDiamond then .ok (data.setDiamond (addValue (data.diamond + amount)))
  else if effect.1 = useTypeOpenBox then
    match dropPool Item Drop effect.2 draw moments data with
    | .ok dropped => .ok dropped.1
    | .error (.retCode _) => .error (.retCode 1107)
    | .error .typeError => .error .typeError
  else .ok data

def useItem (data : DataValue) (itemID : Id) (draws : Nat → Nat) (moments : Nat → Nat → Nat → Moment) : Except Failure DataValue := do
  require (Item.rows.has itemID.name = true) (.retCode 1006)
  let useType ← present (userTeyp.list itemID) (.retCode 1010)
  require (0 < Bag.getItemNum itemID data.bagList) (.retCode 1003)
  let deleted := Bag.delItem itemID 1 data.bagList
  require (deleted.1 = true) (.retCode 1004)
  useType.zipIdx.foldlM (fun data effect => useEffect Item Drop (draws effect.2) (moments effect.2) data effect.1)
    (data.setBagList deleted.2)

end

def test_addValue (data : DataValue) (type value : Id) : DataValue :=
  if type.same (.number useTypeAddGold) then data.setGold (addValue (data.gold + checkValue value))
  else if type.same (.number useTypeAddDiamond) then data.setDiamond (addValue (data.diamond + checkValue value))
  else data

/-! ### Mails -/

/-- The sum is NaN when the amount is none, and `addValue` lets NaN pass. -/
def creditValue (value : Int) (amount : Option Id) : Amount :=
  match amount with
  | none => some value
  | some amount => amount.parseInt.map fun amount => addValue (value + amount)

/-- What the loop over the attachment leaves of gold and diamonds. Each of the two is at most one of its keys. -/
def getMailAttach (data : DataValue) (attach : Option (Obj Id)) : Amount × Amount :=
  let attach := attach.getD ∅
  (creditValue data.gold (attach.get? "gold"), creditValue data.diamond (attach.get? "diamond"))

/-! ### Fights and waiting -/

/-- `Robot.getPvpDayRward` is no function of `robot.js`, which exports `getPvpDayReward`: the call throws. -/
def getPvpDayRward (_pos _num : Nat) : Except Failure (Int × Int) := .error .typeError

def getPvpDayF8Result (data : DataValue) (uuid : String) (finalSort : List String) (paidOut : Bool) : Except Failure DataValue :=
  match finalSort.idxOf? uuid with
  | none => .ok data
  | some i => do
    let (diamand, _) ← getPvpDayRward i finalSort.length
    return if paidOut then data else (addPlayerDiamond (some diamand) data).2

def afkMaxTime : Int := 12 * 60 * 60 * 1000

/-- Dividing by no interval gives no number. -/
def calOfflineProfit (row : AfkRow) (offTime : Int) : Amount :=
  if row.offlineinterval = 0 then none else some (offTime / row.offlineinterval * row.offlinegold)

/-- `result.gold`; what was never set counts as NaN. `resourceID` is that of the node the player waits on. -/
def calProfit (Afkreward : String → Option AfkRow) (resourceID : Option String) (isOffline : Bool) (sinceProAfkTime : Int) (win : Id) :
    Except Failure Amount := do
  let akfrewardid ← present resourceID .typeError
  if isOffline then
    let row ← present (Afkreward akfrewardid) .typeError
    return calOfflineProfit row (if sinceProAfkTime ≥ afkMaxTime then afkMaxTime else sinceProAfkTime)
  else if win.same (.number 1) then
    let row ← present (Afkreward akfrewardid) .typeError
    return some row.onlinegold
  else return none

/-- Whether the gold fits is not looked at. -/
def afkProfit (Afkreward : String → Option AfkRow) (data : DataValue) (resourceID : Option String) (isOffline : Bool)
    (sinceProAfkTime : Int) (win : Id) : Except Failure DataValue := do
  let gold ← calProfit Afkreward resourceID isOffline sinceProAfkTime win
  return (addPlayerGold gold data).2

def offlineProfit (Afkreward : String → Option AfkRow) (data : DataValue) (resourceID : Option String) (sinceProAfkTime : Int) :
    Except Failure DataValue := afkProfit Afkreward data resourceID true sinceProAfkTime .undefined

def onlineProfit (Afkreward : String → Option AfkRow) (data : DataValue) (resourceID : Option String) (isWin : Id) :
    Except Failure DataValue := afkProfit Afkreward data resourceID false 0 isWin

/-! ### Requests -/

inductive Request
  | upgradeEquipStar (equipId : Id) (ids : Fin 5 → Id)
  | splitEquip (equipIdList : List Id) (moments : Nat → Nat → Nat → Moment)
  | meltingEquip (lequipId requipId attr : Id) (draw : Nat) (moments : Nat → Nat → Moment)
  | unlockBag
  | upgradeSkillSlot (slotId : Id)
  | upgradeHeroStar
  | washHero (unlocked : Fin 5 → Bool) (pick draw : Nat)
  | useItem (itemID : Id) (draws : Nat → Nat) (moments : Nat → Nat → Nat → Moment)
  /-- A handler that stores what `dropPool` leaves. -/
  | dropPool (id : Id) (draw : Nat) (moments : Nat → Nat → Moment)
  | getMailAttach (attach : Option (Obj Id))
  | test_addValue (type value : Id)
  | getPvpDayF8Result (uuid : String) (finalSort : List String) (paidOut : Bool)
  | offlineProfit (resourceID : Option String) (sinceProAfkTime : Int)
  | onlineProfit (resourceID : Option String) (isWin : Id)

/-- The gold and the diamonds a handler leaves to be stored. -/
def handle (tables : Tables) (Drop : Id → Option DropRow) (userTeyp : Effects) (data : DataValue) :
    Request → Except Failure (Amount × Amount)
  | .getMailAttach attach => .ok (getMailAttach data attach)
  | .upgradeEquipStar equipId ids => numbers <$> upgradeEquipStar tables data equipId ids
  | .splitEquip equipIdList moments => numbers <$> splitEquip tables data equipIdList moments
  | .meltingEquip lequipId requipId attr draw moments => numbers <$> meltingEquip tables data lequipId requipId attr draw moments
  | .unlockBag => numbers <$> unlockBag tables data
  | .upgradeSkillSlot slotId => numbers <$> upgradeSkillSlot data slotId
  | .upgradeHeroStar => numbers <$> upgradeHeroStar tables data
  | .washHero unlocked pick draw => numbers <$> washHero tables data unlocked pick draw
  | .useItem itemID draws moments => numbers <$> useItem tables.Item Drop userTeyp data itemID draws moments
  | .dropPool id draw moments => (fun dropped => numbers dropped.1) <$> dropPool tables.Item Drop id draw moments data
  | .test_addValue type value => .ok (numbers (test_addValue data type value))
  | .getPvpDayF8Result uuid finalSort paidOut => numbers <$> getPvpDayF8Result data uuid finalSort paidOut
  | .offlineProfit resourceID sinceProAfkTime => numbers <$> offlineProfit tables.Afkreward data resourceID sinceProAfkTime
  | .onlineProfit resourceID isWin => numbers <$> onlineProfit tables.Afkreward data resourceID isWin
where
  numbers (data : DataValue) : Amount × Amount := (some data.gold, some data.diamond)

/-- What is stored afterwards: a request that fails stores nothing. -/
def stored (tables : Tables) (Drop : Id → Option DropRow) (userTeyp : Effects) (data : DataValue)
    (request : Request) : Amount × Amount :=
  match handle tables Drop userTeyp data request with
  | .ok numbers => numbers
  | .error _ => (some data.gold, some data.diamond)

end Tinygame.Player
