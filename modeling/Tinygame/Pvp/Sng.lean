import Tinygame.Bag.Equips
import Tinygame.Dataprocess.DataConfig
import Mathlib.Data.Rat.Defs

/-!
# SNG sessions

`enrollPvpSng`, `getSngReward`, `getSngBoxReward` and `exitPvpSng` of `pvp_imp.js`, with the save that
`DataConfig` tells for each. What the enemies are is a parameter; how a fight ends comes with the request.
-/

namespace Tinygame.Sng
open Bag (BagList ItemTable Moment Record Id Failure require present)

variable {ε : Type}

/-! ### The session -/

def pvpSngStart : Int := 1
def pvpSngEnd : Int := 0
def pvpWinner : Int := 1
def pvpLoser : Int := 2

structure Fighter (ε : Type) where
  enemy : ε
  /-- `none` when the fight gave none. -/
  result : Option Int
  seed : Int
  ticketDay : Int

def newFighter (playerInfo : ε) (reward : Int) : Fighter ε := ⟨playerInfo, some 0, 0, reward⟩

structure PvpInfo (ε : Type) where
  ticketN : Int
  ticketDay : Int
  ticketWeek : Int
  fightCount : Int
  startMark : Int
  /-- `box1`, `box2` and `box3`. -/
  box : Fin 3 → Int
  myTime : Int
  refreshTime : Int
  dayMark : Int
  weekMark : Int
  fightInfoListSng : List (Fighter ε)

/-- What is stored of a player. -/
structure Player (ε : Type) where
  pvpInfo : PvpInfo ε
  bagList : BagList

def Player.setPvpInfo (player : Player ε) (pvpInfo : PvpInfo ε) : Player ε := { player with pvpInfo }

/-- What a handler answers. -/
inductive OutArgs (ε : Type)
  | enrolled (pvpInfo : PvpInfo ε)
  | rewarded (ticketDay seed : Int) (result : Option Int)
  | opened (ticketDay : Int) (bagItem : Record)
  | exited (startMark ticketDay : Int) (bagItem : Record)

/-! ### Enrolling -/

def getReadPvpInfo (pvpInfo : PvpInfo ε) : PvpInfo ε := { pvpInfo with fightInfoListSng := [] }

/-- `updateTime` is that of the player's area. -/
def refresh (updateTime : Int) (pvpInfo : PvpInfo ε) : PvpInfo ε :=
  if pvpInfo.refreshTime < updateTime then { pvpInfo with ticketN := 5, refreshTime := updateTime } else pvpInfo

/-- In a session `outArgs.pvpInfo` is not there yet when the list is put into it. -/
def enrollPvpSng (player : Player ε) (updateTime : Option Int) (fighterList1 fighterList2 fighterList3 : List (Fighter ε)) :
    Except Failure (Player ε × OutArgs ε) := do
  if player.pvpInfo.startMark ≠ pvpSngStart then
    let updateTime ← present updateTime .typeError
    let pvpInfo := refresh updateTime player.pvpInfo
    require (0 < pvpInfo.ticketN) (.retCode 1901)
    let pvpInfo := { pvpInfo with ticketN := pvpInfo.ticketN - 1, startMark := pvpSngStart, box := fun _ => 0, fightCount := 0 }
    let fightInfoListSng := fighterList1 ++ fighterList2 ++ fighterList3
    return (player.setPvpInfo { pvpInfo with fightInfoListSng }, .enrolled { getReadPvpInfo pvpInfo with fightInfoListSng })
  else throw .typeError

/-! ### Boxes -/

structure ChestRow where
  WinNum : Int
  Reward1 : Int
  Reward2 : Int

/-- `config/pvp/SportsChest`. -/
def sportsChest (k : Fin 3) : ChestRow :=
  match k with
  | 0 => ⟨1, 30, 100⟩
  | 1 => ⟨3, 60, 150⟩
  | 2 => ⟨5, 100, 200⟩

def pvpCoinId : Id := .number 12010

/-- What a box adds to: the bag, and `ticketDay` and `bagItem` of `outArgs`. -/
structure Claim where
  bagList : BagList
  ticketDay : Int
  bagItem : Record

def newClaim (bagList : BagList) : Claim := ⟨bagList, 0, ⟨some ∅, some ∅⟩⟩

/-- The box a count asks for, when it is between 1 and 3. -/
def boxOf (boxCount : Option Int) : Option (Fin 3) :=
  match boxCount with
  | some 1 => some 0
  | some 2 => some 1
  | some 3 => some 2
  | _ => none

/-- The box is neither taken nor out of reach. -/
def Due (pvpInfo : PvpInfo ε) (k : Fin 3) : Prop := pvpInfo.box k = 0 ∧ (sportsChest k).WinNum ≤ pvpInfo.fightCount

instance (pvpInfo : PvpInfo ε) (k : Fin 3) : Decidable (Due pvpInfo k) := inferInstanceAs (Decidable (_ ∧ _))

/-- `none` when it returns false. -/
def getSngBoxRewardByCount (Item : ItemTable) (moments : Nat → Moment) (pvpInfo : PvpInfo ε) (boxCount : Option Int) (claim : Claim) :
    Option Claim :=
  match boxOf boxCount with
  | none => none
  | some k =>
    if Due pvpInfo k then
      let (awarded, bagList, bagItem) :=
        Bag.getItemAward Item pvpCoinId (sportsChest k).Reward2 moments claim.bagList claim.bagItem
      if awarded then some ⟨bagList, claim.ticketDay + (sportsChest k).Reward1, bagItem⟩ else none
    else some claim

/-- The box counts as taken also when it gave nothing. -/
def getSngBoxReward (Item : ItemTable) (player : Player ε) (boxCount : Id) (moments : Nat → Moment) :
    Except Failure (Player ε × OutArgs ε) := do
  let boxCount := boxCount.parseInt
  require (player.pvpInfo.startMark = pvpSngStart) (.retCode 1902)
  let claim ← present (getSngBoxRewardByCount Item moments player.pvpInfo boxCount (newClaim player.bagList)) (.retCode 1902)
  let box := match boxOf boxCount with
    | none => player.pvpInfo.box
    | some k => Function.update player.pvpInfo.box k 1
  return (⟨{ player.pvpInfo with ticketDay := player.pvpInfo.ticketDay + claim.ticketDay, box }, claim.bagList⟩,
    .opened claim.ticketDay claim.bagItem)

/-! ### Fights -/

/-- How `fightPvp` and the making of `myPlayerInfo` before it end. -/
inductive Outcome
  | thrown
  | failed
  | fought (result : Option Int) (seed : Int)

/-- The place `enemyType - 1`, when the type is between 1 and 6. A fraction is the place of nobody. -/
def placeOf (enemyType : Option Rat) : Except Failure Nat := do
  let enemyType ← present enemyType (.retCode 1903)
  require (1 ≤ enemyType ∧ enemyType ≤ 6) (.retCode 1903)
  require (enemyType.den = 1) .typeError
  return (enemyType.num - 1).toNat

def Outcome.read : Outcome → Except Failure (Option Int × Int)
  | .thrown => .error .typeError
  | .failed => .error (.retCode 1903)
  | .fought result seed => .ok (result, seed)

/-- `enemyType` is what the comparisons make of it, with nothing for NaN. -/
def getSngReward (player : Player ε) (enemyType : Option Rat) (outcome : Outcome) : Except Failure (Player ε × OutArgs ε) := do
  let place ← placeOf enemyType
  let pvpInfo := player.pvpInfo
  require (pvpInfo.startMark = pvpSngStart) (.retCode 1903)
  let fighter ← present pvpInfo.fightInfoListSng[place]? .typeError
  if fighter.result = some 0 ∨ fighter.result = some pvpLoser then
    let (result, seed) ← outcome.read
    let reward := if result = some pvpWinner then fighter.ticketDay else 0
    return (player.setPvpInfo { pvpInfo with
        fightInfoListSng := pvpInfo.fightInfoListSng.set place { fighter with result, seed }
        ticketDay := pvpInfo.ticketDay + reward
        fightCount := pvpInfo.fightCount + 1 },
      .rewarded fighter.ticketDay seed result)
  else return (player, .rewarded fighter.ticketDay fighter.seed fighter.result)

/-! ### Exit -/

def exitPvpSng (Item : ItemTable) (player : Player ε) (moments : Int → Nat → Moment) : Except Failure (Player ε × OutArgs ε) := do
  let pvpInfo := { player.pvpInfo with startMark := pvpSngEnd }
  let claim ← present ([1, 2, 3].foldlM (fun claim boxCount =>
    getSngBoxRewardByCount Item (moments boxCount) pvpInfo (some boxCount) claim) (newClaim player.bagList)) (.retCode 1902)
  return (⟨{ pvpInfo with
      ticketDay := pvpInfo.ticketDay + claim.ticketDay
      box := fun _ => 0
      fightCount := 0
      fightInfoListSng := [] }, claim.bagList⟩,
    .exited pvpInfo.startMark claim.ticketDay claim.bagItem)

/-! ### Requests -/

inductive Request (ε : Type)
  | enrollPvpSng (updateTime : Option Int) (fighterList1 fighterList2 fighterList3 : List (ε × Int))
  | getSngReward (enemyType : Option Rat) (outcome : Outcome)
  | getSngBoxReward (boxCount : Id) (moments : Nat → Moment)
  | exitPvpSng (moments : Int → Nat → Moment)

def Request.funcName : Request ε → String
  | .enrollPvpSng .. => "enrollPvpSng"
  | .getSngReward .. => "getSngReward"
  | .getSngBoxReward .. => "getSngBoxReward"
  | .exitPvpSng .. => "exitPvpSng"

def handle (Item : ItemTable) (player : Player ε) : Request ε → Except Failure (Player ε × OutArgs ε)
  | .enrollPvpSng updateTime list1 list2 list3 =>
    enrollPvpSng player updateTime (list1.map fighter) (list2.map fighter) (list3.map fighter)
  | .getSngReward enemyType outcome => getSngReward player enemyType outcome
  | .getSngBoxReward boxCount moments => getSngBoxReward Item player boxCount moments
  | .exitPvpSng moments => exitPvpSng Item player moments
where
  fighter (entry : ε × Int) : Fighter ε := newFighter entry.1 entry.2

def storeEntity (data player : Player ε) : DataName → Player ε
  | .bagList => { player with bagList := data.bagList }
  | .pvpInfo => { player with pvpInfo := data.pvpInfo }
  | _ => player

/-- What the function reads or writes, in the order of `setting`. -/
def entities (funcName : String) (access : FuncConfig → DataName → Bool) : List DataName :=
  (convertDataConfig dataConfig funcName).elim [] fun func => (setting.map Setting.name).filter (access func)

/-- The writes up to the one that fails. -/
def setDataValue (funcName : String) (failing : Option DataName) (data player : Player ε) : Player ε :=
  ((entities funcName FuncConfig.writes).takeWhile fun name => some name ≠ failing).foldl (storeEntity data) player

/-- A request, and the read or the write that fails. -/
structure Event (ε : Type) where
  request : Request ε
  unread : Option DataName
  failing : Option DataName

/-- The failure of one of the accesses, with the code `codeOf` has for it. -/
def failure (accesses : List DataName) (codeOf : DataName → Option Nat) (failing : Option DataName) : Option Failure :=
  match failing with
  | none => none
  | some name => if name ∈ accesses then some (.retCode ((codeOf name).getD 0)) else none

/-- What the handler leaves to be saved, and its answer. -/
def serve (Item : ItemTable) (player : Player ε) (event : Event ε) : Except Failure (Player ε × OutArgs ε) :=
  match failure (entities event.request.funcName FuncConfig.reads) ErrCode.dataGet event.unread with
  | some failed => .error failed
  | none => handle Item player event.request

/-- What the client is told. -/
def respond (Item : ItemTable) (player : Player ε) (event : Event ε) : Except Failure (OutArgs ε) :=
  match serve Item player event with
  | .error failed => .error failed
  | .ok (_, outArgs) =>
    match failure (entities event.request.funcName FuncConfig.writes) ErrCode.dataSet event.failing with
    | some failed => .error failed
    | none => .ok outArgs

def step (Item : ItemTable) (player : Player ε) (event : Event ε) : Player ε :=
  match serve Item player event with
  | .error _ => player
  | .ok (data, _) => setDataValue event.request.funcName event.failing data player

end Tinygame.Sng
