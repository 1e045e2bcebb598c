import Mathlib.Data.List.Basic
import Tinygame.Base.Obj

/-!
# Stored entities

The entities the handlers look into, with the fields they use, and the power index of `lru.js`.
An entity nobody here looks into is a `hash`.
-/

namespace Tinygame

structure UserArea where
  area : String
  uuid : String
  deriving DecidableEq

/-! ### lru.js -/

/-- `Const.LRU_MAP_LIMIT`. -/
def lruMapLimit : Nat := 5000

/-- The players of one power range, the longest unseen first. -/
structure Lru where
  id : Nat
  keys : List UserArea
  deriving DecidableEq

/-- The first entry of the player is cut out. -/
def aRemove (val : UserArea) (array : List UserArea) : List UserArea := array.erase val

def lruCreate (id : Nat) : Lru := ⟨id, []⟩

def lruSet (key : UserArea) (data : Lru) : Lru :=
  let keys := aRemove key data.keys ++ [key]
  { data with keys := if lruMapLimit < keys.length then keys.tail else keys }

def lruRemove (key : UserArea) (data : Lru) : Lru := { data with keys := aRemove key data.keys }

/-- The player a full range loses when `key` comes in. -/
def lruEvicted (key : UserArea) (data : Lru) : Option UserArea :=
  let keys := aRemove key data.keys ++ [key]
  if lruMapLimit < keys.length then keys.head? else none

theorem count_lruRemove (key other : UserArea) (data : Lru) :
    (lruRemove key data).keys.count other = data.keys.count other - if other = key then 1 else 0 := by
  unfold lruRemove aRemove
  rw [List.count_erase]
  by_cases same : other = key
  · simp [same]
  · simp [same, Ne.symm same]

theorem count_lruSet (key other : UserArea) (data : Lru) :
    (lruSet key data).keys.count other =
      (data.keys.count other - if other = key then 1 else 0) + (if other = key then 1 else 0) -
        if lruEvicted key data = some other then 1 else 0 := by
  have entered : (aRemove key data.keys ++ [key]).count other =
      (data.keys.count other - if other = key then 1 else 0) + if other = key then 1 else 0 := by
    unfold aRemove
    rw [List.count_append, List.count_erase, List.count_singleton]
    by_cases same : other = key
    · simp [same]
    · simp [same, Ne.symm same]
  rw [← entered]
  unfold lruSet lruEvicted
  dsimp only
  cases aRemove key data.keys ++ [key] with
  | nil => simp
  | cons first rest =>
    split
    · rw [List.tail_cons, List.count_cons, List.head?_cons]
      by_cases same : first = other <;> simp [same]
    · simp

/-- Nobody is pushed out by coming in. -/
theorem lruEvicted_ne (key : UserArea) (data : Lru) (once : data.keys.count key ≤ 1) :
    lruEvicted key data ≠ some key := by
  unfold lruEvicted aRemove
  dsimp only
  have gone : key ∉ data.keys.erase key := by
    rw [← List.count_eq_zero, List.count_erase_self]
    omega
  cases left : data.keys.erase key with
  | nil => simp [lruMapLimit]
  | cons first rest =>
    rw [left] at gone
    rw [List.cons_append, List.head?_cons]
    split
    · exact fun same => gone (Option.some.inj same ▸ List.mem_cons_self)
    · exact (Option.some_ne_none key).symm

theorem lruEvicted_listed (key other : UserArea) (data : Lru) (out : lruEvicted key data = some other)
    (different : other ≠ key) : 0 < data.keys.count other := by
  unfold lruEvicted aRemove at out
  dsimp only at out
  split at out
  · have member := List.mem_of_mem_head? out
    rw [List.mem_append, List.mem_singleton, or_iff_left different] at member
    exact List.count_pos_iff.mpr (List.mem_of_mem_erase member)
  · cases out

/-! ### Entities -/

structure Hero where
  pos : Int
  json : String

/-- One slot of `baseInfo.posList`. -/
structure PosListValue where
  heroId : Int
  pos : Int

structure BaseInfo where
  area : String
  uuid : String
  power : Nat
  posList : List PosListValue

structure PvpInfo where
  ticketDay : Int
  myTime : Int
  dayMark : Int
  deriving DecidableEq

/-- `globalInfo.pvpDay[area]`. -/
structure AreaDay where
  rewardPool : Int
  nums : Int
  maxCount : Int
  updateTime : Int
  deriving DecidableEq

structure GlobalInfo where
  pvpDay : Obj AreaDay

structure PvpDay where
  area : String
  uuids : List String
  deriving DecidableEq

inductive Value where
  | num (n : Int)
  | text (s : String)
  | hash (fields : List (String × Value))
  | hero (hero : Hero)
  | baseInfo (baseInfo : BaseInfo)
  | pvpInfo (pvpInfo : PvpInfo)
  | pvpDay (pvpDay : PvpDay)
  | globalInfo (globalInfo : GlobalInfo)
  | power (bucket : Lru)
  | areaDay (area : String) (day : AreaDay)

namespace Value

/-- Objects are truthy. -/
def truthy : Value → Bool
  | .num n => n != 0
  | .text s => s != ""
  | _ => true

/-- The text of a hash field is falsy only when it is empty. -/
def stored : Value → Bool
  | .text s => s != ""
  | _ => true

def property (name : String) : Value → Option Value
  | .hash fields => fields.lookup name
  | _ => none

end Value

/-! ### Teams -/

/-- The heroes on the field. -/
def getHeroIdsFromPosList (posList : List PosListValue) : List String :=
  (posList.filter fun slot => slot.heroId ≠ 0 ∧ slot.heroId ≠ -1).map fun slot => toString slot.heroId

def withPos (pos : Int) : Value → Value
  | .hero hero => .hero { hero with pos := pos }
  | value => value

def transPosListToTeamList (posList : List PosListValue) (heroList : Obj Value) : Obj Value :=
  posList.foldl (fun teamList slot => match heroList.get? (toString slot.heroId) with
    | some hero => teamList.set (toString slot.heroId) (withPos slot.pos hero)
    | none => teamList) ∅

end Tinygame
