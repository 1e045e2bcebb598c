import Tinygame.Dataprocess.Entity
import Tinygame.Pvp.Sng

/-!
# Opponents for an SNG session

`getPvpSng` of `pvp_handle.js`: three lists of opponents from the index of powers, with robots where there are too few players,
and `randomArraySets` of `utils.js`, which draws from several arrays as if they were one.
-/

namespace Tinygame.SngMatch
open Sng (Fighter newFighter)

local instance threeWindows : NeZero 3 := ⟨by decide⟩

/-! ### randomArraySets -/

section
variable {α : Type}

/-- `utils.randomIntN` from zero on: without a number to draw there is no array. -/
def randomIntN (num : Nat) (draw : List Nat) : List Nat := if num = 0 then [] else draw

/-- The arrays, each with the bounds of its numbers. -/
def sums (num : Nat) : List (List α) → List (Nat × Nat × List α)
  | [] => []
  | array :: rest => (num, num + array.length, array) :: sums (num + array.length) rest

/-- The element a number stands for. -/
def pick (sum : List (Nat × Nat × List α)) (t : Nat) : Option α :=
  (sum.find? fun entry => decide (t ≥ entry.1) && decide (t < entry.2.1)).bind fun entry => entry.2.2[t - entry.1]?

/-- `n` elements of the arrays, or all of them when there are fewer. -/
def randomArraySets (arrays : List (List α)) (n : Nat) (draw : List Nat) : List α :=
  let num := (arrays.map List.length).sum
  if (sums 0 arrays).length ≠ 0 ∧ num ≥ n then (randomIntN num draw).filterMap (pick (sums 0 arrays)) else arrays.flatten

/-- What `chance.unique` can give: different numbers in range, as many as asked for. -/
def Unique (num n : Nat) (draw : List Nat) : Prop := n ≤ num → draw.Nodup ∧ draw.length = n ∧ ∀ t ∈ draw, t < num

end

/-! ### The tables -/

/-- A row of `config/pvp/powermatch`: a range of powers and three windows in percent of the power, one after the other. -/
structure PowerMatchRow where
  sequenceID : Int
  myPower : Int × Int
  power : Fin 3 → Int × Int
  reward : Fin 3 → Int
  positive : 0 ≤ myPower.1
  ordered : (power 0).2 ≤ (power 1).1 ∧ (power 1).1 ≤ (power 1).2 ∧ (power 1).2 ≤ (power 2).1

/-- A row of `config/pvp/sequence`: how many opponents come from each window. -/
structure SequenceRow where
  teams : Int
  odds : Int
  pep : Fin 3 → Nat

structure Tables where
  PowerMatch : Obj PowerMatchRow
  sequence : Obj SequenceRow
  sequenced : ∀ entry ∈ PowerMatch.entries, ∃ seq ∈ sequence.entries, seq.2.teams = entry.2.sequenceID

def powermatch : Obj PowerMatchRow :=
  ((((∅ : Obj PowerMatchRow).set "1" ⟨1, (100, 1000), ![(-20, -11), (-10, 0), (1, 20)], ![1, 3, 5], by decide, by decide⟩).set
    "2" ⟨2, (1000, 2000), ![(-20, -11), (-10, 5), (6, 20)], ![1, 3, 5], by decide, by decide⟩).set
    "3" ⟨3, (2000, 3000), ![(-20, -11), (-10, 5), (6, 20)], ![1, 3, 5], by decide, by decide⟩).set
    "4" ⟨3, (3000, 999999), ![(-20, -11), (-10, 5), (6, 20)], ![1, 3, 5], by decide, by decide⟩

def sequenceRows : List SequenceRow :=
  [⟨1, 10, ![6, 0, 0]⟩, ⟨1, 10, ![5, 1, 0]⟩, ⟨1, 10, ![4, 1, 1]⟩, ⟨1, 70, ![2, 2, 2]⟩, ⟨2, 10, ![2, 3, 1]⟩, ⟨2, 10, ![1, 3, 2]⟩,
    ⟨2, 30, ![3, 3, 0]⟩, ⟨2, 30, ![3, 2, 1]⟩, ⟨2, 20, ![2, 2, 2]⟩, ⟨3, 10, ![2, 3, 1]⟩, ⟨3, 10, ![3, 2, 1]⟩, ⟨3, 30, ![2, 2, 2]⟩,
    ⟨3, 20, ![1, 3, 2]⟩, ⟨3, 20, ![2, 1, 3]⟩, ⟨3, 10, ![1, 2, 3]⟩]

def sequence : Obj SequenceRow :=
  sequenceRows.zipIdx.foldl (fun rows entry => rows.set (toString (entry.2 + 1)) entry.1) ∅

/-- The two tables as they stand. -/
def config : Tables := ⟨powermatch, sequence, by decide +kernel⟩

/-! ### The windows -/

/-- `parseInt(power * (100 + rate) * 0.01, 10)`. -/
def percent (power rate : Int) : Int := (power * (100 + rate)).tdiv 100

def getPowerId (power : Int) : Int := power.tdiv 100

def getPowerIds (power floor ceil : Int) : List Int :=
  let f := getPowerId (percent power floor)
  let c := getPowerId (percent power ceil)
  (List.range (c - f).toNat).map fun (k : Nat) => f + k

structure PvpSng where
  power : Int
  id : String
  seq : Fin 3 → Nat
  /-- The ids of `data1`, `data2` and `data3`. -/
  ids : Fin 3 → List Int
  reward : Fin 3 → Int

section
variable (tables : Tables)

/-- `draw` chooses among the sequences of the id; the odds only make some likelier. -/
def getSequence (sequenceID : Int) (draw : Nat) : Option (Fin 3 → Nat) :=
  let index := (tables.sequence.entries.filter fun entry => entry.2.teams = sequenceID).map fun entry => entry.2.pep
  index[draw % index.length]?

/-- Each row the power lies in takes the place of the one before. -/
def getSumPowerIds (power : Int) (draws : String → Nat) : Option (Option PvpSng) :=
  tables.PowerMatch.entries.foldlM (fun pvpSng entry =>
    if entry.2.myPower.1 ≤ power ∧ power ≤ entry.2.myPower.2 then
      (getSequence tables entry.2.sequenceID (draws entry.1)).map fun seq => some
        ⟨power, entry.1, seq, fun j => getPowerIds power (entry.2.power j).1 (entry.2.power j).2, entry.2.reward⟩
    else some pvpSng) none

end

def getSearchPowerIdArray (pvpSng : PvpSng) : List Int := (List.finRange 3).flatMap pvpSng.ids

/-! ### The opponents -/

/-- The hash of the players by power; a range is created under its own id. -/
structure PowerHash where
  field : Int → Option Lru
  named : ∀ id lru, field id = some lru → (lru.id : Int) = id

/-- Redis refuses the command without a field. -/
def hmget (hash : PowerHash) (ids : List Int) : Option (List (Option Lru)) :=
  if ids = [] then none else some (ids.map hash.field)

inductive Opponent
  | player (ua : UserArea)
  | robot (area : String) (uuid : Nat) (power : Rat)

/-- The `uuids` of one window: the players of its ranges, without the one who asks. -/
def candidates (ua : UserArea) (ids : List Int) (pvpSngList : List (Option Lru)) : List (List UserArea) :=
  pvpSngList.filterMap fun data => data.bind fun pvpPower =>
    if pvpPower.keys.length > 0 ∧ (pvpPower.id : Int) ∈ ids then some (aRemove ua pvpPower.keys) else none

/-- The robots a list that is too short is filled up with. -/
def robots (area : String) (base : Nat) (power : Rat) (count n : Nat) : List Opponent :=
  (List.range (n - count)).map fun k => .robot area (count + k + base) power

/-- The strength of the robots of a window, in tenths of the player's. -/
def tenths : Fin 3 → Rat := ![8, 10, 12]

/-- `uuids1`, `uuids2` and `uuids3`, with the draw for each. -/
def opponents (ua : UserArea) (pvpSng : PvpSng) (pvpSngList : List (Option Lru)) (draw : Fin 3 → List Nat) (j : Fin 3) : List Opponent :=
  let drawn := randomArraySets (candidates ua (pvpSng.ids j) pvpSngList) (pvpSng.seq j) (draw j)
  drawn.map .player ++ robots ua.area (10 * (j.val + 1)) (pvpSng.power * (tenths j / 10)) drawn.length (pvpSng.seq j)

section
variable {ε : Type} (tables : Tables) (playerInfo : Opponent → ε)

structure NewPvpSng (ε : Type) where
  id : String
  fighterList : Fin 3 → List (Fighter ε)

/-- The first `n` of the list, which has to have as many. -/
def getPlayerInfoN (reward : Int) (uuids : List Opponent) (n : Nat) : Option (List (Fighter ε)) :=
  (List.range n).mapM fun i => uuids[i]?.map fun ua => newFighter (playerInfo ua) reward

def getPlayerPvpSng (pvpSng : PvpSng) (uuids : Fin 3 → List Opponent) : Option (NewPvpSng ε) := do
  let fighterList1 ← getPlayerInfoN playerInfo (pvpSng.reward 0) (uuids 0) (pvpSng.seq 0)
  let fighterList2 ← getPlayerInfoN playerInfo (pvpSng.reward 1) (uuids 1) (pvpSng.seq 1)
  let fighterList3 ← getPlayerInfoN playerInfo (pvpSng.reward 2) (uuids 2) (pvpSng.seq 2)
  return ⟨pvpSng.id, ![fighterList1, fighterList2, fighterList3]⟩

/-- `none` where the handler answers with an error or throws. -/
def getPvpSng (hash : PowerHash) (ua : UserArea) (power : Int) (draws : String → Nat) (draw : Fin 3 → List Nat) :
    Option (NewPvpSng ε) := do
  let pvpSng ← (← getSumPowerIds tables power draws)
  let pvpSngList ← hmget hash (getSearchPowerIdArray pvpSng)
  getPlayerPvpSng playerInfo pvpSng (opponents ua pvpSng pvpSngList draw)

end
end Tinygame.SngMatch
