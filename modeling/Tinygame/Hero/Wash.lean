import Tinygame.Bag.Amounts
import Tinygame.Player.CurrencyRange

/-!
# Washing a hero

`washHeroInfo` of `hero_handle.js` takes the diamonds for the locked slots with `addPlayerDiamond`, and does not ask
whether it took them.
-/

namespace Tinygame.Player
open Bag (Id BagList Failure require present Moved just)

/-! ### Locks -/

/-- The digits of `parseInt(text, 0)` after the sign: hexadecimal after `0x`. -/
def autoDigits (chars : List Char) : Option Nat :=
  let (base, chars) := match chars with
    | '0' :: 'x' :: rest | '0' :: 'X' :: rest => (16, rest)
    | _ => (10, chars)
  let digits := chars.takeWhile fun c => c.isDigit || base == 16 && (c.toLower.isAlpha && c.toLower ≤ 'f')
  if digits = [] then none
  else some (digits.foldl (fun n c => base * n + (if c.isDigit then c.toNat - '0'.toNat else c.toLower.toNat - 'a'.toNat + 10)) 0)

/-- `parseInt(lock, 0) === 0`. -/
def readsZero (lock : Id) : Bool :=
  let chars := lock.name.toList.dropWhile Char.isWhitespace
  let chars := match chars with
    | '-' :: rest | '+' :: rest => rest
    | _ => chars
  autoDigits chars = some 0

section
variable (tables : Tables) (data : DataValue) (locks : Fin 5 → Id) (pick draw : Nat)

def washHeroInfo : Except Failure DataValue := washHero tables data (fun k => readsZero (locks k)) pick draw

/-- A request that fails stores nothing. -/
def afterWash : DataValue :=
  match washHeroInfo tables data locks pick draw with
  | .ok after => after
  | .error _ => data

/-! ### What is meant -/

def price : Int := 50 * ((List.finRange 5).filter fun k => !readsZero (locks k)).length

/-- The slot that is drawn. -/
def picked : Option (Fin 5) :=
  let pos := (List.finRange 5).filter fun k => readsZero (locks k)
  pos[pick % pos.length]?

structure Washed (after : DataValue) : Prop where
  diamond : after.diamond = data.diamond - price locks
  baseInfo : after.player.baseInfo = data.player.baseInfo
  item : Moved [washItem.name] [] (just washItem.name (-1)) data.bagList after.bagList
  slot : ∃ place suits, readsZero (locks place) = true ∧ tables.suits data.heroInfo.heroId place = some suits ∧
    after.heroInfo = { data.heroInfo with suitIds := Function.update data.heroInfo.suitIds place (suits draw) }

/-- A success is paid for, and who cannot pay has no success and everything as it was. -/
def WashRight : Prop :=
  (∀ after, washHeroInfo tables data locks pick draw = .ok after → Washed tables data locks draw after ∧
    afterWash tables data locks pick draw = after) ∧
  (data.diamond < price locks ∨ Bag.getItemNum washItem data.bagList ≤ 0 →
    (∃ failure, washHeroInfo tables data locks pick draw = .error failure) ∧ afterWash tables data locks pick draw = data)

/-- A slot is open, its suits are known, and there is an item. -/
def Washable : Prop :=
  (∃ place suits, picked locks pick = some place ∧ tables.suits data.heroInfo.heroId place = some suits) ∧
    0 < Bag.getItemNum washItem data.bagList

end

variable {tables : Tables} {data after : DataValue} {locks : Fin 5 → Id} {pick draw : Nat}

/-! ### What is done -/

theorem price_eq (locks : Fin 5 → Id) :
    -250 + 50 * (((List.finRange 5).filter fun k => readsZero (locks k)).length : Int) = -price locks := by
  have split := List.length_eq_countP_add_countP (fun k => readsZero (locks k)) (l := List.finRange 5)
  rw [List.countP_eq_length_filter, List.countP_eq_length_filter, List.length_finRange] at split
  unfold price
  simp only [Bool.not_eq_true, Bool.decide_eq_false] at split
  omega

theorem delItem_of_num {index : Id} {bagList : BagList} (there : 0 < Bag.getItemNum index bagList) :
    (Bag.delItem index 1 bagList).1 = true := by
  unfold Bag.getItemNum at there
  unfold Bag.delItem
  grind

/-- The hero, the diamonds and the bag of a success. -/
def washed (data : DataValue) (locks : Fin 5 → Id) (place : Fin 5) (suit : Int) : DataValue :=
  { ((addPlayerDiamond (some (-price locks)) data).2.setBagList (Bag.delItem washItem 1 data.bagList).2) with
    heroInfo := { data.heroInfo with suitIds := Function.update data.heroInfo.suitIds place suit } }

theorem addPlayerDiamond_snd (diamond : Int) (data : DataValue) : (addPlayerDiamond (some diamond) data).2 =
    if commonValueMin ≤ data.diamond + diamond ∧ data.diamond + diamond ≤ commonValueMax
      then data.setDiamond (data.diamond + diamond) else data := by
  unfold addPlayerDiamond
  dsimp only
  split <;> rfl

theorem addPlayerDiamond_frame (diamond : Int) (data : DataValue) :
    (addPlayerDiamond (some diamond) data).2.player = data.player ∧ (addPlayerDiamond (some diamond) data).2.heroInfo = data.heroInfo := by
  rw [addPlayerDiamond_snd]
  split <;> exact ⟨rfl, rfl⟩

/-- Three things are asked for, and the diamonds are none of them. -/
theorem washHeroInfo_ok : washHeroInfo tables data locks pick draw = .ok after ↔
    ∃ place suits, picked locks pick = some place ∧ tables.suits data.heroInfo.heroId place = some suits ∧
      0 < Bag.getItemNum washItem data.bagList ∧ after = washed data locks place (suits draw) := by
  obtain ⟨player, hero⟩ := addPlayerDiamond_frame (-price locks) data
  have bag : (addPlayerDiamond (some (-price locks)) data).2.bagList = data.bagList := by
    unfold DataValue.bagList
    rw [player]
  unfold washHeroInfo washHero
  dsimp only
  rw [price_eq, hero]
  constructor
  · intro ok
    obtain ⟨place, found, ok⟩ := bind_ok.mp ok
    obtain ⟨suits, known, ok⟩ := bind_ok.mp ok
    obtain ⟨_, there, ok⟩ := bind_ok.mp ok
    obtain ⟨_, -, ok⟩ := bind_ok.mp ok
    have bagged : (addPlayerDiamond (some (-price locks)) data).2.player.bagList = data.bagList := bag
    refine ⟨place, suits, Bag.present_ok.mp found, Bag.present_ok.mp known, ?_, ?_⟩
    · have positive := Bag.require_ok.mp there
      unfold DataValue.bagList at positive
      dsimp only at positive
      rw [player] at positive
      exact positive
    · rw [← Except.ok.inj ok]
      unfold washed DataValue.setBagList DataValue.bagList
      dsimp only
      rw [player]
  · rintro ⟨place, suits, found, known, there, rfl⟩
    have kept : (addPlayerDiamond (some (-price locks)) data).2.player.bagList = data.player.bagList := by rw [player]
    apply bind_ok.mpr
    refine ⟨place, Bag.present_ok.mpr found, bind_ok.mpr ⟨suits, Bag.present_ok.mpr known, ?_⟩⟩
    unfold DataValue.bagList at there ⊢
    dsimp only
    rw [kept]
    refine bind_ok.mpr ⟨(), Bag.require_ok.mpr there, bind_ok.mpr ⟨(), Bag.require_ok.mpr (delItem_of_num there), ?_⟩⟩
    unfold washed DataValue.setBagList DataValue.bagList
    dsimp only
    rw [player]
    rfl

theorem afterWash_ok (ok : washHeroInfo tables data locks pick draw = .ok after) : afterWash tables data locks pick draw = after := by
  unfold afterWash
  rw [ok]

theorem washHeroInfo_error (none_ : ∀ after, washHeroInfo tables data locks pick draw ≠ .ok after) :
    (∃ failure, washHeroInfo tables data locks pick draw = .error failure) ∧ afterWash tables data locks pick draw = data := by
  unfold afterWash
  cases result : washHeroInfo tables data locks pick draw with
  | ok after => exact absurd result (none_ after)
  | error failure => exact ⟨⟨failure, rfl⟩, rfl⟩

/-! ### Who pays -/

theorem washed_of_paid {place : Fin 5} {suits : Nat → Int} (found : picked locks pick = some place)
    (known : tables.suits data.heroInfo.heroId place = some suits) (there : 0 < Bag.getItemNum washItem data.bagList)
    (paid : (washed data locks place (suits draw)).diamond = data.diamond - price locks) :
    Washed tables data locks draw (washed data locks place (suits draw)) where
  diamond := paid
  baseInfo := by
    unfold washed DataValue.setBagList
    dsimp only
    rw [(addPlayerDiamond_frame (-price locks) data).1]
  item := Bag.delItem_moved (delItem_of_num there)
  slot := by
    have open_ := List.mem_of_getElem? found
    rw [List.mem_filter] at open_
    exact ⟨place, suits, open_.2, known, rfl⟩

theorem washed_diamond (data : DataValue) (locks : Fin 5 → Id) (place : Fin 5) (suit : Int) :
    (washed data locks place suit).diamond = if 0 ≤ data.diamond - price locks ∧ data.diamond - price locks ≤ commonValueMax
      then data.diamond - price locks else data.diamond := by
  unfold washed
  change (addPlayerDiamond (some (-price locks)) data).2.diamond = _
  rw [addPlayerDiamond_snd, ← Int.sub_eq_add_neg]
  unfold commonValueMin
  split <;> rfl

/-- One wash item, no diamonds. -/
def poor : DataValue where
  player := ⟨Bag.createRobotBaseInfo 0, ⟨100, (∅ : Obj Bag.ItemCell).set "15501" ⟨1⟩, ∅⟩⟩
  diamond := 0
  heroInfo := ⟨"10013", 1, ∅, fun _ => 0⟩

def oneSuit : Tables := { noTables with suits := fun _ _ => some fun _ => 1101 }

def firstLocked (k : Fin 5) : Id := .number (if k.val = 0 then 1 else 0)

end Tinygame.Player
