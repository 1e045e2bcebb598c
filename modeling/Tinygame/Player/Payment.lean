import Tinygame.Player.CurrencyRange

/-!
# Paying for upgrades

Four handlers take a price from a balance. `addPlayerGold` and `addPlayerDiamond` answer with the new balance, or null
when they refuse, and the handlers ask whether the answer is true: a balance of zero is taken for a refusal.
-/

namespace Tinygame.Player
open Bag (Id BagList Failure require present)

inductive Purchase
  | upgradeEquipStar (equipId : Id) (ids : Fin 5 → Id)
  | upgradeSkillSlot (slotId : Id)
  | upgradeHeroStar
  | unlockBag

def buy (tables : Tables) (data : DataValue) : Purchase → Except Failure DataValue
  | .upgradeEquipStar equipId ids => upgradeEquipStar tables data equipId ids
  | .upgradeSkillSlot slotId => upgradeSkillSlot data slotId
  | .upgradeHeroStar => upgradeHeroStar tables data
  | .unlockBag => unlockBag tables data

/-! ### What is meant -/

/-- A purchase whose other conditions hold: what it costs, what there is to pay with, and what is there afterwards. -/
structure Offer where
  price : Int
  balance : Int
  after : DataValue

def takeItems (row : Bag.UnlockRow) (items : Int) (bagList : BagList) : Bool × BagList :=
  if 0 < items then Bag.delItem row.itemId items bagList else (true, bagList)

section
variable (tables : Tables) (data : DataValue)

/-- The stones are taken, and the equip is one star better. -/
def offerEquipStar (equipId : Id) (ids : Fin 5 → Id) : Option Offer := do
  let bagList ← (((List.finRange 5).map ids).foldlM (takeStone tables) data.bagList).toOption
  let equip ← bagList.equipList.get? equipId.name
  let price ← tables.starCost (equip.star + 1)
  if Bag.getItemNum equipId bagList = 0 ∨ equipStarLevelLimit ≤ equip.star then none
  else some ⟨price, data.gold, (data.setGold (data.gold - price)).setBagList { bagList with
    equipList := bagList.equipList.set equipId.name { equip with star := equip.star + 1, index := some equipId } }⟩

def offerSkillSlot (slotId : Id) : Option Offer := do
  let level ← data.heroInfo.skillSlotList.get? slotId.name
  let price := 100 + 800 * (level - 1)
  if skillSlotLevelLimit ≤ level then none
  else some ⟨price, data.gold, { data.setGold (data.gold - price) with
    heroInfo := { data.heroInfo with skillSlotList := data.heroInfo.skillSlotList.set slotId.name (level + 1) } }⟩

/-- The items are taken, and the hero is one star better. -/
def offerHeroStar : Option Offer := do
  let star := data.heroInfo.star
  let row ← tables.HeroStar (star + 1)
  let deleted := Bag.delItem row.itemId row.itemNum data.bagList
  if star < 0 ∨ heroStarLevelLimit ≤ star ∨ deleted.1 = false then none
  else some ⟨row.gold, data.gold, { (data.setGold (data.gold - row.gold)).setBagList deleted.2 with
    heroInfo := { data.heroInfo with star := star + 1 } }⟩

/-- As many of the row's items as there are are taken, and the rest costs diamonds. The bag is twice as large. -/
def offerUnlock : Option Offer := do
  let bagList := data.bagList
  let row ← tables.Unlock (bagList.max.tdiv 1000)
  let items := min (Bag.getItemNum row.itemId bagList) row.itemNo
  let taken := takeItems row items bagList
  let price := (row.itemNo - items) * row.price
  if taken.1 = false ∨ bagList.max = 0 then none
  else some ⟨price, data.diamond, (data.setBagList { taken.2 with max := bagList.max * 2 }).setDiamond (data.diamond - price)⟩

def offer : Purchase → Option Offer
  | .upgradeEquipStar equipId ids => offerEquipStar tables data equipId ids
  | .upgradeSkillSlot slotId => offerSkillSlot data slotId
  | .upgradeHeroStar => offerHeroStar tables data
  | .unlockBag => offerUnlock tables data

end

/-- The price is paid and the goods are there, or it is too high and nothing is stored. -/
def PaysExactly (offer : Offer) (result : Except Failure DataValue) : Prop :=
  (offer.price ≤ offer.balance → result = .ok offer.after) ∧
    (offer.balance < offer.price → ∃ failure, result = .error failure)

/-- `upgradeEquipStar` takes a price of zero for a missing one. -/
def Purchase.mustCost : Purchase → Bool
  | .upgradeEquipStar .. => true
  | _ => false

/-- Who can pay has something left, not more than there may be, and the price is none that is taken for missing. -/
def Payable (purchase : Purchase) (offer : Offer) : Prop :=
  offer.price ≤ offer.balance → offer.price ≠ offer.balance ∧ offer.balance - offer.price ≤ commonValueMax ∧
    (purchase.mustCost = true → offer.price ≠ 0)

variable {tables : Tables} {data after : DataValue} {price : Int} {code : Int}

/-! ### The helpers -/

/-- A sum in the range is paid unless it is zero. -/
theorem paid_sum (price balance : Int) (code : Int) (data after : DataValue) :
    paid code (if commonValueMin ≤ balance - price ∧ balance - price ≤ commonValueMax then (some (balance - price), after)
      else (none, data)) =
      if price < balance ∧ balance - price ≤ commonValueMax then .ok after else .error (.retCode code) := by
  unfold commonValueMin
  by_cases range : 0 ≤ balance - price ∧ balance - price ≤ commonValueMax
  · rw [if_pos range]
    by_cases left : balance - price = 0
    · rw [left, if_neg (by omega)]
      rfl
    · rw [if_pos (by omega)]
      unfold paid
      split
      · rename_i none_
        cases none_
      · rename_i zero
        injection zero with zero _
        exact absurd (Option.some.inj zero) left
      · rename_i same
        injection same with _ same
        rw [same]
  · rw [if_neg range, if_neg (by omega)]
    rfl

theorem paid_gold (price : Int) (code : Int) (data : DataValue) :
    paid code (addPlayerGold (some (-price)) data) =
      if price < data.gold ∧ data.gold - price ≤ commonValueMax then .ok (data.setGold (data.gold - price))
      else .error (.retCode code) := paid_sum price data.gold code data _

theorem paid_diamond (price : Int) (code : Int) (data : DataValue) :
    paid code (addPlayerDiamond (some (-price)) data) =
      if price < data.diamond ∧ data.diamond - price ≤ commonValueMax then .ok (data.setDiamond (data.diamond - price))
      else .error (.retCode code) := paid_sum price data.diamond code data _

/-- What follows a payment that goes through. -/
theorem ite_bind {α β : Type} {holds : Prop} [Decidable holds] {failure : Failure} {a : α} {b : β} {next : α → Except Failure β}
    (later : next a = .ok b) :
    ((if holds then .ok a else .error failure) >>= next) = if holds then .ok b else .error failure := by
  split
  · exact later
  · rfl

theorem require_bind {β : Type} {holds : Prop} [Decidable holds] {failure : Failure} {next : Unit → Except Failure β} (h : holds) :
    (require holds failure >>= next) = next () := by
  unfold require
  rw [if_pos h]
  rfl

variable {purchase : Purchase} {o : Offer} {result : Except Failure DataValue}

/-- Whoever answers so pays exactly as long as the purchase is payable. -/
theorem paysExactly_of_answer (failure : Failure)
    (answer : result = if o.price < o.balance ∧ o.balance - o.price ≤ commonValueMax ∧ (purchase.mustCost = true → o.price ≠ 0)
      then .ok o.after else .error failure) :
    PaysExactly o result ↔ Payable purchase o := by
  rw [answer]
  constructor
  · intro exactly enough
    have bought := exactly.1 enough
    split at bought
    · rename_i condition
      exact ⟨by omega, condition.2⟩
    · cases bought
  · intro payable
    refine ⟨fun enough => ?_, fun dear => ⟨failure, if_neg (by omega)⟩⟩
    obtain ⟨left, rest⟩ := payable enough
    exact if_pos ⟨by omega, rest⟩

/-! ### The handlers -/

theorem upgradeSkillSlot_answer {slotId : Id} (offered : offerSkillSlot data slotId = some o) :
    upgradeSkillSlot data slotId =
      if o.price < o.balance ∧ o.balance - o.price ≤ commonValueMax then .ok o.after else .error (.retCode 400) := by
  obtain ⟨level, found, offered⟩ := Option.bind_eq_some_iff.mp offered
  split at offered
  · cases offered
  rename_i below
  obtain rfl := Option.some.inj offered
  unfold upgradeSkillSlot
  rw [found]
  refine (require_bind (by omega)).trans ?_
  rw [paid_gold]
  exact ite_bind rfl

theorem upgradeHeroStar_answer (offered : offerHeroStar tables data = some o) :
    upgradeHeroStar tables data =
      if o.price < o.balance ∧ o.balance - o.price ≤ commonValueMax then .ok o.after else .error (.retCode 400) := by
  obtain ⟨row, found, offered⟩ := Option.bind_eq_some_iff.mp offered
  dsimp only at offered
  split at offered
  · cases offered
  rename_i allowed
  obtain ⟨positive, allowed⟩ := not_or.mp allowed
  obtain ⟨below, taken⟩ := not_or.mp allowed
  obtain rfl := Option.some.inj offered
  unfold upgradeHeroStar
  refine (require_bind (by omega)).trans ?_
  rw [found]
  show (paid 400 (addPlayerGold (some (-row.gold)) data) >>= fun _ => _) = _
  rw [paid_gold]
  apply ite_bind
  refine (require_bind (Bool.eq_true_of_not_eq_false taken)).trans ?_
  exact require_bind (by omega)

theorem upgradeEquipStar_answer {equipId : Id} {ids : Fin 5 → Id} (offered : offerEquipStar tables data equipId ids = some o) :
    upgradeEquipStar tables data equipId ids =
      if o.price < o.balance ∧ o.balance - o.price ≤ commonValueMax ∧ o.price ≠ 0 then .ok o.after
      else .error (.retCode 1501) := by
  obtain ⟨bagList, stones, offered⟩ := Option.bind_eq_some_iff.mp offered
  obtain ⟨equip, held, offered⟩ := Option.bind_eq_some_iff.mp offered
  obtain ⟨price, priced, offered⟩ := Option.bind_eq_some_iff.mp offered
  split at offered
  · cases offered
  rename_i allowed
  obtain ⟨there, below⟩ := not_or.mp allowed
  obtain rfl := Option.some.inj offered
  have stones : ((List.finRange 5).map ids).foldlM (takeStone tables) data.bagList = .ok bagList := by
    cases taken : ((List.finRange 5).map ids).foldlM (takeStone tables) data.bagList with
    | error failure =>
      rw [taken] at stones
      cases stones
    | ok taken' =>
      rw [taken] at stones
      exact congrArg Except.ok (Option.some.inj stones)
  unfold upgradeEquipStar
  rw [stones]
  refine (require_bind there).trans ?_
  rw [held]
  refine (require_bind (by omega)).trans ?_
  rw [priced]
  show (require (price ≠ 0) (.retCode 1501) >>= fun _ => _) = _
  by_cases free : price = 0
  · unfold require
    rw [if_neg (by simpa using free), if_neg (by simp [free])]
    rfl
  · refine (require_bind free).trans ?_
    rw [paid_gold]
    have costs : (price : Int) ≠ 0 := by omega
    have condition : (price : Int) < data.gold ∧ data.gold - price ≤ commonValueMax ↔
        (price : Int) < data.gold ∧ data.gold - price ≤ commonValueMax ∧ (price : Int) ≠ 0 :=
      ⟨fun both => ⟨both.1, both.2, costs⟩, fun all => ⟨all.1, all.2.1⟩⟩
    refine Eq.trans ?_ (if_congr condition rfl rfl)
    exact ite_bind rfl

theorem expandBagCapacity_some {row : Bag.UnlockRow} {items : Int} {bagList : BagList} (taken : (takeItems row items bagList).1 = true) :
    Bag.expandBagCapacity row.itemId items bagList =
      (some (bagList.max * 2), { (takeItems row items bagList).2 with max := bagList.max * 2 }) := by
  unfold takeItems at taken ⊢
  unfold Bag.expandBagCapacity
  dsimp only
  rw [taken]
  rfl

/-- What is missing of the items costs diamonds. -/
theorem unlockBag_taken {row : Bag.UnlockRow} {bagList : BagList} (found : tables.Unlock (bagList.max.tdiv 1000) = some row)
    (taken : (takeItems row (min (Bag.getItemNum row.itemId bagList) row.itemNo) bagList).1 = true) (wide : bagList.max ≠ 0) :
    Bag.unlockBag tables.Unlock bagList =
      (some (-((row.itemNo - min (Bag.getItemNum row.itemId bagList) row.itemNo) * row.price)),
        { (takeItems row (min (Bag.getItemNum row.itemId bagList) row.itemNo) bagList).2 with max := bagList.max * 2 }) := by
  unfold Bag.unlockBag
  rw [found]
  have expanded := expandBagCapacity_some taken
  by_cases enough : Bag.getItemNum row.itemId bagList ≥ row.itemNo
  · rw [min_eq_right enough] at expanded ⊢
    dsimp only
    rw [if_pos enough]
    dsimp only
    rw [expanded]
    simp [wide]
  · rw [min_eq_left (by omega)] at expanded ⊢
    dsimp only
    rw [if_neg enough]
    dsimp only
    rw [expanded]
    simp [wide]

theorem unlockBag_answer (offered : offerUnlock tables data = some o) :
    unlockBag tables data =
      if o.price < o.balance ∧ o.balance - o.price ≤ commonValueMax then .ok o.after else .error (.retCode 1104) := by
  obtain ⟨row, found, offered⟩ := Option.bind_eq_some_iff.mp offered
  dsimp only at offered
  split at offered
  · cases offered
  rename_i allowed
  obtain ⟨taken, wide⟩ := not_or.mp allowed
  obtain rfl := Option.some.inj offered
  unfold unlockBag
  rw [unlockBag_taken found (Bool.eq_true_of_not_eq_false taken) wide]
  exact paid_diamond ..

/-! ### All four -/

/-- **Paying**: when all else is fine, exactly the price is paid, unless it is the whole balance, or zero for a star of an
equip. -/
theorem paysExactly_iff (offered : offer tables data purchase = some o) :
    PaysExactly o (buy tables data purchase) ↔ Payable purchase o := by
  cases purchase with
  | upgradeEquipStar equipId ids =>
    apply paysExactly_of_answer (.retCode 1501)
    refine (upgradeEquipStar_answer offered).trans (if_congr ?_ rfl rfl)
    simp [Purchase.mustCost]
  | upgradeSkillSlot slotId =>
    apply paysExactly_of_answer (.retCode 400)
    refine (upgradeSkillSlot_answer offered).trans (if_congr ?_ rfl rfl)
    simp [Purchase.mustCost]
  | upgradeHeroStar =>
    apply paysExactly_of_answer (.retCode 400)
    refine (upgradeHeroStar_answer offered).trans (if_congr ?_ rfl rfl)
    simp [Purchase.mustCost]
  | unlockBag =>
    apply paysExactly_of_answer (.retCode 1104)
    refine (unlockBag_answer offered).trans (if_congr ?_ rfl rfl)
    simp [Purchase.mustCost]

/-! ### The last piece of gold -/

/-- A player with one skill slot of the first level, and that much gold. -/
def firstSlot (gold : Int) : DataValue :=
  ⟨⟨⟨gold, ∅⟩, ⟨100, ∅, ∅⟩⟩, 0, ⟨"10013", 0, Obj.set ∅ "1" 1, fun _ => 0⟩⟩

def firstSlotBetter (gold : Int) : DataValue :=
  ⟨⟨⟨gold, ∅⟩, ⟨100, ∅, ∅⟩⟩, 0, ⟨"10013", 0, (Obj.set ∅ "1" 1).set "1" 2, fun _ => 0⟩⟩

theorem paysExactly_iff_slot :
    PaysExactly ⟨100, 101, firstSlotBetter 1⟩ (buy noTables (firstSlot 101) (.upgradeSkillSlot (.text "1"))) := by
  have offered : offer noTables (firstSlot 101) (.upgradeSkillSlot (.text "1")) = some ⟨100, 101, firstSlotBetter 1⟩ := rfl
  apply (paysExactly_iff offered).mpr
  intro _
  exact ⟨by decide, by decide, fun costs => by cases costs⟩

/-- A hundred of a hundred cannot be paid. -/
theorem last_gold_refused :
    offer noTables (firstSlot 100) (.upgradeSkillSlot (.text "1")) = some ⟨100, 100, firstSlotBetter 0⟩ ∧
      ¬PaysExactly ⟨100, 100, firstSlotBetter 0⟩ (buy noTables (firstSlot 100) (.upgradeSkillSlot (.text "1"))) := by
  refine ⟨rfl, fun exactly => ?_⟩
  have bought := exactly.1 (by decide)
  have refused : buy noTables (firstSlot 100) (.upgradeSkillSlot (.text "1")) = .error (.retCode 400) := rfl
  cases refused.symm.trans bought

end Tinygame.Player
