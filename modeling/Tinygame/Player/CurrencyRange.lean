import Tinygame.Base.Run
import Tinygame.Base.RoundTrip
import Tinygame.Player.Currency

/-!
# The range of gold and diamonds

A sum that `addPlayerGold` or `addPlayerDiamond` lets through is in the range, whoever calls them. `addValue`
keeps the range when nothing negative is added; the amounts of `test_addValue` and of a mail are read from
what a client or a mail says.
-/

namespace Tinygame.Player
open Bag (Id Moment Failure require present require_ok present_ok)

def InRange (value : Int) : Prop := commonValueMin ≤ value ∧ value ≤ commonValueMax

/-- Gold and diamonds are in the range. -/
structure DataValue.Fine (data : DataValue) : Prop where
  gold : InRange data.gold
  diamond : InRange data.diamond

/-- What is stored is a number in the range. -/
def Amount.Fine (amount : Amount) : Prop := ∃ n, amount = some n ∧ InRange n

/-- What is read from the client or the mail is a number, and does not take away more than there is. -/
def Request.Harmless (data : DataValue) : Request → Prop
  | .test_addValue type value =>
    (type.same (.number useTypeAddGold) = true → 0 ≤ data.gold + checkValue value) ∧
      (type.same (.number useTypeAddDiamond) = true → 0 ≤ data.diamond + checkValue value)
  | .getMailAttach attach =>
    (∀ value, (attach.getD ∅).get? "gold" = some value → ∃ n, value.parseInt = some n ∧ 0 ≤ data.gold + n) ∧
      ∀ value, (attach.getD ∅).get? "diamond" = some value → ∃ n, value.parseInt = some n ∧ 0 ≤ data.diamond + n
  | _ => True

section
variable {data data' : DataValue} {value amount : Int} {code : Int}

/-! ### The helpers -/

theorem addValue_range (nonneg : 0 ≤ value) : InRange (addValue value) := by
  unfold addValue InRange commonValueMin commonValueMax
  split <;> omega

theorem addValue_range_iff : InRange (addValue value) ↔ 0 ≤ value := by
  refine ⟨fun range => ?_, addValue_range⟩
  unfold addValue InRange commonValueMin commonValueMax at range
  split at range <;> omega

/-- What it was given beside the gold stays. -/
theorem addPlayerGold_fine (fine : data.Fine) (gold : Amount) : (addPlayerGold gold data).2.Fine := by
  unfold addPlayerGold
  split
  · exact fine
  · dsimp only
    split
    · rename_i inside
      exact ⟨inside, fine.diamond⟩
    · exact fine

theorem addPlayerDiamond_fine (fine : data.Fine) (diamond : Amount) : (addPlayerDiamond diamond data).2.Fine := by
  unfold addPlayerDiamond
  split
  · exact fine
  · dsimp only
    split
    · rename_i inside
      exact ⟨fine.gold, inside⟩
    · exact fine

theorem paid_ok {paying : Amount × DataValue} (ok : paid code paying = .ok data') : paying.2 = data' := by
  obtain ⟨sum, data⟩ := paying
  unfold paid at ok
  split at ok
  · cases ok
  · cases ok
  · rename_i same
    cases same
    exact Except.ok.inj ok

theorem requireGold_range {baseInfo baseInfo' : Bag.BaseInfo} {gold : Int} (ok : Bag.requireGold gold baseInfo = .ok baseInfo') :
    InRange baseInfo'.gold := by
  unfold Bag.requireGold Bag.addPlayerGold at ok
  dsimp only at ok
  by_cases inside : 0 ≤ baseInfo.gold + gold ∧ baseInfo.gold + gold ≤ 999999999
  · rw [if_pos inside] at ok
    split at ok
    · cases ok
    · cases ok
    · rename_i same
      cases same
      obtain rfl := Except.ok.inj ok
      exact inside
  · rw [if_neg inside] at ok
    cases ok

/-! ### The handlers -/

variable {tables : Tables} {Drop : Id → Option DropRow} {userTeyp : Effects} {equipId itemID slotId isWin : Id}

theorem DataValue.Fine.setBagList (fine : data.Fine) (bagList : Bag.BagList) : (data.setBagList bagList).Fine :=
  ⟨fine.gold, fine.diamond⟩

theorem upgradeEquipStar_fine (fine : data.Fine) {ids : Fin 5 → Id} (ok : upgradeEquipStar tables data equipId ids = .ok data') :
    data'.Fine := by
  obtain ⟨bagList, -, ok⟩ := bind_ok.mp ok
  obtain ⟨_, -, ok⟩ := bind_ok.mp ok
  obtain ⟨equip, -, ok⟩ := bind_ok.mp ok
  obtain ⟨_, -, ok⟩ := bind_ok.mp ok
  obtain ⟨cost, -, ok⟩ := bind_ok.mp ok
  obtain ⟨_, -, ok⟩ := bind_ok.mp ok
  obtain ⟨data'', paying, ok⟩ := bind_ok.mp ok
  obtain rfl := Except.ok.inj ok
  obtain rfl := paid_ok paying
  exact (addPlayerGold_fine (fine.setBagList bagList) _).setBagList _

theorem splitEquip_fine (fine : data.Fine) {equipIdList : List Id} {moments : Nat → Nat → Nat → Moment}
    (ok : splitEquip tables data equipIdList moments = .ok data') : data'.Fine := by
  obtain ⟨split, splitting, ok⟩ := bind_ok.mp ok
  obtain rfl := Except.ok.inj ok
  obtain ⟨_, -, splitting⟩ := bind_ok.mp splitting
  obtain ⟨baseInfo, paying, splitting⟩ := bind_ok.mp splitting
  obtain rfl := Except.ok.inj splitting
  exact ⟨requireGold_range paying, fine.diamond⟩

theorem meltingEquip_fine (fine : data.Fine) {lequipId requipId attr : Id} {draw : Nat} {moments : Nat → Nat → Moment}
    (ok : meltingEquip tables data lequipId requipId attr draw moments = .ok data') : data'.Fine := by
  obtain ⟨melted, melting, ok⟩ := bind_ok.mp ok
  obtain rfl := Except.ok.inj ok
  obtain ⟨_, -, melting⟩ := bind_ok.mp melting
  obtain ⟨_, -, melting⟩ := bind_ok.mp melting
  obtain ⟨requip, -, melting⟩ := bind_ok.mp melting
  obtain ⟨⟨splitConfig, gold⟩, -, melting⟩ := bind_ok.mp melting
  obtain ⟨baseInfo, paying, melting⟩ := bind_ok.mp melting
  obtain ⟨lequip, -, melting⟩ := bind_ok.mp melting
  obtain ⟨equip, -, melting⟩ := bind_ok.mp melting
  obtain rfl := Except.ok.inj melting
  exact ⟨requireGold_range paying, fine.diamond⟩

theorem unlockBag_fine (fine : data.Fine) (ok : unlockBag tables data = .ok data') : data'.Fine := by
  obtain ⟨diamond, -, ok⟩ := bind_ok.mp ok
  obtain rfl := paid_ok ok
  exact addPlayerDiamond_fine (fine.setBagList _) _

theorem upgradeSkillSlot_fine (fine : data.Fine) (ok : upgradeSkillSlot data slotId = .ok data') : data'.Fine := by
  obtain ⟨level, -, ok⟩ := bind_ok.mp ok
  obtain ⟨_, -, ok⟩ := bind_ok.mp ok
  obtain ⟨data'', paying, ok⟩ := bind_ok.mp ok
  obtain rfl := Except.ok.inj ok
  obtain rfl := paid_ok paying
  have after := addPlayerGold_fine fine (some (-(100 + 800 * (level - 1))))
  exact ⟨after.gold, after.diamond⟩

theorem upgradeHeroStar_fine (fine : data.Fine) (ok : upgradeHeroStar tables data = .ok data') : data'.Fine := by
  obtain ⟨_, -, ok⟩ := bind_ok.mp ok
  obtain ⟨row, -, ok⟩ := bind_ok.mp ok
  obtain ⟨data'', paying, ok⟩ := bind_ok.mp ok
  obtain ⟨_, -, ok⟩ := bind_ok.mp ok
  obtain ⟨_, -, ok⟩ := bind_ok.mp ok
  obtain rfl := Except.ok.inj ok
  obtain rfl := paid_ok paying
  have after := addPlayerGold_fine fine (some (-row.gold))
  exact ⟨after.gold, after.diamond⟩

theorem washHero_fine (fine : data.Fine) {unlocked : Fin 5 → Bool} {pick draw : Nat}
    (ok : washHero tables data unlocked pick draw = .ok data') : data'.Fine := by
  obtain ⟨place, -, ok⟩ := bind_ok.mp ok
  obtain ⟨suits, -, ok⟩ := bind_ok.mp ok
  obtain ⟨_, -, ok⟩ := bind_ok.mp ok
  obtain ⟨_, -, ok⟩ := bind_ok.mp ok
  obtain rfl := Except.ok.inj ok
  have after := addPlayerDiamond_fine fine (some (-250 + 50 * ((List.finRange 5).filter unlocked).length))
  exact ⟨after.gold, after.diamond⟩

/-! ### Drops and items -/

theorem getPoolThing_fine (fine : data.Fine) (Item : Bag.ItemTable) (valueType : Id) (value : Nat) (moments : Nat → Moment)
    (record : DropRecord) : (getPoolThing Item valueType value moments data record).1.Fine := by
  have gold := fine.gold.1
  have diamond := fine.diamond.1
  unfold commonValueMin at gold diamond
  unfold getPoolThing
  dsimp only
  split
  · exact ⟨addValue_range (by omega), fine.diamond⟩
  split
  · exact ⟨fine.gold, addValue_range (by omega)⟩
  split
  · exact fine
  split
  · exact fine
  · exact fine.setBagList _

theorem dropPool_fine (fine : data.Fine) {Item : Bag.ItemTable} {id : Id} {draw : Nat} {moments : Nat → Nat → Moment}
    {dropped : DataValue × DropRecord} (ok : dropPool Item Drop id draw moments data = .ok dropped) : dropped.1.Fine := by
  obtain ⟨row, -, ok⟩ := bind_ok.mp ok
  have all : (row.foreverDrop.zipIdx.foldl (fun (dropped : DataValue × DropRecord) thing =>
      getPoolThing Item thing.1.1 thing.1.2 (moments thing.2) dropped.1 dropped.2) (data, ⟨0, 0, 0, ⟨none, none⟩⟩)).1.Fine :=
    List.foldlRecOn (motive := fun dropped : DataValue × DropRecord => dropped.1.Fine) _ _ fine
      fun dropped before thing _ => getPoolThing_fine before Item thing.1.1 thing.1.2 (moments thing.2) dropped.2
  dsimp only at ok
  split at ok
  · exact Except.ok.inj ok ▸ all
  · split at ok
    · exact Except.ok.inj ok ▸ all
    · cases ok

theorem useEffect_fine (fine : data.Fine) {Item : Bag.ItemTable} {draw : Nat} {moments : Nat → Nat → Moment} {effect : Int × Id}
    (gives : 0 ≤ checkValue effect.2) (ok : useEffect Item Drop draw moments data effect = .ok data') : data'.Fine := by
  have gold := fine.gold.1
  have diamond := fine.diamond.1
  unfold commonValueMin at gold diamond
  unfold useEffect at ok
  dsimp only at ok
  split at ok
  · obtain rfl := Except.ok.inj ok
    exact ⟨addValue_range (by omega), fine.diamond⟩
  split at ok
  · obtain rfl := Except.ok.inj ok
    exact ⟨fine.gold, addValue_range (by omega)⟩
  split at ok
  · split at ok
    · rename_i dropped dropping
      exact Except.ok.inj ok ▸ dropPool_fine fine dropping
    · cases ok
    · cases ok
  · exact Except.ok.inj ok ▸ fine

theorem useItem_fine (fine : data.Fine) {Item : Bag.ItemTable} {draws : Nat → Nat} {moments : Nat → Nat → Nat → Moment}
    (ok : useItem Item Drop userTeyp data itemID draws moments = .ok data') : data'.Fine := by
  obtain ⟨_, -, ok⟩ := bind_ok.mp ok
  obtain ⟨useType, listed, ok⟩ := bind_ok.mp ok
  obtain ⟨_, -, ok⟩ := bind_ok.mp ok
  obtain ⟨_, -, ok⟩ := bind_ok.mp ok
  have gives := userTeyp.gives itemID useType (present_ok.mp listed)
  refine foldlM_keeps DataValue.Fine (fun data data' effect member fine step => ?_) (fine.setBagList _) ok
  exact useEffect_fine fine (gives effect.1 (List.fst_mem_of_mem_zipIdx member)) step

/-! ### The others -/

theorem test_addValue_fine_iff (fine : data.Fine) {type value : Id} :
    (test_addValue data type value).Fine ↔ (Request.test_addValue type value).Harmless data := by
  unfold test_addValue Request.Harmless
  split
  · rename_i isGold
    have notDiamond : ¬ type.same (.number useTypeAddDiamond) = true := by
      cases type <;> simp_all [Id.same, useTypeAddGold, useTypeAddDiamond]
    refine ⟨fun after => ⟨fun _ => addValue_range_iff.mp after.gold, fun isDiamond => absurd isDiamond notDiamond⟩, fun harmless => ?_⟩
    exact ⟨addValue_range_iff.mpr (harmless.1 isGold), fine.diamond⟩
  · rename_i notGold
    split
    · rename_i isDiamond
      refine ⟨fun after => ⟨fun isGold => absurd isGold notGold, fun _ => addValue_range_iff.mp after.diamond⟩, fun harmless => ?_⟩
      exact ⟨fine.gold, addValue_range_iff.mpr (harmless.2 isDiamond)⟩
    · rename_i notDiamond
      exact ⟨fun _ => ⟨fun isGold => absurd isGold notGold, fun isDiamond => absurd isDiamond notDiamond⟩, fun _ => fine⟩

theorem creditValue_fine_iff (range : InRange value) {amount : Option Id} : Amount.Fine (creditValue value amount) ↔
    ∀ given, amount = some given → ∃ n, given.parseInt = some n ∧ 0 ≤ value + n := by
  cases amount with
  | none =>
    refine ⟨fun _ given none => ?_, fun _ => ⟨value, rfl, range⟩⟩
    cases none
  | some given =>
    unfold creditValue
    dsimp only
    cases read : given.parseInt with
    | none =>
      refine ⟨fun fine => ?_, fun harmless => ?_⟩
      · obtain ⟨_, none, -⟩ := fine
        cases none
      · obtain ⟨n, number, -⟩ := harmless given rfl
        cases read.symm.trans number
    | some n =>
      refine ⟨fun fine given' same => ?_, fun harmless => ?_⟩
      · obtain rfl := Option.some.inj same
        obtain ⟨sum, added, inside⟩ := fine
        obtain rfl := Option.some.inj added
        exact ⟨n, read, addValue_range_iff.mp inside⟩
      · obtain ⟨n', number, nonneg⟩ := harmless given rfl
        obtain rfl := Option.some.inj (read.symm.trans number)
        exact ⟨_, rfl, addValue_range nonneg⟩

theorem getPvpDayF8Result_fine (fine : data.Fine) {uuid : String} {finalSort : List String} {paidOut : Bool}
    (ok : getPvpDayF8Result data uuid finalSort paidOut = .ok data') : data'.Fine := by
  unfold getPvpDayF8Result at ok
  split at ok
  · exact Except.ok.inj ok ▸ fine
  · cases ok

theorem afkProfit_fine (fine : data.Fine) {Afkreward : String → Option AfkRow} {resourceID : Option String} {isOffline : Bool}
    {sinceProAfkTime : Int} (ok : afkProfit Afkreward data resourceID isOffline sinceProAfkTime isWin = .ok data') : data'.Fine := by
  obtain ⟨gold, -, ok⟩ := bind_ok.mp ok
  exact Except.ok.inj ok ▸ addPlayerGold_fine fine _

/-! ### All of them -/

theorem numbers_fine : Amount.Fine (handle.numbers data).1 ∧ Amount.Fine (handle.numbers data).2 ↔ data.Fine := by
  refine ⟨fun both => ?_, fun fine => ⟨⟨_, rfl, fine.gold⟩, _, rfl, fine.diamond⟩⟩
  obtain ⟨⟨_, gold, inside⟩, _, diamond, inside'⟩ := both
  cases gold
  cases diamond
  exact ⟨inside, inside'⟩

end

/-! ### Two requests -/

def noTables : Tables where
  Item := Bag.ItemTable.none
  isStone _ := false
  eqStar _ := none
  starCost _ := none
  outside _ := false
  Unlock _ := none
  HeroStar _ := none
  suits _ _ := none
  Afkreward _ := none

def noEffects : Effects := ⟨fun _ => none, fun _ _ listed => by cases listed⟩

/-- A player with ten pieces of gold. -/
def tenGold : DataValue := ⟨⟨⟨10, ∅⟩, ⟨100, ∅, ∅⟩⟩, 0, ⟨"10013", 0, ∅, fun _ => 0⟩⟩

theorem tenGold_fine : tenGold.Fine := ⟨⟨by decide, by decide⟩, by decide, by decide⟩

theorem not_fine_below : ¬ Amount.Fine (some (-90)) := by
  rintro ⟨n, same, inside, -⟩
  obtain rfl := Option.some.inj same
  exact absurd inside (by decide)

theorem not_fine_nan : ¬ Amount.Fine none := by
  rintro ⟨n, same, -⟩
  cases same

end Tinygame.Player
