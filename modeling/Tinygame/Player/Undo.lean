import Tinygame.Bag.Melting
import Tinygame.Player.Derived

/-!
# Undoing a melting

`dealAttrInEquip` and `rvdealAttrInEquip` of `equip_handle.js` on the equips of a bag. The first saves the pair it
writes over, in three fields of the equip, and the second writes it back.
-/

namespace Tinygame.Player
open Bag (Id BagList EquipInfo OnlyPair)
open Bag.EquipInfo (pair?)

def equipAttrMin : Int := 1
def equipAttrMax : Int := 4

/-- `attr < EQUIP_ATTR_MIN || attr > EQUIP_ATTR_MAX` for a number. -/
def outsideRange (other : Id → Bool) : Id → Bool
  | .number attr => attr < equipAttrMin || attr > equipAttrMax
  | attr => other attr

section
variable (outside : Id → Bool) (bagList : BagList) (lequipId requipId equipId attr : Id) (draw : Nat)

def putEquip (equip : EquipInfo) : BagList := { bagList with equipList := bagList.equipList.set equipId.name equip }

def dealAttrInBag : Option BagList := do
  let lequip ← bagList.equipList.get? lequipId.name
  let requip ← bagList.equipList.get? requipId.name
  let equip ← Bag.dealAttrInEquip outside lequip requip attr draw
  return putEquip bagList lequipId equip

def rvdealAttrInBag : Option BagList := do
  let equip ← bagList.equipList.get? equipId.name
  let equip ← rvdealAttrInEquip equip
  return putEquip bagList equipId equip

end

/-- The bags have the same stacks and room, and the same equips but for one. -/
structure SameBut (name : String) (before after : BagList) : Prop where
  max : after.max = before.max
  itemList : after.itemList = before.itemList
  equipList : ∀ other, other ≠ name → after.equipList.get? other = before.equipList.get? other

/-- Pair `j` of the left equip is one of the right equip's, undoing brings the pairs back, and undoing again changes nothing. -/
structure Undone (outside : Id → Bool) (bagList : BagList) (lequipId requipId attr : Id) (draw : Nat) (j : Fin 4)
    (lequip requip : EquipInfo) (melted undone again : BagList) (lequip' lequip'' : EquipInfo) : Prop where
  melts : dealAttrInBag outside bagList lequipId requipId attr draw = some melted
  others : SameBut lequipId.name bagList melted
  left : melted.equipList.get? lequipId.name = some lequip'
  right : melted.equipList.get? requipId.name = some requip
  pair : ∃ i, (requip.attrs i).1 ≠ -1 ∧ lequip'.attrs = Function.update lequip.attrs j (requip.attrs i)
  only : OnlyPair attr lequip lequip'
  undoes : rvdealAttrInBag melted lequipId = some undone
  others' : SameBut lequipId.name melted undone
  left' : undone.equipList.get? lequipId.name = some lequip''
  back : lequip''.attrs = lequip.attrs
  undoesAgain : rvdealAttrInBag undone lequipId = some again
  same : again.max = undone.max ∧ again.itemList = undone.itemList ∧ ∀ name, again.equipList.get? name = undone.equipList.get? name

section
variable {outside other : Id → Bool} {bagList : BagList} {equipId attr : Id} {equip lequip requip : EquipInfo} {draw : Nat} {j : Fin 4}

theorem putEquip_sameBut (bagList : BagList) (equipId : Id) (equip : EquipInfo) :
    SameBut equipId.name bagList (putEquip bagList equipId equip) where
  max := rfl
  itemList := rfl
  equipList := fun _ ne => Obj.get?_set_of_ne _ _ ne

theorem putEquip_self (bagList : BagList) (equipId : Id) (equip : EquipInfo) :
    (putEquip bagList equipId equip).equipList.get? equipId.name = some equip := Obj.get?_set_self _ _ _

/-- The numbers from one to four name the pairs. -/
theorem pair?_number {attr : Int} (low : equipAttrMin ≤ attr) (high : attr ≤ equipAttrMax) :
    ∃ j : Fin 4, (j.val : Int) + 1 = attr ∧ pair? (.number attr) = some j := by
  have cases_ : attr = 1 ∨ attr = 2 ∨ attr = 3 ∨ attr = 4 := by
    unfold equipAttrMin at low
    unfold equipAttrMax at high
    omega
  rcases cases_ with rfl | rfl | rfl | rfl <;> decide

theorem outsideRange_number {attr : Int} (low : equipAttrMin ≤ attr) (high : attr ≤ equipAttrMax) :
    outsideRange other (.number attr) = false := by
  simp only [outsideRange, Bool.or_eq_false_iff, decide_eq_false_iff_not]
  omega

theorem setPair_of_pair (equip : EquipInfo) (pair : Int × Int) (named : pair? attr = some j) :
    equip.setPair attr pair = { equip with attrs := Function.update equip.attrs j pair } := by
  unfold EquipInfo.setPair
  rw [named]

/-- The left equip with pair `i` of the right one for its pair `j`, which is saved. -/
def meltedEquip (lequip requip : EquipInfo) (attr : Id) (j i : Fin 4) : EquipInfo :=
  { lequip with
    attrs := Function.update lequip.attrs j (requip.attrs i)
    sa := some (lequip.attrs j).1
    sn := some (lequip.attrs j).2
    ss := some attr }

theorem dealAttrInEquip_of_pair (draw : Nat) (lequip : EquipInfo) (inside : outside attr = false) (named : pair? attr = some j)
    (some_ : ∃ i, (requip.attrs i).1 ≠ -1) : ∃ i, (requip.attrs i).1 ≠ -1 ∧
      Bag.dealAttrInEquip outside lequip requip attr draw = some (meltedEquip lequip requip attr j i) := by
  obtain ⟨k, there⟩ := some_
  have member : k ∈ (List.finRange 4).filter fun i => (requip.attrs i).1 ≠ -1 := by simp [there]
  have found := List.getElem?_eq_getElem (Nat.mod_lt draw (List.length_pos_of_mem member))
  have drawn := List.mem_filter.mp (List.mem_of_getElem? found)
  refine ⟨_, of_decide_eq_true drawn.2, ?_⟩
  unfold Bag.dealAttrInEquip
  dsimp only
  rw [found]
  dsimp only
  rw [if_neg (by simp [inside]), setPair_of_pair _ _ named]
  unfold EquipInfo.getA EquipInfo.getN
  rw [named]
  rfl

theorem rvdealAttrInEquip_of_pair {sa sn : Int} (first : equip.sa = some sa) (second : equip.sn = some sn)
    (third : equip.ss = some attr) (named : pair? attr = some j) :
    rvdealAttrInEquip equip = some { equip with attrs := Function.update equip.attrs j (sa, sn) } := by
  have written : rvdealAttrInEquip equip = some (equip.setPair attr (sa, sn)) := by
    unfold rvdealAttrInEquip
    rw [first, second, third]
  rw [written, setPair_of_pair _ _ named]

/-- The left equip with its own pairs, and pair `j` saved. -/
def savedEquip (lequip : EquipInfo) (attr : Id) (j : Fin 4) : EquipInfo :=
  { lequip with
    sa := some (lequip.attrs j).1
    sn := some (lequip.attrs j).2
    ss := some attr }

theorem rvdealAttrInEquip_melted (lequip requip : EquipInfo) (i : Fin 4) (named : pair? attr = some j) :
    rvdealAttrInEquip (meltedEquip lequip requip attr j i) = some (savedEquip lequip attr j) := by
  rw [rvdealAttrInEquip_of_pair rfl rfl rfl named]
  unfold meltedEquip savedEquip
  dsimp only
  rw [Function.update_idem, Function.update_eq_self]

theorem rvdealAttrInEquip_saved (lequip : EquipInfo) (named : pair? attr = some j) :
    rvdealAttrInEquip (savedEquip lequip attr j) = some (savedEquip lequip attr j) := by
  rw [rvdealAttrInEquip_of_pair rfl rfl rfl named]
  unfold savedEquip
  dsimp only
  rw [Function.update_eq_self]

theorem rvdealAttrInBag_of_equip {equip' : EquipInfo} (there : bagList.equipList.get? equipId.name = some equip)
    (undone : rvdealAttrInEquip equip = some equip') : rvdealAttrInBag bagList equipId = some (putEquip bagList equipId equip') := by
  unfold rvdealAttrInBag
  rw [there]
  dsimp only [Option.bind_eq_bind, Option.bind_some]
  rw [undone]
  rfl

end

theorem melting_undone (other : Id → Bool) (bagList : BagList) (lequipId requipId : Id) (attr : Int) (draw : Nat)
    (lequip requip : EquipInfo) (left : bagList.equipList.get? lequipId.name = some lequip)
    (right : bagList.equipList.get? requipId.name = some requip) (different : requipId.name ≠ lequipId.name)
    (low : equipAttrMin ≤ attr) (high : attr ≤ equipAttrMax) (some_ : ∃ i, (requip.attrs i).1 ≠ -1) :
    ∃ j : Fin 4, (j.val : Int) + 1 = attr ∧ ∃ melted undone again lequip' lequip'',
      Undone (outsideRange other) bagList lequipId requipId (.number attr) draw j lequip requip melted undone again lequip' lequip'' := by
  obtain ⟨j, value, named⟩ := pair?_number low high
  obtain ⟨i, there, dealt⟩ := dealAttrInEquip_of_pair draw lequip (outsideRange_number low high) named some_
  have melts : dealAttrInBag (outsideRange other) bagList lequipId requipId (.number attr) draw =
      some (putEquip bagList lequipId (meltedEquip lequip requip (.number attr) j i)) := by
    unfold dealAttrInBag
    rw [left, right]
    dsimp only [Option.bind_eq_bind, Option.bind_some]
    rw [dealt]
    rfl
  have undoes := rvdealAttrInBag_of_equip (putEquip_self bagList lequipId (meltedEquip lequip requip (.number attr) j i))
    (rvdealAttrInEquip_melted lequip requip i named)
  have again := rvdealAttrInBag_of_equip
    (putEquip_self (putEquip bagList lequipId (meltedEquip lequip requip (.number attr) j i)) lequipId
      (savedEquip lequip (.number attr) j)) (rvdealAttrInEquip_saved lequip named)
  refine ⟨j, value, _, _, _, _, _, melts, putEquip_sameBut _ _ _, putEquip_self _ _ _, ?_, ⟨i, there, rfl⟩, ?_, undoes,
    putEquip_sameBut _ _ _, putEquip_self _ _ _, rfl, again, rfl, rfl, ?_⟩
  · rw [(putEquip_sameBut bagList lequipId _).equipList _ different, right]
  · refine ⟨rfl, rfl, rfl, ?_, rfl, fun _ => rfl⟩
    intro k apart
    apply Function.update_of_ne
    rintro rfl
    exact apart named
  · intro name
    by_cases same : name = lequipId.name
    · rw [same, putEquip_self, putEquip_self]
    · exact (putEquip_sameBut _ lequipId _).equipList name same

def plainSword (attr : Int × Int) : EquipInfo where
  id := some (.number 10103)
  num := 1
  star := 0
  attrs := fun _ => attr
  sa := some 0
  sn := some 0
  ss := some (.number 0)
  index := none
  others := ∅

def twoSwords : BagList :=
  ⟨100, ∅, ((∅ : Obj EquipInfo).set "1" (plainSword (6, 20))).set "2" (plainSword (5, 40))⟩

theorem melting_undone_swords : ∃ j : Fin 4, (j.val : Int) + 1 = 2 ∧ ∃ melted undone again lequip' lequip'',
    Undone (outsideRange fun _ => false) twoSwords (.number 1) (.number 2) (.number 2) 0 j (plainSword (6, 20)) (plainSword (5, 40))
      melted undone again lequip' lequip'' :=
  melting_undone (fun _ => false) twoSwords (.number 1) (.number 2) 2 0 _ _ rfl rfl (by decide) (by decide) (by decide)
    ⟨0, by decide⟩

end Tinygame.Player
