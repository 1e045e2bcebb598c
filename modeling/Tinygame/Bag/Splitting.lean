import Tinygame.Bag.Amounts
import Tinygame.Bag.Worn

/-!
# Splitting and melting

What `splitEquip` and `meltingEquip` leave of the bag. Neither looks at whether the materials of a split equip could be
added: the loop stops at the first that does not fit, and the request succeeds.
-/

namespace Tinygame.Bag

/-- The materials of a row: a number below zero is none. -/
def materials (row : List (Id × Int)) : List (Id × Int) :=
  (row.filter fun entry => !entry.1.same (.text "gold")).map fun entry => (entry.1, max entry.2 0)

/-- How much is reported of a material. -/
def Record.num (record : Record) (name : String) : Int := ((record.itemList.getD ∅).get? name).elim 0 ItemCell.num

/-- Nothing that would have to be added. -/
def Nothing (row : List (Id × Int)) : Prop := ∀ entry ∈ row, entry.1.same (.text "gold") = true ∨ entry.2 ≤ 0

section
variable (Item : ItemTable)

/-- Each material of the row fits when its turn comes, and none of them is an equip; or nothing is left to add. -/
def Complete : List (Id × Int) → BagList → Prop
  | [], _ => True
  | (itemId, num) :: rest, bagList =>
    if itemId.same (.text "gold") then Complete rest bagList
    else match Item.rows.get? itemId.name with
      | none => Nothing ((itemId, num) :: rest)
      | some row =>
        if row.itemTepy = mainTypeEquip then num ≤ 0 ∧ Complete rest bagList
        else if tryAddItem Item itemId num bagList then Complete rest (addItem Item itemId num bagList).2
        else Nothing ((itemId, num) :: rest)

end

variable {Item : ItemTable} {row rest : List (Id × Int)} {bagList : BagList} {record : Record} {name : String}

/-! ### The materials -/

theorem materials_gold {entry : Id × Int} (gold : entry.1.same (.text "gold") = true) : materials (entry :: rest) = materials rest := by
  unfold materials
  rw [List.filter_cons_of_neg (by simp [gold])]

theorem materials_cons {entry : Id × Int} (other : ¬entry.1.same (.text "gold") = true) :
    materials (entry :: rest) = (entry.1, max entry.2 0) :: materials rest := by
  unfold materials
  rw [List.filter_cons_of_pos (by simp [other])]
  rfl

theorem materials_nonneg (row : List (Id × Int)) (name : String) : 0 ≤ total (materials row) name := by
  induction row with
  | nil => exact Int.le_refl 0
  | cons entry rest ih =>
    by_cases gold : entry.1.same (.text "gold") = true
    · rw [materials_gold gold]
      exact ih
    · rw [materials_cons gold, total_cons]
      unfold just
      dsimp only
      split <;> omega

theorem nothing_iff : Nothing row ↔ ∀ name, total (materials row) name = 0 := by
  induction row with
  | nil => exact iff_of_true (fun entry there => (List.not_mem_nil there).elim) fun name => rfl
  | cons entry rest ih =>
    unfold Nothing at ih ⊢
    rw [List.forall_mem_cons, ih]
    by_cases gold : entry.1.same (.text "gold") = true
    · rw [materials_gold gold]
      exact and_iff_right (.inl gold)
    · rw [materials_cons gold]
      constructor
      · rintro ⟨none_, zero⟩ name
        have none_ := none_.resolve_left gold
        rw [total_cons, zero]
        unfold just
        dsimp only
        split <;> omega
      · intro zero
        have all : ∀ name, just entry.1.name (max entry.2 0) name = 0 ∧ total (materials rest) name = 0 := by
          intro name
          have sum := zero name
          have later := materials_nonneg rest name
          rw [total_cons] at sum
          by_cases same : name = entry.1.name
          · subst same
            rw [just_self] at sum ⊢
            omega
          · rw [just_of_ne same] at sum ⊢
            omega
        refine ⟨.inr ?_, fun name => (all name).2⟩
        have mine := (all entry.1.name).1
        rw [just_self] at mine
        omega

theorem addItem_num (record : Record) (itemID : Id) (num : Int) (name : String) :
    (record.addItem itemID num).num name = record.num name + just itemID.name num name := by
  unfold Record.addItem Record.num just
  dsimp only
  rw [Option.getD_some, Obj.get?_set]
  split
  · rename_i same
    rw [same]
    cases (record.itemList.getD ∅).get? itemID.name <;> rfl
  · exact (Int.add_zero _).symm

/-- What an award adds to the stacks is what it reports. -/
theorem awardEquips_num (itemID : Id) (row : ItemRow) (left : Nat) (moments : Nat → Moment) (bagList : BagList) (record : Record) :
    (∀ name, (awardEquips Item itemID row left moments bagList record).2.1.held name = bagList.held name) ∧
      (∀ name, (awardEquips Item itemID row left moments bagList record).2.2.num name = record.num name) ∧
      (awardEquips Item itemID row left moments bagList record).2.1.max = bagList.max :=
  awardEquips_induct (fun after record' => (∀ name, after.held name = bagList.held name) ∧
    (∀ name, record'.num name = record.num name) ∧ after.max = bagList.max) (fun _ _ _ _ same => same) left moments
    ⟨fun _ => rfl, fun _ => rfl, rfl⟩

/-- An award adds no equip, or one without stars under an index that was free. -/
def Grown (before after : BagList) : Prop :=
  ∀ name, after.equipList.get? name = before.equipList.get? name ∨
    before.equipList.get? name = none ∧ ∃ info, after.equipList.get? name = some info ∧ info.star = 0

theorem Grown.refl (bagList : BagList) : Grown bagList bagList := fun _ => .inl rfl

theorem Grown.of_equipList {before after : BagList} (same : after.equipList = before.equipList) : Grown before after :=
  fun _ => .inl (by rw [same])

theorem Grown.trans {before between after : BagList} (first : Grown before between) (second : Grown between after) :
    Grown before after := by
  intro name
  rcases second name with same | ⟨none_, info, there, star⟩
  · rw [same]
    exact first name
  · rcases first name with same | ⟨-, info', there', -⟩
    · exact .inr ⟨same ▸ none_, info, there, star⟩
    · cases none_.symm.trans there'

theorem Fits.grown {bagList : BagList} {itemID : Id} {row : ItemRow} {moment : Moment}
    (fits : Fits Item bagList (createEquip itemID row moment).1 (createEquip itemID row moment).2) :
    Grown bagList { bagList with
      equipList := bagList.equipList.set (toString (createEquip itemID row moment).1) (createEquip itemID row moment).2 } := by
  intro name
  dsimp only
  rw [Obj.get?_set]
  split
  · rename_i same
    exact .inr ⟨same ▸ fits.free, _, rfl, rfl⟩
  · exact .inl rfl

theorem awardEquips_grown (itemID : Id) (row : ItemRow) (left : Nat) (moments : Nat → Moment) (bagList : BagList) (record : Record) :
    Grown bagList (awardEquips Item itemID row left moments bagList record).2.1 :=
  awardEquips_induct (fun after _ => Grown bagList after) (fun _ _ _ fits grown => grown.trans fits.grown) left moments
    (Grown.refl bagList)

/-- As much as is reported has been added to the stacks, and no more than the bound. -/
structure Gave (bound : String → Int) (before after : BagList) (record record' : Record) : Prop where
  max : after.max = before.max
  held : ∀ name, after.held name + record.num name = before.held name + record'.num name
  bound : ∀ name, record'.num name ≤ record.num name + bound name
  grown : Grown before after

theorem Gave.refl {bound : String → Int} (nonneg : ∀ name, 0 ≤ bound name) (bagList : BagList) (record : Record) :
    Gave bound bagList bagList record record :=
  ⟨rfl, fun _ => rfl, fun name => by have := nonneg name; omega, Grown.refl bagList⟩

theorem Gave.trans {bound bound' : String → Int} {before between after : BagList} {first second third : Record}
    (one : Gave bound before between first second) (two : Gave bound' between after second third) :
    Gave (fun name => bound name + bound' name) before after first third where
  max := two.max.trans one.max
  held name := by
    have h := one.held name
    have h' := two.held name
    omega
  bound name := by
    have h := one.bound name
    have h' := two.bound name
    omega
  grown := one.grown.trans two.grown

theorem tryAddItem_pos {itemID : Id} {num : Int} (fits : tryAddItem Item itemID num bagList = true) : 0 < num := by
  unfold tryAddItem at fits
  split at fits
  · cases fits
  · omega

section
variable {itemId : Id} {num : Int} {itemRow : ItemRow} (moments : Nat → Moment) (bagList : BagList) (record : Record)

theorem getItemAward_none (none_ : Item.rows.get? itemId.name = none) :
    getItemAward Item itemId num moments bagList record = (false, bagList, record) := by
  unfold getItemAward
  rw [none_]

theorem getItemAward_equip (found : Item.rows.get? itemId.name = some itemRow) (equip : itemRow.itemTepy = mainTypeEquip) :
    getItemAward Item itemId num moments bagList record = awardEquips Item itemId itemRow num.toNat moments bagList record := by
  unfold getItemAward
  rw [found]
  exact if_pos equip

variable {bagList}

theorem getItemAward_item (found : Item.rows.get? itemId.name = some itemRow) (noEquip : itemRow.itemTepy ≠ mainTypeEquip)
    (fits : tryAddItem Item itemId num bagList = true) :
    getItemAward Item itemId num moments bagList record = (true, (addItem Item itemId num bagList).2, record.addItem itemId num) := by
  have added := (addItem_fst Item itemId num bagList).trans fits
  unfold getItemAward
  rw [found]
  dsimp only
  rw [if_neg noEquip]
  split
  · rename_i refused
    rw [refused] at added
    cases added
  · rename_i accepted
    rw [accepted]

theorem getItemAward_refused (found : Item.rows.get? itemId.name = some itemRow) (noEquip : itemRow.itemTepy ≠ mainTypeEquip)
    (refused : tryAddItem Item itemId num bagList = false) :
    getItemAward Item itemId num moments bagList record = (false, bagList, record) := by
  unfold getItemAward addItem
  rw [found]
  dsimp only
  rw [if_neg noEquip, refused]
  rfl

end

theorem addItem_gave {itemId : Id} {num : Int} (fits : tryAddItem Item itemId num bagList = true) (record : Record) :
    Gave (just itemId.name (max num 0)) bagList (addItem Item itemId num bagList).2 record (record.addItem itemId num) where
  max := by
    unfold addItem
    rw [if_pos fits]
    split <;> rfl
  held name := by
    rw [addItem_held, if_pos fits, addItem_num]
    omega
  bound name := by
    have positive := tryAddItem_pos fits
    rw [addItem_num, show max num 0 = num by omega]
  grown := Grown.of_equipList (addItem_equipList ..)

theorem just_nonneg {name other : String} {num : Int} (nonneg : 0 ≤ num) : 0 ≤ just name num other := by
  unfold just
  split <;> omega

theorem addMaterials_gave (row : List (Id × Int)) (moments : Nat → Nat → Moment) (bagList : BagList) (record : Record) :
    Gave (total (materials row)) bagList (addMaterials Item row moments bagList record).1 record
      (addMaterials Item row moments bagList record).2 := by
  induction row generalizing moments bagList record with
  | nil => exact Gave.refl (fun name => Int.le_refl 0) bagList record
  | cons entry rest ih =>
    obtain ⟨itemId, num⟩ := entry
    have stopped : Gave (total (materials ((itemId, num) :: rest))) bagList bagList record record :=
      Gave.refl (materials_nonneg _) bagList record
    unfold addMaterials
    by_cases gold : itemId.same (.text "gold") = true
    · rw [if_pos gold, materials_gold gold]
      exact ih ..
    · rw [if_neg gold]
      rw [materials_cons gold] at stopped ⊢
      cases found : Item.rows.get? itemId.name with
      | none =>
        rw [getItemAward_none _ _ _ found]
        exact stopped
      | some itemRow =>
        by_cases equip : itemRow.itemTepy = mainTypeEquip
        · rw [getItemAward_equip _ _ _ found equip]
          obtain ⟨held, num', max'⟩ := @awardEquips_num Item itemId itemRow num.toNat (moments 0) bagList record
          have grown := @awardEquips_grown Item itemId itemRow num.toNat (moments 0) bagList record
          have awarded : Gave (just itemId.name (max num 0)) bagList
            (awardEquips Item itemId itemRow num.toNat (moments 0) bagList record).2.1
              record (awardEquips Item itemId itemRow num.toNat (moments 0) bagList record).2.2 := by
            refine ⟨max', fun name => by rw [held, num'], fun name => ?_, grown⟩
            have nonneg : 0 ≤ just itemId.name (max num 0) name := just_nonneg (by omega)
            rw [num']
            omega
          split
          · rename_i next
            rw [next] at awarded
            exact awarded.trans (Gave.refl (materials_nonneg rest) _ _)
          · rename_i next
            rw [next] at awarded
            exact awarded.trans (ih ..)
        · cases fits : tryAddItem Item itemId num bagList with
          | true =>
            rw [getItemAward_item _ _ found equip fits]
            exact (addItem_gave fits record).trans (ih ..)
          | false =>
            rw [getItemAward_refused _ _ found equip fits]
            exact stopped

/-- An equip among the materials is not reported. -/
theorem addMaterials_equip {itemId : Id} {itemRow : ItemRow} (num : Int) (rest : List (Id × Int))
    (gold : ¬itemId.same (.text "gold") = true)
    (found : Item.rows.get? itemId.name = some itemRow) (equip : itemRow.itemTepy = mainTypeEquip) (moments : Nat → Nat → Moment)
    (bagList : BagList) (record : Record) (name : String) :
    (addMaterials Item ((itemId, num) :: rest) moments bagList record).2.num name ≤ record.num name + total (materials rest) name := by
  obtain ⟨-, num', -⟩ := @awardEquips_num Item itemId itemRow num.toNat (moments 0) bagList record
  unfold addMaterials
  rw [if_neg gold, getItemAward_equip _ _ _ found equip]
  split
  · rename_i next
    rw [next] at num'
    have nonneg := materials_nonneg rest name
    have same := num' name
    dsimp only at same ⊢
    omega
  · rename_i next
    rw [next] at num'
    exact num' name ▸ (addMaterials_gave ..).bound name

theorem addMaterials_complete (row : List (Id × Int)) (moments : Nat → Nat → Moment) (bagList : BagList) (record : Record) :
    (∀ name, (addMaterials Item row moments bagList record).2.num name = record.num name + total (materials row) name) ↔
      Complete Item row bagList := by
  induction row generalizing moments bagList record with
  | nil => exact iff_of_true (fun name => (Int.add_zero _).symm) trivial
  | cons entry rest ih =>
    obtain ⟨itemId, num⟩ := entry
    have stopped : (∀ name, record.num name = record.num name + total (materials ((itemId, num) :: rest)) name) ↔
        Nothing ((itemId, num) :: rest) := by
      rw [nothing_iff]
      exact forall_congr' fun name => by omega
    by_cases gold : itemId.same (.text "gold") = true
    · unfold addMaterials Complete
      rw [if_pos gold, if_pos gold, materials_gold gold]
      exact ih ..
    · cases found : Item.rows.get? itemId.name with
      | none =>
        unfold addMaterials Complete
        rw [if_neg gold, if_neg gold, getItemAward_none _ _ _ found, found]
        exact stopped
      | some itemRow =>
        by_cases equip : itemRow.itemTepy = mainTypeEquip
        · have most := addMaterials_equip num rest gold found equip moments bagList record
          unfold Complete
          rw [if_neg gold, found]
          dsimp only
          rw [if_pos equip]
          by_cases none_ : num ≤ 0
          · have zero : num.toNat = 0 := by omega
            have same : ∀ name, total (materials ((itemId, num) :: rest)) name = total (materials rest) name := by
              intro name
              rw [materials_cons gold, total_cons]
              unfold just
              dsimp only
              split <;> omega
            rw [and_iff_right none_, forall_congr' fun name => by rw [same name]]
            unfold addMaterials
            rw [if_neg gold, getItemAward_equip _ _ _ found equip, zero]
            exact ih ..
          · refine iff_of_false (fun all => ?_) fun both => none_ both.1
            have here := most itemId.name
            rw [all, materials_cons gold, total_cons, just_self] at here
            dsimp only at here
            omega
        · unfold addMaterials Complete
          rw [if_neg gold, if_neg gold, found]
          dsimp only
          rw [if_neg equip]
          cases fits : tryAddItem Item itemId num bagList with
          | true =>
            have positive := tryAddItem_pos fits
            rw [getItemAward_item _ _ found equip fits, if_pos rfl, ← ih]
            refine forall_congr' fun name => ?_
            rw [materials_cons gold, total_cons, addItem_num, show max num 0 = num by omega, Int.add_assoc]
          | false =>
            rw [getItemAward_refused _ _ found equip fits, if_neg (by simp)]
            exact stopped

theorem addMaterials_equipList (row : List (Id × Int)) (moments : Nat → Nat → Moment) (bagList : BagList) (record : Record)
    (complete : Complete Item row bagList) : (addMaterials Item row moments bagList record).1.equipList = bagList.equipList := by
  induction row generalizing moments bagList record with
  | nil => rfl
  | cons entry rest ih =>
    obtain ⟨itemId, num⟩ := entry
    unfold addMaterials
    unfold Complete at complete
    by_cases gold : itemId.same (.text "gold") = true
    · rw [if_pos gold] at complete ⊢
      exact ih _ _ _ complete
    · rw [if_neg gold] at complete ⊢
      cases found : Item.rows.get? itemId.name with
      | none => rw [getItemAward_none _ _ _ found]
      | some itemRow =>
        rw [found] at complete
        dsimp only at complete
        by_cases equip : itemRow.itemTepy = mainTypeEquip
        · rw [if_pos equip] at complete
          have zero : num.toNat = 0 := by omega
          rw [getItemAward_equip _ _ _ found equip, zero]
          exact ih _ _ _ complete.2
        · rw [if_neg equip] at complete
          cases fits : tryAddItem Item itemId num bagList with
          | true =>
            rw [fits, if_pos rfl] at complete
            rw [getItemAward_item _ _ found equip fits]
            exact (ih _ _ _ complete).trans (addItem_equipList ..)
          | false => rw [getItemAward_refused _ _ found equip fits]

/-! ### One equip -/

variable {eqStar : Int → Option EqStarRow} {splitting after : Splitting} {equipId : Id} {equip : EquipInfo} {ids : List Id}

section
variable (eqStar : Int → Option EqStarRow) (bagList : BagList)

/-- The row of an equip of the bag, and its gold. -/
def rowOf (id : Id) : Option (List (Id × Int) × Int) := (bagList.equipList.get? id.name).bind (splitReturn eqStar)

/-- What the rows of these equips give of a material. -/
def dueOf (ids : List Id) (name : String) : Int :=
  (ids.map fun id => total (materials ((rowOf eqStar bagList id).elim [] Prod.fst)) name).sum

def goldOf (ids : List Id) : Int := (ids.map fun id => (rowOf eqStar bagList id).elim 0 Prod.snd).sum

end

/-- The index is that of one equip and no stack, and the materials can be added. -/
structure Clean (Item : ItemTable) (eqStar : Int → Option EqStarRow) (bagList : BagList) (id : Id) : Prop where
  noStack : bagList.itemList.get? id.name = none
  single : ∀ equip, bagList.equipList.get? id.name = some equip → equip.num ≤ 1
  complete : ∀ split, rowOf eqStar bagList id = some split → Complete Item split.1 (delItem id 1 bagList).2

/-- What taking one of an index does, where there is one and it is an equip as well. -/
structure Took (id : Id) (equip : EquipInfo) (bagList after : BagList) : Prop where
  max : after.max = bagList.max
  held : ∀ name, after.held name ≤ bagList.held name
  kept : bagList.itemList.get? id.name = none → after.itemList = bagList.itemList
  fewer : bagList.itemList.get? id.name ≠ none → after.held id.name < bagList.held id.name
  others : ∀ name, name ≠ id.name → after.equipList.get? name = bagList.equipList.get? name
  gone : bagList.itemList.get? id.name = none → (after.equipList.has id.name = false ↔ equip.num ≤ 1)

theorem delItem_took (there : getItemNum equipId bagList ≠ 0) (found : bagList.equipList.get? equipId.name = some equip) :
    (delItem equipId 1 bagList).1 = true ∧ Took equipId equip bagList (delItem equipId 1 bagList).2 := by
  unfold getItemNum at there
  unfold delItem
  rw [if_neg (by decide)]
  cases stack : bagList.itemList.get? equipId.name with
  | none =>
    rw [stack, found] at there
    dsimp only at there
    have some_ : ¬equip.num ≤ 0 := fun none_ => there (if_pos none_)
    rw [found]
    dsimp only
    rw [if_neg (by omega)]
    split
    · rename_i last
      refine ⟨rfl, rfl, fun name => Int.le_refl _, fun _ => rfl, fun some_ => absurd stack some_, fun name ne => Obj.get?_delete_of_ne _ ne,
        fun _ => iff_of_true ?_ (by omega)⟩
      exact Obj.has_eq_false.mpr (Obj.get?_delete_self ..)
    · rename_i more
      refine ⟨rfl, rfl, fun name => Int.le_refl _, fun _ => rfl, fun some_ => absurd stack some_, fun name ne => Obj.get?_set_of_ne _ _ ne,
        fun _ => iff_of_false ?_ (by omega)⟩
      rw [Obj.has_set]
      simp
  | some cell =>
    rw [stack] at there
    dsimp only at there
    have some_ : ¬cell.num ≤ 0 := fun none_ => there (if_pos none_)
    have full : bagList.itemList.get? equipId.name ≠ none := stack ▸ Option.some_ne_none cell
    have before : bagList.held equipId.name = cell.num := by
      unfold BagList.held
      rw [stack]
      rfl
    dsimp only
    rw [if_neg (by omega)]
    split
    · rename_i last
      have held : ∀ name, BagList.held { bagList with itemList := bagList.itemList.delete equipId.name } name =
          if name = equipId.name then 0 else bagList.held name := by
        intro name
        unfold BagList.held
        dsimp only
        rw [Obj.get?_delete]
        split <;> rfl
      refine ⟨rfl, rfl, fun name => ?_, fun none_ => absurd none_ full, fun _ => ?_, fun name ne => rfl, fun none_ => absurd none_ full⟩
      · rw [held]
        split
        · rename_i same
          rw [same, before]
          omega
        · exact Int.le_refl _
      · rw [held, if_pos rfl, before]
        omega
    · refine ⟨rfl, rfl, fun name => ?_, fun none_ => absurd none_ full, fun _ => ?_, fun name ne => rfl, fun none_ => absurd none_ full⟩
      · rw [held_set]
        split
        · rename_i same
          rw [same, before]
          show cell.num - 1 ≤ cell.num
          omega
        · exact Int.le_refl _
      · rw [held_set, if_pos rfl, before]
        show cell.num - 1 < cell.num
        omega

/-- An equip that is there is dealt with by taking one and adding its materials. -/
theorem dealSplit_took {moments : Nat → Nat → Moment} (there : getItemNum equipId bagList ≠ 0)
    (found : bagList.equipList.get? equipId.name = some equip) : dealSplitEquipInBagList Item bagList row equipId moments record =
      addMaterials Item row moments (delItem equipId 1 bagList).2 record := by
  have deleted := (delItem_took there found).1
  unfold dealSplitEquipInBagList
  split
  · rename_i refused
    rw [refused] at deleted
    cases deleted
  · rename_i accepted
    rw [accepted]

theorem splitOne_ok {moments : Nat → Nat → Moment} (ok : splitOne Item eqStar splitting equipId moments = .ok after) :
    ∃ equip split between, splitting.bagList.equipList.get? equipId.name = some equip ∧
      rowOf eqStar splitting.bagList equipId = some split ∧ (delItem equipId 1 splitting.bagList).2 = between ∧
      Took equipId equip splitting.bagList between ∧ after.gold = splitting.gold + split.2 ∧
      after.bagList = (addMaterials Item split.1 moments between splitting.result).1 ∧
      after.result = (addMaterials Item split.1 moments between splitting.result).2 := by
  unfold splitOne at ok
  obtain ⟨_, there, ok⟩ := bind_ok.mp ok
  obtain ⟨equip, found, ok⟩ := bind_ok.mp ok
  obtain ⟨⟨splitConfig, gold⟩, split, ok⟩ := bind_ok.mp ok
  obtain rfl := Except.ok.inj ok
  have found := present_ok.mp found
  have took := (delItem_took (require_ok.mp there) found).2
  have dealt := @dealSplit_took Item splitConfig splitting.bagList splitting.result _ _ moments (require_ok.mp there) found
  refine ⟨equip, (splitConfig, gold), _, found, ?_, rfl, took, rfl, congrArg Prod.fst dealt, congrArg Prod.snd dealt⟩
  unfold rowOf
  rw [found]
  exact present_ok.mp split

/-! ### A list of equips -/

/-- Each equip of the list has left the bag once, its materials are there and reported, and its gold is counted. -/
structure SplitAll (eqStar : Int → Option EqStarRow) (ids : List Id) (before after : Splitting) : Prop where
  once : (ids.map Id.name).Nodup
  left : ∀ id ∈ ids, after.bagList.equipList.has id.name = false
  max : after.bagList.max = before.bagList.max
  held : ∀ name, after.bagList.held name = before.bagList.held name + dueOf eqStar before.bagList ids name
  reported : ∀ name, after.result.num name = before.result.num name + dueOf eqStar before.bagList ids name
  equips : ∀ name, name ∉ ids.map Id.name → after.bagList.equipList.get? name = before.bagList.equipList.get? name
  gold : after.gold = before.gold + goldOf eqStar before.bagList ids

section
variable (Item : ItemTable) (eqStar : Int → Option EqStarRow) (moments : Nat → Nat → Nat → Moment)

/-- Each is clean when its turn comes. -/
def AllClean : List (Id × Nat) → Splitting → Prop
  | [], _ => True
  | entry :: rest, splitting => Clean Item eqStar splitting.bagList entry.1 ∧
    ∀ next, splitOne Item eqStar splitting entry.1 (moments entry.2) = .ok next → AllClean rest next

def splitLoop (entries : List (Id × Nat)) (splitting : Splitting) : Except Failure Splitting :=
  entries.foldlM (fun splitting entry => splitOne Item eqStar splitting entry.1 (moments entry.2)) splitting

end

variable {moments : Nat → Nat → Nat → Moment} {entries : List (Id × Nat)} {between : BagList} {split : List (Id × Int) × Int}

/-- The row of another equip: an equip that has come up under its index has no stars. -/
theorem rowOf_later {before after : BagList} {id : Id} (same : after.equipList.get? id.name = before.equipList.get? id.name ∨
    before.equipList.get? id.name = none ∧ ∃ info, after.equipList.get? id.name = some info ∧ info.star = 0) :
    (rowOf eqStar after id).elim [] Prod.fst = (rowOf eqStar before id).elim [] Prod.fst := by
  unfold rowOf
  rcases same with same | ⟨none_, info, there, star⟩
  · rw [same]
  · rw [none_, there]
    show (splitReturn eqStar info).elim [] Prod.fst = []
    unfold splitReturn
    rw [if_pos star]
    rfl

theorem dueOf_later {before after : BagList} (same : ∀ id ∈ ids, after.equipList.get? id.name = before.equipList.get? id.name ∨
    before.equipList.get? id.name = none ∧ ∃ info, after.equipList.get? id.name = some info ∧ info.star = 0) (name : String) :
    dueOf eqStar after ids name = dueOf eqStar before ids name :=
  congrArg List.sum (List.map_congr_left fun id there => by rw [rowOf_later (same id there)])

theorem goldOf_later {before after : BagList} (same : ∀ id ∈ ids, after.equipList.get? id.name = before.equipList.get? id.name) :
    goldOf eqStar after ids = goldOf eqStar before ids :=
  congrArg List.sum (List.map_congr_left fun id there => by
    unfold rowOf
    rw [same id there])

/-- What one round does to the equips of other indices. -/
theorem Took.later {id : Id} {before last : BagList} (took : Took id equip before between) (grown : Grown between last) {name : String}
    (ne : name ≠ id.name) : last.equipList.get? name = before.equipList.get? name ∨
      before.equipList.get? name = none ∧ ∃ info, last.equipList.get? name = some info ∧ info.star = 0 := by
  rw [← took.others name ne]
  exact grown name

theorem splitLoop_cons {entry : Id × Nat} (ok : splitLoop Item eqStar moments (entry :: entries) splitting = .ok after) :
    ∃ next, splitOne Item eqStar splitting entry.1 (moments entry.2) = .ok next ∧ splitLoop Item eqStar moments entries next = .ok after :=
  bind_ok.mp ok

/-- No more is reported than is due, and no more is there than is reported. -/
theorem splitLoop_bound (once : ((entries.map Prod.fst).map Id.name).Nodup)
    (ok : splitLoop Item eqStar moments entries splitting = .ok after)
    (name : String) :
    after.result.num name ≤ splitting.result.num name + dueOf eqStar splitting.bagList (entries.map Prod.fst) name ∧
      after.bagList.held name + splitting.result.num name ≤ splitting.bagList.held name + after.result.num name := by
  induction entries generalizing splitting with
  | nil =>
    obtain rfl := Except.ok.inj ok
    exact ⟨Int.le_of_eq (Int.add_zero _).symm, Int.le_refl _⟩
  | cons entry rest ih =>
    obtain ⟨fresh, later⟩ := List.nodup_cons.mp once
    obtain ⟨next, one, more⟩ := splitLoop_cons ok
    obtain ⟨equip, split, between, found, row, -, took, -, bag, result⟩ := splitOne_ok one
    obtain ⟨bound', held'⟩ := ih later more
    have gave := @addMaterials_gave Item split.1 (moments entry.2) between splitting.result
    rw [← bag, ← result] at gave
    have others : ∀ id ∈ rest.map Prod.fst, id.name ≠ entry.1.name :=
      fun id there same => fresh (List.mem_map.mpr ⟨id, there, same⟩)
    rw [dueOf_later fun id there => took.later gave.grown (others id there)] at bound'
    have due : dueOf eqStar splitting.bagList ((entry :: rest).map Prod.fst) name =
        total (materials split.1) name + dueOf eqStar splitting.bagList (rest.map Prod.fst) name := by
      show total (materials ((rowOf eqStar splitting.bagList entry.1).elim [] Prod.fst)) name + _ = _
      rw [row]
      rfl
    have bound := gave.bound name
    have held := gave.held name
    have less := took.held name
    rw [due]
    omega

theorem splitLoop_keeps (ok : splitLoop Item eqStar moments entries splitting = .ok after) :
    Keeps ((entries.map Prod.fst).map Id.name) splitting.bagList after.bagList := by
  induction entries generalizing splitting with
  | nil =>
    obtain rfl := Except.ok.inj ok
    exact Keeps.rfl
  | cons entry rest ih =>
    obtain ⟨next, one, more⟩ := splitLoop_cons ok
    exact ((splitOne_keeps one).weaken (by simp)).trans ((ih more).weaken fun name there => List.mem_cons_of_mem _ there)

theorem Grown.has {before last : BagList} (grown : Grown before last) {name : String} (has : before.equipList.has name = true) :
    last.equipList.has name = true := by
  unfold Obj.has at has ⊢
  rcases grown name with same | ⟨-, info, there, -⟩
  · rwa [same]
  · rw [there]
    rfl

theorem dueOf_cons {id : Id} (row : rowOf eqStar bagList id = some split) (ids : List Id) (name : String) :
    dueOf eqStar bagList (id :: ids) name = total (materials split.1) name + dueOf eqStar bagList ids name := by
  show total (materials ((rowOf eqStar bagList id).elim [] Prod.fst)) name + _ = _
  rw [row]
  rfl

theorem goldOf_cons {id : Id} (row : rowOf eqStar bagList id = some split) (ids : List Id) :
    goldOf eqStar bagList (id :: ids) = split.2 + goldOf eqStar bagList ids := by
  show (rowOf eqStar bagList id).elim 0 Prod.snd + _ = _
  rw [row]
  rfl

theorem dueOf_head (eqStar : Int → Option EqStarRow) (bagList : BagList) (id : Id) (ids : List Id) (name : String) :
    dueOf eqStar bagList (id :: ids) name = dueOf eqStar bagList [id] name + dueOf eqStar bagList ids name := by
  unfold dueOf
  simp

theorem goldOf_head (eqStar : Int → Option EqStarRow) (bagList : BagList) (id : Id) (ids : List Id) :
    goldOf eqStar bagList (id :: ids) = goldOf eqStar bagList [id] + goldOf eqStar bagList ids := by
  unfold goldOf
  simp

/-- What a clean round does. -/
theorem splitOne_clean {m : Nat → Nat → Moment} {next : Splitting} (clean : Clean Item eqStar splitting.bagList equipId)
    (one : splitOne Item eqStar splitting equipId m = .ok next) :
    next.bagList.max = splitting.bagList.max ∧
      (∀ name, next.bagList.held name = splitting.bagList.held name + dueOf eqStar splitting.bagList [equipId] name) ∧
      (∀ name, next.result.num name = splitting.result.num name + dueOf eqStar splitting.bagList [equipId] name) ∧
      (∀ name, name ≠ equipId.name → next.bagList.equipList.get? name = splitting.bagList.equipList.get? name) ∧
      next.bagList.equipList.has equipId.name = false ∧ next.gold = splitting.gold + goldOf eqStar splitting.bagList [equipId] := by
  obtain ⟨equip, split, between, found, row, rfl, took, gold, bag, result⟩ := splitOne_ok one
  have complete := clean.complete split row
  have gave := @addMaterials_gave Item split.1 m (delItem equipId 1 splitting.bagList).2 splitting.result
  have reported := (addMaterials_complete split.1 m (delItem equipId 1 splitting.bagList).2 splitting.result).mpr complete
  have equips := addMaterials_equipList split.1 m _ splitting.result complete
  rw [← bag, ← result] at gave
  rw [← result] at reported
  rw [← bag] at equips
  have due : ∀ name, dueOf eqStar splitting.bagList [equipId] name = total (materials split.1) name := by
    intro name
    rw [dueOf_cons row]
    exact Int.add_zero _
  have unchanged : ∀ name, (delItem equipId 1 splitting.bagList).2.held name = splitting.bagList.held name := by
    intro name
    unfold BagList.held
    rw [took.kept clean.noStack]
  refine ⟨gave.max.trans took.max, fun name => ?_, fun name => ?_, fun name ne => ?_, ?_, ?_⟩
  · have held := gave.held name
    rw [reported, unchanged] at held
    rw [due]
    omega
  · rw [due, reported]
  · rw [equips, took.others name ne]
  · rw [equips]
    exact (took.gone clean.noStack).mpr (clean.single equip found)
  · rw [gold, goldOf_cons row]
    exact congrArg _ (Int.add_zero _).symm

/-- If everything is right in the end, every round was clean. -/
theorem splitLoop_iff (ok : splitLoop Item eqStar moments entries splitting = .ok after) :
    SplitAll eqStar (entries.map Prod.fst) splitting after ↔
      ((entries.map Prod.fst).map Id.name).Nodup ∧ AllClean Item eqStar moments entries splitting := by
  induction entries generalizing splitting with
  | nil =>
    obtain rfl := Except.ok.inj ok
    refine iff_of_true ⟨List.nodup_nil, fun id there => (List.not_mem_nil there).elim, rfl, fun name => (Int.add_zero _).symm,
      fun name => (Int.add_zero _).symm, fun name _ => rfl, (Int.add_zero _).symm⟩ ⟨List.nodup_nil, trivial⟩
  | cons entry rest ih =>
    obtain ⟨next, one, more⟩ := splitLoop_cons ok
    have only : ∀ other, splitOne Item eqStar splitting entry.1 (moments entry.2) = .ok other → other = next :=
      fun other same => Except.ok.inj (same.symm.trans one)
    have ih := ih more
    constructor
    · intro all
      obtain ⟨fresh, once⟩ := List.nodup_cons.mp all.once
      obtain ⟨equip, split, between, found, row, rfl, took, -, bag, result⟩ := splitOne_ok one
      have gave := @addMaterials_gave Item split.1 (moments entry.2) (delItem entry.1 1 splitting.bagList).2 splitting.result
      rw [← bag, ← result] at gave
      have others : ∀ id ∈ rest.map Prod.fst, id.name ≠ entry.1.name :=
        fun id there same => fresh (List.mem_map.mpr ⟨id, there, same⟩)
      have later : ∀ name, dueOf eqStar next.bagList (rest.map Prod.fst) name = dueOf eqStar splitting.bagList (rest.map Prod.fst) name :=
        dueOf_later fun id there => took.later gave.grown (others id there)
      have due : ∀ name, dueOf eqStar splitting.bagList ((entry :: rest).map Prod.fst) name =
          total (materials split.1) name + dueOf eqStar splitting.bagList (rest.map Prod.fst) name := dueOf_cons row _
      -- each round reports at most what is due, so that the sums are right only when each part is
      have reported : ∀ name, next.result.num name = splitting.result.num name + total (materials split.1) name := by
        intro name
        have bound := gave.bound name
        have bound' := (splitLoop_bound once more name).1
        have sum := all.reported name
        rw [later] at bound'
        rw [due] at sum
        omega
      have noStack : splitting.bagList.itemList.get? entry.1.name = none := by
        by_contra full
        have fewer := took.fewer full
        have held := gave.held entry.1.name
        have held' := (splitLoop_bound once more entry.1.name).2
        have sum := all.held entry.1.name
        have sum' := all.reported entry.1.name
        rw [due] at sum sum'
        omega
      have single : equip.num ≤ 1 := by
        apply (took.gone noStack).mp
        by_contra there
        have stays := gave.grown.has (Bool.eq_true_of_not_eq_false there)
        have still := splitLoop_keeps more _ stays fresh
        rw [all.left entry.1 (List.mem_cons_self ..)] at still
        cases still
      have clean : Clean Item eqStar splitting.bagList entry.1 := by
        refine ⟨noStack, fun equip' found' => ?_, fun split' row' => ?_⟩
        · obtain rfl := Option.some.inj (found.symm.trans found')
          exact single
        · obtain rfl := Option.some.inj (row.symm.trans row')
          exact (addMaterials_complete split.1 (moments entry.2) _ splitting.result).mp (result ▸ reported)
      obtain ⟨max, held, reported, equips, gone, gold⟩ := splitOne_clean clean one
      refine ⟨all.once, clean, fun other same => only other same ▸ (ih.mp ?_).2⟩
      have sameGold : goldOf eqStar next.bagList (rest.map Prod.fst) = goldOf eqStar splitting.bagList (rest.map Prod.fst) :=
        goldOf_later fun id there => equips id.name (others id there)
      refine ⟨once, fun id there => all.left id (List.mem_cons_of_mem _ there), all.max.trans max.symm, fun name => ?_, fun name => ?_,
        fun name ne => ?_, ?_⟩
      · have sum := all.held name
        rw [List.map_cons, dueOf_head] at sum
        rw [later, held, sum, Int.add_assoc]
      · have sum := all.reported name
        rw [List.map_cons, dueOf_head] at sum
        rw [later, reported, sum, Int.add_assoc]
      · by_cases same : name = entry.1.name
        · have left := all.left entry.1 (List.mem_cons_self ..)
          rw [same, Obj.has_eq_false.mp left, Obj.has_eq_false.mp gone]
        · rw [all.equips name fun there => (List.mem_cons.mp there).elim same ne, equips name same]
      · have sum := all.gold
        rw [List.map_cons, goldOf_head] at sum
        rw [sameGold, gold, sum, Int.add_assoc]
    · rintro ⟨once, clean, later⟩
      obtain ⟨fresh, once'⟩ := List.nodup_cons.mp once
      have tail := ih.mpr ⟨once', later next one⟩
      obtain ⟨max, held, reported, equips, gone, gold⟩ := splitOne_clean clean one
      have others : ∀ id ∈ rest.map Prod.fst, id.name ≠ entry.1.name :=
        fun id there same => fresh (List.mem_map.mpr ⟨id, there, same⟩)
      have due : ∀ name, dueOf eqStar next.bagList (rest.map Prod.fst) name = dueOf eqStar splitting.bagList (rest.map Prod.fst) name :=
        dueOf_later fun id there => .inl (equips id.name (others id there))
      have sameGold : goldOf eqStar next.bagList (rest.map Prod.fst) = goldOf eqStar splitting.bagList (rest.map Prod.fst) :=
        goldOf_later fun id there => equips id.name (others id there)
      refine ⟨once, fun id there => ?_, tail.max.trans max, fun name => ?_, fun name => ?_, fun name ne => ?_, ?_⟩
      · rcases List.mem_cons.mp there with rfl | there
        · apply Obj.has_eq_false.mpr
          rw [tail.equips entry.1.name fresh]
          exact Obj.has_eq_false.mp gone
        · exact tail.left id there
      · rw [tail.held, held, due, List.map_cons, dueOf_head _ _ entry.1 (rest.map Prod.fst), Int.add_assoc]
      · rw [tail.reported, reported, due, List.map_cons, dueOf_head _ _ entry.1 (rest.map Prod.fst), Int.add_assoc]
      · obtain ⟨ne, ne'⟩ := not_or.mp (mt List.mem_cons.mpr ne)
        rw [tail.equips name ne', equips name ne]
      · rw [tail.gold, gold, sameGold, List.map_cons, goldOf_head _ _ entry.1 (rest.map Prod.fst), Int.add_assoc]

/-! ### The request -/

section
variable (tables : Tables) (player : Player) (moments : Nat → Nat → Nat → Moment)

/-- A request that succeeds has split every equip of the list, and one that fails stores nothing. -/
def SplitRight (ids : List Id) : Prop :=
  match splitEquip tables.Item tables.eqStar player ids moments with
  | .ok (after, result, gold) =>
    SplitAll tables.eqStar ids ⟨player.bagList, ⟨none, some ∅⟩, 0⟩ ⟨after.bagList, result, gold⟩ ∧
      after.baseInfo.gold = player.baseInfo.gold + goldOf tables.eqStar player.bagList ids ∧
      request tables player (.splitEquip ids moments) = after
  | .error _ => request tables player (.splitEquip ids moments) = player

/-- No equip is listed twice, and each is clean when its turn comes. -/
def SplitClean (ids : List Id) : Prop :=
  (∃ done, splitEquip tables.Item tables.eqStar player ids moments = .ok done) →
    (ids.map Id.name).Nodup ∧ AllClean tables.Item tables.eqStar moments ids.zipIdx ⟨player.bagList, ⟨none, some ∅⟩, 0⟩

end

theorem request_stored {tables : Tables} {player after : Player} {r : Request} (ok : handle tables player r = .ok after) :
    request tables player r = after := by
  unfold request
  rw [ok]

theorem request_failed {tables : Tables} {player : Player} {r : Request} {failure : Failure}
    (error : handle tables player r = .error failure) : request tables player r = player := by
  unfold request
  rw [error]

theorem requireGold_gold {gold : Int} {baseInfo paid : BaseInfo} (ok : requireGold gold baseInfo = .ok paid) :
    paid.gold = baseInfo.gold + gold := by
  unfold requireGold addPlayerGold at ok
  dsimp only at ok
  split at ok
  · cases ok
  · cases ok
  · rename_i added
    split at added
    · obtain ⟨-, rfl⟩ := Prod.mk.inj added
      obtain rfl := Except.ok.inj ok
      rfl
    · cases (Prod.mk.inj added).1

theorem splitRight_iff (tables : Tables) (player : Player) (moments : Nat → Nat → Nat → Moment) (ids : List Id) :
    SplitRight tables player moments ids ↔ SplitClean tables player moments ids := by
  unfold SplitRight SplitClean
  cases reply : splitEquip tables.Item tables.eqStar player ids moments with
  | error failure =>
    refine iff_of_true ?_ fun found => by cases found with | intro done ok => cases ok
    exact request_failed (congrArg (Prod.fst <$> ·) reply)
  | ok done =>
    obtain ⟨after, result, gold⟩ := done
    have stored : request tables player (.splitEquip ids moments) = after := request_stored (congrArg (Prod.fst <$> ·) reply)
    obtain ⟨splitting, loop, paying⟩ := bind_ok.mp reply
    obtain ⟨baseInfo, paid, ended⟩ := bind_ok.mp paying
    obtain ⟨rfl, same⟩ := Prod.mk.inj (Except.ok.inj ended)
    obtain ⟨rfl, rfl⟩ := Prod.mk.inj same
    have right := splitLoop_iff loop
    rw [show ids.zipIdx.map Prod.fst = ids from List.zipIdx_map_fst ..] at right
    show SplitAll _ _ _ splitting ∧ baseInfo.gold = _ ∧ _ ↔ _
    constructor
    · rintro ⟨all, -⟩ -
      exact right.mp all
    · intro clean
      have all := right.mpr (clean ⟨_, rfl⟩)
      refine ⟨all, ?_, stored⟩
      rw [requireGold_gold paid, all.gold]
      show _ + (0 + _) = _
      rw [Int.zero_add]

end Tinygame.Bag
