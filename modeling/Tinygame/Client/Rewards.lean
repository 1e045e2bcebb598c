import Tinygame.Client.Experience
import Tinygame.Player.CurrencyRange
import Tinygame.Player.Drops

/-!
# Rewards on the client

`AddReward` of `reward/rewardmanager.lua`, with `AddItem` and `Insert` of `storage/storagebase.lua`. The client applies the
record of a drop to its own player. It reads the diamonds of the record and does nothing with them.
-/

namespace Tinygame.Client.Rewards
open Bag (Id ItemTable ItemCell EquipInfo BagList Moment mainTypeEquip)
open Player (InRange)
open Player.Drops (Holdings DropRow dropPool give getPoolThing)
open Hero (Exprience Grown grantAll)
open Experience (addExp Ranked Short)

/-! ### The client's player -/

/-- An item of the bag, with the `itemTepy` of its row. -/
structure BagItem where
  typeGenre : Int
  num : Int

def BagItem.isEquip (item : BagItem) : Bool := item.typeGenre = mainTypeEquip

structure Me where
  gold : Int
  diamond : Int
  grown : Grown
  bag : Obj BagItem

/-- What `Insert` leaves under an index. An equip has no number and does not stack. -/
def inserted (item : BagItem) : Option BagItem → BagItem
  | none => item
  | some obj => if item.typeGenre ≠ mainTypeEquip then { obj with num := obj.num + item.num } else obj

def insert (nIndex : String) (item : BagItem) (bag : Obj BagItem) : Obj BagItem := bag.set nIndex (inserted item (bag.get? nIndex))

section
variable (Item : ItemTable)

/-- Without an `id` the index is the id. The type of an item without a row is an error. -/
def addItem (nIndex : String) (id : Option Id) (num : Int) (bag : Obj BagItem) : Option (Obj BagItem) :=
  match Item.rows.get? ((id.map Id.name).getD nIndex) with
  | none => none
  | some row =>
    if row.itemTepy = mainTypeEquip then some (insert nIndex ⟨row.itemTepy, 1⟩ bag) else some (insert nIndex ⟨row.itemTepy, num⟩ bag)

/-- `AddItem` of the manager. -/
def addItems (tbItems : Bag.Record) (bag : Obj BagItem) : Option (Obj BagItem) := do
  let bag ← (tbItems.itemList.getD ∅).entries.foldlM (fun bag e => addItem Item e.1 none e.2.num bag) bag
  (tbItems.equipList.getD ∅).entries.foldlM (fun bag e => addItem Item e.1 e.2.id e.2.num bag) bag

/-- `nDiamond` is read and not used. -/
def addReward (l_tbLevelUpExp : Exprience) (tbArg : Player.Drops.Record) (me : Me) : Option Me := do
  let me := if tbArg.gold > 0 then { me with gold := me.gold + tbArg.gold } else me
  let me := if tbArg.team_exp > 0 then { me with grown := addExp l_tbLevelUpExp tbArg.team_exp me.grown } else me
  let bag ← addItems Item tbArg.things me.bag
  return { me with bag }

end

/-! ### Mirrors -/

/-- The number of an item; an equip is none. -/
def amount (item : Option BagItem) : Int := item.elim 0 fun item => if item.isEquip then 0 else item.num

def holdsEquip (item : Option BagItem) : Bool := item.elim false BagItem.isEquip

/-- The client has what the server has. -/
structure Mirrors (me : Me) (holdings : Holdings) : Prop where
  gold : me.gold = holdings.baseInfo.gold
  diamond : me.diamond = holdings.baseInfo.diamond
  grown : me.grown = holdings.baseInfo.grown
  items : ∀ name, amount (me.bag.get? name) = holdings.bagList.held name
  equips : ∀ index, holdsEquip (me.bag.get? index) = holdings.bagList.equipList.has index

/-- The experience that drops for the team, one after another. -/
def teamExps (things : List (Id × Nat)) : List Int :=
  (things.filter fun thing => thing.1.same (.text "teamexp")).map fun thing => (thing.2 : Int)

/-- The client climbs with the sum as the server does, or nothing is granted and the server has no level to climb. -/
def ExpFits (table : Exprience) (exps : List Int) (mine : Grown) : Prop :=
  if 0 < exps.sum then Short table mine exps.sum else exps = [] ∨ mine.curExp < Hero.getExpForUpgradeLevel table mine.level

/-- No index stands for an item and for an equip, and that of a new equip stands for nothing yet. -/
def Apart (me : Me) (things : Bag.Record) : Prop :=
  ∀ name, ((things.itemList.getD ∅).has name = true → holdsEquip (me.bag.get? name) = false) ∧
    ((things.equipList.getD ∅).has name = true → me.bag.get? name = none ∧ (things.itemList.getD ∅).has name = false)

/-! ### Several grants -/

section
variable {table : Exprience} {mine : Grown} {exps : List Int} {exp : Int}

theorem addPlayerExp_served (ranked : Ranked mine) (exp : Int) :
    (Hero.addPlayerExp table exp mine).1 = Experience.served table exp mine := by
  have start := ranked.1
  exact Hero.addPlayerExp_eq (by omega)

theorem grantAll_cons (table : Exprience) (exp : Int) (exps : List Int) (mine : Grown) :
    (grantAll table (exp :: exps) mine).1 = (grantAll table exps (Hero.addPlayerExp table exp mine).1).1 := by
  induction exps using List.reverseRecOn with
  | nil => rfl
  | append_singleton exps last ih => rw [← List.cons_append, Hero.grantAll_snoc, Hero.grantAll_snoc, ih]

theorem grantAll_ranked (ranked : Ranked mine) (exps : List Int) : Ranked (grantAll table exps mine).1 := by
  induction exps generalizing mine with
  | nil => exact ranked
  | cons exp exps ih =>
    rw [grantAll_cons, addPlayerExp_served ranked]
    exact ih (Experience.served_ranked _ ranked exp)

theorem grantAll_total_le (ranked : Ranked mine) (exps : List Int) :
    (grantAll table exps mine).1.total table ≤ mine.total table + exps.sum := by
  induction exps generalizing mine with
  | nil => simp [grantAll]
  | cons exp exps ih =>
    rw [grantAll_cons, addPlayerExp_served ranked, List.sum_cons]
    have first := Experience.served_total_le table ranked.1 exp
    have rest := ih (Experience.served_ranked table ranked exp)
    omega

/-- Piece by piece the server climbs as the client does with the whole. -/
theorem grantAll_of_short (ranked : Ranked mine) (some_ : exps ≠ []) (nonneg : ∀ exp ∈ exps, 0 ≤ exp)
    (short : Short table mine exps.sum) : (grantAll table exps mine).1 = addExp table exps.sum mine := by
  induction exps generalizing mine with
  | nil => exact absurd rfl some_
  | cons exp exps ih =>
    obtain ⟨_, later⟩ := List.forall_mem_cons.mp nonneg
    have rest := List.sum_nonneg later
    rw [List.sum_cons] at short ⊢
    have first : Short table mine exp := short.less (by omega)
    rw [grantAll_cons, addPlayerExp_served ranked, Experience.served_of_short ranked first]
    cases exps with
    | nil => simp [grantAll]
    | cons next exps =>
      rw [ih (Experience.addExp_ranked ranked first) (List.cons_ne_nil _ _) later (short.after ranked.1),
        Experience.addExp_add _ _ _ rest]

/-! ### Nothing granted -/

theorem climb_curExp_le (table : Exprience) (mine : Grown) : (Hero.climb table mine).curExp ≤ mine.curExp := by
  apply whileDo_related (R := fun s t : Grown => t.curExp ≤ s.curExp) Hero.upgrade_lowers
  · intro s _
    exact le_refl _
  · intro s t _ later
    have cost := Hero.cost_pos table s.level
    simp only [Hero.upgrade] at later
    omega

theorem grantAll_zero_le (table : Exprience) (ranked : Ranked mine) (zero : ∀ exp ∈ exps, exp = 0) :
    (grantAll table exps mine).1.curExp ≤ mine.curExp := by
  induction exps generalizing mine with
  | nil => exact le_refl _
  | cons exp exps ih =>
    obtain ⟨rfl, later⟩ := List.forall_mem_cons.mp zero
    rw [grantAll_cons, addPlayerExp_served ranked]
    have rest := ih (Experience.served_ranked table ranked 0) later
    have first : (Hero.climb table (mine.granted 0)).curExp ≤ (mine.granted 0).curExp := climb_curExp_le table (mine.granted 0)
    have nothing : (mine.granted 0).curExp = mine.curExp := Int.add_zero _
    exact (rest.trans first).trans nothing.le

/-- Grants of nothing leave alone who has no level to climb, and nobody else. -/
theorem grantAll_zero_iff (ranked : Ranked mine) (zero : ∀ exp ∈ exps, exp = 0) :
    mine = (grantAll table exps mine).1 ↔ exps = [] ∨ mine.curExp < Hero.getExpForUpgradeLevel table mine.level := by
  have nothing : mine.granted 0 = mine := by simp [Grown.granted]
  cases exps with
  | nil => simp [grantAll]
  | cons exp exps =>
    obtain ⟨rfl, later⟩ := List.forall_mem_cons.mp zero
    constructor
    · intro same
      refine .inr ?_
      by_contra enough
      have going : Hero.canUpgrade table mine = true := Hero.canUpgrade_iff.mpr (Int.not_lt.mp enough)
      have rest := grantAll_zero_le table (Experience.served_ranked table ranked 0) later
      have first := climb_curExp_le table (Hero.upgrade table mine)
      have cost := Hero.cost_pos table mine.level
      rw [grantAll_cons, addPlayerExp_served ranked] at same
      rw [← same] at rest
      unfold Experience.served at rest
      rw [nothing, Hero.climb_eq, if_pos going] at rest
      simp only [Hero.upgrade] at first rest
      omega
    · rintro (none_ | settled)
      · exact absurd none_ (List.cons_ne_nil _ _)
      · have still : ∀ exps : List Int, (∀ exp ∈ exps, exp = 0) → (grantAll table exps mine).1 = mine := by
          intro exps zero
          induction exps with
          | nil => rfl
          | cons exp exps ih =>
            obtain ⟨rfl, later⟩ := List.forall_mem_cons.mp zero
            have short : Hero.canUpgrade table mine = false := Hero.canUpgrade_eq_false.mpr settled
            have first : Experience.served table 0 mine = mine := by
              unfold Experience.served Hero.uncapped
              rw [nothing, Hero.climb_eq, short]
              exact congrArg (Grown.mk · mine.curExp) (Hero.limitLevel_of_le ranked.2)
            rw [grantAll_cons, addPlayerExp_served ranked, first, ih later]
        exact (still _ zero).symm

theorem exp_agrees_iff (table : Exprience) (ranked : Ranked mine) (nonneg : ∀ exp ∈ exps, 0 ≤ exp) :
    (if exps.sum > 0 then addExp table exps.sum mine else mine) = (grantAll table exps mine).1 ↔ ExpFits table exps mine := by
  unfold ExpFits
  by_cases some_ : 0 < exps.sum
  · rw [if_pos some_, if_pos some_]
    constructor
    · intro same
      exact (Experience.short_of_same ranked.1 (le_refl _) (grantAll_total_le ranked exps) (grantAll_ranked ranked exps).2 same).2
    · intro short
      have given : exps ≠ [] := by
        rintro rfl
        exact lt_irrefl _ some_
      exact (grantAll_of_short ranked given nonneg short).symm
  · have none_ : exps.sum = 0 := le_antisymm (Int.not_lt.mp some_) (List.sum_nonneg nonneg)
    rw [if_neg some_, if_neg some_]
    exact grantAll_zero_iff ranked fun exp => List.all_zero_of_le_zero_le_of_sum_eq_zero nonneg none_

end

/-! ### What a record holds -/

/-- Items that are counted and are no equips, and equips that are. -/
structure Listed (Item : ItemTable) (things : Bag.Record) : Prop where
  items : ∀ name cell, (things.itemList.getD ∅).get? name = some cell →
    0 < cell.num ∧ ∃ row, Item.rows.get? name = some row ∧ row.itemTepy ≠ mainTypeEquip
  equips : ∀ index info, (things.equipList.getD ∅).get? index = some info →
    ∃ id row, info.id = some id ∧ Item.rows.get? id.name = some row ∧ row.itemTepy = mainTypeEquip

section
variable {Item : ItemTable} {things : Bag.Record} {bagList : BagList}

theorem Listed.empty (Item : ItemTable) : Listed Item Player.Drops.Record.empty.things where
  items name cell found := by simp [Player.Drops.Record.empty] at found
  equips index info found := by simp [Player.Drops.Record.empty] at found

theorem tryAddItem_pos {itemID : Id} {num : Int} (fits : Bag.tryAddItem Item itemID num bagList = true) : 0 < num := by
  unfold Bag.tryAddItem at fits
  by_contra nothing
  rw [if_pos (Int.not_lt.mp nothing)] at fits
  cases fits

theorem Listed.addItem (listed : Listed Item things) {itemID : Id} {num : Int} {row : Bag.ItemRow} (positive : 0 < num)
    (found : Item.rows.get? itemID.name = some row) (other : row.itemTepy ≠ mainTypeEquip) : Listed Item (things.addItem itemID num) where
  items name cell there := by
    unfold Bag.Record.addItem at there
    dsimp only at there
    rw [Option.getD_some, Obj.get?_set] at there
    split at there
    · rename_i same
      subst same
      obtain rfl := Option.some.inj there
      refine ⟨?_, row, found, other⟩
      cases before : (things.itemList.getD ∅).get? itemID.name with
      | none => simpa using positive
      | some old =>
        have counted := (listed.items _ old before).1
        simp only [Option.map_some, Option.getD_some]
        omega
    · exact listed.items name cell there
  equips := listed.equips

theorem Listed.addEquip (listed : Listed Item things) {itemID : Id} {row : Bag.ItemRow} (index : Int) {info : EquipInfo}
    (made : info.id = some itemID) (found : Item.rows.get? itemID.name = some row) (equip : row.itemTepy = mainTypeEquip) :
    Listed Item (things.addEquip index info) where
  items := listed.items
  equips name other there := by
    unfold Bag.Record.addEquip at there
    dsimp only at there
    rw [Option.getD_some, Obj.get?_set] at there
    split at there
    · obtain rfl := Option.some.inj there
      exact ⟨itemID, row, made, found, equip⟩
    · exact listed.equips name other there

theorem awardEquips_listed {itemID : Id} {row : Bag.ItemRow} (found : Item.rows.get? itemID.name = some row)
    (equip : row.itemTepy = mainTypeEquip) (left : Nat) (moments : Nat → Moment) (bagList : BagList) (listed : Listed Item things) :
    Listed Item (Bag.awardEquips Item itemID row left moments bagList things).2.2 :=
  Bag.awardEquips_induct (fun _ things => Listed Item things) (fun _ _ _ _ listed => listed.addEquip _ rfl found equip) left moments
    listed

theorem getItemAward_listed (itemID : Id) (itemNum : Int) (moments : Nat → Moment) (bagList : BagList) (listed : Listed Item things) :
    Listed Item (Bag.getItemAward Item itemID itemNum moments bagList things).2.2 := by
  cases found : Item.rows.get? itemID.name with
  | none =>
    rw [Bag.getItemAward_none moments bagList things found]
    exact listed
  | some row =>
    by_cases equip : row.itemTepy = mainTypeEquip
    · rw [Bag.getItemAward_equip moments bagList things found equip]
      exact awardEquips_listed found equip _ moments bagList listed
    · cases fits : Bag.tryAddItem Item itemID itemNum bagList with
      | false =>
        rw [Bag.getItemAward_refused moments things found equip fits]
        exact listed
      | true =>
        rw [Bag.getItemAward_item moments things found equip fits]
        exact listed.addItem (tryAddItem_pos fits) found equip

end

/-! ### What a drop does -/

/-- What holds of a drop under way, with the experience granted so far. -/
structure Dropped (table : Exprience) (Item : ItemTable) (before : Holdings) (exps : List Int)
    (dropped : Holdings × Player.Drops.Record) : Prop where
  grown : dropped.1.baseInfo.grown = (grantAll table exps before.baseInfo.grown).1
  exp : dropped.2.team_exp = exps.sum
  range : InRange dropped.1.baseInfo.gold
  gold : before.baseInfo.gold ≤ dropped.1.baseInfo.gold
  listed : Listed Item dropped.2.things

section
variable {table : Exprience} {Item : ItemTable} {before : Holdings} {exps : List Int}
  {dropped : Holdings × Player.Drops.Record}

theorem same_text {id : Id} {name : String} (same : id.same (.text name) = true) : id = .text name := by
  cases id with
  | object _ => cases same
  | _ => exact of_decide_eq_true same

theorem teamExps_other {thing : Id × Nat} (other : ¬ thing.1.same (.text "teamexp") = true) : teamExps [thing] = [] := by
  simp [teamExps, other]

theorem teamExps_cons (thing : Id × Nat) (things : List (Id × Nat)) : teamExps (thing :: things) = teamExps [thing] ++ teamExps things := by
  unfold teamExps
  rw [← List.map_append, ← List.filter_append]
  rfl

theorem teamExps_nonneg (things : List (Id × Nat)) : ∀ exp ∈ teamExps things, 0 ≤ exp := by
  intro exp member
  obtain ⟨thing, -, rfl⟩ := List.mem_map.mp member
  exact Int.natCast_nonneg _

/-- In the range gold only grows. -/
theorem addValue_grows {gold : Int} (range : InRange gold) (value : Nat) :
    InRange (Player.addValue (gold + value)) ∧ gold ≤ Player.addValue (gold + value) := by
  obtain ⟨low, high⟩ := range
  unfold Player.commonValueMin at low
  refine ⟨Player.addValue_range (by omega), ?_⟩
  unfold Player.addValue
  split <;> omega

theorem getPoolThing_dropped (sofar : Dropped table Item before exps dropped) (valueType : Id) (value : Nat) (moments : Nat → Moment) :
    Dropped table Item before (exps ++ teamExps [(valueType, value)])
      (getPoolThing table Item valueType value moments dropped.1 dropped.2) := by
  unfold getPoolThing
  dsimp only
  split
  · rename_i same
    obtain rfl := same_text same
    rw [teamExps_other (show ¬ (Id.text "gold").same (.text "teamexp") = true by decide), List.append_nil]
    obtain ⟨range, grows⟩ := addValue_grows sofar.range value
    exact { sofar with range, gold := sofar.gold.trans grows }
  split
  · rename_i same
    obtain rfl := same_text same
    rw [teamExps_other (show ¬ (Id.text "rmb").same (.text "teamexp") = true by decide), List.append_nil]
    exact { sofar with }
  split
  · rename_i same
    obtain rfl := same_text same
    refine { sofar with grown := ?_, exp := ?_ }
    · have added : teamExps [(.text "teamexp", value)] = [(value : Int)] := rfl
      rw [added, Hero.grantAll_snoc, ← sofar.grown]
    · have added : teamExps [(.text "teamexp", value)] = [(value : Int)] := rfl
      rw [added, List.sum_append, List.sum_singleton, ← sofar.exp]
  rename_i other
  rw [teamExps_other other, List.append_nil]
  split
  · exact sofar
  split
  · split
    · exact { sofar with }
    · exact sofar
  split
  · exact sofar
  · exact { sofar with listed := getItemAward_listed valueType value moments _ sofar.listed }

theorem give_dropped (moments : Nat → Nat → Moment) (things : List (Id × Nat)) (start : Nat)
    (sofar : Dropped table Item before exps dropped) :
    Dropped table Item before (exps ++ teamExps things) (give table Item moments things start dropped) := by
  induction things generalizing start dropped exps with
  | nil =>
    rw [show teamExps [] = [] from rfl, List.append_nil]
    exact sofar
  | cons thing things ih =>
    rw [Player.Drops.give_cons, teamExps_cons, ← List.append_assoc]
    exact ih (start + 1) (getPoolThing_dropped sofar thing.1 thing.2 (moments start))

end

/-! ### The bag of the client -/

section
variable {Item : ItemTable} {things : Bag.Record} {name : String} {old : Option BagItem}

theorem insert_get? (nIndex : String) (item : BagItem) (bag : Obj BagItem) (name : String) :
    (insert nIndex item bag).get? name = if name = nIndex then some (inserted item (bag.get? nIndex)) else bag.get? name :=
  Obj.get?_set bag nIndex name _

def typeGenre (Item : ItemTable) (name : String) : Int := (Item.rows.get? name).elim 0 Bag.ItemRow.itemTepy

/-- What stands under an index after the items, and then after the equips. -/
def afterItems (Item : ItemTable) (things : Bag.Record) (name : String) (old : Option BagItem) : Option BagItem :=
  ((things.itemList.getD ∅).get? name).elim old fun cell => some (inserted ⟨typeGenre Item name, cell.num⟩ old)

def afterEquips (things : Bag.Record) (name : String) (old : Option BagItem) : Option BagItem :=
  ((things.equipList.getD ∅).get? name).elim old fun _ => some (inserted ⟨mainTypeEquip, 1⟩ old)

/-- The items as they are inserted, and the equips. -/
def insertItems (Item : ItemTable) (things : Bag.Record) (bag : Obj BagItem) : Obj BagItem :=
  (things.itemList.getD ∅).entries.foldl (fun bag e => insert e.1 ⟨typeGenre Item e.1, e.2.num⟩ bag) bag

def insertEquips (things : Bag.Record) (bag : Obj BagItem) : Obj BagItem :=
  (things.equipList.getD ∅).entries.foldl (fun bag e => insert e.1 ⟨mainTypeEquip, 1⟩ bag) bag

theorem addItems_eq (listed : Listed Item things) (bag : Obj BagItem) :
    addItems Item things bag = some (insertEquips things (insertItems Item things bag)) := by
  have items : (things.itemList.getD ∅).entries.foldlM (fun bag e => addItem Item e.1 none e.2.num bag) bag =
      some (insertItems Item things bag) := by
    apply foldlM_some
    intro bag e member
    obtain ⟨-, row, found, other⟩ := listed.items e.1 e.2 (AList.mem_lookup_iff.mpr member)
    simp [addItem, found, other, typeGenre]
  have equips (bag : Obj BagItem) : (things.equipList.getD ∅).entries.foldlM (fun bag e => addItem Item e.1 e.2.id e.2.num bag) bag =
      some (insertEquips things bag) := by
    apply foldlM_some
    intro bag e member
    obtain ⟨id, row, made, found, equip⟩ := listed.equips e.1 e.2 (AList.mem_lookup_iff.mpr member)
    simp [addItem, made, found, equip]
  unfold addItems
  rw [items]
  exact equips _

theorem insertItems_get? (Item : ItemTable) (things : Bag.Record) (bag : Obj BagItem) (name : String) :
    (insertItems Item things bag).get? name = afterItems Item things name (bag.get? name) :=
  Obj.get?_foldl (f := fun bag k (cell : ItemCell) => insert k ⟨typeGenre Item k, cell.num⟩ bag)
    (g := fun k cell old => some (inserted ⟨typeGenre Item k, cell.num⟩ old)) (fun bag k _ k' => insert_get? k _ bag k') _ bag name

theorem insertEquips_get? (things : Bag.Record) (bag : Obj BagItem) (name : String) :
    (insertEquips things bag).get? name = afterEquips things name (bag.get? name) :=
  Obj.get?_foldl (f := fun bag k (_ : EquipInfo) => insert k ⟨mainTypeEquip, 1⟩ bag)
    (g := fun _ _ old => some (inserted ⟨mainTypeEquip, 1⟩ old)) (fun bag k _ k' => insert_get? k _ bag k') _ bag name

/-- What stands under an index afterwards is right exactly when the index stood for nothing else. -/
theorem after_right_iff (listed : Listed Item things) (name : String) (old : Option BagItem)
    (entered : (things.equipList.getD ∅).has name = true → holdsEquip old = false) :
    (amount (afterEquips things name (afterItems Item things name old)) = amount old + things.num name ∧
        holdsEquip (afterEquips things name (afterItems Item things name old)) = (holdsEquip old || (things.equipList.getD ∅).has name)) ↔
      ((things.itemList.getD ∅).has name = true → holdsEquip old = false) ∧
        ((things.equipList.getD ∅).has name = true → old = none ∧ (things.itemList.getD ∅).has name = false) := by
  unfold afterEquips afterItems Bag.Record.num Obj.has at *
  cases item : (things.itemList.getD ∅).get? name with
  | none =>
    cases equip : (things.equipList.getD ∅).get? name with
    | none => simp
    | some info =>
      rw [equip] at entered
      cases old with
      | none => simp [amount, holdsEquip, inserted, BagItem.isEquip]
      | some obj =>
        have apart : obj.isEquip = false := entered rfl
        simp [amount, holdsEquip, inserted, apart]
  | some cell =>
    obtain ⟨positive, row, found, other⟩ := listed.items name cell item
    have genre : typeGenre Item name ≠ mainTypeEquip := by
      rw [typeGenre, found]
      exact other
    cases old with
    | none => cases (things.equipList.getD ∅).get? name <;> simp [amount, holdsEquip, inserted, BagItem.isEquip, genre]
    | some obj =>
      cases equip : obj.isEquip with
      | true =>
        have stacked : ({ obj with num := obj.num + cell.num } : BagItem).isEquip = true := equip
        have more : 0 ≠ cell.num := by omega
        cases (things.equipList.getD ∅).get? name <;> simp [amount, holdsEquip, inserted, genre, equip, stacked, more]
      | false =>
        have stacked : ({ obj with num := obj.num + cell.num } : BagItem).isEquip = false := equip
        cases (things.equipList.getD ∅).get? name <;> simp [amount, holdsEquip, inserted, genre, equip, stacked]

theorem addReward_eq (l_tbLevelUpExp : Exprience) {record : Player.Drops.Record} (listed : Listed Item record.things) (me : Me) :
    addReward Item l_tbLevelUpExp record me = some {
      gold := if record.gold > 0 then me.gold + record.gold else me.gold
      diamond := me.diamond
      grown := if record.team_exp > 0 then addExp l_tbLevelUpExp record.team_exp me.grown else me.grown
      bag := insertEquips record.things (insertItems Item record.things me.bag) } := by
  unfold addReward
  by_cases gold : record.gold > 0 <;> by_cases exp : record.team_exp > 0 <;> simp [gold, exp, addItems_eq listed]

/-- The equips after a drop are those before it and those of the record. -/
theorem entered_has {before after : BagList} {equipList : Obj EquipInfo} (entered : Player.Drops.Entered before after equipList)
    (index : String) : after.equipList.has index = (before.equipList.has index || equipList.has index) := by
  unfold Obj.has
  cases found : equipList.get? index with
  | none => simp [entered.2 index found]
  | some info => simp [(entered.1 index info found).2]

theorem bag_mirrors_iff {me : Me} {before after : BagList} (listed : Listed Item things)
    (entered : Player.Drops.Entered before after (things.equipList.getD ∅))
    (held : ∀ name, after.held name = before.held name + things.num name)
    (items : ∀ name, amount (me.bag.get? name) = before.held name)
    (equips : ∀ index, holdsEquip (me.bag.get? index) = before.equipList.has index) :
    ((∀ name, amount ((insertEquips things (insertItems Item things me.bag)).get? name) = after.held name) ∧
        ∀ index, holdsEquip ((insertEquips things (insertItems Item things me.bag)).get? index) = after.equipList.has index) ↔
      Apart me things := by
  rw [← forall_and]
  apply forall_congr'
  intro name
  rw [insertEquips_get?, insertItems_get?, held, entered_has entered, ← items, ← equips]
  apply after_right_iff listed
  intro new
  obtain ⟨info, found⟩ := Obj.has_iff.mp new
  rw [equips, Obj.has_eq_false]
  exact (entered.1 name info found).1

end

/-- After a drop the client has what the server has where the drop held no diamonds, its experience fits and its indices
are apart. -/
theorem mirrors_iff (table : Exprience) (Item : ItemTable) (Drop : Id → Option DropRow) (id : Id) (row : DropRow)
    (there : Drop id = some row) (draws : Nat → Nat) (moments : Nat → Nat → Moment) (before : Holdings) {after : Holdings}
    {record : Player.Drops.Record}
    (ok : dropPool table Item Drop id draws moments before = .ok (after, record)) (range : InRange before.baseInfo.gold)
    (ranked : Ranked before.baseInfo.grown) {me : Me} (mirrors : Mirrors me before) :
    (∃ me', addReward Item table record me = some me' ∧ Mirrors me' after) ↔
      record.diamond = 0 ∧ ExpFits table (teamExps row.foreverDrop) before.baseInfo.grown ∧ Apart me record.things := by
  obtain ⟨-, given⟩ := Player.Drops.dropPool_ok there ok
  have matched : Player.Drops.Matches table before (give table Item moments row.foreverDrop 0 (before, .empty)).1
      (give table Item moments row.foreverDrop 0 (before, .empty)).2 :=
    Player.Drops.give_matches moments row.foreverDrop 0 (Player.Drops.Matches.refl table before)
  have dropped : Dropped table Item before ([] ++ teamExps row.foreverDrop)
      (give table Item moments row.foreverDrop 0 (before, .empty)) :=
    give_dropped moments row.foreverDrop 0 ⟨rfl, rfl, range, le_refl _, Listed.empty Item⟩
  rw [← given] at matched dropped
  rw [List.nil_append] at dropped
  have gold : (if record.gold > 0 then me.gold + record.gold else me.gold) = after.baseInfo.gold := by
    have sum : after.baseInfo.gold = before.baseInfo.gold + record.gold := matched.gold
    have grows : before.baseInfo.gold ≤ after.baseInfo.gold := dropped.gold
    have same := mirrors.gold
    split <;> omega
  have diamonds : after.baseInfo.diamond = me.diamond + record.diamond := by
    rw [mirrors.diamond]
    exact matched.diamond
  have grown := exp_agrees_iff table ranked (teamExps_nonneg row.foreverDrop)
  rw [← dropped.exp, ← dropped.grown, ← mirrors.grown] at grown
  have bag := bag_mirrors_iff dropped.listed matched.equips matched.items mirrors.items mirrors.equips
  rw [addReward_eq table dropped.listed me, ← mirrors.grown, ← grown, ← bag]
  constructor
  · rintro ⟨me', applied, mirrored⟩
    obtain rfl := Option.some.inj applied
    have same : me.diamond = after.baseInfo.diamond := mirrored.diamond
    exact ⟨by omega, mirrored.grown, mirrored.items, mirrored.equips⟩
  · rintro ⟨none_, grown, items, equips⟩
    have diamond : me.diamond = after.baseInfo.diamond := by omega
    exact ⟨_, rfl, ⟨gold, diamond, grown, items, equips⟩⟩

/-! ### A drop of diamonds -/

def onlyAlways (things : List (Id × Nat)) : DropRow where
  foreverDrop := things
  number := none
  tepy _ := none

/-- A new player as the server has it, and as the client has it. -/
def newcomer : Holdings := ⟨⟨0, 0, ⟨1, 0⟩⟩, Bag.createRobotBagList, ⟨none⟩⟩

def newcomerMe : Me := ⟨0, 0, ⟨1, 0⟩, ∅⟩

theorem newcomer_mirrors : Mirrors newcomerMe newcomer := ⟨rfl, rfl, rfl, fun _ => rfl, fun _ => rfl⟩

def dropOf (things : List (Id × Nat)) : Except Bag.Failure (Holdings × Player.Drops.Record) :=
  dropPool Hero.flatLevels .none (fun _ => some (onlyAlways things)) (.number 10001) (fun _ => 0) (fun _ _ => ⟨0, 0, 0⟩) newcomer

/-- Five diamonds drop, and the client has none. -/
theorem diamonds_lost : ∃ after record, dropOf [(.text "rmb", 5)] = .ok (after, record) ∧ InRange newcomer.baseInfo.gold ∧
    Ranked newcomer.baseInfo.grown ∧ Mirrors newcomerMe newcomer ∧
    ¬ ∃ me', addReward .none Hero.flatLevels record newcomerMe = some me' ∧ Mirrors me' after := by
  refine ⟨_, _, rfl, ⟨by decide, by decide⟩, ⟨by decide, by decide⟩, newcomer_mirrors, ?_⟩
  rintro ⟨me', applied, mirrored⟩
  obtain rfl := Option.some.inj applied
  have diamond : (0 : Int) = 5 := mirrored.diamond
  exact absurd diamond (by decide)

theorem mirrors_iff_gold :
    (∃ me', addReward .none Hero.flatLevels ⟨500, 0, 0, none, ⟨none, none⟩⟩ newcomerMe = some me' ∧
        Mirrors me' ⟨⟨500, 0, ⟨1, 0⟩⟩, Bag.createRobotBagList, ⟨none⟩⟩) ↔
      (0 : Int) = 0 ∧ ExpFits Hero.flatLevels (teamExps [(.text "gold", 500)]) ⟨1, 0⟩ ∧ Apart newcomerMe ⟨none, none⟩ :=
  mirrors_iff Hero.flatLevels .none (fun _ => some (onlyAlways [(.text "gold", 500)])) (.number 10001) (onlyAlways [(.text "gold", 500)])
    rfl (fun _ => 0) (fun _ _ => ⟨0, 0, 0⟩) newcomer rfl ⟨by decide, by decide⟩ ⟨by decide, by decide⟩ newcomer_mirrors

end Tinygame.Client.Rewards
