import Tinygame.Base.Run
import Tinygame.Bag.Amounts

/-!
# Composing

`compose` of `item_imp.js`: as often as it is asked, the materials of a recipe are taken out of the bag and its target is
put in.
-/

namespace Tinygame.Bag

/-- A row of `config/equip/compose`. -/
structure ComposeRow where
  itemId : Id
  /-- The materials in enumeration order. -/
  demandItemId : List (Id × Int)

structure Recipes where
  Item : ItemTable
  /-- The column `compose` of `Item`. -/
  composeIds : String → Id
  Compose : Obj ComposeRow

/-- The bag and what is reported so far. -/
structure Composing where
  bagList : BagList
  targetNum : Nat
  costings : Obj Int

def addCosting (costings : Obj Int) (entry : Id × Int) : Obj Int :=
  costings.set entry.1.name ((costings.get? entry.1.name).getD 0 + entry.2)

/-- One round of the loop that takes the materials. When it fails the target is not added, which sets the return code. -/
def takeDemand (composing : Composing) (entry : Id × Int) : Except Failure Composing := do
  let deleted := delItem entry.1 entry.2 composing.bagList
  require (deleted.1 = true) (.retCode 1103)
  return { composing with bagList := deleted.2, costings := addCosting composing.costings entry }

section
variable (Item : ItemTable)

def composeOne (row : ComposeRow) (itemID : Id) (composing : Composing) : Except Failure Composing := do
  require (0 < getItemNum itemID composing.bagList) (.retCode 1009)
  require (∀ entry ∈ row.demandItemId, entry.2 ≤ getItemNum entry.1 composing.bagList) (.retCode 1008)
  require (1 ≤ getLeftRoom Item composing.bagList) (.retCode 1102)
  let taken ← row.demandItemId.foldlM takeDemand composing
  let added := addItem Item row.itemId 1 taken.bagList
  require (added.1 = true) (.retCode 1103)
  return { taken with bagList := added.2, targetNum := taken.targetNum + 1 }

def composeTimes (row : ComposeRow) (itemID : Id) : Nat → Composing → Except Failure Composing
  | 0, composing => .ok composing
  | n + 1, composing => do
    let composing ← composeOne Item row itemID composing
    composeTimes row itemID n composing

end

/-- The target and the rest of the answer, with the bag to be stored. -/
def compose (recipes : Recipes) (bagList : BagList) (itemID composeID : Id) (num : Nat) : Except Failure (Id × Composing) := do
  let row ← present (recipes.Compose.get? composeID.name) .typeError
  require (recipes.Item.rows.has itemID.name = true) (.retCode 1006)
  require ((recipes.composeIds itemID.name).same composeID = true) (.retCode 1005)
  let composing ← composeTimes recipes.Item row itemID num ⟨bagList, 0, ∅⟩
  return (row.itemId, composing)

/-- The bag that is stored afterwards. -/
def composed (recipes : Recipes) (bagList : BagList) (itemID composeID : Id) (num : Nat) : BagList :=
  match compose recipes bagList itemID composeID num with
  | .ok done => done.2.bagList
  | .error _ => bagList

/-! ### The sums -/

/-- What `num` rounds change of the amounts. -/
def ComposeRow.gain (row : ComposeRow) (num : Nat) (name : String) : Int :=
  just row.itemId.name num name - num * total row.demandItemId name

/-- The materials of a recipe were taken and its target was given that often, and this is what is reported. -/
structure Composed (row : ComposeRow) (num : Nat) (bagList : BagList) (target : Id) (done : Composing) : Prop where
  target : target = row.itemId
  count : done.targetNum = num
  costings : ∀ name, done.costings.get? name =
    if 0 < num ∧ name ∈ names row.demandItemId then some (num * total row.demandItemId name) else none
  moved : Moved (names row.demandItemId) [row.itemId.name] (row.gain num) bagList done.bagList

variable {Item : ItemTable} {row : ComposeRow} {itemID : Id} {entries : List (Id × Int)} {composing done : Composing}

/-- What is reported of a name. -/
def costing (costings : Obj Int) (name : String) : Int := (costings.get? name).getD 0

/-- The reported costs have grown by these, and just for these names. -/
structure Costed (names : List String) (change : String → Int) (before after : Obj Int) : Prop where
  costing : ∀ name, costing after name = costing before name + change name
  has : ∀ name, after.has name = true ↔ before.has name = true ∨ name ∈ names

theorem gain_add (row : ComposeRow) (m n : Nat) (name : String) : row.gain (m + n) name = row.gain m name + row.gain n name := by
  unfold ComposeRow.gain
  rw [Int.natCast_add, just_add, Int.add_mul]
  omega

theorem takeDemand_ok {entry : Id × Int} (ok : takeDemand composing entry = .ok done) :
    Moved [entry.1.name] [] (just entry.1.name (-entry.2)) composing.bagList done.bagList ∧
      Costed [entry.1.name] (just entry.1.name entry.2) composing.costings done.costings ∧ done.targetNum = composing.targetNum := by
  obtain ⟨_, deleted, ok⟩ := bind_ok.mp ok
  obtain rfl := Except.ok.inj ok
  refine ⟨delItem_moved (require_ok.mp deleted), ⟨fun name => ?_, fun name => ?_⟩, rfl⟩
  · unfold costing addCosting
    dsimp only
    rw [Obj.get?_set]
    by_cases same : name = entry.1.name
    · rw [if_pos same, same, just_self]
      rfl
    · rw [if_neg same, just_of_ne same, Int.add_zero]
  · unfold addCosting
    rw [Obj.has_set, List.mem_singleton, Bool.or_eq_true, decide_eq_true_eq]
    exact Or.comm

theorem takeDemands_ok (ok : entries.foldlM takeDemand composing = .ok done) :
    Moved (names entries) [] (fun name => -total entries name) composing.bagList done.bagList ∧
      Costed (names entries) (total entries) composing.costings done.costings ∧ done.targetNum = composing.targetNum := by
  induction entries generalizing composing with
  | nil =>
    obtain rfl := Except.ok.inj ok
    exact ⟨Moved.rfl, ⟨fun _ => (Int.add_zero _).symm, fun name => by simp [names]⟩, rfl⟩
  | cons entry rest ih =>
    obtain ⟨between, first, ok⟩ := bind_ok.mp ok
    obtain ⟨moved, costed, kept⟩ := takeDemand_ok first
    obtain ⟨moved', costed', kept'⟩ := ih ok
    refine ⟨(moved.trans moved').mono (List.Subset.refl _) (List.Subset.refl _) fun name => ?_, ⟨fun name => ?_, fun name => ?_⟩,
      kept'.trans kept⟩
    · show just entry.1.name (-entry.2) name + -total rest name = -total (entry :: rest) name
      rw [total_cons, just_neg]
      omega
    · rw [costed'.costing, costed.costing, total_cons, Int.add_assoc]
    · rw [costed'.has, costed.has, or_assoc, ← List.mem_append]
      rfl

theorem composeOne_ok (ok : composeOne Item row itemID composing = .ok done) :
    Moved (names row.demandItemId) [row.itemId.name] (row.gain 1) composing.bagList done.bagList ∧
      Costed (names row.demandItemId) (total row.demandItemId) composing.costings done.costings ∧
        done.targetNum = composing.targetNum + 1 := by
  obtain ⟨_, -, ok⟩ := bind_ok.mp ok
  obtain ⟨_, -, ok⟩ := bind_ok.mp ok
  obtain ⟨_, -, ok⟩ := bind_ok.mp ok
  obtain ⟨taken, taking, ok⟩ := bind_ok.mp ok
  obtain ⟨_, added, ok⟩ := bind_ok.mp ok
  obtain rfl := Except.ok.inj ok
  obtain ⟨moved, costed, kept⟩ := takeDemands_ok taking
  refine ⟨(moved.trans (addItem_moved (require_ok.mp added))).mono (by simp) (by simp) fun name => ?_, costed, by rw [kept]⟩
  show -total row.demandItemId name + just row.itemId.name 1 name =
    just row.itemId.name 1 name - 1 * total row.demandItemId name
  omega

theorem composeTimes_ok {n : Nat} (ok : composeTimes Item row itemID n composing = .ok done) :
    Moved (names row.demandItemId) [row.itemId.name] (row.gain n) composing.bagList done.bagList ∧
      (∀ name, costing done.costings name = costing composing.costings name + n * total row.demandItemId name) ∧
      (∀ name, done.costings.has name = true ↔ composing.costings.has name = true ∨ 0 < n ∧ name ∈ names row.demandItemId) ∧
      done.targetNum = composing.targetNum + n := by
  induction n generalizing composing with
  | zero =>
    obtain rfl := Except.ok.inj ok
    refine ⟨Moved.rfl.mono (by simp) (by simp) fun name => ?_, fun name => by simp, fun name => by simp, rfl⟩
    unfold ComposeRow.gain just
    simp
  | succ n ih =>
    obtain ⟨between, first, ok⟩ := bind_ok.mp ok
    obtain ⟨moved, costed, count⟩ := composeOne_ok first
    obtain ⟨moved', costing', has', count'⟩ := ih ok
    refine ⟨(moved.trans moved').mono (by simp) (by simp) fun name => ?_, fun name => ?_, fun name => ?_, by omega⟩
    · show row.gain 1 name + row.gain n name = row.gain (n + 1) name
      rw [gain_add, Int.add_comm]
    · rw [costing', costed.costing, Int.natCast_add, Int.add_mul]
      omega
    · have positive : 0 < n + 1 := Nat.succ_pos n
      rw [has', costed.has]
      tauto

variable {recipes recipes' : Recipes} {bagList : BagList} {composeID target : Id} {num : Nat}

theorem compose_ok (ok : compose recipes bagList itemID composeID num = .ok (target, done)) :
    ∃ row, recipes.Compose.get? composeID.name = some row ∧ Composed row num bagList target done := by
  obtain ⟨row, found, ok⟩ := bind_ok.mp ok
  obtain ⟨_, -, ok⟩ := bind_ok.mp ok
  obtain ⟨_, -, ok⟩ := bind_ok.mp ok
  obtain ⟨composing, times, ok⟩ := bind_ok.mp ok
  obtain ⟨rfl, rfl⟩ := Prod.mk.inj (Except.ok.inj ok)
  obtain ⟨moved, costs, has, count⟩ := composeTimes_ok times
  refine ⟨row, present_ok.mp found, rfl, count.trans (Nat.zero_add num), fun name => ?_, moved⟩
  have cost := costs name
  have listed := has name
  unfold costing at cost
  unfold Obj.has at listed
  by_cases asked : 0 < num ∧ name ∈ names row.demandItemId
  · rw [if_pos asked]
    obtain ⟨n, reported⟩ := Option.isSome_iff_exists.mp (listed.mpr (.inr asked))
    rw [reported] at cost ⊢
    simpa using cost
  · rw [if_neg asked]
    by_contra reported
    exact asked ((listed.mp (Option.isSome_iff_ne_none.mpr reported)).resolve_left (by simp))

/-! ### The order of the materials -/

/-- A stack of that many. -/
def left (num : Int) : Option ItemCell := if num ≤ 0 then none else some ⟨num⟩

/-- The materials were taken from their stacks. -/
structure Taken (entries : List (Id × Int)) (before after : BagList) : Prop where
  max : after.max = before.max
  equipList : after.equipList = before.equipList
  items : ∀ name, after.itemList.get? name =
    if name ∈ names entries then left (before.held name - total entries name) else before.itemList.get? name

/-- No equip is stored under the name of a material. -/
def Stacked (entries : List (Id × Int)) (bagList : BagList) : Prop := ∀ name ∈ names entries, bagList.equipList.has name = false

def Positive (entries : List (Id × Int)) : Prop := ∀ entry ∈ entries, 0 < entry.2

theorem total_nonneg (positive : Positive entries) (name : String) : 0 ≤ total entries name := by
  induction entries with
  | nil => exact Int.le_refl 0
  | cons entry rest ih =>
    have first := positive entry (List.mem_cons_self ..)
    have later := ih fun entry there => positive entry (List.mem_cons_of_mem _ there)
    rw [total_cons]
    unfold just
    split <;> omega

/-- Without an equip of that name just the stack counts. -/
theorem delItem_stack {index : Id} {n : Int} (positive : 0 < n) (stacked : bagList.equipList.has index.name = false) :
    (delItem index n bagList).1 = decide (n ≤ bagList.held index.name) := by
  unfold delItem BagList.held
  rw [if_neg (by omega), Obj.has_eq_false.mp stacked]
  cases bagList.itemList.get? index.name with
  | none =>
    show false = decide (n ≤ 0)
    exact (decide_eq_false (by omega)).symm
  | some cell =>
    dsimp only
    split
    · rename_i less
      exact (decide_eq_false (by show ¬n ≤ cell.num; omega)).symm
    · rename_i enough
      have enough : decide (n ≤ cell.num) = true := decide_eq_true (by omega)
      split <;> exact enough.symm

theorem delItem_taken {entry : Id × Int} (positive : 0 < entry.2) (enough : entry.2 ≤ bagList.held entry.1.name) :
    Taken [entry] bagList (delItem entry.1 entry.2 bagList).2 := by
  unfold BagList.held at enough
  unfold delItem
  rw [if_neg (by omega)]
  cases stack : bagList.itemList.get? entry.1.name with
  | none =>
    rw [stack] at enough
    exact absurd enough (by show ¬entry.2 ≤ 0; omega)
  | some cell =>
    rw [stack] at enough
    replace enough : entry.2 ≤ cell.num := enough
    dsimp only
    rw [if_neg (by omega)]
    have single : bagList.held entry.1.name - total [entry] entry.1.name = cell.num - entry.2 := by
      unfold BagList.held
      rw [stack, total_single, just_self]
      rfl
    split
    · rename_i gone
      refine ⟨rfl, rfl, fun name => ?_⟩
      rw [Obj.get?_delete]
      by_cases same : name = entry.1.name
      · rw [if_pos same, same, if_pos (mem_names_single.mpr rfl), single, left, if_pos gone]
      · rw [if_neg same, if_neg (mt mem_names_single.mp same)]
    · rename_i more
      refine ⟨rfl, rfl, fun name => ?_⟩
      rw [Obj.get?_set]
      by_cases same : name = entry.1.name
      · rw [if_pos same, same, if_pos (mem_names_single.mpr rfl), single, left, if_neg more]
      · rw [if_neg same, if_neg (mt mem_names_single.mp same)]

theorem Taken.held {before after : BagList} (taken : Taken entries before after)
    (enough : ∀ name ∈ names entries, total entries name ≤ before.held name) (name : String) :
    after.held name = before.held name - total entries name := by
  show (after.itemList.get? name).elim 0 ItemCell.num = _
  rw [taken.items]
  by_cases named : name ∈ names entries
  · have rest := enough name named
    rw [if_pos named]
    unfold left
    split
    · show 0 = _
      omega
    · rfl
  · rw [if_neg named, total_of_not_mem named, Int.sub_zero]
    rfl

theorem Taken.held_single {entry : Id × Int} {before after : BagList} (taken : Taken [entry] before after)
    (enough : entry.2 ≤ before.held entry.1.name) (name : String) :
    after.held name = before.held name - just entry.1.name entry.2 name := by
  rw [← total_single]
  apply taken.held
  intro other named
  rw [mem_names_single.mp named, total_single, just_self]
  exact enough

theorem Taken.cons {entry : Id × Int} {before between after : BagList} (first : Taken [entry] before between)
    (enough : entry.2 ≤ before.held entry.1.name) (later : Taken entries between after) : Taken (entry :: entries) before after where
  max := later.max.trans first.max
  equipList := later.equipList.trans first.equipList
  items name := by
    rw [later.items, first.held_single enough, total_cons]
    by_cases named : name ∈ names entries
    · rw [if_pos named, if_pos (mem_names_cons.mpr (.inr named)), Int.sub_sub]
    · rw [if_neg named, first.items, total_of_not_mem named, total_single, Int.add_zero]
      by_cases same : name = entry.1.name
      · rw [if_pos (mem_names_single.mpr same), if_pos (mem_names_cons.mpr (.inl same))]
      · rw [if_neg (mt mem_names_single.mp same), if_neg (mt mem_names_cons.mp (not_or.mpr ⟨same, named⟩))]

theorem takeDemand_stacked {entry : Id × Int} (positive : 0 < entry.2)
    (stacked : composing.bagList.equipList.has entry.1.name = false) (ok : takeDemand composing entry = .ok done) :
    entry.2 ≤ composing.bagList.held entry.1.name ∧ Taken [entry] composing.bagList done.bagList := by
  obtain ⟨_, deleted, ok⟩ := bind_ok.mp ok
  obtain rfl := Except.ok.inj ok
  have deleted := require_ok.mp deleted
  rw [delItem_stack positive stacked] at deleted
  have enough := of_decide_eq_true deleted
  exact ⟨enough, delItem_taken positive enough⟩

/-- The materials can be taken exactly when there is enough of each. -/
theorem takeDemands_stacked (positive : Positive entries) (stacked : Stacked entries composing.bagList)
    (ok : entries.foldlM takeDemand composing = .ok done) :
    (∀ name ∈ names entries, total entries name ≤ composing.bagList.held name) ∧ Taken entries composing.bagList done.bagList := by
  induction entries generalizing composing with
  | nil =>
    obtain rfl := Except.ok.inj ok
    exact ⟨fun name there => (List.not_mem_nil there).elim, rfl, rfl, fun name => rfl⟩
  | cons entry rest ih =>
    obtain ⟨between, first, ok⟩ := bind_ok.mp ok
    obtain ⟨enough, taken⟩ := takeDemand_stacked (positive entry (List.mem_cons_self ..)) (stacked _ (List.mem_cons_self ..)) first
    have stacked' : Stacked rest between.bagList := fun name there => by
      rw [taken.equipList]
      exact stacked name (List.mem_cons_of_mem _ there)
    obtain ⟨enough', taken'⟩ := ih (fun entry there => positive entry (List.mem_cons_of_mem _ there)) stacked' ok
    refine ⟨fun name named => ?_, taken.cons enough taken'⟩
    rw [total_cons]
    by_cases later : name ∈ names rest
    · have rest := enough' name later
      rw [taken.held_single enough] at rest
      omega
    · have same : name = entry.1.name := (mem_names_cons.mp named).resolve_right later
      rw [total_of_not_mem later, same, just_self]
      omega

theorem takeDemands_taken (positive : Positive entries) (stacked : Stacked entries composing.bagList)
    (enough : ∀ name ∈ names entries, total entries name ≤ composing.bagList.held name) :
    ∃ done, entries.foldlM takeDemand composing = .ok done := by
  induction entries generalizing composing with
  | nil => exact ⟨composing, rfl⟩
  | cons entry rest ih =>
    have first := positive entry (List.mem_cons_self ..)
    have later : Positive rest := fun entry there => positive entry (List.mem_cons_of_mem _ there)
    have much : entry.2 ≤ composing.bagList.held entry.1.name := by
      have all := enough entry.1.name (List.mem_cons_self ..)
      have others := total_nonneg later entry.1.name
      rw [total_cons, just_self] at all
      omega
    have deleted : (delItem entry.1 entry.2 composing.bagList).1 = true := by
      rw [delItem_stack first (stacked _ (List.mem_cons_self ..))]
      exact decide_eq_true much
    obtain ⟨between, ok⟩ : ∃ between, takeDemand composing entry = .ok between :=
      ⟨_, bind_ok.mpr ⟨(), require_ok.mpr deleted, rfl⟩⟩
    obtain ⟨-, taken⟩ := takeDemand_stacked first (stacked _ (List.mem_cons_self ..)) ok
    have stacked' : Stacked rest between.bagList := fun name there => by
      rw [taken.equipList]
      exact stacked name (List.mem_cons_of_mem _ there)
    obtain ⟨done, ok'⟩ := ih later stacked' fun name named => by
      have all := enough name (mem_names_cons.mpr (.inr named))
      rw [total_cons] at all
      rw [taken.held_single much]
      omega
    exact ⟨done, bind_ok.mpr ⟨between, ok, ok'⟩⟩

/-- Two rows that ask for as much of each material, in whatever order and however split. -/
structure SameRecipe (row row' : ComposeRow) : Prop where
  itemId : row'.itemId = row.itemId
  named : ∀ name, name ∈ names row'.demandItemId ↔ name ∈ names row.demandItemId
  totals : ∀ name, total row'.demandItemId name = total row.demandItemId name

variable {row' : ComposeRow} {composing' : Composing}

theorem SameRecipe.symm (same : SameRecipe row row') : SameRecipe row' row :=
  ⟨same.itemId.symm, fun name => (same.named name).symm, fun name => (same.totals name).symm⟩

theorem SameRecipe.taken (same : SameRecipe row row') {before before' after after' : BagList} (alike : Alike before before')
    (taken : Taken row.demandItemId before after) (taken' : Taken row'.demandItemId before' after') : Alike after after' where
  max := (taken.max.trans alike.max).trans taken'.max.symm
  items name := by
    have held : before'.held name = before.held name := by
      unfold BagList.held
      rw [alike.items]
    rw [taken.items, taken'.items, same.totals, held, alike.items]
    exact if_congr (same.named name).symm rfl rfl
  equips name := by
    rw [taken.equipList, taken'.equipList]
    exact alike.equips name

theorem Alike.held {bagList other : BagList} (alike : Alike bagList other) (name : String) : other.held name = bagList.held name := by
  unfold BagList.held
  rw [alike.items]

/-- What is demanded altogether is there, so each entry's part of it is. -/
theorem total_ge (positive : Positive entries) {entry : Id × Int} (there : entry ∈ entries) :
    entry.2 ≤ total entries entry.1.name := by
  induction entries with
  | nil => cases there
  | cons first rest ih =>
    have later : Positive rest := fun entry there => positive entry (List.mem_cons_of_mem _ there)
    rw [total_cons]
    rcases List.mem_cons.mp there with rfl | there
    · have others := total_nonneg later entry.1.name
      rw [just_self]
      omega
    · have mine := ih later there
      have zero := positive first (List.mem_cons_self ..)
      unfold just
      split <;> omega

theorem getItemNum_held {index : Id} (positive : 0 < bagList.held index.name) : getItemNum index bagList = bagList.held index.name := by
  unfold BagList.held at positive ⊢
  unfold getItemNum
  cases stack : bagList.itemList.get? index.name with
  | none =>
    rw [stack] at positive
    exact absurd positive (Int.lt_irrefl 0)
  | some cell =>
    rw [stack] at positive
    have some_ : 0 < cell.num := positive
    exact if_neg (by omega)

theorem composeOne_same (same : SameRecipe row row') (positive : Positive row.demandItemId) (positive' : Positive row'.demandItemId)
    (stacked : Stacked row.demandItemId composing.bagList) (alike : Alike composing.bagList composing'.bagList)
    (ok : composeOne Item row itemID composing = .ok done) :
    ∃ done', composeOne Item row' itemID composing' = .ok done' ∧ Alike done.bagList done'.bagList ∧
      Stacked row.demandItemId done.bagList := by
  obtain ⟨_, there, ok⟩ := bind_ok.mp ok
  obtain ⟨_, -, ok⟩ := bind_ok.mp ok
  obtain ⟨_, room, ok⟩ := bind_ok.mp ok
  obtain ⟨taken, taking, ok⟩ := bind_ok.mp ok
  obtain ⟨_, added, ok⟩ := bind_ok.mp ok
  obtain rfl := Except.ok.inj ok
  obtain ⟨enough, took⟩ := takeDemands_stacked positive stacked taking
  have stacked' : Stacked row'.demandItemId composing'.bagList := fun name named => by
    have before := stacked name ((same.named name).mp named)
    unfold Obj.has at before ⊢
    rw [← alike.equips]
    exact before
  have enough' : ∀ name ∈ names row'.demandItemId, total row'.demandItemId name ≤ composing'.bagList.held name := by
    intro name named
    rw [same.totals, alike.held]
    exact enough name ((same.named name).mp named)
  have demands : ∀ entry ∈ row'.demandItemId, entry.2 ≤ getItemNum entry.1 composing'.bagList := by
    intro entry listed
    have part := total_ge positive' listed
    have all := enough' entry.1.name (List.mem_map_of_mem listed)
    have some_ := positive' entry listed
    rw [getItemNum_held (by omega)]
    omega
  obtain ⟨taken', taking'⟩ := takeDemands_taken positive' stacked' enough'
  have took' := (takeDemands_stacked positive' stacked' taking').2
  obtain ⟨added', alike'⟩ := (same.taken alike took took').addItem Item row.itemId 1
  refine ⟨⟨(addItem Item row'.itemId 1 taken'.bagList).2, taken'.targetNum + 1, taken'.costings⟩, ?_, ?_, ?_⟩
  · have there' : 0 < getItemNum itemID composing'.bagList := alike.getItemNum itemID ▸ require_ok.mp there
    have room' : 1 ≤ getLeftRoom Item composing'.bagList := alike.getLeftRoom Item ▸ require_ok.mp room
    have added'' : (addItem Item row'.itemId 1 taken'.bagList).1 = true := by
      rw [same.itemId, ← added']
      exact require_ok.mp added
    exact bind_ok.mpr ⟨(), require_ok.mpr there', bind_ok.mpr ⟨(), require_ok.mpr demands, bind_ok.mpr ⟨(), require_ok.mpr room',
      bind_ok.mpr ⟨taken', taking', bind_ok.mpr ⟨(), require_ok.mpr added'', rfl⟩⟩⟩⟩⟩
  · rw [same.itemId]
    exact alike'
  · intro name named
    show (addItem Item row.itemId 1 taken.bagList).2.equipList.has name = false
    rw [addItem_equipList, took.equipList]
    exact stacked name named

theorem composeTimes_same (same : SameRecipe row row') (positive : Positive row.demandItemId) (positive' : Positive row'.demandItemId)
    {n : Nat} (stacked : Stacked row.demandItemId composing.bagList) (alike : Alike composing.bagList composing'.bagList)
    (ok : composeTimes Item row itemID n composing = .ok done) :
    ∃ done', composeTimes Item row' itemID n composing' = .ok done' := by
  induction n generalizing composing composing' with
  | zero => exact ⟨composing', rfl⟩
  | succ n ih =>
    obtain ⟨between, first, ok⟩ := bind_ok.mp ok
    obtain ⟨between', first', alike', stacked'⟩ := composeOne_same same positive positive' stacked alike first
    obtain ⟨done', ok'⟩ := ih stacked' alike' ok
    exact ⟨done', bind_ok.mpr ⟨between', first', ok'⟩⟩

/-- The tables with that row in place of another. -/
def Recipes.withRow (recipes : Recipes) (composeID : Id) (row : ComposeRow) : Recipes :=
  { recipes with Compose := recipes.Compose.set composeID.name row }

theorem compose_same (found : recipes.Compose.get? composeID.name = some row) (same : SameRecipe row row')
    (positive : Positive row.demandItemId) (positive' : Positive row'.demandItemId) (stacked : Stacked row.demandItemId bagList)
    (found' : recipes'.Compose.get? composeID.name = some row') (sameItem : recipes'.Item = recipes.Item)
    (sameIds : recipes'.composeIds = recipes.composeIds) {answer : Id × Composing}
    (ok : compose recipes bagList itemID composeID num = .ok answer) :
    ∃ answer', compose recipes' bagList itemID composeID num = .ok answer' := by
  obtain ⟨read, here, ok⟩ := bind_ok.mp ok
  obtain rfl := Option.some.inj (found.symm.trans (present_ok.mp here))
  obtain ⟨_, known, ok⟩ := bind_ok.mp ok
  obtain ⟨_, fitting, ok⟩ := bind_ok.mp ok
  obtain ⟨done, times, ok⟩ := bind_ok.mp ok
  have alike : Alike bagList (Composing.mk bagList 0 ∅).bagList := Alike.refl bagList
  obtain ⟨done', times'⟩ := composeTimes_same same positive positive' stacked alike times
  refine ⟨(row'.itemId, done'), bind_ok.mpr ⟨row', present_ok.mpr found', ?_⟩⟩
  rw [sameItem, sameIds]
  exact bind_ok.mpr ⟨(), known, bind_ok.mpr ⟨(), fitting, bind_ok.mpr ⟨done', times', rfl⟩⟩⟩

/-! ### The law -/

/-- The order of the materials, and how often each is listed, does not matter to whether composing succeeds. -/
def OrderFree (recipes : Recipes) (bagList : BagList) (itemID composeID : Id) (num : Nat) (row row' : ComposeRow) : Prop :=
  (∃ answer, compose (recipes.withRow composeID row) bagList itemID composeID num = .ok answer) ↔
    ∃ answer, compose (recipes.withRow composeID row') bagList itemID composeID num = .ok answer

/-- What composing comes to. -/
structure ComposeLaw (recipes : Recipes) (bagList : BagList) (itemID composeID : Id) (num : Nat) : Prop where
  composed : ∀ target done, compose recipes bagList itemID composeID num = .ok (target, done) →
    composed recipes bagList itemID composeID num = done.bagList ∧
      ∃ row, recipes.Compose.get? composeID.name = some row ∧ Composed row num bagList target done
  refused : ∀ failure, compose recipes bagList itemID composeID num = .error failure →
    Bag.composed recipes bagList itemID composeID num = bagList
  outcome : ∀ row row' target target' done done', SameRecipe row row' →
    compose (recipes.withRow composeID row) bagList itemID composeID num = .ok (target, done) →
    compose (recipes.withRow composeID row') bagList itemID composeID num = .ok (target', done') →
    target' = target ∧ done'.targetNum = done.targetNum ∧ (∀ name, done'.costings.get? name = done.costings.get? name) ∧
      ∀ name, done'.bagList.stock name = done.bagList.stock name
  order : ∀ row row', SameRecipe row row' → Positive row.demandItemId → Positive row'.demandItemId →
    Stacked row.demandItemId bagList → OrderFree recipes bagList itemID composeID num row row'

theorem get?_withRow (recipes : Recipes) (composeID : Id) (row : ComposeRow) :
    (recipes.withRow composeID row).Compose.get? composeID.name = some row := Obj.get?_set_self ..

theorem composed_same {target target' : Id} {done done' : Composing} (same : SameRecipe row row')
    (first : Composed row num bagList target done) (second : Composed row' num bagList target' done') :
    target' = target ∧ done'.targetNum = done.targetNum ∧ (∀ name, done'.costings.get? name = done.costings.get? name) ∧
      ∀ name, done'.bagList.stock name = done.bagList.stock name := by
  refine ⟨?_, second.count.trans first.count.symm, fun name => ?_, fun name => ?_⟩
  · rw [second.target, first.target, same.itemId]
  · rw [second.costings, first.costings, same.totals]
    exact if_congr (and_congr_right' (same.named name)) rfl rfl
  · rw [second.moved.stock, first.moved.stock]
    unfold ComposeRow.gain
    rw [same.itemId, same.totals]

/-- **Composing**: the sums, nothing on a failure, and the same for every way to write a recipe down. -/
theorem compose_law (recipes : Recipes) (bagList : BagList) (itemID composeID : Id) (num : Nat) :
    ComposeLaw recipes bagList itemID composeID num where
  composed target done ok := by
    refine ⟨?_, compose_ok ok⟩
    unfold Bag.composed
    rw [ok]
  refused failure failed := by
    unfold Bag.composed
    rw [failed]
  outcome row row' target target' done done' same ok ok' := by
    obtain ⟨read, found, first⟩ := compose_ok ok
    obtain ⟨read', found', second⟩ := compose_ok ok'
    obtain rfl := Option.some.inj ((get?_withRow recipes composeID row).symm.trans found)
    obtain rfl := Option.some.inj ((get?_withRow recipes composeID row').symm.trans found')
    exact composed_same same first second
  order row row' same positive positive' stacked := by
    have stacked' : Stacked row'.demandItemId bagList := fun name named => stacked name ((same.named name).mp named)
    constructor
    · rintro ⟨answer, ok⟩
      exact compose_same (get?_withRow ..) same positive positive' stacked (get?_withRow ..) rfl rfl ok
    · rintro ⟨answer, ok⟩
      exact compose_same (get?_withRow ..) same.symm positive' positive stacked' (get?_withRow ..) rfl rfl ok

/-! ### Five fragments -/

/-- A fragment, and what is made of fragments. -/
def fragments : ItemTable :=
  ⟨((∅ : Obj ItemRow).set "15202" ⟨5, some 99, 1, 1, some 10⟩).set "19006" ⟨5, some 99, 1, 1, some 10⟩, by decide⟩

def fragmentRecipes : Recipes := ⟨fragments, fun _ => .number 8, ∅⟩

/-- Fragments that many at a time. -/
def fragmentRow (nums : List Int) : ComposeRow := ⟨.number 19006, nums.map fun num => (.number 15202, num)⟩

def fiveFragments : BagList := ⟨100, (∅ : Obj ItemCell).set "15202" ⟨5⟩, ∅⟩

/-- There is an equip under the name of the fragments, too. -/
def fragmentsAndEquip : BagList :=
  { fiveFragments with
    equipList := (∅ : Obj EquipInfo).set "15202" ⟨some (.number 19006), 3, 0, fun _ => (0, 0), none, none, none, none, ∅⟩ }

theorem fragmentRow_swap (m n : Int) : SameRecipe (fragmentRow [m, n]) (fragmentRow [n, m]) where
  itemId := rfl
  named _ := Iff.rfl
  totals name := by
    show just "15202" n name + (just "15202" m name + 0) = just "15202" m name + (just "15202" n name + 0)
    omega

/-- A zero after the last fragment is refused, and so is an entry that the stack is not enough for. -/
theorem order_matters :
    (SameRecipe (fragmentRow [0, 5]) (fragmentRow [5, 0]) ∧
      ¬OrderFree fragmentRecipes fiveFragments (.number 15202) (.number 8) 1 (fragmentRow [0, 5]) (fragmentRow [5, 0])) ∧
      SameRecipe (fragmentRow [5, 3]) (fragmentRow [3, 5]) ∧
        ¬OrderFree fragmentRecipes fragmentsAndEquip (.number 15202) (.number 8) 1 (fragmentRow [5, 3]) (fragmentRow [3, 5]) := by
  refine ⟨⟨fragmentRow_swap 0 5, fun free => ?_⟩, fragmentRow_swap 5 3, fun free => ?_⟩
  · obtain ⟨answer, ok⟩ := free.mp ⟨_, rfl⟩
    have refused : compose (fragmentRecipes.withRow (.number 8) (fragmentRow [5, 0])) fiveFragments (.number 15202) (.number 8) 1 =
        .error (.retCode 1103) := rfl
    cases refused.symm.trans ok
  · obtain ⟨answer, ok⟩ := free.mp ⟨_, rfl⟩
    have refused : compose (fragmentRecipes.withRow (.number 8) (fragmentRow [3, 5])) fragmentsAndEquip (.number 15202) (.number 8) 1 =
        .error (.retCode 1103) := rfl
    cases refused.symm.trans ok

end Tinygame.Bag
