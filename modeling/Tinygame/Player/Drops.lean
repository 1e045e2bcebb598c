import Tinygame.Bag.Splitting
import Tinygame.Hero.Summons
import Tinygame.Player.Currency

/-!
# Drop tables

`dropPool` and `getPoolThing` of `module/item/item.js` with all they change: gold, diamonds, experience, the signs
of the map and the bag, and what they report of it. A number is drawn with `weighted` of the `chance` library, by
`randomScope` of `utils.js`.
-/

namespace Tinygame.Player.Drops
open Bag (Id BagList ItemTable EquipInfo Moment Failure present)
open Hero (Exprience Grown addPlayerExp grantAll playerLevelLimit)

/-! ### Weighted draws -/

/-- The walk of `weighted` to the entry that reaches the number drawn. -/
def chosen {α : Type} : List (α × Nat) → Nat → Nat → Option α
  | [], _, _ => none
  | (index, weight) :: rest, selected, total =>
    if selected ≤ total + weight then some index else chosen rest selected (total + weight)

/-- Entries without a weight are dropped. With no entry left the library throws. -/
def randomScope {α : Type} (scope : List (α × Nat)) (draw : Nat) : Except Failure α :=
  let scope := scope.filter fun entry => 0 < entry.2
  let sum := (scope.map Prod.snd).sum
  if sum = 0 then .error .typeError else present (chosen scope (draw % sum + 1) 0) .typeError

/-! ### What is changed -/

structure BaseInfo where
  gold : Int
  diamond : Int
  grown : Grown

/-- `sign` is there where the node is a map. -/
structure NodeInfo where
  sign : Option (Obj Int)

structure Holdings where
  baseInfo : BaseInfo
  bagList : BagList
  nodeInfo : NodeInfo

/-- `retPack[1]`. An amount that was never written counts as zero. -/
structure Record where
  gold : Int
  diamond : Int
  team_exp : Int
  sign : Option (Obj Int)
  things : Bag.Record

def Record.empty : Record := ⟨0, 0, 0, none, ⟨none, none⟩⟩

section
variable (table : Exprience) (Item : ItemTable)

def getPoolThing (valueType : Id) (value : Nat) (moments : Nat → Moment) (holdings : Holdings) (record : Record) :
    Holdings × Record :=
  let baseInfo := holdings.baseInfo
  if valueType.same (.text "gold") then
    let temp := addValue (baseInfo.gold + value)
    ({ holdings with baseInfo := { baseInfo with gold := temp } }, { record with gold := record.gold + (temp - baseInfo.gold) })
  else if valueType.same (.text "rmb") then
    let temp := addValue (baseInfo.diamond + value)
    ({ holdings with baseInfo := { baseInfo with diamond := temp } },
      { record with diamond := record.diamond + (temp - baseInfo.diamond) })
  else if valueType.same (.text "teamexp") then
    ({ holdings with baseInfo := { baseInfo with grown := (addPlayerExp table value baseInfo.grown).1 } },
      { record with team_exp := record.team_exp + value })
  else if valueType.same (.text "jjcgold") ∨ valueType.same (.text "magicgold") then (holdings, record)
  else if valueType.same (.text "sign") then
    match holdings.nodeInfo.sign with
    | some sign => ({ holdings with nodeInfo := ⟨some (sign.set (toString value) 1)⟩ },
        { record with sign := some ((record.sign.getD ∅).set (toString value) 1) })
    | none => (holdings, record)
  else if valueType.same (.text "heroexp") ∨ valueType.same (.text "ap") then (holdings, record)
  else
    let awarded := Bag.getItemAward Item valueType value moments holdings.bagList record.things
    ({ holdings with bagList := awarded.2.1 }, { record with things := awarded.2.2 })

/-! ### The pool -/

/-- `foreverDrop` has types and values, `number` counts and weights, and a `tepy` a type, a value and a weight. -/
structure DropRow where
  foreverDrop : List (Id × Nat)
  number : Option (List (Nat × Nat))
  tepy : Fin 10 → Option (Id × Nat × Nat)

/-- `indexScope` and `weightScope` for the draws. -/
def DropRow.scope (row : DropRow) : List ((Id × Nat) × Nat) :=
  (List.finRange 10).filterMap fun q => (row.tepy q).map fun tepy => ((tepy.1, tepy.2.1), tepy.2.2)

/-- The element of an array under the name of a property. -/
def elementAt {α : Type} (array : List α) (name : String) : Option α :=
  ((List.range array.length).find? fun i => toString i = name).bind fun i => array[i]?

/-- The name of the property that a pair stands for. -/
def pairName (pair : Id × Nat) : String := pair.1.name ++ "," ++ toString pair.2

/-- The drops given one after another; `moments k` belongs to the `k`-th. -/
def give (moments : Nat → Nat → Moment) (things : List (Id × Nat)) (start : Nat) (dropped : Holdings × Record) : Holdings × Record :=
  (things.zipIdx start).foldl (fun dropped thing =>
    getPoolThing table Item thing.1.1 thing.1.2 (moments thing.2) dropped.1 dropped.2) dropped

/-- A round of the loop over the draws. -/
def drawThing (row : DropRow) (draws : Nat → Nat) (moments : Nat → Nat → Moment) (dropped : Holdings × Record) (p : Nat) :
    Except Failure (Holdings × Record) := do
  let ret ← randomScope row.scope (draws (p + 1))
  -- `indexScope[ret][0]`, for a type and a value that nothing uses
  let _ ← present (elementAt ((row.scope.filter fun entry => 0 < entry.2).map Prod.fst) (pairName ret)) .typeError
  return give table Item moments [ret] (row.foreverDrop.length + p) dropped

/-- How many draws there are. -/
def itemNum (row : DropRow) (draw : Nat) : Except Failure Nat :=
  match row.number with
  | none => .ok 0
  | some scope => randomScope scope draw

def dropPool (Drop : Id → Option DropRow) (id : Id) (draws : Nat → Nat) (moments : Nat → Nat → Moment) (holdings : Holdings) :
    Except Failure (Holdings × Record) := do
  let row ← present (Drop id) (.retCode 947)
  let dropped := give table Item moments row.foreverDrop 0 (holdings, Record.empty)
  let itemNum ← itemNum row (draws 0)
  (List.range itemNum).foldlM (drawThing table Item row draws moments) dropped

end

/-! ### What a drop has to be -/

/-- The equips recorded are those that are new in the bag. -/
def Entered (before after : BagList) (equipList : Obj EquipInfo) : Prop :=
  (∀ index info, equipList.get? index = some info →
    before.equipList.get? index = none ∧ after.equipList.get? index = some info) ∧
  ∀ index, equipList.get? index = none → after.equipList.get? index = before.equipList.get? index

/-- The record is the change. Experience is what was granted, and where the level stays below the limit none of it is lost. -/
structure Matches (table : Exprience) (before after : Holdings) (record : Record) : Prop where
  gold : after.baseInfo.gold = before.baseInfo.gold + record.gold
  diamond : after.baseInfo.diamond = before.baseInfo.diamond + record.diamond
  exp : ∃ exps : List Int, exps.sum = record.team_exp ∧ after.baseInfo.grown = (grantAll table exps before.baseInfo.grown).1
  total : 1 ≤ before.baseInfo.grown.level → after.baseInfo.grown.level < playerLevelLimit →
    after.baseInfo.grown.total table = before.baseInfo.grown.total table + record.team_exp
  sign : ∀ name, after.nodeInfo.sign.bind (·.get? name) =
    ((record.sign.getD ∅).get? name).or (before.nodeInfo.sign.bind (·.get? name))
  signs : ∀ name value, (record.sign.getD ∅).get? name = some value → value = 1
  unsigned : after.nodeInfo.sign.isSome = before.nodeInfo.sign.isSome
  max : after.bagList.max = before.bagList.max
  items : ∀ name, after.bagList.held name = before.bagList.held name + record.things.num name
  equips : Entered before.bagList after.bagList (record.things.equipList.getD ∅)

/-- The pool returns, with as many draws on top of what always drops as the number says, and the record is the change. -/
def DropRight (table : Exprience) (Item : ItemTable) (row : DropRow) (draws : Nat → Nat) (moments : Nat → Nat → Moment)
    (holdings : Holdings) (result : Except Failure (Holdings × Record)) : Prop :=
  ∃ count drawn dropped, itemNum row (draws 0) = .ok count ∧
    (List.range count).mapM (fun p => randomScope row.scope (draws (p + 1))) = .ok drawn ∧
    result = .ok dropped ∧ dropped = give table Item moments (row.foreverDrop ++ drawn) 0 (holdings, Record.empty) ∧
    Matches table holdings dropped.1 dropped.2

/-! ### The record -/

section
variable {table : Exprience} {Item : ItemTable} {before : Holdings} {dropped : Holdings × Record}

theorem addPlayerExp_total (table : Exprience) (exp : Int) {object : Grown} (start : 1 ≤ object.level) :
    1 ≤ (addPlayerExp table exp object).1.level ∧
      ((addPlayerExp table exp object).1.level < playerLevelLimit → object.level ≤ (addPlayerExp table exp object).1.level ∧
        (addPlayerExp table exp object).1.total table = object.total table + exp) := by
  have climbed : object.level ≤ Hero.uncapped table object exp := Hero.climb_level_le table (object.granted exp)
  rw [Hero.addPlayerExp_eq (by omega)]
  dsimp only
  refine ⟨?_, ?_⟩
  · unfold Hero.limitLevel playerLevelLimit
    split <;> omega
  · intro below
    have whole : Hero.uncapped table object exp ≤ playerLevelLimit := by
      unfold Hero.limitLevel at below
      split at below
      · omega
      · omega
    rw [Hero.limitLevel_of_le whole]
    exact ⟨climbed, Hero.climb_granted_total start⟩

theorem grantAll_total (table : Exprience) (exps : List Int) {object : Grown} (start : 1 ≤ object.level) :
    1 ≤ (grantAll table exps object).1.level ∧ ((grantAll table exps object).1.level < playerLevelLimit →
      (grantAll table exps object).1.total table = object.total table + exps.sum) := by
  induction exps using List.reverseRecOn with
  | nil => exact ⟨start, fun _ => by simp [grantAll]⟩
  | append_singleton exps exp ih =>
    obtain ⟨alive, conserved⟩ := ih
    obtain ⟨alive', conserved'⟩ := addPlayerExp_total table exp alive
    rw [Hero.grantAll_snoc]
    refine ⟨alive', fun below => ?_⟩
    obtain ⟨higher, added⟩ := conserved' below
    dsimp only at below ⊢
    rw [added, conserved (by omega), List.sum_append, List.sum_singleton]
    omega

theorem Entered.refl (bagList : BagList) : Entered bagList bagList ∅ := by
  refine ⟨?_, ?_⟩
  · intro index info found
    simp at found
  · intro index _
    rfl

theorem Entered.put {start bagList : BagList} {equipList : Obj EquipInfo} (entered : Entered start bagList equipList) {index : String}
    (info : EquipInfo) (free : bagList.equipList.get? index = none) :
    Entered start { bagList with equipList := bagList.equipList.set index info } (equipList.set index info) := by
  have unrecorded : equipList.get? index = none := by
    cases found : equipList.get? index with
    | none => rfl
    | some old =>
      have there := (entered.1 index old found).2
      rw [free] at there
      cases there
  refine ⟨?_, ?_⟩
  · intro name other found
    by_cases same : name = index
    · subst same
      rw [Obj.get?_set_self] at found ⊢
      refine ⟨?_, found⟩
      rw [← entered.2 name unrecorded]
      exact free
    · rw [Obj.get?_set_of_ne _ _ same] at found ⊢
      exact entered.1 name other found
  · intro name missing
    by_cases same : name = index
    · subst same
      rw [Obj.get?_set_self] at missing
      cases missing
    · rw [Obj.get?_set_of_ne _ _ same] at missing ⊢
      exact entered.2 name missing

/-- An equip that is accepted is recorded as it is. -/
theorem awardEquips_entered (itemID : Id) (row : Bag.ItemRow) (left : Nat) (moments : Nat → Moment) {start bagList : BagList}
    {record : Bag.Record} (entered : Entered start bagList (record.equipList.getD ∅)) :
    Entered start (Bag.awardEquips Item itemID row left moments bagList record).2.1
      ((Bag.awardEquips Item itemID row left moments bagList record).2.2.equipList.getD ∅) :=
  Bag.awardEquips_induct (fun bagList record => Entered start bagList (record.equipList.getD ∅))
    (fun _ _ _ fits entered => entered.put _ fits.free) left moments entered

theorem getItemAward_matches (Item : ItemTable) (itemID : Id) (itemNum : Int) (moments : Nat → Moment)
    {start bagList : BagList} {record : Bag.Record}
    (max : bagList.max = start.max) (items : ∀ name, bagList.held name = start.held name + record.num name)
    (entered : Entered start bagList (record.equipList.getD ∅)) :
    (Bag.getItemAward Item itemID itemNum moments bagList record).2.1.max = start.max ∧
      (∀ name, (Bag.getItemAward Item itemID itemNum moments bagList record).2.1.held name =
        start.held name + (Bag.getItemAward Item itemID itemNum moments bagList record).2.2.num name) ∧
      Entered start (Bag.getItemAward Item itemID itemNum moments bagList record).2.1
        ((Bag.getItemAward Item itemID itemNum moments bagList record).2.2.equipList.getD ∅) := by
  cases found : Item.rows.get? itemID.name with
  | none =>
    rw [Bag.getItemAward_none moments bagList record found]
    exact ⟨max, items, entered⟩
  | some row =>
    by_cases equip : row.itemTepy = Bag.mainTypeEquip
    · rw [Bag.getItemAward_equip moments bagList record found equip]
      obtain ⟨held, num, kept⟩ := @Bag.awardEquips_num Item itemID row itemNum.toNat moments bagList record
      refine ⟨kept.trans max, ?_, awardEquips_entered itemID row _ moments entered⟩
      intro name
      rw [held, num, items]
    · cases fits : Bag.tryAddItem Item itemID itemNum bagList with
      | false =>
        rw [Bag.getItemAward_refused moments record found equip fits]
        exact ⟨max, items, entered⟩
      | true =>
        rw [Bag.getItemAward_item moments record found equip fits]
        dsimp only
        refine ⟨?_, ?_, ?_⟩
        · rw [(Bag.addItem_gave fits record).max, max]
        · intro name
          rw [Bag.addItem_held, if_pos fits, Bag.addItem_num, items]
          omega
        · obtain ⟨kept, new⟩ := entered
          unfold Entered
          rw [Bag.addItem_equipList]
          exact ⟨kept, new⟩

theorem Matches.refl (table : Exprience) (holdings : Holdings) : Matches table holdings holdings Record.empty where
  gold := by simp [Record.empty]
  diamond := by simp [Record.empty]
  exp := ⟨[], rfl, rfl⟩
  total := fun _ _ => by simp [Record.empty]
  sign := fun name => by simp [Record.empty]
  signs := fun name value found => by simp [Record.empty] at found
  unsigned := rfl
  max := rfl
  items := fun name => by simp [Record.empty, Bag.Record.num]
  equips := Entered.refl holdings.bagList

theorem getPoolThing_matches (valueType : Id) (value : Nat) (moments : Nat → Moment) {holdings : Holdings} {record : Record}
    (matched : Matches table before holdings record) :
    Matches table before (getPoolThing table Item valueType value moments holdings record).1
      (getPoolThing table Item valueType value moments holdings record).2 := by
  unfold getPoolThing
  dsimp only
  split
  · have gold := matched.gold
    exact { matched with gold := by dsimp only; omega }
  split
  · have diamond := matched.diamond
    exact { matched with diamond := by dsimp only; omega }
  split
  · obtain ⟨exps, sum, same⟩ := matched.exp
    have grown : (addPlayerExp table value holdings.baseInfo.grown).1 =
        (grantAll table (exps ++ [(value : Int)]) before.baseInfo.grown).1 := by
      rw [Hero.grantAll_snoc, same]
    have added : (exps ++ [(value : Int)]).sum = record.team_exp + value := by
      rw [List.sum_append, List.sum_singleton, sum]
    refine { matched with exp := ⟨_, added, grown⟩, total := ?_ }
    intro start below
    dsimp only at below ⊢
    rw [grown] at below ⊢
    rw [(grantAll_total table _ start).2 below, added]
  split
  · exact matched
  split
  · split
    · rename_i sign there
      refine { matched with sign := ?_, signs := ?_, unsigned := ?_ }
      · intro name
        have old := matched.sign name
        rw [there, Option.bind_some] at old
        dsimp only
        rw [Option.bind_some, Option.getD_some, Obj.get?_set, Obj.get?_set]
        split
        · rfl
        · exact old
      · intro name mark found
        dsimp only at found
        rw [Option.getD_some, Obj.get?_set] at found
        split at found
        · exact (Option.some.inj found).symm
        · exact matched.signs name mark found
      · rw [← matched.unsigned, there]
        rfl
    · exact matched
  split
  · exact matched
  · obtain ⟨max, items, equips⟩ := getItemAward_matches Item valueType value moments matched.max matched.items matched.equips
    exact { matched with max, items, equips }

theorem give_cons (table : Exprience) (Item : ItemTable) (moments : Nat → Nat → Moment) (thing : Id × Nat) (things : List (Id × Nat))
    (start : Nat) (dropped : Holdings × Record) : give table Item moments (thing :: things) start dropped =
      give table Item moments things (start + 1) (getPoolThing table Item thing.1 thing.2 (moments start) dropped.1 dropped.2) := rfl

theorem give_matches (moments : Nat → Nat → Moment) (things : List (Id × Nat)) (start : Nat)
    (matched : Matches table before dropped.1 dropped.2) :
    Matches table before (give table Item moments things start dropped).1 (give table Item moments things start dropped).2 := by
  induction things generalizing start dropped with
  | nil => exact matched
  | cons thing things ih =>
    rw [give_cons]
    exact ih (start + 1) (getPoolThing_matches thing.1 thing.2 (moments start) matched)

end

/-! ### The draws -/

section
variable {table : Exprience} {Item : ItemTable} {row : DropRow} {draws : Nat → Nat} {moments : Nat → Nat → Moment} {holdings : Holdings}

/-- No index of an array is spelled with a comma. -/
theorem elementAt_pair {α : Type} (array : List α) (pair : Id × Nat) : elementAt array (pairName pair) = none := by
  unfold elementAt
  have missing : (List.range array.length).find? (fun i => toString i = pairName pair) = none := by
    rw [List.find?_eq_none]
    intro i _ same
    have comma : ',' ∈ (toString i).toList := by
      rw [of_decide_eq_true same]
      simp [pairName]
    exact absurd (toString_digits i ',' comma) (by decide)
  rw [missing, Option.bind_none]

/-- Every draw throws. -/
theorem drawThing_error (dropped : Holdings × Record) (p : Nat) (after : Holdings × Record) :
    drawThing table Item row draws moments dropped p ≠ .ok after := by
  intro ok
  unfold drawThing at ok
  simp only [elementAt_pair] at ok
  cases drawn : randomScope row.scope (draws (p + 1)) with
  | error e =>
    rw [drawn] at ok
    cases ok
  | ok ret =>
    rw [drawn] at ok
    cases ok

theorem dropPool_eq {Drop : Id → Option DropRow} {id : Id} (there : Drop id = some row) :
    dropPool table Item Drop id draws moments holdings = (do
      let count ← itemNum row (draws 0)
      (List.range count).foldlM (drawThing table Item row draws moments)
        (give table Item moments row.foreverDrop 0 (holdings, Record.empty))) := by
  unfold dropPool
  rw [there]
  rfl

/-- What returns is what always drops: the first draw throws already. -/
theorem dropPool_ok {Drop : Id → Option DropRow} {id : Id} {dropped : Holdings × Record} (there : Drop id = some row)
    (ok : dropPool table Item Drop id draws moments holdings = .ok dropped) :
    itemNum row (draws 0) = .ok 0 ∧ dropped = give table Item moments row.foreverDrop 0 (holdings, Record.empty) := by
  rw [dropPool_eq there] at ok
  cases number : itemNum row (draws 0) with
  | error e =>
    rw [number] at ok
    cases ok
  | ok count =>
    rw [number] at ok
    cases count with
    | zero => exact ⟨rfl, (Except.ok.inj ok).symm⟩
    | succ count =>
      change (List.range (count + 1)).foldlM _ _ = _ at ok
      rw [List.range_succ_eq_map, List.foldlM_cons] at ok
      exfalso
      cases first : drawThing table Item row draws moments (give table Item moments row.foreverDrop 0 (holdings, Record.empty)) 0 with
      | ok after => exact drawThing_error _ 0 after first
      | error e =>
        rw [first] at ok
        cases ok

end

/-- A pool holds what it should when nothing is drawn from it, and only then. -/
theorem drop_right (table : Exprience) (Item : ItemTable) (Drop : Id → Option DropRow) (id : Id) (row : DropRow)
    (there : Drop id = some row)
    (draws : Nat → Nat) (moments : Nat → Nat → Moment) (holdings : Holdings) :
    DropRight table Item row draws moments holdings (dropPool table Item Drop id draws moments holdings) ↔
      itemNum row (draws 0) = .ok 0 := by
  constructor
  · rintro ⟨count, drawn, dropped, -, -, ok, -, -⟩
    exact (dropPool_ok there ok).1
  · intro number
    have matched : Matches table holdings (give table Item moments row.foreverDrop 0 (holdings, Record.empty)).1
        (give table Item moments row.foreverDrop 0 (holdings, Record.empty)).2 :=
      give_matches moments row.foreverDrop 0 (Matches.refl table holdings)
    refine ⟨0, [], give table Item moments row.foreverDrop 0 (holdings, Record.empty), number, rfl, ?_, ?_, matched⟩
    · rw [dropPool_eq there, number]
      rfl
    · rw [List.append_nil]

/-- Always 500 gold, and as many times five gold as the number says. -/
def goldRow (count : Nat) : DropRow where
  foreverDrop := [(.text "gold", 500)]
  number := some [(count, 10000)]
  tepy := fun q => if q.val = 0 then some (.text "gold", 5, 1) else none

def newcomer : Holdings := ⟨⟨0, 0, ⟨1, 0⟩⟩, Bag.createRobotBagList, ⟨none⟩⟩

theorem drop_right_of_none :
    DropRight Hero.flatLevels .none (goldRow 0) (fun _ => 0) (fun _ _ => ⟨0, 0, 0⟩) newcomer
      (dropPool Hero.flatLevels .none (fun _ => some (goldRow 0)) (.number 10001) (fun _ => 0) (fun _ _ => ⟨0, 0, 0⟩) newcomer) :=
  (drop_right Hero.flatLevels .none (fun _ => some (goldRow 0)) (.number 10001) (goldRow 0) rfl (fun _ => 0) (fun _ _ => ⟨0, 0, 0⟩)
    newcomer).mpr rfl

theorem draw_throws :
    ¬ DropRight Hero.flatLevels .none (goldRow 1) (fun _ => 0) (fun _ _ => ⟨0, 0, 0⟩) newcomer
      (dropPool Hero.flatLevels .none (fun _ => some (goldRow 1)) (.number 10001) (fun _ => 0) (fun _ _ => ⟨0, 0, 0⟩) newcomer) := by
  rintro ⟨count, drawn, dropped, -, -, returned, -, -⟩
  have throws : dropPool Hero.flatLevels .none (fun _ => some (goldRow 1)) (.number 10001) (fun _ => 0) (fun _ _ => ⟨0, 0, 0⟩)
      newcomer = .error .typeError := rfl
  rw [throws] at returned
  cases returned

end Tinygame.Player.Drops
