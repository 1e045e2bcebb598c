import Tinygame.Bag.Amounts
import Tinygame.Bag.Worn

/-!
# Selling

What `sellItemGroup` leaves of the bag, of what is worn and of the gold. It reports what the things sold are worth, and
gives nothing for them.
-/

namespace Tinygame.Bag

/-- What is asked to be sold. -/
def requests (entries : List (Σ _ : String, Option Int)) : List (Id × Int) :=
  entries.map fun entry => (.text entry.1, entry.2.getD 0)

section
variable (Item : ItemTable)

/-- What one piece under an index is worth. -/
def priceOf (bagList : BagList) (index : String) : Int :=
  let itemID := match bagList.equipList.get? index with
    | some info => (info.id.getD .undefined).name
    | none => index
  ((Item.rows.get? itemID).bind ItemRow.price).getD 0

def worth (bagList : BagList) (entries : List (Id × Int)) : Int :=
  (entries.map fun entry => priceOf Item bagList entry.1.name * entry.2).sum

/-- Just what was asked for has left the bag, no position wears a sold equip, and the player was paid. -/
structure Sold (entries : List (Id × Int)) (player after : Player) (cost : Int) : Prop where
  left : Moved (names entries) [] (fun name => -total entries name) player.bagList after.bagList
  off : ∀ entry ∈ entries, 0 < entry.2 → player.bagList.equipList.has entry.1.name = true →
    ∀ slot id, Wears after.baseInfo.posList slot id → id.name ≠ entry.1.name
  paid : cost = worth Item player.bagList entries
  gold : after.baseInfo.gold = min (player.baseInfo.gold + cost) 999999999

end

/-- A sale does what it should, and one that fails leaves everything as it was. -/
def SellsRight (tables : Tables) (player : Player) (sellgroup : Obj (Option Int)) : Prop :=
  match sellItemGroup tables.Item player sellgroup with
  | .ok (after, cost) =>
    request tables player (.sellItemGroup sellgroup) = after ∧ Sold tables.Item (requests sellgroup.entries) player after cost
  | .error _ => request tables player (.sellItemGroup sellgroup) = player

/-- Nothing of what is sold is worth anything, or there is no place for more gold. -/
def NothingDue (Item : ItemTable) (player : Player) (entries : List (Id × Int)) : Prop :=
  player.baseInfo.gold ≤ 999999999 ∧
    ((∀ entry ∈ entries, entry.2 = 0 ∨ priceOf Item player.bagList entry.1.name = 0) ∨ player.baseInfo.gold = 999999999)

/-- An equip that is sold is worn in the six places only, and by the text that is its key. -/
def WornByText (player : Player) (entries : List (Id × Int)) : Prop :=
  ∀ entry ∈ entries, 0 < entry.2 → player.bagList.equipList.has entry.1.name = true →
    ∀ slot id, Wears player.baseInfo.posList slot id → id.name = entry.1.name → id = .text entry.1.name ∧ slot ∈ slotNames

variable {Item : ItemTable} {posList : Obj Position} {baseInfo : BaseInfo} {slot index : String} {id equipId pos : Id}
  {selling after : Selling} {num : Option Int}

/-! ### What stays worn -/

theorem offEquipOtherPosition_keeps {name : String} (worn : Wears posList slot id) (other : id ≠ equipId ∨ slot ≠ name) :
    Wears (offEquipOtherPosition posList pos name equipId) slot id := by
  obtain ⟨i, position, present, inSlot, nonzero⟩ := worn
  refine ⟨i, _, by rw [offEquipOtherPosition, Obj.get?_update, present]; rfl, ?_, nonzero⟩
  dsimp only
  split
  · rename_i cleared
    by_cases same : slot = name
    · subst same
      have sameId : id.same equipId = true := by simpa [Position.wears, inSlot] using (Bool.and_eq_true_iff.mp cleared).2
      have equal : id = equipId := by
        cases id <;> simp_all [Id.same]
      exact absurd equal (other.resolve_right fun ne => ne rfl)
    · rw [Position.wear, Obj.get?_set_of_ne _ _ same]
      exact inSlot
  · exact inSlot

theorem offEquip_keeps (worn : Wears baseInfo.posList slot id) (other : ¬(id = equipId ∧ slot ∈ slotNames)) :
    Wears (offEquip baseInfo equipId).posList slot id := by
  have loop : ∀ (names : List String) (posList : Obj Position), Wears posList slot id → ¬(id = equipId ∧ slot ∈ names) →
      Wears (names.foldl (fun posList i => offEquipOtherPosition posList (.number (-1)) i equipId) posList) slot id := by
    intro names
    induction names with
    | nil => exact fun _ worn _ => worn
    | cons name rest ih =>
      intro posList worn other
      apply ih
      · apply offEquipOtherPosition_keeps worn
        by_contra both
        obtain ⟨same, here⟩ := not_or.mp both
        exact other ⟨not_not.mp same, List.mem_cons.mpr (.inl (not_not.mp here))⟩
      · exact fun both => other ⟨both.1, List.mem_cons_of_mem _ both.2⟩
  exact loop slotNames baseInfo.posList worn other

/-! ### One entry -/

/-- What is left of the positions when the entries have been sold. -/
structure Stripped (bagList : BagList) (indices : List String) (before after : BaseInfo) : Prop where
  gold : after.gold = before.gold
  less : ∀ slot id, Wears after.posList slot id → Wears before.posList slot id ∧
    ∀ index ∈ indices, bagList.equipList.has index = true → ¬(id = .text index ∧ slot ∈ slotNames)
  keeps : ∀ slot id, Wears before.posList slot id → (∀ index ∈ indices, ¬(id = .text index ∧ slot ∈ slotNames)) →
    Wears after.posList slot id

theorem sellItem_ok (ok : sellItem Item selling index num = .ok after) :
    ∃ n, num = some n ∧ 0 ≤ n ∧ 0 ≤ priceOf Item selling.player.bagList index ∧
      after.cost = selling.cost + priceOf Item selling.player.bagList index * n ∧
      Moved [index] [] (just index (-n)) selling.player.bagList after.player.bagList ∧
      Stripped selling.player.bagList [index] selling.player.baseInfo after.player.baseInfo := by
  unfold sellItem at ok
  obtain ⟨amount, parsed, ok⟩ := bind_ok.mp ok
  obtain ⟨_, nonneg, ok⟩ := bind_ok.mp ok
  obtain ⟨row, found, ok⟩ := bind_ok.mp ok
  obtain ⟨_, -, ok⟩ := bind_ok.mp ok
  obtain ⟨price, priced, ok⟩ := bind_ok.mp ok
  obtain ⟨_, positive, ok⟩ := bind_ok.mp ok
  obtain ⟨_, -, ok⟩ := bind_ok.mp ok
  obtain ⟨_, deleted, ok⟩ := bind_ok.mp ok
  obtain rfl := Except.ok.inj ok
  have value : priceOf Item selling.player.bagList index = price := by
    have found := present_ok.mp found
    unfold priceOf
    cases equip : selling.player.bagList.equipList.get? index with
    | none =>
      rw [equip] at found
      dsimp only at found ⊢
      rw [found]
      exact congrArg (Option.getD · 0) (present_ok.mp priced)
    | some info =>
      rw [equip] at found
      dsimp only at found ⊢
      rw [found]
      exact congrArg (Option.getD · 0) (present_ok.mp priced)
  refine ⟨amount, present_ok.mp parsed, require_ok.mp nonneg, value ▸ require_ok.mp positive, by rw [value],
    delItem_moved (require_ok.mp deleted), ?_, fun slot id worn => ?_, fun slot id worn other => ?_⟩
  · dsimp only
    split <;> rfl
  · dsimp only at worn
    split at worn
    · obtain ⟨before, off⟩ := offEquip_wears worn
      refine ⟨before, fun other there _ => ?_⟩
      rw [List.mem_singleton.mp there]
      exact fun both => off both.2 both.1
    · rename_i noEquip
      refine ⟨worn, fun other there has => absurd ?_ noEquip⟩
      rw [List.mem_singleton.mp there] at has
      exact Bool.or_eq_true_iff.mpr (.inl has)
  · dsimp only
    split
    · exact offEquip_keeps worn (other index (List.mem_singleton.mpr rfl))
    · exact worn

/-! ### All of them -/

theorem priceOf_congr {bagList other : BagList} (same : bagList.equipList.get? index = other.equipList.get? index) :
    priceOf Item bagList index = priceOf Item other index := by
  unfold priceOf
  rw [same]

theorem Stripped.cons {bagList between : BagList} {indices : List String} {before mid last : BaseInfo}
    (first : Stripped bagList [index] before mid) (later : Stripped between indices mid last)
    (kept : ∀ other ∈ indices, between.equipList.has other = bagList.equipList.has other) :
    Stripped bagList (index :: indices) before last where
  gold := later.gold.trans first.gold
  less slot id worn := by
    obtain ⟨worn, off'⟩ := later.less slot id worn
    obtain ⟨worn, off⟩ := first.less slot id worn
    refine ⟨worn, fun other there has => ?_⟩
    rcases List.mem_cons.mp there with rfl | there
    · exact off other (List.mem_singleton.mpr rfl) has
    · exact off' other there ((kept other there).trans has)
  keeps slot id worn other := by
    apply later.keeps slot id
    · apply first.keeps slot id worn
      intro i there
      rw [List.mem_singleton.mp there]
      exact other index (List.mem_cons_self ..)
    · exact fun i there => other i (List.mem_cons_of_mem _ there)

theorem worth_congr {bagList other : BagList} {entries : List (Id × Int)}
    (same : ∀ entry ∈ entries, priceOf Item bagList entry.1.name = priceOf Item other entry.1.name) :
    worth Item bagList entries = worth Item other entries :=
  congrArg List.sum (List.map_congr_left fun entry there => by rw [same entry there])

theorem sellItems_ok {entries : List (Σ _ : String, Option Int)} (distinct : entries.NodupKeys)
    (ok : entries.foldlM (fun selling entry => sellItem Item selling entry.1 entry.2) selling = .ok after) :
    (∀ entry ∈ requests entries, 0 ≤ entry.2 ∧ 0 ≤ priceOf Item selling.player.bagList entry.1.name) ∧
      after.cost = selling.cost + worth Item selling.player.bagList (requests entries) ∧
      Moved (names (requests entries)) [] (fun name => -total (requests entries) name) selling.player.bagList after.player.bagList ∧
      Stripped selling.player.bagList (names (requests entries)) selling.player.baseInfo after.player.baseInfo := by
  induction entries generalizing selling with
  | nil =>
    obtain rfl := Except.ok.inj ok
    refine ⟨fun entry there => (List.not_mem_nil there).elim, (Int.add_zero _).symm, Moved.rfl, rfl, fun slot id worn => ⟨worn, ?_⟩,
      fun slot id worn _ => worn⟩
    exact fun index there => (List.not_mem_nil there).elim
  | cons entry rest ih =>
    obtain ⟨key, num⟩ := entry
    obtain ⟨fresh, later⟩ := List.nodupKeys_cons.mp distinct
    obtain ⟨between, one, more⟩ := bind_ok.mp ok
    obtain ⟨n, rfl, nonneg, worthy, cost, moved, stripped⟩ := sellItem_ok one
    obtain ⟨fine, cost', moved', stripped'⟩ := ih later more
    have other : ∀ entry ∈ requests rest, between.player.bagList.equipList.get? entry.1.name =
        selling.player.bagList.equipList.get? entry.1.name := by
      intro entry there
      apply moved.equips
      intro same
      obtain ⟨⟨key', num'⟩, listed, rfl⟩ := List.mem_map.mp there
      have here : key' = key := List.mem_singleton.mp same
      have stands := List.mem_keys_of_mem listed
      exact fresh (here ▸ stands)
    refine ⟨fun entry there => ?_, ?_, ?_, ?_⟩
    · rcases List.mem_cons.mp there with rfl | there
      · exact ⟨nonneg, worthy⟩
      · obtain ⟨nonneg, worthy⟩ := fine entry there
        exact ⟨nonneg, priceOf_congr (other entry there) ▸ worthy⟩
    · rw [cost', cost, worth_congr fun entry there => priceOf_congr (other entry there), Int.add_assoc]
      rfl
    · exact (moved.trans moved').mono (List.Subset.refl _) (List.Subset.refl _) fun name => by
        show just key (-n) name + -total (requests rest) name = -total ((.text key, n) :: requests rest) name
        rw [total_cons, just_neg]
        show _ = -(just key n name + _)
        omega
    · apply stripped.cons stripped'
      intro name there
      obtain ⟨entry, listed, rfl⟩ := List.mem_map.mp there
      unfold Obj.has
      rw [other entry listed]

theorem worth_nonneg {bagList : BagList} {entries : List (Id × Int)}
    (fine : ∀ entry ∈ entries, 0 ≤ entry.2 ∧ 0 ≤ priceOf Item bagList entry.1.name) :
    0 ≤ worth Item bagList entries ∧
      (worth Item bagList entries = 0 ↔ ∀ entry ∈ entries, entry.2 = 0 ∨ priceOf Item bagList entry.1.name = 0) := by
  induction entries with
  | nil => exact ⟨Int.le_refl 0, fun _ entry there => (List.not_mem_nil there).elim, fun _ => rfl⟩
  | cons entry rest ih =>
    obtain ⟨num, price⟩ := fine entry (List.mem_cons_self ..)
    obtain ⟨nonneg, zero⟩ := ih fun entry there => fine entry (List.mem_cons_of_mem _ there)
    have first := Int.mul_nonneg price num
    have sum : worth Item bagList (entry :: rest) = priceOf Item bagList entry.1.name * entry.2 + worth Item bagList rest := rfl
    rw [sum, List.forall_mem_cons, ← zero]
    refine ⟨by omega, fun both => ?_, fun both => ?_⟩
    · have none_ : priceOf Item bagList entry.1.name * entry.2 = 0 := by omega
      exact ⟨(mul_eq_zero.mp none_).symm, by omega⟩
    · have none_ : priceOf Item bagList entry.1.name * entry.2 = 0 := mul_eq_zero.mpr both.1.symm
      omega

variable {tables : Tables} {player : Player} {sellgroup : Obj (Option Int)}

theorem request_sold {cost : Int} {sold : Player} (ok : sellItemGroup tables.Item player sellgroup = .ok (sold, cost)) :
    request tables player (.sellItemGroup sellgroup) = sold := by
  unfold request handle
  dsimp only
  rw [ok]
  rfl

theorem request_unsold {failure : Failure} (failed : sellItemGroup tables.Item player sellgroup = .error failure) :
    request tables player (.sellItemGroup sellgroup) = player := by
  unfold request handle
  dsimp only
  rw [failed]
  rfl

/-- A slot is cleared of what is sold just when it holds the text. -/
theorem Stripped.off_iff {entries : List (Id × Int)} {last : BaseInfo}
    (stripped : Stripped player.bagList (names entries) player.baseInfo last) :
    (∀ entry ∈ entries, 0 < entry.2 → player.bagList.equipList.has entry.1.name = true →
      ∀ slot id, Wears last.posList slot id → id.name ≠ entry.1.name) ↔ WornByText player entries := by
  constructor
  · intro off entry there some_ has slot id worn same
    by_contra other
    apply off entry there some_ has slot id (stripped.keeps slot id worn fun index listed both => ?_) same
    have here : index = entry.1.name := by
      rw [← same, both.1]
      rfl
    exact other (here ▸ both)
  · intro byText entry there some_ has slot id worn same
    obtain ⟨before, off⟩ := stripped.less slot id worn
    exact off entry.1.name (List.mem_map_of_mem there) has (byText entry there some_ has slot id before same)

/-- **Selling** does what it should when nothing is due for what is sold, and what is sold is worn by its text. -/
theorem sellsRight_iff (tables : Tables) (player : Player) (sellgroup : Obj (Option Int)) :
    SellsRight tables player sellgroup ↔ ((∃ sold, sellItemGroup tables.Item player sellgroup = .ok sold) →
      NothingDue tables.Item player (requests sellgroup.entries) ∧ WornByText player (requests sellgroup.entries)) := by
  unfold SellsRight
  cases sale : sellItemGroup tables.Item player sellgroup with
  | error failure => exact iff_of_true (request_unsold sale) fun sold => by cases sold with | intro sold ok => cases ok
  | ok sold =>
    obtain ⟨after, cost⟩ := sold
    have stored := request_sold sale
    obtain ⟨selling, loop, sale⟩ := bind_ok.mp sale
    obtain ⟨rfl, rfl⟩ := Prod.mk.inj (Except.ok.inj sale)
    obtain ⟨fine, cost, moved, stripped⟩ := sellItems_ok sellgroup.nodupKeys loop
    obtain ⟨nonneg, zero⟩ : 0 ≤ worth tables.Item player.bagList (requests sellgroup.entries) ∧ _ := worth_nonneg fine
    have off := stripped.off_iff
    have paid : selling.cost = worth tables.Item player.bagList (requests sellgroup.entries) := cost.trans (Int.zero_add _)
    have due : selling.player.baseInfo.gold = min (player.baseInfo.gold + selling.cost) 999999999 ↔
        NothingDue tables.Item player (requests sellgroup.entries) := by
      unfold NothingDue
      rw [stripped.gold, ← zero, paid]
      show player.baseInfo.gold = _ ↔ _
      omega
    constructor
    · rintro ⟨-, right⟩ -
      exact ⟨due.mp right.gold, off.mp right.off⟩
    · intro conditions
      obtain ⟨nothing, byText⟩ := conditions ⟨_, rfl⟩
      exact ⟨stored, moved, off.mpr byText, paid, due.mpr nothing⟩

/-! ### The sword -/

theorem SellsRight.gold {sold : Player} {cost : Int} (right : SellsRight tables player sellgroup)
    (ok : sellItemGroup tables.Item player sellgroup = .ok (sold, cost)) :
    sold.baseInfo.gold = min (player.baseInfo.gold + cost) 999999999 := by
  unfold SellsRight at right
  rw [ok] at right
  exact right.2.gold

/-- A sword that is worn by its text is sold for a thousand pieces of gold, and none of them is stored. -/
theorem sword_unpaid :
    ¬SellsRight swordTables (afterSword (.text swordIndex) []) ((∅ : Obj (Option Int)).set swordIndex (some 1)) := by
  intro right
  have sale : ((sellItemGroup swordTables.Item (afterSword (.text swordIndex) [])
    ((∅ : Obj (Option Int)).set swordIndex (some 1))).toOption.map
      fun sold => (sold.1.baseInfo.gold, sold.2)) = some (0, 1000) := by decide +kernel
  have before : (afterSword (.text swordIndex) []).baseInfo.gold = 0 := by decide +kernel
  cases ok : sellItemGroup swordTables.Item (afterSword (.text swordIndex) []) ((∅ : Obj (Option Int)).set swordIndex (some 1)) with
  | error failure =>
    rw [ok] at sale
    cases sale
  | ok sold =>
    rw [ok] at sale
    obtain ⟨gold, cost⟩ := Prod.mk.inj (Option.some.inj sale)
    have paid := right.gold ok
    rw [gold, cost, before] at paid
    exact absurd paid (by decide)

end Tinygame.Bag
