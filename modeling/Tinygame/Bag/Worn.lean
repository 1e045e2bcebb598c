import Tinygame.Bag.Capacity
import Tinygame.Bag.Equips
import Tinygame.Base.Run
import Tinygame.Base.RoundTrip

/-!
# Worn equips

A position refers to an equip of the bag by its index. An equip may leave the bag while it is worn: splitting and
melting leave the positions alone, and selling clears only the slots that hold the very string it was given.
-/

namespace Tinygame.Bag

/-- The ids in the slots of all positions, without the zeros of empty slots. -/
def wornIds (posList : Obj Position) : List Id :=
  posList.entries.flatMap fun entry =>
    (entry.2.equipIdList.entries.map fun slot => slot.2).filter (· ≠ .number 0)

/-- Every worn equip is in the bag. -/
def WornExist (player : Player) : Prop :=
  ∀ id ∈ wornIds player.baseInfo.posList, player.bagList.equipList.has id.name = true

instance (player : Player) : Decidable (WornExist player) := inferInstanceAs (Decidable (∀ id ∈ wornIds _, _))

/-- What `createRobotBaseInfo` has a new player wear. -/
def startingWeapon : Id := .number 10103

/-- The weapon of a new player is worn, and it is not in the bag. -/
def StartingWeaponMissing (player : Player) : Prop :=
  startingWeapon ∈ wornIds player.baseInfo.posList ∧ player.bagList.equipList.has startingWeapon.name = false

instance (player : Player) : Decidable (StartingWeaponMissing player) := inferInstanceAs (Decidable (_ ∧ _))

/-- The ids a request takes from the bag without looking at the positions. -/
def Request.takes (tables : Tables) : Request → List Id
  | .splitEquip equipIdList _ => equipIdList
  | .meltingEquip _ requipId _ _ _ => [requipId]
  | .makeEquip scrollList _ _ => scrollList.flatMap fun scrollId =>
    scrollId :: (((tables.Make scrollId.name).bind MakeRow.data1).getD []).map (·.1)
  | _ => []

/-- The indices a request sells. -/
def Request.sells : Request → List String
  | .sellItemGroup sellgroup => sellgroup.keys
  | _ => []

/-- The equip `index` is worn by no other id than the string itself. -/
def Sellable (player : Player) (index : String) : Prop :=
  player.bagList.equipList.has index = true →
    ∀ id ∈ wornIds player.baseInfo.posList, id.name = index → id = .text index

/-- No equip taken is worn, and those sold are worn by their string index. -/
structure Careful (tables : Tables) (player : Player) (r : Request) : Prop where
  takes : ∀ taken ∈ r.takes tables, player.bagList.equipList.has taken.name = true →
    ∀ id ∈ wornIds player.baseInfo.posList, id.name ≠ taken.name
  sells : ∀ index ∈ r.sells, Sellable player index

/-- Slot `slot` of position `i` holds the id. -/
def HeldAt (posList : Obj Position) (i slot : String) (id : Id) : Prop :=
  ∃ position, posList.get? i = some position ∧ position.equipIdList.get? slot = some id ∧ id ≠ .number 0

/-- A slot of some position holds the id. -/
def Wears (posList : Obj Position) (slot : String) (id : Id) : Prop :=
  ∃ i position, posList.get? i = some position ∧ position.equipIdList.get? slot = some id ∧ id ≠ .number 0

instance (tables : Tables) (player : Player) (r : Request) : Decidable (Careful tables player r) :=
  decidable_of_iff ((∀ taken ∈ r.takes tables, player.bagList.equipList.has taken.name = true →
      ∀ id ∈ wornIds player.baseInfo.posList, id.name ≠ taken.name) ∧
    ∀ index ∈ r.sells, player.bagList.equipList.has index = true →
      ∀ id ∈ wornIds player.baseInfo.posList, id.name = index → id = .text index)
    ⟨fun both => ⟨both.1, both.2⟩, fun careful => ⟨careful.takes, careful.sells⟩⟩

section
variable {posList : Obj Position} {id equipId pos : Id} {i slot name : String}

theorem mem_wornIds : id ∈ wornIds posList ↔ ∃ slot, Wears posList slot id := by
  unfold wornIds Wears
  rw [List.mem_flatMap]
  constructor
  · rintro ⟨⟨i, position⟩, present, member⟩
    rw [List.mem_filter, List.mem_map] at member
    obtain ⟨⟨⟨slot, worn⟩, inSlot, rfl⟩, nonzero⟩ := member
    exact ⟨slot, i, position, AList.mem_lookup_iff.mpr present, AList.mem_lookup_iff.mpr inSlot,
      by simpa using nonzero⟩
  · rintro ⟨slot, i, position, present, inSlot, nonzero⟩
    refine ⟨⟨i, position⟩, AList.mem_lookup_iff.mp present, ?_⟩
    rw [List.mem_filter, List.mem_map]
    exact ⟨⟨⟨slot, id⟩, AList.mem_lookup_iff.mp inSlot, rfl⟩, by simpa using nonzero⟩

/-! ### What the positions wear after a change -/

theorem HeldAt.wears (held : HeldAt posList i slot id) : Wears posList slot id :=
  held.elim fun position found => ⟨i, position, found⟩

/-- Taking an equip off leaves in its slot no id that is `===` to it. -/
theorem offEquipOtherPosition_held (held : HeldAt (offEquipOtherPosition posList pos name equipId) i slot id) :
    HeldAt posList i slot id ∧ ((Id.text i).same pos = false → slot = name → id.same equipId = false) := by
  obtain ⟨position', present, inSlot, nonzero⟩ := held
  rw [offEquipOtherPosition, Obj.get?_update, Option.map_eq_some_iff] at present
  obtain ⟨position, before, rfl⟩ := present
  split at inSlot
  · by_cases here : slot = name
    · rw [here, Position.wear, Obj.get?_set_self] at inSlot
      exact absurd (Option.some.inj inSlot).symm nonzero
    · rw [Position.wear, Obj.get?_set_of_ne _ _ here] at inSlot
      exact ⟨⟨position, before, inSlot, nonzero⟩, fun _ there => absurd there here⟩
  · rename_i left
    refine ⟨⟨position, before, inSlot, nonzero⟩, fun elsewhere here => ?_⟩
    subst here
    simpa [elsewhere, Position.wears, inSlot] using left

theorem offEquipOtherPosition_wears (worn : Wears (offEquipOtherPosition posList pos name equipId) slot id) :
    Wears posList slot id ∧
      ((∀ i, (Id.text i).same pos = false) → slot = name → id.same equipId = false) := by
  obtain ⟨i, held⟩ := worn
  obtain ⟨before, off⟩ := offEquipOtherPosition_held held
  exact ⟨before.wears, fun elsewhere => off (elsewhere i)⟩

theorem wear_held {seq : String} (held : HeldAt (posList.modify seq (·.wear name equipId)) i slot id) :
    i = seq ∧ slot = name ∧ id = equipId ∨ HeldAt posList i slot id ∧ ¬ (i = seq ∧ slot = name) := by
  obtain ⟨position', present, inSlot, nonzero⟩ := held
  rw [Obj.get?_modify] at present
  split at present
  · rename_i here
    obtain ⟨position, before, rfl⟩ := Option.map_eq_some_iff.mp present
    by_cases same : slot = name
    · rw [same, Position.wear, Obj.get?_set_self] at inSlot
      exact .inl ⟨here, same, (Option.some.inj inSlot).symm⟩
    · rw [Position.wear, Obj.get?_set_of_ne _ _ same] at inSlot
      exact .inr ⟨⟨position, here ▸ before, inSlot, nonzero⟩, fun both => same both.2⟩
  · rename_i other
    exact .inr ⟨⟨position', present, inSlot, nonzero⟩, fun both => other both.1⟩

theorem wear_wears {seq : String} (worn : Wears (posList.modify seq (·.wear name equipId)) slot id) :
    Wears posList slot id ∨ slot = name ∧ id = equipId := by
  obtain ⟨i, held⟩ := worn
  rcases wear_held held with ⟨-, here⟩ | ⟨before, -⟩
  · exact .inr here
  · exact .inl before.wears

theorem changeSlot_wears {seq sign : Id} {bagList : BagList} {entry : String × Id}
    (worn : Wears (changeSlot seq sign bagList posList entry) slot id) :
    Wears posList slot id ∨ slot = entry.1 ∧ id = entry.2 ∧ bagList.equipList.has id.name = true := by
  unfold changeSlot at worn
  dsimp only at worn
  split at worn
  · rename_i allowed
    simp only [Bool.and_eq_true] at allowed
    split at worn
    · rcases wear_wears worn with before | ⟨rfl, rfl⟩
      · exact .inl (offEquipOtherPosition_wears before).1
      · exact .inr ⟨rfl, rfl, allowed.1.2⟩
    split at worn
    · rcases wear_wears worn with before | ⟨-, rfl⟩
      · exact .inl before
      · obtain ⟨_, _, _, _, nonzero⟩ := worn
        exact absurd rfl nonzero
    · exact .inl worn
  · exact .inl worn

theorem changeEquipInPosition_wears {seq sign : Id} {bagList : BagList} {equipIds : List (String × Id)}
    (worn : Wears (changeEquipInPosition posList seq sign equipIds bagList) slot id) :
    Wears posList slot id ∨ slot ∈ equipIds.map (·.1) ∧ bagList.equipList.has id.name = true := by
  unfold changeEquipInPosition at worn
  induction equipIds generalizing posList with
  | nil => exact .inl worn
  | cons entry rest ih =>
    rw [List.foldl_cons] at worn
    rcases ih worn with before | ⟨member, has⟩
    · rcases changeSlot_wears before with before | ⟨rfl, rfl, has⟩
      · exact .inl before
      · exact .inr ⟨by simp, has⟩
    · exact .inr ⟨by simp [member], has⟩

theorem offEquip_wears {baseInfo : BaseInfo} {index : String}
    (worn : Wears (offEquip baseInfo (.text index)).posList slot id) :
    Wears baseInfo.posList slot id ∧ (slot ∈ slotNames → id ≠ .text index) := by
  have loop : ∀ (names : List String) (posList : Obj Position),
      Wears (names.foldl (fun posList i => offEquipOtherPosition posList (.number (-1)) i (.text index)) posList)
        slot id → Wears posList slot id ∧ (slot ∈ names → id ≠ .text index) := by
    intro names
    induction names with
    | nil => exact fun _ worn => ⟨worn, fun member => by cases member⟩
    | cons name rest ih =>
      intro posList worn
      obtain ⟨later, offRest⟩ := ih _ worn
      obtain ⟨before, off⟩ := offEquipOtherPosition_wears later
      refine ⟨before, fun member => ?_⟩
      rcases List.mem_cons.mp member with here | there
      · rintro rfl
        exact absurd (off (fun _ => rfl) here) (by simp [Id.same])
      · exact offRest there
  exact loop slotNames baseInfo.posList worn

/-- The two positions change places, and each gets the number of its place. -/
theorem get?_swapPositions {key i : String} {posDst : Option Int} {position tmp : Position} (name : String) :
    (swapPositions posList key i posDst position tmp).get? name =
      if name = i then some { tmp with pos := (Id.text i).parseInt.map (· + lineupMaxPos) }
      else if name = key then some { position with pos := posDst.map (· + lineupMaxPos) }
      else posList.get? name := by
  unfold swapPositions
  by_cases atI : name = i
  · subst atI
    rw [if_pos rfl, Obj.get?_modify, if_pos rfl, Obj.get?_modify]
    by_cases atKey : name = key
    · rw [if_pos atKey, ← atKey, Obj.get?_set_self]
      rfl
    · rw [if_neg atKey, Obj.get?_set_self]
      rfl
  rw [if_neg atI, Obj.get?_modify, if_neg atI, Obj.get?_modify]
  by_cases atKey : name = key
  · subst atKey
    rw [if_pos rfl, if_pos rfl, Obj.get?_set_of_ne _ _ atI, Obj.get?_set_self]
    rfl
  · rw [if_neg atKey, if_neg atKey, Obj.get?_set_of_ne _ _ atI, Obj.get?_set_of_ne _ _ atKey]

/-- Every position of `after` wears what one of `before` wears. -/
def SameSuits (before after : Obj Position) : Prop :=
  ∀ i position, after.get? i = some position →
    ∃ i' position', before.get? i' = some position' ∧ position.equipIdList = position'.equipIdList

theorem SameSuits.wears {before after : Obj Position} (same : SameSuits before after) (worn : Wears after slot id) :
    Wears before slot id := by
  obtain ⟨i, position, present, inSlot, nonzero⟩ := worn
  obtain ⟨i', position', source, suit⟩ := same i position present
  exact ⟨i', position', source, suit ▸ inSlot, nonzero⟩

theorem SameSuits.set {before after : Obj Position} (same : SameSuits before after) {i i' : String}
    {position position' : Position} (source : before.get? i' = some position')
    (suit : position.equipIdList = position'.equipIdList) : SameSuits before (after.set i position) := by
  intro other found present
  rw [Obj.get?_set] at present
  split at present
  · rw [← Option.some.inj present]
    exact ⟨i', position', source, suit⟩
  · exact same other found present

theorem sameSuits_rfl (posList : Obj Position) : SameSuits posList posList :=
  fun i position present => ⟨i, position, present, rfl⟩

theorem swapPositions_sameSuits {key i : String} {posDst : Option Int} {position tmp : Position}
    (there : posList.get? i = some position) (atKey : posList.get? key = some tmp) :
    SameSuits posList (swapPositions posList key i posDst position tmp) := by
  intro other found present
  rw [get?_swapPositions] at present
  split at present
  · rw [← Option.some.inj present]
    exact ⟨key, tmp, atKey, rfl⟩
  split at present
  · rw [← Option.some.inj present]
    exact ⟨i, position, there, rfl⟩
  · exact ⟨other, found, present, rfl⟩

/-- A lineup leaves the player alone, swaps two positions, or has another hero in one. -/
theorem makeHeroLineup_cases {player after : Player} {posDst heroId : Id} {heroInfo isOk : Bool}
    (ok : makeHeroLineup player posDst heroId heroInfo = .ok (after, isOk)) :
    after.bagList = player.bagList ∧ (after.baseInfo.posList = player.baseInfo.posList ∨
      (∃ i key n position tmp, player.baseInfo.posList.get? i = some position ∧ player.baseInfo.posList.get? key = some tmp ∧
        after.baseInfo.posList = swapPositions player.baseInfo.posList key i n position tmp) ∨
      ∃ key position, player.baseInfo.posList.get? key = some position ∧
        after.baseInfo.posList = player.baseInfo.posList.set key { position with heroId := heroId }) := by
  unfold makeHeroLineup at ok
  dsimp only at ok
  split at ok
  · obtain ⟨rfl, -⟩ := Prod.mk.inj (Except.ok.inj ok)
    exact ⟨rfl, .inl rfl⟩
  split at ok
  · rename_i i position found
    have there : player.baseInfo.posList.get? i = some position :=
      AList.mem_lookup_iff.mpr (List.mem_of_find?_eq_some found)
    split at ok
    · rename_i tmp atKey
      obtain ⟨rfl, -⟩ := Prod.mk.inj (Except.ok.inj ok)
      exact ⟨rfl, .inr (.inl ⟨i, _, _, position, tmp, there, atKey, rfl⟩)⟩
    · cases ok
  · split at ok
    · obtain ⟨rfl, -⟩ := Prod.mk.inj (Except.ok.inj ok)
      exact ⟨rfl, .inl rfl⟩
    split at ok
    · rename_i position atKey
      obtain ⟨rfl, -⟩ := Prod.mk.inj (Except.ok.inj ok)
      exact ⟨rfl, .inr (.inr ⟨_, position, atKey, rfl⟩)⟩
    · cases ok

theorem makeHeroLineup_sameSuits {player after : Player} {posDst heroId : Id} {heroInfo isOk : Bool}
    (ok : makeHeroLineup player posDst heroId heroInfo = .ok (after, isOk)) :
    after.bagList = player.bagList ∧ SameSuits player.baseInfo.posList after.baseInfo.posList := by
  have start := sameSuits_rfl player.baseInfo.posList
  obtain ⟨bag, still | ⟨i, key, n, position, tmp, there, atKey, moved⟩ | ⟨key, position, atKey, moved⟩⟩ := makeHeroLineup_cases ok
  · exact ⟨bag, still ▸ start⟩
  · exact ⟨bag, moved ▸ swapPositions_sameSuits there atKey⟩
  · exact ⟨bag, moved ▸ start.set atKey rfl⟩

end

/-! ### Which equips stay in the bag -/

/-- Every equip but those in `taken` is still there. -/
def Keeps (taken : List String) (before after : BagList) : Prop :=
  ∀ name, before.equipList.has name = true → name ∉ taken → after.equipList.has name = true

section
variable {Item : ItemTable} {eqStar : Int → Option EqStarRow} {Make : String → Option MakeRow}
  {bagList before between after : BagList} {taken more : List String}

theorem Keeps.rfl : Keeps taken bagList bagList := fun _ has _ => has

theorem Keeps.trans (first : Keeps taken before between) (second : Keeps taken between after) :
    Keeps taken before after := fun name has free => second name (first name has free) free

theorem Keeps.weaken (keeps : Keeps taken before after) (sub : ∀ name ∈ taken, name ∈ more) :
    Keeps more before after := fun name has free => keeps name has fun member => free (sub name member)

theorem delItem_keeps (index : Id) (num : Int) (bagList : BagList) :
    Keeps [index.name] bagList (delItem index num bagList).2 := by
  intro name has free
  have other : name ≠ index.name := by simpa using free
  unfold delItem
  split
  · exact has
  split
  · split
    · exact has
    · split <;> exact has
  · split
    · split
      · exact has
      split
      · simpa [Obj.has_delete, other] using has
      · simp [Obj.has_set, has]
    · exact has

theorem addItem_keeps (Item : ItemTable) (itemID : Id) (num : Int) (bagList : BagList) :
    Keeps [] bagList (addItem Item itemID num bagList).2 := by
  intro name has _
  unfold addItem
  split
  · split <;> exact has
  · exact has

theorem keeps_putEquip (index : String) (info : EquipInfo) (bagList : BagList) :
    Keeps [] bagList { bagList with equipList := bagList.equipList.set index info } := by
  intro name has _
  simp [Obj.has_set, has]

theorem addEquip_keeps (Item : ItemTable) (index : Int) (info : EquipInfo) (bagList : BagList) :
    Keeps [] bagList (addEquip Item index info bagList).2 := by
  rcases @addEquip_cases Item index info bagList with refused | ⟨-, put⟩
  · rw [refused]
    exact Keeps.rfl
  · rw [put]
    exact keeps_putEquip _ info bagList

theorem awardEquips_keeps (itemID : Id) (row : ItemRow) (left : Nat) (moments : Nat → Moment) (bagList : BagList)
    (record : Record) : Keeps [] bagList (awardEquips Item itemID row left moments bagList record).2.1 :=
  awardEquips_induct (fun after _ => Keeps [] bagList after)
    (fun _ between _ _ kept => kept.trans (keeps_putEquip _ _ between)) left moments Keeps.rfl

theorem getItemAward_keeps (Item : ItemTable) (itemID : Id) (itemNum : Int) (moments : Nat → Moment) (bagList : BagList)
    (record : Record) : Keeps [] bagList (getItemAward Item itemID itemNum moments bagList record).2.1 := by
  have added := addItem_keeps Item itemID itemNum bagList
  unfold getItemAward
  split
  · exact Keeps.rfl
  split
  · exact awardEquips_keeps itemID _ _ moments bagList record
  · split
    · rename_i refused
      rwa [refused] at added
    · rename_i accepted
      rwa [accepted] at added

theorem addMaterials_keeps (materials : List (Id × Int)) (moments : Nat → Nat → Moment) (bagList : BagList)
    (result : Record) : Keeps [] bagList (addMaterials Item materials moments bagList result).1 := by
  induction materials generalizing moments bagList result with
  | nil => exact Keeps.rfl
  | cons material rest ih =>
    obtain ⟨itemId, num⟩ := material
    have awarded := getItemAward_keeps Item itemId num (moments 0) bagList result
    unfold addMaterials
    split
    · exact ih _ _ _
    split
    · rename_i stopped
      rwa [stopped] at awarded
    · rename_i next
      rw [next] at awarded
      exact awarded.trans (ih _ _ _)

theorem dealSplitEquipInBagList_keeps (splitConfig : List (Id × Int)) (equipId : Id)
    (moments : Nat → Nat → Moment) (bagList : BagList) (result : Record) :
    Keeps [equipId.name] bagList
      (dealSplitEquipInBagList Item bagList splitConfig equipId moments result).1 := by
  have deleted := delItem_keeps equipId 1 bagList
  unfold dealSplitEquipInBagList
  split
  · rename_i refused
    rwa [refused] at deleted
  · rename_i accepted
    rw [accepted] at deleted
    exact deleted.trans ((addMaterials_keeps _ _ _ _).weaken (by simp))

theorem splitOne_keeps {splitting after : Splitting} {equipId : Id} {moments : Nat → Nat → Moment}
    (ok : splitOne Item eqStar splitting equipId moments = .ok after) :
    Keeps [equipId.name] splitting.bagList after.bagList := by
  unfold splitOne at ok
  obtain ⟨_, -, ok⟩ := bind_ok.mp ok
  obtain ⟨equip, -, ok⟩ := bind_ok.mp ok
  obtain ⟨⟨splitConfig, gold⟩, -, ok⟩ := bind_ok.mp ok
  rw [← Except.ok.inj ok]
  exact dealSplitEquipInBagList_keeps _ _ _ _ _

theorem requireGold_posList {gold : Int} {baseInfo after : BaseInfo} (ok : requireGold gold baseInfo = .ok after) :
    after.posList = baseInfo.posList := by
  have same : (addPlayerGold gold baseInfo).2.posList = baseInfo.posList := by
    unfold addPlayerGold
    dsimp only
    split <;> rfl
  unfold requireGold at ok
  split at ok
  · cases ok
  · cases ok
  · rename_i added
    rw [added] at same
    exact Except.ok.inj ok ▸ same

theorem splitEquip_keeps {player after : Player} {equipIdList : List Id} {moments : Nat → Nat → Nat → Moment}
    {result : Record} {gold : Int}
    (ok : splitEquip Item eqStar player equipIdList moments = .ok (after, result, gold)) :
    after.baseInfo.posList = player.baseInfo.posList ∧
      Keeps (equipIdList.map Id.name) player.bagList after.bagList := by
  unfold splitEquip at ok
  obtain ⟨splitting, loop, ok⟩ := bind_ok.mp ok
  obtain ⟨baseInfo, paid, ok⟩ := bind_ok.mp ok
  obtain ⟨rfl, -⟩ := Prod.mk.inj (Except.ok.inj ok)
  refine ⟨requireGold_posList paid, ?_⟩
  refine foldlM_keeps (fun splitting => Keeps (equipIdList.map Id.name) player.bagList splitting.bagList)
    (fun s s' entry member kept one => ?_) Keeps.rfl loop
  have listed : entry.1 ∈ equipIdList := (List.mem_zipIdx' member).2 ▸ List.getElem_mem _
  exact kept.trans ((splitOne_keeps one).weaken (by simpa using ⟨entry.1, listed, rfl⟩))

theorem meltingEquip_keeps {outside : Id → Bool} {player after : Player} {lequipId requipId attr : Id} {draw : Nat}
    {moments : Nat → Nat → Moment} {result : Record} {gold : Int} {equip : EquipInfo}
    (ok : meltingEquip Item eqStar outside player lequipId requipId attr draw moments =
      .ok (after, result, equip, gold)) :
    after.baseInfo.posList = player.baseInfo.posList ∧ Keeps [requipId.name] player.bagList after.bagList := by
  unfold meltingEquip at ok
  obtain ⟨_, -, ok⟩ := bind_ok.mp ok
  obtain ⟨_, -, ok⟩ := bind_ok.mp ok
  obtain ⟨requip, -, ok⟩ := bind_ok.mp ok
  obtain ⟨⟨splitConfig, price⟩, -, ok⟩ := bind_ok.mp ok
  obtain ⟨baseInfo, paid, ok⟩ := bind_ok.mp ok
  obtain ⟨lequip, -, ok⟩ := bind_ok.mp ok
  obtain ⟨melted, -, ok⟩ := bind_ok.mp ok
  obtain ⟨rfl, -⟩ := Prod.mk.inj (Except.ok.inj ok)
  refine ⟨requireGold_posList paid, ?_⟩
  have written : Keeps [requipId.name] player.bagList { player.bagList with
      equipList := player.bagList.equipList.set lequipId.name { melted with index := some lequipId } } :=
    fun name has _ => by simp [Obj.has_set, has]
  exact written.trans (dealSplitEquipInBagList_keeps _ _ _ _ _)

theorem takeMaterials_keeps {data1 : List (Id × Int)} {bagList after : BagList}
    (taken : takeMaterials data1 bagList = some after) :
    Keeps (data1.map fun entry => entry.1.name) bagList after := by
  induction data1 generalizing bagList with
  | nil => exact Option.some.inj taken ▸ Keeps.rfl
  | cons entry rest ih =>
    obtain ⟨itemId, itemNum⟩ := entry
    have deleted := delItem_keeps itemId itemNum bagList
    unfold takeMaterials at taken
    split at taken
    · cases taken
    · rename_i next
      rw [next] at deleted
      exact (deleted.weaken (by simp)).trans ((ih taken).weaken fun name member => List.mem_cons_of_mem _ member)

theorem checkMakeConfig_keeps {bagList after : BagList} {scrollId itemId : Id} {draw : Nat}
    (checked : checkMakeConfig Make bagList scrollId draw = some (itemId, after)) :
    Keeps ((scrollId :: (((Make scrollId.name).bind MakeRow.data1).getD []).map (·.1)).map Id.name) bagList after := by
  unfold checkMakeConfig at checked
  split at checked
  · rename_i data1 eqScroll row
    split at checked
    · cases checked
    · rename_i between taken
      have deleted := delItem_keeps scrollId 1 between
      split at checked
      · cases checked
      · rename_i next
        obtain ⟨_, -, same⟩ := Option.map_eq_some_iff.mp checked
        obtain ⟨-, rfl⟩ := Prod.mk.inj same
        rw [next] at deleted
        have listed : ((Make scrollId.name).bind MakeRow.data1).getD [] = data1 := by rw [row]; rfl
        rw [listed, List.map_cons, List.map_map]
        exact ((takeMaterials_keeps taken).weaken fun name member => List.mem_cons_of_mem _ member).trans
          (deleted.weaken (by simp))
  · cases checked

theorem makeOne_keeps {made after : BagList × Obj EquipInfo} {scrollId : Id} {draw : Nat} {moment : Moment}
    (ok : makeOne Item Make made scrollId draw moment = .ok after) :
    Keeps ((scrollId :: (((Make scrollId.name).bind MakeRow.data1).getD []).map (·.1)).map Id.name) made.1 after.1 := by
  unfold makeOne at ok
  obtain ⟨_, -, ok⟩ := bind_ok.mp ok
  obtain ⟨⟨itemId, between⟩, checked, ok⟩ := bind_ok.mp ok
  obtain ⟨_, -, ok⟩ := bind_ok.mp ok
  obtain ⟨row, -, ok⟩ := bind_ok.mp ok
  obtain ⟨_, -, ok⟩ := bind_ok.mp ok
  rw [← Except.ok.inj ok]
  have added := addEquip_keeps Item (createEquip itemId row moment).1 (createEquip itemId row moment).2 between
  exact (checkMakeConfig_keeps (present_ok.mp checked)).trans (added.weaken (by simp))

theorem makeEquip_keeps {player after : Player} {scrollList : List Id} {draws : Nat → Nat} {moments : Nat → Moment}
    {equipList : Obj EquipInfo} (ok : makeEquip Item Make player scrollList draws moments = .ok (after, equipList)) :
    after.baseInfo = player.baseInfo ∧
      Keeps ((scrollList.flatMap fun scrollId =>
        scrollId :: (((Make scrollId.name).bind MakeRow.data1).getD []).map (·.1)).map Id.name)
        player.bagList after.bagList := by
  unfold makeEquip at ok
  obtain ⟨made, loop, ok⟩ := bind_ok.mp ok
  obtain ⟨rfl, -⟩ := Prod.mk.inj (Except.ok.inj ok)
  refine ⟨rfl, ?_⟩
  refine foldlM_keeps (fun made => Keeps _ player.bagList made.1)
    (fun s s' entry member kept one => kept.trans ((makeOne_keeps one).weaken ?_)) Keeps.rfl loop
  have listed : entry.1 ∈ scrollList := (List.mem_zipIdx' member).2 ▸ List.getElem_mem _
  intro name taken
  obtain ⟨id, there, rfl⟩ := List.mem_map.mp taken
  exact List.mem_map.mpr ⟨id, List.mem_flatMap.mpr ⟨entry.1, listed, there⟩, rfl⟩

theorem award_keeps (player : Player) (things : List (Id × Int)) (moments : Nat → Nat → Moment) (gold : Int) :
    Keeps [] player.bagList (award Item player things moments gold).bagList := by
  have loop : ∀ (entries : List ((Id × Int) × Nat)) (bagList : BagList),
      Keeps [] bagList (entries.foldl (fun bagList thing =>
        (getItemAward Item thing.1.1 thing.1.2 (moments thing.2) bagList ⟨none, none⟩).2.1) bagList) := by
    intro entries
    induction entries with
    | nil => exact fun _ => Keeps.rfl
    | cons entry rest ih => exact fun bagList => (getItemAward_keeps _ _ _ _ _ _).trans (ih _)
  exact loop things.zipIdx player.bagList

end

/-! ### Dressed players -/

/-- Slots are those of `slotNames`, and what is worn is in the bag or the weapon a player starts with. -/
structure Dressed (player : Player) : Prop where
  slots : ∀ slot id, Wears player.baseInfo.posList slot id → slot ∈ slotNames
  kept : ∀ slot id, Wears player.baseInfo.posList slot id →
    player.bagList.equipList.has id.name = true ∨ id = startingWeapon

section
variable {tables : Tables} {player after : Player} {taken : List String}

theorem Dressed.of_keeps (dressed : Dressed player)
    (less : ∀ slot id, Wears after.baseInfo.posList slot id → Wears player.baseInfo.posList slot id)
    (keeps : Keeps taken player.bagList after.bagList)
    (unworn : ∀ name ∈ taken, player.bagList.equipList.has name = true →
      ∀ id ∈ wornIds player.baseInfo.posList, id.name ≠ name) : Dressed after where
  slots slot id worn := dressed.slots slot id (less slot id worn)
  kept slot id worn := by
    have before := less slot id worn
    rcases dressed.kept slot id before with has | start
    · refine .inl (keeps id.name has fun member => ?_)
      exact unworn id.name member has id (mem_wornIds.mpr ⟨slot, before⟩) rfl
    · exact .inr start

theorem changeEquip_dressed (dressed : Dressed player) (sign seq : Id) (ids : Fin 6 → Id) :
    Dressed (changeEquip player sign seq ids).1 := by
  have names : ((List.finRange 6).map fun k => (toString (k.val + 1), ids k)).map (·.1) = slotNames := by
    rw [List.map_map]
    rfl
  refine ⟨fun slot id worn => ?_, fun slot id worn => ?_⟩
  · rcases changeEquipInPosition_wears worn with before | ⟨member, -⟩
    · exact dressed.slots slot id before
    · exact names ▸ member
  · rcases changeEquipInPosition_wears worn with before | ⟨-, has⟩
    · exact dressed.kept slot id before
    · exact .inl has

theorem delItem_has (index : Id) (num : Int) (bagList : BagList) (name : String)
    (has : (delItem index num bagList).2.equipList.has name = true) : bagList.equipList.has name = true := by
  unfold delItem at has
  split at has
  · exact has
  split at has
  · split at has
    · exact has
    · split at has <;> exact has
  · split at has
    · rename_i info there
      split at has
      · exact has
      split at has
      · simp only [Obj.has_delete, Bool.and_eq_true] at has
        exact has.2
      · simp only [Obj.has_set, Bool.or_eq_true, decide_eq_true_eq] at has
        rcases has with rfl | has
        · exact Obj.has_iff.mpr ⟨info, there⟩
        · exact has
    · exact has

theorem sellItem_dressed {Item : ItemTable} {selling after : Selling} {index : String} {num : Option Int}
    (ok : sellItem Item selling index num = .ok after) (dressed : Dressed selling.player)
    (sellable : Sellable selling.player index) :
    Dressed after.player ∧ ∀ other, Sellable selling.player other → Sellable after.player other := by
  unfold sellItem at ok
  obtain ⟨amount, -, ok⟩ := bind_ok.mp ok
  obtain ⟨_, -, ok⟩ := bind_ok.mp ok
  obtain ⟨row, -, ok⟩ := bind_ok.mp ok
  obtain ⟨_, -, ok⟩ := bind_ok.mp ok
  obtain ⟨price, -, ok⟩ := bind_ok.mp ok
  obtain ⟨_, -, ok⟩ := bind_ok.mp ok
  obtain ⟨_, -, ok⟩ := bind_ok.mp ok
  obtain ⟨_, -, ok⟩ := bind_ok.mp ok
  obtain rfl := Except.ok.inj ok
  have deleted := delItem_keeps (.text index) amount selling.player.bagList
  have less : ∀ slot id, Wears (if (selling.player.bagList.equipList.get? index).isSome || selling.isEquip then
      offEquip selling.player.baseInfo (.text index) else selling.player.baseInfo).posList slot id →
      Wears selling.player.baseInfo.posList slot id ∧
        (selling.player.bagList.equipList.has index = true → id ≠ .text index) := by
    intro slot id worn
    split at worn
    · obtain ⟨before, off⟩ := offEquip_wears worn
      exact ⟨before, fun _ => off (dressed.slots slot id before)⟩
    · rename_i noEquip
      refine ⟨worn, fun has => absurd ?_ noEquip⟩
      simp only [Bool.or_eq_true]
      exact .inl has
  refine ⟨⟨fun slot id worn => dressed.slots slot id (less slot id worn).1, fun slot id worn => ?_⟩, ?_⟩
  · obtain ⟨before, off⟩ := less slot id worn
    rcases dressed.kept slot id before with has | start
    · refine .inl (deleted id.name has fun member => ?_)
      have sold : id.name = index := List.mem_singleton.mp member
      exact off (sold ▸ has) (sellable (sold ▸ has) id (mem_wornIds.mpr ⟨slot, before⟩) sold)
    · exact .inr start
  · intro other sellable has id worn
    obtain ⟨slot, worn⟩ := mem_wornIds.mp worn
    exact sellable (delItem_has _ _ _ _ has) id (mem_wornIds.mpr ⟨slot, (less slot id worn).1⟩)

theorem sellItemGroup_dressed {Item : ItemTable} {sellgroup : Obj (Option Int)} {cost : Int}
    (ok : sellItemGroup Item player sellgroup = .ok (after, cost)) (dressed : Dressed player)
    (sellable : ∀ index ∈ sellgroup.keys, Sellable player index) : Dressed after := by
  unfold sellItemGroup at ok
  obtain ⟨selling, loop, ok⟩ := bind_ok.mp ok
  obtain ⟨rfl, -⟩ := Prod.mk.inj (Except.ok.inj ok)
  have kept := foldlM_keeps
    (fun selling => Dressed selling.player ∧ ∀ index ∈ sellgroup.keys, Sellable selling.player index)
    (fun s s' entry member inv one => by
      have key : entry.1 ∈ sellgroup.keys := List.mem_map.mpr ⟨entry, member, rfl⟩
      obtain ⟨dressed, later⟩ := sellItem_dressed one inv.1 (inv.2 entry.1 key)
      exact ⟨dressed, fun index listed => later index (inv.2 index listed)⟩) ⟨dressed, sellable⟩ loop
  exact kept.1

/-- What a request that succeeds leaves is dressed when it was careful. -/
theorem handle_dressed {r : Request} (ok : handle tables player r = .ok after) (dressed : Dressed player)
    (careful : Careful tables player r) : Dressed after := by
  cases r with
  | changeEquip sign seq ids => exact Except.ok.inj ok ▸ changeEquip_dressed dressed sign seq ids
  | sellItemGroup sellgroup =>
    obtain ⟨⟨_, cost⟩, stored, rfl⟩ := map_ok.mp ok
    exact sellItemGroup_dressed stored dressed careful.sells
  | splitEquip equipIdList moments =>
    obtain ⟨⟨_, result, gold⟩, stored, rfl⟩ := map_ok.mp ok
    obtain ⟨same, keeps⟩ := splitEquip_keeps stored
    refine dressed.of_keeps (fun slot id worn => same ▸ worn) keeps fun name member => ?_
    obtain ⟨id, listed, rfl⟩ := List.mem_map.mp member
    exact careful.takes id listed
  | meltingEquip lequipId requipId attr draw moments =>
    obtain ⟨⟨_, result, equip, gold⟩, stored, rfl⟩ := map_ok.mp ok
    obtain ⟨same, keeps⟩ := meltingEquip_keeps stored
    refine dressed.of_keeps (fun slot id worn => same ▸ worn) keeps fun name member => ?_
    obtain rfl := List.mem_singleton.mp member
    exact careful.takes requipId (List.mem_singleton.mpr rfl)
  | makeEquip scrollList draws moments =>
    obtain ⟨⟨_, equipList⟩, stored, rfl⟩ := map_ok.mp ok
    obtain ⟨same, keeps⟩ := makeEquip_keeps stored
    refine dressed.of_keeps (fun slot id worn => same ▸ worn) keeps fun name member => ?_
    obtain ⟨id, listed, rfl⟩ := List.mem_map.mp member
    exact careful.takes id listed
  | makeHeroLineup posDst heroId heroInfo =>
    obtain ⟨⟨after, isOk⟩, stored, rfl⟩ := map_ok.mp ok
    obtain ⟨same, suits⟩ := makeHeroLineup_sameSuits stored
    have keeps : Keeps [] player.bagList after.bagList := fun name has _ => by rw [same]; exact has
    exact dressed.of_keeps (fun slot id worn => suits.wears worn) keeps (by simp)
  | award things moments gold =>
    obtain rfl := Except.ok.inj ok
    exact dressed.of_keeps (fun slot id worn => worn) (award_keeps player things moments gold) (by simp)

theorem request_dressed (dressed : Dressed player) {r : Request} (careful : Careful tables player r) :
    Dressed (request tables player r) := by
  unfold request
  split
  · rename_i after ok
    exact handle_dressed ok dressed careful
  · exact dressed

/-! ### Runs -/

theorem createBagList_equipList (Item : ItemTable) (Init : List (Id × Int)) :
    (createBagList Item Init).equipList = ∅ := by
  have loop : ∀ (entries : List (Id × Int)) (bagList : BagList),
      (entries.foldl (fun bagList entry => (addItem Item entry.1 entry.2 bagList).2) bagList).equipList =
        bagList.equipList := by
    intro entries
    induction entries with
    | nil => exact fun _ => rfl
    | cons entry rest ih =>
      intro bagList
      rw [List.foldl_cons, ih]
      unfold addItem
      split
      · split <;> rfl
      · rfl
  exact loop Init createRobotBagList

theorem createRobotBaseInfo_wornIds (gold : Int) : wornIds (createRobotBaseInfo gold).posList = [startingWeapon] := by
  have posList : (createRobotBaseInfo gold).posList = (createRobotBaseInfo 0).posList := rfl
  rw [posList]
  decide +kernel

theorem createRobotBaseInfo_slots (gold : Int) {slot : String} {id : Id}
    (worn : Wears (createRobotBaseInfo gold).posList slot id) : slot ∈ slotNames := by
  have all : ∀ entry ∈ (createRobotBaseInfo 0).posList.entries, ∀ name ∈ entry.2.equipIdList.keys,
      name ∈ slotNames := by decide +kernel
  obtain ⟨i, position, present, inSlot, -⟩ := worn
  exact all ⟨i, position⟩ (AList.mem_lookup_iff.mp present) slot (Obj.mem_keys_iff.mpr ⟨id, inSlot⟩)

theorem createPlayer_missing (Item : ItemTable) (Init : List (Id × Int)) (gold : Int) :
    StartingWeaponMissing (createPlayer Item Init gold) := by
  have empty := createBagList_equipList Item Init
  refine ⟨?_, ?_⟩
  · rw [createPlayer, createRobotBaseInfo_wornIds]
    exact List.mem_singleton.mpr rfl
  · rw [createPlayer, empty]
    rfl

theorem createPlayer_dressed (Item : ItemTable) (Init : List (Id × Int)) (gold : Int) :
    Dressed (createPlayer Item Init gold) where
  slots _ _ worn := createRobotBaseInfo_slots gold worn
  kept slot id worn := by
    have member : id ∈ wornIds (createRobotBaseInfo gold).posList := mem_wornIds.mpr ⟨slot, worn⟩
    rw [createRobotBaseInfo_wornIds] at member
    exact .inr (List.mem_singleton.mp member)

theorem Dressed.wornExist_iff (dressed : Dressed player) : WornExist player ↔ ¬ StartingWeaponMissing player := by
  constructor
  · rintro exist ⟨worn, missing⟩
    exact absurd (exist _ worn) (by rw [missing]; exact Bool.false_ne_true)
  · intro present id worn
    obtain ⟨slot, wears⟩ := mem_wornIds.mp worn
    rcases dressed.kept slot id wears with has | rfl
    · exact has
    · by_contra missing
      exact present ⟨worn, Bool.eq_false_iff.mpr missing⟩

/-- A new player wears an equip it does not have. As long as every request is careful, that weapon is the only one
missing: the worn equips exist exactly when it has been taken off. -/
theorem worn_exist_iff (tables : Tables) (Init : List (Id × Int)) (gold : Int) (requests : List Request)
    (careful : Along (request tables) (Careful tables) (createPlayer tables.Item Init gold) requests) :
    ¬ WornExist (createPlayer tables.Item Init gold) ∧
      let player := run (request tables) (createPlayer tables.Item Init gold) requests
      WornExist player ↔ ¬ StartingWeaponMissing player := by
  have created := createPlayer_dressed tables.Item Init gold
  have reached : Dressed (run (request tables) (createPlayer tables.Item Init gold) requests) :=
    @run_invariant _ _ _ (Careful tables) Dressed (fun _ _ dressed careful => request_dressed dressed careful)
      _ _ created careful
  exact ⟨fun exist => created.wornExist_iff.mp exist (createPlayer_missing tables.Item Init gold),
    reached.wornExist_iff⟩

end

/-! ### A sword -/

def swordTables : Tables := ⟨swordAndPack, fun _ => none, fun _ => none, fun _ => false⟩

/-- The player gets a sword and puts it on instead of the weapon it started with, the index given as `equipId`. -/
def putOnSword (equipId : Id) : List Request :=
  [.award [(.number 10101, 1)] (fun _ _ => ⟨1436338999000, 7, 1⟩) 0,
    .changeEquip (.number 1) (.text "1") ![equipId, .undefined, .undefined, .undefined, .undefined, .undefined]]

def swordIndex : String := "14363389990000700"

def sellSword : Request := .sellItemGroup ((∅ : Obj (Option Int)).set swordIndex (some 1))

def afterSword (equipId : Id) (last : List Request) : Player :=
  run (request swordTables) (createPlayer swordAndPack [] 0) (putOnSword equipId ++ last)

/-- Sold under the string it is worn by. -/
theorem worn_exist_sold : WornExist (afterSword (.text swordIndex) [sellSword]) := by
  have careful : Along (request swordTables) (Careful swordTables) (createPlayer swordAndPack [] 0)
      (putOnSword (.text swordIndex) ++ [sellSword]) :=
    ⟨by decide +kernel, by decide +kernel, by decide +kernel, trivial⟩
  exact (worn_exist_iff swordTables [] 0 _ careful).2.mpr (by decide +kernel)

/-- Split while it is worn, and sold while it is worn by its number. -/
theorem worn_lost :
    WornExist (afterSword (.text swordIndex) []) ∧
      ¬ WornExist (afterSword (.text swordIndex) [.splitEquip [.text swordIndex] fun _ _ _ => ⟨0, 0, 0⟩]) ∧
      ¬ WornExist (afterSword (.number 14363389990000700) [sellSword]) := by
  refine ⟨by decide +kernel, by decide +kernel, by decide +kernel⟩

end Tinygame.Bag
