import Tinygame.Bag.Worn

/-!
# One place for an equip

Putting an equip on clears the same slot of the other positions, where it holds the very id. The same equip in
another slot, or by another spelling of its id, stays where it is.
-/

namespace Tinygame.Bag

/-- No equip is in two places. Ids of one name are one equip. -/
def WornOnce (posList : Obj Position) : Prop :=
  ∀ i i' slot slot' id id', HeldAt posList i slot id → HeldAt posList i' slot' id' → id.name = id'.name →
    i = i' ∧ slot = slot'

/-- The requests that change the positions. Each finds a bag of its own. -/
inductive LineupRequest
  | changeEquip (bagList : BagList) (sign seq : Id) (ids : Fin 6 → Id)
  | makeHeroLineup (posDst heroId : Id) (heroInfo : Bool)

def lineup (baseInfo : BaseInfo) : LineupRequest → BaseInfo
  | .changeEquip bagList sign seq ids => (Bag.changeEquip ⟨baseInfo, bagList⟩ sign seq ids).1.baseInfo
  | .makeHeroLineup posDst heroId heroInfo =>
    match Bag.makeHeroLineup ⟨baseInfo, createRobotBagList⟩ posDst heroId heroInfo with
    | .ok (player, _) => player.baseInfo
    | .error _ => baseInfo

/-- The inner loop of `transPosListToEquipList`. -/
def wornEquips (equips : Obj EquipInfo) (position : Position) : Obj EquipInfo :=
  position.equipIdList.entries.foldl (fun worn slot => match equips.get? slot.2.name with
    | some equip => worn.set slot.2.name equip
    | none => worn) ∅

/-- The equips whose power `getPlayerPower` adds up. -/
def countedEquips (posList : Obj Position) (equips : Obj EquipInfo) : List String :=
  (transPosListToEquipList posList equips).entries.flatMap fun entry => entry.2.keys

/-- The entry passes the tests of `changeEquipInPosition` and is put on. -/
def PutOn (posList : Obj Position) (seq sign : Id) (bagList : BagList) (entry : String × Id) : Prop :=
  sign.same (.number equipSetOn) = true ∧ posList.has seq.name = true ∧ entry.2.truthy = true ∧
    bagList.equipList.has entry.2.name = true

/-- The entries of a request. -/
def idEntries (ids : Fin 6 → Id) : List (String × Id) := (List.finRange 6).map fun k => (toString (k.val + 1), ids k)

/-- The equips put on are different ones, and each is worn before at most where the request takes it off: in the
same slot by the same id, or in a slot of the position that the request fills. -/
structure PutOnce (posList : Obj Position) (seq sign : Id) (bagList : BagList) (entries : List (String × Id)) : Prop where
  different : ∀ entry ∈ entries, ∀ other ∈ entries, PutOn posList seq sign bagList entry →
    PutOn posList seq sign bagList other → entry.2.name = other.2.name → entry.1 = other.1
  free : ∀ entry ∈ entries, PutOn posList seq sign bagList entry → ∀ i slot id, HeldAt posList i slot id →
    id.name = entry.2.name → (i ≠ seq.name ∧ slot = entry.1 ∧ id.same entry.2 = true) ∨
      i = seq.name ∧ ∃ other ∈ entries, PutOn posList seq sign bagList other ∧ slot = other.1

/-- What a request has to meet. -/
def LineupRequest.Careful (baseInfo : BaseInfo) : LineupRequest → Prop
  | .changeEquip bagList sign seq ids => PutOnce baseInfo.posList seq sign bagList (idEntries ids)
  | .makeHeroLineup .. => True

section
variable {posList : Obj Position} {seq sign pos id equipId : Id} {bagList : BagList} {i slot name : String}

/-- A place holds one id. -/
theorem HeldAt.unique {id' : Id} (held : HeldAt posList i slot id) (held' : HeldAt posList i slot id') : id = id' := by
  obtain ⟨position, present, inSlot, -⟩ := held
  obtain ⟨position', present', inSlot', -⟩ := held'
  obtain rfl := Option.some.inj (present.symm.trans present')
  exact Option.some.inj (inSlot.symm.trans inSlot')

/-! ### Changing equips -/

theorem offEquipOtherPosition_elsewhere (held : HeldAt (offEquipOtherPosition posList pos name equipId) i slot id) :
    HeldAt posList i slot id ∧ (i ≠ pos.name → slot = name → id.same equipId = false) := by
  obtain ⟨before, off⟩ := offEquipOtherPosition_held held
  refine ⟨before, fun elsewhere => off ?_⟩
  cases pos with
  | text s =>
    have apart : Id.text i ≠ Id.text s := fun same => elsewhere (by injection same)
    exact decide_eq_false apart
  | _ => rfl

theorem changeSlot_has (entry : String × Id) (name : String) :
    (changeSlot seq sign bagList posList entry).has name = posList.has name := by
  have off (pos equipId : Id) (slot : String) : (offEquipOtherPosition posList pos slot equipId).has name = posList.has name := by
    unfold Obj.has offEquipOtherPosition
    rw [Obj.get?_update, Option.isSome_map]
  have put (posList : Obj Position) (slot : String) (id : Id) :
      (posList.modify seq.name (·.wear slot id)).has name = posList.has name := by
    unfold Obj.has
    rw [Obj.get?_modify]
    split
    · rename_i here
      rw [here, Option.isSome_map]
    · rfl
  unfold changeSlot
  dsimp only
  split
  · split
    · rw [put, off]
    split
    · exact put posList entry.1 (.number 0)
    · rfl
  · rfl

/-- What is in a place after one round was put there, or was there and has not been taken off. -/
theorem changeSlot_held {entry : String × Id} (held : HeldAt (changeSlot seq sign bagList posList entry) i slot id) :
    (PutOn posList seq sign bagList entry ∧ i = seq.name ∧ slot = entry.1 ∧ id = entry.2) ∨
      HeldAt posList i slot id ∧ (PutOn posList seq sign bagList entry → slot = entry.1 →
        i ≠ seq.name ∧ id.same entry.2 = false) := by
  unfold changeSlot at held
  dsimp only at held
  split at held
  · rename_i allowed
    simp only [Bool.and_eq_true] at allowed
    obtain ⟨⟨truthy, listed⟩, has⟩ := allowed
    split at held
    · rename_i on
      rcases wear_held held with ⟨here, same, worn⟩ | ⟨before, elsewhere⟩
      · exact .inl ⟨⟨on, has, truthy, listed⟩, here, same, worn⟩
      · obtain ⟨before, off⟩ := offEquipOtherPosition_elsewhere before
        refine .inr ⟨before, fun _ same => ?_⟩
        have other : i ≠ seq.name := fun here => elsewhere ⟨here, same⟩
        exact ⟨other, off other same⟩
    · rename_i notOn
      refine .inr ⟨?_, fun puts => absurd puts.1 notOn⟩
      split at held
      · rcases wear_held held with ⟨-, -, rfl⟩ | ⟨before, -⟩
        · obtain ⟨_, _, _, nonzero⟩ := held
          exact absurd rfl nonzero
        · exact before
      · exact held
  · rename_i refused
    refine .inr ⟨held, fun puts => ?_⟩
    obtain ⟨-, has, truthy, listed⟩ := puts
    exact absurd (by rw [truthy, listed, has]; rfl) refused

theorem putOn_changeSlot (entry other : String × Id) :
    PutOn (changeSlot seq sign bagList posList entry) seq sign bagList other ↔ PutOn posList seq sign bagList other := by
  unfold PutOn
  rw [changeSlot_has]

/-- The same for all rounds. -/
theorem changeEquipInPosition_held {entries : List (String × Id)}
    (held : HeldAt (changeEquipInPosition posList seq sign entries bagList) i slot id) :
    (∃ entry ∈ entries, PutOn posList seq sign bagList entry ∧ i = seq.name ∧ slot = entry.1 ∧ id = entry.2) ∨
      HeldAt posList i slot id ∧ ∀ entry ∈ entries, PutOn posList seq sign bagList entry → slot = entry.1 →
        i ≠ seq.name ∧ id.same entry.2 = false := by
  unfold changeEquipInPosition at held
  induction entries generalizing posList with
  | nil => exact .inr ⟨held, fun _ member => absurd member List.not_mem_nil⟩
  | cons entry rest ih =>
    rw [List.foldl_cons] at held
    rcases ih held with ⟨later, member, puts, place⟩ | ⟨before, kept⟩
    · exact .inl ⟨later, List.mem_cons_of_mem _ member, (putOn_changeSlot entry later).mp puts, place⟩
    rcases changeSlot_held before with put | ⟨before, left⟩
    · exact .inl ⟨entry, List.mem_cons_self .., put⟩
    · refine .inr ⟨before, fun other member puts => ?_⟩
      rcases List.mem_cons.mp member with rfl | later
      · exact left puts
      · exact kept other later ((putOn_changeSlot entry other).mpr puts)

/-- An equip put on is nowhere else afterwards. -/
theorem changeEquipInPosition_once {entries : List (String × Id)} (once : WornOnce posList)
    (careful : PutOnce posList seq sign bagList entries) :
    WornOnce (changeEquipInPosition posList seq sign entries bagList) := by
  -- what was there and stays is no equip that is put on
  have apart {i slot : String} {id : Id} (before : HeldAt posList i slot id)
      (kept : ∀ entry ∈ entries, PutOn posList seq sign bagList entry → slot = entry.1 →
        i ≠ seq.name ∧ id.same entry.2 = false) {entry : String × Id} (member : entry ∈ entries)
      (puts : PutOn posList seq sign bagList entry) : id.name ≠ entry.2.name := by
    intro same
    rcases careful.free entry member puts i slot id before same with ⟨-, here, off⟩ | ⟨here, other, member', puts', filled⟩
    · rw [(kept entry member puts here).2] at off
      cases off
    · exact (kept other member' puts' filled).1 here
  intro i i' slot slot' id id' held held' same
  rcases changeEquipInPosition_held held with ⟨entry, member, puts, rfl, rfl, rfl⟩ | ⟨before, kept⟩ <;>
    rcases changeEquipInPosition_held held' with ⟨entry', member', puts', rfl, rfl, rfl⟩ | ⟨before', kept'⟩
  · exact ⟨rfl, careful.different entry member entry' member' puts puts' same⟩
  · exact absurd same.symm (apart before' kept' member puts)
  · exact absurd same (apart before kept member' puts')
  · exact once i i' slot slot' id id' before before' same

/-! ### Moving heroes -/

/-- Every position of `after` has the equips of one of `before`, no two of the same one. -/
def Rearranged (before after : Obj Position) : Prop :=
  ∃ source : String → String, (∀ i i', after.has i = true → after.has i' = true → source i = source i' → i = i') ∧
    ∀ i slot id, HeldAt after i slot id → HeldAt before (source i) slot id

theorem WornOnce.rearranged {after : Obj Position} (once : WornOnce posList) (moved : Rearranged posList after) :
    WornOnce after := by
  obtain ⟨source, injective, from_⟩ := moved
  intro i i' slot slot' id id' held held' same
  obtain ⟨sources, slots⟩ := once _ _ slot slot' id id' (from_ i slot id held) (from_ i' slot' id' held') same
  refine ⟨injective i i' ?_ ?_ sources, slots⟩
  · obtain ⟨position, present, -⟩ := held
    exact Obj.has_iff.mpr ⟨position, present⟩
  · obtain ⟨position, present, -⟩ := held'
    exact Obj.has_iff.mpr ⟨position, present⟩

theorem swapPositions_rearranged {key i : String} {posDst : Option Int} {position tmp : Position}
    (there : posList.get? i = some position) (atKey : posList.get? key = some tmp) :
    Rearranged posList (swapPositions posList key i posDst position tmp) := by
  refine ⟨fun k => if k = i then key else if k = key then i else k, fun k k' _ _ same => ?_, fun k slot id held => ?_⟩
  · dsimp only at same
    split at same <;> split at same <;> try split at same
    all_goals try split at same
    all_goals simp_all
  · obtain ⟨found, present, inSlot, nonzero⟩ := held
    rw [get?_swapPositions] at present
    dsimp only
    split at present
    · rename_i here
      rw [if_pos here]
      rw [← Option.some.inj present] at inSlot
      exact ⟨tmp, atKey, inSlot, nonzero⟩
    · rename_i other
      rw [if_neg other]
      split at present
      · rename_i here
        rw [if_pos here]
        rw [← Option.some.inj present] at inSlot
        exact ⟨position, there, inSlot, nonzero⟩
      · rename_i elsewhere
        rw [if_neg elsewhere]
        exact ⟨found, present, inSlot, nonzero⟩

theorem rearranged_rfl (posList : Obj Position) : Rearranged posList posList :=
  ⟨id, fun _ _ _ _ same => same, fun _ _ _ held => held⟩

theorem makeHeroLineup_rearranged {player after : Player} {posDst heroId : Id} {heroInfo isOk : Bool}
    (ok : makeHeroLineup player posDst heroId heroInfo = .ok (after, isOk)) :
    Rearranged player.baseInfo.posList after.baseInfo.posList := by
  obtain ⟨-, still | ⟨i, key, n, position, tmp, there, atKey, moved⟩ | ⟨key, position, atKey, moved⟩⟩ := makeHeroLineup_cases ok
  · rw [still]
    exact rearranged_rfl _
  · rw [moved]
    exact swapPositions_rearranged there atKey
  · rw [moved]
    refine ⟨id, fun _ _ _ _ same => same, fun i slot id held => ?_⟩
    obtain ⟨found, present, inSlot, nonzero⟩ := held
    rw [Obj.get?_set] at present
    split at present
    · rename_i here
      obtain rfl := Option.some.inj present
      exact ⟨position, here ▸ atKey, inSlot, nonzero⟩
    · exact ⟨found, present, inSlot, nonzero⟩

end

/-! ### What is counted -/

section
variable {posList : Obj Position} {equips : Obj EquipInfo} {i index : String} {worn : Obj EquipInfo}

/-- Only equips in the slots of a position are under it. -/
theorem transPosListToEquipList_slots (found : (transPosListToEquipList posList equips).get? i = some worn)
    (listed : index ∈ worn.keys) :
    ∃ position slot id, posList.get? i = some position ∧ position.equipIdList.get? slot = some id ∧ id.name = index := by
  have inside (position : Position) : ∀ index ∈ (wornEquips equips position).keys,
      ∃ slot id, position.equipIdList.get? slot = some id ∧ id.name = index := by
    unfold wornEquips
    refine List.foldlRecOn (motive := fun worn : Obj EquipInfo => ∀ index ∈ worn.keys,
      ∃ slot id, position.equipIdList.get? slot = some id ∧ id.name = index) _ _
      (fun _ member => absurd member List.not_mem_nil) fun worn before slot there index member => ?_
    split at member
    · rw [Obj.mem_keys_iff_has, Obj.has_set, Bool.or_eq_true, decide_eq_true_iff] at member
      rcases member with rfl | old
      · exact ⟨slot.1, slot.2, AList.mem_lookup_iff.mpr there, rfl⟩
      · exact before index (Obj.mem_keys_iff_has.mpr old)
    · exact before index member
  have outside : ∀ i worn, (transPosListToEquipList posList equips).get? i = some worn → ∀ index ∈ worn.keys,
      ∃ position slot id, posList.get? i = some position ∧ position.equipIdList.get? slot = some id ∧ id.name = index := by
    unfold transPosListToEquipList
    refine List.foldlRecOn (motive := fun equipList : Obj (Obj EquipInfo) => ∀ i worn, equipList.get? i = some worn →
      ∀ index ∈ worn.keys, ∃ position slot id, posList.get? i = some position ∧
        position.equipIdList.get? slot = some id ∧ id.name = index) _ _
      (fun i worn found => by cases found) fun equipList before entry there i worn found => ?_
    rw [Obj.get?_set] at found
    split at found
    · rename_i here
      obtain rfl := Option.some.inj found
      intro index member
      obtain ⟨slot, id, held⟩ := inside entry.2 index member
      exact ⟨entry.2, slot, id, here ▸ AList.mem_lookup_iff.mpr there, held⟩
    · exact before i worn found
  exact outside i worn found index listed

/-- An equip that is worn once is counted once; an empty slot has the index 0. -/
theorem countedEquips_once (once : WornOnce posList) (equips : Obj EquipInfo) (nonzero : index ≠ "0") :
    (countedEquips posList equips).count index ≤ 1 := by
  have held {entry : Σ _ : String, Obj EquipInfo} (there : entry ∈ (transPosListToEquipList posList equips).entries)
      {index : String} (listed : index ∈ entry.2.keys.filter (· ≠ "0")) :
      ∃ slot id, HeldAt posList entry.1 slot id ∧ id.name = index := by
    obtain ⟨listed, nonzero⟩ := List.mem_filter.mp listed
    obtain ⟨position, slot, id, present, inSlot, same⟩ := transPosListToEquipList_slots (AList.mem_lookup_iff.mpr there) listed
    refine ⟨slot, id, ⟨position, present, inSlot, ?_⟩, same⟩
    rintro rfl
    exact absurd same.symm (of_decide_eq_true nonzero)
  have distinct : ((countedEquips posList equips).filter (· ≠ "0")).Nodup := by
    rw [countedEquips, List.filter_flatMap, List.nodup_flatMap]
    refine ⟨fun entry there => (AList.keys_nodup entry.2).filter _, ?_⟩
    have keys := List.nodupKeys_iff_pairwise.mp (transPosListToEquipList posList equips).nodupKeys
    refine keys.imp_of_mem fun {a b} inA inB different index inFirst inSecond => ?_
    obtain ⟨slot, id, first, same⟩ := held inA inFirst
    obtain ⟨slot', id', second, same'⟩ := held inB inSecond
    exact different (once _ _ slot slot' id id' first second (same.trans same'.symm)).1
  have counted := List.nodup_iff_count_le_one.mp distinct index
  rwa [List.count_filter (by simpa using nonzero)] at counted

end

/-! ### Runs -/

theorem lineup_once {baseInfo : BaseInfo} {ask : LineupRequest} (once : WornOnce baseInfo.posList)
    (careful : ask.Careful baseInfo) : WornOnce (lineup baseInfo ask).posList := by
  cases ask with
  | changeEquip bagList sign seq ids => exact changeEquipInPosition_once once careful
  | makeHeroLineup posDst heroId heroInfo =>
    rw [lineup]
    split
    · rename_i player isOk ok
      exact once.rearranged (makeHeroLineup_rearranged ok)
    · exact once

theorem createRobotBaseInfo_once (gold : Int) : WornOnce (createRobotBaseInfo gold).posList := by
  have posList : (createRobotBaseInfo gold).posList = (createRobotBaseInfo 0).posList := rfl
  have places : ∀ entry ∈ (createRobotBaseInfo 0).posList.entries, ∀ slot ∈ entry.2.equipIdList.entries,
      slot.2 = .number 0 ∨ entry.1 = "1" ∧ slot.1 = "1" := by decide +kernel
  have place {i slot : String} {id : Id} (held : HeldAt (createRobotBaseInfo gold).posList i slot id) : i = "1" ∧ slot = "1" := by
    obtain ⟨position, present, inSlot, nonzero⟩ := held
    rw [posList] at present
    rcases places ⟨i, position⟩ (AList.mem_lookup_iff.mp present) ⟨slot, id⟩ (AList.mem_lookup_iff.mp inSlot) with zero | here
    · exact absurd zero nonzero
    · exact here
  intro i i' slot slot' id id' held held' _
  exact ⟨(place held).1.trans (place held').1.symm, (place held).2.trans (place held').2.symm⟩

/-- **An equip is worn at most once**, and its power counted at most once, after any requests that put on
each equip only where it leaves its other places. -/
theorem worn_once (gold : Int) {asks : List LineupRequest}
    (careful : Along lineup (fun baseInfo ask => ask.Careful baseInfo) (createRobotBaseInfo gold) asks) :
    let posList := (run lineup (createRobotBaseInfo gold) asks).posList
    WornOnce posList ∧ ∀ equips index, index ≠ "0" → (countedEquips posList equips).count index ≤ 1 := by
  have once : WornOnce (run lineup (createRobotBaseInfo gold) asks).posList :=
    @run_invariant BaseInfo LineupRequest lineup (fun baseInfo ask => ask.Careful baseInfo)
      (fun baseInfo => WornOnce baseInfo.posList)
      (fun _ _ once careful => lineup_once once careful) _ _ (createRobotBaseInfo_once gold) careful
  exact ⟨once, fun equips index nonzero => countedEquips_once once equips nonzero⟩

/-- A bag with one sword. -/
def oneSword : BagList :=
  ⟨100, ∅, (∅ : Obj EquipInfo).set swordIndex (createEquip (.number 10101) ⟨1, some 1, 1, 1, some 5⟩ ⟨1436338999000, 7, 1⟩).2⟩

/-- The sword alone is put into a slot of a position. -/
def putSword (seq : Int) (slot : Fin 6) : LineupRequest :=
  .changeEquip oneSword (.number equipSetOn) (.number seq) fun k => if k = slot then .text swordIndex else .undefined

theorem putSword_careful : (putSword 2 3).Careful (createRobotBaseInfo 0) := by
  have only : ∀ entry ∈ idEntries fun k => if k = 3 then .text swordIndex else .undefined,
      entry.2.truthy = true → entry = ("4", .text swordIndex) := by decide
  have start : ∀ id ∈ wornIds (createRobotBaseInfo 0).posList, id.name ≠ swordIndex := by
    rw [createRobotBaseInfo_wornIds]
    decide
  refine ⟨fun entry there other there' puts puts' _ => ?_, fun entry there puts i slot id held same => ?_⟩
  · rw [only entry there puts.2.2.1, only other there' puts'.2.2.1]
  · rw [only entry there puts.2.2.1] at same
    exact absurd same (start id (mem_wornIds.mpr ⟨slot, held.wears⟩))

theorem worn_once_sword : WornOnce (run lineup (createRobotBaseInfo 0) [putSword 2 3]).posList :=
  (@worn_once 0 [putSword 2 3] ⟨putSword_careful, trivial⟩).1

/-- The sword is put into the first slot of one position, and then into the second slot of another. -/
theorem worn_twice :
    let posList := (run lineup (createRobotBaseInfo 0) [putSword 1 0, putSword 2 1]).posList
    ¬ WornOnce posList ∧ (countedEquips posList oneSword.equipList).count swordIndex = 2 := by
  intro posList
  have held (i slot : String) (there : ((posList.get? i).bind fun position => position.equipIdList.get? slot) =
      some (.text swordIndex)) : HeldAt posList i slot (.text swordIndex) := by
    obtain ⟨position, present, inSlot⟩ := Option.bind_eq_some_iff.mp there
    exact ⟨position, present, inSlot, by decide⟩
  refine ⟨fun once => ?_, by decide +kernel⟩
  have same := once "1" "2" "1" "2" _ _ (held "1" "1" (by decide +kernel)) (held "2" "2" (by decide +kernel)) rfl
  exact absurd same.1 (by decide)

end Tinygame.Bag
