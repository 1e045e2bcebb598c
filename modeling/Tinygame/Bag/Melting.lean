import Tinygame.Bag.Splitting

/-!
# Melting

`meltingEquip` takes one equip out of the bag and writes one of its pairs into another. It splits the one it takes the way
`splitEquip` does, and does not ask whether the two are the same.
-/

namespace Tinygame.Bag

open EquipInfo (pair?)

/-- No field of an equip but its pair `attr` and its saved pair is another. -/
structure OnlyPair (attr : Id) (before after : EquipInfo) : Prop where
  id : after.id = before.id
  num : after.num = before.num
  star : after.star = before.star
  attrs : ∀ j, pair? attr ≠ some j → after.attrs j = before.attrs j
  index : after.index = before.index
  others : ∀ name, after.others.get? name = before.others.get? name

/-- The pair of the right equip that is drawn. -/
def drawn (requip : EquipInfo) (draw : Nat) : Option (Fin 4) :=
  let vTmp := (List.finRange 4).filter fun j => (requip.attrs j).1 ≠ -1
  vTmp[draw % vTmp.length]?

section
variable (eqStar : Int → Option EqStarRow) (bagList : BagList)

/-- What melting an equip of the bag gives, and its gold. -/
def meltOf (id : Id) : Option (List (Id × Int) × Int) := (bagList.equipList.get? id.name).bind (meltReturn eqStar)

def meltDue (id : Id) : String → Int := total (materials ((meltOf eqStar bagList id).elim [] Prod.fst))

def meltGold (id : Id) : Int := (meltOf eqStar bagList id).elim 0 Prod.snd

end

/-- The right equip has left the bag, its materials are there and reported and its gold is there, and the left one is still
there with its pair. -/
structure Melted (eqStar : Int → Option EqStarRow) (lequipId requipId attr : Id) (before after : Player) (result : Record) :
    Prop where
  right : after.bagList.equipList.has requipId.name = false
  max : after.bagList.max = before.bagList.max
  held : ∀ name, after.bagList.held name = before.bagList.held name + meltDue eqStar before.bagList requipId name
  reported : ∀ name, result.num name = meltDue eqStar before.bagList requipId name
  gold : after.baseInfo.gold = before.baseInfo.gold + meltGold eqStar before.bagList requipId
  left : ∃ lequip lequip', before.bagList.equipList.get? lequipId.name = some lequip ∧
    after.bagList.equipList.get? lequipId.name = some lequip' ∧ OnlyPair attr lequip lequip'
  others : ∀ name, name ≠ lequipId.name → name ≠ requipId.name →
    after.bagList.equipList.get? name = before.bagList.equipList.get? name

section
variable (tables : Tables) (player : Player) (lequipId requipId attr : Id) (draw : Nat) (moments : Nat → Nat → Moment)

def MeltRight : Prop :=
  match meltingEquip tables.Item tables.eqStar tables.outside player lequipId requipId attr draw moments with
  | .ok (after, result, _) =>
    Melted tables.eqStar lequipId requipId attr player after result ∧
      request tables player (.meltingEquip lequipId requipId attr draw moments) = after
  | .error _ => request tables player (.meltingEquip lequipId requipId attr draw moments) = player

/-- The left equip knows its index, and it has the pair the right one gives it if `attr` is the number of no pair. -/
structure Fitting (lequip requip : EquipInfo) : Prop where
  index : lequip.index = some lequipId
  pair : ∀ i, drawn requip draw = some i → pair? attr = none →
    lequip.getA attr = some (requip.attrs i).1 ∧ lequip.getN attr = some (requip.attrs i).2

/-- There are two equips, the index of the right one is that of one equip and no stack, its materials can be added, and the
left one is fitting. -/
structure MeltClean : Prop where
  two : lequipId.name ≠ requipId.name
  noStack : player.bagList.itemList.get? requipId.name = none
  single : ∀ requip, player.bagList.equipList.get? requipId.name = some requip → requip.num ≤ 1
  complete : ∀ split, meltOf tables.eqStar player.bagList requipId = some split →
    Complete tables.Item split.1 (delItem requipId 1 player.bagList).2
  fitting : ∀ lequip requip, player.bagList.equipList.get? lequipId.name = some lequip →
    player.bagList.equipList.get? requipId.name = some requip → Fitting lequipId attr draw lequip requip

end

/-! ### The same room -/

variable {Item : ItemTable} {a b : BagList}

/-- The same stacks, and equips under the same indices. -/
structure SameRoom (a b : BagList) : Prop where
  max : a.max = b.max
  items : a.itemList = b.itemList
  equips : ∀ name, (a.equipList.get? name).map EquipInfo.id = (b.equipList.get? name).map EquipInfo.id

/-- The id of an equip that counts. -/
def Good (Item : ItemTable) (id : Option Id) : Prop := ∃ known, id = some known ∧ known.truthy = true ∧ Item.rows.has known.name = true

theorem forall_entries (o : Obj EquipInfo) (p : Option Id → Prop) :
    (∀ entry ∈ o.entries, p entry.2.id) ↔ ∀ name, ∀ id ∈ (o.get? name).map EquipInfo.id, p id := by
  constructor
  · intro all name id found
    obtain ⟨info, there, rfl⟩ := Option.map_eq_some_iff.mp found
    exact all ⟨name, info⟩ ((List.mem_dlookup_iff o.nodupKeys).mp there)
  · intro all entry there
    exact all entry.1 _ (Option.mem_map_of_mem EquipInfo.id ((List.mem_dlookup_iff o.nodupKeys).mpr there))

theorem equipsRoom_iff (entries : List (Σ _ : String, EquipInfo)) (leftRoom room : Int) :
    equipsRoom Item entries leftRoom = some room ↔ (∀ entry ∈ entries, Good Item entry.2.id) ∧ room + entries.length = leftRoom := by
  induction entries generalizing leftRoom with
  | nil =>
    rw [and_iff_right fun entry there => (List.not_mem_nil there).elim]
    show some leftRoom = some room ↔ room + 0 = leftRoom
    rw [Option.some.injEq, Int.add_zero]
    exact eq_comm
  | cons entry rest ih =>
    obtain ⟨name, info⟩ := entry
    unfold equipsRoom
    rw [List.forall_mem_cons, List.length_cons]
    dsimp only
    cases found : info.id with
    | none =>
      refine iff_of_false (by simp) fun both => ?_
      obtain ⟨id, same, -⟩ := both.1.1
      cases same
    | some id =>
      dsimp only
      by_cases good : Good Item (some id)
      · obtain ⟨id', same, truthy, known⟩ := good
        obtain rfl := Option.some.inj same
        have good : Good Item (some id) := ⟨id, rfl, truthy, known⟩
        rw [if_neg (by simp [truthy]), if_neg (by simp [known]), ih, and_assoc, and_iff_right good]
        refine and_congr_right fun _ => ?_
        omega
      · refine iff_of_false (fun ended => ?_) fun both => good both.1.1
        split at ended
        · cases ended
        split at ended
        · cases ended
        rename_i truthy known
        exact good ⟨id, rfl, by simpa using truthy, by simpa using known⟩

theorem SameRoom.room (same : SameRoom a b) : getLeftRoom Item a = getLeftRoom Item b := by
  have keys : ∀ name, name ∈ a.equipList.keys ↔ name ∈ b.equipList.keys := by
    intro name
    have here := congrArg Option.isSome (same.equips name)
    rw [Option.isSome_map, Option.isSome_map] at here
    rw [Obj.mem_keys_iff_has, Obj.mem_keys_iff_has]
    exact iff_of_eq (congrArg (· = true) here)
  have count : a.equipList.entries.length = b.equipList.entries.length := by
    have perm := (List.perm_ext_iff_of_nodup a.equipList.nodupKeys b.equipList.nodupKeys).mpr keys
    have lengths := perm.length_eq
    unfold AList.keys List.keys at lengths
    rwa [List.length_map, List.length_map] at lengths
  have good : (∀ entry ∈ a.equipList.entries, Good Item entry.2.id) ↔ ∀ entry ∈ b.equipList.entries, Good Item entry.2.id := by
    rw [forall_entries, forall_entries]
    exact forall_congr' fun name => by rw [same.equips]
  have equips : equipsRoom Item a.equipList.entries = equipsRoom Item b.equipList.entries := by
    funext leftRoom
    ext room
    rw [equipsRoom_iff, equipsRoom_iff, good, count]
  unfold getLeftRoom countRoom
  rw [same.max, same.items, equips]

theorem SameRoom.tryAddItem (same : SameRoom a b) (itemId : Id) (num : Int) :
    tryAddItem Item itemId num a = tryAddItem Item itemId num b := by
  unfold Bag.tryAddItem
  rw [same.room]

theorem SameRoom.addItem (same : SameRoom a b) (itemId : Id) (num : Int) :
    SameRoom (addItem Item itemId num a).2 (addItem Item itemId num b).2 := by
  unfold Bag.addItem
  rw [same.tryAddItem, same.items]
  split
  · split <;> exact ⟨same.max, rfl, same.equips⟩
  · exact same

theorem SameRoom.complete (same : SameRoom a b) (row : List (Id × Int)) : Complete Item row a ↔ Complete Item row b := by
  induction row generalizing a b with
  | nil => exact Iff.rfl
  | cons entry rest ih =>
    obtain ⟨itemId, num⟩ := entry
    unfold Complete
    rw [same.tryAddItem, ih same]
    split
    · exact Iff.rfl
    · split
      · exact Iff.rfl
      · split
        · exact Iff.rfl
        · split
          · exact ih (same.addItem itemId num)
          · exact Iff.rfl

theorem SameRoom.delItem {id : Id} (same : SameRoom a b) (found : a.equipList.get? id.name = b.equipList.get? id.name) :
    SameRoom (delItem id 1 a).2 (delItem id 1 b).2 := by
  unfold Bag.delItem
  rw [if_neg (by decide), if_neg (by decide), same.items, found]
  split
  · split
    · exact same
    · split <;> exact ⟨same.max, rfl, same.equips⟩
  · split
    · split
      · exact same
      · split
        · refine ⟨same.max, rfl, fun name => ?_⟩
          dsimp only
          rw [Obj.get?_delete, Obj.get?_delete]
          split
          · rfl
          · exact same.equips name
        · refine ⟨same.max, rfl, fun name => ?_⟩
          dsimp only
          rw [Obj.get?_set, Obj.get?_set]
          split
          · rfl
          · exact same.equips name
    · exact same

/-! ### What is taken -/

variable {bagList : BagList} {record : Record} {id : Id} {equip : EquipInfo}

/-- The equip is gone and its materials are there and reported, or one of the three things is wrong. -/
theorem dealSplit_iff (row : List (Id × Int)) (moments : Nat → Nat → Moment) (there : getItemNum id bagList ≠ 0)
    (found : bagList.equipList.get? id.name = some equip) :
    ((dealSplitEquipInBagList Item bagList row id moments record).1.equipList.has id.name = false ∧
      (∀ name, (dealSplitEquipInBagList Item bagList row id moments record).1.held name = bagList.held name + total (materials row) name) ∧
      ∀ name, (dealSplitEquipInBagList Item bagList row id moments record).2.num name = record.num name + total (materials row) name) ↔
    bagList.itemList.get? id.name = none ∧ equip.num ≤ 1 ∧ Complete Item row (delItem id 1 bagList).2 := by
  have took := (delItem_took there found).2
  have gave := @addMaterials_gave Item row moments (delItem id 1 bagList).2 record
  rw [dealSplit_took there found, addMaterials_complete]
  constructor
  · rintro ⟨gone, held, complete⟩
    have reported := (addMaterials_complete row moments _ record).mpr complete
    have noStack : bagList.itemList.get? id.name = none := by
      by_contra full
      have fewer := took.fewer full
      have balance := gave.held id.name
      rw [held, reported] at balance
      omega
    refine ⟨noStack, (took.gone noStack).mp ?_, complete⟩
    rwa [addMaterials_equipList row moments _ record complete] at gone
  · rintro ⟨noStack, single, complete⟩
    have reported := (addMaterials_complete row moments _ record).mpr complete
    refine ⟨?_, fun name => ?_, complete⟩
    · rw [addMaterials_equipList row moments _ record complete]
      exact (took.gone noStack).mpr single
    · have balance := gave.held name
      have unchanged : (delItem id 1 bagList).2.held name = bagList.held name := by
        unfold BagList.held
        rw [took.kept noStack]
      rw [reported, unchanged] at balance
      omega

/-! ### The pair -/

variable {lequip requip equip' : EquipInfo} {lequipId attr : Id} {draw : Nat} {outside : Id → Bool} {pair : Int × Int}

theorem prefixed_ne (name : String) : "a" ++ name ≠ "n" ++ name := by
  intro same
  have heads := congrArg (fun s => s.toList.head?) same
  simp at heads

theorem setPair_id (attr : Id) (pair : Int × Int) : (equip.setPair attr pair).id = equip.id := by
  unfold EquipInfo.setPair
  split
  · rfl
  · dsimp only
    split <;> rfl

theorem dealAttr_id (dealt : dealAttrInEquip outside lequip requip attr draw = some equip') : equip'.id = lequip.id := by
  unfold dealAttrInEquip at dealt
  dsimp only at dealt
  split at dealt
  · rw [Option.some.inj dealt]
  · split at dealt
    · cases dealt
    · rw [← Option.some.inj dealt, setPair_id]

/-- A pair written under a number is that pair, and under any other name it has to be there before. -/
theorem setPair_onlyPair (equip : EquipInfo) (attr : Id) (pair : Int × Int) :
    OnlyPair attr equip (equip.setPair attr pair) ↔
      (pair? attr = none → equip.getA attr = some pair.1 ∧ equip.getN attr = some pair.2) := by
  unfold EquipInfo.setPair EquipInfo.getA EquipInfo.getN
  cases number : pair? attr with
  | some j =>
    refine iff_of_true ⟨rfl, rfl, rfl, fun j' ne => ?_, rfl, fun _ => rfl⟩ fun none_ => by cases none_
    exact Function.update_of_ne (fun same => ne (number.trans (congrArg some same.symm))) _ _
  | none =>
    have different := prefixed_ne attr.name
    dsimp only
    refine Iff.trans ?_ ⟨fun both _ => both, fun both => both rfl⟩
    by_cases num : attr.name = "um"
    · rw [if_pos num, if_pos num]
      constructor
      · intro only
        have first := only.others ("a" ++ attr.name)
        dsimp only at first
        rw [Obj.get?_set_self] at first
        exact ⟨first.symm, congrArg some only.num.symm⟩
      · rintro ⟨first, second⟩
        refine ⟨rfl, (Option.some.inj second).symm, rfl, fun _ _ => rfl, rfl, fun name => ?_⟩
        dsimp only
        rw [Obj.get?_set]
        split
        · rename_i same
          rw [same, first]
        · rfl
    · rw [if_neg num, if_neg num]
      constructor
      · intro only
        have first := only.others ("a" ++ attr.name)
        have second := only.others ("n" ++ attr.name)
        dsimp only at first second
        rw [Obj.get?_set_of_ne _ _ different, Obj.get?_set_self] at first
        rw [Obj.get?_set_self] at second
        exact ⟨first.symm, second.symm⟩
      · rintro ⟨first, second⟩
        refine ⟨rfl, rfl, rfl, fun _ _ => rfl, rfl, fun name => ?_⟩
        dsimp only
        rw [Obj.get?_set, Obj.get?_set]
        split
        · rename_i same
          rw [same, second]
        · split
          · rename_i same
            rw [same, first]
          · rfl

/-- The saved pair may change, and the index may not. -/
theorem OnlyPair.saved {sa sn : Option Int} {ss : Option Id} :
    OnlyPair attr lequip { ({ lequip with sa := sa, sn := sn, ss := ss } : EquipInfo).setPair attr pair with index := some lequipId } ↔
      lequip.index = some lequipId ∧ OnlyPair attr lequip (lequip.setPair attr pair) := by
  unfold EquipInfo.setPair
  cases pair? attr with
  | some j => exact ⟨fun only => ⟨only.index.symm, only.id, only.num, only.star, only.attrs, rfl, only.others⟩,
      fun both => ⟨both.2.id, both.2.num, both.2.star, both.2.attrs, both.1.symm, both.2.others⟩⟩
  | none =>
    dsimp only
    split <;>
      exact ⟨fun only => ⟨only.index.symm, only.id, only.num, only.star, only.attrs, rfl, only.others⟩,
        fun both => ⟨both.2.id, both.2.num, both.2.star, both.2.attrs, both.1.symm, both.2.others⟩⟩

/-- What is written changes the pair only. -/
theorem dealAttr_onlyPair (dealt : dealAttrInEquip outside lequip requip attr draw = some equip') :
    OnlyPair attr lequip { equip' with index := some lequipId } ↔ Fitting lequipId attr draw lequip requip := by
  unfold dealAttrInEquip at dealt
  dsimp only at dealt
  cases pair : drawn requip draw with
  | none =>
    unfold drawn at pair
    rw [pair] at dealt
    obtain rfl := Option.some.inj dealt
    exact ⟨fun only => ⟨only.index.symm, fun i found => by cases pair.symm.trans found⟩,
      fun fitting => ⟨rfl, rfl, rfl, fun _ _ => rfl, fitting.index.symm, fun _ => rfl⟩⟩
  | some i =>
    have drew := pair
    unfold drawn at drew
    rw [drew] at dealt
    dsimp only at dealt
    split at dealt
    · cases dealt
    · obtain rfl := Option.some.inj dealt
      rw [OnlyPair.saved, setPair_onlyPair]
      constructor
      · rintro ⟨index, before⟩
        refine ⟨index, fun i' found => ?_⟩
        obtain rfl := Option.some.inj (pair.symm.trans found)
        exact before
      · intro fitting
        exact ⟨fitting.index, fitting.pair i pair⟩

/-! ### The request -/

variable {tables : Tables} {player after : Player} {requipId : Id} {moments : Nat → Nat → Moment} {result : Record} {gold : Int}

/-- What a melting that succeeds has done. -/
structure Melting (tables : Tables) (player : Player) (lequipId requipId attr : Id) (draw : Nat) (moments : Nat → Nat → Moment)
    (after : Player) (result : Record) (lequip requip melted : EquipInfo) (split : List (Id × Int) × Int) : Prop where
  there : getItemNum requipId player.bagList ≠ 0
  right : player.bagList.equipList.get? requipId.name = some requip
  row : meltOf tables.eqStar player.bagList requipId = some split
  gold : after.baseInfo.gold = player.baseInfo.gold + split.2
  left : player.bagList.equipList.get? lequipId.name = some lequip
  dealt : dealAttrInEquip tables.outside lequip requip attr draw = some melted
  deal : (after.bagList, result) = dealSplitEquipInBagList tables.Item { player.bagList with
    equipList := player.bagList.equipList.set lequipId.name { melted with index := some lequipId } } split.1 requipId moments ⟨none, some ∅⟩

theorem meltingEquip_ok {equip : EquipInfo}
    (ok : meltingEquip tables.Item tables.eqStar tables.outside player lequipId requipId attr draw moments =
      .ok (after, result, equip, gold)) :
    ∃ lequip requip melted split, Melting tables player lequipId requipId attr draw moments after result lequip requip melted split := by
  unfold meltingEquip at ok
  obtain ⟨_, -, ok⟩ := bind_ok.mp ok
  obtain ⟨_, there, ok⟩ := bind_ok.mp ok
  obtain ⟨requip, right, ok⟩ := bind_ok.mp ok
  obtain ⟨split, row, ok⟩ := bind_ok.mp ok
  obtain ⟨baseInfo, paid, ok⟩ := bind_ok.mp ok
  obtain ⟨lequip, left, ok⟩ := bind_ok.mp ok
  obtain ⟨melted, dealt, ok⟩ := bind_ok.mp ok
  obtain ⟨rfl, same⟩ := Prod.mk.inj (Except.ok.inj ok)
  obtain ⟨rfl, -⟩ := Prod.mk.inj same
  refine ⟨lequip, requip, melted, split, require_ok.mp there, present_ok.mp right, ?_, requireGold_gold paid, present_ok.mp left,
    present_ok.mp dealt, rfl⟩
  unfold meltOf
  rw [present_ok.mp right]
  exact present_ok.mp row

/-- A melting has done what it should exactly when it was clean. -/
theorem Melting.melted_iff {lequip requip melted : EquipInfo} {split : List (Id × Int) × Int}
    (melting : Melting tables player lequipId requipId attr draw moments after result lequip requip melted split) :
    Melted tables.eqStar lequipId requipId attr player after result ↔ MeltClean tables player lequipId requipId attr draw := by
  obtain ⟨there, right, row, gold, left, dealt, deal⟩ := melting
  have due : meltDue tables.eqStar player.bagList requipId = total (materials split.1) := by
    unfold meltDue
    rw [row]
    rfl
  have goldDue : meltGold tables.eqStar player.bagList requipId = split.2 := by
    unfold meltGold
    rw [row]
    rfl
  by_cases two : lequipId.name = requipId.name
  · refine iff_of_false (fun done => ?_) fun clean => clean.two two
    obtain ⟨_, lequip', -, still, -⟩ := done.left
    have gone := Obj.has_eq_false.mp done.right
    rw [← two, still] at gone
    cases gone
  · obtain ⟨between, written⟩ : ∃ between : BagList, { player.bagList with
      equipList := player.bagList.equipList.set lequipId.name { melted with index := some lequipId } } = between := ⟨_, rfl⟩
    have bag : after.bagList = (dealSplitEquipInBagList tables.Item between split.1 requipId moments ⟨none, some ∅⟩).1 :=
      written ▸ congrArg Prod.fst deal
    have reported : result = (dealSplitEquipInBagList tables.Item between split.1 requipId moments ⟨none, some ∅⟩).2 :=
      written ▸ congrArg Prod.snd deal
    have mine : between.equipList.get? lequipId.name = some { melted with index := some lequipId } := by
      rw [← written]
      exact Obj.get?_set_self ..
    have others : ∀ name, name ≠ lequipId.name → between.equipList.get? name = player.bagList.equipList.get? name := by
      intro name ne
      rw [← written]
      exact Obj.get?_set_of_ne _ _ ne
    have items : between.itemList = player.bagList.itemList := by rw [← written]
    have max : between.max = player.bagList.max := by rw [← written]
    have held : ∀ name, between.held name = player.bagList.held name := by
      intro name
      unfold BagList.held
      rw [items]
    have found := others requipId.name (Ne.symm two)
    have right' := found.trans right
    have there' : getItemNum requipId between ≠ 0 := by
      unfold getItemNum at there ⊢
      rwa [items, found]
    have room : SameRoom between player.bagList := by
      refine ⟨max, items, fun name => ?_⟩
      by_cases same : name = lequipId.name
      · rw [same, mine, left]
        exact congrArg some (@dealAttr_id lequip requip melted attr draw _ dealt)
      · rw [others name same]
    have complete := @SameRoom.complete tables.Item _ _ (room.delItem found) split.1
    have whole := @dealSplit_iff tables.Item between ⟨none, some ∅⟩ requipId requip split.1 moments there' right'
    rw [← bag, ← reported, complete, items] at whole
    simp only [held] at whole
    have took := (delItem_took there' right').2
    have equips : Complete tables.Item split.1 (delItem requipId 1 player.bagList).2 → ∀ name, name ≠ requipId.name →
        after.bagList.equipList.get? name = between.equipList.get? name := by
      intro fits name ne
      rw [bag, dealSplit_took there' right', addMaterials_equipList _ _ _ _ (complete.mpr fits), took.others name ne]
    have zero : ∀ name, (⟨none, some ∅⟩ : Record).num name = 0 := fun name => rfl
    constructor
    · intro done
      have reportedDue := done.reported
      have heldDue := done.held
      rw [due] at reportedDue heldDue
      obtain ⟨noStack, single, fits⟩ := whole.mp ⟨done.right, heldDue, fun name => by rw [reportedDue, zero, Int.zero_add]⟩
      refine ⟨two, noStack, fun requip' found' => ?_, fun split' row' => ?_, fun lequip' requip' left' found' => ?_⟩
      · obtain rfl := Option.some.inj (right.symm.trans found')
        exact single
      · obtain rfl := Option.some.inj (row.symm.trans row')
        exact fits
      · obtain rfl := Option.some.inj (right.symm.trans found')
        obtain rfl := Option.some.inj (left.symm.trans left')
        obtain ⟨_, last, before, still, only⟩ := done.left
        obtain rfl := Option.some.inj (left.symm.trans before)
        rw [equips fits _ two, mine] at still
        obtain rfl := Option.some.inj still
        exact (dealAttr_onlyPair dealt).mp only
    · intro clean
      have fits := clean.complete split row
      obtain ⟨gone, heldDue, reportedDue⟩ := whole.mpr ⟨clean.noStack, clean.single requip right, fits⟩
      refine ⟨gone, ?_, fun name => ?_, fun name => ?_, by rw [gold, goldDue], ⟨lequip, _, left, ?_, (dealAttr_onlyPair dealt).mpr
        (clean.fitting lequip requip left right)⟩, fun name ne ne' => ?_⟩
      · have gave := @addMaterials_gave tables.Item split.1 moments (delItem requipId 1 between).2 ⟨none, some ∅⟩
        rw [bag, dealSplit_took there' right', gave.max, took.max, max]
      · rw [heldDue, due]
      · rw [reportedDue, zero, Int.zero_add, due]
      · rw [equips fits _ two, mine]
      · rw [equips fits name ne', others name ne]

theorem meltRight_iff (tables : Tables) (player : Player) (lequipId requipId attr : Id) (draw : Nat) (moments : Nat → Nat → Moment) :
    MeltRight tables player lequipId requipId attr draw moments ↔
      ((∃ done, meltingEquip tables.Item tables.eqStar tables.outside player lequipId requipId attr draw moments = .ok done) →
        MeltClean tables player lequipId requipId attr draw) := by
  unfold MeltRight
  cases reply : meltingEquip tables.Item tables.eqStar tables.outside player lequipId requipId attr draw moments with
  | error failure =>
    refine iff_of_true ?_ fun found => by cases found with | intro done ok => cases ok
    exact request_failed (congrArg (Prod.fst <$> ·) reply)
  | ok done =>
    obtain ⟨after, result, equip, gold⟩ := done
    have stored : request tables player (.meltingEquip lequipId requipId attr draw moments) = after :=
      request_stored (congrArg (Prod.fst <$> ·) reply)
    obtain ⟨lequip, requip, melted, split, melting⟩ := meltingEquip_ok reply
    show Melted .. ∧ _ ↔ _
    rw [and_iff_left stored, melting.melted_iff]
    exact ⟨fun clean _ => clean, fun clean => clean ⟨_, rfl⟩⟩

/-- **Splitting and melting** conserve what they should when every equip that is taken is clean, and the left equip of a melting
is another one and fitting. -/
theorem conserves_iff (tables : Tables) (player : Player) (ids : List Id) (moments : Nat → Nat → Nat → Moment)
    (lequipId requipId attr : Id) (draw : Nat) (moments' : Nat → Nat → Moment) :
    (SplitRight tables player moments ids ↔ SplitClean tables player moments ids) ∧
      (MeltRight tables player lequipId requipId attr draw moments' ↔
        ((∃ done, meltingEquip tables.Item tables.eqStar tables.outside player lequipId requipId attr draw moments' = .ok done) →
          MeltClean tables player lequipId requipId attr draw)) :=
  ⟨splitRight_iff tables player moments ids, meltRight_iff tables player lequipId requipId attr draw moments'⟩

/-! ### A hundred packs and no room -/

def packTables : Tables :=
  ⟨swordAndPack, fun star => if star = 1 then some ⟨some [(.number 12001, 100), (.text "gold", 500)]⟩ else none,
    fun _ => none, fun _ => false⟩

def starSword : EquipInfo where
  id := some (.number 10101)
  num := 1
  star := 1
  attrs := ![(6, 20), (0, 0), (0, 0), (0, 0)]
  sa := some 0
  sn := some 0
  ss := some (.number 0)
  index := none
  others := ∅

/-- Ninety-nine cells of packs and a sword with a star. -/
def fullBag : Player := ⟨createRobotBaseInfo 0, ⟨100, (∅ : Obj ItemCell).set "12001" ⟨9801⟩, (∅ : Obj EquipInfo).set swordIndex starSword⟩⟩

theorem SplitRight.reported {moments : Nat → Nat → Nat → Moment} {ids : List Id} (right : SplitRight tables player moments ids)
    (ok : splitEquip tables.Item tables.eqStar player ids moments = .ok (after, result, gold)) (name : String) :
    result.num name = dueOf tables.eqStar player.bagList ids name := by
  unfold SplitRight at right
  rw [ok] at right
  exact (right.1.reported name).trans (Int.zero_add _)

theorem MeltRight.two (right : MeltRight tables player lequipId requipId attr draw moments) {equip : EquipInfo}
    (ok : meltingEquip tables.Item tables.eqStar tables.outside player lequipId requipId attr draw moments =
      .ok (after, result, equip, gold)) :
    lequipId.name ≠ requipId.name := by
  unfold MeltRight at right
  rw [ok] at right
  obtain ⟨lequip, lequip', -, still, -⟩ := right.1.left
  intro same
  have gone := Obj.has_eq_false.mp right.1.right
  rw [← same, still] at gone
  cases gone

/-- The hundred packs of a sword need two cells and there is one, and a sword that is melted into itself is gone. -/
theorem sword_lost :
    ¬SplitRight packTables fullBag (fun _ _ _ => ⟨0, 0, 0⟩) [.text swordIndex] ∧
      ¬MeltRight packTables fullBag (.text swordIndex) (.text swordIndex) (.number 1) 0 fun _ _ => ⟨0, 0, 0⟩ := by
  constructor
  · intro right
    have reply : ((splitEquip packTables.Item packTables.eqStar fullBag [.text swordIndex] fun _ _ _ => ⟨0, 0, 0⟩).toOption.map
        fun done => (done.2.1.num "12001", done.2.2)) = some (0, 500) := by decide +kernel
    have due : dueOf packTables.eqStar fullBag.bagList [.text swordIndex] "12001" = 100 := by decide +kernel
    cases ok : splitEquip packTables.Item packTables.eqStar fullBag [.text swordIndex] fun _ _ _ => ⟨0, 0, 0⟩ with
    | error failure =>
      rw [ok] at reply
      cases reply
    | ok done =>
      obtain ⟨after, result, gold⟩ := done
      rw [ok] at reply
      have none_ := (Prod.mk.inj (Option.some.inj reply)).1
      have reported := right.reported ok "12001"
      dsimp only at none_
      rw [none_, due] at reported
      cases reported
  · intro right
    have reply : (meltingEquip packTables.Item packTables.eqStar packTables.outside fullBag (.text swordIndex)
      (.text swordIndex) (.number 1) 0
        fun _ _ => ⟨0, 0, 0⟩).toOption.isSome = true := by decide +kernel
    cases ok : meltingEquip packTables.Item packTables.eqStar packTables.outside fullBag (.text swordIndex) (.text swordIndex) (.number 1) 0
        fun _ _ => ⟨0, 0, 0⟩ with
    | error failure =>
      rw [ok] at reply
      cases reply
    | ok done =>
      obtain ⟨after, result, equip, gold⟩ := done
      exact right.two ok rfl

end Tinygame.Bag
