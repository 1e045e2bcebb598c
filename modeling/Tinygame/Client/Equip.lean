import Mathlib.Data.List.Nodup
import Mathlib.Logic.Function.Basic
import Tinygame.Base.Rounding

/-!
# Equips of the client

`equip.lua`. An equip keeps a table of the values that its base attribute and its pairs add up to. The table is computed
anew when pairs are set, not when the star is.
-/

namespace Tinygame.Client.Equips
open Double (rounded)

/-- What the item table has for an equip, which always has a base attribute. -/
structure EquipRow where
  auTeyp : Option Int
  auNo : Option Int
  typed : 0 < auTeyp.getD (-1)

/-- The first two of a table, as `unpack` has them; what is no number counts as missing. -/
abbrev Pair := Option Int × Option Int

/-- A table of pairs, in the order of `pairs`. -/
abbrev Attrs := List (Int × Pair)

structure Equip where
  m_nStar : Nat
  m_tbAttrs : Int → Option (Int × Option Int)
  m_conifg : Option EquipRow
  m_tbAttributeValue : Int → Option Int

def Equip.new : Equip := ⟨0, fun _ => none, none, fun _ => none⟩

/-- The places for pairs. -/
def slots : List Int := [1, 2, 3, 4]

section
variable (l_tbStarConfig : Nat → Option Int)

/-- A star that the table does not have is an error. -/
def CountStarIncrease (nStar : Nat) : Option ℚ :=
  ((List.range' 1 nStar).foldlM (fun nAdd i => (l_tbStarConfig i).map (nAdd + ·)) 0).map fun nAdd : Int => rounded (nAdd / 100)

def GetBaseAttribute (m_conifg : Option EquipRow) (nStar : Nat) : Option (Int × Int) :=
  match m_conifg with
  | none => some (-1, 0)
  | some row =>
    let nType := row.auTeyp.getD (-1)
    let nNum := row.auNo.getD 0
    if 0 < nType then (CountStarIncrease l_tbStarConfig nStar).map fun nPercent => (nType, nNum + ⌊rounded (nPercent * nNum)⌋)
    else some (nType, nNum)

namespace Equip

def SetStar (equip : Equip) (nStar : Option Nat) : Equip := { equip with m_nStar := nStar.getD 0 }

def SetAttributeByIndex (equip : Equip) (nIndex : Int) (tbAttr : Pair) : Equip :=
  if nIndex ≤ 0 ∨ 4 < nIndex then equip
  else match tbAttr.1 with
    | none => equip
    | some nID =>
      if 0 ≤ nID then { equip with m_tbAttrs := Function.update equip.m_tbAttrs nIndex (some (nID, tbAttr.2)) } else equip

/-- One pair is added to the table of values. -/
def enter (tbAttrValue : Int → Option Int) : Option (Int × Option Int) → Int → Option Int
  | none => tbAttrValue
  | some (nType, nNum) =>
    Function.update tbAttrValue nType (some ((tbAttrValue nType).getD 0 + if 0 < nType then nNum.getD 0 else 0))

def CalcAttribute (equip : Equip) : Option Equip :=
  (GetBaseAttribute l_tbStarConfig equip.m_conifg equip.m_nStar).map fun base =>
    { equip with
      m_tbAttributeValue :=
        slots.foldl (fun tbAttrValue i => enter tbAttrValue (equip.m_tbAttrs i)) (Function.update (fun _ => none) base.1 (some base.2)) }

def SetAttributes (equip : Equip) (tbAttrs : Option Attrs) : Option Equip :=
  ((tbAttrs.getD []).foldl (fun equip entry => equip.SetAttributeByIndex entry.1 entry.2) equip).CalcAttribute l_tbStarConfig

/-- `tbInfo` is the row of the item table. -/
def Init (equip : Equip) (tbInfo : Option EquipRow) (tbAttrs : Option Attrs) (nStar : Option Nat) : Option Equip :=
  ((equip.SetStar nStar).SetAttributes l_tbStarConfig tbAttrs).bind fun equip =>
    { equip with m_conifg := tbInfo.or equip.m_conifg }.CalcAttribute l_tbStarConfig

end Equip

/-- A call on an equip that is there. -/
inductive Update where
  | star (nStar : Option Nat)
  | attributes (tbAttrs : Option Attrs)

def Equip.update (equip : Equip) : Update → Option Equip
  | .star nStar => some (equip.SetStar nStar)
  | .attributes tbAttrs => equip.SetAttributes l_tbStarConfig tbAttrs

end

/-! ### What the table adds up to -/

variable {l_tbStarConfig : Nat → Option Int} {held : Int → Option (Int × Option Int)}

/-- What a pair adds to a type. -/
def part (pair : Option (Int × Option Int)) (nType : Int) : Int :=
  match pair with
  | none => 0
  | some (nID, nAttr) => if nID = nType ∧ 0 < nType then nAttr.getD 0 else 0

def total (held : Int → Option (Int × Option Int)) (nType : Int) : Int := (slots.map fun i => part (held i) nType).sum

/-- Some pair is of the type. -/
def named (held : Int → Option (Int × Option Int)) (nType : Int) : Bool := slots.any fun i => (held i).any (·.1 = nType)

def values (base : Int × Int) (held : Int → Option (Int × Option Int)) (nType : Int) : Option Int :=
  if nType = base.1 ∨ named held nType then some ((if nType = base.1 then base.2 else 0) + total held nType) else none

theorem enter_eq (tbAttrValue : Int → Option Int) (pair : Option (Int × Option Int)) (nType : Int) :
    Equip.enter tbAttrValue pair nType =
      if (tbAttrValue nType).isSome ∨ pair.any (·.1 = nType) then some ((tbAttrValue nType).getD 0 + part pair nType) else none := by
  cases pair with
  | none => cases found : tbAttrValue nType <;> simp [Equip.enter, part, found]
  | some pair =>
    obtain ⟨nID, nAttr⟩ := pair
    by_cases same : nType = nID
    · subst same
      simp [Equip.enter, part]
    · cases found : tbAttrValue nType <;> simp [Equip.enter, part, found, same, Ne.symm same]

theorem part_of_other {pair : Option (Int × Option Int)} {nType : Int} (other : pair.any (·.1 = nType) = false) : part pair nType = 0 := by
  cases pair with
  | none => rfl
  | some pair =>
    have other : pair.1 ≠ nType := of_decide_eq_false other
    simp [part, other]

theorem foldl_enter (list : List Int) (tbAttrValue : Int → Option Int) (nType : Int) :
    list.foldl (fun tbAttrValue i => Equip.enter tbAttrValue (held i)) tbAttrValue nType =
      if (tbAttrValue nType).isSome ∨ list.any (fun i => (held i).any (·.1 = nType)) then
        some ((tbAttrValue nType).getD 0 + (list.map fun i => part (held i) nType).sum)
      else none := by
  induction list generalizing tbAttrValue with
  | nil => cases found : tbAttrValue nType <;> simp [found]
  | cons i rest ih =>
    rw [List.foldl_cons, ih, enter_eq, List.any_cons, List.map_cons, List.sum_cons]
    cases here : (held i).any (·.1 = nType) with
    | true => simp [add_assoc]
    | false =>
      rw [part_of_other here]
      cases found : tbAttrValue nType <;> simp

theorem CalcAttribute_eq (equip : Equip) : equip.CalcAttribute l_tbStarConfig =
    (GetBaseAttribute l_tbStarConfig equip.m_conifg equip.m_nStar).map fun base =>
      { equip with m_tbAttributeValue := values base equip.m_tbAttrs } := by
  unfold Equip.CalcAttribute
  congr 1
  funext base
  congr 1
  funext nType
  rw [foldl_enter]
  unfold values total named
  by_cases same : nType = base.1
  · subst same
    simp
  · simp [same]

/-! ### What is in the slots -/

/-- What a call puts into a slot by one entry of its table. -/
def offered (entry : Int × Pair) (i : Int) : Option (Int × Option Int) :=
  if entry.1 = i ∧ 0 < i ∧ i ≤ 4 then
    entry.2.1.bind fun nID => if 0 ≤ nID then some (nID, entry.2.2) else none
  else none

/-- Of several entries for one slot the last counts. -/
def written : Attrs → Int → Option (Int × Option Int)
  | [], _ => none
  | entry :: rest, i => (written rest i).or (offered entry i)

theorem SetAttributeByIndex_eq (equip : Equip) (nIndex : Int) (tbAttr : Pair) : equip.SetAttributeByIndex nIndex tbAttr =
    { equip with m_tbAttrs := fun i => (offered (nIndex, tbAttr) i).or (equip.m_tbAttrs i) } := by
  have kept (none : ∀ i, offered (nIndex, tbAttr) i = none) :
      equip = { equip with m_tbAttrs := fun i => (offered (nIndex, tbAttr) i).or (equip.m_tbAttrs i) } := by
    simp [none]
  obtain ⟨nID?, nAttr⟩ := tbAttr
  unfold Equip.SetAttributeByIndex
  split
  · rename_i outside
    refine kept fun i => if_neg ?_
    rintro ⟨rfl, inside⟩
    omega
  · rename_i inside
    cases nID? with
    | none => exact kept fun i => by simp [offered]
    | some nID =>
      dsimp only
      split
      · rename_i accepted
        congr 1
        funext i
        by_cases here : i = nIndex
        · subst here
          rw [Function.update_self, offered, if_pos (by omega)]
          simp [accepted]
        · rw [Function.update_of_ne here, offered, if_neg (by omega)]
          rfl
      · rename_i refused
        exact kept fun i => by simp [offered, refused]

theorem foldl_SetAttributeByIndex (equip : Equip) (tbAttrs : Attrs) :
    tbAttrs.foldl (fun equip entry => equip.SetAttributeByIndex entry.1 entry.2) equip =
      { equip with m_tbAttrs := fun i => (written tbAttrs i).or (equip.m_tbAttrs i) } := by
  induction tbAttrs generalizing equip with
  | nil => rfl
  | cons entry rest ih =>
    rw [List.foldl_cons, ih, SetAttributeByIndex_eq]
    simp only [written, Option.or_assoc]

theorem SetAttributes_eq (equip : Equip) (tbAttrs : Option Attrs) : equip.SetAttributes l_tbStarConfig tbAttrs =
    (GetBaseAttribute l_tbStarConfig equip.m_conifg equip.m_nStar).map fun base =>
      { equip with
        m_tbAttrs := fun i => (written (tbAttrs.getD []) i).or (equip.m_tbAttrs i)
        m_tbAttributeValue := values base fun i => (written (tbAttrs.getD []) i).or (equip.m_tbAttrs i) } := by
  unfold Equip.SetAttributes
  rw [foldl_SetAttributeByIndex, CalcAttribute_eq]

/-- A new equip has the pairs it is given, at its star. -/
theorem Init_eq (row : EquipRow) (tbAttrs : Option Attrs) (nStar : Option Nat) :
    Equip.new.Init l_tbStarConfig (some row) tbAttrs nStar =
      (GetBaseAttribute l_tbStarConfig (some row) (nStar.getD 0)).map fun base =>
        { m_nStar := nStar.getD 0
          m_tbAttrs := written (tbAttrs.getD [])
          m_conifg := some row
          m_tbAttributeValue := values base (written (tbAttrs.getD [])) } := by
  unfold Equip.Init
  rw [SetAttributes_eq]
  simp [Equip.SetStar, Equip.new, GetBaseAttribute, CalcAttribute_eq]

/-! ### What is left from earlier calls -/

/-- What one table leaves of another. -/
def leftover (held before : Int → Option (Int × Option Int)) (i : Int) : Option (Int × Option Int) :=
  if (held i).isSome then none else before i

variable {before : Int → Option (Int × Option Int)} {base base' : Int × Int}

theorem total_or (held before : Int → Option (Int × Option Int)) (nType : Int) :
    total (fun i => (held i).or (before i)) nType = total held nType + total (leftover held before) nType := by
  have each (i : Int) : part ((held i).or (before i)) nType = part (held i) nType + part (leftover held before i) nType := by
    unfold leftover
    cases held i <;> simp [part]
  simp only [total, each, List.sum_map_add]

theorem named_or (held before : Int → Option (Int × Option Int)) (nType : Int) :
    named (fun i => (held i).or (before i)) nType = (named held nType || named (leftover held before) nType) := by
  have each (i : Int) : ((held i).or (before i)).any (·.1 = nType) =
      ((held i).any (·.1 = nType) || (leftover held before i).any (·.1 = nType)) := by
    unfold leftover
    cases held i <;> simp
  simp only [named, each, slots, List.any_cons, List.any_nil, Bool.or_false]
  ac_rfl

theorem total_of_not_named {nType : Int} (none : named held nType = false) : total held nType = 0 := by
  have each : ∀ i ∈ slots, part (held i) nType = 0 := fun i member => part_of_other (by
    have := List.any_eq_false.mp none i member
    simpa using this)
  unfold total
  rw [List.map_congr_left each]
  rfl

/-- What is left over adds nothing, together with a base that has changed. -/
def AddsNothing (base base' : Int × Int) (held left : Int → Option (Int × Option Int)) : Prop :=
  ∀ nType, (named left nType → nType = base.1 ∨ named held nType) ∧
    (if nType = base.1 then base.2 - base'.2 else 0) + total left nType = 0

theorem values_eq_iff (same : base.1 = base'.1) :
    values base (fun i => (held i).or (before i)) = values base' held ↔ AddsNothing base base' held (leftover held before) := by
  rw [funext_iff]
  refine forall_congr' fun nType => ?_
  simp only [values, named_or, total_or, ← same]
  by_cases known : nType = base.1 ∨ named held nType = true
  · have key : nType = base.1 ∨ (named held nType || named (leftover held before) nType) = true := by
      rcases known with base | pair
      · exact .inl base
      · exact .inr (by simp [pair])
    rw [if_pos key, if_pos known, Option.some.injEq]
    simp only [known, implies_true, true_and]
    split <;> omega
  · obtain ⟨other, unnamed⟩ := not_or.mp known
    rw [if_neg known]
    cases left : named (leftover held before) nType with
    | true => simp [known]
    | false => simp [other, unnamed, total_of_not_named left]

/-! ### Histories -/

/-- What an equip has been told: its star, its star when it was last given pairs, the pairs of then, and those it was given
before, the last ones first. -/
structure History where
  star : Nat
  counted : Nat
  pairs : Attrs
  earlier : List Attrs

def History.first (tbAttrs : Option Attrs) (nStar : Option Nat) : History := ⟨nStar.getD 0, nStar.getD 0, tbAttrs.getD [], []⟩

def History.next (told : History) : Update → History
  | .star nStar => { told with star := nStar.getD 0 }
  | .attributes tbAttrs => ⟨told.star, told.star, tbAttrs.getD [], told.pairs :: told.earlier⟩

/-- The pairs of several calls, the last one first. -/
def writtenBy : List Attrs → Int → Option (Int × Option Int)
  | [], _ => none
  | tbAttrs :: before, i => (written tbAttrs i).or (writtenBy before i)

/-- An equip as its history has it. -/
structure Tracks (l_tbStarConfig : Nat → Option Int) (row : EquipRow) (told : History) (equip : Equip) : Prop where
  star : equip.m_nStar = told.star
  config : equip.m_conifg = some row
  slots : equip.m_tbAttrs = writtenBy (told.pairs :: told.earlier)
  table : ∃ base, GetBaseAttribute l_tbStarConfig (some row) told.counted = some base ∧
    equip.m_tbAttributeValue = values base equip.m_tbAttrs

variable {row : EquipRow} {told : History} {equip equip' : Equip}

theorem Init_tracks {tbAttrs : Option Attrs} {nStar : Option Nat}
    (ran : Equip.new.Init l_tbStarConfig (some row) tbAttrs nStar = some equip) :
    Tracks l_tbStarConfig row (.first tbAttrs nStar) equip := by
  rw [Init_eq] at ran
  obtain ⟨base, scaled, rfl⟩ := Option.map_eq_some_iff.mp ran
  refine ⟨rfl, rfl, ?_, base, scaled, rfl⟩
  funext i
  exact (Option.or_none ..).symm

theorem Tracks.update (tracks : Tracks l_tbStarConfig row told equip) {update : Update}
    (ran : equip.update l_tbStarConfig update = some equip') : Tracks l_tbStarConfig row (told.next update) equip' := by
  cases update with
  | star nStar =>
    obtain rfl := Option.some.inj ran
    exact ⟨rfl, tracks.config, tracks.slots, tracks.table⟩
  | attributes tbAttrs =>
    simp only [Equip.update, SetAttributes_eq, tracks.config, tracks.star, tracks.slots] at ran
    obtain ⟨base, scaled, rfl⟩ := Option.map_eq_some_iff.mp ran
    exact ⟨rfl, rfl, rfl, base, scaled, rfl⟩

theorem Tracks.updates (tracks : Tracks l_tbStarConfig row told equip) {updates : List Update}
    (ran : updates.foldlM (fun equip update => equip.update l_tbStarConfig update) equip = some equip') :
    Tracks l_tbStarConfig row (updates.foldl History.next told) equip' := by
  induction updates generalizing told equip with
  | nil => exact Option.some.inj ran ▸ tracks
  | cons update rest ih =>
    obtain ⟨middle, first, later⟩ := Option.bind_eq_some_iff.mp ran
    exact ih (tracks.update first) later

/-! ### Stars -/

/-- The star table has every star up to this one. -/
def Covered (l_tbStarConfig : Nat → Option Int) (nStar : Nat) : Prop := ∀ i, 1 ≤ i → i ≤ nStar → (l_tbStarConfig i).isSome

theorem CountStarIncrease_covered {nStar : Nat} (covered : Covered l_tbStarConfig nStar) :
    ∃ nPercent, CountStarIncrease l_tbStarConfig nStar = some nPercent := by
  have all (list : List Nat) (known : ∀ i ∈ list, (l_tbStarConfig i).isSome) (nAdd : Int) :
      ∃ sum, list.foldlM (fun nAdd i => (l_tbStarConfig i).map (nAdd + ·)) nAdd = some sum := by
    induction list generalizing nAdd with
    | nil => exact ⟨nAdd, rfl⟩
    | cons i rest ih =>
      obtain ⟨here, later⟩ := List.forall_mem_cons.mp known
      obtain ⟨increase, found⟩ := Option.isSome_iff_exists.mp here
      rw [List.foldlM_cons, found]
      exact ih later _
  obtain ⟨sum, added⟩ := all (List.range' 1 nStar)
    (fun i member => covered i (List.mem_range'_1.mp member).1 (by have := (List.mem_range'_1.mp member).2; omega)) 0
  exact ⟨_, by rw [CountStarIncrease, added]; rfl⟩

theorem GetBaseAttribute_covered (row : EquipRow) {nStar : Nat} (covered : Covered l_tbStarConfig nStar) :
    ∃ nPercent, CountStarIncrease l_tbStarConfig nStar = some nPercent ∧ GetBaseAttribute l_tbStarConfig (some row) nStar =
      some (row.auTeyp.getD (-1), row.auNo.getD 0 + ⌊rounded (nPercent * row.auNo.getD 0)⌋) := by
  obtain ⟨nPercent, counted⟩ := CountStarIncrease_covered covered
  refine ⟨nPercent, counted, ?_⟩
  simp only [GetBaseAttribute, counted, if_pos row.typed, Option.map_some]

theorem GetBaseAttribute_type {nStar : Nat} {base : Int × Int}
    (scaled : GetBaseAttribute l_tbStarConfig (some row) nStar = some base) : base.1 = row.auTeyp.getD (-1) := by
  simp only [GetBaseAttribute, if_pos row.typed] at scaled
  obtain ⟨nPercent, -, rfl⟩ := Option.map_eq_some_iff.mp scaled
  rfl

/-! ### The pairs of a record -/

/-- A pair that is there; one that is missing has no id or a negative one. -/
def Pair.read? : Pair → Option (Int × Int)
  | (some nID, some nAttr) => if 0 ≤ nID then some (nID, nAttr) else none
  | _ => none

def pairsOf (pairs : Attrs) : List (Int × Int) := pairs.filterMap fun entry => entry.2.read?

/-- At most four pairs, each with a positive type and a number. -/
structure Proper (pairs : Attrs) : Prop where
  apart : (pairs.map Prod.fst).Nodup
  slots : ∀ entry ∈ pairs, entry.1 ∈ slots
  typed : ∀ entry ∈ pairs, ∀ nID, entry.2.1 = some nID → 0 ≤ nID → 0 < nID ∧ entry.2.2.isSome

/-- The base, if it has the type, and all pairs of the type. -/
def summed (base : Int × Int) (pairs : List (Int × Int)) (nType : Int) : Option Int :=
  if nType = base.1 ∨ nType ∈ pairs.map Prod.fst then
    some ((if nType = base.1 then base.2 else 0) + ((pairs.filter (·.1 = nType)).map Prod.snd).sum)
  else none

theorem written_other {pairs : Attrs} {i : Int} (other : i ∉ pairs.map Prod.fst) : written pairs i = none := by
  induction pairs with
  | nil => rfl
  | cons entry rest ih =>
    rw [List.map_cons, List.mem_cons, not_or] at other
    simp [written, ih other.2, offered, Ne.symm other.1]

variable {entry : Int × Pair} {pairs : Attrs}

/-- In a slot of its own a pair is kept as it is. -/
theorem offered_self (slot : entry.1 ∈ slots)
    (typed : ∀ nID, entry.2.1 = some nID → 0 ≤ nID → 0 < nID ∧ entry.2.2.isSome) :
    offered entry entry.1 = entry.2.read?.map fun pair => (pair.1, some pair.2) := by
  have inside : entry.1 = entry.1 ∧ 0 < entry.1 ∧ entry.1 ≤ 4 := by
    simp only [slots, List.mem_cons, List.not_mem_nil, or_false] at slot
    omega
  obtain ⟨i, nID?, nAttr?⟩ := entry
  unfold offered
  rw [if_pos inside]
  cases nID? with
  | none => rfl
  | some nID =>
    by_cases there : 0 ≤ nID
    · obtain ⟨nAttr, rfl⟩ := Option.isSome_iff_exists.mp (typed nID rfl there).2
      simp [Pair.read?, there]
    · cases nAttr? <;> simp [Pair.read?, there]

/-- Of the slots only its own is told apart. -/
theorem offered_slots (slot : entry.1 ∈ slots) (nType : Int) :
    total (offered entry) nType = part (offered entry entry.1) nType ∧
      named (offered entry) nType = (offered entry entry.1).any (·.1 = nType) := by
  obtain ⟨i, pair⟩ := entry
  simp only [slots, List.mem_cons, List.not_mem_nil, or_false] at slot
  rcases slot with rfl | rfl | rfl | rfl <;> simp [total, named, slots, offered, part]

theorem part_read (pair : Option (Int × Int)) (positive : ∀ known, pair = some known → 0 < known.1) (nType : Int) :
    part (pair.map fun pair => (pair.1, some pair.2)) nType = ((pair.toList.filter (·.1 = nType)).map Prod.snd).sum := by
  cases pair with
  | none => rfl
  | some known =>
    have := positive known rfl
    by_cases same : known.1 = nType
    · have : 0 < nType := by omega
      simp [part, same, this]
    · simp [part, same]

theorem leftover_offered {rest : Attrs} (apart : entry.1 ∉ rest.map Prod.fst) : leftover (written rest) (offered entry) = offered entry := by
  funext i
  unfold leftover
  by_cases here : i = entry.1
  · rw [here, written_other apart]
    rfl
  · have none : offered entry i = none := if_neg fun inside => here inside.1.symm
    rw [none]
    exact ite_self _

theorem read_pos (typed : ∀ nID, entry.2.1 = some nID → 0 ≤ nID → 0 < nID ∧ entry.2.2.isSome) (known : Int × Int)
    (read : entry.2.read? = some known) : 0 < known.1 := by
  obtain ⟨i, nID?, nAttr?⟩ := entry
  cases nID? with
  | none => nomatch read
  | some nID =>
    cases nAttr? with
    | none => nomatch read
    | some nAttr =>
      obtain ⟨there, same⟩ := Option.ite_none_right_eq_some.mp read
      exact Option.some.inj same ▸ (typed nID rfl there).1

theorem written_sums (proper : Proper pairs) (nType : Int) :
    total (written pairs) nType = (((pairsOf pairs).filter (·.1 = nType)).map Prod.snd).sum ∧
      (named (written pairs) nType = true ↔ nType ∈ (pairsOf pairs).map Prod.fst) := by
  induction pairs with
  | nil => exact ⟨rfl, by simp [named, slots, written, pairsOf]⟩
  | cons entry rest ih =>
    obtain ⟨apart, unique⟩ := List.nodup_cons.mp proper.apart
    obtain ⟨slot, slots⟩ := List.forall_mem_cons.mp proper.slots
    obtain ⟨typed, later⟩ := List.forall_mem_cons.mp proper.typed
    obtain ⟨sum, keys⟩ := ih ⟨unique, slots, later⟩
    obtain ⟨one, key⟩ := offered_slots slot nType
    have split : pairsOf (entry :: rest) = entry.2.read?.toList ++ pairsOf rest := by
      unfold pairsOf
      cases found : entry.2.read? <;> simp [found]
    have own := offered_self slot typed
    have cons : written (entry :: rest) = fun i => (written rest i).or (offered entry i) := rfl
    rw [cons]
    constructor
    · rw [total_or, sum, leftover_offered apart, one, own, part_read _ (read_pos typed), split, List.filter_append,
        List.map_append, List.sum_append, add_comm]
    · rw [named_or, leftover_offered apart, Bool.or_eq_true, keys, key, own, split, List.map_append, List.mem_append, or_comm]
      cases entry.2.read? <;> simp [eq_comm]

theorem values_written (proper : Proper pairs) : values base (written pairs) = summed base (pairsOf pairs) := by
  funext nType
  obtain ⟨sum, keys⟩ := written_sums proper nType
  simp only [values, summed, sum, keys]

/-! ### Equips that are kept up to date -/

section
variable (l_tbStarConfig) (row : EquipRow) (tbAttrs : Option Attrs) (nStar : Option Nat) (updates : List Update)

/-- An equip is made and then told what changes. -/
def kept : Option Equip :=
  (Equip.new.Init l_tbStarConfig (some row) tbAttrs nStar).bind fun equip =>
    updates.foldlM (fun equip update => equip.update l_tbStarConfig update) equip

def historyOf : History := updates.foldl History.next (.first tbAttrs nStar)

/-- The base as it was last computed, and the pairs of earlier calls that are still in their slots, add nothing to what the
last values have. -/
def LeavesNothing (told : History) : Prop :=
  ∃ base base', GetBaseAttribute l_tbStarConfig (some row) told.counted = some base ∧
    GetBaseAttribute l_tbStarConfig (some row) told.star = some base' ∧
    AddsNothing base base' (written told.pairs) (leftover (written told.pairs) (writtenBy told.earlier))

end

theorem kept_tracks {tbAttrs : Option Attrs} {nStar : Option Nat} {updates : List Update}
    (ran : kept l_tbStarConfig row tbAttrs nStar updates = some equip) :
    Tracks l_tbStarConfig row (historyOf tbAttrs nStar updates) equip := by
  obtain ⟨first, made, ran⟩ := Option.bind_eq_some_iff.mp ran
  exact (Init_tracks made).updates ran

/-- Calls with stars that the table has all run through. -/
theorem updates_run {updates : List Update} (covered : ∀ star, .star star ∈ updates → Covered l_tbStarConfig (star.getD 0))
    (config : equip.m_conifg = some row) (first : Covered l_tbStarConfig equip.m_nStar) :
    ∃ last, updates.foldlM (fun equip update => equip.update l_tbStarConfig update) equip = some last := by
  induction updates generalizing equip with
  | nil => exact ⟨equip, rfl⟩
  | cons update rest ih =>
    have later := fun star member => covered star (List.mem_cons_of_mem _ member)
    rw [List.foldlM_cons]
    cases update with
    | star nStar => exact ih later config (covered nStar (List.mem_cons_self ..))
    | attributes tbAttrs =>
      obtain ⟨nPercent, -, scaled⟩ := GetBaseAttribute_covered row first
      have step : ∃ next, equip.update l_tbStarConfig (.attributes tbAttrs) = some next ∧ next.m_conifg = some row ∧
          next.m_nStar = equip.m_nStar := by
        simp only [Equip.update, SetAttributes_eq, config, scaled, Option.map_some]
        exact ⟨_, rfl, rfl, rfl⟩
      obtain ⟨next, ran, same, star⟩ := step
      rw [ran]
      exact ih later same (star.symm ▸ first)

/-- Nothing is left where the base was computed at the last star and the last pairs fill every slot that was in use. -/
theorem leavesNothing_of_filled (row : EquipRow) {told : History} (covered : Covered l_tbStarConfig told.star) (counted : told.counted = told.star)
    (filled : ∀ i, (writtenBy told.earlier i).isSome → (written told.pairs i).isSome) : LeavesNothing l_tbStarConfig row told := by
  obtain ⟨nPercent, -, scaled⟩ := GetBaseAttribute_covered row covered
  refine ⟨_, _, counted ▸ scaled, scaled, fun nType => ?_⟩
  have empty : leftover (written told.pairs) (writtenBy told.earlier) = fun _ => none := by
    funext i
    unfold leftover
    split
    · rfl
    · rename_i free
      exact Option.not_isSome_iff_eq_none.mp fun there => free (filled i there)
  rw [empty]
  simp [named, total, part, slots]

/-- Whatever an equip has been told, its values are those of a new equip with its last star and its last pairs just where
nothing is left from before. Those of a new equip are the base at its star and its pairs, summed by type. -/
theorem equip_updates (l_tbStarConfig : Nat → Option Int) (row : EquipRow) (tbAttrs : Option Attrs) (nStar : Option Nat)
    (updates : List Update) :
    (Covered l_tbStarConfig (nStar.getD 0) → (∀ star, .star star ∈ updates → Covered l_tbStarConfig (star.getD 0)) →
      ∃ equip, kept l_tbStarConfig row tbAttrs nStar updates = some equip) ∧
    ∀ equip, kept l_tbStarConfig row tbAttrs nStar updates = some equip →
      Covered l_tbStarConfig (historyOf tbAttrs nStar updates).star →
      ∃ fresh, Equip.new.Init l_tbStarConfig (some row) (some (historyOf tbAttrs nStar updates).pairs)
          (some (historyOf tbAttrs nStar updates).star) = some fresh ∧
        (Proper (historyOf tbAttrs nStar updates).pairs →
          ∃ nPercent, CountStarIncrease l_tbStarConfig (historyOf tbAttrs nStar updates).star = some nPercent ∧
            fresh.m_tbAttributeValue =
              summed (row.auTeyp.getD (-1), row.auNo.getD 0 + ⌊rounded (nPercent * row.auNo.getD 0)⌋)
                (pairsOf (historyOf tbAttrs nStar updates).pairs)) ∧
        (equip.m_tbAttributeValue = fresh.m_tbAttributeValue ↔ LeavesNothing l_tbStarConfig row (historyOf tbAttrs nStar updates)) := by
  constructor
  · intro first covered
    obtain ⟨nPercent, -, scaled⟩ := GetBaseAttribute_covered row first
    unfold kept
    rw [Init_eq, scaled]
    exact updates_run covered rfl first
  · intro equip ran covered
    have tracks := kept_tracks ran
    generalize historyOf tbAttrs nStar updates = told at tracks covered ⊢
    obtain ⟨nPercent, counted, scaled⟩ := GetBaseAttribute_covered row covered
    refine ⟨_, by rw [Init_eq, Option.getD_some, Option.getD_some, scaled]; rfl, fun proper => ⟨nPercent, counted, ?_⟩, ?_⟩
    · exact values_written proper
    · obtain ⟨base, before, table⟩ := tracks.table
      have same : base.1 = row.auTeyp.getD (-1) := GetBaseAttribute_type before
      rw [table, tracks.slots]
      refine (values_eq_iff same).trans ⟨fun nothing => ⟨_, _, before, scaled, nothing⟩, ?_⟩
      rintro ⟨base₁, base₂, before', scaled', nothing⟩
      obtain rfl := Option.some.inj (before.symm.trans before')
      obtain rfl := Option.some.inj (scaled.symm.trans scaled')
      exact nothing

/-! ### A coat -/

/-- The star table of the scripts. -/
def eqStar (nStar : Nat) : Option Int := if 1 ≤ nStar ∧ nStar ≤ 10 then some 2 else none

theorem eqStar_covered {nStar : Nat} (least : nStar ≤ 10) : Covered eqStar nStar := fun i first last => by
  rw [eqStar, if_pos ⟨first, last.trans least⟩]
  rfl

def coat : EquipRow := ⟨some 5, some 50, by decide⟩

def coatPairs : Attrs := [(1, some 5, some 10), (2, some 7, some 20)]

theorem coatPairs_proper : Proper coatPairs where
  apart := by decide
  slots := by decide
  typed := by simp [coatPairs]

/-- A star, and then all pairs again. -/
theorem equip_updates_coat : ∃ equip fresh, kept eqStar coat (some coatPairs) (some 0) [.star (some 1), .attributes (some coatPairs)] =
      some equip ∧ Equip.new.Init eqStar (some coat) (some coatPairs) (some 1) = some fresh ∧
    equip.m_tbAttributeValue = fresh.m_tbAttributeValue ∧ ∃ nPercent, CountStarIncrease eqStar 1 = some nPercent ∧
      fresh.m_tbAttributeValue = summed (5, 50 + ⌊rounded (nPercent * (50 : Int))⌋) [(5, 10), (7, 20)] := by
  obtain ⟨runs, right⟩ := equip_updates eqStar coat (some coatPairs) (some 0) [.star (some 1), .attributes (some coatPairs)]
  obtain ⟨equip, ran⟩ := runs (eqStar_covered (by decide)) fun star told => eqStar_covered (by
    rcases List.mem_cons.mp told with same | told
    · cases same
      decide
    · simp at told)
  obtain ⟨fresh, made, sums, same⟩ := right equip ran (eqStar_covered (by decide))
  have filled : ∀ i, (writtenBy [coatPairs] i).isSome → (written coatPairs i).isSome := by simp [writtenBy]
  have nothing : LeavesNothing eqStar coat ⟨1, 1, coatPairs, [coatPairs]⟩ :=
    leavesNothing_of_filled coat (eqStar_covered (by decide)) rfl filled
  exact ⟨equip, fresh, ran, made, same.mpr nothing, sums coatPairs_proper⟩

/-- A star alone leaves the value of before, and pairs that are no longer given stay. -/
theorem coat_stale :
    (kept eqStar coat (some coatPairs) (some 0) [.star (some 1)]).map Equip.m_tbAttributeValue ≠
      (Equip.new.Init eqStar (some coat) (some coatPairs) (some 1)).map Equip.m_tbAttributeValue ∧
    (kept eqStar coat (some coatPairs) (some 0) [.attributes (some [(1, some 5, some 10)])]).map Equip.m_tbAttributeValue ≠
      (Equip.new.Init eqStar (some coat) (some [(1, some 5, some 10)]) (some 0)).map Equip.m_tbAttributeValue := by
  constructor
  · intro same
    have value := congrArg (Option.map (· 5)) same
    revert value
    decide +kernel
  · intro same
    have value := congrArg (Option.map (· 7)) same
    revert value
    decide +kernel

end Tinygame.Client.Equips
