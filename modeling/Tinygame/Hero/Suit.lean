import Mathlib.Data.List.Induction
import Mathlib.Logic.Function.Basic
import Mathlib.Tactic.Common

/-!
# What a suit of one star gives

`CalcSuitAttribute` and `GetEquipStars` of `player.lua` and the suit attributes of `npc/data.lua`. Bonuses are added to
what was there before, and an attribute is open for the stars up to its place instead of from it on.
-/

namespace Tinygame.Hero.Suit

/-! ### Stars -/

/-- `P_MAX`. -/
def equipMax : Nat := 6

/-- The loop over the equips of a suit, given by their stars. -/
def sameStars : List Nat → Option Nat → Nat → Option Nat × Nat
  | [], nStar, nCount => (nStar, nCount)
  | stars :: tbSlots, nStar, nCount =>
    if nStar.getD stars ≠ stars then (some 0, nCount) else sameStars tbSlots (some (nStar.getD stars)) (nCount + 1)

/-- The suits of a player, each in the order in which `pairs` has it. -/
abbrev Equips := Nat → Option (List Nat)

def getEquipStars (tbEquips : Equips) (nSuit : Nat) : Nat :=
  let scanned := sameStars ((tbEquips nSuit).getD []) none 0
  if scanned.2 < equipMax then 0 else scanned.1.getD 0

/-- The suit is worn whole, and each of its equips has so many stars. -/
def CommonStar (tbEquips : Equips) (nSuit nStar : Nat) : Prop :=
  ∃ tbSlots, tbEquips nSuit = some tbSlots ∧ equipMax ≤ tbSlots.length ∧ ∀ stars ∈ tbSlots, stars = nStar

theorem sameStars_same {tbSlots : List Nat} {nStar : Nat} (nCount : Nat) (same : ∀ stars ∈ tbSlots, stars = nStar) :
    sameStars tbSlots (some nStar) nCount = (some nStar, nCount + tbSlots.length) := by
  induction tbSlots generalizing nCount with
  | nil => rfl
  | cons stars tbSlots ih =>
    obtain ⟨rfl, rest⟩ := List.forall_mem_cons.mp same
    rw [sameStars, Option.getD_some, if_neg (not_not.mpr rfl), ih _ rest, List.length_cons, Nat.add_right_comm, Nat.add_assoc]

theorem sameStars_mixed {tbSlots : List Nat} {nStar : Nat} (nCount : Nat) (mixed : ¬ ∀ stars ∈ tbSlots, stars = nStar) :
    (sameStars tbSlots (some nStar) nCount).1 = some 0 := by
  induction tbSlots generalizing nCount with
  | nil => exact absurd (List.forall_mem_nil _) mixed
  | cons stars tbSlots ih =>
    rw [sameStars, Option.getD_some]
    by_cases same : nStar = stars
    · rw [if_neg (not_not.mpr same)]
      apply ih
      intro rest
      exact mixed (List.forall_mem_cons.mpr ⟨same.symm, rest⟩)
    · rw [if_pos same]

/-- The first equip is compared with itself. -/
theorem sameStars_cons (stars : Nat) (tbSlots : List Nat) :
    sameStars (stars :: tbSlots) none 0 = sameStars tbSlots (some stars) 1 := by
  rw [sameStars, Option.getD_none, if_neg (not_not.mpr rfl)]

variable {tbEquips : Equips} {nSuit nStar : Nat}

theorem getEquipStars_common (common : CommonStar tbEquips nSuit nStar) : getEquipStars tbEquips nSuit = nStar := by
  obtain ⟨tbSlots, worn, whole, same⟩ := common
  unfold getEquipStars
  rw [worn, Option.getD_some]
  cases tbSlots with
  | nil => simp [equipMax] at whole
  | cons stars tbSlots =>
    obtain ⟨rfl, rest⟩ := List.forall_mem_cons.mp same
    rw [List.length_cons] at whole
    rw [sameStars_cons, sameStars_same 1 rest]
    exact if_neg (by dsimp only; omega)

theorem getEquipStars_mixed (mixed : ∀ nStar, ¬ CommonStar tbEquips nSuit nStar) : getEquipStars tbEquips nSuit = 0 := by
  unfold getEquipStars
  cases worn : tbEquips nSuit with
  | none => rfl
  | some tbSlots =>
    rw [Option.getD_some]
    cases tbSlots with
    | nil => rfl
    | cons stars tbSlots =>
      rw [sameStars_cons]
      by_cases same : ∀ other ∈ tbSlots, other = stars
      · rw [sameStars_same 1 same]
        apply if_pos
        by_contra whole
        refine mixed stars ⟨_, worn, ?_, List.forall_mem_cons.mpr ⟨rfl, same⟩⟩
        rw [List.length_cons]
        dsimp only at whole
        omega
      · dsimp only
        rw [sameStars_mixed 1 same]
        exact ite_self _

/-! ### Attributes -/

inductive SuitAttrType where
  | effectAdd
  | castSub
  | attackAdd
  | defendAdd
  | targetAdd

/-- The columns of `script/cfg/character/suitAu` that are read here. -/
structure SuitAu where
  userTeyp : SuitAttrType
  userNo : Int
  target : List Nat

structure SuitAttribute where
  attrs : List Nat
  attackAdd : Int := 0
  defendAdd : Int := 0
  skillCostSub : Nat → Option Int := fun _ => none

def init (nAttr1 nAttr2 nAttr3 nAttr4 nAttr5 : Option Nat) : SuitAttribute where
  attrs := [nAttr1.getD 0, nAttr2.getD 0, nAttr3.getD 0, nAttr4.getD 0, nAttr5.getD 0]

variable (l_tbSuitAttribute : Nat → Option SuitAu)

/-- A round of the loop, for an attribute that is open. -/
def useAttribute (suit : SuitAttribute) (nID : Nat) : SuitAttribute :=
  match l_tbSuitAttribute nID with
  | none => suit
  | some tbData =>
    match tbData.userTeyp with
    | .effectAdd => suit
    | .castSub =>
      { suit with
        skillCostSub := tbData.target.foldl (fun sub nSkillID => Function.update sub nSkillID (some tbData.userNo)) suit.skillCostSub }
    | .attackAdd => { suit with attackAdd := suit.attackAdd + tbData.userNo }
    | .defendAdd => { suit with defendAdd := suit.defendAdd + tbData.userNo }
    | .targetAdd => suit

def calculateAttribute (nStar : Nat) (suit : SuitAttribute) : SuitAttribute :=
  if nStar ≤ 0 then suit
  else
    (suit.attrs.zipIdx 1).foldl
      (fun suit attr => if attr.2 ≥ nStar then useAttribute l_tbSuitAttribute suit attr.1 else suit) suit

/-- A hero of the player's, with the number of the suit that its place wears. -/
structure Wearer where
  nSuit : Nat
  objSuitAttribute : SuitAttribute

def calcSuitAttribute (tbHeros : List Wearer) (tbEquips : Equips) : List Wearer :=
  tbHeros.map fun hero => { hero with
    objSuitAttribute := calculateAttribute l_tbSuitAttribute (getEquipStars tbEquips hero.nSuit) hero.objSuitAttribute }

/-- The equips after each change, with the attributes computed every time. -/
def computed (tbHeros : List Wearer) (changes : List Equips) : List Wearer :=
  changes.foldl (calcSuitAttribute l_tbSuitAttribute) tbHeros

/-! ### The laws -/

/-- Attack, defence and the costs of skills. -/
def SuitAttribute.bonus (suit : SuitAttribute) : Int × Int × (Nat → Option Int) :=
  (suit.attackAdd, suit.defendAdd, suit.skillCostSub)

def noBonus : Int × Int × (Nat → Option Int) := (0, 0, fun _ => none)

/-- After every history the bonus is that of the stars now worn, and a suit that is not whole or not of one star gives
none. -/
def ByStarAlone (suit : SuitAttribute) : Prop :=
  ∃ bonus : Nat → Int × Int × (Nat → Option Int),
    ∀ (tbHeros : List Wearer) (i nSuit : Nat) (history : List Equips) (tbEquips : Equips), tbHeros[i]? = some ⟨nSuit, suit⟩ →
      ∃ hero, (computed l_tbSuitAttribute tbHeros (history ++ [tbEquips]))[i]? = some hero ∧
        (∀ nStar, CommonStar tbEquips nSuit nStar → hero.objSuitAttribute.bonus = bonus nStar) ∧
        ((∀ nStar, ¬ CommonStar tbEquips nSuit nStar) → hero.objSuitAttribute.bonus = noBonus)

/-- The attributes that a common star activates, with their places. -/
def activated (suit : SuitAttribute) (nStar : Nat) : List (Nat × Nat) :=
  (suit.attrs.zipIdx 1).filter fun attr => 0 < nStar ∧ attr.2 ≥ nStar ∧ (l_tbSuitAttribute attr.1).isSome

def Superset (suit : SuitAttribute) : Prop :=
  ∀ lower higher, 0 < lower → lower ≤ higher →
    ∀ attr ∈ activated l_tbSuitAttribute suit lower, attr ∈ activated l_tbSuitAttribute suit higher

/-- A row that changes a bonus when it is used. -/
def SuitAu.Gives (row : SuitAu) : Prop :=
  match row.userTeyp with
  | .castSub => row.target ≠ []
  | .attackAdd | .defendAdd => row.userNo ≠ 0
  | .effectAdd | .targetAdd => False

def Inert (nID : Nat) : Prop := ∀ row, l_tbSuitAttribute nID = some row → ¬ row.Gives

variable {l_tbSuitAttribute} {suit : SuitAttribute}

/-! ### One attribute -/

theorem useAttribute_inert {nID : Nat} (inert : Inert l_tbSuitAttribute nID) (suit : SuitAttribute) :
    useAttribute l_tbSuitAttribute suit nID = suit := by
  unfold useAttribute
  cases found : l_tbSuitAttribute nID with
  | none => rfl
  | some row =>
    have nothing := inert row found
    obtain ⟨kind, userNo, target⟩ := row
    cases kind with
    | effectAdd | targetAdd => rfl
    | castSub =>
      obtain rfl : target = [] := not_not.mp nothing
      rfl
    | attackAdd =>
      obtain rfl : userNo = 0 := not_not.mp nothing
      simp
    | defendAdd =>
      obtain rfl : userNo = 0 := not_not.mp nothing
      simp

/-- Every skill of the list has the reduction. -/
theorem foldl_update_mem {target : List Nat} {nSkillID : Nat} (sub : Nat → Option Int) (userNo : Int) (member : nSkillID ∈ target) :
    target.foldl (fun sub nSkillID => Function.update sub nSkillID (some userNo)) sub nSkillID = some userNo := by
  induction target using List.reverseRecOn with
  | nil => exact absurd member List.not_mem_nil
  | append_singleton target last ih =>
    rw [List.foldl_append, List.foldl_cons, List.foldl_nil]
    by_cases same : nSkillID = last
    · rw [same, Function.update_self]
    · rw [Function.update_of_ne same]
      exact ih ((List.mem_append.mp member).resolve_right fun final => same (List.mem_singleton.mp final))

/-- What is used for the first time shows. -/
theorem useAttribute_gives {nID : Nat} (fresh : suit.bonus = noBonus)
    (still : (useAttribute l_tbSuitAttribute suit nID).bonus = noBonus) : Inert l_tbSuitAttribute nID := by
  intro row found gives
  unfold useAttribute at still
  rw [found] at still
  obtain ⟨noAttack, noDefend, -⟩ : suit.attackAdd = 0 ∧ suit.defendAdd = 0 ∧ suit.skillCostSub = fun _ => none := by
    simpa [SuitAttribute.bonus, noBonus] using fresh
  obtain ⟨kind, userNo, target⟩ := row
  cases kind with
  | effectAdd | targetAdd => exact gives
  | castSub =>
    obtain ⟨nSkillID, member⟩ := List.exists_mem_of_ne_nil target gives
    have reduced := congrFun (congrArg (fun bonus => bonus.2.2) still) nSkillID
    simp only [SuitAttribute.bonus, noBonus, foldl_update_mem _ _ member, reduceCtorEq] at reduced
  | attackAdd =>
    have added : suit.attackAdd + userNo = 0 := congrArg (fun bonus => bonus.1) still
    have nothing : userNo = 0 := by omega
    exact gives nothing
  | defendAdd =>
    have added : suit.defendAdd + userNo = 0 := congrArg (fun bonus => bonus.2.1) still
    have nothing : userNo = 0 := by omega
    exact gives nothing

/-! ### All five -/

theorem foldl_inert {nIDs : List Nat} (inert : ∀ nID ∈ nIDs, Inert l_tbSuitAttribute nID) (suit : SuitAttribute) :
    nIDs.foldl (useAttribute l_tbSuitAttribute) suit = suit := by
  induction nIDs with
  | nil => rfl
  | cons nID nIDs ih =>
    obtain ⟨first, rest⟩ := List.forall_mem_cons.mp inert
    rw [List.foldl_cons, useAttribute_inert first, ih rest]

/-- When the attributes from each place on give nothing, none gives anything: the last first. -/
theorem inert_of_foldl (fresh : suit.bonus = noBonus) {nIDs : List Nat}
    (nothing : ∀ n, ((nIDs.drop n).foldl (useAttribute l_tbSuitAttribute) suit).bonus = noBonus) :
    ∀ nID ∈ nIDs, Inert l_tbSuitAttribute nID := by
  induction nIDs with
  | nil => exact List.forall_mem_nil _
  | cons nID nIDs ih =>
    have rest := ih fun n => nothing (n + 1)
    refine List.forall_mem_cons.mpr ⟨?_, rest⟩
    have all := nothing 0
    rw [List.drop_zero, List.foldl_cons, foldl_inert rest] at all
    exact useAttribute_gives fresh all

theorem foldl_zipIdx (nIDs : List Nat) (first nStar : Nat) (suit : SuitAttribute) :
    (nIDs.zipIdx first).foldl (fun suit attr => if attr.2 ≥ nStar then useAttribute l_tbSuitAttribute suit attr.1 else suit) suit =
      (nIDs.drop (nStar - first)).foldl (useAttribute l_tbSuitAttribute) suit := by
  induction nIDs generalizing first suit with
  | nil => simp
  | cons nID nIDs ih =>
    rw [List.zipIdx_cons, List.foldl_cons, ih]
    by_cases here : first ≥ nStar
    · have none_ : nStar - first = 0 := by omega
      have none_' : nStar - (first + 1) = 0 := by omega
      rw [if_pos here, none_, none_']
      rfl
    · have some_ : nStar - first = nStar - (first + 1) + 1 := by omega
      rw [if_neg here, some_, List.drop_succ_cons]

/-- A star opens the attributes from its place on. -/
theorem calculateAttribute_eq (positive : 0 < nStar) (suit : SuitAttribute) :
    calculateAttribute l_tbSuitAttribute nStar suit =
      (suit.attrs.drop (nStar - 1)).foldl (useAttribute l_tbSuitAttribute) suit := by
  unfold calculateAttribute
  rw [if_neg (by omega), foldl_zipIdx]

/-- What is not activated is not used. -/
theorem calculateAttribute_activated (nStar : Nat) (suit : SuitAttribute) :
    calculateAttribute l_tbSuitAttribute nStar suit =
      ((activated l_tbSuitAttribute suit nStar).map Prod.fst).foldl (useAttribute l_tbSuitAttribute) suit := by
  unfold calculateAttribute
  by_cases none_ : nStar ≤ 0
  · have never : ¬ 0 < nStar := by omega
    have nothing : activated l_tbSuitAttribute suit nStar = [] := by simp [activated, never]
    rw [if_pos none_, nothing]
    rfl
  · have some_ : 0 < nStar := by omega
    unfold activated
    rw [if_neg none_, List.foldl_map, List.foldl_filter]
    congr 1
    funext suit attr
    cases found : l_tbSuitAttribute attr.1 with
    | none => simp [useAttribute, found]
    | some row => simp [some_]

theorem calculateAttribute_inert (inert : ∀ nID ∈ suit.attrs, Inert l_tbSuitAttribute nID) (nStar : Nat) :
    calculateAttribute l_tbSuitAttribute nStar suit = suit := by
  rw [calculateAttribute_activated]
  apply foldl_inert
  intro nID member
  obtain ⟨attr, active, rfl⟩ := List.mem_map.mp member
  exact inert attr.1 (List.fst_mem_of_mem_zipIdx (List.mem_filter.mp active).1)

/-! ### Histories -/

/-- Each hero has its own. -/
theorem computed_getElem? (tbHeros : List Wearer) (changes : List Equips) (i : Nat) :
    (computed l_tbSuitAttribute tbHeros changes)[i]? = tbHeros[i]?.map fun hero => { hero with
      objSuitAttribute := changes.foldl
        (fun suit tbEquips => calculateAttribute l_tbSuitAttribute (getEquipStars tbEquips hero.nSuit) suit) hero.objSuitAttribute } := by
  unfold computed
  induction changes generalizing tbHeros with
  | nil => simp
  | cons tbEquips changes ih =>
    rw [List.foldl_cons, ih, calcSuitAttribute, List.getElem?_map, Option.map_map]
    rfl

theorem computed_inert (inert : ∀ nID ∈ suit.attrs, Inert l_tbSuitAttribute nID) (tbHeros : List Wearer) (changes : List Equips)
    {i nSuit : Nat} (mine : tbHeros[i]? = some ⟨nSuit, suit⟩) :
    (computed l_tbSuitAttribute tbHeros changes)[i]? = some ⟨nSuit, suit⟩ := by
  have still : changes.foldl
      (fun suit tbEquips => calculateAttribute l_tbSuitAttribute (getEquipStars tbEquips nSuit) suit) suit = suit := by
    induction changes with
    | nil => rfl
    | cons tbEquips changes ih => rw [List.foldl_cons, calculateAttribute_inert inert, ih]
  rw [computed_getElem?, mine, Option.map_some, still]

/-- Six equips of so many stars. -/
def wholeSuit (nStar : Nat) : Equips := fun _ => some (List.replicate equipMax nStar)

theorem wholeSuit_common (nSuit nStar : Nat) : CommonStar (wholeSuit nStar) nSuit nStar :=
  ⟨_, rfl, Nat.le_of_eq List.length_replicate.symm, fun _ member => List.eq_of_mem_replicate member⟩

theorem noSuit_mixed (nSuit nStar : Nat) : ¬ CommonStar (fun _ => none) nSuit nStar := by
  rintro ⟨tbSlots, worn, -, -⟩
  exact Option.some_ne_none tbSlots worn.symm

/-- A bonus once had is never lost, so the stars alone decide only where there is none to have. -/
theorem byStarAlone_iff (fresh : suit.bonus = noBonus) :
    ByStarAlone l_tbSuitAttribute suit ↔ ∀ nID ∈ suit.attrs, Inert l_tbSuitAttribute nID := by
  constructor
  · rintro ⟨bonus, lawful⟩
    apply inert_of_foldl fresh
    intro n
    -- the whole suit, and then nothing
    obtain ⟨hero, there, -, none_⟩ := lawful [⟨0, suit⟩] 0 0 [wholeSuit (n + 1)] (fun _ => none) rfl
    rw [computed_getElem?] at there
    obtain rfl := Option.some.inj there
    have after := none_ (noSuit_mixed 0)
    dsimp only [List.foldl_append, List.foldl_cons, List.foldl_nil, List.cons_append, List.nil_append] at after
    rw [getEquipStars_common (wholeSuit_common 0 (n + 1)), getEquipStars_mixed (noSuit_mixed 0),
      calculateAttribute_eq (Nat.succ_pos n)] at after
    exact after
  · intro inert
    refine ⟨fun _ => noBonus, fun tbHeros i nSuit history tbEquips mine => ?_⟩
    exact ⟨⟨nSuit, suit⟩, computed_inert inert tbHeros _ mine, fun _ _ => fresh, fun _ => fresh⟩

/-- An attribute is closed again by the star after its place. -/
theorem superset_iff : Superset l_tbSuitAttribute suit ↔ ∀ nID ∈ suit.attrs, l_tbSuitAttribute nID = none := by
  constructor
  · intro superset nID member
    by_contra some_
    obtain ⟨n, within, rfl⟩ := List.getElem_of_mem member
    have place : (suit.attrs[n], n + 1) ∈ suit.attrs.zipIdx 1 := by
      rw [List.mk_mem_zipIdx_iff_le_and_getElem?_sub]
      exact ⟨Nat.le_add_left 1 n, List.getElem?_eq_getElem within⟩
    have lower : (suit.attrs[n], n + 1) ∈ activated l_tbSuitAttribute suit (n + 1) := by
      simp [activated, place, Option.isSome_iff_ne_none, some_]
    have higher := superset (n + 1) (n + 2) (Nat.succ_pos n) (Nat.le_succ _) _ lower
    simp [activated] at higher
  · intro none_ lower higher _ _ attr member
    have found := (List.mem_filter.mp member).2
    have listed := List.fst_mem_of_mem_zipIdx (List.mem_filter.mp member).1
    simp [none_ _ listed] at found

/-- The laws hold of a hero without attributes only. -/
theorem suit_lawful_iff (l_tbSuitAttribute : Nat → Option SuitAu) (nAttr1 nAttr2 nAttr3 nAttr4 nAttr5 : Option Nat) :
    ByStarAlone l_tbSuitAttribute (init nAttr1 nAttr2 nAttr3 nAttr4 nAttr5) ∧
        Superset l_tbSuitAttribute (init nAttr1 nAttr2 nAttr3 nAttr4 nAttr5) ↔
      ∀ nAttr ∈ [nAttr1, nAttr2, nAttr3, nAttr4, nAttr5], l_tbSuitAttribute (nAttr.getD 0) = none := by
  have attrs (p : Nat → Prop) : (∀ nID ∈ (init nAttr1 nAttr2 nAttr3 nAttr4 nAttr5).attrs, p nID) ↔
      ∀ nAttr ∈ [nAttr1, nAttr2, nAttr3, nAttr4, nAttr5], p (nAttr.getD 0) := by
    simp only [init, List.forall_mem_cons, List.not_mem_nil, false_implies, implies_true, and_true]
  rw [byStarAlone_iff rfl, superset_iff, attrs, attrs]
  constructor
  · exact And.right
  · intro none_
    refine ⟨fun nAttr member row found => ?_, none_⟩
    rw [none_ nAttr member] at found
    exact absurd found (Option.some_ne_none row).symm

/-- The row of the first hero that raises attack. -/
def attackRow : Nat → Option SuitAu := fun nID => if nID = 3 then some ⟨.attackAdd, 30, []⟩ else none

/-- Computed twice over one suit, 30 in the hundred are 60. -/
theorem attackRow_twice :
    ¬ (ByStarAlone attackRow (init (some 3) none none none none) ∧ Superset attackRow (init (some 3) none none none none)) := by
  rintro ⟨⟨bonus, lawful⟩, -⟩
  obtain ⟨hero, there, once, -⟩ := lawful [⟨0, init (some 3) none none none none⟩] 0 0 [] (wholeSuit 1) rfl
  obtain ⟨hero', there', twice, -⟩ := lawful [⟨0, init (some 3) none none none none⟩] 0 0 [wholeSuit 1] (wholeSuit 1) rfl
  obtain rfl := Option.some.inj there
  obtain rfl := Option.some.inj there'
  have same := (once 1 (wholeSuit_common 0 1)).trans (twice 1 (wholeSuit_common 0 1)).symm
  have attack : (30 : Int) = 60 := congrArg Prod.fst same
  exact absurd attack (by decide)

end Tinygame.Hero.Suit
