import Tinygame.Pvp.SngMatch
import Mathlib.Data.List.NodupEquivFin
import Mathlib.Data.Fintype.Basic
import Mathlib.Tactic.FinCases

/-!
# The three lists

Where the opponents of an SNG session come from. The windows of a row follow one another, so that no range is searched twice, and
a list is right if the player is not listed twice in a range of its window. But when all windows are too narrow to hold an id,
there is nothing to search, and the request fails instead of giving robots.
-/

namespace Tinygame.SngMatch
open Sng (Fighter newFighter)

/-! ### Drawing from several arrays -/

section
variable {α β : Type} {arrays : List (List α)} {n : Nat} {draw : List Nat}

theorem pick_sums (arrays : List (List α)) (b t : Nat) : pick (sums b arrays) (b + t) = arrays.flatten[t]? := by
  induction arrays generalizing b t with
  | nil => rfl
  | cons array rest ih =>
    unfold sums pick
    rw [List.flatten_cons, List.find?_cons]
    by_cases here : t < array.length
    · rw [List.getElem?_append_left here]
      simp [here]
    · have later := ih (b + array.length) (t - array.length)
      unfold pick at later
      rw [show b + array.length + (t - array.length) = b + t by omega] at later
      rw [List.getElem?_append_right (by omega), ← later]
      simp [here]

theorem sums_length (arrays : List (List α)) (b : Nat) : (sums b arrays).length = arrays.length := by
  induction arrays generalizing b with
  | nil => rfl
  | cons array rest ih => exact congrArg (· + 1) (ih _)

/-- Whatever can be drawn, the elements are those at the numbers drawn, or all. -/
theorem randomArraySets_eq (unique : Unique arrays.flatten.length n draw) :
    randomArraySets arrays n draw = if n ≤ arrays.flatten.length then draw.filterMap (arrays.flatten[·]?) else arrays.flatten := by
  have total : (arrays.map List.length).sum = arrays.flatten.length := List.length_flatten.symm
  have picks : pick (sums 0 arrays) = (arrays.flatten[·]?) := by
    funext t
    have here := pick_sums arrays 0 t
    rwa [Nat.zero_add] at here
  unfold randomArraySets randomIntN
  dsimp only
  rw [total, picks, sums_length]
  by_cases enough : n ≤ arrays.flatten.length
  · rw [if_pos enough]
    obtain ⟨-, length, -⟩ := unique enough
    by_cases none_ : arrays.flatten.length = 0
    · have nothing : draw = [] := List.length_eq_zero_iff.mp (by omega)
      rw [if_pos none_, nothing, List.length_eq_zero_iff.mp none_]
      split <;> rfl
    · have some_ : arrays.length ≠ 0 := by
        intro empty
        rw [List.length_eq_zero_iff.mp empty] at none_
        exact none_ rfl
      rw [if_pos ⟨some_, enough⟩, if_neg none_]
  · rw [if_neg enough, if_neg fun both => enough both.2]

theorem randomArraySets_map (f : α → β) (unique : Unique arrays.flatten.length n draw) :
    randomArraySets (arrays.map (List.map f)) n draw = (randomArraySets arrays n draw).map f := by
  have flat : (arrays.map (List.map f)).flatten = arrays.flatten.map f := List.map_flatten.symm
  have length : (arrays.map (List.map f)).flatten.length = arrays.flatten.length := by rw [flat, List.length_map]
  rw [randomArraySets_eq unique, randomArraySets_eq (length.symm ▸ unique), length, flat]
  split
  · rw [List.map_filterMap]
    exact congrArg (fun g => List.filterMap g draw) (funext fun t => List.getElem?_map ..)
  · rfl

theorem randomArraySets_length (unique : Unique arrays.flatten.length n draw) :
    (randomArraySets arrays n draw).length = min n arrays.flatten.length := by
  rw [randomArraySets_eq unique]
  split
  · rename_i enough
    obtain ⟨-, length, inRange⟩ := unique enough
    have all : (draw.filterMap (arrays.flatten[·]?)).length = draw.length := by
      rw [List.filterMap_length_eq_length]
      intro t there
      rw [List.getElem?_eq_getElem (inRange t there)]
      rfl
    omega
  · omega

theorem randomArraySets_mem {a : α} (unique : Unique arrays.flatten.length n draw) (there : a ∈ randomArraySets arrays n draw) :
    a ∈ arrays.flatten := by
  rw [randomArraySets_eq unique] at there
  split at there
  · obtain ⟨t, -, found⟩ := List.mem_filterMap.mp there
    exact List.mem_of_getElem? found
  · exact there

theorem randomArraySets_nodup (unique : Unique arrays.flatten.length n draw) (nodup : arrays.flatten.Nodup) :
    (randomArraySets arrays n draw).Nodup := by
  rw [randomArraySets_eq unique]
  split
  · rename_i enough
    refine List.Nodup.filterMap (fun t t' a found found' => ?_) (unique enough).1
    exact (List.getElem?_inj (List.getElem?_eq_some_iff.mp found).1 nodup).mp (found.trans found'.symm)
  · exact nodup

/-- Any element can be drawn, if one is drawn at all. -/
theorem exists_draw {a : α} (some_ : 0 < n) (there : a ∈ arrays.flatten) :
    ∃ draw, Unique arrays.flatten.length n draw ∧ a ∈ randomArraySets arrays n draw := by
  obtain ⟨t, lt, found⟩ := List.mem_iff_getElem.mp there
  have inRange : t ∈ List.range arrays.flatten.length := List.mem_range.mpr lt
  have unique : Unique arrays.flatten.length n (t :: ((List.range arrays.flatten.length).erase t).take (n - 1)) := by
    intro enough
    refine ⟨List.nodup_cons.mpr ⟨fun again => ?_, ?_⟩, ?_, fun t' member => ?_⟩
    · exact (List.Nodup.not_mem_erase List.nodup_range) (List.mem_of_mem_take again)
    · exact (List.nodup_range.erase t).sublist (List.take_sublist ..)
    · rw [List.length_cons, List.length_take, List.length_erase_of_mem inRange, List.length_range]
      omega
    · rcases List.mem_cons.mp member with rfl | later
      · exact lt
      · exact List.mem_range.mp (List.mem_of_mem_erase (List.mem_of_mem_take later))
  refine ⟨_, unique, ?_⟩
  rw [randomArraySets_eq unique]
  split
  · exact List.mem_filterMap.mpr ⟨t, List.mem_cons_self .., by rw [List.getElem?_eq_getElem lt, found]⟩
  · exact there

theorem unique_range (num n : Nat) : Unique num n (List.range n) :=
  fun enough => ⟨List.nodup_range, List.length_range, fun t there => by have := List.mem_range.mp there; omega⟩

end

/-! ### The windows -/

/-- The ids of a window, given by two rates. -/
def InWindow (power : Int) (bounds : Int × Int) (id : Int) : Prop :=
  getPowerId (percent power bounds.1) ≤ id ∧ id < getPowerId (percent power bounds.2)

theorem mem_getPowerIds {power floor ceil id : Int} : id ∈ getPowerIds power floor ceil ↔ InWindow power (floor, ceil) id := by
  unfold getPowerIds InWindow
  rw [List.mem_map]
  constructor
  · rintro ⟨k, there, rfl⟩
    have lt := List.mem_range.mp there
    dsimp only
    omega
  · rintro ⟨low, high⟩
    dsimp only at low high
    refine ⟨(id - getPowerId (percent power floor)).toNat, List.mem_range.mpr ?_, ?_⟩ <;> omega

theorem getPowerIds_nodup (power floor ceil : Int) : (getPowerIds power floor ceil).Nodup := by
  unfold getPowerIds
  refine List.Nodup.map (fun k k' same => ?_) List.nodup_range
  omega

theorem percent_mono {power rate rate' : Int} (positive : 0 ≤ power) (le : rate ≤ rate') :
    getPowerId (percent power rate) ≤ getPowerId (percent power rate') := by
  unfold getPowerId percent
  apply Int.tdiv_le_tdiv (by decide)
  apply Int.tdiv_le_tdiv (by decide)
  exact Int.mul_le_mul_of_nonneg_left (by omega) positive

/-- No id lies in two windows of a row. -/
theorem PowerMatchRow.apart (row : PowerMatchRow) {power id : Int} (positive : 0 ≤ power) {i j : Fin 3}
    (here : InWindow power (row.power i) id) (there : InWindow power (row.power j) id) : i = j := by
  have first := percent_mono positive row.ordered.1
  have middle := percent_mono positive row.ordered.2.1
  have last := percent_mono positive row.ordered.2.2
  obtain ⟨low, high⟩ := here
  obtain ⟨low', high'⟩ := there
  fin_cases i <;> fin_cases j <;> first | rfl | (simp only [Fin.zero_eta, Fin.mk_one, Fin.reduceFinMk] at low high low' high'; omega)

/-! ### The row of a power -/

variable {tables : Tables} {power : Int} {draws : String → Nat}

/-- The last row the power lies in. -/
def rowOf (tables : Tables) (power : Int) : Option (Σ _ : String, PowerMatchRow) :=
  (tables.PowerMatch.entries.filter fun entry => entry.2.myPower.1 ≤ power ∧ power ≤ entry.2.myPower.2).getLast?

/-- The sequence that is drawn for a row. -/
def seqOf (tables : Tables) (draws : String → Nat) (entry : Σ _ : String, PowerMatchRow) : Fin 3 → Nat :=
  (getSequence tables entry.2.sequenceID (draws entry.1)).getD 0

def pvpSngOf (tables : Tables) (power : Int) (draws : String → Nat) (entry : Σ _ : String, PowerMatchRow) : PvpSng :=
  ⟨power, entry.1, seqOf tables draws entry, fun j => getPowerIds power (entry.2.power j).1 (entry.2.power j).2, entry.2.reward⟩

theorem getSequence_some {entry : Σ _ : String, PowerMatchRow} (there : entry ∈ tables.PowerMatch.entries) :
    getSequence tables entry.2.sequenceID (draws entry.1) = some (seqOf tables draws entry) := by
  have found : ∃ seq, getSequence tables entry.2.sequenceID (draws entry.1) = some seq := by
    obtain ⟨seq, member, same⟩ := tables.sequenced entry there
    unfold getSequence
    dsimp only
    generalize listed : (tables.sequence.entries.filter fun seq => seq.2.teams = entry.2.sequenceID).map (fun seq => seq.2.pep) = index
    have some_ : seq.2.pep ∈ index := by
      rw [← listed]
      exact List.mem_map.mpr ⟨seq, List.mem_filter.mpr ⟨member, by simpa using same⟩, rfl⟩
    have lt : draws entry.1 % index.length < index.length := Nat.mod_lt _ (List.length_pos_of_mem some_)
    exact ⟨_, List.getElem?_eq_getElem lt⟩
  obtain ⟨seq, found⟩ := found
  unfold seqOf
  rw [found]
  rfl

theorem getSumPowerIds_eq (tables : Tables) (power : Int) (draws : String → Nat) :
    getSumPowerIds tables power draws = some ((rowOf tables power).map (pvpSngOf tables power draws)) := by
  have loop : ∀ entries : List (Σ _ : String, PowerMatchRow), (∀ entry ∈ entries, entry ∈ tables.PowerMatch.entries) → ∀ pvpSng,
      entries.foldlM (fun pvpSng entry =>
        if entry.2.myPower.1 ≤ power ∧ power ≤ entry.2.myPower.2 then
          (getSequence tables entry.2.sequenceID (draws entry.1)).map fun seq => some
            (⟨power, entry.1, seq, fun j => getPowerIds power (entry.2.power j).1 (entry.2.power j).2, entry.2.reward⟩ : PvpSng)
        else some pvpSng) pvpSng =
      some ((((entries.filter fun entry => entry.2.myPower.1 ≤ power ∧ power ≤ entry.2.myPower.2).getLast?).map
        (pvpSngOf tables power draws)).or pvpSng) := by
    intro entries
    induction entries with
    | nil => exact fun _ pvpSng => rfl
    | cons entry rest ih =>
      intro listed pvpSng
      have later := ih fun entry there => listed entry (List.mem_cons_of_mem _ there)
      rw [List.foldlM_cons]
      by_cases fits : entry.2.myPower.1 ≤ power ∧ power ≤ entry.2.myPower.2
      · rw [if_pos fits, getSequence_some (listed entry (List.mem_cons_self ..)), List.filter_cons_of_pos (by simpa using fits),
          List.getLast?_cons]
        refine (later (some (pvpSngOf tables power draws entry))).trans ?_
        cases List.getLast? _ <;> rfl
      · rw [if_neg fits, List.filter_cons_of_neg (by simpa using fits)]
        exact later pvpSng
  have whole := loop tables.PowerMatch.entries (fun _ there => there) none
  rwa [Option.or_none] at whole

theorem rowOf_some {entry : Σ _ : String, PowerMatchRow} (found : rowOf tables power = some entry) :
    entry ∈ tables.PowerMatch.entries ∧ entry.2.myPower.1 ≤ power ∧ power ≤ entry.2.myPower.2 := by
  have there := List.mem_filter.mp (List.mem_of_getLast? found)
  exact ⟨there.1, by simpa using there.2⟩

/-! ### Where the opponents come from -/

section
variable (hash : PowerHash) (ua : UserArea)

/-- The players of a range, without the one who asks. -/
def others (id : Int) : List UserArea := (hash.field id).elim [] fun pvpPower => aRemove ua pvpPower.keys

/-- The players of a range, each with its place. -/
def placed (id : Int) : List (Int × Nat × UserArea) := (others hash ua id).zipIdx.map fun entry => (id, entry.2, entry.1)

/-- The arrays the players of a window are drawn from, each with its place. -/
def spots (ids searched : List Int) : List (List (Int × Nat × UserArea)) :=
  searched.filterMap fun id => (hash.field id).bind fun pvpPower =>
    if pvpPower.keys.length > 0 ∧ id ∈ ids then some (placed hash ua id) else none

/-- How many players there are in a window. -/
def available (ids : List Int) : Nat := (ids.map fun id => (others hash ua id).length).sum

/-- A list is right: as many as asked for, of the players drawn and then robots, the players from different places in ranges of the
window and none of them the one who asks, and robots only in the place of players there are not. -/
structure ListRight (power : Int) (bounds : Int × Int) (n : Nat) (chosen : List (Int × Nat × UserArea)) (list : List Opponent) : Prop where
  length : list.length = n
  filled : ∃ rest, list = chosen.map (fun entry => .player entry.2.2) ++ rest ∧
    (∀ opponent ∈ rest, ∃ area uuid strength, opponent = .robot area uuid strength) ∧
    rest.length = n - available hash ua (getPowerIds power bounds.1 bounds.2)
  place : ∀ entry ∈ chosen, InWindow power bounds entry.1 ∧ (others hash ua entry.1)[entry.2.1]? = some entry.2.2
  notSelf : ∀ entry ∈ chosen, entry.2.2 ≠ ua
  once : (chosen.map fun entry => (entry.1, entry.2.1)).Nodup

/-- What is drawn for a window, with its places. -/
def chosen (pvpSng : PvpSng) (draw : Fin 3 → List Nat) (j : Fin 3) : List (Int × Nat × UserArea) :=
  randomArraySets (spots hash ua (pvpSng.ids j) (getSearchPowerIdArray pvpSng)) (pvpSng.seq j) (draw j)

/-- The draw is one that can come. -/
def Drawable (pvpSng : PvpSng) (draw : Fin 3 → List Nat) : Prop :=
  ∀ j, Unique (candidates ua (pvpSng.ids j) ((getSearchPowerIdArray pvpSng).map hash.field)).flatten.length (pvpSng.seq j) (draw j)

/-- Whatever is drawn, the request gives the fighters of three lists that are right. -/
def SngRight {ε : Type} (tables : Tables) (playerInfo : Opponent → ε) (power : Int) (draws : String → Nat) : Prop :=
  ∃ entry, rowOf tables power = some entry ∧ ∀ draw, Drawable hash ua (pvpSngOf tables power draws entry) draw →
    getPvpSng tables playerInfo hash ua power draws draw = some ⟨entry.1, fun j =>
      (opponents ua (pvpSngOf tables power draws entry)
        ((getSearchPowerIdArray (pvpSngOf tables power draws entry)).map hash.field) draw j).map
        fun opponent => newFighter (playerInfo opponent) (entry.2.reward j)⟩ ∧
    ∀ j, ListRight hash ua power (entry.2.power j) (seqOf tables draws entry j)
      (chosen hash ua (pvpSngOf tables power draws entry) draw j)
      (opponents ua (pvpSngOf tables power draws entry) ((getSearchPowerIdArray (pvpSngOf tables power draws entry)).map hash.field) draw j)

/-- Some window of the row holds an id, and in the windows that opponents come from no range lists the player twice. -/
def Searchable (tables : Tables) (power : Int) (draws : String → Nat) : Prop :=
  ∀ entry, rowOf tables power = some entry → (∃ j id, InWindow power (entry.2.power j) id) ∧
    ∀ j, 0 < seqOf tables draws entry j → ∀ id, InWindow power (entry.2.power j) id → ∀ pvpPower, hash.field id = some pvpPower →
      pvpPower.keys.count ua ≤ 1

end

variable {hash : PowerHash} {ua : UserArea} {entry : Σ _ : String, PowerMatchRow} {ids searched : List Int} {j : Fin 3}

theorem spots_players (ids searched : List Int) :
    candidates ua ids (searched.map hash.field) = (spots hash ua ids searched).map (List.map fun spot => spot.2.2) := by
  unfold candidates spots
  rw [List.filterMap_map, List.map_filterMap]
  refine congrArg (fun f => List.filterMap f searched) (funext fun id => ?_)
  unfold placed others
  rw [Function.comp_apply]
  cases found : hash.field id with
  | none => rfl
  | some pvpPower =>
    rw [Option.bind_some, Option.bind_some, hash.named id pvpPower found]
    split
    · rw [Option.map_some, List.map_map]
      exact congrArg some (List.zipIdx_map_fst ..).symm
    · rfl

theorem spots_outside (outside : ∀ id ∈ searched, id ∉ ids) : spots hash ua ids searched = [] := by
  unfold spots
  refine List.filterMap_eq_nil_iff.mpr fun id there => ?_
  cases hash.field id with
  | none => rfl
  | some pvpPower => exact if_neg fun both => outside id there both.2

theorem spots_inside (inside : ∀ id ∈ searched, id ∈ ids) :
    (spots hash ua ids searched).flatten = searched.flatMap (placed hash ua) := by
  induction searched with
  | nil => rfl
  | cons id rest ih =>
    have later := ih fun id there => inside id (List.mem_cons_of_mem _ there)
    have here := inside id (List.mem_cons_self ..)
    unfold spots at later ⊢
    rw [List.flatMap_cons, List.filterMap_cons, ← later]
    cases found : hash.field id with
    | none =>
      unfold placed others
      rw [found]
      rfl
    | some pvpPower =>
      rw [Option.bind_some]
      by_cases some_ : pvpPower.keys.length > 0
      · rw [if_pos ⟨some_, here⟩]
        rfl
      · have empty : placed hash ua id = [] := by
          unfold placed others
          rw [found]
          show (aRemove ua pvpPower.keys).zipIdx.map _ = []
          rw [List.length_eq_zero_iff.mp (Nat.eq_zero_of_not_pos some_)]
          rfl
        rw [if_neg fun both => some_ both.1, empty]
        rfl

theorem spots_append (first second : List Int) :
    spots hash ua ids (first ++ second) = spots hash ua ids first ++ spots hash ua ids second := List.filterMap_append

/-- Of what is searched only the window itself counts. -/
theorem spots_window (positive : 0 ≤ power) (j : Fin 3) :
    (spots hash ua ((pvpSngOf tables power draws entry).ids j) (getSearchPowerIdArray (pvpSngOf tables power draws entry))).flatten =
      ((pvpSngOf tables power draws entry).ids j).flatMap (placed hash ua) := by
  have searched : getSearchPowerIdArray (pvpSngOf tables power draws entry) = (pvpSngOf tables power draws entry).ids 0 ++
      ((pvpSngOf tables power draws entry).ids 1 ++ ((pvpSngOf tables power draws entry).ids 2 ++ [])) := rfl
  have outside : ∀ i, i ≠ j → spots hash ua ((pvpSngOf tables power draws entry).ids j)
    ((pvpSngOf tables power draws entry).ids i) = [] := by
    intro i ne
    apply spots_outside
    intro id there here
    exact ne (entry.2.apart positive (mem_getPowerIds.mp there) (mem_getPowerIds.mp here))
  have inside := @spots_inside hash ua ((pvpSngOf tables power draws entry).ids j)
    ((pvpSngOf tables power draws entry).ids j) fun _ there => there
  rw [searched, List.append_nil, spots_append, spots_append, ← inside]
  match j with
  | 0 => rw [outside 1 (by decide), outside 2 (by decide), List.append_nil, List.append_nil]
  | 1 => rw [outside 0 (by decide), outside 2 (by decide), List.append_nil, List.nil_append]
  | 2 => rw [outside 0 (by decide), outside 1 (by decide), List.nil_append, List.nil_append]

theorem mem_placed {id : Int} {spot : Int × Nat × UserArea} :
    spot ∈ placed hash ua id ↔ spot.1 = id ∧ (others hash ua id)[spot.2.1]? = some spot.2.2 := by
  unfold placed
  rw [List.mem_map]
  constructor
  · rintro ⟨entry, there, rfl⟩
    exact ⟨rfl, (List.mk_mem_zipIdx_iff_getElem?).mp there⟩
  · rintro ⟨rfl, found⟩
    exact ⟨(spot.2.2, spot.2.1), List.mk_mem_zipIdx_iff_getElem?.mpr found, rfl⟩

/-- Each place is there once. -/
theorem places_nodup (nodup : ids.Nodup) : ((ids.flatMap (placed hash ua)).map fun spot => (spot.1, spot.2.1)).Nodup := by
  rw [List.map_flatMap, List.nodup_flatMap]
  constructor
  · intro id there
    unfold placed
    rw [List.map_map]
    have inner : ((others hash ua id).zipIdx.map Prod.snd).Nodup := by
      rw [List.zipIdx_map_snd]
      exact List.nodup_range'
    have paired := inner.map (f := fun k => (id, k)) fun k k' same => (Prod.mk.inj same).2
    rwa [List.map_map] at paired
  · refine nodup.imp_of_mem fun {id id'} _ _ ne => ?_
    intro place here there
    obtain ⟨spot, member, rfl⟩ := List.mem_map.mp here
    obtain ⟨spot', member', same⟩ := List.mem_map.mp there
    apply ne
    rw [← (mem_placed.mp member).1, ← (mem_placed.mp member').1]
    exact (Prod.mk.inj same).1.symm

theorem placed_length (ids : List Int) : (ids.flatMap (placed hash ua)).length = available hash ua ids := by
  unfold available
  rw [List.length_flatMap]
  refine congrArg List.sum (List.map_congr_left fun id _ => ?_)
  unfold placed
  rw [List.length_map, List.length_zipIdx]

/-! ### The lists -/

variable {draw : Fin 3 → List Nat}

theorem Drawable.spots (drawable : Drawable hash ua (pvpSngOf tables power draws entry) draw) (j : Fin 3) :
    Unique (spots hash ua ((pvpSngOf tables power draws entry).ids j)
      (getSearchPowerIdArray (pvpSngOf tables power draws entry))).flatten.length
      ((pvpSngOf tables power draws entry).seq j) (draw j) := by
  have unique := drawable j
  rwa [spots_players, ← List.map_flatten, List.length_map] at unique

theorem opponents_eq (drawable : Drawable hash ua (pvpSngOf tables power draws entry) draw) (j : Fin 3) :
    opponents ua (pvpSngOf tables power draws entry) ((getSearchPowerIdArray (pvpSngOf tables power draws entry)).map hash.field) draw j =
      (chosen hash ua (pvpSngOf tables power draws entry) draw j).map (fun spot => .player spot.2.2) ++
        robots ua.area (10 * (j.val + 1)) (power * (tenths j / 10)) (chosen hash ua (pvpSngOf tables power draws entry) draw j).length
          (seqOf tables draws entry j) := by
  unfold opponents
  dsimp only
  rw [spots_players, randomArraySets_map _ (drawable.spots j), List.map_map, List.length_map]
  rfl

theorem chosen_length (positive : 0 ≤ power) (drawable : Drawable hash ua (pvpSngOf tables power draws entry) draw) (j : Fin 3) :
    (chosen hash ua (pvpSngOf tables power draws entry) draw j).length =
      min (seqOf tables draws entry j) (available hash ua (getPowerIds power (entry.2.power j).1 (entry.2.power j).2)) := by
  unfold chosen
  rw [randomArraySets_length (drawable.spots j), spots_window positive, placed_length]
  rfl

theorem mem_chosen (positive : 0 ≤ power) (drawable : Drawable hash ua (pvpSngOf tables power draws entry) draw) {j : Fin 3}
    {spot : Int × Nat × UserArea} (there : spot ∈ chosen hash ua (pvpSngOf tables power draws entry) draw j) :
    InWindow power (entry.2.power j) spot.1 ∧ (others hash ua spot.1)[spot.2.1]? = some spot.2.2 := by
  have member := randomArraySets_mem (drawable.spots j) there
  rw [spots_window positive] at member
  obtain ⟨id, inWindow, here⟩ := List.mem_flatMap.mp member
  obtain ⟨rfl, found⟩ := mem_placed.mp here
  exact ⟨mem_getPowerIds.mp inWindow, found⟩

/-- A list is right as soon as none of the players drawn is the one who asks. -/
theorem listRight_iff (positive : 0 ≤ power) (drawable : Drawable hash ua (pvpSngOf tables power draws entry) draw) (j : Fin 3) :
    ListRight hash ua power (entry.2.power j) (seqOf tables draws entry j) (chosen hash ua (pvpSngOf tables power draws entry) draw j)
      (opponents ua (pvpSngOf tables power draws entry)
        ((getSearchPowerIdArray (pvpSngOf tables power draws entry)).map hash.field) draw j) ↔
    ∀ spot ∈ chosen hash ua (pvpSngOf tables power draws entry) draw j, spot.2.2 ≠ ua := by
  refine ⟨fun right => right.notSelf, fun notSelf => ?_⟩
  have length := chosen_length positive drawable j
  rw [opponents_eq drawable]
  refine ⟨?_, ⟨_, rfl, fun opponent there => ?_, ?_⟩, fun spot there => mem_chosen positive drawable there, notSelf, ?_⟩
  · unfold robots
    rw [List.length_append, List.length_map, List.length_map, List.length_range]
    omega
  · obtain ⟨k, -, rfl⟩ := List.mem_map.mp there
    exact ⟨_, _, _, rfl⟩
  · unfold robots
    rw [List.length_map, List.length_range]
    omega
  · unfold chosen
    rw [← randomArraySets_map _ (drawable.spots j)]
    have flat : ((spots hash ua ((pvpSngOf tables power draws entry).ids j) (getSearchPowerIdArray (pvpSngOf tables power draws entry))).map
        (List.map fun spot => (spot.1, spot.2.1))).flatten =
        (((pvpSngOf tables power draws entry).ids j).flatMap (placed hash ua)).map fun spot => (spot.1, spot.2.1) := by
      rw [← List.map_flatten, spots_window positive]
    apply randomArraySets_nodup
    · rw [← List.map_flatten, List.length_map]
      exact drawable.spots j
    · rw [flat]
      exact places_nodup (getPowerIds_nodup ..)

theorem mapM_getElem? {α : Type} (list : List α) : (List.range list.length).mapM (list[·]?) = some list := by
  induction list with
  | nil => rfl
  | cons a rest ih =>
    rw [List.length_cons, List.range_succ_eq_map, List.mapM_cons, List.mapM_map]
    show (List.range rest.length).mapM (rest[·]?) >>= _ = _
    rw [ih]
    rfl

theorem getPlayerInfoN_eq {ε : Type} (playerInfo : Opponent → ε) (reward : Int) {uuids : List Opponent} {n : Nat}
    (length : uuids.length = n) :
    getPlayerInfoN playerInfo reward uuids n = some (uuids.map fun opponent => newFighter (playerInfo opponent) reward) := by
  have whole := mapM_getElem? (uuids.map fun opponent => newFighter (playerInfo opponent) reward)
  rw [List.length_map, length] at whole
  unfold getPlayerInfoN
  rw [← whole]
  exact congrArg (fun g => List.mapM g (List.range n)) (funext fun i => (List.getElem?_map ..).symm)

variable {ε : Type} {playerInfo : Opponent → ε}

/-- The request gives its lists if there is anything to search. -/
theorem getPvpSng_eq (positive : 0 ≤ power) (found : rowOf tables power = some entry)
    (drawable : Drawable hash ua (pvpSngOf tables power draws entry) draw) :
    getPvpSng tables playerInfo hash ua power draws draw =
      if getSearchPowerIdArray (pvpSngOf tables power draws entry) = [] then none
      else some ⟨entry.1, fun j =>
        (opponents ua (pvpSngOf tables power draws entry)
          ((getSearchPowerIdArray (pvpSngOf tables power draws entry)).map hash.field) draw j).map
          fun opponent => newFighter (playerInfo opponent) (entry.2.reward j)⟩ := by
  have length : ∀ j, (opponents ua (pvpSngOf tables power draws entry)
      ((getSearchPowerIdArray (pvpSngOf tables power draws entry)).map hash.field) draw j).length = seqOf tables draws entry j := by
    intro j
    have drawn := chosen_length positive drawable j
    rw [opponents_eq drawable]
    unfold robots
    rw [List.length_append, List.length_map, List.length_map, List.length_range]
    omega
  unfold getPvpSng
  rw [getSumPowerIds_eq, found]
  show (hmget hash (getSearchPowerIdArray (pvpSngOf tables power draws entry))).bind _ = _
  unfold hmget
  split
  · rfl
  · unfold getPlayerPvpSng
    show (getPlayerInfoN playerInfo (entry.2.reward 0) _ (seqOf tables draws entry 0)).bind _ = _
    rw [getPlayerInfoN_eq playerInfo _ (length 0)]
    show (getPlayerInfoN playerInfo (entry.2.reward 1) _ (seqOf tables draws entry 1)).bind _ = _
    rw [getPlayerInfoN_eq playerInfo _ (length 1)]
    show (getPlayerInfoN playerInfo (entry.2.reward 2) _ (seqOf tables draws entry 2)).bind _ = _
    rw [getPlayerInfoN_eq playerInfo _ (length 2)]
    refine congrArg (fun lists => some (⟨entry.1, lists⟩ : NewPvpSng ε)) (funext fun j => ?_)
    match j with
    | 0 => rfl
    | 1 => rfl
    | 2 => rfl

/-! ### The whole request -/

theorem searchPowerIds_ne_nil : getSearchPowerIdArray (pvpSngOf tables power draws entry) ≠ [] ↔
    ∃ j id, InWindow power (entry.2.power j) id := by
  unfold getSearchPowerIdArray
  constructor
  · intro some_
    obtain ⟨id, there⟩ := List.exists_mem_of_ne_nil _ some_
    obtain ⟨j, -, inWindow⟩ := List.mem_flatMap.mp there
    exact ⟨j, id, mem_getPowerIds.mp inWindow⟩
  · rintro ⟨j, id, inWindow⟩
    exact List.ne_nil_of_mem (List.mem_flatMap.mpr ⟨j, List.mem_finRange j, mem_getPowerIds.mpr inWindow⟩)

/-- A player listed twice in a range is still there after the removal. -/
theorem mem_others_ua {id : Int} : ua ∈ others hash ua id ↔ ∃ pvpPower, hash.field id = some pvpPower ∧ 1 < pvpPower.keys.count ua := by
  unfold others aRemove
  cases found : hash.field id with
  | none => exact iff_of_false (List.not_mem_nil) fun there => by obtain ⟨_, same, -⟩ := there; cases same
  | some pvpPower =>
    show ua ∈ pvpPower.keys.erase ua ↔ _
    rw [← List.count_pos_iff, List.count_erase_self]
    constructor
    · intro more
      exact ⟨pvpPower, rfl, by omega⟩
    · rintro ⟨_, same, more⟩
      obtain rfl := Option.some.inj same
      omega

/-- The three lists of an SNG session are right, whatever is drawn, exactly when there is something to search and the ranges list the
player once. -/
theorem sngRight_iff (tables : Tables) (playerInfo : Opponent → ε) (hash : PowerHash) (ua : UserArea) (power : Int) (draws : String → Nat)
    (inRow : ∃ row ∈ tables.PowerMatch.entries, row.2.myPower.1 ≤ power ∧ power ≤ row.2.myPower.2) :
    SngRight hash ua tables playerInfo power draws ↔ Searchable hash ua tables power draws := by
  obtain ⟨entry, found⟩ : ∃ entry, rowOf tables power = some entry := by
    obtain ⟨row, there, fits⟩ := inRow
    refine ⟨_, List.getLast?_eq_some_getLast (List.ne_nil_of_mem (List.mem_filter.mpr ⟨there, ?_⟩))⟩
    simpa using fits
  have positive : 0 ≤ power := by
    have low := entry.2.positive
    have fits := (rowOf_some found).2.1
    omega
  have ranges : Drawable hash ua (pvpSngOf tables power draws entry) fun j => List.range (seqOf tables draws entry j) :=
    fun j => unique_range _ _
  constructor
  · rintro ⟨entry', found', right⟩ entry'' found''
    obtain rfl := Option.some.inj (found.symm.trans found')
    obtain rfl := Option.some.inj (found.symm.trans found'')
    constructor
    · rw [← searchPowerIds_ne_nil]
      intro nothing
      have answered := (right _ ranges).1
      rw [getPvpSng_eq positive found ranges, if_pos nothing] at answered
      cases answered
    · intro j some_ id inWindow pvpPower field
      by_contra more
      have listed : ua ∈ others hash ua id := mem_others_ua.mpr ⟨pvpPower, field, by omega⟩
      obtain ⟨k, there⟩ := List.mem_iff_getElem?.mp listed
      have spot : (id, k, ua) ∈ (spots hash ua ((pvpSngOf tables power draws entry).ids j)
          (getSearchPowerIdArray (pvpSngOf tables power draws entry))).flatten := by
        rw [spots_window positive]
        exact List.mem_flatMap.mpr ⟨id, mem_getPowerIds.mpr inWindow, mem_placed.mpr ⟨rfl, there⟩⟩
      obtain ⟨own, unique, drawn⟩ := exists_draw some_ spot
      have drawable : Drawable hash ua (pvpSngOf tables power draws entry)
          (Function.update (fun j => List.range (seqOf tables draws entry j)) j own) := by
        intro i
        by_cases same : i = j
        · subst same
          rw [Function.update_self, spots_players, ← List.map_flatten, List.length_map]
          exact unique
        · rw [Function.update_of_ne same]
          exact ranges i
      refine ((right _ drawable).2 j).notSelf (id, k, ua) ?_ rfl
      unfold chosen
      rw [Function.update_self]
      exact drawn
  · intro searchable
    obtain ⟨some_, once⟩ := searchable entry found
    refine ⟨entry, found, fun draw drawable => ⟨?_, fun j => (listRight_iff positive drawable j).mpr fun spot there same => ?_⟩⟩
    · rw [getPvpSng_eq positive found drawable, if_neg (searchPowerIds_ne_nil.mpr some_)]
    · obtain ⟨inWindow, place⟩ := mem_chosen positive drawable there
      rw [same] at place
      have listed : ua ∈ others hash ua spot.1 := List.mem_of_getElem? place
      obtain ⟨pvpPower, field, more⟩ := mem_others_ua.mp listed
      have asked : 0 < seqOf tables draws entry j := by
        have length := chosen_length positive drawable j
        have some_ := List.length_pos_of_mem there
        omega
      have single := once j asked spot.1 inWindow pvpPower field
      omega

/-! ### The tables as they stand -/

/-- The powers whose three windows are too narrow to hold an id. -/
def narrow : List Int := [112] ++ (List.range 42).map (fun (k : Nat) => (125 : Int) + k) ++ [199, 223, 224, 298, 299, 397, 398, 399]

theorem window_iff {bounds : Int × Int} : (∃ id, InWindow power bounds id) ↔
    getPowerId (percent power bounds.1) < getPowerId (percent power bounds.2) :=
  ⟨fun ⟨id, low, high⟩ => by omega, fun lt => ⟨_, Int.le_refl _, lt⟩⟩

theorem mem_narrow : power ∈ narrow ↔ power = 112 ∨ 125 ≤ power ∧ power < 167 ∨ power = 199 ∨ 223 ≤ power ∧ power < 225 ∨
    298 ≤ power ∧ power < 300 ∨ 397 ≤ power ∧ power < 400 := by
  have row : power ∈ (List.range 42).map (fun (k : Nat) => (125 : Int) + k) ↔ 125 ≤ power ∧ power < 167 := by
    rw [List.mem_map]
    constructor
    · rintro ⟨k, there, rfl⟩
      have inside := List.mem_range.mp there
      omega
    · rintro ⟨low, high⟩
      exact ⟨(power - 125).toNat, List.mem_range.mpr (by omega), by omega⟩
  unfold narrow
  rw [List.mem_append, List.mem_append, row]
  simp only [List.mem_cons, List.not_mem_nil, or_false]
  omega

theorem first_narrow : ∀ k < 901,
    (∃ j : Fin 3, getPowerId (percent ((100 : Int) + (k : Nat)) ((![(-20, -11), (-10, 0), (1, 20)] : Fin 3 → Int × Int) j).1) <
    getPowerId (percent ((100 : Int) + (k : Nat)) ((![(-20, -11), (-10, 0), (1, 20)] : Fin 3 → Int × Int) j).2)) ↔
      ¬ ((100 : Int) + k = 112 ∨ 125 ≤ (100 : Int) + k ∧ (100 : Int) + k < 167 ∨ (100 : Int) + k = 199 ∨
        223 ≤ (100 : Int) + k ∧ (100 : Int) + k < 225 ∨ 298 ≤ (100 : Int) + k ∧ (100 : Int) + k < 300 ∨
        397 ≤ (100 : Int) + k ∧ (100 : Int) + k < 400) := by
  decide +kernel

theorem config_rows : ∀ entry ∈ config.PowerMatch.entries,
    (∀ j, entry.2.power j = (![(-20, -11), (-10, 0), (1, 20)] : Fin 3 → Int × Int) j) ∧ entry.2.myPower = (100, 1000) ∨
      entry.2.power 2 = (6, 20) ∧ 1000 ≤ entry.2.myPower.1 := by
  decide +kernel

/-- In the tables there are, something is searched for every power but these. -/
theorem config_window_iff (found : rowOf config power = some entry) : (∃ j id, InWindow power (entry.2.power j) id) ↔ power ∉ narrow := by
  obtain ⟨there, low, high⟩ := rowOf_some found
  rcases config_rows entry there with ⟨windows, range⟩ | ⟨window, range⟩
  · rw [range] at low high
    dsimp only at low high
    have here := first_narrow (power - 100).toNat (by omega)
    rw [show (100 : Int) + ((power - 100).toNat : Nat) = power by omega] at here
    rw [mem_narrow, ← here]
    exact exists_congr fun j => by rw [window_iff, windows]
  · refine iff_of_true ⟨2, ?_⟩ fun member => ?_
    · rw [window, window_iff]
      unfold getPowerId percent
      dsimp only
      rw [Int.tdiv_eq_ediv_of_nonneg (by omega : (0 : Int) ≤ power * (100 + 6)), Int.tdiv_eq_ediv_of_nonneg
        (by omega : (0 : Int) ≤ power * (100 + 20)),
        Int.tdiv_eq_ediv_of_nonneg (by omega), Int.tdiv_eq_ediv_of_nonneg (by omega)]
      omega
    · have small : ∀ other ∈ narrow, other < 1000 := by decide +kernel
      have less := small power member
      omega

def noPlayers : PowerHash := ⟨fun _ => none, fun id lru found => by cases found⟩

def ann : UserArea := ⟨"1", "ann"⟩

theorem sngRight_thousand : SngRight noPlayers ann config id 1000 fun _ => 0 := by
  refine (sngRight_iff config id noPlayers ann 1000 (fun _ => 0) (by decide +kernel)).mpr fun entry found => ⟨?_, ?_⟩
  · exact (config_window_iff found).mpr (by decide +kernel)
  · intro j some_ id inWindow pvpPower field
    cases field

/-- With a power of 150 the request has nothing to search, and Redis refuses it. -/
theorem sng_refused : ¬SngRight noPlayers ann config id 150 fun _ => 0 := by
  rintro ⟨entry, found, right⟩
  have drawable : Drawable noPlayers ann (pvpSngOf config 150 (fun _ => 0) entry) fun j => List.range (seqOf config (fun _ => 0) entry j) :=
    fun j => unique_range _ _
  have nothing : getSearchPowerIdArray (pvpSngOf config 150 (fun _ => 0) entry) = [] := by
    by_contra some_
    exact (config_window_iff found).mp (searchPowerIds_ne_nil.mp some_) (by decide +kernel)
  have answered := (right _ drawable).1
  rw [getPvpSng_eq (by decide) found drawable, if_pos nothing] at answered
  cases answered

end Tinygame.SngMatch
