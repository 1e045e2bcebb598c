import Tinygame.Bag.Worn
import Tinygame.Base.Run
import Mathlib.Logic.Equiv.Basic

/-!
# The lineup

Runs of `makeHeroLineup` of `hero_imp.js` from a new player. The handler compares the client's hero with those in
the positions by `===`, and the store finds the hero by its name: a hero given as a string is not the one whose
number stands in a position. The heroes of a player are the fields of one hash, and field 0 is the book of summons.
-/

namespace Tinygame.Hero
open Bag (Id Position Player makeHeroLineup swapPositions numberName outsideLineup lineupMinPos lineupMaxPos
  get?_swapPositions)

/-- `HERO_BOOK_INFO_INDEX`. -/
def bookIndex : String := "0"

/-- The fields `createHeroList` makes: the first of the guide's heroes is 10003. -/
def createHeroList : List String := [bookIndex, "10003", "10013", "10004"]

structure LineupCall where
  posDst : Id
  heroId : Id

section
variable (heroes : List String)

/-- The handler with what is read for it. A request that throws stores nothing. -/
def lineUp (baseInfo : Bag.BaseInfo) (call : LineupCall) : Bag.BaseInfo :=
  match makeHeroLineup ⟨baseInfo, Bag.createRobotBagList⟩ call.posDst call.heroId (heroes.contains call.heroId.name) with
  | .ok (player, _) => player.baseInfo
  | .error _ => baseInfo

/-! ### What is meant -/

def lineupNames : List String := ["1", "2", "3"]

def suitAt (posList : Obj Position) (name : String) : Option (Obj Id) := (posList.get? name).map Position.equipIdList

structure LineupRight (first posList : Obj Position) : Prop where
  keys : ∀ name, posList.has name = true ↔ name ∈ lineupNames
  pos : ∀ name position, posList.get? name = some position →
    position.pos = (Id.text name).parseInt.map (· + lineupMaxPos)
  heroes : ∀ name position, posList.get? name = some position → position.heroId.name ∈ heroes ∧ position.heroId.name ≠ bookIndex
  different : ∀ name name' position position', posList.get? name = some position → posList.get? name' = some position' →
    position.heroId.name = position'.heroId.name → name = name'
  suits : (lineupNames.map (suitAt posList)).Perm (lineupNames.map (suitAt first))

/-- The place of the lineup a client's number is for. -/
def ForPlace (posDst : Id) (n : Int) : Prop :=
  posDst.parseInt = some (n + lineupMaxPos) ∧ lineupMinPos ≤ n ∧ n ≤ lineupMaxPos

/-- A call for a place of the lineup does not ask for the book, and a hero that stands at another place is given as it
stands there. -/
def CarefulCall (baseInfo : Bag.BaseInfo) (call : LineupCall) : Prop :=
  ∀ n, ForPlace call.posDst n → call.heroId.name ≠ bookIndex ∧
    ∀ name position, baseInfo.posList.get? name = some position → name ≠ toString n →
      position.heroId.name = call.heroId.name → position.heroId.same call.heroId = true

end

variable {heroes : List String} {baseInfo : Bag.BaseInfo} {first posList : Obj Position} {call : LineupCall} {name key i : String}

/-! ### Positions -/

theorem same_eq {id other : Id} (same : id.same other = true) : id = other := by
  cases id <;> simp_all [Id.same]

theorem lineup_number {n : Int} (low : lineupMinPos ≤ n) (high : n ≤ lineupMaxPos) :
    toString n ∈ lineupNames ∧ (Id.text (toString n)).parseInt = some n := by
  have cases_ : n = 1 ∨ n = 2 ∨ n = 3 := by
    unfold lineupMinPos at low
    unfold lineupMaxPos at high
    omega
  rcases cases_ with rfl | rfl | rfl <;> decide

theorem ForPlace.inside {posDst : Id} {n : Int} (place : ForPlace posDst n) :
    posDst.parseInt.map (· - lineupMaxPos) = some n ∧ outsideLineup (some n) = false := by
  obtain ⟨parsed, low, high⟩ := place
  constructor
  · rw [parsed, Option.map_some, Int.add_sub_cancel]
  · simp [outsideLineup, low, high]

theorem forPlace_of_inside {posDst : Id} {n : Int} (parsed : posDst.parseInt.map (· - lineupMaxPos) = some n)
    (inside : outsideLineup (some n) = false) : ForPlace posDst n := by
  obtain ⟨m, number, rfl⟩ := Option.map_eq_some_iff.mp parsed
  have bounds : lineupMinPos ≤ m - lineupMaxPos ∧ m - lineupMaxPos ≤ lineupMaxPos := by
    simpa [outsideLineup] using inside
  exact ⟨by rw [number, Int.sub_add_cancel], bounds⟩

theorem ForPlace.unique {posDst : Id} {n m : Int} (first : ForPlace posDst n) (second : ForPlace posDst m) : n = m := by
  have same := Option.some.inj (first.1.symm.trans second.1)
  omega

/-- A call for no place of the lineup, or for none at all, changes nothing. -/
theorem lineUp_elsewhere (heroes : List String) (keys : ∀ name, baseInfo.posList.has name = true ↔ name ∈ lineupNames)
    (elsewhere : ∀ n, ¬ ForPlace call.posDst n) : lineUp heroes baseInfo call = baseInfo := by
  unfold lineUp makeHeroLineup
  cases parsed : call.posDst.parseInt.map (· - lineupMaxPos) with
  | some n =>
    have outside : outsideLineup (some n) = true := by
      rw [← Bool.not_eq_false]
      exact fun inside => elsewhere n (forPlace_of_inside parsed inside)
    simp [outside, pure, Except.pure]
  | none =>
    have absent : baseInfo.posList.get? "NaN" = none := by
      rw [← Obj.has_eq_false, ← Bool.not_eq_true, keys]
      decide
    have inside : outsideLineup none = false := rfl
    cases found : baseInfo.posList.entries.find? fun entry => entry.2.heroId.same call.heroId with
    | some entry => simp [inside, numberName, absent, found, throw, throwThe, MonadExceptOf.throw]
    | none =>
      by_cases owned : call.heroId.name ∈ heroes <;>
        simp [inside, numberName, absent, found, owned, throw, throwThe, MonadExceptOf.throw, pure, Except.pure]

/-- What a call for a place does to the positions. -/
theorem lineUp_there (heroes : List String) (keys : ∀ name, baseInfo.posList.has name = true ↔ name ∈ lineupNames) {n : Int}
    (place : ForPlace call.posDst n) :
    ∃ position, baseInfo.posList.get? (toString n) = some position ∧
      ((∃ i other, baseInfo.posList.get? i = some other ∧ other.heroId.same call.heroId = true ∧
        (lineUp heroes baseInfo call).posList = swapPositions baseInfo.posList (toString n) i (some n) other position) ∨
      ((∀ i other, baseInfo.posList.get? i = some other → other.heroId.same call.heroId = false) ∧
        if call.heroId.name ∈ heroes then
          (lineUp heroes baseInfo call).posList = baseInfo.posList.set (toString n) { position with heroId := call.heroId }
        else lineUp heroes baseInfo call = baseInfo)) := by
  obtain ⟨parsed, inside⟩ := place.inside
  obtain ⟨position, there⟩ := Obj.has_iff.mp ((keys _).mpr (lineup_number place.2.1 place.2.2).1)
  have repr : baseInfo.posList.get? n.repr = some position := there
  refine ⟨position, there, ?_⟩
  unfold lineUp makeHeroLineup
  cases found : baseInfo.posList.entries.find? fun entry => entry.2.heroId.same call.heroId with
  | some entry =>
    left
    have present := AList.mem_lookup_iff.mpr (List.mem_of_find?_eq_some found)
    have same := List.find?_some (p := fun entry : Σ _ : String, Position => entry.2.heroId.same call.heroId) found
    refine ⟨entry.1, entry.2, present, same, ?_⟩
    simp [parsed, inside, numberName, repr, found, pure, Except.pure]
  | none =>
    right
    constructor
    · intro i other present
      have member : (⟨i, other⟩ : Σ _ : String, Position) ∈ baseInfo.posList.entries := AList.mem_lookup_iff.mp present
      simpa using List.find?_eq_none.mp found _ member
    · by_cases owned : call.heroId.name ∈ heroes <;>
        simp [parsed, inside, numberName, repr, found, owned, pure, Except.pure]

/-! ### What a call keeps -/

theorem lineupNames_swap {i key : String} (first : i ∈ lineupNames) (second : key ∈ lineupNames) :
    (lineupNames.map (Equiv.swap i key)).Perm lineupNames := by
  simp only [lineupNames, List.mem_cons, List.not_mem_nil, or_false] at first second
  rcases first with rfl | rfl | rfl <;> rcases second with rfl | rfl | rfl <;> decide

/-- After a swap a position has the hero and the suit of the position it changed places with. -/
theorem swapPositions_source {n : Option Int} {other position : Position} (atI : posList.get? i = some other)
    (atKey : posList.get? key = some position) (name : String) :
    ((swapPositions posList key i n other position).get? name).map (fun p => (p.heroId, p.equipIdList)) =
      (posList.get? (Equiv.swap i key name)).map fun p => (p.heroId, p.equipIdList) := by
  rw [get?_swapPositions]
  by_cases here : name = i
  · rw [if_pos here, here, Equiv.swap_apply_left, atKey]
    rfl
  rw [if_neg here]
  by_cases there : name = key
  · rw [if_pos there, there, Equiv.swap_apply_right, atI]
    rfl
  · rw [if_neg there, Equiv.swap_apply_of_ne_of_ne here there]

theorem swapPositions_right (right : LineupRight heroes first posList) {n : Int} (low : lineupMinPos ≤ n) (high : n ≤ lineupMaxPos)
    {other position : Position} (atI : posList.get? i = some other) (atKey : posList.get? (toString n) = some position) :
    LineupRight heroes first (swapPositions posList (toString n) i (some n) other position) := by
  obtain ⟨keyName, keyNumber⟩ := lineup_number low high
  have iName : i ∈ lineupNames := (right.keys i).mp (Obj.has_iff.mpr ⟨other, atI⟩)
  have source := swapPositions_source (n := some n) atI atKey
  have before : ∀ {name p}, (swapPositions posList (toString n) i (some n) other position).get? name = some p →
      ∃ p', posList.get? (Equiv.swap i (toString n) name) = some p' ∧ p'.heroId = p.heroId := by
    intro name p found
    have pair := source name
    rw [found] at pair
    obtain ⟨p', there, same⟩ := Option.map_eq_some_iff.mp pair.symm
    exact ⟨p', there, (Prod.mk.inj same).1⟩
  exact {
    keys := by
      intro name
      rw [← right.keys name, Obj.has, Obj.has, get?_swapPositions]
      by_cases here : name = i
      · simp [here, atI]
      by_cases there : name = toString n
      · rw [if_neg here, if_pos there, there, atKey]
        rfl
      · rw [if_neg here, if_neg there]
    pos := by
      intro name p found
      rw [get?_swapPositions] at found
      by_cases here : name = i
      · rw [if_pos here] at found
        rw [← Option.some.inj found, here]
      by_cases there : name = toString n
      · rw [if_neg here, if_pos there] at found
        rw [← Option.some.inj found, there, keyNumber]
      · rw [if_neg here, if_neg there] at found
        exact right.pos name p found
    heroes := by
      intro name p found
      obtain ⟨p', there, same⟩ := before found
      rw [← same]
      exact right.heroes _ p' there
    different := by
      intro name name' p p' found found' same
      obtain ⟨q, there, hero⟩ := before found
      obtain ⟨q', there', hero'⟩ := before found'
      rw [← hero, ← hero'] at same
      exact (Equiv.swap i (toString n)).injective (right.different _ _ q q' there there' same)
    suits := by
      have moved : lineupNames.map (suitAt (swapPositions posList (toString n) i (some n) other position)) =
          (lineupNames.map (Equiv.swap i (toString n))).map (suitAt posList) := by
        rw [List.map_map]
        apply List.map_congr_left
        intro name _
        have suit := congrArg (Option.map Prod.snd) (source name)
        rw [Option.map_map, Option.map_map] at suit
        exact suit
      rw [moved]
      exact ((lineupNames_swap iName keyName).map _).trans right.suits }

/-- Another hero takes the place, in the suit that is there. -/
theorem replaced_right (right : LineupRight heroes first posList) {position : Position} {heroId : Id}
    (there : posList.get? key = some position) (owned : heroId.name ∈ heroes) (hero : heroId.name ≠ bookIndex)
    (free : ∀ name other, posList.get? name = some other → name ≠ key → other.heroId.name ≠ heroId.name) :
    LineupRight heroes first (posList.set key { position with heroId := heroId }) := by
  have cases_ : ∀ {name p}, (posList.set key { position with heroId := heroId }).get? name = some p →
      (name = key ∧ p = { position with heroId := heroId }) ∨ name ≠ key ∧ posList.get? name = some p := by
    intro name p found
    rw [Obj.get?_set] at found
    by_cases here : name = key
    · rw [if_pos here] at found
      exact .inl ⟨here, (Option.some.inj found).symm⟩
    · rw [if_neg here] at found
      exact .inr ⟨here, found⟩
  exact {
    keys := by
      intro name
      rw [← right.keys name, Obj.has_set]
      by_cases here : name = key
      · simp [here, Obj.has, there]
      · simp [here]
    pos := by
      intro name p found
      rcases cases_ found with ⟨rfl, rfl⟩ | ⟨-, before⟩
      · exact right.pos name position there
      · exact right.pos name p before
    heroes := by
      intro name p found
      rcases cases_ found with ⟨rfl, rfl⟩ | ⟨-, before⟩
      · exact ⟨owned, hero⟩
      · exact right.heroes name p before
    different := by
      intro name name' p p' found found' same
      rcases cases_ found with ⟨rfl, rfl⟩ | ⟨elsewhere, before⟩ <;> rcases cases_ found' with ⟨rfl, rfl⟩ | ⟨elsewhere', before'⟩
      · rfl
      · exact absurd same.symm (free name' p' before' elsewhere')
      · exact absurd same (free name p before elsewhere)
      · exact right.different name name' p p' before before' same
    suits := by
      have kept : suitAt (posList.set key { position with heroId := heroId }) = suitAt posList := by
        funext name
        unfold suitAt
        rw [Obj.get?_set]
        by_cases here : name = key
        · rw [if_pos here, here, there]
          rfl
        · rw [if_neg here]
      rw [kept]
      exact right.suits }

/-- A careful call keeps the lineup right. -/
theorem lineUp_right (right : LineupRight heroes first baseInfo.posList) (careful : CarefulCall baseInfo call) :
    LineupRight heroes first (lineUp heroes baseInfo call).posList := by
  by_cases place : ∃ n, ForPlace call.posDst n
  · obtain ⟨n, place⟩ := place
    obtain ⟨position, there, swapped | ⟨absent, after⟩⟩ := lineUp_there heroes right.keys place
    · obtain ⟨i, other, atI, -, after⟩ := swapped
      rw [after]
      exact swapPositions_right right place.2.1 place.2.2 atI there
    · split at after
      · rename_i owned
        obtain ⟨hero, given⟩ := careful n place
        rw [after]
        apply replaced_right right there owned hero
        intro name other found elsewhere same
        have stands := given name other found elsewhere same
        rw [absent name other found] at stands
        cases stands
      · rw [after]
        exact right
  · rw [lineUp_elsewhere heroes right.keys (not_exists.mp place)]
    exact right

/-- And only a careful one does. -/
theorem careful_of_right (book : bookIndex ∈ heroes) (right : LineupRight heroes first baseInfo.posList)
    (after : LineupRight heroes first (lineUp heroes baseInfo call).posList) : CarefulCall baseInfo call := by
  intro n place
  obtain ⟨position, there, swapped | ⟨-, stored⟩⟩ := lineUp_there heroes right.keys place
  · obtain ⟨i, other, atI, same, -⟩ := swapped
    constructor
    · rw [← same_eq same]
      exact (right.heroes i other atI).2
    · intro name position found _ named
      rw [← same_eq same] at named
      have here := right.different name i position other found atI named
      rw [here, atI] at found
      rw [← Option.some.inj found]
      exact same
  · by_cases owned : call.heroId.name ∈ heroes
    · rw [if_pos owned] at stored
      rw [stored] at after
      have placed := Obj.get?_set_self baseInfo.posList (toString n) { position with heroId := call.heroId }
      refine ⟨(after.heroes _ _ placed).2, ?_⟩
      intro name other found elsewhere named
      have kept := (Obj.get?_set_of_ne baseInfo.posList { position with heroId := call.heroId } elsewhere).trans found
      exact absurd (after.different _ _ _ _ kept placed named) elsewhere
    · constructor
      · intro hero
        rw [hero] at owned
        exact owned book
      · intro name other found _ named
        rw [← named] at owned
        exact absurd (right.heroes name other found).1 owned

/-! ### Runs -/

theorem createRobotBaseInfo_right (gold : Int) (summoned : List String) :
    LineupRight (createHeroList ++ summoned) (Bag.createRobotBaseInfo gold).posList (Bag.createRobotBaseInfo gold).posList := by
  have found : ∀ {name position}, (Bag.createRobotBaseInfo gold).posList.get? name = some position →
      (name = "1" ∧ position.heroId = .number 10013 ∧ position.pos = some 4) ∨
      (name = "2" ∧ position.heroId = .number 10003 ∧ position.pos = some 5) ∨
      (name = "3" ∧ position.heroId = .number 10004 ∧ position.pos = some 6) := by
    intro name position found
    unfold Bag.createRobotBaseInfo at found
    simp only [Obj.get?_set] at found
    split at found
    · cases found
      simp_all
    split at found
    · cases found
      simp_all
    split at found
    · cases found
      simp_all
    · cases found
  exact {
    keys := by
      intro name
      unfold Bag.createRobotBaseInfo
      simp [Obj.has_set, lineupNames]
      tauto
    pos := by
      intro name position there
      rcases found there with ⟨rfl, -, pos⟩ | ⟨rfl, -, pos⟩ | ⟨rfl, -, pos⟩ <;> rw [pos] <;> decide
    heroes := by
      intro name position there
      rcases found there with ⟨-, hero, -⟩ | ⟨-, hero, -⟩ | ⟨-, hero, -⟩ <;> rw [hero]
      all_goals
        constructor
        · apply List.mem_append_left
          decide
        · decide
    different := by
      intro name name' position position' there there' same
      rcases found there with ⟨rfl, hero, -⟩ | ⟨rfl, hero, -⟩ | ⟨rfl, hero, -⟩ <;>
        rcases found there' with ⟨rfl, hero', -⟩ | ⟨rfl, hero', -⟩ | ⟨rfl, hero', -⟩ <;>
        first
          | rfl
          | rw [hero, hero'] at same
            revert same
            decide
    suits := List.Perm.refl _ }

end Tinygame.Hero
