import Tinygame.Bag.Equips
import Tinygame.Base.Run
import Mathlib.Data.Finset.Insert
import Mathlib.Data.Option.Basic
import Mathlib.Data.List.TakeWhile

/-!
# Summoning heroes

`rollHero` of `hero_imp.js` with `rollheroBookInfo` and `getHeroId` of `hero_handle.js`. A player asks for one of the
three heroes of the book, or for any hero. The offers of the next time are drawn one after the other from a group of
heroes; where the group has no hero left the old offer stands. A hero that was drawn at random is not taken out of the
group.
-/

namespace Tinygame.Hero
open Bag (Id)

/-- A hero of the table `Character`. -/
structure CharacterRow where
  heroId : Nat
  teamId : Nat
  deriving DecidableEq

structure Characters where
  /-- In enumeration order. -/
  rows : List CharacterRow
  distinct : (rows.map CharacterRow.heroId).Nodup
  guideHero : List Int
  /-- `SuitAu` has a row for the hero. -/
  suited : Int → Bool

/-- The fields of the book that a summon uses. -/
structure HeroBook where
  heroId1 : Id
  heroId2 : Id
  heroId3 : Id
  summomNums : Int
  countSummomNums : Int
  deriving DecidableEq

/-- The book and the names of the other fields of the hash. -/
structure Summoner where
  heroes : Finset String
  book : HeroBook
  deriving DecidableEq

structure Roll where
  heroId : Id
  /-- The draw of `getHeroId` and those of the three offers. -/
  draws : Nat → Nat

variable (Character : Characters)

/-! ### The offers -/

def randomArray {α : Type} (array : List α) (draw : Nat) : Option α := array[draw % array.length]?

def delArrayElt (array : List CharacterRow) (id : Id) : List CharacterRow :=
  array.filter fun row => id.parseInt ≠ some (row.heroId : Int)

/-- `heroIdA`. -/
def notSummoned (heroes : Finset String) (thisHeroId : Int) : List CharacterRow :=
  Character.rows.filter fun row => toString row.heroId ∉ heroes ∧ (row.heroId : Int) ≠ thisHeroId

/-- The length of `heroIds[teamId]`: the heroes of the team that are not in `heroIdA`. -/
def summonedOf (heroes : Finset String) (thisHeroId : Int) (teamId : Nat) : Nat :=
  Character.rows.countP fun row => row ∉ notSummoned Character heroes thisHeroId ∧ row.teamId = teamId

/-- The heroes from which the offers are drawn: after five summons any, before that those of teams with fewer than two,
as long as there are some. -/
def offerGroup (heroes : Finset String) (thisHeroId countSummomNums : Int) : List CharacterRow :=
  let heroIdA := notSummoned Character heroes thisHeroId
  let heroIdB := heroIdA.filter fun row => summonedOf Character heroes thisHeroId row.teamId < 2
  let heroIdC := heroIdA.filter fun row => ¬ summonedOf Character heroes thisHeroId row.teamId < 2
  if countSummomNums ≥ 5 then heroIdA else if heroIdB ≠ [] then heroIdB else heroIdC

def offer (group : List CharacterRow) (draw : Nat) (old : Id) : Id :=
  match randomArray group draw with
  | some row => .text (toString row.heroId)
  | none => old

def drawOffers (group : List CharacterRow) (draws : Nat → Nat) (book : HeroBook) : HeroBook :=
  let heroId1 := offer group (draws 1) book.heroId1
  let group := delArrayElt group heroId1
  let heroId2 := offer group (draws 2) book.heroId2
  let group := delArrayElt group heroId2
  let heroId3 := offer group (draws 3) book.heroId3
  { book with heroId1, heroId2, heroId3 }

def rollheroBookInfo (book : HeroBook) (heroes : Finset String) (thisHeroId : Int) (draws : Nat → Nat) : HeroBook :=
  drawOffers (offerGroup Character heroes thisHeroId book.countSummomNums) draws book

/-! ### The request -/

def getHeroId (heroes : Finset String) (thisHeroId : Int) (draw : Nat) : Option Int :=
  (randomArray (notSummoned Character heroes thisHeroId) draw).map fun row => (row.heroId : Int)

def checkGuideHero (heroId : Int) : Bool := Character.guideHero.contains heroId

/-- `rollHeroId`. -/
def rolledHero (player : Summoner) (heroId : Int) (draw : Nat) : Option Int :=
  if heroId ≠ 0 then
    if checkGuideHero Character heroId ∨ some heroId = player.book.heroId1.parseInt ∨
      some heroId = player.book.heroId2.parseInt ∨ some heroId = player.book.heroId3.parseInt then some heroId else none
  else getHeroId Character player.heroes heroId draw

/-- What is stored by a summon that succeeds. NaN is no hero of the book. -/
def rollHero (player : Summoner) (roll : Roll) : Option Summoner := do
  let heroId ← roll.heroId.parseInt
  guard (¬ (toString heroId ∈ player.heroes ∧ heroId ≠ 0))
  guard (¬ player.book.summomNums ≤ 0)
  let book := { player.book with
    summomNums := player.book.summomNums - 1
    countSummomNums := player.book.countSummomNums + 1 }
  let rollHeroId ← rolledHero Character player heroId (roll.draws 0)
  guard (Character.suited rollHeroId = true)
  return ⟨insert (toString rollHeroId) player.heroes, rollheroBookInfo Character book player.heroes heroId roll.draws⟩

/-- A summon that fails stores nothing. -/
def serveRoll (player : Summoner) (roll : Roll) : Summoner := (rollHero Character player roll).getD player

/-! ### What is meant -/

/-- The heroes of the table that the player does not have. -/
def unowned (heroes : Finset String) : List CharacterRow := Character.rows.filter fun row => toString row.heroId ∉ heroes

/-- The offers as they are read. -/
def HeroBook.offers (book : HeroBook) : List (Option Int) := [book.heroId1.parseInt, book.heroId2.parseInt, book.heroId3.parseInt]

/-- The three offers are different heroes that the player does not have. -/
def OffersRight (player : Summoner) : Prop :=
  player.book.offers.Nodup ∧ ∀ offer ∈ player.book.offers, ∃ id, offer = some id ∧ toString id ∉ player.heroes

/-- One hero more, which was not there before, and one summon fewer. -/
def Summons (before after : Summoner) : Prop :=
  (∃ name, name ∉ before.heroes ∧ after.heroes = insert name before.heroes) ∧
    after.book.summomNums = before.book.summomNums - 1

/-- When three heroes are left after the summon, the group of the offers has three, and a hero that is drawn at random is
not one of the group. -/
def CarefulRoll (player : Summoner) (roll : Roll) : Prop :=
  ∀ heroId id, roll.heroId.parseInt = some heroId → rolledHero Character player heroId (roll.draws 0) = some id →
    3 ≤ (unowned Character (insert (toString id) player.heroes)).length →
      let group := offerGroup Character player.heroes heroId (player.book.countSummomNums + 1)
      3 ≤ group.length ∧ (heroId = 0 → ∀ row ∈ group, (row.heroId : Int) ≠ id)

variable {Character : Characters} {player after : Summoner} {roll : Roll} {group : List CharacterRow} {heroes : Finset String}
  {heroId : Int}

/-! ### Drawing -/

/-- A digit is no blank and no sign. -/
theorem digit_plain {c : Char} (digit : c.isDigit = true) : c.isWhitespace = false ∧ c ≠ '-' ∧ c ≠ '+' := by
  refine ⟨?_, ?_, ?_⟩
  · apply Bool.eq_false_iff.mpr
    intro blank
    simp only [Char.isWhitespace, Bool.or_eq_true, decide_eq_true_eq] at blank
    rcases blank with ((rfl | rfl) | rfl) | rfl <;> cases digit
  · rintro rfl
    cases digit
  · rintro rfl
    cases digit

theorem digits_value (chars : List Char) (start : Nat) :
    chars.foldl (fun (n : Int) c => 10 * n + (c.toNat - '0'.toNat : Nat)) (start : Int) = (Nat.ofDigitChars 10 chars start : Int) := by
  rw [Nat.ofDigitChars_eq_foldl]
  induction chars generalizing start with
  | nil => rfl
  | cons c rest ih =>
    rw [List.foldl_cons, List.foldl_cons, ← ih]
    push_cast
    rfl

theorem parseInt_of_digits (id : Id) {c : Char} {rest : List Char} (chars : id.name.toList = c :: rest)
    (digits : ∀ d ∈ c :: rest, d.isDigit = true) : id.parseInt = some (Nat.ofDigitChars 10 (c :: rest) 0 : Int) := by
  obtain ⟨blank, minus, plus⟩ := digit_plain (digits c List.mem_cons_self)
  have all : (c :: rest).takeWhile Char.isDigit = c :: rest := List.takeWhile_eq_self_iff.mpr digits
  have value := digits_value (c :: rest) 0
  rw [Nat.cast_zero] at value
  rw [← value]
  simp [Id.parseInt, chars, blank, minus, plus, all]

theorem parseInt_toString (n : Nat) : (Id.text (toString n)).parseInt = some (n : Int) := by
  have chars : (toString n).toList = Nat.toDigits 10 n := by rw [Nat.toString_eq_ofList_toDigits, String.toList_ofList]
  have digits := toString_digits n
  obtain ⟨c, rest, split⟩ := List.exists_cons_of_ne_nil (chars ▸ Nat.toDigits_ne_nil : (toString n).toList ≠ [])
  rw [parseInt_of_digits (.text (toString n)) split (split ▸ digits), ← split, chars,
    Nat.ofDigitChars_toDigits (by decide) (by decide)]

theorem randomArray_mem {α : Type} {array : List α} (nonempty : array ≠ []) (draw : Nat) :
    ∃ a ∈ array, randomArray array draw = some a := by
  have bound := Nat.mod_lt draw (List.length_pos_iff.mpr nonempty)
  exact ⟨_, List.getElem_mem bound, List.getElem?_eq_getElem bound⟩

theorem offer_mem (nonempty : group ≠ []) (draw : Nat) (old : Id) :
    ∃ row ∈ group, (offer group draw old).parseInt = some (row.heroId : Int) := by
  obtain ⟨row, there, drawn⟩ := randomArray_mem nonempty draw
  refine ⟨row, there, ?_⟩
  unfold offer
  rw [drawn]
  exact parseInt_toString row.heroId

theorem delArrayElt_length (distinct : (group.map CharacterRow.heroId).Nodup) {row : CharacterRow} (there : row ∈ group) {id : Id}
    (read : id.parseInt = some (row.heroId : Int)) : (delArrayElt group id).length = group.length - 1 := by
  have erased : (delArrayElt group id).map CharacterRow.heroId = (group.map CharacterRow.heroId).erase row.heroId := by
    rw [distinct.erase_eq_filter, List.filter_map]
    unfold delArrayElt
    congr 1
    apply List.filter_congr
    intro other _
    rw [read]
    grind
  rw [← List.length_map (f := CharacterRow.heroId), erased, List.length_erase_of_mem (List.mem_map_of_mem there), List.length_map]

theorem mem_delArrayElt {row other : CharacterRow} {id : Id} (read : id.parseInt = some (row.heroId : Int)) :
    other ∈ delArrayElt group id ↔ other ∈ group ∧ other.heroId ≠ row.heroId := by
  unfold delArrayElt
  rw [List.mem_filter, read]
  grind

/-- From a group of three or more, three different heroes are offered. -/
theorem drawOffers_three (distinct : (group.map CharacterRow.heroId).Nodup) (three : 3 ≤ group.length) (draws : Nat → Nat)
    (book : HeroBook) : ∃ first ∈ group, ∃ second ∈ group, ∃ third ∈ group, first.heroId ≠ second.heroId ∧
      first.heroId ≠ third.heroId ∧ second.heroId ≠ third.heroId ∧
      (drawOffers group draws book).offers = [some (first.heroId : Int), some (second.heroId : Int), some (third.heroId : Int)] := by
  have some1 : group ≠ [] := List.ne_nil_of_length_pos (by omega)
  obtain ⟨first, in1, read1⟩ := offer_mem some1 (draws 1) book.heroId1
  have length1 := delArrayElt_length distinct in1 read1
  have distinct1 : ((delArrayElt group (offer group (draws 1) book.heroId1)).map CharacterRow.heroId).Nodup :=
    distinct.sublist (List.filter_sublist.map _)
  have some2 : delArrayElt group (offer group (draws 1) book.heroId1) ≠ [] := List.ne_nil_of_length_pos (by omega)
  obtain ⟨second, in2, read2⟩ := offer_mem some2 (draws 2) book.heroId2
  have length2 := delArrayElt_length distinct1 in2 read2
  have some3 := List.ne_nil_of_length_pos (show 0 < _ by rw [length2]; omega)
  obtain ⟨third, in3, read3⟩ := offer_mem some3 (draws 3) book.heroId3
  obtain ⟨left2, other12⟩ := (mem_delArrayElt read1).mp in2
  obtain ⟨left3, other23⟩ := (mem_delArrayElt read2).mp in3
  obtain ⟨left3, other13⟩ := (mem_delArrayElt read1).mp left3
  refine ⟨first, in1, second, left2, third, left3, Ne.symm other12, Ne.symm other13, Ne.symm other23, ?_⟩
  rw [HeroBook.offers, ← read1, ← read2, ← read3]
  rfl

theorem offerGroup_sublist (Character : Characters) (heroes : Finset String) (heroId count : Int) :
    (offerGroup Character heroes heroId count).Sublist (notSummoned Character heroes heroId) := by
  unfold offerGroup
  dsimp only
  split
  · exact List.Sublist.refl _
  split
  · exact List.filter_sublist
  · exact List.filter_sublist

theorem offerGroup_distinct (Character : Characters) (heroes : Finset String) (heroId count : Int) :
    ((offerGroup Character heroes heroId count).map CharacterRow.heroId).Nodup :=
  Character.distinct.sublist (((offerGroup_sublist Character heroes heroId count).trans List.filter_sublist).map _)

/-! ### One summon -/

/-- Only a hero's own number names it. -/
theorem toString_hero {n : Nat} {id : Int} : toString (n : Int) = toString id ↔ (n : Int) = id := by
  refine ⟨fun same => ?_, congrArg _⟩
  cases id with
  | ofNat m => exact congrArg Int.ofNat (toString_number.mp same)
  | negSucc m =>
    have signed : (toString (Int.negSucc m)).toList = '-' :: (toString (m + 1)).toList := by
      show ("-" ++ toString (m + 1)).toList = _
      rw [String.toList_append]
      rfl
    have digit : '-'.isDigit = true := by
      apply toString_digits n
      show '-' ∈ (toString (n : Int)).toList
      rw [same, signed]
      exact List.mem_cons_self
    cases digit

theorem rollHero_done (done : rollHero Character player roll = some after) :
    ∃ heroId id, roll.heroId.parseInt = some heroId ∧ ¬ (toString heroId ∈ player.heroes ∧ heroId ≠ 0) ∧
      rolledHero Character player heroId (roll.draws 0) = some id ∧
      after = ⟨insert (toString id) player.heroes,
        drawOffers (offerGroup Character player.heroes heroId (player.book.countSummomNums + 1)) roll.draws
          { player.book with
            summomNums := player.book.summomNums - 1
            countSummomNums := player.book.countSummomNums + 1 }⟩ := by
  unfold rollHero at done
  obtain ⟨heroId, parsed, done⟩ := Option.bind_eq_some_iff.mp done
  obtain ⟨_, passed, done⟩ := Option.bind_eq_some_iff.mp done
  obtain ⟨-, -, done⟩ := Option.bind_eq_some_iff.mp done
  obtain ⟨id, rolled, done⟩ := Option.bind_eq_some_iff.mp done
  obtain ⟨-, -, done⟩ := Option.bind_eq_some_iff.mp done
  exact ⟨heroId, id, parsed, (Option.guard_eq_some' _).mp passed, rolled, (Option.some.inj done).symm⟩

theorem rolledHero_cases {id : Int} {draw : Nat} (rolled : rolledHero Character player heroId draw = some id) :
    (heroId ≠ 0 ∧ id = heroId) ∨ heroId = 0 ∧ ∃ row ∈ notSummoned Character player.heroes heroId, id = row.heroId := by
  unfold rolledHero at rolled
  by_cases chosen : heroId ≠ 0
  · rw [if_pos chosen] at rolled
    split at rolled
    · exact .inl ⟨chosen, (Option.some.inj rolled).symm⟩
    · cases rolled
  · rw [if_neg chosen] at rolled
    right
    refine ⟨not_not.mp chosen, ?_⟩
    obtain ⟨row, drawn, rfl⟩ := Option.map_eq_some_iff.mp rolled
    exact ⟨row, List.mem_of_getElem? drawn, rfl⟩

theorem mem_notSummoned {row : CharacterRow} (there : row ∈ notSummoned Character heroes heroId) :
    toString (row.heroId : Int) ∉ heroes ∧ (row.heroId : Int) ≠ heroId := by
  have holds := (List.mem_filter.mp there).2
  rw [decide_eq_true_eq] at holds
  exact holds

theorem rollHero_summons (done : rollHero Character player roll = some after) : Summons player after := by
  obtain ⟨heroId, id, -, new, rolled, rfl⟩ := rollHero_done done
  refine ⟨⟨toString id, ?_, rfl⟩, rfl⟩
  rcases rolledHero_cases rolled with ⟨chosen, rfl⟩ | ⟨-, row, there, rfl⟩
  · exact fun owned => new ⟨owned, chosen⟩
  · exact (mem_notSummoned there).1

theorem rollHero_offers (done : rollHero Character player roll = some after) (careful : CarefulRoll Character player roll)
    (left : 3 ≤ (unowned Character after.heroes).length) : OffersRight after := by
  obtain ⟨heroId, id, parsed, -, rolled, rfl⟩ := rollHero_done done
  obtain ⟨three, other⟩ := careful heroId id parsed rolled left
  have kept : ∀ row ∈ offerGroup Character player.heroes heroId (player.book.countSummomNums + 1),
      toString (row.heroId : Int) ∉ insert (toString id) player.heroes := by
    intro row there
    obtain ⟨free, notThis⟩ := mem_notSummoned ((offerGroup_sublist ..).mem there)
    rw [Finset.mem_insert, toString_hero]
    rintro (same | owned)
    · rcases rolledHero_cases rolled with ⟨-, rfl⟩ | ⟨random, -⟩
      · exact notThis same
      · exact other random row there same
    · exact free owned
  obtain ⟨first, in1, second, in2, third, in3, other12, other13, other23, offers⟩ :=
    drawOffers_three (offerGroup_distinct ..) three roll.draws { player.book with
      summomNums := player.book.summomNums - 1
      countSummomNums := player.book.countSummomNums + 1 }
  constructor
  · rw [offers]
    simp [other12, other13, other23]
  · intro offer there
    rw [offers] at there
    simp only [List.mem_cons, List.not_mem_nil, or_false] at there
    rcases there with rfl | rfl | rfl
    · exact ⟨_, rfl, kept first in1⟩
    · exact ⟨_, rfl, kept second in2⟩
    · exact ⟨_, rfl, kept third in3⟩

/-! ### Runs -/

/-- The table `config/character/character`. -/
def firstCharacters : Characters where
  rows := [⟨10001, 1⟩, ⟨10002, 1⟩, ⟨10003, 1⟩, ⟨10004, 2⟩, ⟨10005, 2⟩, ⟨10006, 2⟩, ⟨10007, 3⟩, ⟨10008, 3⟩, ⟨10009, 3⟩, ⟨10010, 4⟩,
    ⟨10011, 4⟩, ⟨10012, 4⟩, ⟨10013, 5⟩, ⟨10014, 5⟩, ⟨10015, 5⟩]
  distinct := by decide
  guideHero := [10003, 10013, 10004]
  suited := fun _ => true

/-- The heroes and the book of a new player. -/
def newSummoner : Summoner := ⟨{"10003", "10013", "10004"}, ⟨.number 10001, .text "10013", .text "10004", 10, 0⟩⟩

end Tinygame.Hero
