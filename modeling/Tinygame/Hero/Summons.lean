import Tinygame.Base.Run
import Tinygame.Hero.Experience
import Mathlib.Order.Interval.Finset.Basic
import Mathlib.Data.Int.Interval

/-!
# Summons for levels

Where a level is a multiple of five, `calExpAndLevel` of `hero_handle.js` asks the store for the book of summons,
and a callback that all of these share writes it back. The answers come when the handler is through: then
`object.level` is the level the player has in the end. Reads and writes of several pairs may mix, with each other
and with the write of a request that has the book itself for its `heroInfo`.
-/

namespace Tinygame.Hero

/-! ### Pairs in flight -/

/-- What has become of an `hget` and its `hset`. -/
inductive Pair
  | asked
  | answered (summomNums : Int)
  | saving (summomNums : Int)
  deriving DecidableEq

/-- The stored `summomNums`, the pairs on their way, and the book the request has yet to store. -/
structure Flight where
  summomNums : Int
  pairs : List Pair
  heroInfo : Option Int
  deriving DecidableEq

inductive Move
  | pair (i : Nat)
  | heroInfo
  deriving DecidableEq

/-- `func`. -/
def addSummon (level summomNums : Int) : Int := if level ≠ 10 then summomNums + 1 else summomNums

def advance (level : Int) (flight : Flight) : Move → Flight
  | .pair i =>
    match flight.pairs[i]? with
    | none => flight
    | some .asked => { flight with pairs := flight.pairs.set i (.answered flight.summomNums) }
    | some (.answered summomNums) => { flight with pairs := flight.pairs.set i (.saving (addSummon level summomNums)) }
    | some (.saving summomNums) => { flight with summomNums, pairs := flight.pairs.eraseIdx i }
  | .heroInfo =>
    match flight.heroInfo with
    | none => flight
    | some summomNums => { flight with summomNums, heroInfo := none }

def Flight.landed (flight : Flight) : Prop := flight.pairs = [] ∧ flight.heroInfo = none

/-! ### Requests -/

/-- What the handler grants, and whether the request reads and stores the book as its `heroInfo`: without a hero's
id, that is the entry it names. -/
structure Granting where
  exps : List Int
  ownsBook : Bool

/-- The player after the grants, and the levels at which the book was asked for. -/
def grantAll (table : Exprience) (exps : List Int) (object : Grown) : Grown × List Int :=
  exps.foldl (fun granted exp =>
    let added := addPlayerExp table exp granted.1
    (added.1, granted.2 ++ added.2)) (object, [])

def takeOff (table : Exprience) (request : Granting) (object : Grown) (summomNums : Int) : Flight :=
  ⟨summomNums, (grantAll table request.exps object).2.map fun _ => .asked, if request.ownsBook then some summomNums else none⟩

/-- The summons for the levels after the first up to the last. -/
def owed (first last : Int) : Nat :=
  ((@Finset.Ioc Int _ Int.instLocallyFiniteOrder first last).filter fun level => 5 ∣ level ∧ level ≠ 10).card

/-- In whatever order the moves come. -/
def SummonsRight (table : Exprience) (request : Granting) (object : Grown) (summomNums : Int) : Prop :=
  let last := (grantAll table request.exps object).1.level
  ∀ moves, (run (advance last) (takeOff table request object summomNums) moves).landed →
    (run (advance last) (takeOff table request object summomNums) moves).summomNums = summomNums + owed object.level last

/-- At most one multiple of five is passed: ten, when the player stays there, or another within the limit, when the
request does not store the book. -/
def OneSummon (table : Exprience) (request : Granting) (object : Grown) : Prop :=
  let granted := grantAll table request.exps object
  granted.2 = [] ∨ granted.2 = [10] ∧ granted.1.level = 10 ∨
    ∃ level, granted.2 = [level] ∧ level ≠ 10 ∧ level ≤ granted.1.level ∧ request.ownsBook = false

/-! ### The levels passed -/

section
variable {table : Exprience} {object : Grown}

/-- A climb asks at every multiple of five it passes, once. -/
theorem climbAsking_levels (table : Exprience) (object : Grown) (start : 1 ≤ object.level) :
    (∀ level, level ∈ (climbAsking table object).2 ↔
      object.level < level ∧ level ≤ (climbAsking table object).1.level ∧ 5 ∣ level) ∧
    (climbAsking table object).2.Pairwise (· < ·) := by
  suffices (object.level ≤ (climbAsking table object).1.level) ∧ (∀ level, level ∈ (climbAsking table object).2 ↔
      object.level < level ∧ level ≤ (climbAsking table object).1.level ∧ 5 ∣ level) ∧
    (climbAsking table object).2.Pairwise (· < ·) from this.2
  apply whileDo_keeps (P := fun state : Grown × List Int => object.level ≤ state.1.level ∧
    (∀ level, level ∈ state.2 ↔ object.level < level ∧ level ≤ state.1.level ∧ 5 ∣ level) ∧
    state.2.Pairwise (· < ·)) upgradeAsking_lowers
  · intro state _ ⟨above, levels, sorted⟩
    unfold upgradeAsking upgrade
    dsimp only
    refine ⟨by omega, ?_⟩
    by_cases five : state.1.level + 1 ≠ 0 ∧ (state.1.level + 1) % 5 = 0
    · rw [if_pos five]
      refine ⟨?_, List.pairwise_append.mpr ⟨sorted, List.pairwise_singleton _ _, ?_⟩⟩
      · intro level
        rw [List.mem_append, List.mem_singleton, levels]
        omega
      · intro before passed next same
        have bound := (levels before).mp passed
        rw [List.mem_singleton] at same
        omega
    · rw [if_neg five]
      refine ⟨?_, sorted⟩
      intro level
      rw [levels]
      omega
  · refine ⟨le_refl _, ?_, List.Pairwise.nil⟩
    intro level
    simp only [List.not_mem_nil, false_iff]
    omega

/-- What is known of the levels passed on the way from `first` to `last`. -/
structure Passed (first last : Int) (levels : List Int) : Prop where
  above : ∀ level ∈ levels, first < level ∧ 5 ∣ level
  all : ∀ level, first < level → level ≤ last → 5 ∣ level → level ∈ levels
  sorted : last < playerLevelLimit → levels.Pairwise (· < ·) ∧ ∀ level ∈ levels, level ≤ last

theorem addPlayerExp_passed (table : Exprience) (object : Grown) (exp : Int) (start : 1 ≤ object.level) :
    (∀ level, level ∈ (addPlayerExp table exp object).2 ↔
      object.level < level ∧ level ≤ uncapped table object exp ∧ 5 ∣ level) ∧
    (addPlayerExp table exp object).2.Pairwise (· < ·) ∧
    (addPlayerExp table exp object).1.level = limitLevel (uncapped table object exp) := by
  have alive : object.level ≠ 0 := by omega
  have levels := climbAsking_levels table (object.granted exp) start
  have same : (addPlayerExp table exp object).2 = (climbAsking table (object.granted exp)).2 := by
    unfold addPlayerExp calExpAndLevel
    dsimp only
    rw [if_pos alive]
    rfl
  rw [same, addPlayerExp_eq alive]
  rw [climbAsking_fst] at levels
  exact ⟨levels.1, levels.2, rfl⟩

theorem grantAll_snoc (table : Exprience) (exps : List Int) (exp : Int) (object : Grown) :
    grantAll table (exps ++ [exp]) object =
      ((addPlayerExp table exp (grantAll table exps object).1).1,
        (grantAll table exps object).2 ++ (addPlayerExp table exp (grantAll table exps object).1).2) := by
  simp [grantAll]

theorem grantAll_passed (table : Exprience) (exps : List Int) (start : 1 ≤ object.level) (within : object.level ≤ playerLevelLimit) :
    object.level ≤ (grantAll table exps object).1.level ∧ (grantAll table exps object).1.level ≤ playerLevelLimit ∧
      Passed object.level (grantAll table exps object).1.level (grantAll table exps object).2 := by
  induction exps using List.reverseRecOn with
  | nil =>
    refine ⟨le_refl _, within, ?_, ?_, ?_⟩
    · simp [grantAll]
    · intro level low high
      simp only [grantAll, List.foldl_nil] at high
      omega
    · simp [grantAll]
  | append_singleton exps exp ih =>
    obtain ⟨higher, capped, passed⟩ := ih
    rw [grantAll_snoc]
    dsimp only
    generalize grantAll table exps object = before at *
    obtain ⟨levels, sorted, reached⟩ := addPlayerExp_passed table before.1 exp (by omega)
    have climbed : before.1.level ≤ uncapped table before.1 exp := climb_level_le table (before.1.granted exp)
    rw [reached]
    have cut : limitLevel (uncapped table before.1 exp) ≤ uncapped table before.1 exp ∧
        before.1.level ≤ limitLevel (uncapped table before.1 exp) ∧
        limitLevel (uncapped table before.1 exp) ≤ playerLevelLimit ∧
        (limitLevel (uncapped table before.1 exp) < playerLevelLimit →
          limitLevel (uncapped table before.1 exp) = uncapped table before.1 exp) := by
      unfold limitLevel
      split <;> omega
    refine ⟨by omega, cut.2.2.1, ?_, ?_, ?_⟩
    · intro level found
      rcases List.mem_append.mp found with earlier | later
      · exact passed.above level earlier
      · have bound := (levels level).mp later
        exact ⟨by omega, bound.2.2⟩
    · intro level low high five
      rw [List.mem_append]
      by_cases early : level ≤ before.1.level
      · exact .inl (passed.all level low early five)
      · exact .inr ((levels level).mpr ⟨by omega, by omega, five⟩)
    · intro below
      have whole := cut.2.2.2 below
      obtain ⟨ascending, bounded⟩ := passed.sorted (by omega)
      refine ⟨List.pairwise_append.mpr ⟨ascending, sorted, ?_⟩, ?_⟩
      · intro level earlier next later
        have low := bounded level earlier
        have high := (levels next).mp later
        omega
      · intro level found
        rcases List.mem_append.mp found with earlier | later
        · have low := bounded level earlier
          omega
        · have high := (levels level).mp later
          omega

end

/-! ### What is owed -/

section
variable {first last level : Int} {levels : List Int}

theorem owed_nothing (passed : Passed first last []) : owed first last = 0 := by
  unfold owed
  rw [Finset.card_eq_zero, Finset.filter_eq_empty_iff]
  intro level inside ⟨five, _⟩
  rw [Finset.mem_Ioc] at inside
  have found := passed.all level inside.1 inside.2 five
  simp at found

theorem owed_one (passed : Passed first last [level]) (within : level ≤ last) (other : level ≠ 10) : owed first last = 1 := by
  unfold owed
  rw [Finset.card_eq_one]
  refine ⟨level, ?_⟩
  ext next
  rw [Finset.mem_filter, Finset.mem_Ioc, Finset.mem_singleton]
  have above := passed.above level (List.mem_singleton_self _)
  constructor
  · intro ⟨inside, five, _⟩
    exact List.mem_singleton.mp (passed.all next inside.1 inside.2 five)
  · intro same
    rw [same]
    exact ⟨⟨above.1, within⟩, above.2, other⟩

theorem owed_none_of (passed : Passed first last [level]) (beyond : level = 10 ∨ last < level) : owed first last = 0 := by
  unfold owed
  rw [Finset.card_eq_zero, Finset.filter_eq_empty_iff]
  intro next inside ⟨five, other⟩
  rw [Finset.mem_Ioc] at inside
  have same := List.mem_singleton.mp (passed.all next inside.1 inside.2 five)
  omega

/-- Whoever passes two multiples of five and stays at ten has passed five. -/
theorem owed_at_ten {a b : Int} {rest : List Int} (passed : Passed first 10 (a :: b :: rest)) : owed first 10 ≠ 0 := by
  obtain ⟨sorted, bounded⟩ := passed.sorted (by decide)
  have low := passed.above a (by simp)
  have high := bounded b (by simp)
  have next := passed.above b (by simp)
  have ascending : a < b := List.rel_of_pairwise_cons sorted (by simp)
  unfold owed
  rw [Finset.card_ne_zero]
  refine ⟨a, ?_⟩
  rw [Finset.mem_filter, Finset.mem_Ioc]
  omega

end

/-! ### The moves -/

section
variable {level n : Int}

theorem addSummon_ten : addSummon 10 n = n := rfl

theorem addSummon_other (other : level ≠ 10) : addSummon level n = n + 1 := if_pos other

theorem addSummon_iterate (other : level ≠ 10) (k : Nat) : (addSummon level)^[k] n = n + k := by
  induction k generalizing n with
  | zero => simp
  | succ k ih =>
    rw [Function.iterate_succ_apply, addSummon_other other, ih]
    omega

/-- The pairs at the front go through one after another. -/
theorem run_oneByOne (level n : Int) (k : Nat) (rest : List Pair) (heroInfo : Option Int) :
    run (advance level) ⟨n, List.replicate k .asked ++ rest, heroInfo⟩ (List.replicate (3 * k) (.pair 0)) =
      ⟨(addSummon level)^[k] n, rest, heroInfo⟩ := by
  induction k generalizing n with
  | zero => rfl
  | succ k ih =>
    rw [show 3 * (k + 1) = 3 * k + 1 + 1 + 1 by omega, List.replicate_succ, List.replicate_succ, List.replicate_succ,
      List.replicate_succ, List.cons_append]
    exact ih (addSummon level n)

/-- The last pair has read before the others and writes after them. -/
theorem run_stale (level n : Int) (k : Nat) :
    run (advance level) ⟨n, List.replicate (k + 1) .asked, none⟩
      (.pair k :: List.replicate (3 * k) (.pair 0) ++ [.pair 0, .pair 0]) = ⟨addSummon level n, [], none⟩ := by
  have read : advance level ⟨n, List.replicate (k + 1) .asked, none⟩ (.pair k) =
      ⟨n, List.replicate k .asked ++ [.answered n], none⟩ := by
    rw [List.replicate_succ']
    simp [advance]
  rw [List.cons_append, run_cons, read, run_append, run_oneByOne]
  rfl

/-- With ten in the end, or without a pair, the number stays what it is. -/
def Still (level n : Int) (flight : Flight) : Prop :=
  flight.summomNums = n ∧ (∀ pair ∈ flight.pairs, level = 10 ∧ (pair = .asked ∨ pair = .answered n ∨ pair = .saving n)) ∧
    ∀ book, flight.heroInfo = some book → book = n

theorem advance_still {flight : Flight} (still : Still level n flight) (move : Move) : Still level n (advance level flight move) := by
  obtain ⟨same, pairs, book⟩ := still
  cases move with
  | heroInfo =>
    cases own : flight.heroInfo with
    | none =>
      simp only [advance, own]
      exact ⟨same, pairs, book⟩
    | some summomNums =>
      simp only [advance, own]
      exact ⟨book summomNums own, pairs, by simp⟩
  | pair i =>
    cases at_ : flight.pairs[i]? with
    | none =>
      simp only [advance, at_]
      exact ⟨same, pairs, book⟩
    | some pair =>
      have known := pairs pair (List.mem_of_getElem? at_)
      have setting (next : Pair) (fits : next = .asked ∨ next = .answered n ∨ next = .saving n) :
          ∀ pair ∈ flight.pairs.set i next, level = 10 ∧ (pair = .asked ∨ pair = .answered n ∨ pair = .saving n) := by
        intro other found
        rcases List.mem_or_eq_of_mem_set found with old | new
        · exact pairs other old
        · exact ⟨known.1, new ▸ fits⟩
      cases pair with
      | asked =>
        simp only [advance, at_, same]
        exact ⟨rfl, setting _ (by simp), book⟩
      | answered summomNums =>
        have read : summomNums = n := by simpa using known.2
        simp only [advance, at_, read, known.1, addSummon_ten]
        refine ⟨same, ?_, book⟩
        have all := setting (.saving n) (by simp)
        rw [known.1] at all
        exact all
      | saving summomNums =>
        have read : summomNums = n := by simpa using known.2
        simp only [advance, at_, read]
        exact ⟨rfl, fun other found => pairs other (List.mem_of_mem_eraseIdx found), book⟩

/-- One pair alone. -/
def Alone (level n : Int) (flight : Flight) : Prop :=
  flight = ⟨n, [.asked], none⟩ ∨ flight = ⟨n, [.answered n], none⟩ ∨
    flight = ⟨n, [.saving (addSummon level n)], none⟩ ∨ flight = ⟨addSummon level n, [], none⟩

theorem advance_alone {flight : Flight} (alone : Alone level n flight) (move : Move) : Alone level n (advance level flight move) := by
  cases move with
  | heroInfo =>
    rcases alone with rfl | rfl | rfl | rfl <;> simp [Alone, advance]
  | pair i =>
    cases i with
    | zero => rcases alone with rfl | rfl | rfl | rfl <;> simp [Alone, advance]
    | succ i => rcases alone with rfl | rfl | rfl | rfl <;> simp [Alone, advance]

end

/-! ### Requests as a whole -/

section
variable {table : Exprience} {request : Granting} {object : Grown} {n : Int}

theorem takeOff_eq (table : Exprience) (request : Granting) (object : Grown) (n : Int) : takeOff table request object n =
    ⟨n, List.replicate (grantAll table request.exps object).2.length .asked ++ [],
      if request.ownsBook then some n else none⟩ := by
  simp [takeOff, List.map_const']

/-- The request stores its book first, and then the pairs come one after another. -/
theorem lands_oneByOne (right : SummonsRight table request object n) :
    (addSummon (grantAll table request.exps object).1.level)^[(grantAll table request.exps object).2.length] n =
      n + owed object.level (grantAll table request.exps object).1.level := by
  have lands := right (.heroInfo :: List.replicate (3 * (grantAll table request.exps object).2.length) (.pair 0))
  have first : advance (grantAll table request.exps object).1.level (takeOff table request object n) .heroInfo =
      ⟨n, List.replicate (grantAll table request.exps object).2.length .asked ++ [], none⟩ := by
    rw [takeOff_eq]
    cases request.ownsBook <;> rfl
  rw [run_cons, first, run_oneByOne] at lands
  exact lands ⟨rfl, rfl⟩

/-- The request stores its book first, the last pair reads, and the others come between. -/
theorem lands_stale {k : Nat} (right : SummonsRight table request object n)
    (count : (grantAll table request.exps object).2.length = k + 1) :
    addSummon (grantAll table request.exps object).1.level n =
      n + owed object.level (grantAll table request.exps object).1.level := by
  have lands := right (.heroInfo :: (.pair k :: List.replicate (3 * k) (.pair 0) ++ [.pair 0, .pair 0]))
  have first : advance (grantAll table request.exps object).1.level (takeOff table request object n) .heroInfo =
      ⟨n, List.replicate (k + 1) .asked, none⟩ := by
    rw [takeOff_eq, count, List.append_nil]
    cases request.ownsBook <;> rfl
  rw [run_cons, first, run_stale] at lands
  exact lands ⟨rfl, rfl⟩

/-- The request stores its book last. -/
theorem lands_overwritten (right : SummonsRight table request object n) (own : request.ownsBook = true) :
    owed object.level (grantAll table request.exps object).1.level = 0 := by
  have lands := right (List.replicate (3 * (grantAll table request.exps object).2.length) (.pair 0) ++ [.heroInfo])
  rw [takeOff_eq, own, if_pos rfl, run_append, run_oneByOne] at lands
  have same : n = n + owed object.level (grantAll table request.exps object).1.level := lands ⟨rfl, rfl⟩
  omega

theorem summonsRight_of_still (owes : owed object.level (grantAll table request.exps object).1.level = 0)
    (pairs : (grantAll table request.exps object).2 = [] ∨ (grantAll table request.exps object).1.level = 10) :
    SummonsRight table request object n := by
  intro moves landed
  have start : Still (grantAll table request.exps object).1.level n (takeOff table request object n) := by
    refine ⟨rfl, ?_, ?_⟩
    · intro pair found
      obtain ⟨level, asked, rfl⟩ := List.mem_map.mp found
      rcases pairs with none_ | ten
      · rw [none_] at asked
        simp at asked
      · exact ⟨ten, .inl rfl⟩
    · intro book own
      simp only [takeOff] at own
      split at own
      · exact (Option.some.inj own).symm
      · cases own
  have still := run_keeps (Still (grantAll table request.exps object).1.level n) (fun _ move holds => advance_still holds move) start moves
  rw [still.1, owes]
  simp

theorem summonsRight_of_alone {level : Int} (owes : owed object.level (grantAll table request.exps object).1.level = 1)
    (one : (grantAll table request.exps object).2 = [level]) (other : (grantAll table request.exps object).1.level ≠ 10)
    (own : request.ownsBook = false) : SummonsRight table request object n := by
  intro moves landed
  have start : Alone (grantAll table request.exps object).1.level n (takeOff table request object n) := by
    left
    rw [takeOff_eq, one, own]
    rfl
  have alone := run_keeps (Alone (grantAll table request.exps object).1.level n) (fun _ move holds => advance_alone holds move) start moves
  rcases alone with end_ | end_ | end_ | end_
  · simp [Flight.landed, end_] at landed
  · simp [Flight.landed, end_] at landed
  · simp [Flight.landed, end_] at landed
  · rw [end_, owes]
    exact addSummon_other other

end

/-- The levels of a player lie between one and the limit. -/
theorem summons_right (table : Exprience) (request : Granting) (object : Grown) (n : Int) (start : 1 ≤ object.level)
    (within : object.level ≤ playerLevelLimit) : SummonsRight table request object n ↔ OneSummon table request object := by
  obtain ⟨-, -, passed⟩ := grantAll_passed table request.exps start within
  constructor
  · intro right
    have inOrder := lands_oneByOne right
    unfold OneSummon
    dsimp only
    cases levels : (grantAll table request.exps object).2 with
    | nil => exact .inl rfl
    | cons level rest =>
      right
      rw [levels] at passed inOrder
      by_cases ten : (grantAll table request.exps object).1.level = 10
      · left
        rw [ten] at passed inOrder
        have still : (addSummon 10)^[(level :: rest).length] n = n :=
          Function.iterate_fixed addSummon_ten _
        cases rest with
        | nil =>
          have low := (passed.sorted (by decide)).2 level (by simp)
          by_cases same : level = 10
          · exact ⟨by rw [same], ten⟩
          · have owes := owed_one passed low same
            omega
        | cons next rest => exact absurd (by omega) (owed_at_ten passed)
      · right
        have late := lands_stale right (by rw [levels]; rfl)
        rw [addSummon_other ten] at late
        rw [addSummon_iterate ten] at inOrder
        simp only [List.length_cons] at inOrder
        have alone : rest = [] := List.length_eq_zero_iff.mp (by omega)
        subst alone
        refine ⟨level, rfl, ?_, ?_, ?_⟩
        · intro same
          have owes := owed_none_of passed (.inl same)
          omega
        · by_contra beyond
          have owes := owed_none_of passed (.inr (by omega))
          omega
        · apply Bool.eq_false_iff.mpr
          intro own
          have owes := lands_overwritten right own
          omega
  · intro one
    rcases one with none_ | ⟨levels, ten⟩ | ⟨level, levels, other, low, own⟩
    · rw [none_] at passed
      exact summonsRight_of_still (owed_nothing passed) (.inl none_)
    · rw [levels] at passed
      exact summonsRight_of_still (owed_none_of passed (.inl rfl)) (.inr ten)
    · rw [levels] at passed
      apply summonsRight_of_alone (owed_one passed low other) levels _ own
      intro ten
      -- at ten, whoever has passed five has passed ten as well
      have above := passed.above level (by simp)
      have found := passed.all 10 (by omega) (by omega) (by decide)
      rw [List.mem_singleton] at found
      omega

/-- Every level costs ten. -/
def flatLevels : Exprience := ⟨fun _ => some 10, fun _ _ found => by cases found; decide⟩

theorem summons_right_at_five : OneSummon flatLevels ⟨[20], false⟩ ⟨4, 0⟩ ∧ SummonsRight flatLevels ⟨[20], false⟩ ⟨4, 0⟩ 3 := by
  have one : OneSummon flatLevels ⟨[20], false⟩ ⟨4, 0⟩ := .inr (.inr ⟨5, by decide, by decide, by decide, rfl⟩)
  exact ⟨one, (summons_right flatLevels ⟨[20], false⟩ ⟨4, 0⟩ 3 (by decide) (by decide)).mpr one⟩

/-- Level ten is passed on the way from nine to eleven, and a summon comes of it. Two pairs that read the book at one time
leave one summon for fifteen and twenty. -/
theorem summons_wrong : ¬ SummonsRight flatLevels ⟨[20], false⟩ ⟨9, 0⟩ 3 ∧ ¬ SummonsRight flatLevels ⟨[60], false⟩ ⟨14, 0⟩ 3 := by
  refine ⟨fun right => ?_, fun right => ?_⟩
  · have lands := right [.pair 0, .pair 0, .pair 0] ⟨by decide, by decide⟩
    revert lands
    decide
  · have lands := right [.pair 0, .pair 1, .pair 0, .pair 1, .pair 0, .pair 0] ⟨by decide, by decide⟩
    revert lands
    decide

end Tinygame.Hero
