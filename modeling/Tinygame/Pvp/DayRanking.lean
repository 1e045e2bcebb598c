import Tinygame.Pvp.Bracket
import Tinygame.Pvp.DayFight

/-!
# The ranking of the day tournament

`_fightPvpDay` of `pvp_imp.js`: robots make the enrolled players a hundred, the rounds are fought
until they end, the best eight that are left fight the bracket, and everybody is ranked. The order
`sort` leaves entries in is a parameter, and so are the outcomes of all fights.
-/

namespace Tinygame.DayFight

section
variable {π κ : Type} [DecidableEq κ]

def robots (size : Nat) : List UserArea := (List.range size).map fun i => ⟨"0", toString (i + 1)⟩

/-- The enrolled players, then the robots. -/
def gather (area : String) (uuids : List String) : List UserArea :=
  uuids.map (⟨area, ·⟩) ++ robots (100 - uuids.length)

/-- The bracket. An array of fewer than eight has no area to read for the others, which throws. -/
def fightF8 (key : π → κ) (outcome : Pvp.Round → Entrant → Entrant → Pvp.Fought π) (playerInfoList : List π)
    (userArea : List Entrant) : Option (List Entrant) :=
  if userArea.length < 8 then none
  else
    let userArea1 := Pvp.entries [userArea[0]?, userArea[2]?, userArea[4]?, userArea[6]?]
    let userArea2 := Pvp.entries [userArea[1]?, userArea[3]?, userArea[5]?, userArea[7]?]
    match (Pvp.fight4 key (fun round ua1 ua2 => .ok (outcome round ua1 ua2)) userArea1 userArea2
      ⟨⟨playerInfoList, fun _ => []⟩, [], []⟩ : Except Empty _) with
    | .ok (_, final8) => some final8
    | .error e => nomatch e

/-- What follows the rounds. `none` where the callback is not called. -/
def finalSort (sort : List Entrant → List Entrant) (fightF8 : List Entrant → Option (List Entrant))
    (remainUserArea : List Entrant) (sortResult : SortResult) : Option (List Entrant) :=
  if remainUserArea.length < 8 then none
  else
    let remainUserArea := sort remainUserArea
    -- exactly eight are not handed over
    let (f8, userArea) :=
      if remainUserArea.length > 8 then
        (remainUserArea.take 8, (remainUserArea.drop 8).foldl (fun userArea ua => ua :: userArea) sortResult.userArea)
      else ([], sortResult.userArea)
    (fightF8 f8).map (· ++ userArea)

/-- A call, when the store answers. -/
def call (robot : UserArea → Option Nat) (day : Day) (outcome : Outcome) : Day :=
  step robot day (.ok outcome : Except Empty Outcome)

/-- The calls ten rounds can take. -/
def calls (size : Nat) : Nat := 10 * (size + 2) + 1

def rounds (robot : UserArea → Option Nat) (entrants : List UserArea) (ticketDay : UserArea → Int)
    (lists : UserArea → List FightInfo) (outcomes : List Outcome) : Day :=
  run (call robot) (start entrants ticketDay lists) outcomes

def fightPvpDay (sort : List Entrant → List Entrant) (fightF8 : List Entrant → Option (List Entrant)) (day : Day) :
    Option (List Entrant) :=
  match day.stage with
  | .finished remainUserArea => finalSort sort fightF8 remainUserArea day.sortResult
  | _ => none

end

/-! ### Nobody is lost -/

/-- Everybody who is in or out. -/
def Day.everyone (day : Day) : List UserArea := (day.field ++ day.sortResult.userArea).map Entrant.ua

/-- The two that fight next are not played by one robot. -/
def Fair (robot : UserArea → Option Nat) (day : Day) : Prop :=
  ∀ ua1 ua2 rest1 rest2 sOne, day.stage = .fight2Array (ua1 :: rest1) (ua2 :: rest2) sOne →
    ¬ (robot ua1.ua ≠ none ∧ robot ua1.ua = robot ua2.ua)

section
variable {robot : UserArea → Option Nat} {day : Day}

theorem insert_perm (s : SortResult) (ua : UserArea) :
    (insertEltToSortResult s ua).userArea.Perm (⟨ua, none⟩ :: s.userArea) := by
  unfold insertEltToSortResult
  refine List.perm_middle.trans ?_
  rw [List.takeWhile_append_dropWhile]

/-- A side of a fight is in or out. -/
theorem place_perm (playerInfo : UserArea) (tickets : Int) (remain : List Entrant) (s : SortResult) :
    (((place playerInfo tickets remain s).1 ++ (place playerInfo tickets remain s).2.userArea).map Entrant.ua).Perm
      (playerInfo :: (remain ++ s.userArea).map Entrant.ua) := by
  unfold place
  split
  · rw [List.append_assoc]
    exact List.perm_middle.map Entrant.ua
  · have out := ((insert_perm s playerInfo).append_left remain).trans List.perm_middle
    exact out.map Entrant.ua

theorem calFightResult_perm (robot : UserArea → Option Nat) (ua1 ua2 : UserArea) (outcome : Outcome) (day : Day) :
    (((calFightResult robot ua1 ua2 outcome day).remainUserArea ++
        (calFightResult robot ua1 ua2 outcome day).sortResult.userArea).map Entrant.ua).Perm
      ((playerInfos robot ua1 ua2).1 :: (playerInfos robot ua1 ua2).2 ::
        (day.remainUserArea ++ day.sortResult.userArea).map Entrant.ua) := by
  refine ((place_perm _ _ _ _).trans ((place_perm _ _ _ _).cons _)).trans (List.Perm.swap ..)

theorem call_fight (robot : UserArea → Option Nat) {ua1 ua2 : Entrant} {rest1 rest2 : List Entrant} {sOne : Option Entrant}
    (stage : day.stage = .fight2Array (ua1 :: rest1) (ua2 :: rest2) sOne) (outcome : Outcome) :
    call robot day outcome =
      { calFightResult robot ua1.ua ua2.ua outcome (noteBoth ua1.ua ua2.ua day) with
        stage := .fight2Array rest1 rest2 sOne } := by
  rw [call, step, stage]

/-- A fight finds everybody else where they were. Of two robots played by one entry it takes the first
for the second. -/
theorem everyone_fight (robot : UserArea → Option Nat) {ua1 ua2 : Entrant} {rest1 rest2 : List Entrant}
    {sOne : Option Entrant} (stage : day.stage = .fight2Array (ua1 :: rest1) (ua2 :: rest2) sOne) (outcome : Outcome) :
    ∃ others, day.everyone.Perm (ua1.ua :: ua2.ua :: others) ∧
      (call robot day outcome).everyone.Perm
        ((playerInfos robot ua1.ua ua2.ua).1 :: (playerInfos robot ua1.ua ua2.ua).2 :: others) := by
  have sides := calFightResult_perm robot ua1.ua ua2.ua outcome (noteBoth ua1.ua ua2.ua day)
  have moved := call_fight robot stage outcome
  refine ⟨(rest1 ++ rest2 ++ sOne.toList).map Entrant.ua ++
    (day.remainUserArea ++ day.sortResult.userArea).map Entrant.ua, ?_, ?_⟩
  · refine List.perm_iff_count.mpr fun ua => ?_
    simp only [Day.everyone, Day.field, stage, List.map_append, List.map_cons, List.count_append, List.count_cons]
    omega
  · refine List.perm_iff_count.mpr fun ua => ?_
    have counted := sides.count_eq ua
    rw [moved]
    simp only [Day.everyone, Day.field, noteBoth, List.map_append, List.count_append, List.count_cons] at counted ⊢
    omega

/-- What a call that answers can do to the rounds. -/
structure Underway (day : Day) : Prop where
  rounds : day.count ≤ 10
  arrays : ∀ userArea1 userArea2 sOne, day.stage = .fight2Array userArea1 userArea2 sOne →
    userArea1.length = userArea2.length ∧ day.count < 10
  answered : day.stage ≠ .failed

theorem call_moves (robot : UserArea → Option Nat) (day : Day) (outcome : Outcome) :
    Moves robot day (.ok outcome : Except Empty Outcome) (call robot day outcome) := step_moves robot day _

theorem underway_call (underway : Underway day) (outcome : Outcome) : Underway (call robot day outcome) := by
  obtain ⟨rounds, arrays, answered⟩ := underway
  generalize moved : call robot day outcome = day'
  have moves := call_moves robot day outcome
  rw [moved] at moves
  cases moves with
  | close _ stage => exact ⟨rounds, by simp, by simp⟩
  | pair _ stage more =>
    rename_i userArea
    refine ⟨rounds, fun userArea1 userArea2 sOne same => ?_, by simp⟩
    obtain ⟨first, second⟩ := split_even userArea
    cases same
    rw [List.length_reverse, List.length_reverse, first, second]
    exact ⟨rfl, more.1⟩
  | fight outcome stage =>
    refine ⟨rounds, fun userArea1 userArea2 sOne same => ?_, by simp⟩
    obtain ⟨even, early⟩ := arrays _ _ _ stage
    cases same
    exact ⟨Nat.succ.inj even, early⟩
  | next _ stage =>
    have early := (arrays _ _ _ stage).2
    exact ⟨early, by simp, by simp⟩
  | stopped _ stage => exact ⟨rounds, arrays, answered⟩

/-- The other calls keep everybody. -/
theorem everyone_call (underway : Underway day)
    (calm : ∀ ua1 ua2 rest1 rest2 sOne, day.stage ≠ .fight2Array (ua1 :: rest1) (ua2 :: rest2) sOne)
    (outcome : Outcome) : (call robot day outcome).everyone.Perm day.everyone := by
  generalize moved : call robot day outcome = day'
  have moves := call_moves robot day outcome
  rw [moved] at moves
  cases moves with
  | close _ stage =>
    simp only [Day.everyone, Day.field, stage]
    exact .refl _
  | pair _ stage =>
    simp only [Day.everyone, Day.field, stage, List.append_nil]
    exact ((round_perm _).append_right _).map _
  | fight outcome stage => exact (calm _ _ _ _ _ stage).elim
  | next _ stage fought =>
    rename_i userArea1 userArea2 sOne
    have even := (underway.arrays _ _ _ stage).1
    have both : userArea1 = [] ∧ userArea2 = [] := by
      rcases fought with rfl | rfl
      · exact ⟨rfl, List.length_eq_zero_iff.mp even.symm⟩
      · exact ⟨List.length_eq_zero_iff.mp even, rfl⟩
    obtain ⟨rfl, rfl⟩ := both
    refine List.perm_iff_count.mpr fun ua => ?_
    simp only [Day.everyone, Day.field, stage, List.map_append, List.map_nil, List.count_append, List.count_nil]
    omega
  | stopped _ stage => exact .refl _

theorem everyone_fair (underway : Underway day) (fair : Fair robot day) (outcome : Outcome) :
    (call robot day outcome).everyone.Perm day.everyone := by
  by_cases calm : ∀ ua1 ua2 rest1 rest2 sOne, day.stage ≠ .fight2Array (ua1 :: rest1) (ua2 :: rest2) sOne
  · exact everyone_call underway calm outcome
  · push Not at calm
    obtain ⟨ua1, ua2, rest1, rest2, sOne, stage⟩ := calm
    obtain ⟨others, before, after⟩ := everyone_fight robot stage outcome
    rw [playerInfos, if_neg (fair _ _ _ _ _ stage)] at after
    exact after.trans before.symm

/-- Two that one robot plays: the first is nowhere any more. -/
theorem everyone_unfair (distinct : day.everyone.Nodup) (unfair : ¬ Fair robot day) (outcome : Outcome) :
    ∃ ua ∈ day.everyone, ua ∉ (call robot day outcome).everyone := by
  unfold Fair at unfair
  push Not at unfair
  obtain ⟨ua1, ua2, rest1, rest2, sOne, stage, played⟩ := unfair
  obtain ⟨others, before, after⟩ := everyone_fight robot stage outcome
  rw [playerInfos, if_pos played] at after
  have once := before.nodup_iff.mp distinct
  refine ⟨ua1.ua, before.mem_iff.mpr (List.mem_cons_self ..), fun there => ?_⟩
  have again := after.mem_iff.mp there
  simp only [List.nodup_cons, List.mem_cons] at once again
  tauto

/-- Nobody comes in. -/
theorem everyone_subset (underway : Underway day) (outcome : Outcome) :
    (call robot day outcome).everyone ⊆ day.everyone := by
  by_cases calm : ∀ ua1 ua2 rest1 rest2 sOne, day.stage ≠ .fight2Array (ua1 :: rest1) (ua2 :: rest2) sOne
  · exact (everyone_call underway calm outcome).subset
  · push Not at calm
    obtain ⟨ua1, ua2, rest1, rest2, sOne, stage⟩ := calm
    obtain ⟨others, before, after⟩ := everyone_fight robot stage outcome
    obtain ⟨first, second⟩ := playerInfos_mem robot ua1.ua ua2.ua
    intro ua there
    have present := after.mem_iff.mp there
    refine before.mem_iff.mpr ?_
    simp only [List.mem_cons] at present ⊢
    rcases present with rfl | rfl | other
    · tauto
    · tauto
    · tauto

theorem start_underway (entrants : List UserArea) (ticketDay : UserArea → Int) (lists : UserArea → List FightInfo) :
    Underway (start entrants ticketDay lists) := ⟨Nat.zero_le _, by simp [start], by simp [start]⟩

theorem underway_run (underway : Underway day) (outcomes : List Outcome) : Underway (run (call robot) day outcomes) :=
  run_keeps Underway (fun _ outcome underway => underway_call underway outcome) underway outcomes

/-- Calls that are all fair keep everybody. -/
theorem everyone_run (underway : Underway day) (outcomes : List Outcome)
    (fair : Along (call robot) (fun day _ => Fair robot day) day outcomes) :
    (run (call robot) day outcomes).everyone.Perm day.everyone := by
  induction outcomes generalizing day with
  | nil => exact .refl _
  | cons outcome rest ih =>
    exact (ih (underway_call underway outcome) fair.2).trans (everyone_fair underway fair.1 outcome)

theorem subset_run (underway : Underway day) (outcomes : List Outcome) :
    (run (call robot) day outcomes).everyone ⊆ day.everyone := by
  induction outcomes generalizing day with
  | nil => exact fun _ there => there
  | cons outcome rest ih => exact List.Subset.trans (ih (underway_call underway outcome)) (everyone_subset underway outcome)

/-- Whoever is lost in a call is not found again. -/
theorem lost_run (underway : Underway day) (distinct : day.everyone.Nodup) (outcomes : List Outcome)
    (unfair : ¬ Along (call robot) (fun day _ => Fair robot day) day outcomes) :
    ∃ ua ∈ day.everyone, ua ∉ (run (call robot) day outcomes).everyone := by
  induction outcomes generalizing day with
  | nil => exact absurd trivial unfair
  | cons outcome rest ih =>
    by_cases fair : Fair robot day
    · have kept := everyone_fair underway fair outcome
      obtain ⟨ua, there, lost⟩ := ih (underway_call underway outcome) (kept.nodup_iff.mpr distinct)
        fun later => unfair ⟨fair, later⟩
      exact ⟨ua, kept.mem_iff.mp there, lost⟩
    · obtain ⟨ua, there, lost⟩ := everyone_unfair distinct fair outcome
      exact ⟨ua, there, fun again => lost (subset_run (underway_call underway outcome) rest again)⟩

/-! ### The rounds end -/

/-- How many calls are to come at most, with `size` entries in or out. -/
def Day.toCome (size : Nat) (day : Day) : Nat :=
  match day.stage with
  | .fightOne _ => (10 - day.count) * (size + 2) + 1
  | .fight2Array userArea1 _ _ => (9 - day.count) * (size + 2) + userArea1.length + 2
  | .finished _ | .failed => 0

theorem everyone_length (robot : UserArea → Option Nat) (underway : Underway day) (outcome : Outcome) :
    (call robot day outcome).everyone.length = day.everyone.length := by
  by_cases calm : ∀ ua1 ua2 rest1 rest2 sOne, day.stage ≠ .fight2Array (ua1 :: rest1) (ua2 :: rest2) sOne
  · exact (everyone_call underway calm outcome).length_eq
  · push Not at calm
    obtain ⟨ua1, ua2, rest1, rest2, sOne, stage⟩ := calm
    obtain ⟨others, before, after⟩ := everyone_fight robot stage outcome
    exact after.length_eq.trans before.length_eq.symm

/-- Every call but those after the last brings the end nearer. -/
theorem toCome_call (robot : UserArea → Option Nat) {size : Nat} (underway : Underway day)
    (small : day.everyone.length ≤ size) (outcome : Outcome) :
    (call robot day outcome).toCome size ≤ day.toCome size - 1 := by
  generalize moved : call robot day outcome = day'
  have moves := call_moves robot day outcome
  rw [moved] at moves
  unfold Day.toCome
  cases moves with
  | close _ stage => simp
  | pair _ stage more =>
    rename_i userArea
    have within : userArea.length ≤ size := by
      simp only [Day.everyone, Day.field, stage, List.length_map, List.length_append] at small
      omega
    have round : (10 - day.count) * (size + 2) = (9 - day.count) * (size + 2) + (size + 2) := by
      rw [← Nat.succ_mul]
      congr 1
      omega
    simp only [stage, List.length_reverse, (split_even userArea).1, round]
    omega
  | fight outcome stage =>
    have count : ∀ ua1 ua2, (calFightResult robot ua1 ua2 outcome (noteBoth ua1 ua2 day)).count = day.count :=
      fun _ _ => rfl
    simp only [stage, count, List.length_cons]
    omega
  | next _ stage =>
    have early := (underway.arrays _ _ _ stage).2
    have round : 10 - (day.count + 1) = 9 - day.count := by omega
    simp only [stage, round]
    omega
  | stopped _ stage =>
    rcases stage with failed | ⟨userArea, finished⟩
    · simp [failed]
    · simp [finished]

theorem toCome_run {size : Nat} (underway : Underway day) (small : day.everyone.length ≤ size) (outcomes : List Outcome) :
    (run (call robot) day outcomes).toCome size ≤ day.toCome size - outcomes.length := by
  induction outcomes generalizing day with
  | nil => exact Nat.le_refl _
  | cons outcome rest ih =>
    have first := toCome_call robot underway small outcome
    have later := ih (underway_call underway outcome) ((everyone_length robot underway outcome).trans_le small)
    rw [List.length_cons, run_cons]
    omega

theorem start_everyone (entrants : List UserArea) (ticketDay : UserArea → Int) (lists : UserArea → List FightInfo) :
    (start entrants ticketDay lists).everyone = entrants := by
  simp [Day.everyone, Day.field, start, Function.comp_def]

/-- The rounds are over after as many calls as ten of them can take. -/
theorem rounds_end (robot : UserArea → Option Nat) (entrants : List UserArea) (ticketDay : UserArea → Int)
    (lists : UserArea → List FightInfo) {outcomes : List Outcome} (enough : calls entrants.length ≤ outcomes.length) :
    (rounds robot entrants ticketDay lists outcomes).count ≤ 10 ∧
      ∃ userArea, (rounds robot entrants ticketDay lists outcomes).stage = .finished userArea := by
  have begun := start_underway entrants ticketDay lists
  have underway : Underway (rounds robot entrants ticketDay lists outcomes) := underway_run begun outcomes
  have small : (start entrants ticketDay lists).everyone.length ≤ entrants.length := by rw [start_everyone]
  have last : (rounds robot entrants ticketDay lists outcomes).toCome entrants.length ≤
      calls entrants.length - outcomes.length := toCome_run begun small outcomes
  refine ⟨underway.rounds, ?_⟩
  unfold Day.toCome at last
  cases stage : (rounds robot entrants ticketDay lists outcomes).stage with
  | fightOne userArea =>
    simp only [stage] at last
    omega
  | fight2Array userArea1 userArea2 sOne =>
    simp only [stage] at last
    omega
  | finished userArea => exact ⟨userArea, rfl⟩
  | failed => exact absurd stage underway.answered

end
/-! ### The last eight -/

section
variable {π κ : Type} [DecidableEq κ] {sort : List Entrant → List Entrant} {remain : List Entrant}

theorem fightF8_perm (key : π → κ) (outcome : Pvp.Round → Entrant → Entrant → Pvp.Fought π) (playerInfoList : List π)
    {userArea : List Entrant} (eight : userArea.length = 8) :
    ∃ final8, fightF8 key outcome playerInfoList userArea = some final8 ∧ final8.Perm userArea := by
  match userArea, eight with
  | [e0, e1, e2, e3, e4, e5, e6, e7], _ =>
    obtain ⟨result, fought, -⟩ := @Pvp.fight4_matches _ _ _ Empty _ key outcome playerInfoList e0 e1 e2 e3 e4 e5 e6 e7
    refine ⟨_, ?_, (Pvp.matches1_final8 outcome e0 e1 e2 e3 e4 e5 e6 e7).1⟩
    unfold fightF8
    rw [if_neg (by simp)]
    simp only [List.getElem?_cons_zero, List.getElem?_cons_succ, Pvp.entries, List.reduceOption_cons_of_some,
      List.reduceOption_nil, fought]

theorem foldl_cons_perm (moved userArea : List Entrant) :
    (moved.foldl (fun userArea ua => ua :: userArea) userArea).Perm (moved ++ userArea) := by
  induction moved generalizing userArea with
  | nil => exact .refl _
  | cons ua rest ih => exact (ih (ua :: userArea)).trans List.perm_middle

/-- With more than eight left everybody is ranked. -/
theorem finalSort_perm (key : π → κ) (outcome : Pvp.Round → Entrant → Entrant → Pvp.Fought π) (playerInfoList : List π)
    (sorts : ∀ userArea, (sort userArea).Perm userArea) (more : 8 < remain.length) (s : SortResult) :
    ∃ ranked, finalSort sort (fightF8 key outcome playerInfoList) remain s = some ranked ∧
      ranked.Perm (remain ++ s.userArea) := by
  have length : (sort remain).length = remain.length := (sorts remain).length_eq
  have best : ((sort remain).take 8).length = 8 := by
    rw [List.length_take]
    omega
  obtain ⟨final8, fought, eight⟩ := fightF8_perm key outcome playerInfoList best
  refine ⟨final8 ++ ((sort remain).drop 8).foldl (fun userArea ua => ua :: userArea) s.userArea, ?_, ?_⟩
  · rw [finalSort, if_neg (by omega)]
    simp only [length, gt_iff_lt, more, if_true, fought, Option.map_some]
  · have out := (foldl_cons_perm ((sort remain).drop 8) s.userArea).append_left final8
    refine (out.trans (eight.append_right _)).trans ?_
    rw [← List.append_assoc, List.take_append_drop]
    exact (sorts remain).append_right _

/-- With eight or fewer nobody is. -/
theorem finalSort_few (key : π → κ) (outcome : Pvp.Round → Entrant → Entrant → Pvp.Fought π) (playerInfoList : List π)
    (sorts : ∀ userArea, (sort userArea).Perm userArea) (few : remain.length ≤ 8) (s : SortResult) :
    finalSort sort (fightF8 key outcome playerInfoList) remain s = none := by
  have length : (sort remain).length = remain.length := (sorts remain).length_eq
  unfold finalSort
  split
  · rfl
  · simp only [length, gt_iff_lt, Nat.not_lt.mpr few, if_false]
    rfl

end

/-! ### Who stays in -/

/-- How many sides of a fight stay in: the winner if it has had tickets, the loser if it has had more. -/
def stay (ticketDay : UserArea → Int) (ua1 ua2 : UserArea) (outcome : Outcome) : Nat :=
  let won := ticketDay (victor outcome.winner ua1 ua2)
  (if 0 < won then 1 else 0) + if won < ticketDay (loser outcome.winner ua1 ua2) then 1 else 0

def stayAll (ticketDay : UserArea → Int) : List Entrant → List Entrant → List Outcome → Nat
  | ua1 :: rest1, ua2 :: rest2, outcome :: outcomes =>
    stay ticketDay ua1.ua ua2.ua outcome + stayAll ticketDay rest1 rest2 outcomes
  | _, _, _ => 0

/-- How many the first round leaves in. Its first call makes the pairs. -/
def firstRound (ticketDay : UserArea → Int) (userArea : List Entrant) (outcomes : List Outcome) : Nat :=
  stayAll ticketDay (split (oddOne userArea).2).1.reverse (split (oddOne userArea).2).2.reverse outcomes.tail +
    (oddOne userArea).1.toList.length

section
variable {robot : UserArea → Option Nat} {day : Day} {ua1 ua2 : UserArea}

/-- The tickets both sides of a fight leave with. -/
theorem settle_sides (winner : Nat) (different : ua1 ≠ ua2) (ticketDay : UserArea → Int) :
    let moved := min (ticketDay ua1) (ticketDay ua2)
    let after := (settle winner ua1 ua2 ticketDay).2
    if winner = 1 then after ua1 = ticketDay ua1 + moved ∧ after ua2 = ticketDay ua2 - moved
    else after ua1 = ticketDay ua1 - moved ∧ after ua2 = ticketDay ua2 + moved := by
  obtain ⟨-, transfers⟩ := settle_transfers winner ua1 ua2 ticketDay
  have after1 := transfers ua1
  have after2 := transfers ua2
  unfold victor loser at after1 after2
  by_cases first : winner = 1
  · simp only [first, if_true, different, Ne.symm different, if_false] at after1 after2 ⊢
    omega
  · simp only [first, different, Ne.symm different, if_false, if_true] at after1 after2 ⊢
    omega

theorem calFightResult_length (robot : UserArea → Option Nat) (ua1 ua2 : UserArea) (outcome : Outcome) (day : Day) :
    (calFightResult robot ua1 ua2 outcome day).remainUserArea.length =
      day.remainUserArea.length + (if (settle outcome.winner ua1 ua2 day.ticketDay).2 ua1 ≠ 0 then 1 else 0) +
        if (settle outcome.winner ua1 ua2 day.ticketDay).2 ua2 ≠ 0 then 1 else 0 := by
  simp only [calFightResult, place_remain, List.length_append]
  congr 1
  · congr 1
    split <;> rfl
  · split <;> rfl

theorem calFightResult_stay (robot : UserArea → Option Nat) (day : Day) (outcome : Outcome) (different : ua1 ≠ ua2)
    (have1 : 0 ≤ day.ticketDay ua1) (have2 : 0 ≤ day.ticketDay ua2) :
    (calFightResult robot ua1 ua2 outcome day).remainUserArea.length =
      day.remainUserArea.length + stay day.ticketDay ua1 ua2 outcome := by
  have sides := settle_sides outcome.winner different day.ticketDay
  rw [calFightResult_length]
  unfold stay victor loser
  by_cases first : outcome.winner = 1
  · simp only [first, if_true] at sides ⊢
    rw [sides.1, sides.2]
    split <;> split <;> split <;> split <;> omega
  · simp only [first, if_false] at sides ⊢
    rw [sides.1, sides.2]
    split <;> split <;> split <;> split <;> omega

/-- A fight is about the tickets of its sides. -/
theorem settle_other (winner : Nat) (ticketDay : UserArea → Int) {ua : UserArea} (not1 : ua ≠ ua1) (not2 : ua ≠ ua2) :
    (settle winner ua1 ua2 ticketDay).2 ua = ticketDay ua := by
  obtain ⟨-, transfers⟩ := settle_transfers winner ua1 ua2 ticketDay
  rw [transfers ua, if_neg, if_neg]
  · omega
  · unfold loser
    split <;> assumption
  · unfold victor
    split <;> assumption

theorem stayAll_congr {before after : UserArea → Int} {rest1 rest2 : List Entrant}
    (same : ∀ e ∈ rest1 ++ rest2, after e.ua = before e.ua) (outcomes : List Outcome) :
    stayAll after rest1 rest2 outcomes = stayAll before rest1 rest2 outcomes := by
  induction rest1 generalizing rest2 outcomes with
  | nil => simp [stayAll]
  | cons ua1 rest1 ih =>
    cases rest2 with
    | nil => simp [stayAll]
    | cons ua2 rest2 =>
      cases outcomes with
      | nil => simp [stayAll]
      | cons outcome rest =>
        have same1 : after ua1.ua = before ua1.ua := same ua1 (by simp)
        have same2 : after ua2.ua = before ua2.ua := same ua2 (by simp)
        rw [stayAll, stayAll, ih (fun e there => same e ?_)]
        · unfold stay victor loser
          split <;> simp only [same1, same2]
        · simp only [List.mem_append, List.mem_cons] at there ⊢
          tauto

/-- The fights of a round leave in who is counted. -/
theorem round_run (robot : UserArea → Option Nat) {rest1 rest2 : List Entrant} {sOne : Option Entrant}
    (even : rest1.length = rest2.length) (distinct : ((rest1 ++ rest2).map Entrant.ua).Nodup)
    (nonneg : ∀ e ∈ rest1 ++ rest2, 0 ≤ day.ticketDay e.ua) (stage : day.stage = .fight2Array rest1 rest2 sOne)
    {outcomes : List Outcome} (enough : rest1.length ≤ outcomes.length) :
    ∃ fought left, outcomes = fought ++ left ∧ fought.length = rest1.length ∧
      (run (call robot) day fought).stage = .fight2Array [] [] sOne ∧
      (run (call robot) day fought).count = day.count ∧
      (run (call robot) day fought).remainUserArea.length =
        day.remainUserArea.length + stayAll day.ticketDay rest1 rest2 outcomes := by
  induction rest1 generalizing rest2 day outcomes with
  | nil =>
    have none : rest2 = [] := List.length_eq_zero_iff.mp even.symm
    subst none
    exact ⟨[], outcomes, rfl, rfl, stage, rfl, by simp [stayAll]⟩
  | cons ua1 rest1 ih =>
    match rest2, outcomes with
    | ua2 :: rest2, outcome :: outcomes =>
      have seats : ((ua1 :: rest1 ++ ua2 :: rest2).map Entrant.ua).Perm
          (ua1.ua :: ua2.ua :: (rest1 ++ rest2).map Entrant.ua) :=
        (List.perm_middle.cons ua1).map Entrant.ua
      obtain ⟨out1, later⟩ := List.nodup_cons.mp (seats.nodup_iff.mp distinct)
      obtain ⟨out2, later⟩ := List.nodup_cons.mp later
      have different : ua1.ua ≠ ua2.ua := fun same => out1 (same ▸ List.mem_cons_self ..)
      have moved := call_fight robot stage outcome
      have same : ∀ e ∈ rest1 ++ rest2, (call robot day outcome).ticketDay e.ua = day.ticketDay e.ua := by
        intro e there
        have seat : e.ua ∈ (rest1 ++ rest2).map Entrant.ua := List.mem_map_of_mem there
        rw [moved]
        exact settle_other outcome.winner day.ticketDay (fun other => out1 (List.mem_cons_of_mem _ (other ▸ seat)))
          fun other => out2 (other ▸ seat)
      have kept : ∀ e ∈ rest1 ++ rest2, 0 ≤ (call robot day outcome).ticketDay e.ua := by
        intro e there
        rw [same e there]
        refine nonneg e ?_
        simp only [List.mem_append, List.mem_cons] at there ⊢
        tauto
      obtain ⟨fought, left, split, whole, ended, count, length⟩ := ih (Nat.succ.inj even) later kept (by rw [moved])
        (Nat.le_of_succ_le_succ enough)
      have stayed := calFightResult_stay robot (noteBoth ua1.ua ua2.ua day) outcome different
        (nonneg ua1 (by simp)) (nonneg ua2 (by simp))
      refine ⟨outcome :: fought, left, by rw [split]; rfl, congrArg Nat.succ whole, ended, count.trans (by rw [moved]; rfl), ?_⟩
      rw [run_cons, length, stayAll_congr same, stayAll, moved, ← Nat.add_assoc]
      exact congrArg (· + _) stayed

/-- Only one entry may be without tickets. -/
def OneEmpty (ticketDay : UserArea → Int) (userArea : List Entrant) : Prop :=
  ∀ e ∈ userArea, ∀ other ∈ userArea, ticketDay e.ua = 0 → ticketDay other.ua = 0 → e.ua = other.ua

/-- Who has stayed in has tickets, except for the odd one. Before the end of the first round this says
nothing of the others. -/
def Stocked (day : Day) : Prop :=
  match day.stage with
  | .fightOne userArea => 0 < day.count → OneEmpty day.ticketDay userArea
  | .fight2Array userArea1 userArea2 sOne => (∀ e ∈ day.remainUserArea, day.ticketDay e.ua ≠ 0) ∧
      (0 < day.count → OneEmpty day.ticketDay (userArea1 ++ userArea2 ++ sOne.toList))
  | .finished _ | .failed => True

/-- What every call of a fair run keeps. -/
structure Orderly (entrants : List UserArea) (total : Int) (day : Day) : Prop where
  underway : Underway day
  everyone : day.everyone.Perm entrants
  conserves : Conserves entrants total day
  stocked : Stocked day

/-- Two that fight are two, and nobody else on the field is one of them. -/
theorem Day.everyone_sides {ua1 ua2 : Entrant} {rest1 rest2 : List Entrant} {sOne : Option Entrant}
    (distinct : day.everyone.Nodup) (stage : day.stage = .fight2Array (ua1 :: rest1) (ua2 :: rest2) sOne) :
    ua1.ua ≠ ua2.ua ∧ ∀ e ∈ rest1 ++ rest2 ++ sOne.toList ++ day.remainUserArea, e.ua ≠ ua1.ua ∧ e.ua ≠ ua2.ua := by
  have seats : day.everyone.Perm (ua1.ua :: ua2.ua ::
      (rest1 ++ rest2 ++ sOne.toList ++ day.remainUserArea ++ day.sortResult.userArea).map Entrant.ua) := by
    simp only [Day.everyone, Day.field, stage, List.cons_append, List.append_assoc, List.map_cons]
    exact (List.perm_middle.map Entrant.ua).cons _
  obtain ⟨out1, later⟩ := List.nodup_cons.mp (seats.nodup_iff.mp distinct)
  obtain ⟨out2, -⟩ := List.nodup_cons.mp later
  refine ⟨fun same => out1 (same ▸ List.mem_cons_self ..), fun e there => ?_⟩
  have seat : e.ua ∈ (rest1 ++ rest2 ++ sOne.toList ++ day.remainUserArea ++ day.sortResult.userArea).map Entrant.ua :=
    List.mem_map_of_mem (List.mem_append_left _ there)
  exact ⟨fun other => out1 (List.mem_cons_of_mem _ (other ▸ seat)), fun other => out2 (other ▸ seat)⟩

theorem OneEmpty.congr {before after : UserArea → Int} {userArea userArea' : List Entrant}
    (empty : OneEmpty before userArea) (within : userArea' ⊆ userArea) (same : ∀ e ∈ userArea', after e.ua = before e.ua) :
    OneEmpty after userArea' := by
  intro e there other there' none none'
  rw [same e there] at none
  rw [same other there'] at none'
  exact empty e (within there) other (within there') none none'

theorem stocked_call (distinct : day.everyone.Nodup) (fair : Fair robot day) (stocked : Stocked day) (outcome : Outcome) :
    Stocked (call robot day outcome) := by
  generalize moved : call robot day outcome = day'
  have moves := call_moves robot day outcome
  rw [moved] at moves
  unfold Stocked at stocked
  cases moves with
  | close _ stage => trivial
  | pair _ stage more =>
    simp only [stage] at stocked
    refine ⟨fun e there => absurd there List.not_mem_nil, fun later => (stocked later).congr ?_ fun _ _ => rfl⟩
    exact (round_perm _).subset
  | fight outcome stage =>
    rename_i ua1 ua2 rest1 rest2 sOne
    simp only [stage] at stocked
    obtain ⟨different, others⟩ := Day.everyone_sides distinct stage
    have same : ∀ e ∈ rest1 ++ rest2 ++ sOne.toList ++ day.remainUserArea,
        (settle outcome.winner ua1.ua ua2.ua day.ticketDay).2 e.ua = day.ticketDay e.ua := fun e there =>
      settle_other outcome.winner day.ticketDay (others e there).1 (others e there).2
    refine ⟨fun e there => ?_, fun later => (stocked.2 later).congr (fun e there => ?_) fun e there => ?_⟩
    · simp only [calFightResult, playerInfos, if_neg (fair _ _ _ _ _ stage), place_remain, List.mem_append] at there
      rcases there with (old | new) | new
      · exact fun none => stocked.1 e old ((same e (List.mem_append_right _ old)).symm.trans none)
      · split at new
        · rw [List.mem_singleton.mp new]
          assumption
        · cases new
      · split at new
        · rw [List.mem_singleton.mp new]
          assumption
        · cases new
    · simp only [List.mem_append, List.mem_cons] at there ⊢
      tauto
    · exact same e (List.mem_append_left _ there)
  | next _ stage fought =>
    simp only [stage] at stocked
    intro _ e there other there' none none'
    simp only [List.mem_append, Option.mem_toList] at there there'
    rcases there with in1 | odd
    · exact absurd none (stocked.1 e in1)
    · rcases there' with in2 | odd'
      · exact absurd none' (stocked.1 other in2)
      · rw [Option.mem_unique odd odd']
  | stopped _ stage =>
    rcases stage with failed | ⟨userArea, finished⟩
    · simp [failed, Stocked]
    · simp [finished, Stocked]

theorem orderly_call {entrants : List UserArea} {total : Int} (distinct : entrants.Nodup)
    (orderly : Orderly entrants total day) (fair : Fair robot day) (outcome : Outcome) :
    Orderly entrants total (call robot day outcome) := by
  obtain ⟨underway, everyone, conserves, stocked⟩ := orderly
  exact ⟨underway_call underway outcome, (everyone_fair underway fair outcome).trans everyone,
    conserves_step distinct conserves (.ok outcome),
    stocked_call (everyone.nodup_iff.mpr distinct) fair stocked outcome⟩

theorem orderly_run {entrants : List UserArea} {total : Int} (distinct : entrants.Nodup)
    (orderly : Orderly entrants total day) (outcomes : List Outcome)
    (fair : Along (call robot) (fun day _ => Fair robot day) day outcomes) :
    Orderly entrants total (run (call robot) day outcomes) :=
  @run_invariant _ _ _ (fun day _ => Fair robot day) (Orderly entrants total)
    (fun _ outcome orderly fair => orderly_call distinct orderly fair outcome) _ _ orderly fair

/-! ### More than eight -/

/-- From the second round on more than eight stay in. -/
def Many (day : Day) : Prop :=
  0 < day.count ∧ match day.stage with
    | .fightOne userArea => 8 < userArea.length
    | .fight2Array userArea1 _ sOne => 8 < userArea1.length + sOne.toList.length + day.remainUserArea.length
    | .finished userArea => 8 < userArea.length
    | .failed => False

theorem many_call {entrants : List UserArea} {total : Int} (distinct : entrants.Nodup)
    (orderly : Orderly entrants total day) (many : Many day) (outcome : Outcome) : Many (call robot day outcome) := by
  obtain ⟨underway, everyone, conserves, stocked⟩ := orderly
  obtain ⟨later, many⟩ := many
  generalize moved : call robot day outcome = day'
  have moves := call_moves robot day outcome
  rw [moved] at moves
  cases moves with
  | close _ stage =>
    simp only [stage] at many
    exact ⟨later, many⟩
  | pair _ stage more =>
    rename_i userArea
    refine ⟨later, ?_⟩
    have parity := congrArg List.length (oddOne_eq userArea)
    rw [List.length_append, oddOne_length] at parity
    simp only [List.length_reverse, (split_even userArea).1, List.length_nil]
    omega
  | fight outcome stage =>
    rename_i ua1 ua2 rest1 rest2 sOne
    simp only [stage, List.length_cons] at many
    simp only [Stocked, stage] at stocked
    obtain ⟨different, -⟩ := Day.everyone_sides (everyone.nodup_iff.mpr distinct) stage
    have field : ua1 ∈ day.field ∧ ua2 ∈ day.field := by simp [Day.field, stage]
    have have1 := conserves.nonneg _ (conserves.within _ field.1)
    have have2 := conserves.nonneg _ (conserves.within _ field.2)
    have some : 0 < day.ticketDay ua1.ua ∨ 0 < day.ticketDay ua2.ua := by
      by_contra none
      exact different (stocked.2 later ua1 (by simp) ua2 (by simp) (by omega) (by omega))
    have stays : 1 ≤ stay day.ticketDay ua1.ua ua2.ua outcome := by
      unfold stay victor loser
      by_cases first : outcome.winner = 1
      · simp only [first, if_true]
        split <;> split <;> omega
      · simp only [first, if_false]
        split <;> split <;> omega
    have stayed := calFightResult_stay robot (noteBoth ua1.ua ua2.ua day) outcome different have1 have2
    have kept : (noteBoth ua1.ua ua2.ua day).remainUserArea = day.remainUserArea := rfl
    refine ⟨later, ?_⟩
    simp only [stayed, kept]
    change _ < _ + _ + (_ + stay day.ticketDay ua1.ua ua2.ua outcome)
    omega
  | next _ stage fought =>
    rename_i userArea1 userArea2 sOne
    have even := (underway.arrays _ _ _ stage).1
    have none : userArea1.length = 0 := by
      rcases fought with rfl | rfl
      · rfl
      · exact even
    simp only [stage] at many
    refine ⟨Nat.succ_pos _, ?_⟩
    simp only [List.length_append]
    omega
  | stopped _ stage => exact ⟨later, many⟩

theorem many_run {entrants : List UserArea} {total : Int} (distinct : entrants.Nodup)
    (orderly : Orderly entrants total day) (many : Many day) (outcomes : List Outcome)
    (fair : Along (call robot) (fun day _ => Fair robot day) day outcomes) : Many (run (call robot) day outcomes) := by
  induction outcomes generalizing day with
  | nil => exact many
  | cons outcome rest ih =>
    exact ih (orderly_call distinct orderly fair.1 outcome) (many_call distinct orderly many outcome) fair.2

/-- Eight or fewer fight no more rounds. -/
theorem few_run {userArea : List Entrant} (stage : day.stage = .fightOne userArea ∨ day.stage = .finished userArea)
    (few : userArea.length ≤ 8) (outcomes : List Outcome) :
    (run (call robot) day outcomes).stage = .fightOne userArea ∨
      (run (call robot) day outcomes).stage = .finished userArea := by
  refine run_keeps (fun day : Day => day.stage = .fightOne userArea ∨ day.stage = .finished userArea) ?_ stage outcomes
  intro day outcome stage
  rcases stage with next | isOver
  · refine .inr ?_
    simp only [call, step, next]
    rw [if_pos (.inr (by omega))]
  · refine .inr ?_
    simp only [call, step, isOver]

variable {entrants : List UserArea} {ticketDay : UserArea → Int} {outcomes : List Outcome}

theorem call_pair (robot : UserArea → Option Nat) {userArea : List Entrant} (stage : day.stage = .fightOne userArea)
    (more : day.count < 10 ∧ 16 < userArea.length) (outcome : Outcome) :
    call robot day outcome =
      { day with
        remainUserArea := []
        stage := .fight2Array (split (oddOne userArea).2).1.reverse (split (oddOne userArea).2).2.reverse
          (oddOne userArea).1 } := by
  obtain ⟨first, second⟩ := split_even userArea
  simp only [call, step, stage]
  rw [if_neg (by omega), if_neg (by rw [first, second]; exact fun different => different rfl)]

theorem call_next (robot : UserArea → Option Nat) {sOne : Option Entrant} (stage : day.stage = .fight2Array [] [] sOne)
    (outcome : Outcome) :
    call robot day outcome =
      { day with count := day.count + 1, stage := .fightOne (day.remainUserArea ++ sOne.toList) } := by
  simp only [call, step, stage]

/-- A round from its pairs to the next one. -/
theorem whole_round (robot : UserArea → Option Nat) {userArea : List Entrant} (stage : day.stage = .fightOne userArea)
    (more : day.count < 10 ∧ 16 < userArea.length) (distinct : (userArea.map Entrant.ua).Nodup)
    (nonneg : ∀ e ∈ userArea, 0 ≤ day.ticketDay e.ua) (enough : userArea.length ≤ outcomes.length) :
    ∃ fought left remain, outcomes = fought ++ left ∧
      (run (call robot) day fought).stage = .fightOne remain ∧
      (run (call robot) day fought).count = day.count + 1 ∧
      remain.length = firstRound day.ticketDay userArea outcomes := by
  match outcomes with
  | [] => exact absurd (more.2.trans_le enough) (by simp)
  | pairing :: outcomes =>
    obtain ⟨first, second⟩ := split_even userArea
    have seats := round_perm userArea
    have paired := call_pair robot stage more pairing
    have even : (split (oddOne userArea).2).1.reverse.length = (split (oddOne userArea).2).2.reverse.length := by
      rw [List.length_reverse, List.length_reverse, first, second]
    have once : (((split (oddOne userArea).2).1.reverse ++ (split (oddOne userArea).2).2.reverse).map Entrant.ua).Nodup := by
      have all := (seats.map Entrant.ua).nodup_iff.mpr distinct
      rw [List.map_append] at all
      exact all.of_append_left
    have kept : ∀ e ∈ (split (oddOne userArea).2).1.reverse ++ (split (oddOne userArea).2).2.reverse,
        0 ≤ (call robot day pairing).ticketDay e.ua := fun e there =>
      paired ▸ nonneg e (seats.subset (List.mem_append_left _ there))
    have half : (split (oddOne userArea).2).1.reverse.length ≤ outcomes.length := by
      rw [List.length_reverse, first]
      rw [List.length_cons] at enough
      omega
    obtain ⟨fought, left, parts, whole, ended, count, length⟩ := round_run robot even once kept (by rw [paired]) half
    rw [List.length_reverse, first] at whole
    match left with
    | [] =>
      have short := congrArg List.length parts
      rw [List.append_nil, whole] at short
      rw [List.length_cons] at enough
      omega
    | outcome :: left =>
      have next := call_next robot ended outcome
      refine ⟨pairing :: (fought ++ [outcome]), left,
        (run (call robot) (call robot day pairing) fought).remainUserArea ++ (oddOne userArea).1.toList,
        by rw [parts]; simp, ?_, ?_, ?_⟩
      · rw [run_cons, run_append, run_cons, run_nil, next]
      · rw [run_cons, run_append, run_cons, run_nil, next]
        exact congrArg Nat.succ (count.trans (by rw [paired]))
      · rw [List.length_append, length, firstRound, List.tail_cons, paired]
        simp

/-! ### The whole day -/

theorem start_orderly (nonneg : ∀ ua ∈ entrants, 0 ≤ ticketDay ua) (lists : UserArea → List FightInfo) :
    Orderly entrants (entrants.map ticketDay).sum (start entrants ticketDay lists) :=
  ⟨start_underway entrants ticketDay lists, .of_eq (start_everyone entrants ticketDay lists),
    start_conserves ticketDay lists nonneg, fun later => absurd later (by simp [start])⟩

/-- Fair rounds leave more than eight in, or the first one does not. -/
theorem rounds_many (robot : UserArea → Option Nat) (distinct : entrants.Nodup) (hundred : 100 ≤ entrants.length)
    (nonneg : ∀ ua ∈ entrants, 0 ≤ ticketDay ua) (lists : UserArea → List FightInfo)
    (enough : calls entrants.length ≤ outcomes.length)
    (fair : Along (call robot) (fun day _ => Fair robot day) (start entrants ticketDay lists) outcomes)
    {userArea : List Entrant} (stage : (rounds robot entrants ticketDay lists outcomes).stage = .finished userArea) :
    8 < userArea.length ↔ 8 < firstRound ticketDay (entrants.map (⟨·, none⟩)) outcomes := by
  have size : (entrants.map (⟨·, none⟩ : UserArea → Entrant)).length = entrants.length := List.length_map ..
  have once : ((entrants.map (⟨·, none⟩ : UserArea → Entrant)).map Entrant.ua).Nodup := by
    simpa [Function.comp_def] using distinct
  have kept : ∀ e ∈ entrants.map (⟨·, none⟩ : UserArea → Entrant), 0 ≤ ticketDay e.ua := by
    intro e there
    obtain ⟨ua, listed, rfl⟩ := List.mem_map.mp there
    exact nonneg ua listed
  have begin : (start entrants ticketDay lists).stage = .fightOne (entrants.map (⟨·, none⟩)) := rfl
  have more : (start entrants ticketDay lists).count < 10 ∧ 16 < (entrants.map (⟨·, none⟩ : UserArea → Entrant)).length :=
    ⟨Nat.zero_lt_succ 9, by omega⟩
  have round : (entrants.map (⟨·, none⟩ : UserArea → Entrant)).length ≤ outcomes.length := by
    unfold calls at enough
    omega
  obtain ⟨fought, left, remain, parts, next, count, length⟩ := whole_round robot begin more once kept round
  rw [← show remain.length = firstRound ticketDay (entrants.map (⟨·, none⟩)) outcomes from length]
  subst parts
  rw [rounds, run_append] at stage
  obtain ⟨fair1, fair2⟩ := along_append.mp fair
  by_cases many : 8 < remain.length
  · have orderly := orderly_run distinct (start_orderly nonneg lists) fought fair1
    have later := many_run distinct orderly ⟨count ▸ Nat.succ_pos _, by rw [next]; exact many⟩ left fair2
    obtain ⟨-, long⟩ := later
    rw [stage] at long
    exact iff_of_true long many
  · rcases few_run (.inl next) (Nat.not_lt.mp many) left with still | isOver
    · rw [stage] at still
      cases still
    · rw [stage] at isOver
      cases isOver
      exact iff_of_false many many

/-- Everybody is ranked when all calls are fair and the first round leaves more than eight. -/
theorem ranked_iff {π κ : Type} [DecidableEq κ] (robot : UserArea → Option Nat) (distinct : entrants.Nodup)
    (hundred : 100 ≤ entrants.length) (nonneg : ∀ ua ∈ entrants, 0 ≤ ticketDay ua) (lists : UserArea → List FightInfo)
    (enough : calls entrants.length ≤ outcomes.length) {sort : List Entrant → List Entrant}
    (sorts : ∀ userArea, (sort userArea).Perm userArea) (key : π → κ)
    (outcomeF8 : Pvp.Round → Entrant → Entrant → Pvp.Fought π) (playerInfoList : List π) :
    (∃ ranked, fightPvpDay sort (fightF8 key outcomeF8 playerInfoList) (rounds robot entrants ticketDay lists outcomes) =
        some ranked ∧ (ranked.map Entrant.ua).Perm entrants) ↔
      Along (call robot) (fun day _ => Fair robot day) (start entrants ticketDay lists) outcomes ∧
        8 < firstRound ticketDay (entrants.map (⟨·, none⟩)) outcomes := by
  have begun := start_underway entrants ticketDay lists
  have all := start_everyone entrants ticketDay lists
  obtain ⟨-, userArea, stage⟩ := rounds_end robot entrants ticketDay lists enough
  have ranking : fightPvpDay sort (fightF8 key outcomeF8 playerInfoList) (rounds robot entrants ticketDay lists outcomes) =
      finalSort sort (fightF8 key outcomeF8 playerInfoList) userArea
        (rounds robot entrants ticketDay lists outcomes).sortResult := by
    rw [fightPvpDay, stage]
  have found : (rounds robot entrants ticketDay lists outcomes).everyone =
      (userArea ++ (rounds robot entrants ticketDay lists outcomes).sortResult.userArea).map Entrant.ua := by
    rw [Day.everyone, Day.field, stage]
  rw [ranking]
  constructor
  · rintro ⟨ranked, answered, everybody⟩
    have many : 8 < userArea.length := by
      by_contra few
      rw [finalSort_few key outcomeF8 playerInfoList sorts (Nat.not_lt.mp few)] at answered
      cases answered
    obtain ⟨ranked', answered', placed⟩ := finalSort_perm key outcomeF8 playerInfoList sorts many
      (rounds robot entrants ticketDay lists outcomes).sortResult
    obtain rfl : ranked = ranked' := Option.some.inj (answered.symm.trans answered')
    have fair : Along (call robot) (fun day _ => Fair robot day) (start entrants ticketDay lists) outcomes := by
      by_contra unfair
      obtain ⟨ua, listed, lost⟩ := lost_run begun (all.symm ▸ distinct) outcomes unfair
      refine lost (?_ : ua ∈ (rounds robot entrants ticketDay lists outcomes).everyone)
      rw [found]
      exact (placed.map Entrant.ua).mem_iff.mp (everybody.mem_iff.mpr (all ▸ listed))
    exact ⟨fair, (rounds_many robot distinct hundred nonneg lists enough fair stage).mp many⟩
  · rintro ⟨fair, many⟩
    have left := (rounds_many robot distinct hundred nonneg lists enough fair stage).mpr many
    obtain ⟨ranked, answered, placed⟩ := finalSort_perm key outcomeF8 playerInfoList sorts left
      (rounds robot entrants ticketDay lists outcomes).sortResult
    refine ⟨ranked, answered, (placed.map Entrant.ua).trans ?_⟩
    rw [← found]
    exact (everyone_run begun outcomes fair).trans (.of_eq all)

/-- The robots bear different names. -/
theorem robots_nodup (size : Nat) : (robots size).Nodup := by
  refine List.nodup_range.map fun i j same => ?_
  exact Nat.succ.inj (toString_number.mp (UserArea.mk.inj same).2)

theorem gather_nodup {area : String} {uuids : List String} (players : area ≠ "0") (once : uuids.Nodup) :
    (gather area uuids).Nodup := by
  refine List.nodup_append.mpr ⟨once.map fun _ _ same => (UserArea.mk.inj same).2, robots_nodup _, ?_⟩
  intro ua listed robot there same
  obtain ⟨uuid, -, rfl⟩ := List.mem_map.mp listed
  obtain ⟨i, -, rfl⟩ := List.mem_map.mp there
  exact players (UserArea.mk.inj same).1

theorem gather_length (area : String) (uuids : List String) : 100 ≤ (gather area uuids).length := by
  simp only [gather, robots, List.length_append, List.length_map, List.length_range]
  omega

/-- **Full ranking.** The rounds end, ten of them at most. The callback gets a ranking of everybody if
and only if no robot is on both sides of a fight and the first round leaves more than eight in. -/
theorem day_ranked_iff {π κ : Type} [DecidableEq κ] (robot : UserArea → Option Nat) (area : String) (uuids : List String)
    (distinct : (gather area uuids).Nodup) (nonneg : ∀ ua ∈ gather area uuids, 0 ≤ ticketDay ua)
    (lists : UserArea → List FightInfo) (enough : calls (gather area uuids).length ≤ outcomes.length)
    {sort : List Entrant → List Entrant} (sorts : ∀ userArea, (sort userArea).Perm userArea) (key : π → κ)
    (outcomeF8 : Pvp.Round → Entrant → Entrant → Pvp.Fought π) (playerInfoList : List π) :
    let entrants := gather area uuids
    let day := rounds robot entrants ticketDay lists outcomes
    (day.count ≤ 10 ∧ ∃ remainUserArea, day.stage = .finished remainUserArea) ∧
      ((∃ ranked, fightPvpDay sort (fightF8 key outcomeF8 playerInfoList) day = some ranked ∧
          (ranked.map Entrant.ua).Perm entrants) ↔
        Along (call robot) (fun day _ => Fair robot day) (start entrants ticketDay lists) outcomes ∧
          8 < firstRound ticketDay (entrants.map (⟨·, none⟩)) outcomes) :=
  ⟨rounds_end robot _ ticketDay lists enough,
    ranked_iff robot distinct (gather_length area uuids) nonneg lists enough sorts key outcomeF8 playerInfoList⟩

end

/-- The shipped table has twelve robots. -/
def twelve (ua : UserArea) : Option Nat := if ua.area = "0" then ua.uuid.toNat?.map (· % 12) else none

/-- Thirteen robots have the tickets of all, as a tournament among robots leaves them. -/
def yesterday (ua : UserArea) : Int :=
  if ua.area ≠ "0" then 100
  else if ua.uuid = "1" then 400
  else if ua.uuid ∈ ["12", "13", "28", "29", "44", "45", "60", "61", "76", "77", "92", "93"] then 800 else 0

def descending (userArea : List Entrant) : List Entrant :=
  userArea.mergeSort fun a b => b.ticketDay.getD 0 ≤ a.ticketDay.getD 0

theorem yesterday_nonneg (ua : UserArea) : 0 ≤ yesterday ua := by
  unfold yesterday
  split
  · decide
  · split
    · decide
    · split <;> decide

theorem descending_perm (userArea : List Entrant) : (descending userArea).Perm userArea := List.mergeSort_perm ..

theorem gather_one : (gather "1" ["1000"]).Nodup := gather_nodup (by decide) (by decide)

theorem enough_one : calls (gather "1" ["1000"]).length ≤ (List.replicate (calls 100) (⟨2, 7⟩ : Outcome)).length := by
  simp [gather, robots]

theorem first_round_seven :
    firstRound yesterday ((gather "1" ["1000"]).map (⟨·, none⟩)) (List.replicate (calls 100) ⟨2, 7⟩) = 7 := by
  decide +kernel

theorem day_ranked_iff_one :
    (∃ ranked, fightPvpDay descending (fightF8 id (fun _ _ _ => ⟨(), (), 1, 7⟩) [])
        (rounds twelve (gather "1" ["1000"]) yesterday (fun _ => []) (List.replicate (calls 100) ⟨2, 7⟩)) = some ranked ∧
        (ranked.map Entrant.ua).Perm (gather "1" ["1000"])) ↔
      Along (call twelve) (fun day _ => Fair twelve day) (start (gather "1" ["1000"]) yesterday fun _ => [])
          (List.replicate (calls 100) ⟨2, 7⟩) ∧
        8 < firstRound yesterday ((gather "1" ["1000"]).map (⟨·, none⟩)) (List.replicate (calls 100) ⟨2, 7⟩) :=
  (day_ranked_iff twelve "1" ["1000"] gather_one (fun ua _ => yesterday_nonneg ua) (fun _ => []) enough_one
    descending_perm id (fun _ _ _ => ⟨(), (), 1, 7⟩) []).2

/-- One player has enrolled, and the second side always wins: seven stay in, so nobody is ranked. -/
theorem day_unranked :
    ¬ ∃ ranked, fightPvpDay descending (fightF8 id (fun _ _ _ => ⟨(), (), 1, 7⟩) [])
      (rounds twelve (gather "1" ["1000"]) yesterday (fun _ => []) (List.replicate (calls 100) ⟨2, 7⟩)) = some ranked ∧
      (ranked.map Entrant.ua).Perm (gather "1" ["1000"]) := by
  rw [ranked_iff twelve gather_one (gather_length _ _) (fun ua _ => yesterday_nonneg ua) (fun _ => []) enough_one
    descending_perm id (fun _ _ _ => ⟨(), (), 1, 7⟩) [], first_round_seven]
  exact fun ranked => absurd ranked.2 (by decide)

end Tinygame.DayFight
