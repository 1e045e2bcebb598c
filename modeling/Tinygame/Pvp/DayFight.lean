import Mathlib.Algebra.BigOperators.Group.List.Basic
import Tinygame.Base.Run
import Tinygame.Dataprocess.Entity

/-!
# The rounds of the day tournament

`fightOne`, `fight2Array` and `calFightResult` of `pvp_imp.js`: up to ten rounds in which neighbours
fight for tickets, and whoever has none left is out. Each call of the two recursive functions is a
step; a step that fights takes the outcome of the fight.
-/

namespace Tinygame.DayFight

/-- An entry of the arrays; one that has fought carries the tickets it left with. -/
structure Entrant where
  ua : UserArea
  ticketDay : Option Int
  deriving DecidableEq

/-- One fight, as it is kept with both sides; the other rewards are zero. -/
structure FightInfo where
  player1 : UserArea
  player2 : UserArea
  winner : Nat
  seed : Nat
  ticketDay : Int
  deriving DecidableEq

/-- Who is out, the best first; `map` keeps the tickets everybody came with. -/
structure SortResult where
  userArea : List Entrant
  map : String → Option Int

/-- The call that comes next. `fight2Array` has its arrays from their ends, as `pop` reads them. -/
inductive Stage where
  | fightOne (userArea : List Entrant)
  | fight2Array (userArea1 userArea2 : List Entrant) (sOne : Option Entrant)
  | finished (userArea : List Entrant)
  | failed

/-- `ticketDay` and `fightInfoListDay` are those of everybody's pvp info, in the store or, for a robot,
in `robotPvpInfoCache`. -/
structure Day where
  ticketDay : UserArea → Int
  fightInfoListDay : UserArea → List FightInfo
  sortResult : SortResult
  remainUserArea : List Entrant
  count : Nat
  stage : Stage

/-- What `fightPvp` answers. -/
structure Outcome where
  winner : Nat
  seed : Nat

def userAreaKey (ua : UserArea) : String := ua.area ++ "|" ++ ua.uuid

/-- The entry comes before the first one that has come with no more tickets. -/
def insertEltToSortResult (s : SortResult) (ua : UserArea) : SortResult :=
  let behind (other : Entrant) : Bool := match s.map (userAreaKey ua), s.map (userAreaKey other.ua) with
    | some mine, some theirs => mine ≥ theirs
    | _, _ => false
  { s with userArea := s.userArea.takeWhile (!behind ·) ++ ⟨ua, none⟩ :: s.userArea.dropWhile (!behind ·) }

/-- The tickets of the loser go to the winner, as many as the winner has. -/
def settle (winner : Nat) (ua1 ua2 : UserArea) (ticketDay : UserArea → Int) : Int × (UserArea → Int) :=
  if winner = 1 then
    if ticketDay ua1 ≥ ticketDay ua2 then
      let reward := ticketDay ua2
      let cleared := Function.update ticketDay ua2 0
      (reward, Function.update cleared ua1 (cleared ua1 + reward))
    else
      let reward := ticketDay ua1
      let paid := Function.update ticketDay ua2 (ticketDay ua2 - reward)
      (reward, Function.update paid ua1 (paid ua1 + reward))
  else
    if ticketDay ua2 ≥ ticketDay ua1 then
      let reward := ticketDay ua1
      let cleared := Function.update ticketDay ua1 0
      (reward, Function.update cleared ua2 (cleared ua2 + reward))
    else
      let reward := ticketDay ua2
      let paid := Function.update ticketDay ua1 (ticketDay ua1 - reward)
      (reward, Function.update paid ua2 (paid ua2 + reward))

section
variable {ε : Type} (robot : UserArea → Option Nat)

/-- `get1V1PlayerInfo` as far as names go. `robot` is the entry of the robot table that plays somebody.
Two robots of one entry are one object, with the name given to it last. -/
def playerInfos (ua1 ua2 : UserArea) : UserArea × UserArea :=
  if robot ua1 ≠ none ∧ robot ua1 = robot ua2 then (ua2, ua2) else (ua1, ua2)

/-- `map` keeps what somebody came with to the first fight. -/
def noteTickets (ticketDay : UserArea → Int) (ua : UserArea) (map : String → Option Int) : String → Option Int :=
  if map (userAreaKey ua) = none then Function.update map (userAreaKey ua) (some (ticketDay ua)) else map

/-- A side of a fight stays in with its tickets, or is sorted in without any. -/
def place (playerInfo : UserArea) (ticketDay : Int) (remain : List Entrant) (s : SortResult) :
    List Entrant × SortResult :=
  if ticketDay ≠ 0 then (remain ++ [⟨playerInfo, some ticketDay⟩], s) else (remain, insertEltToSortResult s playerInfo)

def calFightResult (ua1 ua2 : UserArea) (outcome : Outcome) (day : Day) : Day :=
  let playerInfo := playerInfos robot ua1 ua2
  let (reward, ticketDay) := settle outcome.winner ua1 ua2 day.ticketDay
  let fightInfo : FightInfo := ⟨playerInfo.1, playerInfo.2, outcome.winner, outcome.seed, reward⟩
  let lists := if day.count = 0 then Function.update (Function.update day.fightInfoListDay ua1 []) ua2 []
    else day.fightInfoListDay
  let lists := Function.update lists ua1 (lists ua1 ++ [fightInfo])
  let lists := Function.update lists ua2 (lists ua2 ++ [fightInfo])
  let (remain, sortResult) := place playerInfo.1 (ticketDay ua1) day.remainUserArea day.sortResult
  let (remain, sortResult) := place playerInfo.2 (ticketDay ua2) remain sortResult
  { day with ticketDay, fightInfoListDay := lists, remainUserArea := remain, sortResult }

def noteBoth (ua1 ua2 : UserArea) (day : Day) : Day :=
  let map := noteTickets day.ticketDay ua2 (noteTickets day.ticketDay ua1 day.sortResult.map)
  { day with sortResult := { day.sortResult with map } }

/-- The entries at even places, and those at odd places. -/
def split : List Entrant → List Entrant × List Entrant
  | a :: b :: rest => (a :: (split rest).1, b :: (split rest).2)
  | [a] => ([a], [])
  | [] => ([], [])

/-- An odd one is taken out in front. -/
def oddOne (userArea : List Entrant) : Option Entrant × List Entrant :=
  if userArea.length % 2 ≠ 0 then (userArea.head?, userArea.tail) else (none, userArea)

/-- The next call; a call that fights gets `outcome`. -/
def step (day : Day) (outcome : Except ε Outcome) : Day :=
  match day.stage with
  | .fightOne userArea =>
    if 10 ≤ day.count ∨ userArea.length ≤ 16 then { day with stage := .finished userArea }
    else
      let (sOne, userArea) := oddOne userArea
      let (userArea1, userArea2) := split userArea
      if userArea1.length ≠ userArea2.length then { day with stage := .failed }
      else { day with remainUserArea := [], stage := .fight2Array userArea1.reverse userArea2.reverse sOne }
  | .fight2Array (ua1 :: rest1) (ua2 :: rest2) sOne =>
    match outcome with
    | .error _ => { day with stage := .failed }
    | .ok outcome =>
      { calFightResult robot ua1.ua ua2.ua outcome (noteBoth ua1.ua ua2.ua day) with
        stage := .fight2Array rest1 rest2 sOne }
  | .fight2Array _ _ sOne =>
    { day with count := day.count + 1, stage := .fightOne (day.remainUserArea ++ sOne.toList) }
  | .finished _ | .failed => day

/-- The first call. -/
def start (entrants : List UserArea) (ticketDay : UserArea → Int) (lists : UserArea → List FightInfo) : Day :=
  ⟨ticketDay, lists, ⟨[], fun _ => none⟩, [], 0, .fightOne (entrants.map (⟨·, none⟩))⟩

end

/-! ### Tickets -/

section
variable {ε : Type} {robot : UserArea → Option Nat} {day : Day} {ua1 ua2 : UserArea} {winner : Nat}
  {entrants : List UserArea} {ticketDay : UserArea → Int}

/-- The side that wins, and the other one. -/
def victor (winner : Nat) (ua1 ua2 : UserArea) : UserArea := if winner = 1 then ua1 else ua2
def loser (winner : Nat) (ua1 ua2 : UserArea) : UserArea := if winner = 1 then ua2 else ua1

/-- `moved` tickets go from one pvp info to another. -/
def Transfers (before after : UserArea → Int) (source target : UserArea) (moved : Int) : Prop :=
  ∀ ua, after ua = before ua + (if ua = target then moved else 0) - if ua = source then moved else 0

/-- Take from the loser what the winner gets, whichever branch settles the fight. -/
theorem settle_eq (winner : Nat) (ua1 ua2 : UserArea) (ticketDay : UserArea → Int) :
    let moved := min (ticketDay ua1) (ticketDay ua2)
    let paid := Function.update ticketDay (loser winner ua1 ua2) (ticketDay (loser winner ua1 ua2) - moved)
    settle winner ua1 ua2 ticketDay =
      (moved, Function.update paid (victor winner ua1 ua2) (paid (victor winner ua1 ua2) + moved)) := by
  unfold settle victor loser
  by_cases first : winner = 1
  · simp only [first, if_true]
    by_cases more : ticketDay ua1 ≥ ticketDay ua2
    · rw [if_pos more, Int.min_eq_right more, Int.sub_self]
    · rw [if_neg more, Int.min_eq_left (by omega)]
  · simp only [first, if_false]
    by_cases more : ticketDay ua2 ≥ ticketDay ua1
    · rw [if_pos more, Int.min_eq_left more, Int.sub_self]
    · rw [if_neg more, Int.min_eq_right (by omega)]

theorem settle_transfers (winner : Nat) (ua1 ua2 : UserArea) (ticketDay : UserArea → Int) :
    (settle winner ua1 ua2 ticketDay).1 = min (ticketDay ua1) (ticketDay ua2) ∧
      Transfers ticketDay (settle winner ua1 ua2 ticketDay).2 (loser winner ua1 ua2) (victor winner ua1 ua2)
        (min (ticketDay ua1) (ticketDay ua2)) := by
  rw [settle_eq]
  refine ⟨rfl, fun ua => ?_⟩
  simp only [Function.update_apply]
  by_cases target : ua = victor winner ua1 ua2
  · subst target
    by_cases source : victor winner ua1 ua2 = loser winner ua1 ua2
    · simp [source]
    · simp [source]
  · by_cases source : ua = loser winner ua1 ua2
    · have different : loser winner ua1 ua2 ≠ victor winner ua1 ua2 := source ▸ target
      simp [source, different]
    · simp [target, source]

/-- What both sides have can be moved, so nobody falls below zero. -/
theorem Transfers.nonneg {before after : UserArea → Int} (moves : Transfers before after (loser winner ua1 ua2)
    (victor winner ua1 ua2) (min (before ua1) (before ua2))) (have1 : 0 ≤ before ua1) (have2 : 0 ≤ before ua2)
    {ua : UserArea} (had : 0 ≤ before ua) : 0 ≤ after ua := by
  rw [moves ua]
  by_cases source : ua = loser winner ua1 ua2
  · have covered : min (before ua1) (before ua2) ≤ before ua := by
      rw [source]
      unfold loser
      split
      · exact Int.min_le_right _ _
      · exact Int.min_le_left _ _
    rw [if_pos source]
    split <;> omega
  · rw [if_neg source]
    split <;> omega

theorem sum_indicator (distinct : entrants.Nodup) {ua : UserArea} (member : ua ∈ entrants) (moved : Int) :
    (entrants.map fun u => if u = ua then moved else 0).sum = moved := by
  rw [List.sum_map_ite_eq entrants (fun _ => moved) (fun _ => 0), List.count_eq_one_of_mem distinct member]
  simp

theorem Transfers.sum {before after : UserArea → Int} {source target : UserArea} {moved : Int}
    (moves : Transfers before after source target moved) (distinct : entrants.Nodup) (member : source ∈ entrants)
    (member' : target ∈ entrants) : (entrants.map after).sum = (entrants.map before).sum := by
  have paid : (entrants.map fun ua => after ua + if ua = source then moved else 0) =
      entrants.map fun ua => before ua + if ua = target then moved else 0 := by
    refine List.map_congr_left fun ua _ => ?_
    rw [moves ua]
    omega
  have sums := congrArg List.sum paid
  rw [List.sum_map_add, List.sum_map_add, sum_indicator distinct member, sum_indicator distinct member'] at sums
  omega

/-! ### Steps -/

theorem split_length : ∀ userArea : List Entrant,
    (split userArea).1.length = (userArea.length + 1) / 2 ∧ (split userArea).2.length = userArea.length / 2
  | a :: b :: rest => by
    obtain ⟨first, second⟩ := split_length rest
    simp only [split, List.length_cons, first, second]
    omega
  | [a] => by simp [split]
  | [] => by simp [split]

theorem oddOne_length (userArea : List Entrant) : (oddOne userArea).2.length = userArea.length / 2 * 2 := by
  unfold oddOne
  split
  · rw [List.length_tail]
    omega
  · dsimp only
    omega

/-- The arrays of a round are of one length. -/
theorem split_even (userArea : List Entrant) :
    (split (oddOne userArea).2).1.length = userArea.length / 2 ∧ (split (oddOne userArea).2).2.length = userArea.length / 2 := by
  obtain ⟨first, second⟩ := split_length (oddOne userArea).2
  rw [oddOne_length] at first second
  omega

/-- What a call can do. -/
inductive Moves (robot : UserArea → Option Nat) (day : Day) : Except ε Outcome → Day → Prop where
  | close {userArea : List Entrant} (outcome : Except ε Outcome) (stage : day.stage = .fightOne userArea)
      (last : 10 ≤ day.count ∨ userArea.length ≤ 16) : Moves robot day outcome { day with stage := .finished userArea }
  | pair {userArea : List Entrant} (outcome : Except ε Outcome) (stage : day.stage = .fightOne userArea)
      (more : day.count < 10 ∧ 16 < userArea.length) :
      Moves robot day outcome { day with
        remainUserArea := []
        stage := .fight2Array (split (oddOne userArea).2).1.reverse (split (oddOne userArea).2).2.reverse (oddOne userArea).1 }
  | fight {ua1 ua2 : Entrant} {rest1 rest2 : List Entrant} {sOne : Option Entrant} (outcome : Outcome)
      (stage : day.stage = .fight2Array (ua1 :: rest1) (ua2 :: rest2) sOne) :
      Moves robot day (.ok outcome) { calFightResult robot ua1.ua ua2.ua outcome (noteBoth ua1.ua ua2.ua day) with
        stage := .fight2Array rest1 rest2 sOne }
  | error {ua1 ua2 : Entrant} {rest1 rest2 : List Entrant} {sOne : Option Entrant} (e : ε)
      (stage : day.stage = .fight2Array (ua1 :: rest1) (ua2 :: rest2) sOne) :
      Moves robot day (.error e) { day with stage := .failed }
  | next {userArea1 userArea2 : List Entrant} {sOne : Option Entrant} (outcome : Except ε Outcome)
      (stage : day.stage = .fight2Array userArea1 userArea2 sOne) (fought : userArea1 = [] ∨ userArea2 = []) :
      Moves robot day outcome { day with
        count := day.count + 1
        stage := .fightOne (day.remainUserArea ++ sOne.toList) }
  | stopped (outcome : Except ε Outcome) (stage : day.stage = .failed ∨ ∃ userArea, day.stage = .finished userArea) :
      Moves robot day outcome day

theorem step_moves (robot : UserArea → Option Nat) (day : Day) (outcome : Except ε Outcome) :
    Moves robot day outcome (step robot day outcome) := by
  unfold step
  cases stage : day.stage with
  | fightOne userArea =>
    dsimp only
    by_cases last : 10 ≤ day.count ∨ userArea.length ≤ 16
    · rw [if_pos last]
      exact .close outcome stage last
    · obtain ⟨first, second⟩ := split_even userArea
      rw [if_neg last, if_neg (by rw [first, second]; exact fun different => different rfl)]
      exact .pair outcome stage (by omega)
  | fight2Array userArea1 userArea2 sOne =>
    cases userArea1 with
    | nil => exact .next outcome stage (.inl rfl)
    | cons ua1 rest1 =>
      cases userArea2 with
      | nil => exact .next outcome stage (.inr rfl)
      | cons ua2 rest2 =>
        cases outcome with
        | error e => exact .error e stage
        | ok outcome => exact .fight outcome stage
  | finished userArea => exact .stopped outcome (.inr ⟨userArea, stage⟩)
  | failed => exact .stopped outcome (.inl stage)

/-- Everybody who is not out. -/
def Day.field (day : Day) : List Entrant :=
  match day.stage with
  | .fightOne userArea => userArea
  | .fight2Array userArea1 userArea2 sOne => userArea1 ++ userArea2 ++ sOne.toList ++ day.remainUserArea
  | .finished userArea => userArea
  | .failed => []

theorem split_perm : ∀ userArea : List Entrant, ((split userArea).1 ++ (split userArea).2).Perm userArea
  | a :: b :: rest => by
    refine List.Perm.cons a (List.perm_middle.trans ?_)
    exact List.Perm.cons b (split_perm rest)
  | [a] => .refl _
  | [] => .refl _

theorem oddOne_eq (userArea : List Entrant) : (oddOne userArea).1.toList ++ (oddOne userArea).2 = userArea := by
  unfold oddOne
  split
  · cases userArea <;> rfl
  · rfl

/-- The arrays of a round are the field. -/
theorem round_perm (userArea : List Entrant) :
    ((split (oddOne userArea).2).1.reverse ++ (split (oddOne userArea).2).2.reverse ++ (oddOne userArea).1.toList).Perm
      userArea := by
  have arrays := ((List.reverse_perm _).append (List.reverse_perm _)).trans (split_perm (oddOne userArea).2)
  refine ((arrays.append_right _).trans List.perm_append_comm).trans ?_
  rw [oddOne_eq]

/-- What a side of a fight leaves in the field. -/
theorem place_remain (playerInfo : UserArea) (tickets : Int) (remain : List Entrant) (s : SortResult) :
    (place playerInfo tickets remain s).1 =
      remain ++ if tickets ≠ 0 then [⟨playerInfo, some tickets⟩] else [] := by
  unfold place
  split <;> simp

theorem playerInfos_mem (robot : UserArea → Option Nat) (ua1 ua2 : UserArea) :
    ((playerInfos robot ua1 ua2).1 = ua1 ∨ (playerInfos robot ua1 ua2).1 = ua2) ∧
      (playerInfos robot ua1 ua2).2 = ua2 := by
  unfold playerInfos
  split <;> simp

/-- The tickets of a fight. -/
theorem calFightResult_ticketDay (robot : UserArea → Option Nat) (ua1 ua2 : UserArea) (outcome : Outcome) (day : Day) :
    (calFightResult robot ua1 ua2 outcome day).ticketDay = (settle outcome.winner ua1 ua2 day.ticketDay).2 := rfl

theorem calFightResult_remain (robot : UserArea → Option Nat) (ua1 ua2 : UserArea) (outcome : Outcome) (day : Day) :
    ∀ e ∈ (calFightResult robot ua1 ua2 outcome day).remainUserArea, e ∈ day.remainUserArea ∨ e.ua = ua1 ∨ e.ua = ua2 := by
  intro e there
  obtain ⟨first, second⟩ := playerInfos_mem robot ua1 ua2
  simp only [calFightResult, place_remain, List.mem_append] at there
  rcases there with (old | new) | new
  · exact .inl old
  · split at new
    · rw [List.mem_singleton.mp new]
      exact .inr first
    · cases new
  · split at new
    · rw [List.mem_singleton.mp new]
      exact .inr (.inr second)
    · cases new

/-- The reward is kept with both sides. -/
theorem calFightResult_kept (robot : UserArea → Option Nat) (ua1 ua2 : UserArea) (outcome : Outcome) (day : Day) :
    ∃ info : FightInfo, info.winner = outcome.winner ∧
      info.ticketDay = (settle outcome.winner ua1 ua2 day.ticketDay).1 ∧
      ((calFightResult robot ua1 ua2 outcome day).fightInfoListDay ua1).getLast? = some info ∧
      ((calFightResult robot ua1 ua2 outcome day).fightInfoListDay ua2).getLast? = some info := by
  refine ⟨⟨(playerInfos robot ua1 ua2).1, (playerInfos robot ua1 ua2).2, outcome.winner, outcome.seed,
    (settle outcome.winner ua1 ua2 day.ticketDay).1⟩, rfl, rfl, ?_, ?_⟩
  · by_cases same : ua1 = ua2
    · subst same
      simp [calFightResult]
    · simp [calFightResult, Function.update_of_ne same]
  · simp [calFightResult]

/-- What holds of the tickets throughout. -/
structure Conserves (entrants : List UserArea) (total : Int) (day : Day) : Prop where
  within : ∀ e ∈ day.field, e.ua ∈ entrants
  nonneg : ∀ ua ∈ entrants, 0 ≤ day.ticketDay ua
  sum : (entrants.map day.ticketDay).sum = total

theorem conserves_step {total : Int} (distinct : entrants.Nodup) (conserves : Conserves entrants total day)
    (outcome : Except ε Outcome) : Conserves entrants total (step robot day outcome) := by
  obtain ⟨within, nonneg, sum⟩ := conserves
  unfold Day.field at within
  generalize moved : step robot day outcome = day'
  have moves := step_moves robot day outcome
  rw [moved] at moves
  cases moves with
  | close _ stage => rw [stage] at within; exact ⟨within, nonneg, sum⟩
  | pair _ stage =>
    rw [stage] at within
    refine ⟨fun e there => within e ?_, nonneg, sum⟩
    simp only [Day.field, List.append_nil] at there
    exact (round_perm _).subset there
  | fight outcome stage =>
    rename_i ua1 ua2 rest1 rest2 sOne
    rw [stage] at within
    have in1 : ua1.ua ∈ entrants := within ua1 (by simp)
    have in2 : ua2.ua ∈ entrants := within ua2 (by simp)
    obtain ⟨-, transfers⟩ := settle_transfers outcome.winner ua1.ua ua2.ua day.ticketDay
    refine ⟨fun e there => ?_, fun ua there => transfers.nonneg (nonneg _ in1) (nonneg _ in2) (nonneg ua there), ?_⟩
    · simp only [Day.field, List.mem_append] at there
      rcases there with ((one | two) | odd) | stays
      · exact within e (by simp [one])
      · exact within e (by simp [two])
      · exact within e (by simp [odd])
      · rcases calFightResult_remain robot ua1.ua ua2.ua outcome _ e stays with old | same | same
        · exact within e (by simp [show e ∈ day.remainUserArea from old])
        · exact same ▸ in1
        · exact same ▸ in2
    · refine (transfers.sum distinct ?_ ?_).trans sum
      · unfold loser
        split <;> assumption
      · unfold victor
        split <;> assumption
  | error e stage => exact ⟨fun e there => absurd there List.not_mem_nil, nonneg, sum⟩
  | next _ stage =>
    rw [stage] at within
    refine ⟨fun e there => within e ?_, nonneg, sum⟩
    simp only [Day.field, List.mem_append] at there ⊢
    tauto
  | stopped _ stage => exact ⟨within, nonneg, sum⟩

theorem start_conserves (ticketDay : UserArea → Int) (lists : UserArea → List FightInfo)
    (nonneg : ∀ ua ∈ entrants, 0 ≤ ticketDay ua) :
    Conserves entrants (entrants.map ticketDay).sum (start entrants ticketDay lists) := by
  refine ⟨fun e there => ?_, nonneg, rfl⟩
  obtain ⟨ua, listed, rfl⟩ := List.mem_map.mp there
  exact listed

theorem conserves_run {total : Int} (distinct : entrants.Nodup) (outcomes : List (Except ε Outcome))
    (conserves : Conserves entrants total day) : Conserves entrants total (run (step robot) day outcomes) := by
  induction outcomes generalizing day with
  | nil => exact conserves
  | cons outcome rest ih => exact ih (conserves_step distinct conserves outcome)

/-- **Tickets.** However the fights end, no tickets are lost or made, nobody is in debt, and the next
fight moves what both sides have. -/
theorem tickets_conserved (robot : UserArea → Option Nat) (distinct : entrants.Nodup)
    (nonneg : ∀ ua ∈ entrants, 0 ≤ ticketDay ua) (lists : UserArea → List FightInfo) (outcomes : List (Except ε Outcome)) :
    let day := run (step robot) (start entrants ticketDay lists) outcomes
    (entrants.map day.ticketDay).sum = (entrants.map ticketDay).sum ∧ (∀ ua ∈ entrants, 0 ≤ day.ticketDay ua) ∧
      ∀ (ua1 ua2 : Entrant) (rest1 rest2 : List Entrant) (sOne : Option Entrant) (outcome : Outcome),
        day.stage = .fight2Array (ua1 :: rest1) (ua2 :: rest2) sOne →
        let after := step robot day (.ok outcome : Except ε Outcome)
        let moved := min (day.ticketDay ua1.ua) (day.ticketDay ua2.ua)
        Transfers day.ticketDay after.ticketDay (loser outcome.winner ua1.ua ua2.ua) (victor outcome.winner ua1.ua ua2.ua)
            moved ∧
          ∃ info : FightInfo, info.winner = outcome.winner ∧ info.ticketDay = moved ∧
            (after.fightInfoListDay ua1.ua).getLast? = some info ∧ (after.fightInfoListDay ua2.ua).getLast? = some info := by
  intro day
  have conserves : Conserves entrants (entrants.map ticketDay).sum day :=
    conserves_run distinct outcomes (start_conserves ticketDay lists nonneg)
  refine ⟨conserves.sum, conserves.nonneg, fun ua1 ua2 rest1 rest2 sOne outcome stage => ?_⟩
  obtain ⟨reward, transfers⟩ := settle_transfers outcome.winner ua1.ua ua2.ua day.ticketDay
  obtain ⟨info, winner, kept, first, second⟩ := calFightResult_kept robot ua1.ua ua2.ua outcome (noteBoth ua1.ua ua2.ua day)
  have moved : step robot day (.ok outcome : Except ε Outcome) =
      { calFightResult robot ua1.ua ua2.ua outcome (noteBoth ua1.ua ua2.ua day) with
        stage := .fight2Array rest1 rest2 sOne } := by
    rw [step, stage]
  dsimp only
  rw [moved]
  exact ⟨transfers, info, winner, kept.trans reward, first, second⟩

/-- Seventeen players with a hundred tickets each. -/
def seventeen : List UserArea :=
  ["a", "b", "c", "d", "e", "f", "g", "h", "i", "j", "k", "l", "m", "n", "o", "p", "q"].map (⟨"1", ·⟩)

/-- The pairing, two fights, and one that cannot be held. -/
def fights : List (Except Unit Outcome) := [.ok ⟨1, 7⟩, .ok ⟨1, 7⟩, .ok ⟨2, 8⟩, .error ()]

theorem tickets_conserved_seventeen :
    (seventeen.map (run (step fun _ => none) (start seventeen (fun _ => 100) fun _ => []) fights).ticketDay).sum = 1700 :=
  (tickets_conserved (fun _ => none) (by decide) (fun _ _ => by decide) (fun _ => []) fights).1

end
end Tinygame.DayFight
