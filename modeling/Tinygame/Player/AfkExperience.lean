import Tinygame.Hero.Experience
import Tinygame.Player.AfkTime

/-!
# The experience of afk points

`offlineProfit` and `onlineProfit` of `hangup_imp.js` with what they do to the experience of a player and of the heroes in
the team. A fight that is lost sets no profit, and what was never set is added all the same.
-/

namespace Tinygame.Player.Afk
open Bag (Id Failure present)
open Hero (Exprience Grown playerLevelLimit expLevelLimit passed passed_mono granted_total climb_of_neg limitLevel_cases)

/-! ### The handlers -/

/-- A row of `config/map/afkreward`, with the experience of a fight. -/
structure RewardRow extends AfkRewardRow where
  onlineexp : Nat

/-- `result`: what is not set counts as NaN. -/
structure Profit where
  gold : Amount := none
  exp : Amount := none

def calOfflineProfit (row : RewardRow) (offTime : Int) : Profit :=
  if row.offlineinterval = 0 then {}
  else { gold := some (row.num offTime * row.offlinegold), exp := some (row.num offTime * row.offlineexp) }

def calOnlineProfit (row : RewardRow) : Profit := { gold := some row.onlinegold, exp := some row.onlineexp }

inductive Request
  | offlineProfit (sinceProAfkTime : Int)
  | onlineProfit (isWin : Id)

/-- `resourceID` is that of the node the player waits on. -/
def calProfit (Afkreward : String → Option RewardRow) (resourceID : Option String) (request : Request) : Except Failure Profit := do
  let akfrewardid ← present resourceID .typeError
  match request with
  | .offlineProfit sinceProAfkTime =>
    let row ← present (Afkreward akfrewardid) .typeError
    return calOfflineProfit row (if sinceProAfkTime ≥ afkMaxTime then afkMaxTime else sinceProAfkTime)
  | .onlineProfit isWin =>
    if isWin.same (.number 1) then
      let row ← present (Afkreward akfrewardid) .typeError
      return calOnlineProfit row
    else return {}

/-- The fields of a hero or a player that a level comes from, as they are stored: `curExp` may be NaN. -/
structure Holder where
  level : Int
  curExp : Amount
  deriving DecidableEq

def Holder.of (grown : Grown) : Holder := ⟨grown.level, some grown.curExp⟩

/-- NaN is not enough for a level, and the level is cut all the same. -/
def Holder.spoiled (holder : Holder) : Holder :=
  ⟨Hero.limitLevel (if holder.level ≠ 0 then holder.level else -1), none⟩

section
variable (table : Exprience)

def addPlayerExp (exp : Amount) (playerInfo : Holder) : Holder :=
  match playerInfo.curExp, exp with
  | some curExp, some exp => .of (Hero.addPlayerExp table exp ⟨playerInfo.level, curExp⟩).1
  | _, _ => playerInfo.spoiled

def addHeroExp (exp : Amount) (heroInfo : Holder) : Holder :=
  match heroInfo.curExp, exp with
  | some curExp, some exp => .of (Hero.addHeroExp table exp ⟨heroInfo.level, curExp⟩)
  | _, _ => heroInfo.spoiled

structure Data where
  data : DataValue
  player : Holder
  teamHeroList : Obj Holder

variable (Afkreward : String → Option RewardRow)

/-- `offlineProfit` and `onlineProfit`, which differ in the profit alone. -/
def profit (data : Data) (resourceID : Option String) (request : Request) : Except Failure Data := do
  let result ← calProfit Afkreward resourceID request
  return {
    data := (addPlayerGold result.gold data.data).2
    player := addPlayerExp table result.exp data.player
    teamHeroList := data.teamHeroList.update fun _ => addHeroExp table result.exp }

/-- A request that throws stores nothing. -/
def stored (data : Data) (resourceID : Option String) (request : Request) : Data :=
  match profit table Afkreward data resourceID request with
  | .ok after => after
  | .error _ => data

end

/-- The gold of a row, as the handlers elsewhere read it. -/
def goldRows (Afkreward : String → Option RewardRow) (akfrewardid : String) : Option AfkRow :=
  (Afkreward akfrewardid).map fun row => row.toAfkRow

theorem offline_gold (Afkreward : String → Option RewardRow) (resourceID : Option String) (sinceProAfkTime : Int) :
    (calProfit Afkreward resourceID (.offlineProfit sinceProAfkTime)).map Profit.gold =
      Player.calProfit (goldRows Afkreward) resourceID true sinceProAfkTime .undefined := by
  cases resourceID with
  | none => rfl
  | some akfrewardid =>
    unfold calProfit Player.calProfit goldRows
    cases found : Afkreward akfrewardid with
    | none => simp [present, bind, Except.bind, Except.map, found]
    | some row =>
      simp only [present, bind, Except.bind, pure, Except.pure, Except.map, if_true, found, Option.map_some]
      unfold calOfflineProfit Player.calOfflineProfit
      split <;> rfl

theorem online_gold (Afkreward : String → Option RewardRow) (resourceID : Option String) (isWin : Id) :
    (calProfit Afkreward resourceID (.onlineProfit isWin)).map Profit.gold =
      Player.calProfit (goldRows Afkreward) resourceID false 0 isWin := by
  cases resourceID with
  | none => rfl
  | some akfrewardid =>
    unfold calProfit Player.calProfit goldRows
    cases win : isWin.same (.number 1) <;> cases found : Afkreward akfrewardid <;>
      simp [present, bind, Except.bind, pure, Except.pure, Except.map, win, found, calOnlineProfit]

/-! ### What is meant -/

section
variable (table : Exprience)

/-- What is credited goes beyond the last level. -/
def Cut (exp : Int) (grown : Grown) : Prop := passed table (playerLevelLimit + 1) ≤ grown.total table + exp

/-- The level and the experience are no negative numbers, and together no less than they were, where the highest level does
not cut them off. -/
structure Grows (exp : Amount) (before : Grown) (after : Holder) : Prop where
  level : 0 ≤ after.level
  curExp : ∃ curExp, after.curExp = some curExp ∧ 0 ≤ curExp ∧
    (before.total table ≤ (Grown.mk after.level curExp).total table ∨ ∃ credited, exp = some credited ∧ Cut table credited before)

/-- The most that is credited to a hero at once. -/
def heroExp (exp : Int) : Int := if exp > expLevelLimit then expLevelLimit else exp

/-- A player and a team with numbers. -/
structure Valid (data : Data) (player : Grown) (heroes : Obj Grown) : Prop where
  here : data.player = .of player
  level : 0 ≤ player.level
  curExp : 0 ≤ player.curExp
  team : ∀ heroId, data.teamHeroList.get? heroId = (heroes.get? heroId).map Holder.of
  numbers : ∀ heroId hero, heroes.get? heroId = some hero → 0 ≤ hero.level ∧ 0 ≤ hero.curExp

/-- Everybody who gets experience keeps what was there. -/
def KeepsExperience (exp : Amount) (player : Grown) (heroes : Obj Grown) (after : Data) : Prop :=
  Grows table exp player after.player ∧ ∀ heroId hero, heroes.get? heroId = some hero →
    ∃ holder, after.teamHeroList.get? heroId = some holder ∧ Grows table (exp.map heroExp) hero holder

/-- What is credited can be. -/
def Bears (exp : Int) (grown : Grown) : Prop :=
  grown.level ≠ 0 ∧ 0 ≤ grown.curExp + exp ∧ (0 ≤ exp ∨ Cut table exp grown)

def AllBear (exp : Int) (player : Grown) (heroes : Obj Grown) : Prop :=
  Bears table exp player ∧ ∀ heroId hero, heroes.get? heroId = some hero → Bears table (heroExp exp) hero

variable (Afkreward : String → Option RewardRow)

/-- The exp of the profit, if there is one. -/
def expOf (resourceID : Option String) (request : Request) : Amount :=
  ((calProfit Afkreward resourceID request).toOption).bind Profit.exp

/-- A fight is won, or time has passed. -/
def Profits (resourceID : Option String) (player : Grown) (heroes : Obj Grown) : Request → Prop
  | .offlineProfit sinceProAfkTime => ∀ akfrewardid row, resourceID = some akfrewardid → Afkreward akfrewardid = some row →
      0 < row.offlineinterval ∧
        AllBear table (row.num (if sinceProAfkTime ≥ afkMaxTime then afkMaxTime else sinceProAfkTime) * row.offlineexp) player heroes
  | .onlineProfit isWin => ∀ akfrewardid, resourceID = some akfrewardid → isWin.same (.number 1) = true ∧
      ∀ row, Afkreward akfrewardid = some row → AllBear table row.onlineexp player heroes

end

/-! ### One holder -/

section
variable {table : Exprience} {grown : Grown} {exp : Int}

/-- The levels that are climbed go beyond the last one exactly when the experience does. -/
theorem climb_above (start : 1 ≤ grown.level) (nonneg : 0 ≤ grown.curExp) :
    playerLevelLimit < (Hero.climb table grown).level ↔ passed table (playerLevelLimit + 1) ≤ grown.total table := by
  by_cases within : grown.level ≤ playerLevelLimit
  · rw [← not_iff_not, not_lt, not_le]
    exact Hero.climb_level_le_iff start within
  · have climbed := Hero.climb_level_le table grown
    have mono := passed_mono table (show playerLevelLimit + 1 ≤ grown.level by omega)
    unfold Grown.total
    omega

/-- What a loop and the cut leave of a holder who is credited experience. -/
def credited (table : Exprience) (exp : Int) (grown : Grown) : Holder :=
  .of { Hero.climb table (grown.granted exp) with level := Hero.limitLevel (Hero.uncapped table grown exp) }

theorem grows_credited_iff (low : 0 < grown.level) :
    Grows table (some exp) grown (credited table exp grown) ↔ Bears table exp grown := by
  have climbed : grown.level ≤ Hero.uncapped table grown exp := Hero.climb_level_le table (grown.granted exp)
  have total : (Hero.climb table (grown.granted exp)).total table = grown.total table + exp := Hero.climb_granted_total low
  have above (pays : 0 ≤ grown.curExp + exp) : playerLevelLimit < Hero.uncapped table grown exp ↔ Cut table exp grown := by
    unfold Cut
    rw [← granted_total]
    show playerLevelLimit < (Hero.climb table (grown.granted exp)).level ↔ _
    exact climb_above low pays
  have level : 0 ≤ Hero.limitLevel (Hero.uncapped table grown exp) := by
    have cap : (0 : Int) ≤ playerLevelLimit := by decide
    rcases limitLevel_cases (Hero.uncapped table grown exp) with ⟨same, -⟩ | ⟨same, -⟩ <;> omega
  constructor
  · rintro ⟨-, curExp, left, rich, more⟩
    obtain rfl := Option.some.inj left
    have pays : 0 ≤ grown.curExp + exp := by
      by_contra owes
      have same : Hero.climb table (grown.granted exp) = grown.granted exp := climb_of_neg (Int.not_le.mp owes)
      have rich : 0 ≤ (Hero.climb table (grown.granted exp)).curExp := rich
      rw [same] at rich
      exact owes rich
    refine ⟨by omega, pays, ?_⟩
    rcases more with more | ⟨_, same, cut⟩
    · rcases limitLevel_cases (Hero.uncapped table grown exp) with ⟨same, -⟩ | ⟨-, high⟩
      · refine .inl ?_
        dsimp only [credited, Holder.of] at more
        rw [same] at more
        have more : grown.total table ≤ (Hero.climb table (grown.granted exp)).total table := more
        omega
      · exact .inr ((above pays).mp high)
    · obtain rfl := Option.some.inj same
      exact .inr cut
  · rintro ⟨-, pays, bears⟩
    have left : 0 ≤ (Hero.climb table (grown.granted exp)).curExp := Hero.climb_curExp_nonneg pays
    refine ⟨level, _, rfl, left, ?_⟩
    rcases bears with more | cut
    · rcases limitLevel_cases (Hero.uncapped table grown exp) with ⟨same, -⟩ | ⟨-, high⟩
      · refine .inl ?_
        dsimp only [credited, Holder.of]
        rw [same]
        show grown.total table ≤ (Hero.climb table (grown.granted exp)).total table
        omega
      · exact .inr ⟨exp, rfl, (above pays).mp high⟩
    · exact .inr ⟨exp, rfl, cut⟩

/-- NaN never is experience. -/
theorem not_grows_spoiled (exp : Amount) (grown : Grown) (holder : Holder) : ¬ Grows table exp grown holder.spoiled := by
  rintro ⟨-, curExp, none', -⟩
  cases none'

theorem grows_same (low : 0 ≤ grown.level) (nonneg : 0 ≤ grown.curExp) (exp : Amount) : Grows table exp grown (.of grown) :=
  ⟨low, grown.curExp, rfl, nonneg, .inl (Int.le_refl _)⟩

/-- Without a level nothing is climbed, and the level is lost. -/
theorem not_grows_lost {holder : Holder} (lost : holder.level = -1) (exp : Amount) : ¬ Grows table exp grown holder := by
  intro grows
  have low := grows.level
  omega

theorem addPlayerExp_grows_iff (low : 0 ≤ grown.level) :
    Grows table (some exp) grown (addPlayerExp table (some exp) (.of grown)) ↔ Bears table exp grown := by
  by_cases alive : grown.level = 0
  · refine iff_of_false (not_grows_lost ?_ _) fun bears => bears.1 alive
    show (Hero.addPlayerExp table exp grown).1.level = -1
    unfold Hero.addPlayerExp Hero.calExpAndLevel
    dsimp only
    rw [if_neg (not_not_intro alive)]
    rfl
  · have same : addPlayerExp table (some exp) (.of grown) = credited table exp grown := congrArg Holder.of (Hero.addPlayerExp_eq alive)
    rw [same]
    exact grows_credited_iff (by omega)

theorem addHeroExp_grows_iff (low : 0 ≤ grown.level) :
    Grows table (some (heroExp exp)) grown (addHeroExp table (some exp) (.of grown)) ↔ Bears table (heroExp exp) grown := by
  have small : heroExp exp ≤ expLevelLimit := by
    unfold heroExp
    split <;> omega
  have again : Hero.addHeroExp table exp grown = Hero.addHeroExp table (heroExp exp) grown := by
    have same : (if heroExp exp > expLevelLimit then expLevelLimit else heroExp exp) = heroExp exp := if_neg (Int.not_lt.mpr small)
    unfold Hero.addHeroExp
    dsimp only
    rw [same]
    rfl
  by_cases alive : grown.level = 0
  · refine iff_of_false (not_grows_lost ?_ _) fun bears => bears.1 alive
    show (Hero.addHeroExp table exp grown).level = -1
    unfold Hero.addHeroExp Hero.calHeroExpAndLevel
    dsimp only
    rw [if_neg (not_not_intro alive)]
    rfl
  · have same : addHeroExp table (some exp) (.of grown) = credited table (heroExp exp) grown :=
      congrArg Holder.of (again.trans (Hero.addHeroExp_eq alive small))
    rw [same]
    exact grows_credited_iff (by omega)

/-! ### Everybody -/

variable {Afkreward : String → Option RewardRow} {data : Data} {resourceID : Option String} {player : Grown} {heroes : Obj Grown}

theorem keepsExperience_iff (valid : Valid data player heroes) (after : DataValue) :
    KeepsExperience table (some exp) player heroes
        ⟨after, addPlayerExp table (some exp) data.player, data.teamHeroList.update fun _ => addHeroExp table (some exp)⟩ ↔
      AllBear table exp player heroes := by
  unfold KeepsExperience AllBear
  rw [valid.here, addPlayerExp_grows_iff valid.level]
  refine and_congr_right fun _ => forall₃_congr fun heroId hero there => ?_
  have here : (data.teamHeroList.update fun _ => addHeroExp table (some exp)).get? heroId =
      some (addHeroExp table (some exp) (.of hero)) := by
    rw [Obj.get?_update, valid.team, there]
    rfl
  rw [← addHeroExp_grows_iff (valid.numbers heroId hero there).1]
  constructor
  · rintro ⟨holder, found, grows⟩
    obtain rfl := Option.some.inj (here.symm.trans found)
    exact grows
  · intro grows
    exact ⟨_, here, grows⟩

/-- A profit that was not set spoils the experience. -/
theorem not_keepsExperience (valid : Valid data player heroes) (exp : Amount) (after : DataValue) (team : Obj Holder) :
    ¬ KeepsExperience table exp player heroes ⟨after, addPlayerExp table none data.player, team⟩ := by
  rintro ⟨grows, -⟩
  rw [valid.here] at grows
  exact not_grows_spoiled exp player (.of player) grows

/-- A request that throws leaves the experience as it is. -/
theorem keepsExperience_same (valid : Valid data player heroes) (exp : Amount) : KeepsExperience table exp player heroes data := by
  refine ⟨valid.here ▸ grows_same valid.level valid.curExp exp, fun heroId hero there => ⟨.of hero, ?_, ?_⟩⟩
  · rw [valid.team, there]
    rfl
  · obtain ⟨level, curExp⟩ := valid.numbers heroId hero there
    exact grows_same level curExp _

variable {request : Request} {result : Profit}

theorem calProfit_offline {akfrewardid : String} {row : RewardRow} (found : Afkreward akfrewardid = some row) (sinceProAfkTime : Int) :
    calProfit Afkreward (some akfrewardid) (.offlineProfit sinceProAfkTime) =
      .ok (calOfflineProfit row (if sinceProAfkTime ≥ afkMaxTime then afkMaxTime else sinceProAfkTime)) := by
  simp [calProfit, present, found, bind, Except.bind, pure, Except.pure]

theorem calProfit_won {akfrewardid : String} {row : RewardRow} (found : Afkreward akfrewardid = some row) {isWin : Id}
    (win : isWin.same (.number 1) = true) : calProfit Afkreward (some akfrewardid) (.onlineProfit isWin) = .ok (calOnlineProfit row) := by
  simp [calProfit, present, found, win, bind, Except.bind, pure, Except.pure]

/-- The row is not looked for when the fight is lost. -/
theorem calProfit_lost (akfrewardid : String) {isWin : Id} (lost : isWin.same (.number 1) = false) :
    calProfit Afkreward (some akfrewardid) (.onlineProfit isWin) = .ok {} := by
  simp [calProfit, present, lost, bind, Except.bind, pure, Except.pure]

theorem keepsExperience_error {failure : Failure} (valid : Valid data player heroes)
    (run : calProfit Afkreward resourceID request = .error failure) :
    KeepsExperience table (expOf Afkreward resourceID request) player heroes (stored table Afkreward data resourceID request) := by
  unfold stored profit
  rw [run]
  exact keepsExperience_same valid _

theorem keepsExperience_exp (valid : Valid data player heroes) (run : calProfit Afkreward resourceID request = .ok result)
    (credits : result.exp = some exp) :
    KeepsExperience table (expOf Afkreward resourceID request) player heroes (stored table Afkreward data resourceID request) ↔
      AllBear table exp player heroes := by
  have given : expOf Afkreward resourceID request = some exp := by
    unfold expOf
    rw [run]
    exact credits
  unfold stored profit
  rw [given, run]
  show KeepsExperience table _ _ _
    ⟨_, addPlayerExp table result.exp data.player, data.teamHeroList.update fun _ => addHeroExp table result.exp⟩ ↔ _
  rw [credits]
  exact keepsExperience_iff valid _

theorem not_keepsExperience_unset (valid : Valid data player heroes) (run : calProfit Afkreward resourceID request = .ok result)
    (unset : result.exp = none) :
    ¬ KeepsExperience table (expOf Afkreward resourceID request) player heroes (stored table Afkreward data resourceID request) := by
  unfold stored profit
  rw [run]
  show ¬ KeepsExperience table _ _ _ ⟨_, addPlayerExp table result.exp data.player, _⟩
  rw [unset]
  exact not_keepsExperience valid _ _ _

/-- The profit of an afk point keeps the experience valid exactly when it is a fight that was won, or a time that has passed. -/
theorem profit_keeps_experience (valid : Valid data player heroes) (request : Request) :
    KeepsExperience table (expOf Afkreward resourceID request) player heroes (stored table Afkreward data resourceID request) ↔
      Profits table Afkreward resourceID player heroes request := by
  cases resourceID with
  | none =>
    refine iff_of_true (keepsExperience_error valid rfl) ?_
    cases request with
    | offlineProfit _ => exact fun _ _ none' => nomatch none'
    | onlineProfit _ => exact fun _ none' => nomatch none'
  | some akfrewardid =>
    cases request with
    | offlineProfit sinceProAfkTime =>
      unfold Profits
      cases found : Afkreward akfrewardid with
      | none =>
        have run : calProfit Afkreward (some akfrewardid) (.offlineProfit sinceProAfkTime) = .error .typeError := by
          simp [calProfit, present, found, bind, Except.bind]
        refine iff_of_true (keepsExperience_error valid run) fun id row same there => ?_
        obtain rfl := Option.some.inj same
        cases found.symm.trans there
      | some row =>
        have run := calProfit_offline found sinceProAfkTime
        by_cases interval : row.offlineinterval = 0
        · have unset : (calOfflineProfit row (if sinceProAfkTime ≥ afkMaxTime then afkMaxTime else sinceProAfkTime)).exp = none := by
            unfold calOfflineProfit
            rw [if_pos interval]
          refine iff_of_false (not_keepsExperience_unset valid run unset) fun profits => ?_
          have positive := (profits akfrewardid row rfl found).1
          omega
        · have exp : (calOfflineProfit row (if sinceProAfkTime ≥ afkMaxTime then afkMaxTime else sinceProAfkTime)).exp =
              some (row.num (if sinceProAfkTime ≥ afkMaxTime then afkMaxTime else sinceProAfkTime) * row.offlineexp) := by
            unfold calOfflineProfit
            rw [if_neg interval]
          rw [keepsExperience_exp valid run exp]
          constructor
          · intro bear id other same there
            obtain rfl := Option.some.inj same
            obtain rfl := Option.some.inj (found.symm.trans there)
            exact ⟨Nat.pos_of_ne_zero interval, bear⟩
          · intro profits
            exact (profits akfrewardid row rfl found).2
    | onlineProfit isWin =>
      unfold Profits
      cases win : isWin.same (.number 1) with
      | false =>
        refine iff_of_false (not_keepsExperience_unset valid (calProfit_lost akfrewardid win) rfl) fun profits => ?_
        cases (profits akfrewardid rfl).1.symm.trans win
      | true =>
        cases found : Afkreward akfrewardid with
        | none =>
          have run : calProfit Afkreward (some akfrewardid) (.onlineProfit isWin) = .error .typeError := by
            simp [calProfit, present, found, win, bind, Except.bind]
          refine iff_of_true (keepsExperience_error valid run) fun id same => ⟨win, fun row there => ?_⟩
          obtain rfl := Option.some.inj same
          cases found.symm.trans there
        | some row =>
          rw [keepsExperience_exp valid (calProfit_won found win) rfl]
          constructor
          · intro bear id same
            obtain rfl := Option.some.inj same
            refine ⟨win, fun other there => ?_⟩
            obtain rfl := Option.some.inj (found.symm.trans there)
            exact bear
          · intro profits
            exact (profits akfrewardid rfl).2 row found

end

/-- A node where a fight that is won gives experience, and waiting gives some for each interval. -/
def huntRow : RewardRow := { offlineinterval := 30000, offlinegold := 200, onlinegold := 50, offlineexp := 20, onlineexp := 5 }

def hunter : Data where
  data := ⟨⟨⟨10, ∅⟩, ⟨100, ∅, ∅⟩⟩, 0, ⟨"10013", 0, ∅, fun _ => 0⟩⟩
  player := ⟨1, some 3⟩
  teamHeroList := (∅ : Obj Holder).set "10013" ⟨2, some 1⟩

def huntTeam : Obj Grown := (∅ : Obj Grown).set "10013" ⟨2, 1⟩

theorem huntTeam_cases {heroId : String} {hero : Grown} (there : huntTeam.get? heroId = some hero) : hero = ⟨2, 1⟩ := by
  unfold huntTeam at there
  rw [Obj.get?_set] at there
  split at there
  · exact (Option.some.inj there).symm
  · cases there

theorem hunter_valid : Valid hunter ⟨1, 3⟩ huntTeam where
  here := rfl
  level := by decide
  curExp := by decide
  team heroId := by
    show ((∅ : Obj Holder).set "10013" ⟨2, some 1⟩).get? heroId = (((∅ : Obj Grown).set "10013" ⟨2, 1⟩).get? heroId).map Holder.of
    rw [Obj.get?_set, Obj.get?_set]
    split <;> rfl
  numbers heroId hero there := by
    rw [huntTeam_cases there]
    decide

/-- A fight that was won. -/
theorem profit_keeps_experience_won :
    KeepsExperience Hero.firstLevels (expOf (fun _ => some huntRow) (some "30130") (.onlineProfit (.number 1))) ⟨1, 3⟩ huntTeam
      (stored Hero.firstLevels (fun _ => some huntRow) hunter (some "30130") (.onlineProfit (.number 1))) := by
  refine (profit_keeps_experience hunter_valid _).mpr fun _ _ => ⟨by decide, fun row there => ?_⟩
  obtain rfl := Option.some.inj there
  refine ⟨⟨by decide, by decide, .inl (by decide)⟩, fun heroId hero there => ?_⟩
  rw [huntTeam_cases there]
  exact ⟨by decide, by decide, .inl (by decide)⟩

/-- A fight that was lost. -/
theorem defeat_spoils_experience :
    ¬ KeepsExperience Hero.firstLevels (expOf (fun _ => some huntRow) (some "30130") (.onlineProfit (.number 0))) ⟨1, 3⟩ huntTeam
      (stored Hero.firstLevels (fun _ => some huntRow) hunter (some "30130") (.onlineProfit (.number 0))) := by
  rintro ⟨⟨-, curExp, left, -⟩, -⟩
  have spoiled : (stored Hero.firstLevels (fun _ => some huntRow) hunter (some "30130") (.onlineProfit (.number 0))).player.curExp = none :=
    rfl
  rw [spoiled] at left
  cases left

end Tinygame.Player.Afk
