import Tinygame.Dataprocess.Entity
import Tinygame.Player.Currency

/-!
# The reward of the day

`getPvpDayF8Result` of `pvp_imp.js`: who stands in the final ranking is given the reward of his rank, once. The reward
is asked of `robot.js` under a name that it does not export.
-/

namespace Tinygame.Pvp
open Bag (Failure)

/-- `Const.PVP_DAY_GET`. -/
def pvpDayGet : Int := 2

structure DayReward where
  diamand : Int
  ticketWeek : Int

def getPvpDayReward (_pos _num : Nat) : DayReward := ⟨100, 100⟩

/-- What `robot.js` exports of the functions that are given a rank. -/
def robotExports (name : String) : Option (Nat → Nat → DayReward) :=
  if name = "getPvpDayReward" then some getPvpDayReward else none

/-- `Robot[name](pos, num)`: what is no function cannot be called. -/
def callRobot (name : String) (pos num : Nat) : Except Failure DayReward :=
  match robotExports name with
  | some f => .ok (f pos num)
  | none => .error .typeError

/-- What is read and stored. -/
structure F8Value where
  data : Player.DataValue
  uuid : String
  dayMark : Int
  ticketWeek : Int
  finalSort : List UserArea

/-- `pos` and `fightReward` of the answer. -/
structure F8Answer where
  pos : Option Nat
  fightReward : DayReward

namespace F8Value

/-- The place of the player in the ranking, counted from zero. -/
def place (value : F8Value) : Option Nat := value.finalSort.findIdx? fun entry => value.uuid = entry.uuid

/-- The reward is given unless it was before. -/
def save (value : F8Value) (reward : DayReward) : F8Value :=
  if value.dayMark ≠ pvpDayGet then { value with
    data := (Player.addPlayerDiamond (some reward.diamand) value.data).2
    dayMark := pvpDayGet
    ticketWeek := value.ticketWeek + reward.ticketWeek }
  else value

end F8Value

def getPvpDayF8Result (value : F8Value) : Except Failure (F8Value × F8Answer) :=
  match value.place with
  | none => .ok (value, ⟨none, ⟨0, 0⟩⟩)
  | some i => do
    let reward ← callRobot "getPvpDayRward" i value.finalSort.length
    return (value.save reward, ⟨some (i + 1), reward⟩)

/-- That many requests one after another, and their answers. What fails stores nothing. -/
def askF8 : Nat → F8Value → F8Value × List (Except Failure F8Answer)
  | 0, value => (value, [])
  | n + 1, value =>
    match getPvpDayF8Result value with
    | .ok (value, answer) =>
      let rest := askF8 n value
      (rest.1, .ok answer :: rest.2)
    | .error failure =>
      let rest := askF8 n value
      (rest.1, .error failure :: rest.2)

/-! ### Once -/

/-- Who is ranked gets the reward of his rank with the first of any number of requests, and each of them says the rank.
Who is not gets nothing. -/
def PaidOnce (value : F8Value) : Prop :=
  match value.place with
  | none => ∀ n, (askF8 n value).1 = value
  | some i =>
    let reward := getPvpDayReward i value.finalSort.length
    ∀ n, (∀ answer ∈ (askF8 n value).2, answer = .ok ⟨some (i + 1), reward⟩) ∧
      (0 < n → (askF8 n value).1 = { value with
        data := (Player.addPlayerDiamond (some reward.diamand) value.data).2
        dayMark := pvpDayGet
        ticketWeek := value.ticketWeek + reward.ticketWeek })

variable {value : F8Value}

theorem getPvpDayF8Result_unranked (unranked : value.place = none) : getPvpDayF8Result value = .ok (value, ⟨none, ⟨0, 0⟩⟩) := by
  unfold getPvpDayF8Result
  rw [unranked]

theorem getPvpDayF8Result_ranked {i : Nat} (ranked : value.place = some i) : getPvpDayF8Result value = .error .typeError := by
  unfold getPvpDayF8Result
  rw [ranked]
  rfl

theorem askF8_unranked (unranked : value.place = none) (n : Nat) : (askF8 n value).1 = value := by
  induction n with
  | zero => rfl
  | succ n ih =>
    rw [askF8, getPvpDayF8Result_unranked unranked]
    exact ih

theorem place_eq_none : value.place = none ↔ ∀ entry ∈ value.finalSort, entry.uuid ≠ value.uuid := by
  unfold F8Value.place
  rw [List.findIdx?_eq_none_iff]
  constructor
  · intro other entry there same
    exact of_decide_eq_false (other entry there) same.symm
  · intro other entry there
    exact decide_eq_false fun same => other entry there same.symm

/-- Nobody who is ranked is ever paid. -/
theorem paidOnce_iff (value : F8Value) : PaidOnce value ↔ ∀ entry ∈ value.finalSort, entry.uuid ≠ value.uuid := by
  rw [← place_eq_none]
  unfold PaidOnce
  cases place : value.place with
  | none => exact iff_of_true (askF8_unranked place) rfl
  | some i =>
    refine iff_of_false ?_ (by simp)
    intro paid
    obtain ⟨answers, -⟩ := paid 1
    have thrown : Except.error Failure.typeError ∈ (askF8 1 value).2 := by
      rw [askF8, getPvpDayF8Result_ranked place]
      exact List.mem_cons_self ..
    cases answers _ thrown

/-! ### The winner -/

/-- The player won the day, and asks for the first time. -/
def winner : F8Value where
  data := ⟨⟨⟨1000, ∅⟩, ⟨100, ∅, ∅⟩⟩, 50, ⟨"10013", 0, ∅, fun _ => 0⟩⟩
  uuid := "1001"
  dayMark := 1
  ticketWeek := 0
  finalSort := [⟨"1", "1001"⟩, ⟨"0", "7"⟩]

theorem winner_unpaid : ¬PaidOnce winner := by
  intro paid
  have named := (paid 1).1 (.error .typeError) (List.mem_cons_self ..)
  cases named

end Tinygame.Pvp
