import Tinygame.Player.Currency
import Tinygame.Map.WorldMap
import Mathlib.Algebra.BigOperators.Ring.List

/-!
# The time spent away

`offlineProfit`, `onlineProfit` and `setProAfkTime` of `hangup_imp.js` over the stamp of one afk node, in milliseconds.
Each of the first two leaves the time it was called at as the stamp, the third one writes it with `format`. What
`offlineProfit` credits comes from the whole seconds since the stamp.
-/

namespace Tinygame.Player

/-- A row of `config/map/afkreward`, with the experience. -/
structure AfkRewardRow extends AfkRow where
  offlineexp : Nat

inductive AfkAction
  | offlineProfit
  | onlineProfit
  | setProAfkTime
  deriving DecidableEq

structure AfkEvent where
  now : Int
  action : AfkAction
  deriving DecidableEq

/-- `proAfkTime` after the event. -/
def AfkEvent.stamp (event : AfkEvent) : Int :=
  match event.action with
  | .offlineProfit | .onlineProfit => event.now
  | .setProAfkTime => 1000 * Map.format event.now

/-- From the stamp that a call of `offlineProfit` finds to the time of the call. -/
structure Span where
  start : Int
  stop : Int
  deriving DecidableEq

def claims : Int → List AfkEvent → List Span
  | _, [] => []
  | proAfkTime, event :: rest =>
    if event.action = .offlineProfit then ⟨proAfkTime, event.now⟩ :: claims event.stamp rest else claims event.stamp rest

/-- `now.diff(proAfkTime, 'second')`. -/
def Span.seconds (span : Span) : Int := Int.tdiv (span.stop - span.start) 1000

/-- `offTime` as `calProfit` hands it to `calOfflineProfit`. -/
def Span.offTime (span : Span) : Int := if span.seconds ≥ afkMaxTime then afkMaxTime else span.seconds

/-- `num` of `calOfflineProfit`. -/
def AfkRewardRow.num (row : AfkRewardRow) (offTime : Int) : Int := offTime / row.offlineinterval

def Span.gold (row : AfkRewardRow) (span : Span) : Int := row.num span.offTime * row.offlinegold

def Span.exp (row : AfkRewardRow) (span : Span) : Int := row.num span.offTime * row.offlineexp

variable {row : AfkRewardRow} {span : Span} {start stop : Int} {events : List AfkEvent}

/-- The gold is that of `calProfit`. -/
theorem calProfit_gold (Afkreward : String → Option AfkRow) (resourceID : String) (span : Span) (win : Bag.Id)
    (found : Afkreward resourceID = some row.toAfkRow) (positive : 0 < row.offlineinterval) :
    calProfit Afkreward (some resourceID) true span.seconds win = .ok (some (span.gold row)) := by
  have some_ : row.offlineinterval ≠ 0 := Nat.pos_iff_ne_zero.mp positive
  simp [calProfit, calOfflineProfit, Span.gold, AfkRewardRow.num, Span.offTime, Bag.present, found, some_, bind, Except.bind, pure,
    Except.pure]

/-! ### What is meant -/

def CreditsOnce (spans : List Span) : Prop := spans.Pairwise fun first second => first.stop ≤ second.start

def CreditsAtMost (seconds : Int) (spans : List Span) : Prop := ∀ span ∈ spans, span.offTime ≤ seconds

/-- Together the claims of a span are worth no more than one claim over it. -/
def SplitsFairly (row : AfkRewardRow) (whole : Span) (spans : List Span) : Prop :=
  (spans.map (Span.gold row)).sum ≤ whole.gold row ∧ (spans.map (Span.exp row)).sum ≤ whole.exp row

/-! ### Rounding -/

theorem ediv_add_ediv_le {a b n : Int} (positive : 0 < n) : a / n + b / n ≤ (a + b) / n := by
  rw [Int.le_ediv_iff_mul_le positive, Int.add_mul]
  exact Int.add_le_add (Int.ediv_mul_le a (Int.ne_of_gt positive)) (Int.ediv_mul_le b (Int.ne_of_gt positive))

theorem seconds_eq (ordered : start ≤ stop) : (Span.mk start stop).seconds = (stop - start) / 1000 := by
  unfold Span.seconds
  apply Int.tdiv_eq_ediv_of_nonneg
  dsimp only
  omega

theorem offTime_le (span : Span) : span.offTime ≤ span.seconds := by
  unfold Span.offTime
  split <;> omega

theorem offTime_mono {span other : Span} (longer : span.seconds ≤ other.seconds) : span.offTime ≤ other.offTime := by
  unfold Span.offTime
  split <;> split <;> omega

theorem num_mono (positive : 0 < row.offlineinterval) {offTime other : Int} (longer : offTime ≤ other) :
    row.num offTime ≤ row.num other :=
  Int.ediv_le_ediv (Int.natCast_pos.mpr positive) longer

theorem profit_mono (positive : 0 < row.offlineinterval) {span other : Span} (longer : span.seconds ≤ other.seconds) :
    span.gold row ≤ other.gold row ∧ span.exp row ≤ other.exp row := by
  have more := num_mono positive (offTime_mono longer)
  constructor
  · exact Int.mul_le_mul_of_nonneg_right more (Int.natCast_nonneg _)
  · exact Int.mul_le_mul_of_nonneg_right more (Int.natCast_nonneg _)

/-! ### Runs -/

/-- The stamp loses less than a second. -/
theorem stamp_bounds (event : AfkEvent) : event.now - 1000 < event.stamp ∧ event.stamp ≤ event.now := by
  unfold AfkEvent.stamp Map.format
  cases event.action <;> (dsimp only; omega)

theorem stamp_eq {event : AfkEvent} (other : event.action ≠ .setProAfkTime) : event.stamp = event.now := by
  unfold AfkEvent.stamp
  cases action : event.action <;> simp_all

theorem claims_start {earliest : Int} (here : earliest ≤ start) (each : ∀ event ∈ events, earliest ≤ event.stamp) :
    ∀ span ∈ claims start events, earliest ≤ span.start := by
  induction events generalizing start with
  | nil => exact fun span there => absurd there List.not_mem_nil
  | cons event rest ih =>
    have later := ih (each event List.mem_cons_self) fun event there => each event (List.mem_cons_of_mem _ there)
    intro span there
    unfold claims at there
    split at there
    · rcases List.mem_cons.mp there with rfl | there
      · exact here
      · exact later span there
    · exact later span there

theorem claims_ordered (ordered : (start :: events.map AfkEvent.now).Pairwise (· ≤ ·)) :
    ∀ span ∈ claims start events, span.start ≤ span.stop := by
  induction events generalizing start with
  | nil => exact fun span there => absurd there List.not_mem_nil
  | cons event rest ih =>
    obtain ⟨first, sorted⟩ := List.pairwise_cons.mp ordered
    obtain ⟨after, sorted⟩ := List.pairwise_cons.mp sorted
    have later := ih (List.pairwise_cons.mpr ⟨fun now there => (stamp_bounds event).2.trans (after now there), sorted⟩)
    intro span there
    unfold claims at there
    split at there
    · rcases List.mem_cons.mp there with rfl | there
      · exact first event.now List.mem_cons_self
      · exact later span there
    · exact later span there

/-- What is credited once more is less than `slack`, where the stamps lose less than that. -/
theorem claims_pairwise {slack : Int} (ordered : (events.map AfkEvent.now).Pairwise (· ≤ ·))
    (loses : ∀ event ∈ events, event.now - slack ≤ event.stamp) :
    (claims start events).Pairwise fun first second => first.stop - slack ≤ second.start := by
  induction events generalizing start with
  | nil => exact List.Pairwise.nil
  | cons event rest ih =>
    obtain ⟨after, sorted⟩ := List.pairwise_cons.mp ordered
    have later : ∀ stamp, (claims stamp rest).Pairwise fun first second => first.stop - slack ≤ second.start :=
      fun _ => ih sorted fun event there => loses event (List.mem_cons_of_mem _ there)
    unfold claims
    split
    · apply List.pairwise_cons.mpr
      refine ⟨?_, later event.stamp⟩
      apply claims_start (loses event List.mem_cons_self)
      intro other there
      have near := loses other (List.mem_cons_of_mem _ there)
      have next := after other.now (List.mem_map_of_mem there)
      omega
    · exact later event.stamp

/-- The credit without the limit. -/
def Span.num (row : AfkRewardRow) (span : Span) : Int := row.num ((span.stop - span.start) / 1000)

theorem Span.num_nonneg (row : AfkRewardRow) (ordered : start ≤ stop) : 0 ≤ (Span.mk start stop).num row := by
  have seconds : 0 ≤ (stop - start) / 1000 := by omega
  exact Int.ediv_nonneg seconds (Int.natCast_nonneg _)

theorem num_le (positive : 0 < row.offlineinterval) (ordered : span.start ≤ span.stop) : row.num span.offTime ≤ span.num row := by
  apply num_mono positive
  rw [← seconds_eq ordered]
  exact offTime_le span

theorem num_split (positive : 0 < row.offlineinterval) (start middle stop : Int) :
    (Span.mk start middle).num row + (Span.mk middle stop).num row ≤ (Span.mk start stop).num row := by
  unfold Span.num AfkRewardRow.num
  dsimp only
  calc (middle - start) / 1000 / ↑row.offlineinterval + (stop - middle) / 1000 / ↑row.offlineinterval
      ≤ ((middle - start) / 1000 + (stop - middle) / 1000) / ↑row.offlineinterval :=
        ediv_add_ediv_le (Int.natCast_pos.mpr positive)
    _ ≤ (stop - start) / 1000 / ↑row.offlineinterval := by
        apply Int.ediv_le_ediv (Int.natCast_pos.mpr positive)
        omega

/-- The claims of a span credit no more intervals than it has. -/
theorem claims_num (positive : 0 < row.offlineinterval) (ordered : (start :: events.map AfkEvent.now).Pairwise (· ≤ ·))
    (latest : start ≤ stop) (each : ∀ event ∈ events, event.now ≤ stop ∧ event.action ≠ .setProAfkTime) :
    ((claims start events).map fun span => row.num span.offTime).sum ≤ (Span.mk start stop).num row := by
  induction events generalizing start with
  | nil => exact Span.num_nonneg row latest
  | cons event rest ih =>
    obtain ⟨before, other⟩ := each event List.mem_cons_self
    obtain ⟨first, sorted⟩ := List.pairwise_cons.mp ordered
    have here : start ≤ event.now := first event.now List.mem_cons_self
    have later : ((claims event.now rest).map fun span => row.num span.offTime).sum ≤ (Span.mk event.now stop).num row :=
      ih sorted before fun event there => each event (List.mem_cons_of_mem _ there)
    have whole := num_split positive start event.now stop
    unfold claims
    rw [stamp_eq other]
    split
    · have credited : row.num (Span.mk start event.now).offTime ≤ (Span.mk start event.now).num row := num_le positive here
      rw [List.map_cons, List.sum_cons]
      omega
    · have none := Span.num_nonneg row here
      omega

theorem splitsFairly (positive : 0 < row.offlineinterval) (ordered : (start :: events.map AfkEvent.now).Pairwise (· ≤ ·))
    (latest : start ≤ stop) (short : stop - start ≤ 12 * 60 * 60 * 1000)
    (each : ∀ event ∈ events, event.now ≤ stop ∧ event.action ≠ .setProAfkTime) :
    SplitsFairly row ⟨start, stop⟩ (claims start events) := by
  have together := claims_num positive ordered latest each
  have unlimited : row.num (Span.mk start stop).offTime = (Span.mk start stop).num row := by
    have below : ¬ (Span.mk start stop).seconds ≥ afkMaxTime := by
      rw [seconds_eq latest]
      unfold afkMaxTime
      omega
    rw [Span.offTime, if_neg below, seconds_eq latest, Span.num]
  rw [← unlimited] at together
  constructor
  · show ((claims start events).map fun span => row.num span.offTime * (row.offlinegold : Int)).sum ≤ _
    rw [List.sum_map_mul_right]
    exact Int.mul_le_mul_of_nonneg_right together (Int.natCast_nonneg _)
  · show ((claims start events).map fun span => row.num span.offTime * (row.offlineexp : Int)).sum ≤ _
    rw [List.sum_map_mul_right]
    exact Int.mul_le_mul_of_nonneg_right together (Int.natCast_nonneg _)

/-- A call credits no more than the time since the stamp, two calls share less than a second, and none where the stamp is
only left by calls; a longer time is worth as much or more, and claiming half a day in parts is worth no more. -/
theorem afkTime_credited (row : AfkRewardRow) (start : Int) (events : List AfkEvent) (positive : 0 < row.offlineinterval)
    (ordered : (start :: events.map AfkEvent.now).Pairwise (· ≤ ·)) :
    (∀ span ∈ claims start events, 1000 * span.offTime ≤ span.stop - span.start) ∧
    (claims start events).Pairwise (fun first second => first.stop < second.start + 1000) ∧
    ((∀ event ∈ events, event.action ≠ .setProAfkTime) → CreditsOnce (claims start events)) ∧
    (∀ span other : Span, span.seconds ≤ other.seconds → span.gold row ≤ other.gold row ∧ span.exp row ≤ other.exp row) ∧
    ∀ stop, start ≤ stop → stop - start ≤ 12 * 60 * 60 * 1000 →
      (∀ event ∈ events, event.now ≤ stop ∧ event.action ≠ .setProAfkTime) → SplitsFairly row ⟨start, stop⟩ (claims start events) := by
  have sorted := (List.pairwise_cons.mp ordered).2
  refine ⟨?_, ?_, ?_, ?_, ?_⟩
  · intro span there
    have credited := offTime_le span
    rw [seconds_eq (claims_ordered ordered span there)] at credited
    omega
  · have near : (claims start events).Pairwise fun first second => first.stop - 999 ≤ second.start := by
      apply claims_pairwise sorted
      intro event _
      have loses := (stamp_bounds event).1
      omega
    apply near.imp
    intro first second near
    omega
  · intro others
    have near : (claims start events).Pairwise fun first second => first.stop - 0 ≤ second.start := by
      apply claims_pairwise sorted
      intro event there
      rw [stamp_eq (others event there), Int.sub_zero]
    apply near.imp
    intro first second near
    omega
  · intro span other
    exact profit_mono positive
  · intro stop latest short each
    exact splitsFairly positive ordered latest short each

/-- The row of the first afk points. -/
def firstAfkRow : AfkRewardRow := { offlineinterval := 30000, offlinegold := 100, onlinegold := 130, offlineexp := 10 }

/-- A day away, claimed in two parts, with the player online for a moment between. -/
def awayForADay : List AfkEvent :=
  [⟨30000000, .offlineProfit⟩, ⟨30005000, .onlineProfit⟩, ⟨40000000, .offlineProfit⟩]

theorem afkTime_credited_day : CreditsOnce (claims 0 awayForADay) ∧ SplitsFairly firstAfkRow ⟨0, 43200000⟩ (claims 0 awayForADay) := by
  obtain ⟨-, -, once, -, split⟩ := afkTime_credited firstAfkRow 0 awayForADay (by decide) (by decide)
  exact ⟨once (by decide), split 43200000 (by decide) (by decide) (by decide)⟩

/-- A second shared after `setProAfkTime`, a whole day credited, and a thousand days that are worth twice as much in two parts. -/
theorem afkTime_beyond :
    ¬ CreditsOnce (claims 900 [⟨10900, .offlineProfit⟩, ⟨10950, .setProAfkTime⟩, ⟨20000, .offlineProfit⟩]) ∧
    ¬ CreditsAtMost (12 * 60 * 60) (claims 0 [⟨86400000, .offlineProfit⟩]) ∧
    ¬ SplitsFairly firstAfkRow ⟨0, 86400000000⟩ (claims 0 [⟨43200000000, .offlineProfit⟩, ⟨86400000000, .offlineProfit⟩]) := by
  unfold CreditsOnce CreditsAtMost SplitsFairly
  decide

end Tinygame.Player
