import Tinygame.Base.Run
import Tinygame.Base.RoundTrip
import Tinygame.Pvp.Sng
import Mathlib.Data.Fintype.Basic
import Mathlib.Tactic.FinCases

/-!
# The accounts of an SNG session

Between an enrolment and its exit the tickets and the coins a player has gained are those of the opponents
that were beaten and of the boxes that were taken, and the exit adds the boxes that are still due. A box is
lost when it is asked for too early.
-/

namespace Tinygame.Sng
open Bag (BagList ItemTable Moment Record Id Failure require present require_ok present_ok)

variable {ε : Type}

/-! ### What is counted -/

def coins (bagList : BagList) : Int := ((bagList.itemList.get? pvpCoinId.name).map Bag.ItemCell.num).getD 0

/-- What an opponent has brought. -/
def Fighter.gain (fighter : Fighter ε) : Int := if fighter.result = some pvpWinner then fighter.ticketDay else 0

def beaten (fighters : List (Fighter ε)) : Int := (fighters.map Fighter.gain).sum

def overChests (amount : Fin 3 → Int) : Int := ((List.finRange 3).map amount).sum

/-- The request fights the opponent at the place and wins. -/
def Event.Beats (place : Nat) (event : Event ε) : Prop :=
  ∃ enemyType seed, event.request = .getSngReward enemyType (.fought (some pvpWinner) seed) ∧ placeOf enemyType = .ok place

/-- The state of a session, the requests since its enrolment being `past`. -/
structure Running (enrolled player : Player ε) (past : List (Event ε)) : Prop where
  started : player.pvpInfo.startMark = pvpSngStart
  charged : player.pvpInfo.ticketN = enrolled.pvpInfo.ticketN
  opponents : player.pvpInfo.fightInfoListSng.map (fun fighter => (fighter.enemy, fighter.ticketDay)) =
    enrolled.pvpInfo.fightInfoListSng.map fun fighter => (fighter.enemy, fighter.ticketDay)
  won : ∀ (place : Nat) fighter, player.pvpInfo.fightInfoListSng[place]? = some fighter → fighter.result = some pvpWinner →
    ∃ event ∈ past, event.Beats place
  reached : ∀ k, player.pvpInfo.box k ≠ 0 → (sportsChest k).WinNum ≤ player.pvpInfo.fightCount
  tickets : player.pvpInfo.ticketDay = enrolled.pvpInfo.ticketDay + beaten player.pvpInfo.fightInfoListSng +
    overChests fun k => if player.pvpInfo.box k ≠ 0 then (sportsChest k).Reward1 else 0
  coins : coins player.bagList = coins enrolled.bagList +
    overChests fun k => if player.pvpInfo.box k ≠ 0 then (sportsChest k).Reward2 else 0

/-- The session is over. `last` is the state before its exit. -/
structure Left (enrolled last player : Player ε) : Prop where
  ended : player.pvpInfo.startMark = pvpSngEnd
  charged : player.pvpInfo.ticketN = enrolled.pvpInfo.ticketN
  tickets : player.pvpInfo.ticketDay = enrolled.pvpInfo.ticketDay + beaten last.pvpInfo.fightInfoListSng +
    overChests fun k => if (sportsChest k).WinNum ≤ last.pvpInfo.fightCount then (sportsChest k).Reward1 else 0
  coins : Sng.coins player.bagList = Sng.coins enrolled.bagList +
    overChests fun k => if (sportsChest k).WinNum ≤ last.pvpInfo.fightCount then (sportsChest k).Reward2 else 0

/-- One ticket was taken, of those there were after the refresh, and nothing else was given or taken. -/
def Enrolled (before enrolled : Player ε) (enroll : Event ε) : Prop :=
  ∃ updateTime list1 list2 list3, enroll.request = .enrollPvpSng (some updateTime) list1 list2 list3 ∧
    0 < (refresh updateTime before.pvpInfo).ticketN ∧
    enrolled.pvpInfo.ticketN = (refresh updateTime before.pvpInfo).ticketN - 1 ∧
    enrolled.pvpInfo.ticketDay = before.pvpInfo.ticketDay ∧ enrolled.bagList = before.bagList

section
variable (Item : ItemTable)

/-- Enrolling in a session answers with its opponents and leaves everything as it is. -/
def Again (player : Player ε) (event : Event ε) : Prop :=
  ∀ updateTime list1 list2 list3, event.request = .enrollPvpSng updateTime list1 list2 list3 → step Item player event = player ∧
    ∃ pvpInfo, respond Item player event = .ok (.enrolled pvpInfo) ∧ pvpInfo.fightInfoListSng = player.pvpInfo.fightInfoListSng

/-- The request ends the session. -/
def Exits (player : Player ε) (event : Event ε) : Prop :=
  ∃ startMark ticketDay bagItem, respond Item player event = .ok (.exited startMark ticketDay bagItem)

end

/-- Nobody enrols in a session, a box is asked for when it is in reach or taken, and the bag is not saved without
the boxes. -/
def Careful (player : Player ε) (event : Event ε) : Prop :=
  match event.request with
  | .enrollPvpSng .. => player.pvpInfo.startMark ≠ pvpSngStart
  | .getSngReward .. => True
  | .getSngBoxReward boxCount _ =>
    (∀ k, boxOf boxCount.parseInt = some k → player.pvpInfo.box k = 0 → (sportsChest k).WinNum ≤ player.pvpInfo.fightCount) ∧
      event.failing ≠ some .pvpInfo
  | .exitPvpSng _ => event.failing ≠ some .pvpInfo

/-- The row of the coins, if there is one, is not that of an equip. -/
def CoinsStack (Item : ItemTable) : Prop := ∀ row, Item.rows.get? pvpCoinId.name = some row → row.itemTepy ≠ Bag.mainTypeEquip

section
variable {Item : ItemTable} {player data enrolled : Player ε} {event : Event ε} {outArgs : OutArgs ε} {past : List (Event ε)}
  {pvpInfo : PvpInfo ε}

/-! ### Sums -/

theorem beaten_set {fighters : List (Fighter ε)} {place : Nat} {fighter : Fighter ε} (there : fighters[place]? = some fighter)
    (other : Fighter ε) : beaten (fighters.set place other) = beaten fighters - fighter.gain + other.gain := by
  induction fighters generalizing place with
  | nil => cases there
  | cons first rest ih =>
    unfold beaten at ih ⊢
    cases place with
    | zero =>
      obtain rfl := Option.some.inj there
      simp only [List.set_cons_zero, List.map_cons, List.sum_cons]
      omega
    | succ place =>
      have tail := ih there
      simp only [List.set_cons_succ, List.map_cons, List.sum_cons]
      omega

theorem overChests_eq (amount : Fin 3 → Int) : overChests amount = amount 0 + amount 1 + amount 2 := by
  simp [overChests, List.finRange_succ, add_assoc]

theorem overChests_take (box amount : Fin 3 → Int) (k : Fin 3) :
    overChests (fun j => if Function.update box k 1 j ≠ 0 then amount j else 0) =
      overChests (fun j => if box j ≠ 0 then amount j else 0) + if box k = 0 then amount k else 0 := by
  have taken : ∀ j, (if Function.update box k 1 j ≠ 0 then amount j else 0) =
      (if box j ≠ 0 then amount j else 0) + if j = k then if box k = 0 then amount k else 0 else 0 := by
    intro j
    rw [Function.update_apply]
    split <;> rename_i same
    · rw [same]
      by_cases untaken : box k = 0 <;> simp [untaken]
    · exact (add_zero _).symm
  simp only [overChests_eq, taken]
  fin_cases k <;> simp <;> omega

/-! ### Boxes -/

theorem award_coins (stack : CoinsStack Item) {n : Int} {moments : Nat → Moment} {bagList bagList' : BagList} {record record' : Record}
    (awarded : Bag.getItemAward Item pvpCoinId n moments bagList record = (true, bagList', record')) :
    coins bagList' = coins bagList + n := by
  unfold Bag.getItemAward at awarded
  split at awarded
  · cases awarded
  · rename_i row listed
    rw [if_neg (stack row listed)] at awarded
    unfold Bag.addItem at awarded
    split at awarded
    · cases awarded
    · rename_i added
      cases awarded
      split at added
      · split at added <;> cases added <;> simp [coins, *]
      · cases added

/-- A box gives its rewards when it is due, and nothing otherwise. -/
theorem claim_spec (stack : CoinsStack Item) {moments : Nat → Moment} {boxCount : Option Int} {claim claim' : Claim}
    (claimed : getSngBoxRewardByCount Item moments pvpInfo boxCount claim = some claim') :
    ∃ k, boxOf boxCount = some k ∧
      claim'.ticketDay = claim.ticketDay + (if Due pvpInfo k then (sportsChest k).Reward1 else 0) ∧
      coins claim'.bagList = coins claim.bagList + if Due pvpInfo k then (sportsChest k).Reward2 else 0 := by
  unfold getSngBoxRewardByCount at claimed
  split at claimed
  · cases claimed
  · rename_i k asked
    refine ⟨k, asked, ?_⟩
    split at claimed
    · rename_i due
      rw [if_pos due, if_pos due]
      dsimp only at claimed
      split at claimed
      · rename_i awarded
        cases claimed
        exact ⟨rfl, award_coins stack (Prod.ext awarded rfl)⟩
      · cases claimed
    · rename_i notDue
      cases claimed
      rw [if_neg notDue, if_neg notDue]
      exact ⟨(add_zero _).symm, (add_zero _).symm⟩

/-! ### Handlers -/

theorem enroll_ok {updateTime : Option Int} {list1 list2 list3 : List (Fighter ε)}
    (ok : enrollPvpSng player updateTime list1 list2 list3 = .ok (data, outArgs)) :
    player.pvpInfo.startMark ≠ pvpSngStart ∧ ∃ time, updateTime = some time ∧ 0 < (refresh time player.pvpInfo).ticketN ∧
      data = player.setPvpInfo { refresh time player.pvpInfo with
        ticketN := (refresh time player.pvpInfo).ticketN - 1
        startMark := pvpSngStart
        box := fun _ => 0
        fightCount := 0
        fightInfoListSng := list1 ++ list2 ++ list3 } := by
  unfold enrollPvpSng at ok
  split at ok
  · rename_i closed
    obtain ⟨time, known, ok⟩ := bind_ok.mp ok
    obtain ⟨_, enough, ok⟩ := bind_ok.mp ok
    have stored := (Prod.mk.inj (Except.ok.inj ok)).1
    exact ⟨closed, time, present_ok.mp known, require_ok.mp enough, stored.symm⟩
  · cases ok

theorem box_ok (stack : CoinsStack Item) {boxCount : Id} {moments : Nat → Moment}
    (ok : getSngBoxReward Item player boxCount moments = .ok (data, outArgs)) :
    player.pvpInfo.startMark = pvpSngStart ∧ ∃ (k : Fin 3) (claim : Claim), boxOf boxCount.parseInt = some k ∧
      claim.ticketDay = (if Due player.pvpInfo k then (sportsChest k).Reward1 else 0) ∧
      coins claim.bagList = coins player.bagList + (if Due player.pvpInfo k then (sportsChest k).Reward2 else 0) ∧
      data = ⟨{ player.pvpInfo with
        ticketDay := player.pvpInfo.ticketDay + claim.ticketDay
        box := Function.update player.pvpInfo.box k 1 }, claim.bagList⟩ := by
  obtain ⟨_, started, ok⟩ := bind_ok.mp ok
  obtain ⟨claim, claimed, ok⟩ := bind_ok.mp ok
  have stored := (Prod.mk.inj (Except.ok.inj ok)).1
  obtain ⟨k, asked, tickets, gained⟩ := claim_spec stack (present_ok.mp claimed)
  simp only [asked] at stored
  exact ⟨require_ok.mp started, k, claim, asked, by simpa [newClaim] using tickets, gained, stored.symm⟩

theorem reward_ok {enemyType : Option Rat} {outcome : Outcome} (ok : getSngReward player enemyType outcome = .ok (data, outArgs)) :
    data = player ∨ ∃ place fighter result seed, placeOf enemyType = .ok place ∧
      player.pvpInfo.fightInfoListSng[place]? = some fighter ∧ fighter.result ≠ some pvpWinner ∧ outcome = .fought result seed ∧
      data = player.setPvpInfo { player.pvpInfo with
        fightInfoListSng := player.pvpInfo.fightInfoListSng.set place { fighter with result, seed }
        ticketDay := player.pvpInfo.ticketDay + (if result = some pvpWinner then fighter.ticketDay else 0)
        fightCount := player.pvpInfo.fightCount + 1 } := by
  obtain ⟨place, found, ok⟩ := bind_ok.mp ok
  obtain ⟨_, -, ok⟩ := bind_ok.mp ok
  obtain ⟨fighter, there, ok⟩ := bind_ok.mp ok
  split at ok
  · rename_i unbeaten
    obtain ⟨⟨result, seed⟩, fought, ok⟩ := bind_ok.mp ok
    have stored := (Prod.mk.inj (Except.ok.inj ok)).1
    refine .inr ⟨place, fighter, result, seed, found, present_ok.mp there, ?_, ?_, stored.symm⟩
    · rcases unbeaten with result | result <;> rw [result] <;> decide
    · cases outcome <;> cases fought
      rfl
  · exact .inl (Prod.mk.inj (Except.ok.inj ok)).1.symm

/-- Only the exit is answered as one, and the enrolment as one. -/
theorem answer_of {request : Request ε} (ok : handle Item player request = .ok (data, outArgs)) :
    (∀ moments, request = .exitPvpSng moments → ∃ startMark ticketDay bagItem, outArgs = .exited startMark ticketDay bagItem) ∧
      (∀ startMark ticketDay bagItem, outArgs = .exited startMark ticketDay bagItem → ∃ moments, request = .exitPvpSng moments) ∧
      ∀ pvpInfo, outArgs = .enrolled pvpInfo → ∃ updateTime list1 list2 list3,
        request = .enrollPvpSng updateTime list1 list2 list3 := by
  cases request with
  | enrollPvpSng updateTime list1 list2 list3 =>
    refine ⟨?_, fun _ _ _ same => ?_, fun _ _ => ⟨updateTime, list1, list2, list3, rfl⟩⟩
    · rintro _ ⟨⟩
    replace ok : enrollPvpSng player updateTime _ _ _ = _ := ok
    unfold enrollPvpSng at ok
    split at ok
    · obtain ⟨_, -, ok⟩ := bind_ok.mp ok
      obtain ⟨_, -, ok⟩ := bind_ok.mp ok
      cases (Prod.mk.inj (Except.ok.inj ok)).2.trans same
    · cases ok
  | getSngReward enemyType outcome =>
    have answered : ∃ ticketDay seed result, outArgs = .rewarded ticketDay seed result := by
      obtain ⟨_, -, ok⟩ := bind_ok.mp ok
      obtain ⟨_, -, ok⟩ := bind_ok.mp ok
      obtain ⟨_, -, ok⟩ := bind_ok.mp ok
      split at ok
      · obtain ⟨_, -, ok⟩ := bind_ok.mp ok
        exact ⟨_, _, _, (Prod.mk.inj (Except.ok.inj ok)).2.symm⟩
      · exact ⟨_, _, _, (Prod.mk.inj (Except.ok.inj ok)).2.symm⟩
    obtain ⟨_, _, _, rfl⟩ := answered
    exact ⟨fun _ same => (by cases same), fun _ _ _ same => (by cases same), fun _ same => (by cases same)⟩
  | getSngBoxReward boxCount moments =>
    obtain ⟨_, -, ok⟩ := bind_ok.mp ok
    obtain ⟨_, -, ok⟩ := bind_ok.mp ok
    obtain rfl := (Prod.mk.inj (Except.ok.inj ok)).2
    exact ⟨fun _ same => (by cases same), fun _ _ _ same => (by cases same), fun _ same => (by cases same)⟩
  | exitPvpSng moments =>
    obtain ⟨_, -, ok⟩ := bind_ok.mp ok
    obtain rfl := (Prod.mk.inj (Except.ok.inj ok)).2
    exact ⟨fun _ _ => ⟨_, _, _, rfl⟩, fun _ _ _ _ => ⟨moments, rfl⟩, fun _ same => (by cases same)⟩

theorem exit_ok (stack : CoinsStack Item) {moments : Int → Nat → Moment}
    (ok : exitPvpSng Item player moments = .ok (data, outArgs)) :
    data.pvpInfo.startMark = pvpSngEnd ∧ data.pvpInfo.ticketN = player.pvpInfo.ticketN ∧
      data.pvpInfo.ticketDay = player.pvpInfo.ticketDay +
        overChests (fun k => if Due player.pvpInfo k then (sportsChest k).Reward1 else 0) ∧
      coins data.bagList = coins player.bagList +
        overChests fun k => if Due player.pvpInfo k then (sportsChest k).Reward2 else 0 := by
  obtain ⟨claim, claimed, ok⟩ := bind_ok.mp ok
  obtain rfl := (Prod.mk.inj (Except.ok.inj ok)).1.symm
  have claimed := present_ok.mp claimed
  simp only [List.foldlM_cons, List.foldlM_nil, Option.bind_eq_bind, Option.bind_eq_some_iff] at claimed
  obtain ⟨claim1, first, claim2, second, claim3, third, same⟩ := claimed
  cases same
  obtain ⟨k1, is1, tickets1, coins1⟩ := claim_spec stack first
  obtain ⟨k2, is2, tickets2, coins2⟩ := claim_spec stack second
  obtain ⟨k3, is3, tickets3, coins3⟩ := claim_spec stack third
  cases is1
  cases is2
  cases is3
  refine ⟨rfl, rfl, ?_, ?_⟩
  · show player.pvpInfo.ticketDay + claim.ticketDay = _
    rw [tickets3, tickets2, tickets1]
    show _ + (0 + _ + _ + _) = _
    rw [overChests_eq]
    rw [zero_add]
    rfl
  · show coins claim.bagList = _
    rw [coins3, coins2, coins1]
    show coins player.bagList + _ + _ + _ = _
    rw [overChests_eq]
    rw [add_assoc, add_assoc]
    exact congrArg _ (add_assoc ..).symm

/-! ### One request -/

theorem entities_enroll : entities "enrollPvpSng" FuncConfig.writes = [.pvpInfo] := by decide +kernel
theorem entities_reward : entities "getSngReward" FuncConfig.writes = [.pvpInfo] := by decide +kernel
theorem entities_box : entities "getSngBoxReward" FuncConfig.writes = [.bagList, .pvpInfo] := by decide +kernel
theorem entities_exit : entities "exitPvpSng" FuncConfig.writes = [.bagList, .pvpInfo] := by decide +kernel

/-- The session alone is saved. -/
theorem save_pvpInfo {funcName : String} (writes : entities funcName FuncConfig.writes = [.pvpInfo]) (failing : Option DataName) :
    (∃ failed, failure (entities funcName FuncConfig.writes) ErrCode.dataSet failing = some failed ∧
      setDataValue funcName failing data player = player) ∨
    (failure (entities funcName FuncConfig.writes) ErrCode.dataSet failing = none ∧
      setDataValue funcName failing data player = player.setPvpInfo data.pvpInfo) := by
  unfold setDataValue
  rw [writes]
  by_cases fails : failing = some .pvpInfo
  · rw [fails]
    exact .inl ⟨_, rfl, rfl⟩
  · have passes : some DataName.pvpInfo ≠ failing := fun same => fails same.symm
    refine .inr ⟨?_, ?_⟩
    · unfold failure
      cases failing with
      | none => rfl
      | some name => exact if_neg fun member => fails (congrArg some (List.mem_singleton.mp member))
    · simp [passes, storeEntity, Player.setPvpInfo]

/-- The bag and the session are saved together, when the second save does not fail. -/
theorem save_both {funcName : String} (writes : entities funcName FuncConfig.writes = [.bagList, .pvpInfo]) {failing : Option DataName}
    (passes : failing ≠ some .pvpInfo) :
    (∃ failed, failure (entities funcName FuncConfig.writes) ErrCode.dataSet failing = some failed ∧
      setDataValue funcName failing data player = player) ∨
    (failure (entities funcName FuncConfig.writes) ErrCode.dataSet failing = none ∧ setDataValue funcName failing data player = data) := by
  unfold setDataValue
  rw [writes]
  by_cases fails : failing = some .bagList
  · rw [fails]
    exact .inl ⟨_, rfl, rfl⟩
  · have first : some DataName.bagList ≠ failing := fun same => fails same.symm
    have second : some DataName.pvpInfo ≠ failing := fun same => passes same.symm
    refine .inr ⟨?_, ?_⟩
    · unfold failure
      cases failing with
      | none => rfl
      | some name =>
        refine if_neg fun member => ?_
        simp only [List.mem_cons, List.not_mem_nil, or_false] at member
        rcases member with same | same
        · exact fails (congrArg some same)
        · exact passes (congrArg some same)
    · simp [first, second, storeEntity]

/-- What a request of the session alone leaves has the player's bag. -/
theorem handle_bagList {request : Request ε} (ok : handle Item player request = .ok (data, outArgs))
    (writes : entities request.funcName FuncConfig.writes = [.pvpInfo]) : player.setPvpInfo data.pvpInfo = data := by
  cases request with
  | enrollPvpSng =>
    obtain ⟨-, _, -, -, rfl⟩ := enroll_ok ok
    rfl
  | getSngReward =>
    rcases reward_ok ok with same | ⟨_, _, _, _, -, -, -, -, same⟩
    · rw [same]
      rfl
    · rw [same]
      rfl
  | getSngBoxReward => cases entities_box.symm.trans writes
  | exitPvpSng => cases entities_exit.symm.trans writes

theorem serve_ok (served : serve Item player event = .ok (data, outArgs)) : handle Item player event.request = .ok (data, outArgs) := by
  unfold serve at served
  split at served
  · cases served
  · exact served

theorem respond_ok (answered : respond Item player event = .ok outArgs) :
    ∃ data, handle Item player event.request = .ok (data, outArgs) := by
  unfold respond at answered
  split at answered
  · cases answered
  · rename_i data outArgs served
    split at answered
    · cases answered
    · obtain rfl := Except.ok.inj answered
      exact ⟨data, serve_ok served⟩

/-- A request fails and changes nothing, or all of what its handler leaves is saved. -/
theorem step_cases (careful : Careful player event) :
    (step Item player event = player ∧ ∃ failed, respond Item player event = .error failed) ∨
    ∃ data outArgs, handle Item player event.request = .ok (data, outArgs) ∧ step Item player event = data ∧
      respond Item player event = .ok outArgs := by
  unfold step respond
  cases served : serve Item player event with
  | error failed => exact .inl ⟨rfl, failed, rfl⟩
  | ok result =>
    obtain ⟨data, outArgs⟩ := result
    have handled := serve_ok served
    have saved : (∃ failed, failure (entities event.request.funcName FuncConfig.writes) ErrCode.dataSet event.failing = some failed ∧
          setDataValue event.request.funcName event.failing data player = player) ∨
        (failure (entities event.request.funcName FuncConfig.writes) ErrCode.dataSet event.failing = none ∧
          setDataValue event.request.funcName event.failing data player = data) := by
      unfold Careful at careful
      have alone (writes : entities event.request.funcName FuncConfig.writes = [.pvpInfo]) :=
        handle_bagList handled writes ▸ save_pvpInfo writes event.failing
      cases request : event.request with
      | enrollPvpSng => exact request ▸ alone (request ▸ entities_enroll)
      | getSngReward => exact request ▸ alone (request ▸ entities_reward)
      | getSngBoxReward =>
        rw [request] at careful
        exact save_both entities_box careful.2
      | exitPvpSng =>
        rw [request] at careful
        exact save_both entities_exit careful
    dsimp only
    rcases saved with ⟨failed, fails, same⟩ | ⟨passes, same⟩
    · rw [fails]
      exact .inl ⟨same, failed, rfl⟩
    · rw [passes]
      exact .inr ⟨data, outArgs, handled, same, rfl⟩

/-! ### Runs -/

theorem running_enrolled (enrolled : Player ε) (started : enrolled.pvpInfo.startMark = pvpSngStart)
    (fresh : ∀ fighter ∈ enrolled.pvpInfo.fightInfoListSng, fighter.result = some 0) (untaken : enrolled.pvpInfo.box = fun _ => 0) :
    Running enrolled enrolled [] := by
  have none (amount : Fin 3 → Int) : overChests (fun k => if enrolled.pvpInfo.box k ≠ 0 then amount k else 0) = 0 := by
    simp [untaken, overChests_eq]
  have nobody : beaten enrolled.pvpInfo.fightInfoListSng = 0 := by
    refine List.sum_eq_zero fun gain member => ?_
    obtain ⟨fighter, there, rfl⟩ := List.mem_map.mp member
    unfold Fighter.gain
    rw [fresh fighter there]
    rfl
  refine ⟨started, rfl, rfl, fun place fighter there result => ?_, fun k taken => ?_, ?_, ?_⟩
  · rw [fresh fighter (List.mem_of_getElem? there)] at result
    cases result
  · rw [untaken] at taken
    exact absurd rfl taken
  · rw [none, nobody]
    omega
  · rw [none]
    omega

theorem enrolled_of (enrols : respond Item player event = .ok (.enrolled pvpInfo)) :
    Enrolled player (step Item player event) event ∧ Running (step Item player event) (step Item player event) [] := by
  obtain ⟨data, handled⟩ := respond_ok enrols
  obtain ⟨updateTime, list1, list2, list3, request⟩ := (answer_of handled).2.2 pvpInfo rfl
  rw [request] at handled
  obtain ⟨closed, time, rfl, enough, -⟩ := enroll_ok handled
  have careful : Careful player event := by
    unfold Careful
    rw [request]
    exact closed
  rcases @step_cases _ Item _ _ careful with ⟨-, failed, fails⟩ | ⟨data', outArgs, handled', same, -⟩
  · cases fails.symm.trans enrols
  rw [request] at handled'
  obtain ⟨-, time', same', -, rfl⟩ := enroll_ok handled'
  obtain rfl := Option.some.inj same'
  rw [same]
  have untouched : (refresh time player.pvpInfo).ticketDay = player.pvpInfo.ticketDay := by
    unfold refresh
    split <;> rfl
  refine ⟨⟨time, list1, list2, list3, request, enough, rfl, untouched, rfl⟩, running_enrolled _ rfl (fun fighter there => ?_) rfl⟩
  simp only [Player.setPvpInfo, List.mem_append, List.mem_map] at there
  rcases there with (⟨_, -, rfl⟩ | ⟨_, -, rfl⟩) | ⟨_, -, rfl⟩ <;> rfl

theorem Running.mono (running : Running enrolled player past) (event : Event ε) : Running enrolled player (past ++ [event]) :=
  { running with
    won := fun place fighter there result => by
      obtain ⟨earlier, member, beats⟩ := running.won place fighter there result
      exact ⟨earlier, List.mem_append_left _ member, beats⟩ }

theorem running_reward (running : Running enrolled player past) {place : Nat} {fighter : Fighter ε} {enemyType : Option Rat}
    {result : Option Int} {seed : Int} (found : placeOf enemyType = .ok place)
    (there : player.pvpInfo.fightInfoListSng[place]? = some fighter) (unbeaten : fighter.result ≠ some pvpWinner)
    (fights : event.request = .getSngReward enemyType (.fought result seed)) :
    Running enrolled (player.setPvpInfo { player.pvpInfo with
      fightInfoListSng := player.pvpInfo.fightInfoListSng.set place { fighter with result, seed }
      ticketDay := player.pvpInfo.ticketDay + (if result = some pvpWinner then fighter.ticketDay else 0)
      fightCount := player.pvpInfo.fightCount + 1 }) (past ++ [event]) := by
  have inside : place < player.pvpInfo.fightInfoListSng.length := (List.getElem?_eq_some_iff.mp there).1
  refine ⟨running.started, running.charged, ?_, ?_, ?_, ?_, running.coins⟩
  · refine Eq.trans ?_ running.opponents
    have kept : (player.pvpInfo.fightInfoListSng.map fun fighter => (fighter.enemy, fighter.ticketDay))[place]? =
        some (fighter.enemy, fighter.ticketDay) := by
      rw [List.getElem?_map, there]
      rfl
    obtain ⟨_, entry⟩ := List.getElem?_eq_some_iff.mp kept
    show ((player.pvpInfo.fightInfoListSng.set place _).map _) = _
    rw [List.map_set, ← entry, List.set_getElem_self]
  · intro other fighter' there' beaten
    replace there' : (player.pvpInfo.fightInfoListSng.set place { fighter with result, seed })[other]? = some fighter' := there'
    by_cases same : place = other
    · subst same
      rw [List.getElem?_set_self inside] at there'
      obtain rfl := Option.some.inj there'
      obtain rfl : result = some pvpWinner := beaten
      exact ⟨event, List.mem_append_right _ List.mem_cons_self, enemyType, seed, fights, found⟩
    · rw [List.getElem?_set_ne same] at there'
      exact (running.mono event).won other fighter' there' beaten
  · intro k taken
    have before := running.reached k taken
    show _ ≤ player.pvpInfo.fightCount + 1
    omega
  · have gains : beaten (player.pvpInfo.fightInfoListSng.set place { fighter with result, seed }) =
        beaten player.pvpInfo.fightInfoListSng + if result = some pvpWinner then fighter.ticketDay else 0 := by
      rw [beaten_set there]
      unfold Fighter.gain
      rw [if_neg unbeaten, sub_zero]
    show player.pvpInfo.ticketDay + _ = enrolled.pvpInfo.ticketDay + beaten (player.pvpInfo.fightInfoListSng.set place _) + _
    rw [gains]
    have before := running.tickets
    show player.pvpInfo.ticketDay + _ = enrolled.pvpInfo.ticketDay + _ +
      overChests fun k => if player.pvpInfo.box k ≠ 0 then (sportsChest k).Reward1 else 0
    omega

theorem due_iff {k : Fin 3} (reached : player.pvpInfo.box k = 0 → (sportsChest k).WinNum ≤ player.pvpInfo.fightCount) :
    Due player.pvpInfo k ↔ player.pvpInfo.box k = 0 := ⟨fun due => due.1, fun untaken => ⟨untaken, reached untaken⟩⟩

theorem running_box (running : Running enrolled player past) {k : Fin 3} {bagList : BagList} {ticketDay : Int}
    (inReach : player.pvpInfo.box k = 0 → (sportsChest k).WinNum ≤ player.pvpInfo.fightCount)
    (tickets : ticketDay = if Due player.pvpInfo k then (sportsChest k).Reward1 else 0)
    (gained : coins bagList = coins player.bagList + if Due player.pvpInfo k then (sportsChest k).Reward2 else 0) :
    Running enrolled ⟨{ player.pvpInfo with
      ticketDay := player.pvpInfo.ticketDay + ticketDay
      box := Function.update player.pvpInfo.box k 1 }, bagList⟩ past := by
  simp only [due_iff inReach] at tickets gained
  refine ⟨running.started, running.charged, running.opponents, running.won, ?_, ?_, ?_⟩
  · intro j taken
    by_cases same : j = k
    · subst same
      by_cases untaken : player.pvpInfo.box j = 0
      · exact inReach untaken
      · exact running.reached j untaken
    · replace taken : Function.update player.pvpInfo.box k 1 j ≠ 0 := taken
      rw [Function.update_of_ne same] at taken
      exact running.reached j taken
  · show player.pvpInfo.ticketDay + ticketDay = enrolled.pvpInfo.ticketDay + beaten player.pvpInfo.fightInfoListSng +
      overChests fun j => if Function.update player.pvpInfo.box k 1 j ≠ 0 then (sportsChest j).Reward1 else 0
    rw [overChests_take, running.tickets, tickets]
    omega
  · show Sng.coins bagList = Sng.coins enrolled.bagList +
      overChests fun j => if Function.update player.pvpInfo.box k 1 j ≠ 0 then (sportsChest j).Reward2 else 0
    rw [overChests_take, gained, running.coins]
    omega

theorem running_step (stack : CoinsStack Item) (running : Running enrolled player past) (careful : Careful player event)
    (stays : ¬ Exits Item player event) : Running enrolled (step Item player event) (past ++ [event]) := by
  rcases @step_cases _ Item _ _ careful with ⟨same, -⟩ | ⟨data, outArgs, handled, same, answered⟩
  · rw [same]
    exact running.mono event
  rw [same]
  unfold Careful at careful
  cases request : event.request with
  | enrollPvpSng =>
    rw [request] at careful
    exact absurd running.started careful
  | getSngReward enemyType outcome =>
    rw [request] at handled
    rcases reward_ok handled with same | ⟨place, fighter, result, seed, found, there, unbeaten, rfl, rfl⟩
    · rw [same]
      exact running.mono event
    · exact running_reward running found there unbeaten request
  | getSngBoxReward boxCount moments =>
    rw [request] at handled careful
    obtain ⟨-, k, claim, asked, tickets, gained, rfl⟩ := box_ok stack handled
    exact (running_box running (careful.1 k asked) tickets gained).mono event
  | exitPvpSng moments =>
    obtain ⟨startMark, ticketDay, bagItem, rfl⟩ := (answer_of handled).1 moments request
    exact absurd ⟨startMark, ticketDay, bagItem, answered⟩ stays

theorem running_run (stack : CoinsStack Item) {events : List (Event ε)} (running : Running enrolled player past)
    (along : Along (step Item) (fun player event => Careful player event ∧ ¬ Exits Item player event) player events) :
    Running enrolled (run (step Item) player events) (past ++ events) := by
  induction events generalizing player past with
  | nil => simpa using running
  | cons event rest ih =>
    have next := ih (running_step stack running along.1.1 along.1.2) along.2
    simpa using next

/-- Nobody has enrolled again. -/
theorem again_along (stack : CoinsStack Item) {events : List (Event ε)} (running : Running enrolled player past)
    (along : Along (step Item) (fun player event => Careful player event ∧ ¬ Exits Item player event) player events) :
    Along (step Item) (Again Item) player events := by
  induction events generalizing player past with
  | nil => trivial
  | cons event rest ih =>
    refine ⟨fun updateTime list1 list2 list3 request => ?_, ih (running_step stack running along.1.1 along.1.2) along.2⟩
    have careful := along.1.1
    unfold Careful at careful
    rw [request] at careful
    exact absurd running.started careful

theorem left_of_exit (stack : CoinsStack Item) (running : Running enrolled player past) (careful : Careful player event)
    (exits : Exits Item player event) : Left enrolled player (step Item player event) := by
  obtain ⟨startMark, ticketDay, bagItem, exits⟩ := exits
  rcases @step_cases _ Item _ _ careful with ⟨-, failed, fails⟩ | ⟨data, outArgs, handled, same, answered⟩
  · cases fails.symm.trans exits
  obtain ⟨moments, request⟩ := (answer_of handled).2.1 startMark ticketDay bagItem (Except.ok.inj (answered.symm.trans exits))
  rw [request] at handled
  obtain ⟨ended, charged, tickets, gained⟩ := exit_ok stack handled
  -- A box that was taken was in reach, so those taken and those still due are those in reach.
  have both (amount : Fin 3 → Int) :
      overChests (fun k => if player.pvpInfo.box k ≠ 0 then amount k else 0) +
          overChests (fun k => if Due player.pvpInfo k then amount k else 0) =
        overChests fun k => if (sportsChest k).WinNum ≤ player.pvpInfo.fightCount then amount k else 0 := by
    have each : ∀ k, ((if player.pvpInfo.box k ≠ 0 then amount k else 0) + if Due player.pvpInfo k then amount k else 0) =
        if (sportsChest k).WinNum ≤ player.pvpInfo.fightCount then amount k else 0 := by
      intro k
      have reached := running.reached k
      unfold Due
      by_cases untaken : player.pvpInfo.box k = 0
      · simp [untaken]
      · simp [untaken, reached untaken]
    simp only [overChests_eq]
    rw [← each 0, ← each 1, ← each 2]
    omega
  rw [same]
  refine ⟨ended, charged.trans running.charged, ?_, ?_⟩
  · rw [tickets, running.tickets, ← both]
    omega
  · rw [gained, running.coins, ← both]
    omega

end

def coinRows : Obj Bag.ItemRow := Obj.set ∅ "12010" ⟨2, some 999, 4, 0, some 100⟩

theorem coinRows_truthful : ["0", "", "false", "undefined", "null"].all (fun name => !coinRows.has name) = true := rfl

def coinTable : ItemTable := ⟨coinRows, coinRows_truthful⟩

theorem coinTable_stack : CoinsStack coinTable := by
  intro row listed
  obtain rfl := Option.some.inj listed
  decide

def newcomer : Player Unit := ⟨⟨5, 0, 0, 0, pvpSngEnd, fun _ => 0, 0, 0, 0, 0, []⟩, ⟨100, ∅, ∅⟩⟩

def moment : Moment := ⟨0, 0, 0⟩

/-- One opponent, worth ten tickets. -/
def enroll : Event Unit := ⟨.enrollPvpSng (some 0) [((), 10)] [] [], none, none⟩
def fight (result : Int) : Event Unit := ⟨.getSngReward (some 1) (.fought (some result) 7), none, none⟩
def openFirst : Event Unit := ⟨.getSngBoxReward (.text "1") fun _ => moment, none, none⟩
def exit : Event Unit := ⟨.exitPvpSng fun _ _ => moment, none, none⟩

theorem enroll_enrols : respond coinTable newcomer enroll =
    .ok (.enrolled { newcomer.pvpInfo with ticketN := 4, startMark := 1, fightInfoListSng := [newFighter () 10] }) := rfl

end Tinygame.Sng
