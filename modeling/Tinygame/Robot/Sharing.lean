import Tinygame.Robot.Robot
import Tinygame.Bag.Capacity

/-!
# Shared equips

Adjusting a robot changes the rows its equips come from, and its own power only is computed again. So the powers stay right,
and the other robots as they are, exactly as long as no adjustment changes a row that another robot has too.
-/

namespace Tinygame.Robot
open Bag (Id ItemTable EquipInfo Moment createEquip)

section
variable (tables : Tables) (toNumber : Id → Option Int) (cache : Cache) (call : Call)

/-- Every robot has the power its heroes and equips have. -/
def PowersRight : Prop := ∀ robot ∈ cache.robots, robotPower tables cache.heroes cache.equips robot = some robot.power

/-- The robots but one have the equips and the power they had. -/
def OthersKept (index : Nat) (before after : Cache) : Prop :=
  ∀ j robot, j ≠ index → before.robots[j]? = some robot → ∃ robot', after.robots[j]? = some robot' ∧ robot'.power = robot.power ∧
    robot'.equipList = robot.equipList ∧ ∀ k, after.equips.get? (robot.equipList k) = before.equips.get? (robot.equipList k)

/-- The robot a call adjusts, and by how much. -/
def Call.adjusts : Call → Option (Nat × Int)
  | .getRobotInfoByPower id draw => some ((nearest cache.robots id).1, deviation (nearest cache.robots id).2 draw)
  | .getRobotPlayerInfo ua draw => ua.id.map fun id => ((nearest cache.robots id).1, deviation (nearest cache.robots id).2 draw)

/-- After the call the powers are right, and it has changed no robot but the one it adjusts. -/
def CallRight : Prop :=
  PowersRight tables (answer tables toNumber cache call) ∧
    ∀ index n, call.adjusts cache = some (index, n) → OthersKept index cache (answer tables toNumber cache call)

/-- How many places of a robot have the row. -/
def places (equipList : Fin 3 → String) (name : String) : Nat := (List.finRange 3).countP fun k => equipList k = name

/-- Every row the adjusted robot shares with another is the same after as many changes as that robot has places with it. -/
def Apart : Prop :=
  ∀ index n robot, call.adjusts cache = some (index, n) → cache.robots[index]? = some robot →
    ∀ j other, j ≠ index → cache.robots[j]? = some other → ∀ k equip, cache.equips.get? (other.equipList k) = some equip →
      (changeEquipPower n)^[places robot.equipList (other.equipList k)] equip = equip

end

variable {tables : Tables} {toNumber : Id → Option Int} {cache : Cache} {call : Call} {robot : RobotInfo} {n : Int}

/-! ### What a change leaves -/

theorem changeEquipListPower_get? (equipList : Fin 3 → String) (n : Int) (equips : Obj EquipInfo) (name : String) :
    (changeEquipListPower equipList n equips).get? name = (equips.get? name).map (changeEquipPower n)^[places equipList name] := by
  unfold changeEquipListPower places
  generalize List.finRange 3 = ks
  induction ks generalizing equips with
  | nil => exact (congrFun Option.map_id _).symm
  | cons k rest ih =>
    rw [List.foldl_cons, ih, Obj.get?_modify, List.countP_cons]
    by_cases same : name = equipList k
    · rw [if_pos same, if_pos (by simp [same]), Function.iterate_succ, ← same, Option.map_map]
    · rw [if_neg same, if_neg (by simpa using Ne.symm same), Nat.add_zero]

/-- Only the rows of its own heroes and equips make the power of a robot. -/
theorem robotPower_congr {heroes heroes' : Obj Hero} {equips equips' : Obj EquipInfo}
    (team : ∀ k, (heroes'.get? (robot.teamList k)).map (Hero.power tables) = (heroes.get? (robot.teamList k)).map (Hero.power tables))
    (worn : ∀ k, equips'.get? (robot.equipList k) = equips.get? (robot.equipList k)) :
    robotPower tables heroes' equips' robot = robotPower tables heroes equips robot := by
  unfold robotPower
  rw [team, team, team, worn, worn, worn]

/-- A position makes no difference to a power. -/
theorem seat_power (heroes : Obj Hero) (teamList : Fin 3 → String) (name : String) :
    ((seat heroes teamList).get? name).map (Hero.power tables) = (heroes.get? name).map (Hero.power tables) := by
  unfold seat
  generalize List.finRange 3 = ks
  induction ks generalizing heroes with
  | nil => rfl
  | cons k rest ih =>
    rw [List.foldl_cons, ih, Obj.get?_modify]
    split
    · rename_i same
      rw [same, Option.map_map]
      rfl
    · rfl

theorem convertOne_powers {equips : Obj EquipInfo} {made next : Obj Hero × List RobotInfo} {i : String} {row : RobotRow}
    (right : ∀ robot ∈ made.2, robotPower tables made.1 equips robot = some robot.power)
    (ok : convertOne tables equips made i row = some next) :
    ∀ robot ∈ next.2, robotPower tables next.1 equips robot = some robot.power := by
  obtain ⟨power, computed, same⟩ := Option.bind_eq_some_iff.mp ok
  obtain rfl := Option.some.inj same
  intro robot there
  rcases List.mem_append.mp there with before | here
  · rw [← right robot before]
    exact robotPower_congr (fun k => seat_power ..) fun k => rfl
  · obtain rfl := List.mem_singleton.mp here
    exact computed

theorem convertRobot_powers {moments : String → Moment} {draws : String → Fin 3 → Nat}
    (made : convertRobot tables moments draws = some cache) :
    PowersRight tables cache := by
  obtain ⟨equips, -, made⟩ := Option.bind_eq_some_iff.mp made
  obtain ⟨heroes, -, made⟩ := Option.bind_eq_some_iff.mp made
  obtain ⟨robots, loop, same⟩ := Option.bind_eq_some_iff.mp made
  obtain rfl := Option.some.inj same
  refine foldlM_ran (fun _ made => ∀ robot ∈ made.2, robotPower tables made.1 equips robot = some robot.power)
    (fun entry rest made next right ok => convertOne_powers right ok) ?_ loop
  intro robot there
  cases there

/-! ### A call -/

/-- What an adjustment does: the rows of one robot are changed, and its power is computed again. -/
structure Adjusted (tables : Tables) (index : Nat) (n : Int) (robot : RobotInfo) (before after : Cache) : Prop where
  found : before.robots[index]? = some robot
  heroes : after.heroes = before.heroes
  equips : after.equips = changeEquipListPower robot.equipList n before.equips
  others : ∀ j, j ≠ index → after.robots[j]? = before.robots[j]?
  own : ∃ robot', after.robots[index]? = some robot' ∧ robotPower tables after.heroes after.equips robot' = some robot'.power

theorem lt_of_found {robots : List RobotInfo} {i : Nat} (found : robots[i]? = some robot) : i < robots.length :=
  (List.getElem?_eq_some_iff.mp found).1

/-- A robot whose equips are all there still has a power. -/
theorem robotPower_changed {power : Int} (computed : robotPower tables cache.heroes cache.equips robot = some power)
    (equipList : Fin 3 → String) (n : Int) : ∃ power', robotPower tables cache.heroes
      (changeEquipListPower equipList n cache.equips) robot = some power' := by
  obtain ⟨hero1, has1, computed⟩ := Option.bind_eq_some_iff.mp computed
  obtain ⟨hero2, has2, computed⟩ := Option.bind_eq_some_iff.mp computed
  obtain ⟨hero3, has3, computed⟩ := Option.bind_eq_some_iff.mp computed
  obtain ⟨_, worn1, computed⟩ := Option.bind_eq_some_iff.mp computed
  obtain ⟨_, worn2, computed⟩ := Option.bind_eq_some_iff.mp computed
  obtain ⟨_, worn3, -⟩ := Option.bind_eq_some_iff.mp computed
  obtain ⟨equip1, there1, -⟩ := Option.map_eq_some_iff.mp worn1
  obtain ⟨equip2, there2, -⟩ := Option.map_eq_some_iff.mp worn2
  obtain ⟨equip3, there3, -⟩ := Option.map_eq_some_iff.mp worn3
  unfold robotPower
  rw [has1, has2, has3, changeEquipListPower_get?, changeEquipListPower_get?, changeEquipListPower_get?, there1, there2, there3]
  exact ⟨_, rfl⟩

theorem getRobotInfoByPower_none {id : Int} (draw : Nat) (none_ : cache.robots[(nearest cache.robots id).1]? = none) :
    getRobotInfoByPower tables cache id draw = none := by
  unfold getRobotInfoByPower
  dsimp only
  rw [none_]
  rfl

theorem getRobotInfoByPower_adjusted (right : PowersRight tables cache) {id : Int} (draw : Nat)
    (found : cache.robots[(nearest cache.robots id).1]? = some robot) :
    ∃ after, getRobotInfoByPower tables cache id draw = some (after, (nearest cache.robots id).1) ∧
      Adjusted tables (nearest cache.robots id).1 (deviation (nearest cache.robots id).2 draw) robot cache after := by
  obtain ⟨power, computed⟩ := robotPower_changed (right robot (List.mem_of_getElem? found)) robot.equipList
    (deviation (nearest cache.robots id).2 draw)
  refine ⟨⟨cache.heroes, changeEquipListPower robot.equipList (deviation (nearest cache.robots id).2 draw) cache.equips,
    cache.robots.set (nearest cache.robots id).1 { robot with power }⟩, ?_, found, rfl, rfl, fun j ne => ?_, { robot with power }, ?_,
    computed⟩
  · unfold getRobotInfoByPower
    dsimp only
    rw [found]
    show (robotPower ..).bind _ = _
    rw [computed]
    rfl
  · exact List.getElem?_set_ne (Ne.symm ne)
  · exact List.getElem?_set_self (lt_of_found found)

/-- A name makes no difference. -/
theorem Adjusted.named {index : Nat} {after : Cache} (adjusted : Adjusted tables index n robot cache after) {robot' : RobotInfo}
    (found : after.robots[index]? = some robot') (area uuid : Id) :
    Adjusted tables index n robot cache { after with robots := after.robots.set index { robot' with area, uuid } } := by
  refine ⟨adjusted.found, adjusted.heroes, adjusted.equips, fun j ne => ?_, { robot' with area, uuid }, ?_, ?_⟩
  · rw [← adjusted.others j ne]
    exact List.getElem?_set_ne (Ne.symm ne)
  · exact List.getElem?_set_self (lt_of_found found)
  · obtain ⟨_, same, computed⟩ := adjusted.own
    obtain rfl := Option.some.inj (found.symm.trans same)
    exact computed

/-- A call that adjusts a robot does so, and nothing else, unless there is none. -/
theorem answer_adjusted (toNumber : Id → Option Int) (right : PowersRight tables cache) {index : Nat}
    (adjusts : call.adjusts cache = some (index, n)) :
    cache.robots[index]? = none ∧ answer tables toNumber cache call = cache ∨
      ∃ robot, Adjusted tables index n robot cache (answer tables toNumber cache call) := by
  cases call with
  | getRobotInfoByPower id draw =>
    obtain ⟨rfl, rfl⟩ := Prod.mk.inj (Option.some.inj adjusts)
    cases found : cache.robots[(nearest cache.robots id).1]? with
    | none =>
      refine .inl ⟨rfl, ?_⟩
      unfold answer
      dsimp only
      rw [getRobotInfoByPower_none draw found]
      rfl
    | some robot =>
      obtain ⟨after, ok, adjusted⟩ := getRobotInfoByPower_adjusted right draw found
      refine .inr ⟨robot, ?_⟩
      unfold answer
      dsimp only
      rwa [ok]
  | getRobotPlayerInfo ua draw =>
    obtain ⟨id, asked, same⟩ := Option.map_eq_some_iff.mp adjusts
    obtain ⟨rfl, rfl⟩ := Prod.mk.inj same
    cases found : cache.robots[(nearest cache.robots id).1]? with
    | none =>
      refine .inl ⟨rfl, ?_⟩
      unfold answer getRobotPlayerInfo
      dsimp only
      rw [asked]
      dsimp only
      rw [getRobotInfoByPower_none draw found]
      rfl
    | some robot =>
      obtain ⟨after, ok, adjusted⟩ := getRobotInfoByPower_adjusted right draw found
      obtain ⟨robot', found', -⟩ := adjusted.own
      refine .inr ⟨robot, ?_⟩
      unfold answer getRobotPlayerInfo
      dsimp only
      rw [asked]
      dsimp only
      rw [ok]
      dsimp only [Option.bind_eq_bind, Option.bind_some]
      rw [found']
      exact adjusted.named found' ua.area ua.uuid

theorem answer_powers (right : PowersRight tables cache) (adjusts : call.adjusts cache = none) :
    PowersRight tables (answer tables toNumber cache call) := by
  cases call with
  | getRobotInfoByPower id draw => cases adjusts
  | getRobotPlayerInfo ua draw =>
    have asked := Option.map_eq_none_iff.mp adjusts
    unfold answer getRobotPlayerInfo
    dsimp only
    rw [asked]
    dsimp only [Option.bind_eq_bind, Option.bind_some]
    cases found : cache.robots[ownRobot toNumber cache.robots ua.uuid draw]? with
    | none => exact right
    | some robot =>
      intro robot' there
      rcases List.mem_or_eq_of_mem_set there with before | rfl
      · exact right robot' before
      · exact right robot (List.mem_of_getElem? found)

/-- An adjustment leaves the powers right and the other robots as they are when the rows they share stay the same. -/
theorem Adjusted.right_iff {index : Nat} {after : Cache} (right : PowersRight tables cache)
    (adjusted : Adjusted tables index n robot cache after) :
    PowersRight tables after ∧ OthersKept index cache after ↔
      ∀ j other, j ≠ index → cache.robots[j]? = some other → ∀ k equip, cache.equips.get? (other.equipList k) = some equip →
        (changeEquipPower n)^[places robot.equipList (other.equipList k)] equip = equip := by
  constructor
  · rintro ⟨-, kept⟩ j other ne found k equip there
    obtain ⟨_, -, -, -, same⟩ := kept j other ne found
    have here := same k
    rw [adjusted.equips, changeEquipListPower_get?, there] at here
    exact Option.some.inj here
  · intro steady
    have same : ∀ j other, j ≠ index → cache.robots[j]? = some other → ∀ k,
        after.equips.get? (other.equipList k) = cache.equips.get? (other.equipList k) := by
      intro j other ne found k
      rw [adjusted.equips, changeEquipListPower_get?]
      cases there : cache.equips.get? (other.equipList k) with
      | none => rfl
      | some equip => exact congrArg some (steady j other ne found k equip there)
    refine ⟨fun other there => ?_, fun j other ne found => ⟨other, ?_, rfl, rfl, same j other ne found⟩⟩
    · obtain ⟨j, found⟩ := List.mem_iff_getElem?.mp there
      by_cases own : j = index
      · obtain ⟨robot', found', computed⟩ := adjusted.own
        obtain rfl := Option.some.inj (found'.symm.trans (own ▸ found))
        exact computed
      · rw [adjusted.others j own] at found
        rw [adjusted.heroes, ← right other (List.mem_of_getElem? found)]
        exact robotPower_congr (fun k => rfl) (same j other own found)
    · rw [adjusted.others j ne, found]

theorem callRight_iff (right : PowersRight tables cache) : CallRight tables toNumber cache call ↔ Apart cache call := by
  unfold CallRight Apart
  cases adjusts : call.adjusts cache with
  | none =>
    refine iff_of_true ⟨answer_powers right adjusts, fun index n some_ => ?_⟩ fun index n robot some_ => ?_
    · cases some_
    · cases some_
  | some both =>
    obtain ⟨index, n⟩ := both
    rcases answer_adjusted toNumber right adjusts with ⟨none_, same⟩ | ⟨robot, adjusted⟩
    · rw [same]
      refine iff_of_true ⟨right, fun index' n' some_ j robot ne found =>
        ⟨robot, found, rfl, rfl, fun k => rfl⟩⟩ fun index' n' robot some_ found => ?_
      obtain ⟨rfl, rfl⟩ := Prod.mk.inj (Option.some.inj some_)
      cases none_.symm.trans found
    · have whole := adjusted.right_iff right
      constructor
      · rintro ⟨powers, kept⟩ index' n' robot' some_ found
        obtain ⟨rfl, rfl⟩ := Prod.mk.inj (Option.some.inj some_)
        obtain rfl := Option.some.inj (adjusted.found.symm.trans found)
        exact whole.mp ⟨powers, kept index n rfl⟩
      · intro apart
        obtain ⟨powers, kept⟩ := whole.mpr (apart index n robot rfl adjusted.found)
        refine ⟨powers, fun index' n' some_ => ?_⟩
        obtain ⟨rfl, rfl⟩ := Prod.mk.inj (Option.some.inj some_)
        exact kept

/-! ### A run -/

variable {made Robot : Option Cache}

theorem run_right_iff (start : ∀ cache, getRobot made Robot = some cache → PowersRight tables cache) (calls : List Call) :
    Along (step tables toNumber made) (fun Robot call => ∀ cache, getRobot made Robot = some cache → CallRight tables toNumber cache call)
        Robot calls ↔
      Along (step tables toNumber made) (fun Robot call => ∀ cache, getRobot made Robot = some cache → Apart cache call) Robot calls := by
  induction calls generalizing Robot with
  | nil => exact Iff.rfl
  | cons call rest ih =>
    have here : (∀ cache, getRobot made Robot = some cache → CallRight tables toNumber cache call) ↔
        ∀ cache, getRobot made Robot = some cache → Apart cache call :=
      forall_congr' fun cache => forall_congr' fun there => callRight_iff (start cache there)
    refine (and_congr_right fun rights => ?_).trans (and_congr_left' here)
    apply ih
    intro cache there
    unfold step at there
    cases before : getRobot made Robot with
    | none =>
      rw [before] at there
      have none_ : made = none := by
        cases Robot with
        | none => exact before
        | some cache => cases before
      cases none_.symm.trans there
    | some cache' =>
      rw [before] at there
      obtain rfl := Option.some.inj there
      exact (rights cache' before).1

/-- **The robots** have the powers their heroes and equips give them after every call, and a call changes no robot but the one it
adjusts, exactly when no adjustment of the run changes a row that the robot shares with another. -/
theorem robots_right_iff (tables : Tables) (toNumber : Id → Option Int) (moments : String → Moment) (draws : String → Fin 3 → Nat)
    (calls : List Call) :
    Along (step tables toNumber (convertRobot tables moments draws))
        (fun Robot call => ∀ cache, getRobot (convertRobot tables moments draws) Robot = some cache → CallRight tables toNumber cache call)
        none calls ↔
      Along (step tables toNumber (convertRobot tables moments draws))
        (fun Robot call => ∀ cache, getRobot (convertRobot tables moments draws) Robot = some cache → Apart cache call) none calls :=
  @run_right_iff tables toNumber (convertRobot tables moments draws) none (fun _ made => convertRobot_powers made) calls

/-! ### Two robots with one sword -/

def twoRobots : Tables where
  Item := Bag.swordAndPack
  auNo _ := 10
  SuitAu _ := true
  getHeroPower _ _ _ _ := 0
  RobotHero := (∅ : Obj RobotHeroRow).set "1" ⟨.number 10012, 1, 1, 1, fun _ => 5⟩
  RobotEquip := (∅ : Obj RobotEquipRow).set "1" ⟨.number 10101, none, some (200, 100), none⟩
  robots := ((∅ : Obj RobotRow).set "1" ⟨fun _ => .number 1, fun _ => .number 1, 10⟩).set "2" ⟨fun _ => .number 1, fun _ => .number 1, 10⟩

def madeRobots : Option Cache := convertRobot twoRobots (fun _ => ⟨0, 0, 0⟩) fun _ _ => 0

/-- The second robot keeps the power 330, and its equips have 510. -/
theorem robot_stale :
    ¬Along (step twoRobots (fun _ => none) madeRobots)
      (fun Robot call => ∀ cache, getRobot madeRobots Robot = some cache → CallRight twoRobots (fun _ => none) cache call) none
      [.getRobotInfoByPower 1000 100] := by
  intro along
  have shown : (madeRobots.bind fun cache =>
    (answer twoRobots (fun _ => none) cache (.getRobotInfoByPower 1000 100)).robots[1]?.map fun robot =>
      (robotPower twoRobots (answer twoRobots (fun _ => none) cache (.getRobotInfoByPower 1000 100)).heroes
        (answer twoRobots (fun _ => none) cache (.getRobotInfoByPower 1000 100)).equips robot, robot.power)) = some (some 510, 330) := by
    decide +kernel
  obtain ⟨cache, made, shown⟩ := Option.bind_eq_some_iff.mp shown
  obtain ⟨robot, found, powers⟩ := Option.map_eq_some_iff.mp shown
  obtain ⟨computed, kept⟩ := Prod.mk.inj powers
  have right := (along.1 cache made).1 robot (List.mem_of_getElem? found)
  rw [computed, kept] at right
  cases right

end Tinygame.Robot
