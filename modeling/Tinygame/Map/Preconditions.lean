import Tinygame.Map.Buildings

/-!
# Buildings and their preconditions

A building should be refused as long as the sign that its row asks for is missing, and otherwise be there for its first
click. The row, the first state, the function of the type and what that asks for are each looked up on their own.
-/

namespace Tinygame.Map
open MapElement ErrCode

/-! ### What is asked of a building -/

section
variable (cfg : MapConfig) (draws : Draws)

/-- The column `Precondition` of the row of a building. -/
def precondition (type : UidType) (name : String) : Option String :=
  match type with
  | .chest => (cfg.chest.get? name).bind (·.precondition)
  | .monsterchal => (cfg.monsterchal.get? name).bind (·.precondition)
  | .unknow => (cfg.unknow.get? name).bind (·.precondition)
  | .buffStation => (cfg.buffStation.get? name).bind (·.precondition)
  | .watchTower => (cfg.watchTower.get? name).bind id
  | .lobstacle => (cfg.lobstacle.get? name).bind id
  | .chestChoo => (cfg.chestChoo.get? name).bind (·.precondition)
  | .mission => (cfg.mission.get? name).bind id
  | .npc => (cfg.npc.get? name).bind id

/-- The record has not the sign that the building asks for. -/
def Unmet (type : UidType) (name : String) (node : MapNode) : Prop :=
  ∃ sign, precondition cfg type name = some sign ∧ node.sign.has sign = false

/-- The row of a building is there with what the function of its type reads, and the choice is one of its columns. -/
def Configured (type : UidType) (name : String) (choo : Option (Option Int)) : Prop :=
  match type with
  | .chest => ∃ row reward, cfg.chest.get? name = some row ∧ row.reward = some reward ∧ cfg.drop.has reward = true
  | .monsterchal => ∃ row monster reward, cfg.monsterchal.get? name = some row ∧ row.monster = some monster ∧ row.reward = some reward
  | .unknow => ∃ row pro1 pro2, cfg.unknow.get? name = some row ∧ row.probability1 = some pro1 ∧ row.probability2 = some pro2 ∧
      0 ≤ pro1 ∧ 0 ≤ pro2 ∧ draws.rand.isSome = true
  | .buffStation => ∃ row buff, cfg.buffStation.get? name = some row ∧ row.buff = some buff ∧ cfg.buffExp.has buff = true
  | .watchTower => cfg.watchTower.has name = true
  | .chestChoo => ∃ row choice, cfg.chestChoo.get? name = some row ∧ choo = some (some choice) ∧ choice ≠ 0 ∧
      row.probability.has (toString choice) = true ∧ draws.rand.isSome = true
  | .npc => cfg.npc.has name = true
  | .lobstacle | .mission => False

/-- The state that is stored by the first transition of a type, if any: a fight that is lost leaves none. -/
inductive First (won : Bool) : UidType → Option Nat → Prop
  | chest : First won .chest (some CHEST_PICKED)
  | fought (victory : won = true) : First won .monsterchal (some MONSTERCHAL_FIGHTED)
  | lost (defeat : won = false) : First won .monsterchal none
  | unknowReward : First won .unknow (some UNKNOW_REWARD)
  | unknowMonster : First won .unknow (some UNKNOW_MONSTER)
  | buffStation : First won .buffStation (some BUFFSTATION_PICKED)
  | watchTower : First won .watchTower (some WATCHTOWER_PICKED)
  | chestChoo : First won .chestChoo (some CHESTCHOO_CHOOD)
  | npc : First won .npc (some NPC_CLICKED)

/-- Nothing of the drop is drawn at random. -/
def DrawsNothing (reward : Option String) : Prop :=
  ∀ row, cfg.drop.get? (reward.getD "undefined") = some row → (row.number && decide (0 < draws.itemNum)) = false

end

/-- The request is for a building of the map that the player is on, which is open. -/
structure Asks (cfg : MapConfig) (nodeid uid : Sent) (data : DataValue) (row : WorldMapRow) (element : Element) (type : UidType)
    (node : MapNode) : Prop where
  here : data.mapInfo.curNode.same nodeid = true
  record : data.nodeInfo = some (.map node)
  found : cfg.node nodeid.name = some row
  map : row.type2 = NodeType.map
  info : (cfg.map row.resourceID).isSome = true
  opened : data.mapInfo.openNode.has nodeid.name = true
  there : checkUidPos cfg row.resourceID uid.name = some element
  known : element.type.bind UidType.ofNumber = some type
  sheet : cfg.elementType.has ((element.type.map toString).getD "NaN") = true

section
variable (cfg : MapConfig) (draws : Draws) (nodeid uid : Sent) (choo : Option (Option Int)) (now : Int) (data : DataValue)

/-- The request is accepted and stores the first transition of the type. -/
def Accepted (type : UidType) : Prop :=
  ∃ done node', changeState cfg draws nodeid uid choo now data = some done ∧ done.retCode = none ∧
    done.data.nodeInfo = some (.map node') ∧ First draws.won type (node'.uidList.get? uid.name)

/-- A building is refused while its sign is missing, and is otherwise there for its first click. -/
structure UsedRight (type : UidType) (name : String) (node : MapNode) : Prop where
  refused : Unmet cfg type name node → changeState cfg draws nodeid uid choo now data = some (fails data MAP_UID_PRECHECK_FAIL)
  accepted : ¬Unmet cfg type name node → node.uidList.has uid.name = false → Accepted cfg draws nodeid uid choo now data type

/-- A building that has not been processed is there for its first click: a buff station has no first state, and what is drawn
at random cannot be given. -/
def Answers (type : UidType) (name : String) : Prop :=
  match type with
  | .chest => DrawsNothing cfg draws ((cfg.chest.get? name).bind (·.reward))
  | .buffStation => False
  | .chestChoo => ∀ row choice prop rand, cfg.chestChoo.get? name = some row → choo = some (some choice) →
      row.probability.get? (toString choice) = some prop → draws.rand = some rand → rand ≤ prop →
        DrawsNothing cfg draws (row.reward.get? (toString choice))
  | _ => True

/-- The sign of a chest to choose from is not asked for. -/
structure Usable (type : UidType) (name : String) (node : MapNode) : Prop where
  asked : type = .chestChoo → ¬Unmet cfg type name node
  answers : Unmet cfg type name node ∨ node.uidList.has uid.name = true ∨ Answers cfg draws choo type name

end

variable {cfg : MapConfig} {draws : Draws} {uid name : String} {node : MapNode} {uidState : Option Nat} {type : UidType}

/-- A processed click that is accepted and stores the first transition. -/
def Stores (won : Bool) (type : UidType) (uid : String) (click : Option Processed) : Prop :=
  ∃ done, click = some done ∧ done.outArgs.retCode = none ∧ First won type (done.node.uidList.get? uid)

theorem not_stores_refuse {won : Bool} {code : Nat} : ¬ Stores won type uid (some (refuse node code)) := by
  rintro ⟨done, same, ok, -⟩
  obtain rfl := Option.some.inj same
  cases ok

theorem not_stores_none {won : Bool} : ¬ Stores won type uid none := by
  rintro ⟨done, same, -⟩
  cases same

theorem setUid_stored (node : MapNode) (uid : String) (state : Nat) : (node.setUid uid state).uidList.get? uid = some state :=
  Obj.get?_set_self ..

/-! ### Drops -/

variable (node) in
theorem dropPool_of_drawsNothing {reward : Option String} (nothing : DrawsNothing cfg draws reward) :
    dropPool cfg draws reward node = .error ∨ ∃ record given, dropPool cfg draws reward node = .pack record given := by
  unfold dropPool
  split
  · exact .inl rfl
  · rename_i row found
    dsimp only
    rw [nothing row found]
    exact .inr ⟨_, _, rfl⟩

variable (node) in
theorem dropPool_of_draws {reward : Option String} (some' : ¬ DrawsNothing cfg draws reward) :
    ∃ given, dropPool cfg draws reward node = .thrown given := by
  unfold DrawsNothing at some'
  push Not at some'
  obtain ⟨row, found, drawn⟩ := some'
  unfold dropPool
  rw [found]
  dsimp only
  rw [if_pos (Bool.eq_true_of_not_eq_false drawn)]
  exact ⟨_, rfl⟩

theorem dropPool_known {reward : String} (known : cfg.drop.has reward = true) : dropPool cfg draws (some reward) node ≠ .error := by
  obtain ⟨row, found⟩ := Obj.has_iff.mp known
  unfold dropPool
  rw [Option.getD_some, found]
  dsimp only
  split <;> exact nofun

/-! ### The first click of each type -/

theorem processChest_stores {won : Bool} {row : ChestRow} {reward : String} (found : cfg.chest.get? name = some row)
    (pays : row.reward = some reward) (known : cfg.drop.has reward = true) :
    Stores won .chest uid (processChest cfg draws (some CHEST_INIT) uid name node) ↔ DrawsNothing cfg draws row.reward := by
  obtain ⟨condition, reward'⟩ := row
  obtain rfl : reward' = some reward := pays
  unfold processChest
  rw [if_pos rfl, found]
  dsimp only
  by_cases nothing : DrawsNothing cfg draws (some reward)
  · rcases dropPool_of_drawsNothing node nothing with failed | ⟨record, given, pack⟩
    · exact absurd failed (dropPool_known known)
    · rw [pack]
      exact iff_of_true ⟨_, rfl, rfl, by rw [setUid_stored]; exact .chest⟩ nothing
  · obtain ⟨given, thrown⟩ := dropPool_of_draws node nothing
    rw [thrown]
    exact iff_of_false not_stores_none nothing

/-- A fight is fought, whatever becomes of it and of its reward. -/
theorem processMonsterchal_stores {row : MonsterchalRow} {monster reward : String} (found : cfg.monsterchal.get? name = some row)
    (fights : row.monster = some monster) (pays : row.reward = some reward) (new : node.uidList.get? uid = none) :
    Stores draws.won .monsterchal uid (processMonsterchal cfg draws (some MONSTERCHAL_INIT) uid name node) := by
  obtain ⟨condition, monster', reward'⟩ := row
  obtain rfl : monster' = some monster := fights
  obtain rfl : reward' = some reward := pays
  unfold processMonsterchal
  rw [if_pos rfl, found]
  dsimp only
  refine ⟨_, rfl, ?_⟩
  unfold fightFor
  dsimp only
  cases victory : draws.won with
  | false => exact ⟨rfl, by rw [Option.isSome_some, Bool.true_and, if_neg Bool.false_ne_true, new]; exact .lost rfl⟩
  | true =>
    have fighted : First true .monsterchal ((node.setUid uid MONSTERCHAL_FIGHTED).uidList.get? uid) := by
      rw [setUid_stored]
      exact .fought rfl
    rw [Option.isSome_some, Bool.true_and, if_pos rfl]
    cases drop : dropPool cfg draws (some reward) (node.setUid uid MONSTERCHAL_FIGHTED) with
    | error => exact ⟨rfl, fighted⟩
    | pack record given =>
      obtain ⟨sign, same⟩ := (dropPool_signed.1 record given drop).rest
      exact ⟨rfl, by rw [same]; exact fighted⟩
    | thrown given =>
      obtain ⟨sign, same⟩ := (dropPool_signed.2 given drop).rest
      exact ⟨rfl, by rw [same]; exact fighted⟩

theorem processUnknow_stores {won : Bool} {row : UnknowRow} {pro1 pro2 : Int} (found : cfg.unknow.get? name = some row)
    (first : row.probability1 = some pro1) (second : row.probability2 = some pro2) (low1 : 0 ≤ pro1) (low2 : 0 ≤ pro2)
    (drawn : draws.rand.isSome = true) : Stores won .unknow uid (processUnknow cfg draws (some UNKNOW_INIT) uid name node) := by
  obtain ⟨condition, _, _, monster, reward⟩ := row
  obtain ⟨rand, ran⟩ := Option.isSome_iff_exists.mp drawn
  cases first
  cases second
  unfold processUnknow
  rw [if_pos rfl, found]
  dsimp only
  rw [if_pos ⟨low1, low2⟩, ran, Option.map_some]
  refine ⟨_, rfl, rfl, ?_⟩
  rw [setUid_stored]
  split
  · exact .unknowReward
  · exact .unknowMonster

/-- No state is the first one of a buff station. -/
theorem not_stores_buffStation {won : Bool} : ¬ Stores won .buffStation uid (processBuffStation cfg BUFFSTATION_INIT uid name node) := by
  unfold processBuffStation
  rw [if_neg (fun init => absurd init.1 Bool.false_ne_true)]
  exact not_stores_refuse

theorem processWatchTower_stores {won : Bool} (known : cfg.watchTower.has name = true) :
    Stores won .watchTower uid (processWatchTower cfg uid name node) := by
  unfold processWatchTower
  rw [if_pos known]
  exact ⟨_, rfl, rfl, by rw [setUid_stored]; exact .watchTower⟩

theorem processNpc_stores {won : Bool} (known : cfg.npc.has name = true) :
    Stores won .npc uid (processNpc cfg (some NPC_INIT) uid name node) := by
  unfold processNpc
  rw [if_pos rfl, if_pos known]
  exact ⟨_, rfl, rfl, by rw [setUid_stored]; exact .npc⟩

/-- Whether the choice pays, and the reward is one that cannot be given. -/
theorem processChestChoo_stores {won : Bool} {row : ChestChooRow} {choice prop rand : Int} (found : cfg.chestChoo.get? name = some row)
    (chosen : choice ≠ 0) (column : row.probability.get? (toString choice) = some prop) (drawn : draws.rand = some rand) :
    Stores won .chestChoo uid (processChestChoo cfg draws (some CHESTCHOO_INIT) uid name node (some (some choice))) ↔
      (rand ≤ prop → DrawsNothing cfg draws (row.reward.get? (toString choice))) := by
  have chood (given : MapNode) : First won .chestChoo ((given.setUid uid CHESTCHOO_CHOOD).uidList.get? uid) := by
    rw [setUid_stored]
    exact .chestChoo
  unfold processChestChoo
  rw [Option.bind_some, found]
  dsimp only
  rw [if_pos ⟨chosen, rfl⟩, column]
  dsimp only
  rw [drawn, Option.bind_some]
  by_cases pays : rand ≤ prop
  · rw [if_pos pays]
    by_cases nothing : DrawsNothing cfg draws (row.reward.get? (toString choice))
    · refine iff_of_true ?_ fun _ => nothing
      rcases dropPool_of_drawsNothing node nothing with failed | ⟨record, given, pack⟩
      · rw [failed]
        exact ⟨_, rfl, rfl, chood node⟩
      · rw [pack]
        exact ⟨_, rfl, rfl, chood given⟩
    · obtain ⟨given, thrown⟩ := dropPool_of_draws node nothing
      rw [thrown]
      exact iff_of_false not_stores_none fun safe => nothing (safe pays)
  · rw [if_neg pays]
    exact iff_of_true ⟨_, rfl, rfl, chood node⟩ fun paid => absurd paid pays

/-! ### The request -/

section
variable {nodeid uid : Sent} {choo : Option (Option Int)} {now : Int} {data : DataValue} {row : WorldMapRow} {element : Element}

/-- What is made of a request that comes to its building. -/
theorem changeState_asks (asks : Asks cfg nodeid uid data row element type node) :
    changeState cfg draws nodeid uid choo now data =
      (((checkPreContion cfg element.type element.name node).bind fun met =>
        if met = false then some (data.mapInfo, refuse node MAP_UID_PRECHECK_FAIL)
        else (processType cfg draws element uid.name choo node).bind fun done =>
          if done.outArgs.retCode.isSome then some (data.mapInfo, done)
          else countExplore cfg nodeid.name row uid data.mapInfo now done).map fun done =>
        { data := ⟨done.1, some (.map done.2.node)⟩, retCode := done.2.outArgs.retCode, gave := done.2.gave }) := by
  obtain ⟨entry, opened⟩ := Obj.has_iff.mp asks.opened
  unfold changeState
  rw [if_neg (by rw [asks.here]; exact nofun), asks.record]
  dsimp only
  rw [asks.found, Option.bind_some, if_neg (not_not_intro asks.map), opened]
  dsimp only
  unfold processUid
  rw [asks.found, Option.bind_some, asks.there]
  dsimp only
  rw [if_neg (by rw [asks.sheet]; exact nofun)]

variable (now) in
/-- A click on an open node is counted. -/
theorem countExplore_isSome (asks : Asks cfg nodeid uid data row element type node) (done : Processed) :
    ∃ left, countExplore cfg nodeid.name row uid data.mapInfo now done = some left := by
  obtain ⟨entry, opened⟩ := Obj.has_iff.mp asks.opened
  obtain ⟨info, mapped⟩ := Option.isSome_iff_exists.mp asks.info
  unfold countExplore
  rw [opened, mapped]
  dsimp only
  split
  · unfold addTimeNode
    have found : cfg.toWorldConfig.node nodeid.name = some row := asks.found
    have mapped : cfg.toWorldConfig.map row.resourceID = some info := mapped
    rw [mapped, found]
    exact ⟨_, rfl⟩
  · exact ⟨_, rfl⟩

theorem accepted_iff (asks : Asks cfg nodeid uid data row element type node)
    (met : checkPreContion cfg element.type element.name node = some true) :
    Accepted cfg draws nodeid uid choo now data type ↔
      Stores draws.won type uid.name (processType cfg draws element uid.name choo node) := by
  unfold Accepted
  rw [changeState_asks asks, met, Option.bind_some, if_neg (by simp)]
  constructor
  · rintro ⟨done, node', run, ok, stored, first⟩
    obtain ⟨left, clicked, rfl⟩ := Option.map_eq_some_iff.mp run
    obtain ⟨click, processed, counted⟩ := Option.bind_eq_some_iff.mp clicked
    obtain rfl := NodeInfo.map.inj (Option.some.inj stored)
    refine ⟨click, processed, ?_⟩
    split at counted
    · rename_i refused
      obtain rfl := Option.some.inj counted
      have ok : click.outArgs.retCode = none := ok
      rw [ok] at refused
      cases refused
    · obtain ⟨⟨-, code⟩, entry, info, -, -, counted⟩ := countExplore_counted counted
      refine ⟨code.symm.trans ok, ?_⟩
      rw [← counted.node_continues.1]
      exact first
  · rintro ⟨click, processed, ok, first⟩
    obtain ⟨left, counted⟩ := countExplore_isSome now asks click
    obtain ⟨⟨-, code⟩, entry, info, -, -, did⟩ := countExplore_counted counted
    rw [processed, Option.bind_some, ok, if_neg (by simp), counted]
    refine ⟨_, left.2.node, rfl, code.trans ok, rfl, ?_⟩
    rw [did.node_continues.1]
    exact first

/-- Of every type but the chests to choose from the sign is read that the row asks for. -/
theorem getUidPreCondition_read (known : element.type.bind UidType.ofNumber = some type)
    (configured : Configured cfg draws type name choo) (other : type ≠ .chestChoo) :
    getUidPreCondition cfg element.type name = some (precondition cfg type name) := by
  unfold getUidPreCondition precondition
  rw [known]
  cases type with
  | chest =>
    obtain ⟨row, _, found, -⟩ := configured
    simp [found]
  | monsterchal =>
    obtain ⟨row, _, _, found, -⟩ := configured
    simp [found]
  | unknow =>
    obtain ⟨row, _, _, found, -⟩ := configured
    simp [found]
  | buffStation =>
    obtain ⟨row, _, found, -⟩ := configured
    simp [found]
  | watchTower =>
    obtain ⟨condition, found⟩ := Obj.has_iff.mp configured
    simp [found]
  | npc =>
    obtain ⟨condition, found⟩ := Obj.has_iff.mp configured
    simp [found]
  | chestChoo => exact absurd rfl other
  | lobstacle => exact configured.elim
  | mission => exact configured.elim

variable (node) in
/-- The sign is asked for as it should. -/
theorem checkPreContion_met (known : element.type.bind UidType.ofNumber = some type)
    (configured : Configured cfg draws type name choo) (other : type ≠ .chestChoo) :
    ∃ met, checkPreContion cfg element.type name node = some met ∧ (met = false ↔ Unmet cfg type name node) := by
  unfold checkPreContion Unmet
  rw [getUidPreCondition_read known configured other]
  refine ⟨_, rfl, ?_⟩
  cases precondition cfg type name <;> simp

/-- A chest to choose from has no sign that is asked for. -/
theorem checkPreContion_chestChoo (known : element.type.bind UidType.ofNumber = some .chestChoo) :
    checkPreContion cfg element.type name node = some true := by
  unfold checkPreContion getUidPreCondition
  rw [known]
  rfl

theorem processChestChoo_code {done : Processed} (run : processChestChoo cfg draws uidState uid.name name node choo = some done) :
    done.outArgs.retCode ≠ some MAP_UID_PRECHECK_FAIL := by
  have ended {done : Processed} (run : some (refuse node MAP_UID_ENDED) = some done) :
      done.outArgs.retCode ≠ some MAP_UID_PRECHECK_FAIL := by
    obtain rfl := Option.some.inj run
    exact of_decide_eq_true rfl
  have accepted {result done : Processed} (ok : result.outArgs.retCode = none) (run : some result = some done) :
      done.outArgs.retCode ≠ some MAP_UID_PRECHECK_FAIL := by
    obtain rfl := Option.some.inj run
    rw [ok]
    exact nofun
  unfold processChestChoo at run
  obtain ⟨choice, -, run⟩ := Option.bind_eq_some_iff.mp run
  split at run
  · exact ended run
  · split at run
    · exact ended run
    · split at run
      · split at run
        · exact ended run
        · obtain ⟨rand, -, run⟩ := Option.bind_eq_some_iff.mp run
          dsimp only at run
          split at run
          · split at run
            · exact accepted rfl run
            · cases run
            · exact accepted rfl run
          · exact accepted rfl run
      · exact ended run

/-- No chest to choose from is refused for its sign. -/
theorem chestChoo_not_refused (asks : Asks cfg nodeid uid data row element .chestChoo node) :
    changeState cfg draws nodeid uid choo now data ≠ some (fails data MAP_UID_PRECHECK_FAIL) := by
  rw [changeState_asks asks, checkPreContion_chestChoo asks.known, Option.bind_some, if_neg (by simp)]
  intro run
  obtain ⟨left, clicked, same⟩ := Option.map_eq_some_iff.mp run
  obtain ⟨click, processed, counted⟩ := Option.bind_eq_some_iff.mp clicked
  have code : left.2.outArgs.retCode = some MAP_UID_PRECHECK_FAIL := congrArg Outcome.retCode same
  unfold processType at processed
  rw [asks.known] at processed
  have right := processChestChoo_code processed
  split at counted
  · obtain rfl := Option.some.inj counted
    exact right code
  · exact right ((countExplore_counted counted).1.2.symm.trans code)

theorem usedRight_iff (asks : Asks cfg nodeid uid data row element type node) (configured : Configured cfg draws type element.name choo) :
    UsedRight cfg draws nodeid uid choo now data type element.name node ↔
      (type = .chestChoo → ¬Unmet cfg type element.name node) ∧ (¬Unmet cfg type element.name node → node.uidList.has uid.name = false →
        Stores draws.won type uid.name (processType cfg draws element uid.name choo node)) := by
  by_cases chestChoo : type = .chestChoo
  · subst chestChoo
    have accepts : Accepted cfg draws nodeid uid choo now data .chestChoo ↔
        Stores draws.won .chestChoo uid.name (processType cfg draws element uid.name choo node) :=
      accepted_iff asks (checkPreContion_chestChoo asks.known)
    constructor
    · intro right
      exact ⟨fun _ unmet => chestChoo_not_refused asks (right.refused unmet), fun met new => accepts.mp (right.accepted met new)⟩
    · rintro ⟨met, stores⟩
      exact ⟨fun unmet => absurd unmet (met rfl), fun met new => accepts.mpr (stores met new)⟩
  · obtain ⟨met, checked, asked⟩ := checkPreContion_met node asks.known configured chestChoo
    have passed (met' : ¬Unmet cfg type element.name node) : checkPreContion cfg element.type element.name node = some true := by
      rw [checked, Bool.eq_true_of_not_eq_false fun failed => met' (asked.mp failed)]
    have refused (unmet : Unmet cfg type element.name node) :
        changeState cfg draws nodeid uid choo now data = some (fails data MAP_UID_PRECHECK_FAIL) := by
      obtain ⟨map, _⟩ := data
      obtain rfl := asks.record
      rw [changeState_asks asks, checked, Option.bind_some, if_pos (asked.mpr unmet)]
      rfl
    constructor
    · intro right
      exact ⟨fun same => absurd same chestChoo, fun met' new => (accepted_iff asks (passed met')).mp (right.accepted met' new)⟩
    · rintro ⟨-, stores⟩
      exact ⟨refused, fun met' new => (accepted_iff asks (passed met')).mpr (stores met' new)⟩

/-- The first click comes in the first state of the type. -/
theorem uidStateOf_new (new : node.uidList.has name = false) : uidStateOf element name node.uidList = getUidInitState element.type := by
  unfold uidStateOf
  rw [Obj.has_eq_false.mp new]

theorem processType_stores_iff (known : element.type.bind UidType.ofNumber = some type)
    (configured : Configured cfg draws type element.name choo) (new : node.uidList.has uid.name = false) :
    Stores draws.won type uid.name (processType cfg draws element uid.name choo node) ↔ Answers cfg draws choo type element.name := by
  unfold processType
  dsimp only
  rw [uidStateOf_new new]
  unfold getUidInitState
  rw [known]
  cases type with
  | chest =>
    obtain ⟨chest, reward, found, pays, drops⟩ := configured
    unfold Answers
    rw [found]
    exact processChest_stores found pays drops
  | monsterchal =>
    obtain ⟨monsterchal, monster, reward, found, fights, pays⟩ := configured
    exact iff_of_true (processMonsterchal_stores found fights pays (Obj.has_eq_false.mp new)) trivial
  | unknow =>
    obtain ⟨unknow, pro1, pro2, found, first, second, low1, low2, drawn⟩ := configured
    exact iff_of_true (processUnknow_stores found first second low1 low2 drawn) trivial
  | buffStation => exact iff_of_false not_stores_buffStation id
  | watchTower => exact iff_of_true (processWatchTower_stores configured) trivial
  | npc => exact iff_of_true (processNpc_stores configured) trivial
  | chestChoo =>
    obtain ⟨chestChoo, choice, found, rfl, chosen, column, drawn⟩ := configured
    obtain ⟨prop, column⟩ := Obj.has_iff.mp column
    obtain ⟨rand, drawn⟩ := Option.isSome_iff_exists.mp drawn
    dsimp only
    rw [processChestChoo_stores found chosen column drawn]
    constructor
    · rintro safe _ _ _ _ found' chosen' column' drawn' pays
      obtain rfl := Option.some.inj (found.symm.trans found')
      obtain rfl := Option.some.inj (Option.some.inj chosen')
      obtain rfl := Option.some.inj (column.symm.trans column')
      obtain rfl := Option.some.inj (drawn.symm.trans drawn')
      exact safe pays
    · intro safe pays
      exact safe chestChoo choice prop rand found rfl column drawn pays
  | lobstacle => exact configured.elim
  | mission => exact configured.elim

/-- A building is used as it should exactly when it is not one of those that the code treats otherwise. -/
theorem buildings_used_right (asks : Asks cfg nodeid uid data row element type node)
    (configured : Configured cfg draws type element.name choo) :
    UsedRight cfg draws nodeid uid choo now data type element.name node ↔ Usable cfg draws uid choo type element.name node := by
  have stores (new : node.uidList.has uid.name = false) := processType_stores_iff asks.known configured new
  rw [usedRight_iff asks configured]
  constructor
  · rintro ⟨asked, right⟩
    refine ⟨asked, ?_⟩
    by_cases unmet : Unmet cfg type element.name node
    · exact .inl unmet
    · cases new : node.uidList.has uid.name with
      | true => exact .inr (.inl rfl)
      | false => exact .inr (.inr ((stores new).mp (right unmet new)))
  · rintro ⟨asked, answers⟩
    refine ⟨asked, fun met new => (stores new).mpr ?_⟩
    rcases answers with unmet | old | answers
    · exact absurd unmet met
    · cases new.symm.trans old
    · exact answers

end

/-- A player on the first map, who has done nothing there yet. -/
def visitor : DataValue where
  mapInfo := { firstPlayer.mapInfo with
    curNode := .ofNat 101102, openNode := (∅ : Obj OpenNode).set "101102" { process := 0 } }
  nodeInfo := some (.map { x := .whole 9, y := .whole 7 })

def firstChest : Element := ⟨some 1, "100101", 11, 9⟩

theorem visitor_asks : Asks firstConfig (.ofNat 101102) (.ofNat 2220) visitor ⟨1, 1, 1, .node 101203, 5, 10⟩ firstChest .chest
    { x := .whole 9, y := .whole 7 } where
  here := by decide +kernel
  record := rfl
  found := by decide +kernel
  map := rfl
  info := by decide +kernel
  opened := by decide +kernel
  there := by decide +kernel
  known := rfl
  sheet := by decide +kernel

/-- The first chest of the first map can be opened. -/
theorem buildings_used_right_chest :
    UsedRight firstConfig ⟨false, none, 0⟩ (.ofNat 101102) (.ofNat 2220) none 0 visitor .chest "100101"
      { x := .whole 9, y := .whole 7 } := by
  refine (buildings_used_right visitor_asks ⟨⟨none, some "10100101"⟩, "10100101", rfl, rfl, by decide +kernel⟩).mpr
    ⟨nofun, .inr (.inr fun row _ => ?_)⟩
  exact Bool.and_false _

/-- The first map with a fountain, which gives a buff. -/
def fountainConfig : MapConfig :=
  { firstConfig with
    mapJson := (∅ : Obj MapFile).set "01.json" { element := (∅ : Obj Element).set "7" ⟨some 12, "12002", 3, 3⟩ }
    elementType := (∅ : Obj (Obj (Int × Int))).set "12" ∅
    buffStation := (∅ : Obj BuffStationRow).set "12002" ⟨none, some "2"⟩
    buffExp := (∅ : Obj Int).set "2" 10 }

/-- The fountain asks for nothing, and gives nothing. -/
theorem buff_station_refused :
    ¬ UsedRight fountainConfig ⟨false, none, 0⟩ (.ofNat 101102) (.ofNat 7) none 0 visitor .buffStation "12002"
      { x := .whole 9, y := .whole 7 } := by
  intro right
  have met : ¬Unmet fountainConfig .buffStation "12002" { x := .whole 9, y := .whole 7 } := by
    rintro ⟨sign, asked, -⟩
    cases asked
  obtain ⟨done, node', run, ok, -⟩ := right.accepted met rfl
  have refused : (changeState fountainConfig ⟨false, none, 0⟩ (.ofNat 101102) (.ofNat 7) none 0 visitor).bind (·.retCode) =
      some MAP_UID_ENDED := by decide +kernel
  rw [run, Option.bind_some, ok] at refused
  cases refused

end Tinygame.Map
