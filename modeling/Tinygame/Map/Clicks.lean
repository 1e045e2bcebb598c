import Tinygame.Map.MapImp

/-!
# What a click does

A click that is processed is refused, leaves the building as it is, or takes it to another state. What it counts for
the map is added afterwards, whichever of the last two it was.
-/

namespace Tinygame.Map
open MapElement

variable {cfg : MapConfig} {draws : Draws} {uidState : Option Nat} {uid name : String} {node : MapNode} {done : Processed}

/-- The building is processed and stays in its state: its fight is lost, or it is an npc in a state that npcs do
not have. -/
inductive Idle (won : Bool) : UidType → Option Nat → Prop
  | monsterchal (lost : won = false) : Idle won .monsterchal (some MONSTERCHAL_INIT)
  | unknow (lost : won = false) : Idle won .unknow (some UNKNOW_MONSTER)
  | npc (state : Option Nat) (other : state ≠ some NPC_INIT) : Idle won .npc state

/-- The building is taken to a state, and a reward may come with it. -/
inductive Moves (won : Bool) : UidType → Option Nat → Nat → Bool → Prop
  | chest : Moves won .chest (some CHEST_INIT) CHEST_PICKED true
  | monsterchal (gave : Bool) (victory : won = true) :
      Moves won .monsterchal (some MONSTERCHAL_INIT) MONSTERCHAL_FIGHTED gave
  | unknowMonster : Moves won .unknow (some UNKNOW_INIT) UNKNOW_MONSTER false
  | unknowReward : Moves won .unknow (some UNKNOW_INIT) UNKNOW_REWARD false
  | unknowFought (gave : Bool) (victory : won = true) : Moves won .unknow (some UNKNOW_MONSTER) UNKNOW_GOT gave
  | unknowGot (gave : Bool) : Moves won .unknow (some UNKNOW_REWARD) UNKNOW_GOT gave
  | watchTower (state : Option Nat) : Moves won .watchTower state WATCHTOWER_PICKED false
  | chestChoo (gave : Bool) : Moves won .chestChoo (some CHESTCHOO_INIT) CHESTCHOO_CHOOD gave
  | npc : Moves won .npc (some NPC_INIT) NPC_CLICKED false
  | npcAgain : Moves won .npc (some NPC_CLICKED) NPC_CLICKED false

/-- The record has the state for the building, and otherwise what it had before. -/
structure Touched (node : MapNode) (uid : String) (state : Nat) (node' : MapNode) : Prop where
  list : ∀ u, node'.uidList.get? u = if u = uid then some state else node.uidList.get? u
  sign : ∀ k, node.sign.has k = true → node'.sign.has k = true
  buff : node'.buff = node.buff
  pass : node'.pass = node.pass
  ap : node'.ap = node.ap

theorem Touched.written {node node' : MapNode} {uid : String} {state : Nat} (touched : Touched node uid state node')
    (element : Element) : uidStateOf element uid node'.uidList = some state := by
  have here := touched.list uid
  rw [if_pos rfl] at here
  rw [uidStateOf, here]

inductive Clicks (won : Bool) (type : UidType) (uid : String) (uidState : Option Nat) (node : MapNode) (done : Processed) : Prop
  | refused (code : Nat) (same : done = refuse node code) (unsaved : saves (some code) = false)
  | stays (ok : done.outArgs.retCode = none) (same : done.node = node) (none : done.gave = false) (idle : Idle won type uidState)
  | moves (state : Nat) (ok : done.outArgs.retCode = none) (touched : Touched node uid state done.node)
      (moves : Moves won type uidState state done.gave)

/-- Whether the fight for the building is won: an unknown building may have no monster. -/
def fightWon (cfg : MapConfig) (draws : Draws) (element : Element) : Bool :=
  draws.won && match element.type.bind UidType.ofNumber with
    | some .unknow => ((cfg.unknow.get? element.name).bind (·.monster)).isSome
    | _ => true

/-! ### Rewards write signs -/

/-- Nothing but the signs of the record has changed, and they have only become more. -/
structure Signed (node node' : MapNode) : Prop where
  rest : ∃ sign, node' = { node with sign }
  sign : ∀ k, node.sign.has k = true → node'.sign.has k = true

theorem Signed.refl (node : MapNode) : Signed node node := ⟨⟨node.sign, rfl⟩, fun _ there => there⟩

theorem getPoolThing_signed {given : MapNode} (signed : Signed node given) (record : Reward) (thing : String × String) :
    Signed node (getPoolThing given record thing).1 := by
  unfold getPoolThing
  split
  · obtain ⟨sign, rfl⟩ := signed.rest
    refine ⟨⟨_, rfl⟩, fun k there => ?_⟩
    show (sign.set thing.2 1).has k = true
    have kept : sign.has k = true := signed.sign k there
    rw [Obj.has_set, kept, Bool.or_true]
  · exact signed

theorem foreverDrop_signed (things : List (String × String)) {given : MapNode × Reward} (signed : Signed node given.1) :
    Signed node (things.foldl (fun given thing => getPoolThing given.1 given.2 thing) given).1 := by
  induction things generalizing given with
  | nil => exact signed
  | cons thing rest ih => exact ih (getPoolThing_signed signed given.2 thing)

theorem dropPool_signed {id : Option String} : (∀ record given, dropPool cfg draws id node = .pack record given → Signed node given) ∧
    ∀ given, dropPool cfg draws id node = .thrown given → Signed node given := by
  unfold dropPool
  split
  · exact ⟨fun _ _ same => (nomatch same), fun _ same => (nomatch same)⟩
  · rename_i row _
    have start : Signed node ((node, ∅) : MapNode × Reward).1 := Signed.refl node
    have signed := foreverDrop_signed row.foreverDrop start
    dsimp only
    split
    · refine ⟨fun _ _ same => (nomatch same), fun given thrown => ?_⟩
      obtain rfl := Dropped.thrown.inj thrown
      exact signed
    · refine ⟨fun record given pack => ?_, fun _ same => (nomatch same)⟩
      obtain ⟨-, rfl⟩ := Dropped.pack.inj pack
      exact signed

theorem Signed.setUid {given : MapNode} (signed : Signed node given) (uid : String) (state : Nat) :
    Touched node uid state (given.setUid uid state) := by
  obtain ⟨sign, rfl⟩ := signed.rest
  exact ⟨fun u => Obj.get?_set _ _ _ _, signed.sign, rfl, rfl, rfl⟩

theorem Touched.signed {given won : MapNode} {state : Nat} (touched : Touched node uid state won) (signed : Signed won given) :
    Touched node uid state given := by
  obtain ⟨sign, rfl⟩ := signed.rest
  exact ⟨touched.list, fun k there => signed.sign k (touched.sign k there), touched.buff, touched.pass, touched.ap⟩

theorem setUid_touched (node : MapNode) (uid : String) (state : Nat) : Touched node uid state (node.setUid uid state) :=
  (Signed.refl node).setUid uid state

/-! ### One lemma for each type -/

theorem processChest_clicks (won : Bool) (run : processChest cfg draws uidState uid name node = some done) :
    Clicks won .chest uid uidState node done := by
  unfold processChest at run
  split at run
  · rename_i init
    rw [init]
    split at run
    · split at run
      · exact .refused _ (Option.some.inj run).symm rfl
      · cases run
      · rename_i record given pack
        obtain rfl := Option.some.inj run
        exact .moves _ rfl ((dropPool_signed.1 _ _ pack).setUid uid CHEST_PICKED) .chest
    · exact .refused _ (Option.some.inj run).symm rfl
  · exact .refused _ (Option.some.inj run).symm rfl

/-- A fight that is won takes the building on, also when its reward cannot be picked. -/
theorem fightFor_clicks {monster reward : Option String} {initial fighted : Nat} {put : Option Reward → Args} {type : UidType}
    (lost : (monster.isSome && draws.won) = false → Idle (monster.isSome && draws.won) type uidState)
    (victory : ∀ gave, (monster.isSome && draws.won) = true → Moves (monster.isSome && draws.won) type uidState fighted gave) :
    Clicks (monster.isSome && draws.won) type uid uidState node
      (fightFor cfg draws uid node monster reward initial fighted put) := by
  unfold fightFor
  dsimp only
  split
  · rename_i fought
    have touched := setUid_touched node uid fighted
    split
    · exact .moves _ rfl touched (victory _ fought)
    · rename_i record given pack
      exact .moves _ rfl (touched.signed (dropPool_signed.1 _ _ pack)) (victory _ fought)
    · rename_i given thrown
      exact .moves _ rfl (touched.signed (dropPool_signed.2 _ thrown)) (victory _ fought)
  · rename_i unfought
    exact .stays rfl rfl rfl (lost (Bool.eq_false_iff.mpr unfought))

theorem processMonsterchal_clicks (run : processMonsterchal cfg draws uidState uid name node = some done) :
    Clicks draws.won .monsterchal uid uidState node done := by
  unfold processMonsterchal at run
  split at run
  · rename_i init
    rw [init]
    split at run
    · obtain rfl := Option.some.inj run
      rename_i monster reward _
      have fights : ((some monster).isSome && draws.won) = draws.won := Bool.true_and _
      rw [← fights]
      exact fightFor_clicks (fun lost => .monsterchal lost) fun gave victory => .monsterchal gave victory
    · exact .refused _ (Option.some.inj run).symm rfl
  · exact .refused _ (Option.some.inj run).symm rfl

/-- In its first state an unknown building turns into a monster or a reward. -/
theorem processUnknow_clicks (won : Bool)
    (fights : won = (((cfg.unknow.get? name).bind (·.monster)).isSome && draws.won))
    (run : processUnknow cfg draws uidState uid name node = some done) : Clicks won .unknow uid uidState node done := by
  unfold processUnknow at run
  split at run
  · rename_i init
    rw [init]
    split at run
    · split at run
      · rename_i pro1 _ _ _ _ _
        obtain ⟨ret, -, rfl⟩ := Option.map_eq_some_iff.mp run
        by_cases reward : ret ≤ pro1
        · simp only [if_pos reward]
          exact .moves _ rfl (setUid_touched node uid UNKNOW_REWARD) .unknowReward
        · simp only [if_neg reward]
          exact .moves _ rfl (setUid_touched node uid UNKNOW_MONSTER) .unknowMonster
      · exact .refused _ (Option.some.inj run).symm rfl
    · exact .refused _ (Option.some.inj run).symm rfl
  · split at run
    · rename_i monster
      obtain ⟨row, found, rfl⟩ := Option.map_eq_some_iff.mp run
      rw [found, Option.bind_some] at fights
      rw [monster, fights]
      exact fightFor_clicks (fun lost => .unknow lost) fun gave victory => .unknowFought gave victory
    · split at run
      · rename_i reward
        rw [reward]
        obtain ⟨row, -, run⟩ := Option.bind_eq_some_iff.mp run
        split at run
        · obtain rfl := Option.some.inj run
          exact .moves _ rfl (setUid_touched node uid UNKNOW_GOT) (.unknowGot _)
        · cases run
        · rename_i record given pack
          obtain rfl := Option.some.inj run
          exact .moves _ rfl ((dropPool_signed.1 _ _ pack).setUid uid UNKNOW_GOT) (.unknowGot _)
      · exact .refused _ (Option.some.inj run).symm rfl

/-- A buff station is never in its first state. -/
theorem processBuffStation_clicks (won : Bool) (run : processBuffStation cfg uidState uid name node = some done) :
    Clicks won .buffStation uid uidState node done := by
  unfold processBuffStation at run
  rw [if_neg (by rintro ⟨there, absent⟩; rw [absent] at there; cases there)] at run
  exact .refused _ (Option.some.inj run).symm rfl

theorem processWatchTower_clicks (won : Bool) (run : processWatchTower cfg uid name node = some done) :
    Clicks won .watchTower uid uidState node done := by
  unfold processWatchTower at run
  split at run
  · obtain rfl := Option.some.inj run
    exact .moves _ rfl (setUid_touched node uid WATCHTOWER_PICKED) (.watchTower uidState)
  · exact .refused _ (Option.some.inj run).symm rfl

theorem processChestChoo_clicks (won : Bool) {choo : Option (Option Int)}
    (run : processChestChoo cfg draws uidState uid name node choo = some done) : Clicks won .chestChoo uid uidState node done := by
  unfold processChestChoo at run
  obtain ⟨choo, -, run⟩ := Option.bind_eq_some_iff.mp run
  split at run
  · exact .refused _ (Option.some.inj run).symm rfl
  · split at run
    · exact .refused _ (Option.some.inj run).symm rfl
    · split at run
      · rename_i init
        rw [init.2]
        split at run
        · exact .refused _ (Option.some.inj run).symm rfl
        · obtain ⟨rand, -, run⟩ := Option.bind_eq_some_iff.mp run
          dsimp only at run
          split at run
          · split at run
            · obtain rfl := Option.some.inj run
              exact .moves _ rfl (setUid_touched node uid CHESTCHOO_CHOOD) (.chestChoo _)
            · cases run
            · rename_i record given pack
              obtain rfl := Option.some.inj run
              exact .moves _ rfl ((dropPool_signed.1 _ _ pack).setUid uid CHESTCHOO_CHOOD) (.chestChoo _)
          · obtain rfl := Option.some.inj run
            exact .moves _ rfl (setUid_touched node uid CHESTCHOO_CHOOD) (.chestChoo _)
      · exact .refused _ (Option.some.inj run).symm rfl

/-- The precondition is read from the row of the npc, so the row is there. -/
theorem processNpc_clicks (won : Bool) (there : cfg.npc.has name = true)
    (run : processNpc cfg uidState uid name node = some done) : Clicks won .npc uid uidState node done := by
  have clicked := setUid_touched node uid NPC_CLICKED
  unfold processNpc at run
  rw [if_pos there] at run
  split at run
  · rename_i init
    rw [init]
    obtain rfl := Option.some.inj run
    exact .moves _ rfl clicked .npc
  · rename_i other
    split at run
    · rename_i again
      rw [again]
      obtain rfl := Option.some.inj run
      exact .moves _ rfl clicked .npcAgain
    · obtain rfl := Option.some.inj run
      exact .stays rfl rfl rfl (.npc _ other)

/-! ### A whole click -/

/-- The click of a building is refused, or it is processed as its type says. -/
theorem processType_clicks {element : Element} {choo : Option (Option Int)} {met : Bool}
    (checked : checkPreContion cfg element.type element.name node = some met)
    (run : processType cfg draws element uid choo node = some done) :
    (∃ code, done = refuse node code ∧ saves (some code) = false) ∨ ∃ type, element.type.bind UidType.ofNumber = some type ∧
      Clicks (fightWon cfg draws element) type uid (uidStateOf element uid node.uidList) node done := by
  unfold processType at run
  dsimp only at run
  split at run
  · rename_i type
    exact .inr ⟨_, type, processChest_clicks _ run⟩
  · rename_i type
    have clicks := processMonsterchal_clicks run
    refine .inr ⟨_, type, ?_⟩
    rwa [fightWon, type, Bool.and_true]
  · rename_i type
    refine .inr ⟨_, type, processUnknow_clicks _ ?_ run⟩
    rw [fightWon, type, Bool.and_comm]
  · rename_i type
    exact .inr ⟨_, type, processBuffStation_clicks _ run⟩
  · rename_i type
    exact .inr ⟨_, type, processWatchTower_clicks _ run⟩
  · rename_i type
    exact .inr ⟨_, type, processChestChoo_clicks _ run⟩
  · rename_i type
    obtain ⟨condition, read, -⟩ := Option.map_eq_some_iff.mp checked
    rw [getUidPreCondition, type] at read
    exact .inr ⟨_, type, processNpc_clicks _ (Obj.has_iff.mpr ⟨condition, read⟩) run⟩
  · exact .inl ⟨_, (Option.some.inj run).symm, rfl⟩
  · exact .inl ⟨_, (Option.some.inj run).symm, rfl⟩
  · exact .inl ⟨_, (Option.some.inj run).symm, rfl⟩

/-! ### What a click counts -/

theorem has_foldl_set {α : Type} (ids : List String) (v : α) (o : Obj α) (k : String) :
    (ids.foldl (fun o id => o.set id v) o).has k = (decide (k ∈ ids) || o.has k) := by
  induction ids generalizing o with
  | nil => simp
  | cons id rest ih =>
    rw [List.foldl_cons, ih, Obj.has_set]
    by_cases here : k = id
    · simp [here]
    · simp [here]

/-- The entry of the node, with something added to its process. -/
def GlobalMapInfo.count (map : GlobalMapInfo) (nodeid : String) (entry : OpenNode) (n : Nat) : GlobalMapInfo :=
  { map with openNode := map.openNode.set nodeid { entry with process := entry.process + n } }

/-- The click has been counted; a map that is passed by it puts the nodes that follow on a timer. -/
inductive Counted (cfg : MapConfig) (nodeid : String) (row : WorldMapRow) (uid : Sent) (map : GlobalMapInfo)
    (entry : OpenNode) (info : MapInfoRow) (click : Processed) (done : GlobalMapInfo × Processed) : Prop
  | goesOn (unpassed : ¬(info.exploration ≤ entry.process + explorationOf cfg row.resourceID uid ∧ click.node.pass = false))
      (map : done.1 = map.count nodeid entry (explorationOf cfg row.resourceID uid)) (node : done.2.node = click.node)
  | passes (passed : info.exploration ≤ entry.process + explorationOf cfg row.resourceID uid) (first : click.node.pass = false)
      (map : ∃ timeNode, done.1 = { map.count nodeid entry (explorationOf cfg row.resourceID uid) with timeNode } ∧
        ∀ id, timeNode.has id = (decide (id ∈ row.next.ids) || map.timeNode.has id))
      (node : done.2.node = { click.node with pass := true })

theorem countExplore_counted {nodeid : String} {row : WorldMapRow} {uid : Sent} {map : GlobalMapInfo} {now : Int}
    {click : Processed} {done : GlobalMapInfo × Processed} (run : countExplore cfg nodeid row uid map now click = some done) :
    (done.2.gave = click.gave ∧ done.2.outArgs.retCode = click.outArgs.retCode) ∧
      ∃ entry info, map.openNode.get? nodeid = some entry ∧ cfg.map row.resourceID = some info ∧
        Counted cfg nodeid row uid map entry info click done := by
  unfold countExplore at run
  split at run
  · rename_i entry info open_ found
    dsimp only at run
    split at run
    · rename_i passed
      obtain ⟨timed, timers, rfl⟩ := Option.map_eq_some_iff.mp run
      unfold addTimeNode at timers
      split at timers
      · obtain rfl := Option.some.inj timers
        exact ⟨⟨rfl, rfl⟩, entry, info, open_, found,
          .passes passed.1 passed.2 ⟨_, rfl, fun id => has_foldl_set _ _ _ _⟩ rfl⟩
      · cases timers
    · rename_i unpassed
      obtain rfl := Option.some.inj run
      exact ⟨⟨rfl, rfl⟩, entry, info, open_, found, .goesOn unpassed rfl rfl⟩
  · cases run

/-- The click has been processed and counted. -/
structure Explored (cfg : MapConfig) (draws : Draws) (nodeid : String) (map : GlobalMapInfo) (node : MapNode) (uid : Sent)
    (row : WorldMapRow) (element : Element) (type : UidType) (click : Processed) (entry : OpenNode) (info : MapInfoRow)
    (done : GlobalMapInfo × Processed) : Prop where
  found : cfg.node nodeid = some row
  there : checkUidPos cfg row.resourceID uid.name = some element
  known : element.type.bind UidType.ofNumber = some type
  ok : click.outArgs.retCode = none
  clicks : Clicks (fightWon cfg draws element) type uid.name (uidStateOf element uid.name node.uidList) node click
  gave : done.2.gave = click.gave
  code : done.2.outArgs.retCode = none
  opened : map.openNode.get? nodeid = some entry
  mapped : cfg.map row.resourceID = some info
  counted : Counted cfg nodeid row uid map entry info click done

/-- A click is refused, or it is processed and counted. -/
inductive ClickDone (cfg : MapConfig) (draws : Draws) (nodeid : String) (map : GlobalMapInfo) (node : MapNode) (uid : Sent)
    (done : GlobalMapInfo × Processed) : Prop
  | refused (code : Nat) (same : done = (map, refuse node code)) (unsaved : saves (some code) = false)
  | counted (row : WorldMapRow) (element : Element) (type : UidType) (click : Processed) (entry : OpenNode) (info : MapInfoRow)
      (explored : Explored cfg draws nodeid map node uid row element type click entry info done)

theorem processUid_done {nodeid : String} {map : GlobalMapInfo} {uid : Sent} {choo : Option (Option Int)} {now : Int}
    {done : GlobalMapInfo × Processed} (run : processUid cfg draws nodeid map node uid choo now = some done) :
    ClickDone cfg draws nodeid map node uid done := by
  unfold processUid at run
  obtain ⟨row, found, run⟩ := Option.bind_eq_some_iff.mp run
  split at run
  · exact .refused _ (Option.some.inj run).symm rfl
  · rename_i element there
    split at run
    · exact .refused _ (Option.some.inj run).symm rfl
    · obtain ⟨met, checked, run⟩ := Option.bind_eq_some_iff.mp run
      split at run
      · exact .refused _ (Option.some.inj run).symm rfl
      · obtain ⟨click, processed, run⟩ := Option.bind_eq_some_iff.mp run
        rcases processType_clicks checked processed with ⟨code, rfl, unsaved⟩ | ⟨type, known, clicks⟩
        · exact .refused code (Option.some.inj run).symm unsaved
        · split at run
          · rename_i refused
            cases clicks with
            | refused code same unsaved => exact .refused code (by rw [← Option.some.inj run, same]) unsaved
            | stays ok => rw [ok] at refused; cases refused
            | moves state ok => rw [ok] at refused; cases refused
          · rename_i ok
            have none : click.outArgs.retCode = none := by simpa using ok
            obtain ⟨⟨gave, code⟩, entry, info, opened, mapped, counted⟩ := countExplore_counted run
            exact .counted row element type click entry info
              ⟨found, there, known, none, clicks, gave, code.trans none, opened, mapped, counted⟩

/-- A request for a building is refused, or its click is counted on the node the player is on. -/
inductive StateDone (cfg : MapConfig) (draws : Draws) (nodeid uid : Sent) (data : DataValue) (done : Outcome) : Prop
  | refused (code : Nat) (same : done = fails data code) (unsaved : saves (some code) = false)
  | counted (node : MapNode) (row : WorldMapRow) (element : Element) (type : UidType) (click : Processed) (entry : OpenNode)
      (info : MapInfoRow) (left : GlobalMapInfo × Processed) (cur : data.mapInfo.curNode = nodeid)
      (record : data.nodeInfo = some (.map node))
      (explored : Explored cfg draws nodeid.name data.mapInfo node uid row element type click entry info left)
      (same : done = { data := ⟨left.1, some (.map left.2.node)⟩, gave := left.2.gave })

theorem changeState_done {nodeid uid : Sent} {choo : Option (Option Int)} {now : Int} {data : DataValue} {done : Outcome}
    (run : changeState cfg draws nodeid uid choo now data = some done) : StateDone cfg draws nodeid uid data done := by
  obtain ⟨map, nodeInfo⟩ := data
  unfold changeState at run
  split at run
  · exact .refused _ (Option.some.inj run).symm rfl
  · rename_i cur
    cases nodeInfo with
    | none => exact .refused _ (Option.some.inj run).symm rfl
    | some info =>
      obtain ⟨row, -, run⟩ := Option.bind_eq_some_iff.mp run
      split at run
      · exact .refused _ (Option.some.inj run).symm rfl
      · split at run
        · exact .refused _ (Option.some.inj run).symm rfl
        · cases info with
          | afk _ => cases run
          | map node =>
            obtain ⟨left, processed, rfl⟩ := Option.map_eq_some_iff.mp run
            cases processUid_done processed with
            | refused code same unsaved => exact .refused code (by rw [same]; rfl) unsaved
            | counted row element type click entry info explored =>
              refine .counted node row element type click entry info left ?_ rfl explored ?_
              · exact Sent.eq_of_same (Bool.not_eq_false _ ▸ cur)
              · rw [explored.code]

/-! ### What a click stores -/

/-- A request for a building. -/
structure Click where
  now : Int
  level : Int
  nodeid : Sent
  uid : Sent
  choo : Option (Option Int)
  draws : Draws
  deriving DecidableEq

def Click.call (click : Click) : Call := ⟨click.now, click.level, .changeState click.nodeid click.uid click.choo click.draws⟩

def Click.field (click : Click) (player : Player) : String := fieldOrCurNode click.nodeid player.mapInfo

/-- What the handler makes of the click. -/
def Click.outcome (cfg : MapConfig) (player : Player) (click : Click) : Option Outcome :=
  changeState cfg click.draws click.nodeid click.uid click.choo click.now (player.read (click.field player))

/-- The reward that is stored with the click: its node and its building. -/
def Click.paid (cfg : MapConfig) (player : Player) (click : Click) : List (String × String) :=
  match click.outcome cfg player with
  | some done => if saves done.retCode ∧ done.gave = true then [(click.nodeid.name, click.uid.name)] else []
  | none => []

/-- The click has been stored. -/
structure Stored (cfg : MapConfig) (player : Player) (click : Click) (node : MapNode) (row : WorldMapRow) (element : Element)
    (type : UidType) (processed : Processed) (entry : OpenNode) (info : MapInfoRow) (left : GlobalMapInfo × Processed) : Prop where
  cur : player.mapInfo.curNode = click.nodeid
  record : player.nodes.get? click.nodeid.name = some (.map node)
  explored : Explored cfg click.draws click.nodeid.name player.mapInfo node click.uid row element type processed entry info left
  stored : player.serve cfg click.call = ⟨left.1, player.nodes.set click.nodeid.name (.map left.2.node)⟩
  paid : click.paid cfg player = if left.2.gave = true then [(click.nodeid.name, click.uid.name)] else []

/-- A click changes nothing that is stored, or it is processed and counted. -/
theorem serve_click (cfg : MapConfig) (player : Player) (click : Click) :
    (player.serve cfg click.call = player ∧ click.paid cfg player = []) ∨
      ∃ node row element type processed entry info left,
        Stored cfg player click node row element type processed entry info left := by
  have served : player.serve cfg click.call = player.save (click.field player) (click.outcome cfg player) := rfl
  have paid : click.paid cfg player = match click.outcome cfg player with
    | some done => if saves done.retCode ∧ done.gave = true then [(click.nodeid.name, click.uid.name)] else []
    | none => [] := rfl
  cases run : click.outcome cfg player with
  | none =>
    rw [run] at served paid
    exact .inl ⟨served, paid⟩
  | some done =>
    rw [run] at served paid
    cases changeState_done run with
    | refused code same unsaved =>
      have lost : saves done.retCode = false := by rw [same]; exact unsaved
      refine .inl ⟨?_, ?_⟩
      · rw [served, Player.save]
        simp [lost]
      · rw [paid]
        simp [lost]
    | counted node row element type processed entry info left cur record explored same =>
      have field : click.field player = click.nodeid.name := by
        unfold Click.field fieldOrCurNode
        split
        · rfl
        · exact congrArg Sent.name cur
      rw [field] at served record
      refine .inr ⟨node, row, element, type, processed, entry, info, left, cur, record, explored, ?_, ?_⟩
      · rw [served, same]
        rfl
      · rw [paid, same]
        simp [saves]

end Tinygame.Map
