import Tinygame.Map.Clicks
import Tinygame.Base.Run

/-!
# The player is on an open node

`enterMap` reads the open entry of the node it enters, and throws where there is none. `changeAfk` does not look, so a
player can switch to an afk point that nothing has opened. A run in which every switch is to a node that is open, or
whose time is being waited for, keeps the player on open nodes.
-/

namespace Tinygame.Map

variable {cfg : MapConfig} {map : GlobalMapInfo} {nodeid : Sent} {now level : Int} {player : Player} {call : Call}

/-- The nodes the player is on are open. -/
def GlobalMapInfo.OnOpen (map : GlobalMapInfo) : Prop :=
  map.openNode.has map.curNode.name = true ∧ map.openNode.has map.curAfkNode.name = true

/-- The player stays where he is, and what is open stays open. -/
structure Stays (map map' : GlobalMapInfo) : Prop where
  cur : map'.curNode = map.curNode
  afk : map'.curAfkNode = map.curAfkNode
  opened : ∀ n, map.openNode.has n = true → map'.openNode.has n = true

theorem Stays.refl (map : GlobalMapInfo) : Stays map map := ⟨rfl, rfl, fun _ opened => opened⟩

theorem Stays.trans {first second third : GlobalMapInfo} (before : Stays first second) (after : Stays second third) :
    Stays first third where
  cur := after.cur.trans before.cur
  afk := after.afk.trans before.afk
  opened n opened := after.opened n (before.opened n opened)

theorem Stays.onOpen {map map' : GlobalMapInfo} (stays : Stays map map') (onOpen : map.OnOpen) : map'.OnOpen := by
  refine ⟨?_, ?_⟩
  · rw [stays.cur]
    exact stays.opened _ onOpen.1
  · rw [stays.afk]
    exact stays.opened _ onOpen.2

/-- Opening a node, whatever becomes of the timers. -/
theorem stays_set (map : GlobalMapInfo) (timeNode : Obj TimeNode) (id : String) (entry : OpenNode) :
    Stays map { map with openNode := map.openNode.set id entry, timeNode } where
  cur := rfl
  afk := rfl
  opened n opened := by
    show (map.openNode.set id entry).has n = true
    rw [Obj.has_set, opened, Bool.or_true]

theorem stays_timeNode (map : GlobalMapInfo) (timeNode : Obj TimeNode) : Stays map { map with timeNode } :=
  ⟨rfl, rfl, fun _ opened => opened⟩

/-! ### What the functions on nodes do -/

/-- A node is opened when it was on a timer whose time is up. -/
theorem moveNode_cases {id : String} {moved : Bool × GlobalMapInfo}
    (done : moveNode cfg.toWorldConfig map id now = some moved) :
    (moved.1 = false ∧ ∃ timeNode, moved.2 = { map with timeNode }) ∨
      ∃ entry row, map.timeNode.get? id = some entry ∧ entry.leftTime now ≤ 0 ∧ cfg.node id = some row ∧
        moved = (true, { map with
          openNode := map.openNode.set id { process := row.startProcess }, timeNode := map.timeNode.delete id }) := by
  unfold moveNode at done
  split at done
  · obtain rfl := Option.some.inj done
    exact .inl ⟨rfl, map.timeNode, rfl⟩
  · rename_i entry there
    split at done
    · rename_i due
      split at done
      · cases done
      · rename_i row found
        exact .inr ⟨entry, row, there, due, found, (Option.some.inj done).symm⟩
    · obtain rfl := Option.some.inj done
      exact .inl ⟨rfl, _, rfl⟩

theorem moveNode_stays {id : String} {moved : Bool × GlobalMapInfo}
    (done : moveNode cfg.toWorldConfig map id now = some moved) : Stays map moved.2 := by
  obtain ⟨-, timeNode, same⟩ | ⟨entry, row, -, -, -, rfl⟩ := moveNode_cases done
  · rw [same]
    exact stays_timeNode map timeNode
  · exact stays_set map _ id _

theorem checkTime_stays {gate : Bool × GlobalMapInfo} (done : checkTime cfg map nodeid now = some gate) :
    Stays map gate.2 := by
  unfold checkTime at done
  split at done
  · exact moveNode_stays done
  · obtain rfl := Option.some.inj done
    exact Stays.refl map

/-- A node that was on a timer and may be entered is open. -/
theorem checkTime_opens {gate : Bool × GlobalMapInfo} (done : checkTime cfg map nodeid now = some gate)
    (passed : gate.1 = true) (waited : map.timeNode.has nodeid.name = true) :
    gate.2.openNode.has nodeid.name = true := by
  unfold checkTime at done
  rw [if_pos (.inl waited)] at done
  obtain ⟨stuck, -⟩ | ⟨entry, row, -, -, -, rfl⟩ := moveNode_cases done
  · rw [stuck] at passed
    cases passed
  · show (map.openNode.set nodeid.name _).has nodeid.name = true
    simp [Obj.has_set]

theorem addOpenNode_stays {nodes : Next} {created : GlobalMapInfo × Obj NodeInfo}
    (done : addOpenNode cfg.toWorldConfig nodes map now = some created) : Stays map created.1 := by
  refine foldlM_ran (fun _ state => Stays map state.1) ?_ (Stays.refl map) done
  intro id rest state state' stays round
  obtain ⟨info, -, rfl⟩ := Option.map_eq_some_iff.mp round
  exact stays.trans (stays_set state.1 state.1.timeNode id _)

theorem getGlobalMapInfo_stays {map' : GlobalMapInfo} (done : getGlobalMapInfo cfg map now = some map') :
    Stays map map' := by
  refine foldlM_ran (fun _ state => Stays map state) ?_ (Stays.refl map) done
  intro id rest state state' stays round
  split at round
  · obtain ⟨moved, here, rfl⟩ := Option.map_eq_some_iff.mp round
    exact stays.trans (moveNode_stays here)
  · obtain rfl := Option.some.inj round
    exact stays.trans (stays_timeNode state _)

theorem count_stays (map : GlobalMapInfo) (id : String) (entry : OpenNode) (n : Nat) : Stays map (map.count id entry n) :=
  stays_set map map.timeNode id { entry with process := entry.process + n }

theorem processUid_stays {draws : Draws} {id : String} {node : MapNode} {uid : Sent} {choo : Option (Option Int)}
    {done : GlobalMapInfo × Processed} (run : processUid cfg draws id map node uid choo now = some done) :
    Stays map done.1 := by
  cases processUid_done run with
  | refused code same =>
    rw [same]
    exact Stays.refl map
  | counted row element type click entry info explored =>
    have counting := count_stays map id entry (explorationOf cfg row.resourceID uid)
    cases explored.counted with
    | goesOn _ same =>
      rw [same]
      exact counting
    | passes _ _ same =>
      obtain ⟨timeNode, same, -⟩ := same
      rw [same]
      exact counting.trans (stays_timeNode _ timeNode)

/-! ### What the requests leave behind -/

/-- Anything that holds of the player before the request and of what is saved holds afterwards. -/
theorem save_keeps (inv : GlobalMapInfo → Prop) {field : String} {outcome : Option Outcome} (before : inv player.mapInfo)
    (after : ∀ done, outcome = some done → saves done.retCode = true → inv done.data.mapInfo) :
    inv (player.save field outcome).mapInfo := by
  rcases player.save_cases field outcome with same | ⟨done, ran, saved, same⟩
  · rw [same]
    exact before
  · rw [same]
    exact after done ran saved

/-- A player enters a node that he may enter and that is open, or nothing is saved. -/
theorem enterMap_saved {read : DataValue} {done : Outcome} (run : enterMap cfg level nodeid now read = some done)
    (saved : saves done.retCode = true) : ∃ gate row info entry, checkTime cfg read.mapInfo nodeid now = some gate ∧
      (cfg.node nodeid.name = some row ∧ row.type2 = NodeType.map ∧ row.openlevel ≤ level) ∧
      nodeInfoOr cfg nodeid now read.nodeInfo = some info ∧ gate.2.openNode.get? nodeid.name = some entry ∧
      done = { data := ⟨{ gate.2 with curNode := nodeid }, some info⟩ } := by
  unfold enterMap at run
  obtain ⟨gate, checked, run⟩ := Option.bind_eq_some_iff.mp run
  dsimp only at run
  split at run
  · obtain rfl := Option.some.inj run
    cases saved
  · split at run
    · obtain rfl := Option.some.inj run
      cases saved
    · rename_i row found
      split at run
      · obtain rfl := Option.some.inj run
        cases saved
      · rename_i type
        split at run
        · obtain rfl := Option.some.inj run
          cases saved
        · rename_i high
          obtain ⟨info, recorded, run⟩ := Option.bind_eq_some_iff.mp run
          obtain ⟨entry, opened, rfl⟩ := Option.map_eq_some_iff.mp run
          exact ⟨gate, row, info, entry, checked, ⟨found, not_not.mp type, Int.not_lt.mp high⟩, recorded, opened, rfl⟩

theorem enterMap_onOpen {read : DataValue} {done : Outcome} (run : enterMap cfg level nodeid now read = some done)
    (saved : saves done.retCode = true) (onOpen : read.mapInfo.OnOpen) : done.data.mapInfo.OnOpen := by
  obtain ⟨gate, row, info, entry, checked, -, -, opened, rfl⟩ := enterMap_saved run saved
  exact ⟨Obj.has_iff.mpr ⟨entry, opened⟩, ((checkTime_stays checked).onOpen onOpen).2⟩

/-- The afk point is open, or it is being waited for. -/
def Reached (cfg : MapConfig) (map : GlobalMapInfo) (level : Int) (nodeid : Sent) : Prop :=
  ∀ row, cfg.node nodeid.name = some row → row.type2 = NodeType.afk → row.openlevel ≤ level →
    map.openNode.has nodeid.name = true ∨ map.timeNode.has nodeid.name = true

theorem openFirst_stays {row : WorldMapRow} {data : DataValue} {first : DataValue × Obj NodeInfo}
    (run : openFirst cfg nodeid row now data = some first) : Stays data.mapInfo first.1.mapInfo := by
  unfold openFirst at run
  split at run
  · obtain rfl := Option.some.inj run
    exact Stays.refl _
  · obtain ⟨info, -, run⟩ := Option.bind_eq_some_iff.mp run
    obtain ⟨created, opens, rfl⟩ := Option.map_eq_some_iff.mp run
    exact addOpenNode_stays opens

/-- A player switches to an afk point that he may switch to, or nothing is saved, not even on the way. -/
theorem changeAfk_cases {read : DataValue} {handled : Obj NodeInfo × Option Outcome}
    (run : changeAfk cfg level nodeid now read = handled) :
    handled.1 = ∅ ∧ (∀ done, handled.2 = some done → saves done.retCode = false) ∨
      ∃ gate row first, checkTime cfg read.mapInfo nodeid now = some gate ∧ gate.1 = true ∧
        (cfg.node nodeid.name = some row ∧ row.type2 = NodeType.afk ∧ row.openlevel ≤ level) ∧
        openFirst cfg nodeid row now { read with mapInfo := gate.2 } = some first ∧
        handled = (first.2, (switchAfk cfg nodeid first.1.mapInfo).map fun map => { data := ⟨map, first.1.nodeInfo⟩ }) := by
  have refused : ∀ (data : DataValue) (code : Nat), saves (some code) = false →
      ∀ done, some (fails data code) = some done → saves done.retCode = false := by
    intro data code unsaved done same
    obtain rfl := Option.some.inj same
    exact unsaved
  have thrown : ∀ done, (none : Option Outcome) = some done → saves done.retCode = false := by
    intro done none
    cases none
  unfold changeAfk at run
  split at run
  · subst run
    exact .inl ⟨rfl, thrown⟩
  · rename_i gate checked
    dsimp only at run
    split at run
    · subst run
      exact .inl ⟨rfl, refused _ _ rfl⟩
    · rename_i passed
      split at run
      · subst run
        exact .inl ⟨rfl, refused _ _ rfl⟩
      · rename_i row found
        split at run
        · subst run
          exact .inl ⟨rfl, refused _ _ rfl⟩
        · rename_i type
          split at run
          · subst run
            exact .inl ⟨rfl, refused _ _ rfl⟩
          · rename_i high
            split at run
            · subst run
              exact .inl ⟨rfl, thrown⟩
            · rename_i first firstly
              exact .inr ⟨gate, row, first, checked, Bool.not_eq_false _ ▸ passed,
                ⟨found, not_not.mp type, Int.not_lt.mp high⟩, firstly, run.symm⟩

theorem changeAfk_onOpen {read : DataValue} {done : Outcome} (run : (changeAfk cfg level nodeid now read).2 = some done)
    (saved : saves done.retCode = true) (reached : Reached cfg read.mapInfo level nodeid) : done.data.mapInfo.OnOpen := by
  obtain ⟨-, unsaved⟩ | ⟨gate, row, first, checked, passed, ⟨found, type, high⟩, firstly, same⟩ :=
    changeAfk_cases (rfl : changeAfk cfg level nodeid now read = _)
  · rw [unsaved done run] at saved
    cases saved
  · have opened : gate.2.openNode.has nodeid.name = true := by
      rcases reached row found type high with open_ | waited
      · exact (checkTime_stays checked).opened _ open_
      · exact checkTime_opens checked passed waited
    rw [same] at run
    obtain ⟨map, switched, rfl⟩ := Option.map_eq_some_iff.mp run
    obtain ⟨afk, -, rfl⟩ := Option.map_eq_some_iff.mp switched
    have still := (openFirst_stays firstly).opened _ opened
    exact ⟨still, still⟩

/-- A walk leaves the map alone, and of the record it only moves the player. -/
theorem walkPath_done {uid : Sent} {inside : Bool} {path : Option (List PathCell)} {read : DataValue} {done : Outcome}
    (run : walkPath cfg nodeid uid inside path read = some done) : done.data.mapInfo = read.mapInfo ∧
      (done.data.nodeInfo = read.nodeInfo ∨ ∃ file cells node walked, read.nodeInfo = some (.map node) ∧
        walk file cells node = some walked ∧ done.data.nodeInfo = some (.map walked)) := by
  have still : ∀ outcome : Outcome, outcome.data = read → some outcome = some done → done.data.mapInfo = read.mapInfo ∧
      (done.data.nodeInfo = read.nodeInfo ∨ ∃ file cells node walked, read.nodeInfo = some (.map node) ∧
        walk file cells node = some walked ∧ done.data.nodeInfo = some (.map walked)) := by
    intro outcome same run
    obtain rfl := Option.some.inj run
    exact ⟨congrArg (·.mapInfo) same, .inl (congrArg (·.nodeInfo) same)⟩
  unfold walkPath at run
  split at run
  · exact still _ rfl run
  · exact still _ rfl run
  · rename_i start rest
    split at run
    · exact still _ rfl run
    · split at run
      · exact still _ rfl run
      · exact still _ rfl run
      · rename_i node record
        obtain ⟨row, -, run⟩ := Option.bind_eq_some_iff.mp run
        split at run
        · exact still _ rfl run
        · obtain ⟨info, -, run⟩ := Option.bind_eq_some_iff.mp run
          dsimp only at run
          have walks : ∀ file, ((walk file (start :: rest) node).map fun node : MapNode =>
              ({ data := { read with nodeInfo := some (.map node) } } : Outcome)) = some done →
                done.data.mapInfo = read.mapInfo ∧ (done.data.nodeInfo = read.nodeInfo ∨ ∃ file cells node walked,
                  read.nodeInfo = some (.map node) ∧ walk file cells node = some walked ∧
                    done.data.nodeInfo = some (.map walked)) := by
            intro file run
            obtain ⟨walked, walking, rfl⟩ := Option.map_eq_some_iff.mp run
            exact ⟨rfl, .inr ⟨file, start :: rest, node, walked, record, walking, rfl⟩⟩
          split at run
          · split at run
            · exact still _ rfl run
            · obtain ⟨near, -, run⟩ := Option.bind_eq_some_iff.mp run
              split at run
              · exact walks _ run
              · exact still _ rfl run
          · exact walks _ run

theorem changeState_stays {draws : Draws} {uid : Sent} {choo : Option (Option Int)} {read : DataValue} {done : Outcome}
    (run : changeState cfg draws nodeid uid choo now read = some done) : Stays read.mapInfo done.data.mapInfo := by
  have refused {code : Nat} (run : some (fails read code) = some done) : Stays read.mapInfo done.data.mapInfo := by
    obtain rfl := Option.some.inj run
    exact Stays.refl _
  unfold changeState at run
  split at run
  · exact refused run
  · split at run
    · exact refused run
    · obtain ⟨row, -, run⟩ := Option.bind_eq_some_iff.mp run
      split at run
      · exact refused run
      · split at run
        · exact refused run
        · split at run
          · cases run
          · obtain ⟨click, processed, rfl⟩ := Option.map_eq_some_iff.mp run
            exact processUid_stays processed

/-! ### Runs -/

/-- A switch to another afk point is to one that has been reached. -/
def SwitchesReached (cfg : MapConfig) (player : Player) (call : Call) : Prop :=
  match call.request with
  | .changeAfk nodeid => Reached cfg player.mapInfo call.level nodeid
  | _ => True

theorem serve_onOpen (onOpen : player.mapInfo.OnOpen) (reached : SwitchesReached cfg player call) :
    (player.serve cfg call).mapInfo.OnOpen := by
  obtain ⟨now, level, request⟩ := call
  cases request with
  | getGlobalMapInfo =>
    unfold Player.serve
    dsimp only
    split
    · rename_i map done
      exact (getGlobalMapInfo_stays done).onOpen onOpen
    · exact onOpen
  | enterMap nodeid => exact save_keeps GlobalMapInfo.OnOpen onOpen fun done run saved => enterMap_onOpen run saved onOpen
  | changeAfk nodeid =>
    show (Player.save { player with nodes := player.nodes.assign _ } _ _).mapInfo.OnOpen
    exact save_keeps GlobalMapInfo.OnOpen onOpen fun done run saved => changeAfk_onOpen run saved reached
  | walkPath nodeid uid inside path =>
    refine save_keeps GlobalMapInfo.OnOpen onOpen fun done run _ => ?_
    rw [(walkPath_done run).1]
    exact onOpen
  | changeState nodeid uid choo draws =>
    exact save_keeps GlobalMapInfo.OnOpen onOpen fun done run _ => (changeState_stays run).onOpen onOpen

theorem createGlobalMapInfo_onOpen (created : createGlobalMapInfo cfg.toWorldConfig now = some player) :
    player.mapInfo.OnOpen := by
  unfold createGlobalMapInfo at created
  dsimp only at created
  split at created
  · obtain ⟨opened, done, rfl⟩ := Option.map_eq_some_iff.mp created
    refine (addOpenNode_stays done).onOpen ⟨?_, ?_⟩
    · exact Obj.has_iff.mpr ⟨_, Obj.get?_set_self _ _ _⟩
    · exact Obj.has_iff.mpr ⟨_, Obj.get?_set_self _ _ _⟩
  · cases created

/-- The player is on open nodes after every run in which he only switches to afk points that he has reached. -/
theorem run_onOpen (cfg : MapConfig) (start : Int) (player : Player) (calls : List Call)
    (created : createGlobalMapInfo cfg.toWorldConfig start = some player)
    (reached : Along (Player.serve cfg) (SwitchesReached cfg) player calls) :
    (run (Player.serve cfg) player calls).mapInfo.OnOpen := by
  have keep : ∀ (player : Player) call, player.mapInfo.OnOpen → SwitchesReached cfg player call →
      (player.serve cfg call).mapInfo.OnOpen := fun _ _ onOpen ok => serve_onOpen onOpen ok
  exact run_invariant keep (createGlobalMapInfo_onOpen created) reached

/-- A new player goes back and forth between the first afk point and the first map. -/
theorem run_onOpen_firstMap : (run (Player.serve firstConfig) firstPlayer
    [⟨0, 1, .enterMap (.ofNat 101102)⟩, ⟨1000, 1, .changeAfk (.ofNat 101201)⟩]).mapInfo.OnOpen := by
  refine run_onOpen firstConfig 0 firstPlayer _ firstPlayer_created ⟨trivial, ?_, trivial⟩
  exact fun _ _ _ _ => .inl (by decide +kernel)

/-- A new player switches to the afk point behind the first map, which is still locked. -/
theorem locked_afk_entered : ∃ cfg start player call, createGlobalMapInfo cfg.toWorldConfig start = some player ∧
    start ≤ call.now ∧ ¬(run (Player.serve cfg) player [call]).mapInfo.OnOpen := by
  refine ⟨firstConfig, 0, firstPlayer, ⟨0, 1, .changeAfk (.ofNat 101203)⟩, firstPlayer_created, le_refl _, fun onOpen => ?_⟩
  have entered : (run (Player.serve firstConfig) firstPlayer [⟨0, 1, .changeAfk (.ofNat 101203)⟩]).mapInfo.openNode.has
      (run (Player.serve firstConfig) firstPlayer [⟨0, 1, .changeAfk (.ofNat 101203)⟩]).mapInfo.curNode.name = false := by
    decide +kernel
  rw [onOpen.1] at entered
  cases entered

end Tinygame.Map
