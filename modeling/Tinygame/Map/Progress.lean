import Tinygame.Map.OpenNodes
import Tinygame.Map.Buildings

/-!
# Progress on the world map

A timer that runs out and the first visit of an afk point write the entries and records of the nodes they open, also
where there are some. A run in which they only open nodes that have nothing to lose keeps every entry and every record.
-/

namespace Tinygame.Map

variable {cfg : MapConfig} {map map' : GlobalMapInfo} {nodeid : Sent} {now level : Int} {player : Player} {call : Call}

/-! ### What is kept -/

/-- Open nodes stay open, and their process does not get less. -/
def Grows (map map' : GlobalMapInfo) : Prop :=
  ∀ n entry, map.openNode.get? n = some entry → ∃ entry', map'.openNode.get? n = some entry' ∧ entry.process ≤ entry'.process

theorem Grows.refl (map : GlobalMapInfo) : Grows map map := fun _ entry opened => ⟨entry, opened, le_refl _⟩

theorem Grows.trans {first second third : GlobalMapInfo} (before : Grows first second) (after : Grows second third) :
    Grows first third := by
  intro n entry opened
  obtain ⟨entry', opened', more⟩ := before n entry opened
  obtain ⟨entry'', opened'', further⟩ := after n entry' opened'
  exact ⟨entry'', opened'', more.trans further⟩

theorem grows_of_eq (same : map'.openNode = map.openNode) : Grows map map' := by
  intro n entry opened
  exact ⟨entry, by rw [same]; exact opened, le_refl _⟩

/-- The entry that is written has no less than the one that was there. -/
theorem grows_set {id : String} {entry : OpenNode} (written : map'.openNode = map.openNode.set id entry)
    (less : ∀ old, map.openNode.get? id = some old → old.process ≤ entry.process) : Grows map map' := by
  intro n old opened
  rw [written]
  by_cases here : n = id
  · subst here
    exact ⟨entry, Obj.get?_set_self _ _ _, less old opened⟩
  · exact ⟨old, (Obj.get?_set_of_ne _ _ here).trans opened, le_refl _⟩

/-- A record stays, or goes on; none is made anew. -/
structure RecordKept (cfg : MapConfig) (n : String) (before after : Option NodeInfo) : Prop where
  map : ∀ node, before = some (.map node) → ∃ node', after = some (.map node') ∧ Continues cfg n node node'
  afk : ∀ node, before = some (.afk node) → after = some (.afk node)

theorem RecordKept.refl (cfg : MapConfig) (n : String) (record : Option NodeInfo) : RecordKept cfg n record record :=
  ⟨fun node there => ⟨node, there, Continues.refl cfg n node⟩, fun _ there => there⟩

theorem RecordKept.trans {n : String} {first second third : Option NodeInfo} (before : RecordKept cfg n first second)
    (after : RecordKept cfg n second third) : RecordKept cfg n first third where
  map node there := by
    obtain ⟨node', there', on⟩ := before.map node there
    obtain ⟨node'', there'', further⟩ := after.map node' there'
    exact ⟨node'', there'', on.trans further⟩
  afk node there := after.afk node (before.afk node there)

/-- Nothing of the player's progress is lost. -/
structure Kept (cfg : MapConfig) (player player' : Player) : Prop where
  opened : Grows player.mapInfo player'.mapInfo
  records : ∀ n, RecordKept cfg n (player.nodes.get? n) (player'.nodes.get? n)

theorem Kept.refl (cfg : MapConfig) (player : Player) : Kept cfg player player :=
  ⟨Grows.refl _, fun n => RecordKept.refl cfg n _⟩

theorem Kept.trans {first second third : Player} (before : Kept cfg first second) (after : Kept cfg second third) :
    Kept cfg first third :=
  ⟨before.opened.trans after.opened, fun n => (before.records n).trans (after.records n)⟩

/-- What is saved after some records have been added keeps what was there before. -/
theorem save_kept {base : Player} {field : String} {outcome : Option Outcome} (before : Kept cfg base player)
    (keeps : ∀ done, outcome = some done → saves done.retCode = true → Grows base.mapInfo done.data.mapInfo ∧
      RecordKept cfg field (base.nodes.get? field) done.data.nodeInfo) : Kept cfg base (player.save field outcome) := by
  rcases player.save_cases field outcome with same | ⟨done, ran, saved, same⟩
  · rw [same]
    exact before
  · rw [same]
    obtain ⟨grows, record⟩ := keeps done ran saved
    refine ⟨grows, fun n => ?_⟩
    show RecordKept cfg n _ ((written player.nodes field done.data.nodeInfo).get? n)
    cases info : done.data.nodeInfo with
    | none => exact before.records n
    | some info' =>
      rw [info] at record
      show RecordKept cfg n _ ((player.nodes.set field info').get? n)
      rw [Obj.get?_set]
      split
      · rename_i here
        rw [here]
        exact record
      · exact before.records n

/-! ### What is opened -/

/-- A node whose time is up has no more process than it starts with. -/
def DueUnopened (cfg : MapConfig) (map : GlobalMapInfo) (now : Int) (id : String) : Prop :=
  ∀ entry row opened, map.timeNode.get? id = some entry → entry.leftTime now ≤ 0 → cfg.node id = some row →
    map.openNode.get? id = some opened → opened.process ≤ row.startProcess

theorem moveNode_grows {id : String} {moved : Bool × GlobalMapInfo}
    (done : moveNode cfg.toWorldConfig map id now = some moved) (unopened : DueUnopened cfg map now id) : Grows map moved.2 := by
  obtain ⟨-, timeNode, same⟩ | ⟨entry, row, waited, due, found, rfl⟩ := moveNode_cases done
  · rw [same]
    exact grows_of_eq rfl
  · have written : ({ map with
        openNode := map.openNode.set id { process := row.startProcess }
        timeNode := map.timeNode.delete id } : GlobalMapInfo).openNode = map.openNode.set id { process := row.startProcess } := rfl
    exact grows_set written fun old opened => unopened entry row old waited due found opened

/-- Moving a node is about this node alone. -/
theorem moveNode_others {id n : String} {moved : Bool × GlobalMapInfo}
    (done : moveNode cfg.toWorldConfig map id now = some moved) (other : n ≠ id) :
    moved.2.timeNode.get? n = map.timeNode.get? n ∧ moved.2.openNode.get? n = map.openNode.get? n := by
  unfold moveNode at done
  split at done
  · obtain rfl := Option.some.inj done
    exact ⟨rfl, rfl⟩
  · split at done
    · split at done
      · cases done
      · obtain rfl := Option.some.inj done
        exact ⟨Obj.get?_delete_of_ne _ other, Obj.get?_set_of_ne _ _ other⟩
    · obtain rfl := Option.some.inj done
      exact ⟨Obj.get?_set_of_ne _ _ other, rfl⟩

theorem checkTime_grows {gate : Bool × GlobalMapInfo} (done : checkTime cfg map nodeid now = some gate)
    (unopened : DueUnopened cfg map now nodeid.name) : Grows map gate.2 := by
  unfold checkTime at done
  split at done
  · exact moveNode_grows done unopened
  · obtain rfl := Option.some.inj done
    exact Grows.refl map

/-- The loop over the timers. The nodes that are still to come are as they were. -/
theorem getGlobalMapInfo_grows (done : getGlobalMapInfo cfg map now = some map')
    (unopened : ∀ id, DueUnopened cfg map now id) : Grows map map' := by
  refine (foldlM_ran (fun rest state => rest.Nodup ∧ Grows map state ∧ ∀ n ∈ rest,
    state.timeNode.get? n = map.timeNode.get? n ∧ state.openNode.get? n = map.openNode.get? n) ?_ ?_ done).2.1
  · intro id rest state state' invariant round
    obtain ⟨distinct, grows, same⟩ := invariant
    obtain ⟨first, later⟩ := List.nodup_cons.mp distinct
    have here := same id List.mem_cons_self
    have others : ∀ n ∈ rest, n ≠ id := fun n there equal => first (equal ▸ there)
    split at round
    · obtain ⟨moved, done, rfl⟩ := Option.map_eq_some_iff.mp round
      refine ⟨later, grows.trans (moveNode_grows done ?_), fun n there => ?_⟩
      · intro entry row opened waited due found there
        rw [here.1] at waited
        rw [here.2] at there
        exact unopened id entry row opened waited due found there
      · obtain ⟨time, opened⟩ := moveNode_others done (others n there)
        have before := same n (List.mem_cons_of_mem _ there)
        exact ⟨time.trans before.1, opened.trans before.2⟩
    · obtain rfl := Option.some.inj round
      refine ⟨later, grows.trans (grows_of_eq rfl), fun n there => ?_⟩
      have before := same n (List.mem_cons_of_mem _ there)
      exact ⟨(Obj.get?_delete_of_ne _ (others n there)).trans before.1, before.2⟩
  · exact ⟨map.timeNode.nodupKeys, Grows.refl map, fun _ _ => ⟨rfl, rfl⟩⟩

/-- The nodes that are opened at once start again, and each gets a record; the others stay. -/
theorem addOpenNode_get {nodes : Next} {created : GlobalMapInfo × Obj NodeInfo}
    (done : addOpenNode cfg.toWorldConfig nodes map now = some created) (n : String) :
    (n ∈ nodes.ids → created.1.openNode.get? n = some { process := 0 }) ∧
      (n ∉ nodes.ids → created.1.openNode.get? n = map.openNode.get? n ∧ created.2.get? n = none) := by
  have invariant := foldlM_ran (fun (rest : List String) (state : GlobalMapInfo × Obj NodeInfo) =>
    (n ∈ nodes.ids → n ∈ rest ∨ state.1.openNode.get? n = some { process := 0 }) ∧ (∀ id ∈ rest, id ∈ nodes.ids) ∧
      (n ∉ nodes.ids → state.1.openNode.get? n = map.openNode.get? n ∧ state.2.get? n = none)) ?_ ?_ done
  · exact ⟨fun there => (invariant.1 there).resolve_left List.not_mem_nil, invariant.2.2⟩
  · intro id rest state state' before round
    obtain ⟨opens, those, others⟩ := before
    obtain ⟨info, -, rfl⟩ := Option.map_eq_some_iff.mp round
    have own := those id List.mem_cons_self
    refine ⟨fun there => ?_, fun id there => those id (List.mem_cons_of_mem _ there), fun other => ?_⟩
    · by_cases here : n = id
      · exact .inr (by rw [here]; exact Obj.get?_set_self _ _ _)
      · rcases opens there with later | opened
        · exact .inl ((List.mem_cons.mp later).resolve_left here)
        · exact .inr ((Obj.get?_set_of_ne _ _ here).trans opened)
    · have different : n ≠ id := fun equal => other (equal ▸ own)
      obtain ⟨opened, unrecorded⟩ := others other
      exact ⟨(Obj.get?_set_of_ne _ _ different).trans opened, (Obj.get?_set_of_ne _ _ different).trans unrecorded⟩
  · exact ⟨fun there => .inl there, fun _ there => there, fun _ => ⟨rfl, rfl⟩⟩

/-! ### Requests that lose nothing -/

/-- The nodes that the first visit of the afk point opens have no process and no record. -/
def FirstUnopened (player : Player) (now : Int) (row : WorldMapRow) (nodeid : Sent) : Prop :=
  player.nodes.get? nodeid.name = none →
    (∀ entry, player.mapInfo.timeNode.get? nodeid.name = some entry → entry.leftTime now ≤ 0) →
      ∀ id ∈ row.next.ids, player.nodes.get? id = none ∧
        ∀ opened, player.mapInfo.openNode.get? id = some opened → opened.process = 0

/-- Every node that the request opens has nothing to lose. -/
def LosesNothing (cfg : MapConfig) (player : Player) (call : Call) : Prop :=
  match call.request with
  | .getGlobalMapInfo => ∀ id, DueUnopened cfg player.mapInfo call.now id
  | .enterMap nodeid => ∀ row, cfg.node nodeid.name = some row → row.type2 = NodeType.map → row.openlevel ≤ call.level →
    DueUnopened cfg player.mapInfo call.now nodeid.name
  | .changeAfk nodeid => ∀ row, cfg.node nodeid.name = some row → row.type2 = NodeType.afk → row.openlevel ≤ call.level →
    DueUnopened cfg player.mapInfo call.now nodeid.name ∧ FirstUnopened player call.now row nodeid
  | _ => True

theorem fieldOf_eq {row : WorldMapRow} (found : cfg.node nodeid.name = some row) : fieldOf nodeid = nodeid.name :=
  if_pos (truthy_of_plain (WorldConfig.plain_of_node found))

theorem checkTime_due {gate : Bool × GlobalMapInfo} (done : checkTime cfg map nodeid now = some gate) (passed : gate.1 = true)
    {entry : TimeNode} (waited : map.timeNode.get? nodeid.name = some entry) : entry.leftTime now ≤ 0 := by
  unfold checkTime at done
  rw [if_pos (.inl (Obj.has_iff.mpr ⟨entry, waited⟩))] at done
  obtain ⟨stuck, -⟩ | ⟨entry', row, there, due, -, -⟩ := moveNode_cases done
  · rw [stuck] at passed
    cases passed
  · obtain rfl := Option.some.inj (waited.symm.trans there)
    exact due

/-- Records are only added. -/
theorem recordKept_of_untouched {n : String} {before after : Option NodeInfo}
    (untouched : ∀ info, before = some info → after = some info) : RecordKept cfg n before after :=
  ⟨fun node there => ⟨node, untouched _ there, Continues.refl cfg n node⟩, fun _ there => untouched _ there⟩

theorem enterMap_kept (loses : LosesNothing cfg player ⟨now, level, .enterMap nodeid⟩) :
    Kept cfg player (player.serve cfg ⟨now, level, .enterMap nodeid⟩) := by
  refine save_kept (Kept.refl cfg player) fun done run saved => ?_
  obtain ⟨gate, row, info, entry, checked, ⟨found, type, high⟩, recorded, -, rfl⟩ := enterMap_saved run saved
  refine ⟨(checkTime_grows checked (loses row found type high)).trans (grows_of_eq rfl), recordKept_of_untouched ?_⟩
  intro old there
  rw [← recorded]
  show nodeInfoOr cfg nodeid now (player.nodes.get? (fieldOf nodeid)) = some old
  rw [there]
  rfl

/-- The first visit of an afk point adds records, and opens nodes that have nothing to lose. -/
theorem openFirst_keeps {row : WorldMapRow} {gate : GlobalMapInfo} {first : DataValue × Obj NodeInfo}
    (run : openFirst cfg nodeid row now ⟨gate, player.nodes.get? nodeid.name⟩ = some first) (grows : Grows player.mapInfo gate)
    (loses : player.nodes.get? nodeid.name = none → ∀ id ∈ row.next.ids, player.nodes.get? id = none ∧
      ∀ opened, player.mapInfo.openNode.get? id = some opened → opened.process = 0) :
    Grows player.mapInfo first.1.mapInfo ∧
      (∀ info, player.nodes.get? nodeid.name = some info → first.1.nodeInfo = some info) ∧
      ∀ n info, player.nodes.get? n = some info → (player.nodes.assign first.2).get? n = some info := by
  unfold openFirst at run
  split at run
  · obtain rfl := Option.some.inj run
    refine ⟨grows, fun _ there => there, fun n info there => ?_⟩
    rw [Obj.get?_assign]
    exact there
  · rename_i visited
    obtain ⟨info, -, run⟩ := Option.bind_eq_some_iff.mp run
    obtain ⟨created, opens, rfl⟩ := Option.map_eq_some_iff.mp run
    have unopened := loses visited
    refine ⟨fun n entry opened => ?_, fun info there => ?_, fun n info there => ?_⟩
    · by_cases next : n ∈ row.next.ids
      · refine ⟨_, (addOpenNode_get opens n).1 next, ?_⟩
        rw [(unopened n next).2 entry opened]
      · obtain ⟨entry', opened', more⟩ := grows n entry opened
        exact ⟨entry', ((addOpenNode_get opens n).2 next).1.trans opened', more⟩
    · exact absurd (there.symm.trans visited) (Option.some_ne_none info)
    · have other : n ∉ row.next.ids := fun next => by
        rw [(unopened n next).1] at there
        cases there
      rw [Obj.get?_assign, ((addOpenNode_get opens n).2 other).2]
      exact there

theorem changeAfk_kept (loses : LosesNothing cfg player ⟨now, level, .changeAfk nodeid⟩) :
    Kept cfg player (player.serve cfg ⟨now, level, .changeAfk nodeid⟩) := by
  show Kept cfg player (Player.save { player with nodes := player.nodes.assign _ } (fieldOf nodeid) _)
  obtain ⟨nothing, unsaved⟩ | ⟨gate, row, first, checked, passed, ⟨found, type, high⟩, firstly, same⟩ :=
    changeAfk_cases (rfl : changeAfk cfg level nodeid now (player.read (fieldOf nodeid)) = _)
  · rw [nothing]
    have start : Kept cfg player { player with nodes := player.nodes.assign ∅ } := by
      refine ⟨Grows.refl _, fun n => recordKept_of_untouched fun info there => ?_⟩
      rw [Obj.get?_assign]
      exact there
    refine save_kept start fun done run saved => ?_
    rw [unsaved done run] at saved
    cases saved
  · obtain ⟨due, unopened⟩ := loses row found type high
    rw [same]
    have field := fieldOf_eq found
    rw [field] at firstly ⊢
    obtain ⟨grows, own, others⟩ := openFirst_keeps firstly (checkTime_grows checked due) fun visited =>
      unopened visited fun entry waited => checkTime_due checked passed waited
    refine save_kept ⟨Grows.refl _, fun n => recordKept_of_untouched (others n)⟩ fun done run _ => ?_
    obtain ⟨map, switched, rfl⟩ := Option.map_eq_some_iff.mp run
    obtain ⟨afk, -, rfl⟩ := Option.map_eq_some_iff.mp switched
    exact ⟨grows.trans (grows_of_eq rfl), recordKept_of_untouched own⟩

theorem walk_continues {n : String} {file : Option MapFile} {cells : List PathCell} {node walked : MapNode}
    (run : walk file cells node = some walked) : Continues cfg n node walked := by
  induction cells generalizing node file with
  | nil => exact Option.some.inj run ▸ Continues.refl cfg n node
  | cons cell rest ih =>
    cases cell with
    | pos x y =>
      obtain ⟨file, -, run⟩ := Option.bind_eq_some_iff.mp run
      obtain ⟨free, -, run⟩ := Option.bind_eq_some_iff.mp run
      split at run
      · have step : Continues cfg n node { node with x, y, ap := node.ap + 1 } :=
          ⟨fun _ => .inl rfl, fun _ there => there, fun passed => passed, by show node.ap ≤ node.ap + 1; omega⟩
        exact step.trans (ih run)
      · exact Option.some.inj run ▸ Continues.refl cfg n node
    | other => exact Option.some.inj run ▸ Continues.refl cfg n node
    | null => cases run

theorem walkPath_kept (nodeid uid : Sent) (inside : Bool) (path : Option (List PathCell)) :
    Kept cfg player (player.serve cfg ⟨now, level, .walkPath nodeid uid inside path⟩) := by
  refine save_kept (Kept.refl cfg player) fun done run _ => ?_
  obtain ⟨map, same | ⟨file, cells, node, walked, record, walking, moved⟩⟩ := walkPath_done run
  · refine ⟨grows_of_eq (congrArg (·.openNode) map), ?_⟩
    rw [same]
    exact RecordKept.refl cfg _ _
  · refine ⟨grows_of_eq (congrArg (·.openNode) map), fun old there => ?_, fun old there => ?_⟩
    · obtain rfl := NodeInfo.map.inj (Option.some.inj (there.symm.trans record))
      exact ⟨walked, moved, walk_continues walking⟩
    · cases there.symm.trans record

theorem click_kept (click : Click) : Kept cfg player (player.serve cfg click.call) := by
  rcases serve_click cfg player click with ⟨same, -⟩ | ⟨node, row, element, type, processed, entry, info, left, stored⟩
  · rw [same]
    exact Kept.refl cfg player
  · have more : Grows player.mapInfo (player.mapInfo.count click.nodeid.name entry
        (explorationOf cfg row.resourceID click.uid)) := by
      refine grows_set rfl fun old opened => ?_
      obtain rfl := Option.some.inj (opened.symm.trans stored.explored.opened)
      exact Nat.le_add_right _ _
    rw [stored.stored]
    refine ⟨?_, fun n => ⟨?_, fun old there => ?_⟩⟩
    · cases stored.explored.counted with
      | goesOn _ map =>
        rw [map]
        exact more
      | passes _ _ map =>
        obtain ⟨timeNode, map, -⟩ := map
        rw [map]
        exact more.trans (grows_of_eq rfl)
    · have onward : Onward cfg player ⟨left.1, player.nodes.set click.nodeid.name (.map left.2.node)⟩ :=
        onward_set stored.record stored.explored.continues
      exact onward n
    · refine (Obj.get?_set_of_ne _ _ fun here => ?_).trans there
      rw [here, stored.record] at there
      cases there

/-! ### Runs -/

theorem serve_kept (loses : LosesNothing cfg player call) : Kept cfg player (player.serve cfg call) := by
  obtain ⟨now, level, request⟩ := call
  cases request with
  | getGlobalMapInfo =>
    unfold Player.serve
    dsimp only
    split
    · rename_i map done
      exact ⟨getGlobalMapInfo_grows done loses, fun n => RecordKept.refl cfg n _⟩
    · exact Kept.refl cfg player
  | enterMap nodeid => exact enterMap_kept loses
  | changeAfk nodeid => exact changeAfk_kept loses
  | walkPath nodeid uid inside path => exact walkPath_kept nodeid uid inside path
  | changeState nodeid uid choo draws => exact click_kept ⟨now, level, nodeid, uid, choo, draws⟩

/-- No progress of a player's map, a new one or any other, is lost in a run in which nothing is opened that has something
to lose. -/
theorem run_kept (cfg : MapConfig) (player : Player) (first later : List Call)
    (loses : Along (Player.serve cfg) (LosesNothing cfg) player (first ++ later)) :
    Kept cfg (run (Player.serve cfg) player first) (run (Player.serve cfg) player (first ++ later)) := by
  rw [run_append]
  have keep : ∀ now call, Kept cfg (run (Player.serve cfg) player first) now → LosesNothing cfg now call →
      Kept cfg (run (Player.serve cfg) player first) (now.serve cfg call) := fun _ _ kept ok => kept.trans (serve_kept ok)
  exact run_invariant keep (Kept.refl cfg _) (along_append.mp loses).2

/-- A new player enters the first map and clicks on its npc. -/
theorem run_kept_firstMap : Kept firstConfig
    (run (Player.serve firstConfig) firstPlayer [⟨0, 1, .enterMap (.ofNat 101102)⟩])
    (run (Player.serve firstConfig) firstPlayer ([⟨0, 1, .enterMap (.ofNat 101102)⟩] ++
      [⟨0, 1, .changeState (.ofNat 101102) (.ofNat 2451) none ⟨false, none, 0⟩⟩])) := by
  refine run_kept firstConfig firstPlayer _ _ ⟨?_, trivial, trivial⟩
  intro row _ _ _ entry _ _ waited
  have none : firstPlayer.mapInfo.timeNode.get? (Sent.ofNat 101102).name = none := by decide +kernel
  cases none.symm.trans waited

/-! ### A node that follows two maps -/

def forkNodes : Obj WorldMapRow :=
  (((∅ : Obj WorldMapRow).set "101201" ⟨2, 1, 100101, .nodes [101102, 101104], 5, 10⟩).set
    "101102" ⟨1, 1, 1, .node 101106, 5, 10⟩).set "101104" ⟨1, 1, 1, .node 101106, 5, 10⟩ |>.set
    "101106" ⟨1, 1, 1, .node 0, 5, 10⟩

theorem forkNodes_plain : ∀ name ∈ forkNodes.keys, Plain name := by decide +kernel

/-- Each map is passed with its npc. -/
def forkConfig : MapConfig := { firstConfig with
  worldMap := ⟨forkNodes, forkNodes_plain⟩
  mapInfo := (∅ : Obj MapInfoRow).set "1" ⟨some (9, 7), "01.json", 10, 1, 500⟩ }

def forkPlayer : Player :=
  (createGlobalMapInfo forkConfig.toWorldConfig 0).getD ⟨⟨.null, .null, .null, ∅, ∅⟩, ∅⟩

theorem forkPlayer_created : createGlobalMapInfo forkConfig.toWorldConfig 0 = some forkPlayer :=
  eq_some_getD (by decide +kernel) _

def enterAndClick (now : Int) (nodeid : Nat) : List Call :=
  [⟨now, 1, .enterMap (.ofNat nodeid)⟩, ⟨now, 1, .changeState (.ofNat nodeid) (.ofNat 2451) none ⟨false, none, 0⟩⟩]

/-- The first map is passed, then the one behind it is explored, then the second map is passed. -/
def throughBoth : List Call := enterAndClick 0 101102 ++ ⟨10000, 1, .getGlobalMapInfo⟩ :: enterAndClick 10000 101106 ++
  enterAndClick 10000 101104

/-- The timer of the second map opens the node behind it anew. -/
theorem process_lost : ∃ cfg start player first later, createGlobalMapInfo cfg.toWorldConfig start = some player ∧
    (start :: (first ++ later).map Call.now).Pairwise (· ≤ ·) ∧
      ¬Kept cfg (run (Player.serve cfg) player first) (run (Player.serve cfg) player (first ++ later)) := by
  refine ⟨forkConfig, 0, forkPlayer, throughBoth, [⟨20000, 1, .getGlobalMapInfo⟩], forkPlayer_created,
    by decide +kernel, fun kept => ?_⟩
  have before : (run (Player.serve forkConfig) forkPlayer throughBoth).mapInfo.openNode.get? "101106" = some ⟨10, 0⟩ := by
    decide +kernel
  have after : (run (Player.serve forkConfig) forkPlayer (throughBoth ++ [⟨20000, 1, .getGlobalMapInfo⟩])).mapInfo.openNode.get?
      "101106" = some ⟨0, 0⟩ := by decide +kernel
  obtain ⟨entry, there, more⟩ := kept.opened "101106" _ before
  obtain rfl := Option.some.inj (after.symm.trans there)
  cases more

end Tinygame.Map
