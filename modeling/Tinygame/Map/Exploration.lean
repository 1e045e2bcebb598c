import Tinygame.Map.Buildings

/-!
# What is explored of a map

Every click that is processed counts what its building is worth, whether or not the building is finished by it. The
count is right in a run in which a click that is processed finishes its building for the first time just when its id
is sent as a number, or the building is worth nothing.
-/

namespace Tinygame.Map
open MapElement

variable {cfg : MapConfig} {n : String} {won : Bool} {type : UidType} {old : Option Nat} {new : Nat}

/-! ### Which clicks count rightly -/

/-- What the building adds when it is finished. -/
def worthOf (cfg : MapConfig) (mapid : Nat) (u : String) : Nat :=
  (cfg.exploration.map fun row => if row.mapId = mapid ∧ toString row.uId = u then row.exploration else 0).sum

/-- A click finds the building of this type in a state in which it is refused. -/
def ended : UidType → Option Nat → Bool
  | .chest, state => state != some CHEST_INIT
  | .monsterchal, state => state != some MONSTERCHAL_INIT
  | .unknow, state => state != some UNKNOW_INIT && state != some UNKNOW_MONSTER && state != some UNKNOW_REWARD
  | .chestChoo, state => state != some CHESTCHOO_INIT
  | .watchTower, _ | .npc, _ => false
  | .buffStation, _ | .lobstacle, _ | .mission, _ => true

/-- A click takes the building of this type to its last state for the first time. -/
def finishes (won : Bool) : UidType → Option Nat → Bool
  | .chest, state => state == some CHEST_INIT
  | .monsterchal, state => state == some MONSTERCHAL_INIT && won
  | .unknow, state => state == some UNKNOW_MONSTER && won || state == some UNKNOW_REWARD
  | .watchTower, state => state != some WATCHTOWER_PICKED
  | .chestChoo, state => state == some CHESTCHOO_INIT
  | .npc, state => state == some NPC_INIT
  | .buffStation, _ | .lobstacle, _ | .mission, _ => false

def Sent.isNumber : Sent → Bool
  | .number _ => true
  | _ => false

/-- The building is worth nothing, the click is refused, or it finishes the building for the first time just when its
id is sent as a number. -/
def CountsRightly (cfg : MapConfig) (player : Player) (click : Click) : Prop :=
  ∀ node row element type, player.nodes.get? click.nodeid.name = some (.map node) → cfg.node click.nodeid.name = some row →
    elementAt cfg click.nodeid.name click.uid.name = some element → element.type.bind UidType.ofNumber = some type →
      worthOf cfg row.resourceID click.uid.name = 0 ∨
        ended type (uidStateOf element click.uid.name node.uidList) = true ∨
        click.uid.isNumber = finishes (fightWon cfg click.draws element) type (uidStateOf element click.uid.name node.uidList)

theorem Idle.unfinished (idle : Idle won type old) : ended type old = false ∧ finishes won type old = false := by
  cases idle with
  | monsterchal lost => rw [lost]; exact ⟨rfl, rfl⟩
  | unknow lost => rw [lost]; exact ⟨rfl, rfl⟩
  | npc _ other => exact ⟨rfl, beq_eq_false_iff_ne.mpr other⟩

/-- A click that takes the building on finishes it, or leaves it finished or unfinished as it was. -/
theorem Moves.finishes {gave : Bool} {number : Option Nat} (moves : Moves won type old new gave)
    (known : number.bind UidType.ofNumber = some type) :
    ended type old = false ∧ (finishes won type old = true ∧ checkFinalState number old = false ∧
        checkFinalState number (some new) = true ∨
      finishes won type old = false ∧ checkFinalState number (some new) = checkFinalState number old) := by
  unfold checkFinalState
  rw [known]
  cases moves with
  | monsterchal _ victory => rw [victory]; exact ⟨rfl, .inl ⟨rfl, rfl, rfl⟩⟩
  | unknowFought _ victory => rw [victory]; exact ⟨rfl, .inl ⟨rfl, rfl, rfl⟩⟩
  | watchTower =>
    refine ⟨rfl, ?_⟩
    by_cases picked : old = some WATCHTOWER_PICKED
    · exact .inr ⟨by rw [picked]; rfl, by rw [picked]⟩
    · exact .inl ⟨bne_iff_ne.mpr picked, decide_eq_false picked, rfl⟩
  | unknowMonster => exact ⟨rfl, .inr ⟨rfl, rfl⟩⟩
  | unknowReward => exact ⟨rfl, .inr ⟨rfl, rfl⟩⟩
  | npcAgain => exact ⟨rfl, .inr ⟨rfl, rfl⟩⟩
  | _ => exact ⟨rfl, .inl ⟨rfl, rfl, rfl⟩⟩

/-! ### What a click adds -/

theorem toString_ne_nan (k : Nat) : toString k ≠ "NaN" := by
  intro same
  have letter : 'N' ∈ (toString k).toList := by rw [same]; decide
  exact absurd (toString_digits k 'N' letter) (by decide)

theorem ofNat_same (k : Nat) (text : String) : (Sent.ofNat k).same (.number text) = decide (toString k = text) := by
  unfold Sent.same Sent.ofNat
  split
  · rename_i object
    cases object
  · rename_i nan
    exact absurd (Sent.number.inj nan) (toString_ne_nan k)
  · by_cases same : toString k = text
    · rw [same, decide_eq_true rfl, beq_self_eq_true]
    · rw [decide_eq_false same]
      exact beq_eq_false_iff_ne.mpr fun equal => same (Sent.number.inj equal)

/-- Only an id that is sent as a number is the id of a row. -/
theorem ofNat_same_other (k : Nat) {uid : Sent} (other : uid.isNumber = false) : (Sent.ofNat k).same uid = false := by
  cases same : (Sent.ofNat k).same uid with
  | false => rfl
  | true =>
    rw [← Sent.eq_of_same same] at other
    cases other

theorem explorationOf_eq (cfg : MapConfig) (mapid : Nat) (uid : Sent) : explorationOf cfg mapid uid =
    (cfg.exploration.map fun row => if row.mapId = mapid ∧ (Sent.ofNat row.uId).same uid then row.exploration else 0).sum := by
  unfold explorationOf
  induction cfg.exploration with
  | nil => rfl
  | cons row rest ih =>
    rw [List.map_cons, List.sum_cons, ← ih, List.filter_cons]
    by_cases here : row.mapId = mapid ∧ (Sent.ofNat row.uId).same uid = true
    · rw [if_pos (decide_eq_true here), if_pos here, List.map_cons, List.sum_cons]
    · rw [if_neg (by simpa using here), if_neg here, Nat.zero_add]

theorem explorationOf_number (cfg : MapConfig) (mapid : Nat) {uid : Sent} (number : uid.isNumber = true) :
    explorationOf cfg mapid uid = worthOf cfg mapid uid.name := by
  rw [explorationOf_eq, worthOf]
  cases uid with
  | number text =>
    refine congrArg List.sum (List.map_congr_left fun row _ => if_congr ?_ rfl rfl)
    rw [ofNat_same, decide_eq_true_iff]
    rfl
  | _ => cases number

theorem explorationOf_other (cfg : MapConfig) (mapid : Nat) {uid : Sent} (other : uid.isNumber = false) :
    explorationOf cfg mapid uid = 0 := by
  rw [explorationOf_eq]
  simp [ofNat_same_other _ other]

theorem explorationOf_le (cfg : MapConfig) (mapid : Nat) (uid : Sent) :
    explorationOf cfg mapid uid ≤ worthOf cfg mapid uid.name := by
  cases number : uid.isNumber with
  | true => exact le_of_eq (explorationOf_number cfg mapid number)
  | false => rw [explorationOf_other cfg mapid number]; exact Nat.zero_le _

/-- What has been finished on the map between the two records. -/
def finishedSum (cfg : MapConfig) (n : String) (mapid : Nat) (start now : MapNode) : Nat :=
  (cfg.exploration.map fun row => if row.mapId = mapid ∧ finalAt cfg n (toString row.uId) start = false ∧
    finalAt cfg n (toString row.uId) now = true then row.exploration else 0).sum

theorem finishedSum_self (cfg : MapConfig) (n : String) (mapid : Nat) (start : MapNode) :
    finishedSum cfg n mapid start start = 0 := by
  unfold finishedSum
  induction cfg.exploration with
  | nil => rfl
  | cons row rest ih =>
    rw [List.map_cons, List.sum_cons, ih, if_neg (by rintro ⟨-, open_, final⟩; rw [open_] at final; cases final)]

theorem finishedSum_congr {mapid : Nat} {start node node' : MapNode} (same : ∀ u, finalAt cfg n u node' = finalAt cfg n u node) :
    finishedSum cfg n mapid start node' = finishedSum cfg n mapid start node := by
  unfold finishedSum
  simp only [same]

/-- A building that is finished now, and was not at the start or since, adds what it is worth. -/
theorem finishedSum_add {mapid : Nat} {start node node' : MapNode} {u : String} (unfinished : finalAt cfg n u start = false)
    (before : finalAt cfg n u node = false) (after : finalAt cfg n u node' = true)
    (others : ∀ v, v ≠ u → finalAt cfg n v node' = finalAt cfg n v node) :
    finishedSum cfg n mapid start node' = finishedSum cfg n mapid start node + worthOf cfg mapid u := by
  unfold finishedSum worthOf
  induction cfg.exploration with
  | nil => rfl
  | cons row rest ih =>
    simp only [List.map_cons, List.sum_cons]
    rw [ih]
    by_cases own : toString row.uId = u
    · rw [own, unfinished, before, after]
      by_cases here : row.mapId = mapid
      · simp only [here, and_self, if_true, Bool.false_eq_true, and_false, if_false]
        omega
      · simp only [here, false_and, if_false]
        omega
    · rw [others _ own]
      simp only [own, and_false, if_false]
      omega

/-! ### One click -/

section
variable {draws : Draws} {uid : Sent} {map : GlobalMapInfo} {node : MapNode} {row : WorldMapRow} {element : Element}
  {click : Processed} {entry : OpenNode} {info : MapInfoRow} {left : GlobalMapInfo × Processed}

/-- A click that counts rightly adds what it finishes. -/
theorem Explored.counts_rightly (explored : Explored cfg draws n map node uid row element type click entry info left)
    {start : MapNode} (since : Continues cfg n start node)
    (rightly : worthOf cfg row.resourceID uid.name = 0 ∨ ended type (uidStateOf element uid.name node.uidList) = true ∨
      uid.isNumber = finishes (fightWon cfg draws element) type (uidStateOf element uid.name node.uidList)) :
    finishedSum cfg n row.resourceID start click.node =
      finishedSum cfg n row.resourceID start node + explorationOf cfg row.resourceID uid := by
  have atMost := explorationOf_le cfg row.resourceID uid
  have addsNothing (going : ended type (uidStateOf element uid.name node.uidList) = false)
      (not : finishes (fightWon cfg draws element) type (uidStateOf element uid.name node.uidList) = false) :
      explorationOf cfg row.resourceID uid = 0 := by
    rcases rightly with nothing | over_ | sent
    · omega
    · rw [going] at over_
      cases over_
    · exact explorationOf_other cfg _ (sent.trans not)
  cases explored.clicks with
  | refused code same =>
    have ok := explored.ok
    rw [same] at ok
    cases ok
  | stays _ same _ idle =>
    rw [same, addsNothing idle.unfinished.1 idle.unfinished.2, Nat.add_zero]
  | moves state _ touched moves =>
    have others : ∀ v, v ≠ uid.name → finalAt cfg n v click.node = finalAt cfg n v node := by
      intro v other
      rw [finalAt, finalAt, touched.others other]
    have final : finalAt cfg n uid.name node = checkFinalState element.type (uidStateOf element uid.name node.uidList) ∧
        finalAt cfg n uid.name click.node = checkFinalState element.type (some state) := by
      rw [explored.finalAt_eq, explored.finalAt_eq, touched.written]
      exact ⟨rfl, rfl⟩
    obtain ⟨going, ⟨finishing, before, after⟩ | ⟨not, same⟩⟩ := moves.finishes explored.known
    · have open_ : finalAt cfg n uid.name start = false := by
        cases finished : finalAt cfg n uid.name start with
        | false => rfl
        | true =>
          have kept := since.final finished
          rw [final.1, before] at kept
          cases kept
      rw [finishedSum_add open_ (final.1.trans before) (final.2.trans after) others]
      rcases rightly with nothing | over_ | sent
      · omega
      · rw [going] at over_
        cases over_
      · rw [explorationOf_number cfg _ (sent.trans finishing)]
    · rw [addsNothing going not, Nat.add_zero]
      refine finishedSum_congr fun v => ?_
      by_cases own : v = uid.name
      · rw [own, final.1, final.2, same]
      · exact others v own

end

/-! ### Runs -/

/-- The record and the entry of the map, and what they say of the run: the process has grown by what has been finished,
and the map is passed once that is enough, which puts the nodes that follow on a timer. -/
structure Counting (cfg : MapConfig) (n : String) (row : WorldMapRow) (info : MapInfoRow) (start : Player) (node₀ : MapNode)
    (entry₀ : OpenNode) (now : Player) (node : MapNode) (entry : OpenNode) : Prop where
  cur : now.mapInfo.curNode = start.mapInfo.curNode
  since : Continues cfg n node₀ node
  record : now.nodes.get? n = some (.map node)
  opened : now.mapInfo.openNode.get? n = some entry
  process : entry.process = entry₀.process + finishedSum cfg n row.resourceID node₀ node
  passed : node.pass = true ↔ info.exploration ≤ entry.process
  locked : node.pass = node₀.pass → now.mapInfo.timeNode = start.mapInfo.timeNode
  unlocked : node₀.pass = false → node.pass = true → ∀ id ∈ row.next.ids, now.mapInfo.timeNode.has id = true

/-- What is counted of the map the player is on is what he has finished there, if at the start the map was passed just
when enough of it was explored. -/
def CountsFinished (cfg : MapConfig) (start now : Player) : Prop :=
  ∀ row info node₀ entry₀, cfg.node start.mapInfo.curNode.name = some row → cfg.map row.resourceID = some info →
    start.nodes.get? start.mapInfo.curNode.name = some (.map node₀) →
      start.mapInfo.openNode.get? start.mapInfo.curNode.name = some entry₀ →
        (node₀.pass = true ↔ info.exploration ≤ entry₀.process) →
          ∃ node entry, Counting cfg start.mapInfo.curNode.name row info start node₀ entry₀ now node entry

section
variable {row : WorldMapRow} {info : MapInfoRow} {start now : Player} {node₀ node : MapNode} {entry₀ entry : OpenNode}
  {click : Click}

theorem Counting.init (record : start.nodes.get? n = some (.map node₀)) (opened : start.mapInfo.openNode.get? n = some entry₀)
    (passed : node₀.pass = true ↔ info.exploration ≤ entry₀.process) :
    Counting cfg n row info start node₀ entry₀ start node₀ entry₀ where
  cur := rfl
  since := Continues.refl cfg n node₀
  record := record
  opened := opened
  process := by rw [finishedSum_self, Nat.add_zero]
  passed := passed
  locked _ := rfl
  unlocked not now := by rw [not] at now; cases now

/-- A click that counts rightly keeps the count right. -/
theorem Counting.step (counting : Counting cfg n row info start node₀ entry₀ now node entry) (found : cfg.node n = some row)
    (mapped : cfg.map row.resourceID = some info) (here : start.mapInfo.curNode.name = n)
    (rightly : CountsRightly cfg now click) :
    ∃ node' entry', Counting cfg n row info start node₀ entry₀ (now.serve cfg click.call) node' entry' := by
  rcases serve_click cfg now click with ⟨same, -⟩ | ⟨node', row', element, type, processed, entry', info', left, stored⟩
  · rw [same]
    exact ⟨node, entry, counting⟩
  · have here : click.nodeid.name = n := by rw [← stored.cur, counting.cur, here]
    have explored := stored.explored
    have record := stored.record
    have kept := stored.stored
    rw [CountsRightly, here] at rightly
    rw [here] at explored record kept
    obtain rfl := NodeInfo.map.inj (Option.some.inj (counting.record.symm.trans record))
    obtain rfl := Option.some.inj (counting.opened.symm.trans explored.opened)
    obtain rfl := Option.some.inj (found.symm.trans explored.found)
    obtain rfl := Option.some.inj (mapped.symm.trans explored.mapped)
    have since := counting.since.trans explored.continues
    have added := explored.counts_rightly counting.since
      (rightly node row element type record found explored.elementAt_eq explored.known)
    have process := counting.process
    have passed := counting.passed
    have unmarked : processed.node.pass = node.pass := by
      cases explored.clicks with
      | refused code same => rw [same]; rfl
      | stays _ same => rw [same]
      | moves _ _ touched => exact touched.pass
    have list := explored.counted.node_continues.1
    have finished : finishedSum cfg n row.resourceID node₀ left.2.node = finishedSum cfg n row.resourceID node₀ processed.node :=
      finishedSum_congr fun u => congrArg (checkFinalState _) (stateAt_congr (by rw [list]))
    rw [kept]
    refine ⟨left.2.node, { entry with process := entry.process + explorationOf cfg row.resourceID click.uid }, ?_⟩
    cases explored.counted with
    | goesOn unpassed map same =>
      rw [same] at finished ⊢
      rw [map]
      refine ⟨counting.cur, same ▸ since, Obj.get?_set_self _ _ _, Obj.get?_set_self _ _ _, ?_, ?_, ?_, ?_⟩
      · show entry.process + _ = _
        omega
      · show processed.node.pass = true ↔ info.exploration ≤ entry.process + _
        constructor
        · intro marked
          rw [unmarked] at marked
          exact (passed.mp marked).trans (Nat.le_add_right _ _)
        · intro enough
          cases marked : processed.node.pass with
          | true => rfl
          | false => exact absurd ⟨enough, marked⟩ unpassed
      · intro same
        exact counting.locked (unmarked.symm.trans same)
      · intro not marked
        exact counting.unlocked not (unmarked.symm.trans marked)
    | passes enough first map same =>
      obtain ⟨timeNode, map, timed⟩ := map
      rw [same] at finished ⊢
      rw [map]
      refine ⟨counting.cur, same ▸ since, Obj.get?_set_self _ _ _, Obj.get?_set_self _ _ _, ?_, ?_, ?_, ?_⟩
      · show entry.process + _ = _
        omega
      · exact ⟨fun _ => enough, fun _ => rfl⟩
      · intro same
        have before := counting.since.pass same.symm
        rw [← unmarked, first] at before
        cases before
      · intro _ _ id next
        show timeNode.has id = true
        rw [timed, decide_eq_true next, Bool.true_or]

end

/-- The player after a click. -/
def Player.click (cfg : MapConfig) (player : Player) (click : Click) : Player := player.serve cfg click.call

/-- In a run of clicks that count rightly the process of the map is what it was, and what has been finished since. -/
theorem clicks_count_finished (cfg : MapConfig) (start : Player) (clicks : List Click)
    (rightly : Along (Player.click cfg) (CountsRightly cfg) start clicks) :
    CountsFinished cfg start (run (Player.click cfg) start clicks) := by
  intro row info node₀ entry₀ found mapped record opened passed
  have keep : ∀ now click, (∃ node entry, Counting cfg start.mapInfo.curNode.name row info start node₀ entry₀ now node entry) →
      CountsRightly cfg now click → ∃ node entry,
        Counting cfg start.mapInfo.curNode.name row info start node₀ entry₀ (now.click cfg click) node entry := by
    rintro now click ⟨node, entry, counting⟩ rightly
    exact counting.step found mapped rfl rightly
  exact run_invariant keep ⟨node₀, entry₀, Counting.init record opened passed⟩ rightly

/-! ### The first map -/

/-- A new player who has entered the first map. -/
def onFirstMap : Player := firstPlayer.serve firstConfig ⟨0, 1, .enterMap (.ofNat 101102)⟩

/-- A click on the npc of the first map. -/
def clickNpc : Click := ⟨0, 1, .ofNat 101102, .ofNat 2451, none, ⟨false, none, 0⟩⟩

def Player.mapNode (player : Player) (n : String) : Option MapNode :=
  match player.nodes.get? n with
  | some (.map node) => some node
  | _ => none

theorem mapNode_eq {player : Player} {node : MapNode} :
    player.mapNode n = some node ↔ player.nodes.get? n = some (.map node) := by
  unfold Player.mapNode
  split <;> simp_all

theorem clicks_count_finished_npc :
    CountsFinished firstConfig onFirstMap (run (Player.click firstConfig) onFirstMap [clickNpc]) := by
  refine clicks_count_finished firstConfig onFirstMap [clickNpc] ⟨?_, trivial⟩
  intro node row element type record _ there known
  have npc : elementAt firstConfig clickNpc.nodeid.name clickNpc.uid.name = some ⟨some 19, "100101", 9, 9⟩ := by decide +kernel
  obtain rfl := Option.some.inj (npc.symm.trans there)
  obtain rfl := Option.some.inj known
  have fresh : (onFirstMap.mapNode clickNpc.nodeid.name).map (·.uidList.get? clickNpc.uid.name) = some none := by decide +kernel
  rw [mapNode_eq.mpr record, Option.map_some, Option.some.injEq] at fresh
  refine .inr (.inr ?_)
  rw [uidStateOf, fresh]
  rfl

/-- The npc is worth 10. A second click on it counts for the map again. -/
theorem npc_counts_twice :
    ¬CountsFinished firstConfig onFirstMap (run (Player.click firstConfig) onFirstMap [clickNpc, clickNpc]) := by
  intro counts
  have found : firstConfig.node onFirstMap.mapInfo.curNode.name = some ⟨1, 1, 1, .node 101203, 5, 10⟩ := by decide +kernel
  have mapped : firstConfig.map 1 = some ⟨some (9, 7), "01.json", 40, 1, 500⟩ := by decide +kernel
  have fresh : (onFirstMap.mapNode onFirstMap.mapInfo.curNode.name).map (·.pass) = some false := by decide +kernel
  have opened : onFirstMap.mapInfo.openNode.get? onFirstMap.mapInfo.curNode.name = some ⟨0, 0⟩ := by decide +kernel
  obtain ⟨node₀, record, unpassed⟩ := Option.map_eq_some_iff.mp fresh
  obtain ⟨node, entry, counting⟩ := counts _ _ node₀ _ found mapped (mapNode_eq.mp record) opened (by rw [unpassed]; decide)
  have twice : (run (Player.click firstConfig) onFirstMap [clickNpc, clickNpc]).mapInfo.openNode.get?
      onFirstMap.mapInfo.curNode.name = some ⟨20, 0⟩ := by decide +kernel
  have once : ((onFirstMap.mapNode onFirstMap.mapInfo.curNode.name).bind fun before =>
      ((run (Player.click firstConfig) onFirstMap [clickNpc, clickNpc]).mapNode onFirstMap.mapInfo.curNode.name).map fun after =>
        finishedSum firstConfig onFirstMap.mapInfo.curNode.name 1 before after) = some 10 := by decide +kernel
  rw [record, mapNode_eq.mpr counting.record, Option.bind_some, Option.map_some, Option.some.injEq] at once
  have process := counting.process
  obtain rfl := Option.some.inj (twice.symm.trans counting.opened)
  rw [once] at process
  cases process

end Tinygame.Map
