import Tinygame.Map.Clicks
import Tinygame.Base.Run

/-!
# Buildings go forward and pay once

A building only ever gets to a later state of its type, and a reward comes with the step to its last one. A click that
is refused leaves the record as it was.
-/

namespace Tinygame.Map
open MapElement

variable {cfg : MapConfig} {n u : String} {player : Player} {won : Bool} {type : UidType} {old : Option Nat} {new : Nat}

/-! ### The order of the states -/

/-- How far a building is; its last state is the second of two. -/
def stage : Option Nat → Nat
  | some 1 => 1
  | some 2 => 2
  | _ => 0

/-- How far an unknown building is. A monster and a reward are equally far. -/
def unknowStage : Option Nat → Nat
  | some 1 => 1
  | some 2 => 2
  | some 3 => 2
  | some 4 => 3
  | _ => 0

def UidType.rank (type : UidType) : Option Nat → Nat := if type = .unknow then unknowStage else stage

def UidType.last (type : UidType) : Nat := if type = .unknow then 3 else 2

theorem stage_last (state : Option Nat) : stage state ≤ 2 ∧ (stage state = 2 ↔ state = some 2) := by
  unfold stage
  split <;> simp_all

theorem unknowStage_last (state : Option Nat) : unknowStage state ≤ 3 ∧ (unknowStage state = 3 ↔ state = some 4) := by
  unfold unknowStage
  split <;> simp_all

theorem UidType.rank_le (type : UidType) (state : Option Nat) : type.rank state ≤ type.last := by
  unfold UidType.rank UidType.last
  split
  · exact (unknowStage_last state).1
  · exact (stage_last state).1

/-- A building is in its last state when it is as far as its type gets. -/
theorem checkFinalState_iff {number : Option Nat} {known : UidType} (type : number.bind UidType.ofNumber = some known)
    (state : Option Nat) : checkFinalState number state = true ↔ known.rank state = known.last := by
  unfold checkFinalState
  rw [type]
  cases known with
  | unknow => exact decide_eq_true_iff.trans (unknowStage_last state).2.symm
  | _ => exact decide_eq_true_iff.trans (stage_last state).2.symm

/-- The state is the same, or a later one. -/
def Forward (type : Option UidType) (old new : Option Nat) : Prop :=
  new = old ∨ ∃ known, type = some known ∧ known.rank old < known.rank new

theorem Forward.refl (type : Option UidType) (state : Option Nat) : Forward type state state := .inl rfl

theorem Forward.trans {type : Option UidType} {first second third : Option Nat} (before : Forward type first second)
    (after : Forward type second third) : Forward type first third := by
  rcases before with rfl | ⟨known, rfl, low⟩
  · exact after
  · rcases after with rfl | ⟨known', same, high⟩
    · exact .inr ⟨known, rfl, low⟩
    · obtain rfl := Option.some.inj same
      exact .inr ⟨known, rfl, low.trans high⟩

/-- A state that has been left does not come back. -/
theorem Forward.antisymm {type : Option UidType} {first second : Option Nat} (there : Forward type first second)
    (back : Forward type second first) : second = first := by
  rcases there with same | ⟨known, rfl, low⟩
  · exact same
  · rcases back with same | ⟨known', same, high⟩
    · exact same.symm
    · obtain rfl := Option.some.inj same
      omega

theorem Moves.forward {gave : Bool} (moves : Moves won type old new gave) : Forward (some type) old (some new) := by
  cases moves with
  | watchTower =>
    have bound := stage_last old
    by_cases picked : stage old = 2
    · exact .inl (bound.2.mp picked).symm
    · exact .inr ⟨_, rfl, lt_of_le_of_ne bound.1 picked⟩
  | npcAgain => exact .inl rfl
  | _ => exact .inr ⟨_, rfl, by decide⟩

/-- A reward comes with the step to the last state. -/
theorem Moves.paid (moves : Moves won type old new true) {element : Element}
    (known : element.type.bind UidType.ofNumber = some type) :
    checkFinalState element.type old = false ∧ checkFinalState element.type (some new) = true := by
  unfold checkFinalState
  rw [known]
  cases moves <;> exact ⟨rfl, rfl⟩

/-- The last state of a type is not left. -/
theorem Forward.final {number : Option Nat} {state : Option Nat} (forward : Forward (number.bind UidType.ofNumber) old state)
    (final : checkFinalState number old = true) : checkFinalState number state = true := by
  rcases forward with same | ⟨known, type, high⟩
  · rwa [same]
  · have top := (checkFinalState_iff type old).mp final
    have bound := known.rank_le state
    omega

/-! ### Records -/

/-- The building of this id on a node. -/
def elementAt (cfg : MapConfig) (n u : String) : Option Element :=
  (cfg.node n).bind fun row => checkUidPos cfg row.resourceID u

def typeAt (cfg : MapConfig) (n u : String) : Option UidType :=
  ((elementAt cfg n u).bind (·.type)).bind UidType.ofNumber

/-- The state of the building, its first one where none is stored. -/
def stateAt (cfg : MapConfig) (n u : String) (node : MapNode) : Option Nat :=
  match elementAt cfg n u with
  | some element => uidStateOf element u node.uidList
  | none => node.uidList.get? u

/-- A building that pays no more. -/
def finalAt (cfg : MapConfig) (n u : String) (node : MapNode) : Bool :=
  checkFinalState ((elementAt cfg n u).bind (·.type)) (stateAt cfg n u node)

/-- The record goes on: its buildings have gone forward, and what was reached is kept. -/
structure Continues (cfg : MapConfig) (n : String) (node node' : MapNode) : Prop where
  states : ∀ u, Forward (typeAt cfg n u) (stateAt cfg n u node) (stateAt cfg n u node')
  sign : ∀ k, node.sign.has k = true → node'.sign.has k = true
  pass : node.pass = true → node'.pass = true
  ap : node.ap ≤ node'.ap

theorem Continues.refl (cfg : MapConfig) (n : String) (node : MapNode) : Continues cfg n node node :=
  ⟨fun _ => Forward.refl _ _, fun _ there => there, fun passed => passed, le_refl _⟩

theorem Continues.trans {first second third : MapNode} (before : Continues cfg n first second)
    (after : Continues cfg n second third) : Continues cfg n first third where
  states u := (before.states u).trans (after.states u)
  sign k there := after.sign k (before.sign k there)
  pass passed := after.pass (before.pass passed)
  ap := before.ap.trans after.ap

theorem Continues.final {node node' : MapNode} (continues : Continues cfg n node node') (final : finalAt cfg n u node = true) :
    finalAt cfg n u node' = true := (continues.states u).final final

/-- The states that are read of two records with the same list are the same. -/
theorem stateAt_congr {node node' : MapNode} (same : node'.uidList.get? u = node.uidList.get? u) :
    stateAt cfg n u node' = stateAt cfg n u node := by
  unfold stateAt uidStateOf
  rw [same]

theorem Touched.others {uid : String} {state : Nat} {node node' : MapNode} (touched : Touched node uid state node') (other : u ≠ uid) :
    stateAt cfg n u node' = stateAt cfg n u node := stateAt_congr (by rw [touched.list, if_neg other])

/-- A mark on a record that has been passed changes nothing else. -/
theorem Counted.node_continues {row : WorldMapRow} {uid : Sent} {map : GlobalMapInfo} {entry : OpenNode} {info : MapInfoRow}
    {click : Processed} {left : GlobalMapInfo × Processed} (counted : Counted cfg n row uid map entry info click left) :
    left.2.node.uidList = click.node.uidList ∧ Continues cfg n click.node left.2.node := by
  cases counted with
  | goesOn _ _ node =>
    rw [node]
    exact ⟨rfl, Continues.refl cfg n _⟩
  | passes _ _ _ node =>
    rw [node]
    exact ⟨rfl, fun _ => .inl rfl, fun _ there => there, fun _ => rfl, le_refl _⟩

section
variable {draws : Draws} {uid : Sent} {map : GlobalMapInfo} {node : MapNode} {row : WorldMapRow} {element : Element}
  {click : Processed} {entry : OpenNode} {info : MapInfoRow} {left : GlobalMapInfo × Processed}

theorem Explored.elementAt_eq (explored : Explored cfg draws n map node uid row element type click entry info left) :
    elementAt cfg n uid.name = some element := by
  rw [elementAt, explored.found, Option.bind_some, explored.there]

theorem Explored.stateAt_eq (explored : Explored cfg draws n map node uid row element type click entry info left) (node' : MapNode) :
    stateAt cfg n uid.name node' = uidStateOf element uid.name node'.uidList := by
  rw [stateAt, explored.elementAt_eq]

theorem Explored.finalAt_eq (explored : Explored cfg draws n map node uid row element type click entry info left) (node' : MapNode) :
    finalAt cfg n uid.name node' = checkFinalState element.type (uidStateOf element uid.name node'.uidList) := by
  rw [finalAt, explored.stateAt_eq, explored.elementAt_eq, Option.bind_some]

theorem Explored.typeAt_eq (explored : Explored cfg draws n map node uid row element type click entry info left) :
    typeAt cfg n uid.name = some type := by
  rw [typeAt, explored.elementAt_eq, Option.bind_some, explored.known]

theorem Explored.click_continues (explored : Explored cfg draws n map node uid row element type click entry info left) :
    Continues cfg n node click.node := by
  cases explored.clicks with
  | refused code same =>
    have ok := explored.ok
    rw [same] at ok
    cases ok
  | stays _ same =>
    rw [same]
    exact Continues.refl cfg n node
  | moves state _ touched moves =>
    refine ⟨fun u => ?_, touched.sign, fun passed => touched.pass.trans passed, touched.ap.ge⟩
    by_cases own : u = uid.name
    · subst own
      rw [explored.typeAt_eq, explored.stateAt_eq, explored.stateAt_eq, touched.written]
      exact moves.forward
    · exact .inl (touched.others own)

theorem Explored.continues (explored : Explored cfg draws n map node uid row element type click entry info left) :
    Continues cfg n node left.2.node := explored.click_continues.trans explored.counted.node_continues.2

/-- A click that pays takes its building to the last state. -/
theorem Explored.paid (explored : Explored cfg draws n map node uid row element type click entry info left)
    (gave : left.2.gave = true) :
    finalAt cfg n uid.name node = false ∧ finalAt cfg n uid.name left.2.node = true := by
  have stored : stateAt cfg n uid.name left.2.node = stateAt cfg n uid.name click.node :=
    stateAt_congr (congrArg (·.get? uid.name) explored.counted.node_continues.1)
  have final : finalAt cfg n uid.name left.2.node = finalAt cfg n uid.name click.node := by
    unfold finalAt
    rw [stored]
  rw [final, explored.finalAt_eq, explored.finalAt_eq]
  rw [explored.gave] at gave
  cases explored.clicks with
  | refused code same =>
    rw [same] at gave
    cases gave
  | stays _ _ none =>
    rw [none] at gave
    cases gave
  | moves state _ touched moves =>
    rw [gave] at moves
    rw [touched.written]
    exact moves.paid explored.known

end

/-! ### Runs -/

/-- A player, and the buildings whose rewards he has been given, each time with its node. -/
abbrev Paid := Player × List (String × String)

def payStep (cfg : MapConfig) (state : Paid) (click : Click) : Paid :=
  (state.1.serve cfg click.call, state.2 ++ click.paid cfg state.1)

/-- Every record goes on. -/
def Onward (cfg : MapConfig) (player player' : Player) : Prop :=
  ∀ n node, player.nodes.get? n = some (.map node) →
    ∃ node', player'.nodes.get? n = some (.map node') ∧ Continues cfg n node node'

theorem Onward.refl (cfg : MapConfig) (player : Player) : Onward cfg player player :=
  fun n node record => ⟨node, record, Continues.refl cfg n node⟩

theorem Onward.trans {first second third : Player} (before : Onward cfg first second) (after : Onward cfg second third) :
    Onward cfg first third := by
  intro n node record
  obtain ⟨node', record', on⟩ := before n node record
  obtain ⟨node'', record'', further⟩ := after n node' record'
  exact ⟨node'', record'', on.trans further⟩

/-- A record that is written goes on, and the others stay. -/
theorem onward_set {node node' : MapNode} {map : GlobalMapInfo} (record : player.nodes.get? n = some (.map node))
    (continues : Continues cfg n node node') : Onward cfg player ⟨map, player.nodes.set n (.map node')⟩ := by
  intro m other there
  by_cases here : m = n
  · subst here
    obtain rfl := NodeInfo.map.inj (Option.some.inj (record.symm.trans there))
    exact ⟨node', Obj.get?_set_self _ _ _, continues⟩
  · exact ⟨other, (Obj.get?_set_of_ne _ _ here).trans there, Continues.refl cfg m other⟩

theorem click_onward (cfg : MapConfig) (player : Player) (click : Click) : Onward cfg player (player.serve cfg click.call) := by
  rcases serve_click cfg player click with ⟨same, -⟩ | ⟨node, row, element, type, processed, entry, info, left, stored⟩
  · rw [same]
    exact Onward.refl cfg player
  · rw [stored.stored]
    exact onward_set stored.record stored.explored.continues

theorem run_onward (cfg : MapConfig) (state : Paid) (clicks : List Click) :
    Onward cfg state.1 (run (payStep cfg) state clicks).1 := by
  refine run_keeps (fun later : Paid => Onward cfg state.1 later.1) ?_ (Onward.refl cfg state.1) clicks
  exact fun later click onward => onward.trans (click_onward cfg later.1 click)

/-- The building is in its last state. -/
def Player.finished (cfg : MapConfig) (player : Player) (building : String × String) : Bool :=
  match player.nodes.get? building.1 with
  | some (.map node) => finalAt cfg building.1 building.2 node
  | _ => false

theorem Onward.finished {player' : Player} {building : String × String} (onward : Onward cfg player player')
    (finished : player.finished cfg building = true) : player'.finished cfg building = true := by
  unfold Player.finished at finished
  split at finished
  · rename_i node record
    obtain ⟨node', record', continues⟩ := onward building.1 node record
    rw [Player.finished, record']
    exact continues.final finished
  · cases finished

/-- A building has paid at most once, and then it is in its last state. -/
def PaidOnce (cfg : MapConfig) (state : Paid) : Prop :=
  ∀ building, state.2.count building ≤ (state.1.finished cfg building).toNat

theorem payStep_paidOnce {state : Paid} (once : PaidOnce cfg state) (click : Click) : PaidOnce cfg (payStep cfg state click) := by
  intro building
  have onward := click_onward cfg state.1 click
  have kept : state.2.count building ≤ ((state.1.serve cfg click.call).finished cfg building).toNat := by
    refine (once building).trans ?_
    cases finished : state.1.finished cfg building with
    | false => exact Nat.zero_le _
    | true => rw [onward.finished finished]
  show (state.2 ++ click.paid cfg state.1).count building ≤ ((state.1.serve cfg click.call).finished cfg building).toNat
  rw [List.count_append]
  rcases serve_click cfg state.1 click with ⟨-, none⟩ | ⟨node, row, element, type, processed, entry, info, left, stored⟩
  · rw [none, List.count_nil]
    exact kept
  · rw [stored.paid]
    split
    · rename_i gave
      by_cases own : building = (click.nodeid.name, click.uid.name)
      · obtain ⟨before, after⟩ := stored.explored.paid gave
        have unpaid := once building
        rw [own, Player.finished, stored.record] at unpaid
        dsimp only at unpaid
        rw [before] at unpaid
        have now : (state.1.serve cfg click.call).finished cfg building = true := by
          rw [own, stored.stored, Player.finished]
          dsimp only
          rw [Obj.get?_set_self]
          exact after
        rw [now, own, List.count_singleton_self]
        exact Nat.succ_le_succ unpaid
      · rw [List.count_singleton, beq_eq_false_iff_ne.mpr (Ne.symm own)]
        exact kept
    · rw [List.count_nil]
      exact kept

/-- What a run of clicks leaves behind. -/
def clicked (cfg : MapConfig) (player : Player) (clicks : List Click) : Paid := run (payStep cfg) (player, []) clicks

/-- In every run of clicks a building's state only goes forward, its reward is stored with at most one of them, and
a click that is refused leaves the record alone. -/
theorem buildings_forward_pay_once (cfg : MapConfig) (player : Player) (first later : List Click) :
    (∀ n node, (clicked cfg player first).1.nodes.get? n = some (.map node) →
      ∃ node', (clicked cfg player (first ++ later)).1.nodes.get? n = some (.map node') ∧
        ∀ u, Forward (typeAt cfg n u) (stateAt cfg n u node) (stateAt cfg n u node')) ∧
    (∀ building, (clicked cfg player (first ++ later)).2.count building ≤ 1) ∧
    ∀ (click : Click) (done : Outcome) (code : Nat), click.outcome cfg (clicked cfg player first).1 = some done →
      done.retCode = some code →
        done.data.nodeInfo = (clicked cfg player first).1.nodes.get? (click.field (clicked cfg player first).1) ∧
        (clicked cfg player first).1.serve cfg click.call = (clicked cfg player first).1 := by
  refine ⟨fun n node record => ?_, fun building => ?_, fun click done code outcome failed => ?_⟩
  · rw [clicked, run_append]
    obtain ⟨node', record', continues⟩ := run_onward cfg _ later n node record
    exact ⟨node', record', continues.states⟩
  · have start : PaidOnce cfg (player, []) := fun building => Nat.zero_le _
    have once := run_keeps (PaidOnce cfg) (fun _ click once => payStep_paidOnce once click) start (first ++ later)
    exact (once building).trans (Bool.toNat_le _)
  · cases changeState_done outcome with
    | refused other same unsaved =>
      refine ⟨congrArg (·.data.nodeInfo) same, ?_⟩
      have lost : saves done.retCode = false := by rw [same]; exact unsaved
      show Player.save _ _ (click.outcome cfg _) = _
      rw [outcome, Player.save]
      simp [lost]
    | counted _ _ _ _ _ _ _ _ _ _ _ same =>
      rw [same] at failed
      cases failed

end Tinygame.Map
