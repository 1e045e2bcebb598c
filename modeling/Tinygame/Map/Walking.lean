import Tinygame.Map.MapImp

/-!
# Walks on a map

A walk should take the player over free cells of the map, as far as the path has them, at a step each. The cell is looked
up by one number made of both coordinates, as the client has sent them.
-/

namespace Tinygame.Map

/-! ### The cells of a map -/

/-- The obstacle layer is an array with a value for each cell of its rows. -/
structure MapFile.Grid (file : MapFile) (height : Nat) : Prop where
  width : 0 ≤ file.width
  full : ∀ name, file.data.has name = true ↔ ∃ place : Nat, place < file.width * height ∧ name = toString place
  short : file.width * height < 2 ^ 32

/-- A cell of the map without an obstacle. -/
inductive MapFile.Free (file : MapFile) (height : Nat) : PathCell → Prop
  | cell (x y : Nat) (column : x < file.width) (row : y < height) (ground : file.data.get? (toString (x + y * file.width)) = some 0) :
      Free file height (.pos (.whole x) (.whole y))

/-- The first cells of a path that are free, up to one that is not. -/
structure Longest (file : MapFile) (height : Nat) (path steps : List PathCell) : Prop where
  first : steps <+: path
  free : ∀ cell ∈ steps, file.Free height cell
  ends : ∀ cell, steps ++ [cell] <+: path → ¬ file.Free height cell

/-- The player stays where he is, or has gone over the cells at a step each, and stands on the last of them. -/
def Moved (file : MapFile) (height : Nat) (path : List PathCell) (node node' : MapNode) : Prop :=
  (node'.x = node.x ∧ node'.y = node.y ∧ node'.ap = node.ap) ∨
    ∃ steps, Longest file height path steps ∧ node'.ap = node.ap + steps.length ∧
      steps.getLast?.elim (node'.x = node.x ∧ node'.y = node.y) (· = .pos node'.x node'.y)

/-- What is stored of a map node afterwards. -/
def OnMap (file : MapFile) (height : Nat) (path : List PathCell) (before after : Option NodeInfo) : Prop :=
  ∀ node, before = some (.map node) → ∃ node', after = some (.map node') ∧ Moved file height path node node'

/-! ### What the walk takes -/

def MapFile.taken (file : MapFile) : PathCell → Bool
  | .pos x y => file.takes x y = some true
  | .other | .null => false

/-- What cannot be asked for its members, or has no text. -/
def MapFile.throws (file : MapFile) : PathCell → Bool
  | .pos x y => file.takes x y = none
  | .other => false
  | .null => true

def MapNode.step (node : MapNode) : PathCell → MapNode
  | .pos x y => { node with x, y, ap := node.ap + 1 }
  | .other | .null => node

/-- Nothing but free cells is taken, or the walk fails and nothing is stored. -/
def MapFile.Unmistaken (file : MapFile) (height : Nat) (path : List PathCell) : Prop :=
  (∀ cell ∈ path.takeWhile file.taken, file.Free height cell) ∨ (path.dropWhile file.taken).head?.any file.throws = true

/-- The request comes to the walk: nothing that is looked at before speaks against it. -/
structure SetsOut (cfg : MapConfig) (nodeid uid : Sent) (inside : Bool) (path : Option (List PathCell)) (row : WorldMapRow)
    (file : MapFile) (data : DataValue) (cells : List PathCell) (node : MapNode) : Prop where
  path : path = some cells
  started : cells ≠ []
  here : data.mapInfo.curNode.same nodeid = true
  record : data.nodeInfo = some (.map node)
  type : row.type2 = NodeType.map
  info : (cfg.map row.resourceID).isSome = true
  near : inside = true → ∃ element start, file.element.get? uid.name = some element ∧ cells.head? = some start ∧
    checkPathUID cfg element node.x node.y start = some true

variable {file : MapFile} {height : Nat} {path steps : List PathCell} {cell : PathCell} {node node' : MapNode}

theorem taken_of_free (grid : file.Grid height) (free : file.Free height cell) : file.taken cell = true := by
  obtain ⟨x, y, column, row, ground⟩ := free
  have first : (y : Int) * file.width < file.width * height := by
    rw [mul_comm]
    exact mul_lt_mul_of_pos_left (by exact_mod_cast row) (by omega)
  have low : 0 ≤ (y : Int) * file.width := mul_nonneg (by omega) grid.width
  have place : (x + y * file.width : Int) < 2 ^ 32 := by
    have more : (y + 1 : Int) * file.width ≤ height * file.width := mul_le_mul_of_nonneg_right (by omega) grid.width
    have short := grid.short
    rw [add_mul, one_mul] at more
    rw [mul_comm] at short
    omega
  have short := grid.short
  have name : placeOf (.whole x) (.whole y) file.width = some (some (toString (x + y * file.width : Int))) := by
    show some (Double.digits? (.whole x + .whole y * .whole file.width)) = _
    rw [Double.whole_mul (by omega), Double.whole_add (by omega), Double.digits_whole (by omega)]
  show decide (((placeOf (.whole x) (.whole y) file.width).map fun place => decide
    ((place.bind file.data.get?) = some 0)) = some true) = true
  rw [name, Option.map_some, Option.bind_some, ground]
  rfl

/-! ### The loop -/

/-- The walk goes as far as it takes cells, unless what comes then throws. -/
theorem walk_eq (file : MapFile) (path : List PathCell) (node : MapNode) :
    walk (some file) path node = if (path.dropWhile file.taken).head?.any file.throws then none
      else some ((path.takeWhile file.taken).foldl MapNode.step node) := by
  induction path generalizing node with
  | nil => rfl
  | cons cell rest ih =>
    cases cell with
    | other => rfl
    | null => rfl
    | pos x y =>
      show ((file.takes x y).bind fun free => if free then walk (some file) rest _ else some node) = _
      cases free : file.takes x y with
      | none =>
        have refused : file.taken (.pos x y) = false := by simp [MapFile.taken, free]
        have failed : file.throws (.pos x y) = true := by simp [MapFile.throws, free]
        rw [List.dropWhile_cons_of_neg (by simp [refused]), List.head?_cons, Option.any_some, if_pos failed]
        rfl
      | some free' =>
        have passed : file.throws (.pos x y) = false := by simp [MapFile.throws, free]
        cases free' with
        | true =>
          have taken : file.taken (.pos x y) = true := by simp [MapFile.taken, free]
          rw [List.dropWhile_cons_of_pos taken, List.takeWhile_cons_of_pos taken, List.foldl_cons]
          exact ih _
        | false =>
          have refused : file.taken (.pos x y) = false := by simp [MapFile.taken, free]
          rw [List.dropWhile_cons_of_neg (by simp [refused]), List.takeWhile_cons_of_neg (by simp [refused]),
            List.head?_cons, Option.any_some, if_neg (by simp [passed])]
          rfl

theorem pos_of_taken (taken : file.taken cell = true) : ∃ x y, cell = .pos x y := by
  cases cell with
  | pos x y => exact ⟨x, y, rfl⟩
  | other => cases taken
  | null => cases taken

/-- Over cells the player goes to the last, at a step each. -/
theorem foldl_step (cells : ∀ cell ∈ steps, ∃ x y, cell = .pos x y) (node : MapNode) :
    (steps.foldl MapNode.step node).ap = node.ap + steps.length ∧
      steps.getLast?.elim ((steps.foldl MapNode.step node).x = node.x ∧ (steps.foldl MapNode.step node).y = node.y)
        (· = .pos (steps.foldl MapNode.step node).x (steps.foldl MapNode.step node).y) := by
  induction steps using List.reverseRecOn with
  | nil => exact ⟨(Int.add_zero _).symm, rfl, rfl⟩
  | append_singleton front last ih =>
    obtain ⟨x, y, rfl⟩ := cells last (by simp)
    obtain ⟨far, -⟩ := ih fun cell member => cells cell (List.mem_append_left _ member)
    rw [List.foldl_append, List.getLast?_concat]
    refine ⟨?_, rfl⟩
    show (front.foldl MapNode.step node).ap + 1 = _
    rw [far, List.length_append, List.length_singleton]
    push_cast
    ring

variable (file path) in
theorem steps_taken : ∀ cell ∈ path.takeWhile file.taken, ∃ x y, cell = .pos x y :=
  fun _ member => pos_of_taken (List.all_eq_true.mp List.all_takeWhile _ member)

/-- Where only free cells are taken, they are all that can be walked. -/
theorem longest_taken (grid : file.Grid height) (free : ∀ cell ∈ path.takeWhile file.taken, file.Free height cell) :
    Longest file height path (path.takeWhile file.taken) := by
  refine ⟨List.takeWhile_prefix _, free, fun cell more freeCell => ?_⟩
  have next : [cell] <+: path.dropWhile file.taken := by
    refine (List.prefix_append_right_inj (path.takeWhile file.taken)).mp ?_
    rw [List.takeWhile_append_dropWhile]
    exact more
  obtain ⟨rest, left⟩ := next
  have refused := List.head?_dropWhile_not file.taken path
  rw [← left, List.singleton_append, List.head?_cons] at refused
  cases (taken_of_free grid freeCell).symm.trans refused

/-- Two walks of one length have the same cells. -/
theorem Longest.eq_of_length (longest : Longest file height path steps) {taken : List PathCell} (first : taken <+: path)
    (length : steps.length = taken.length) : steps = taken := by
  rw [List.prefix_iff_eq_take.mp longest.first, List.prefix_iff_eq_take.mp first, length]

variable (path) in
/-- A walk is right exactly when it mistakes no cell for another, or fails and is not stored. -/
theorem walk_onMap_iff (grid : file.Grid height) (node : MapNode) :
    (∀ walked, walk (some file) path node = some walked → Moved file height path node walked) ↔ file.Unmistaken height path := by
  rw [walk_eq]
  unfold MapFile.Unmistaken
  by_cases failed : (path.dropWhile file.taken).head?.any file.throws = true
  · rw [if_pos failed]
    exact ⟨fun _ => .inr failed, fun _ _ walking => (nomatch walking)⟩
  · rw [if_neg failed, or_iff_left failed]
    obtain ⟨far, last⟩ := foldl_step (steps_taken file path) node
    constructor
    · intro right
      rcases right _ rfl with ⟨-, -, still⟩ | ⟨steps, longest, far', -⟩
      · have none' : path.takeWhile file.taken = [] := List.eq_nil_of_length_eq_zero (by omega)
        rw [none']
        exact fun cell member => absurd member List.not_mem_nil
      · obtain rfl := longest.eq_of_length (List.takeWhile_prefix file.taken) (by omega)
        exact longest.free
    · rintro free walked walking
      obtain rfl := Option.some.inj walking
      exact .inr ⟨_, longest_taken grid free, far, last⟩

/-! ### The request -/

variable {cfg : MapConfig} {nodeid uid : Sent} {inside : Bool} {sent : Option (List PathCell)} {row : WorldMapRow} {data : DataValue}

variable (uid inside sent data) in
/-- The request comes to the walk, or leaves what was read as it was. -/
theorem walkPath_cases (found : cfg.node nodeid.name = some row) (read : cfg.file row.resourceID = some file) :
    (∃ cells node, SetsOut cfg nodeid uid inside sent row file data cells node ∧ walkPath cfg nodeid uid inside sent data =
      (walk (some file) cells node).map fun node => { data := { data with nodeInfo := some (.map node) } }) ∨
    ((∀ cells node, ¬ SetsOut cfg nodeid uid inside sent row file data cells node) ∧
      ∀ done, walkPath cfg nodeid uid inside sent data = some done → done.data = data) := by
  have refused {code : Nat} : ∀ done, some (fails data code) = some done → done.data = data := by
    intro done run
    obtain rfl := Option.some.inj run
    rfl
  have thrown : ∀ done : Outcome, none = some done → done.data = data := fun _ run => (nomatch run)
  unfold walkPath
  split
  · exact .inr ⟨fun _ _ out => (nomatch out.path), refused⟩
  · exact .inr ⟨fun _ _ out => out.started (Option.some.inj out.path).symm, refused⟩
  · rename_i start rest
    split
    · rename_i elsewhere
      exact .inr ⟨fun _ _ out => (nomatch elsewhere.symm.trans out.here), refused⟩
    · rename_i here
      split
      · rename_i missing
        exact .inr ⟨fun _ _ out => (nomatch missing.symm.trans out.record), refused⟩
      · rename_i afk
        refine .inr ⟨fun _ _ out => (nomatch afk.symm.trans out.record), fun done run => ?_⟩
        obtain rfl := Option.some.inj run
        rfl
      · rename_i node record
        rw [found, Option.bind_some]
        split
        · rename_i other
          exact .inr ⟨fun _ _ out => other out.type, refused⟩
        · rename_i type
          cases info : cfg.map row.resourceID with
          | none =>
            refine .inr ⟨fun _ _ out => ?_, by rw [Option.bind_none]; exact thrown⟩
            have given := out.info
            rw [info] at given
            cases given
          | some _ =>
            rw [Option.bind_some, read]
            have cells_eq {cells : List PathCell} {node' : MapNode}
                (out : SetsOut cfg nodeid uid inside (some (start :: rest)) row file data cells node') : cells =
                  start :: rest ∧ node' = node :=
              ⟨(Option.some.inj out.path).symm, NodeInfo.map.inj (Option.some.inj (out.record.symm.trans record))⟩
            have setsOut (near : inside = true → ∃ element start', file.element.get? uid.name = some element ∧
                (start :: rest).head? = some start' ∧ checkPathUID cfg element node.x node.y start' = some true) :
                SetsOut cfg nodeid uid inside (some (start :: rest)) row file data (start :: rest) node :=
              ⟨rfl, List.cons_ne_nil start rest, Bool.eq_true_of_not_eq_false here, record, not_ne_iff.mp type, by rw [info]; rfl, near⟩
            dsimp only
            split
            · rename_i within
              rw [Option.bind_some]
              cases building : file.element.get? uid.name with
              | none =>
                refine .inr ⟨fun _ _ out => ?_, refused⟩
                obtain ⟨_, _, known, -⟩ := out.near within
                cases building.symm.trans known
              | some element =>
                have gate {cells : List PathCell} {node' : MapNode}
                    (out : SetsOut cfg nodeid uid inside (some (start :: rest)) row file data cells node') :
                    checkPathUID cfg element node.x node.y start = some true := by
                  obtain ⟨other, start', known, first, near⟩ := out.near within
                  obtain ⟨rfl, rfl⟩ := cells_eq out
                  obtain rfl := Option.some.inj (building.symm.trans known)
                  obtain rfl := Option.some.inj first
                  exact near
                dsimp only
                cases near : checkPathUID cfg element node.x node.y start with
                | none =>
                  rw [Option.bind_none]
                  exact .inr ⟨fun _ _ out => (nomatch near.symm.trans (gate out)), thrown⟩
                | some close =>
                  rw [Option.bind_some]
                  cases close with
                  | false => exact .inr ⟨fun _ _ out => (nomatch near.symm.trans (gate out)), refused⟩
                  | true => exact .inl ⟨_, node, setsOut fun _ => ⟨element, start, building, rfl, near⟩, rfl⟩
            · rename_i outside
              exact .inl ⟨_, node, setsOut fun within => absurd within outside, rfl⟩

/-- Where the handler leaves what was read as it was, so does the request. -/
theorem get?_save {player : Player} {field : String} {outcome : Option Outcome}
    (kept : ∀ done, outcome = some done → done.data = player.read field) :
    (player.save field outcome).nodes.get? field = player.nodes.get? field := by
  rcases player.save_cases field outcome with same | ⟨done, ran, -, same⟩
  · rw [same]
  · have record : done.data.nodeInfo = player.nodes.get? field := congrArg DataValue.nodeInfo (kept done ran)
    rw [same]
    show (written player.nodes field done.data.nodeInfo).get? field = _
    cases stored : done.data.nodeInfo with
    | none => rfl
    | some info => exact (Obj.get?_set_self ..).trans (stored.symm.trans record)

/-- A walk request leaves the player on the map exactly when no cell it comes to is mistaken for another. -/
theorem walk_stays_on_map (found : cfg.node nodeid.name = some row) (read : cfg.file row.resourceID = some file)
    (grid : file.Grid height) (player : Player) (now level : Int) :
    let field := fieldOrCurNode nodeid player.mapInfo
    OnMap file height (sent.getD []) (player.nodes.get? field)
        ((player.serve cfg ⟨now, level, .walkPath nodeid uid inside sent⟩).nodes.get? field) ↔
      ∀ cells node, SetsOut cfg nodeid uid inside sent row file (player.read field) cells node → file.Unmistaken height cells := by
  intro field
  show OnMap file height _ _ ((player.save field (Map.walkPath cfg nodeid uid inside sent (player.read field))).nodes.get? field) ↔ _
  rcases walkPath_cases uid inside sent (player.read field) found read with
    ⟨cells, node, out, run⟩ | ⟨stays, same⟩
  · have record : player.nodes.get? field = some (.map node) := out.record
    have only {cells' : List PathCell} {node' : MapNode}
        (again : SetsOut cfg nodeid uid inside sent row file (player.read field) cells' node') : cells' = cells :=
      Option.some.inj (again.path.symm.trans out.path)
    have given : sent.getD [] = cells := by rw [out.path, Option.getD_some]
    rw [run, given]
    have right := walk_onMap_iff cells grid node
    constructor
    · intro stays cells' node' again
      obtain rfl := only again
      refine right.mp fun walked walking => ?_
      obtain ⟨node', stored, moved⟩ := stays node record
      rw [walking] at stored
      obtain rfl := NodeInfo.map.inj (Option.some.inj ((Obj.get?_set_self ..).symm.trans stored))
      exact moved
    · intro right' node' here
      obtain rfl := NodeInfo.map.inj (Option.some.inj (record.symm.trans here))
      cases walking : walk (some file) cells node with
      | none => exact ⟨node, record, .inl ⟨rfl, rfl, rfl⟩⟩
      | some walked => exact ⟨walked, Obj.get?_set_self .., right.mpr (right' cells node out) walked walking⟩
  · refine ⟨fun _ cells node out => absurd out (stays cells node), fun _ node here => ⟨node, ?_, .inl ⟨rfl, rfl, rfl⟩⟩⟩
    rw [get?_save same, here]

/-- Two rows of two cells without an obstacle. -/
def meadow : MapFile where
  element := ∅
  width := 2
  data := ((((∅ : Obj Int).set "0" 0).set "1" 0).set "2" 0).set "3" 0

def meadowConfig : MapConfig := { firstConfig with mapJson := (∅ : Obj MapFile).set "01.json" meadow }

/-- A player in its first cell. -/
def stroller : Player where
  mapInfo := ⟨.ofNat 101102, .ofNat DEFAULT_NODE, .ofNat DEFAULT_NODE, ∅, ∅⟩
  nodes := (∅ : Obj NodeInfo).set "101102" (.map { x := .whole 0, y := .whole 0 })

theorem meadow_grid : meadow.Grid 2 := by
  refine ⟨by decide, fun name => ?_, by decide⟩
  have size : meadow.width * (2 : Nat) = 4 := rfl
  rw [← Obj.mem_keys_iff_has, show meadow.data.keys = (List.range 4).map toString by decide +kernel, List.mem_map, size]
  constructor
  · rintro ⟨place, small, rfl⟩
    exact ⟨place, by exact_mod_cast List.mem_range.mp small, rfl⟩
  · rintro ⟨place, small, rfl⟩
    exact ⟨place, List.mem_range.mpr (by exact_mod_cast small), rfl⟩

theorem meadow_row : meadowConfig.node (Sent.ofNat 101102).name = some ⟨1, 1, 1, .node 101203, 5, 10⟩ := by decide +kernel

theorem meadow_file : meadowConfig.file 1 = some meadow := rfl

/-- A step to the last cell. -/
theorem walk_stays_on_map_last :
    OnMap meadow 2 [.pos (.whole 1) (.whole 1)] (stroller.nodes.get? "101102")
      ((stroller.serve meadowConfig ⟨0, 1, .walkPath (.ofNat 101102) .undefined false (some [.pos (.whole 1) (.whole 1)])⟩).nodes.get?
        "101102") := by
  refine (@walk_stays_on_map meadow 2 meadowConfig (.ofNat 101102) .undefined false
    (some [.pos (.whole 1) (.whole 1)]) _ meadow_row meadow_file
    meadow_grid stroller 0 1).mpr fun cells node out => .inl fun cell member => ?_
  have sent := (List.takeWhile_subset _ member)
  rw [← Option.some.inj out.path, List.mem_singleton] at sent
  rw [sent]
  exact .cell 1 1 (by decide) (by decide) (by decide +kernel)

/-- The cell to the right of the first row is taken for the first of the second. -/
theorem walk_leaves_map :
    ¬ OnMap meadow 2 [.pos (.whole 2) (.whole 0)] (stroller.nodes.get? "101102")
      ((stroller.serve meadowConfig ⟨0, 1, .walkPath (.ofNat 101102) .undefined false (some [.pos (.whole 2) (.whole 0)])⟩).nodes.get?
        "101102") := by
  intro stays
  have mistaken : meadow.takes (.whole 2) (.whole 0) = some true := by decide +kernel
  have walking : walk (some meadow) [.pos (.whole 2) (.whole 0)] { x := .whole 0, y := .whole 0 } =
      some { x := .whole 2, y := .whole 0, ap := 1 } := by
    show ((meadow.takes (.whole 2) (.whole 0)).bind fun free => if free then _ else _) = _
    rw [mistaken]
    rfl
  obtain ⟨node', stored, moved⟩ := stays _ rfl
  have after : (stroller.save "101102" ((walk (some meadow) [.pos (.whole 2) (.whole 0)] { x := .whole 0, y := .whole 0 }).map
      fun node => { data := ⟨stroller.mapInfo, some (.map node)⟩ })).nodes.get? "101102" = some (.map node') := stored
  rw [walking] at after
  obtain rfl := NodeInfo.map.inj (Option.some.inj ((Obj.get?_set_self stroller.nodes ..).symm.trans after))
  rcases moved with ⟨-, -, still⟩ | ⟨steps, longest, far, -⟩
  · cases still
  · have length : steps.length = 1 := by
      have far : (1 : Int) = 0 + steps.length := far
      omega
    obtain rfl := longest.eq_of_length (List.prefix_refl _) length
    generalize cell : PathCell.pos (.whole 2) (.whole 0) = left at longest
    obtain ⟨x, y, column, -, -⟩ := longest.free left (List.mem_singleton_self _)
    have same : (2 : Int) = x := Coord.whole_inj (PathCell.pos.inj cell).1
    have column : (x : Int) < 2 := column
    omega

end Tinygame.Map
