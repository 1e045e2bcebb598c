import Mathlib.Data.Set.Basic
import Tinygame.Base.Rounding
import Tinygame.Map.MapImp

/-!
# Areas of buildings

A building takes the cells of a rectangle. `checkPosInArea` and `checkPosAroundArea` say whether a cell lies in it or
along one of its sides, and `checkPathUID` whether a way leads out of it. Here they are over whole cells; the requests
of `MapImp` ask them of whatever a client has sent.
-/

namespace Tinygame.Map.Areas

/-! ### What the areas are for -/

abbrev Cell := Int × Int

def rectangle (x y : Int) (area : Int × Int) : Set Cell :=
  {cell | (x ≤ cell.1 ∧ cell.1 < x + area.1) ∧ y ≤ cell.2 ∧ cell.2 < y + area.2}

def SharesEdge (a b : Cell) : Prop := (a.1 - b.1).natAbs + (a.2 - b.2).natAbs = 1

/-- The cells along the four sides. -/
def border (x y : Int) (area : Int × Int) : Set Cell :=
  {cell | cell ∉ rectangle x y area ∧ ∃ other ∈ rectangle x y area, SharesEdge cell other}

/-! ### What the code computes -/

def checkPosInArea (posX posY x y : Int) (area : Int × Int) : Bool :=
  x ≤ posX && posX < x + area.1 && (y ≤ posY && posY ≤ y + area.2)

def checkPosAroundArea (posX posY x y : Int) (area : Int × Int) : Bool :=
  (y ≤ posY && posY < y + area.2 && (x - posX = 1 || posX - x = area.1)) ||
    (x ≤ posX && posX < x + area.1 && (y - posY = 1 || posY - y = area.2))

/-- The area that the sheet of its type has for a building. -/
def areaOf (cfg : MapConfig) (element : Element) : Option (Int × Int) :=
  if element.name = "" ∨ element.type = some 0 then none
  else (element.type.bind fun type => cfg.elementType.get? (toString type)).bind (·.get? element.name)

def checkPathUID (cfg : MapConfig) (element : Element) (px py : Int) (start : Cell) : Bool :=
  match areaOf cfg element with
  | none => false
  | some area => checkPosInArea px py element.x element.y area &&
      checkPosAroundArea start.1 start.2 element.x element.y area

variable {px py x y : Int} {area : Int × Int}

theorem mem_rectangle : (px, py) ∈ rectangle x y area ↔ (x ≤ px ∧ px < x + area.1) ∧ y ≤ py ∧ py < y + area.2 :=
  Iff.rfl

theorem checkPosInArea_iff :
    checkPosInArea px py x y area = true ↔ (x ≤ px ∧ px < x + area.1) ∧ y ≤ py ∧ py ≤ y + area.2 := by
  simp [checkPosInArea]

theorem checkPosAroundArea_iff : checkPosAroundArea px py x y area = true ↔
    (y ≤ py ∧ py < y + area.2) ∧ (x - px = 1 ∨ px - x = area.1) ∨
      (x ≤ px ∧ px < x + area.1) ∧ (y - py = 1 ∨ py - y = area.2) := by
  simp [checkPosAroundArea]

/-- The row under the rectangle, which `<=` takes in. -/
def under (x y : Int) (area : Int × Int) : Set Cell := {cell | x ≤ cell.1 ∧ cell.1 < x + area.1 ∧ cell.2 = y + area.2}

variable (x y area) in
theorem inArea_iff (tall : 0 < area.2) (cell : Cell) :
    checkPosInArea cell.1 cell.2 x y area = true ↔ cell ∈ rectangle x y area ∨ cell ∈ under x y area := by
  obtain ⟨px, py⟩ := cell
  rw [checkPosInArea_iff, mem_rectangle]
  simp only [under, Set.mem_ofPred_eq]
  omega

/-- The four sides, each with the cell of the rectangle that is next to it. -/
theorem aroundArea_iff (wide : 0 < area.1) (tall : 0 < area.2) (cell : Cell) :
    checkPosAroundArea cell.1 cell.2 x y area = true ↔ cell ∈ border x y area := by
  obtain ⟨px, py⟩ := cell
  rw [checkPosAroundArea_iff]
  constructor
  · intro around
    constructor
    · rw [mem_rectangle]
      omega
    · obtain ⟨inRows, left | right⟩ | ⟨inColumns, above | below⟩ := around
      · exact ⟨(px + 1, py), mem_rectangle.mpr (by omega), by simp only [SharesEdge]; omega⟩
      · exact ⟨(px - 1, py), mem_rectangle.mpr (by omega), by simp only [SharesEdge]; omega⟩
      · exact ⟨(px, py + 1), mem_rectangle.mpr (by omega), by simp only [SharesEdge]; omega⟩
      · exact ⟨(px, py - 1), mem_rectangle.mpr (by omega), by simp only [SharesEdge]; omega⟩
  · intro ⟨outside, other, inside, near⟩
    rw [mem_rectangle] at outside inside
    simp only [SharesEdge] at near
    omega

theorem under_sub_border (tall : 0 < area.2) {cell : Cell} (below : cell ∈ under x y area) :
    cell ∈ border x y area := by
  obtain ⟨px, py⟩ := cell
  simp only [under, Set.mem_ofPred_eq] at below
  refine ⟨?_, (px, py - 1), mem_rectangle.mpr (by omega), by simp only [SharesEdge]; omega⟩
  rw [mem_rectangle]
  omega

theorem checkPathUID_iff {cfg : MapConfig} {element : Element} (known : areaOf cfg element = some area) {start : Cell} :
    checkPathUID cfg element px py start = true ↔
      checkPosInArea px py element.x element.y area = true ∧
        checkPosAroundArea start.1 start.2 element.x element.y area = true := by
  simp [checkPathUID, known]

/-! ### Cells as a client sends them -/

theorem within_whole {low size pos : Int} : within (.whole pos) low size = decide (low ≤ pos ∧ pos < low + size) := by
  rw [Bool.eq_iff_iff]
  simp [within, Double.upTo_whole, Double.below_whole]

/-- A difference that is rounded is one or the size only where it is so unrounded. -/
theorem beside_whole {low size pos : Int} (sized : size.natAbs < 2 ^ 53) :
    beside (.whole pos) low size = decide (low - pos = 1 ∨ pos - low = size) := by
  have one : (1 : Int).natAbs < 2 ^ 53 := by decide
  simp only [beside, Double.whole_sub, Double.round_eq_whole one, Double.round_eq_whole sized]

theorem checkPosInArea_whole (px py : Int) :
    Map.checkPosInArea (.whole px) (.whole py) x y area = some (checkPosInArea px py x y area) := by
  simp only [Map.checkPosInArea, Coord.whole, Coord.worth, Option.bind_some, within_whole]
  by_cases columns : x ≤ px ∧ px < x + area.1
  · simp [columns, checkPosInArea, Double.upTo_whole]
  · simp [columns, checkPosInArea]

theorem checkPosAroundArea_whole (sized : area.1.natAbs < 2 ^ 53 ∧ area.2.natAbs < 2 ^ 53) (px py : Int) :
    Map.checkPosAroundArea (.whole px) (.whole py) x y area = some (checkPosAroundArea px py x y area) := by
  simp [Map.checkPosAroundArea, checkPosAroundArea, Coord.whole, Coord.worth, within_whole, beside_whole sized.1,
    beside_whole sized.2]

/-- What `walkPath` asks, of whole cells. -/
theorem checkPathUID_whole {cfg : MapConfig} {element : Element} (typed : element.type ≠ some 0)
    (sized : ∀ area, areaOf cfg element = some area → area.1.natAbs < 2 ^ 53 ∧ area.2.natAbs < 2 ^ 53) (start : Cell) :
    Map.checkPathUID cfg element (.whole px) (.whole py) (.pos (.whole start.1) (.whole start.2)) =
      some (checkPathUID cfg element px py start) := by
  unfold Map.checkPathUID checkPathUID
  by_cases nameless : element.name = ""
  · simp [areaOf, nameless]
  · have same : areaOf cfg element =
        (element.type.bind fun type => cfg.elementType.get? (toString type)).bind (·.get? element.name) := by
      simp [areaOf, nameless, typed]
    rw [if_neg nameless, ← same]
    cases known : areaOf cfg element with
    | none => rfl
    | some area =>
      simp only [checkPosInArea_whole, checkPosAroundArea_whole (sized area known), Option.bind_some]
      cases checkPosInArea px py element.x element.y area <;> rfl

/-! ### The claim on a cell -/

/-- What the two checks are to say of a cell. -/
structure Tiles (x y : Int) (area : Int × Int) (cell : Cell) : Prop where
  inside : checkPosInArea cell.1 cell.2 x y area = true ↔ cell ∈ rectangle x y area
  around : checkPosAroundArea cell.1 cell.2 x y area = true ↔ cell ∈ border x y area
  apart : ¬ (checkPosInArea cell.1 cell.2 x y area = true ∧ checkPosAroundArea cell.1 cell.2 x y area = true)

theorem not_under_of_mem {cell : Cell} (inside : cell ∈ rectangle x y area) : cell ∉ under x y area := by
  intro below
  obtain ⟨px, py⟩ := cell
  rw [mem_rectangle] at inside
  simp only [under, Set.mem_ofPred_eq] at below
  omega

theorem tiles_iff (wide : 0 < area.1) (tall : 0 < area.2) (cell : Cell) :
    Tiles x y area cell ↔ cell ∉ under x y area := by
  constructor
  · intro tiles below
    exact (under_sub_border tall below).1 (tiles.inside.mp ((inArea_iff x y area tall cell).mpr (.inr below)))
  · intro above
    have inside : checkPosInArea cell.1 cell.2 x y area = true ↔ cell ∈ rectangle x y area := by
      rw [inArea_iff x y area tall]
      exact or_iff_left above
    have around := aroundArea_iff (x := x) (y := y) wide tall cell
    exact ⟨inside, around, fun both => (around.mp both.2).1 (inside.mp both.1)⟩

/-- The checks tile the ground but for the row under a building. There a player counts as inside, and is let in
wherever the way starts next to the building. -/
theorem tiles_but_under (x y : Int) (area : Int × Int) (wide : 0 < area.1) (tall : 0 < area.2) :
    (∀ cell, Tiles x y area cell ↔ cell ∉ under x y area) ∧
      ∀ (cfg : MapConfig) (element : Element), areaOf cfg element = some area → element.x = x → element.y = y →
        ∀ player start : Cell,
          (checkPathUID cfg element player.1 player.2 start = true ↔ player ∈ rectangle x y area ∧ start ∈ border x y area) ↔
            ¬ (player ∈ under x y area ∧ start ∈ border x y area) := by
  constructor
  · exact tiles_iff wide tall
  · rintro cfg element known rfl rfl player start
    rw [checkPathUID_iff known, inArea_iff _ _ _ tall, aroundArea_iff wide tall]
    have apart : player ∈ rectangle element.x element.y area → player ∉ under element.x element.y area := not_under_of_mem
    tauto

/-- The first chest of `01.json`. -/
def firstChest : Element := ⟨some 1, "100101", 11, 9⟩

def chestConfig : MapConfig :=
  { firstConfig with elementType := (∅ : Obj (Obj (Int × Int))).set "1" ((∅ : Obj (Int × Int)).set "100101" (1, 1)) }

theorem tiles_but_under_chest : (∀ cell, Tiles 11 9 (1, 1) cell ↔ cell ∉ under 11 9 (1, 1)) ∧
    ∀ player start : Cell,
      (checkPathUID chestConfig firstChest player.1 player.2 start = true ↔
        player ∈ rectangle 11 9 (1, 1) ∧ start ∈ border 11 9 (1, 1)) ↔
          ¬ (player ∈ under 11 9 (1, 1) ∧ start ∈ border 11 9 (1, 1)) :=
  have rows := tiles_but_under 11 9 (1, 1) (by decide) (by decide)
  ⟨rows.1, rows.2 chestConfig firstChest (by decide +kernel) rfl rfl⟩

/-- Under the chest a cell is inside and around it, and a way beside the chest is taken from there. -/
theorem under_chest : ¬ Tiles 11 9 (1, 1) (11, 10) ∧
    ¬ (checkPathUID chestConfig firstChest 11 10 (10, 9) = true ↔
      (11, 10) ∈ rectangle 11 9 (1, 1) ∧ (10, 9) ∈ border 11 9 (1, 1)) := by
  constructor
  · intro tiles
    exact tiles.apart (by decide)
  · intro right
    have accepted : checkPathUID chestConfig firstChest 11 10 (10, 9) = true := by decide +kernel
    have inside := (right.mp accepted).1
    rw [mem_rectangle] at inside
    omega

end Tinygame.Map.Areas
