import Tinygame.Fight.Targeting

/-!
# Whether the targets exist

When `searchTarget` comes to an end with targets that are on the board, differ, and of which each is somebody unless
a creature is called there.
-/

namespace Tinygame.Fight
open Traced Play
variable {N : Type}

/-! ### Loops that look at each position -/

section
variable {σ β : Type}

/-- A loop that stops where it finds nothing to look at. -/
theorem foldlM_look (look : Nat → Option β) (step : σ → Nat → β → σ) (rounds : List Nat) (s : σ) :
    rounds.foldlM (fun s i => (look i).map (step s i)) s =
      if rounds.all (fun i => (look i).isSome) then some (rounds.foldl (fun s i => (look i).elim s (step s i)) s) else none := by
  induction rounds generalizing s with
  | nil => rfl
  | cons i rest ih =>
    rw [List.foldlM_cons]
    cases seen : look i with
    | none => simp [seen]
    | some b =>
      show rest.foldlM _ (step s i b) = _
      rw [ih]
      simp [seen]

/-- One round of a search for the best: `none` is passed by. -/
def weigh (better : N → N → Bool) (found : N × Option Nat) (i : Nat) : Option N → N × Option Nat
  | none => found
  | some value => if better value found.1 then (value, some i) else found

/-- Nothing is found exactly when nothing is better than what the search began with. -/
theorem weigh_none_iff (better : N → N → Bool) (look : Nat → Option (Option N)) (rounds : List Nat) (found : N × Option Nat) :
    (rounds.foldl (fun s i => (look i).elim s (weigh better s i)) found).2 = none ↔
      found.2 = none ∧ ∀ i ∈ rounds, ∀ value, look i = some (some value) → better value found.1 = false := by
  induction rounds generalizing found with
  | nil => simp
  | cons i rest ih =>
    rw [List.foldl_cons, ih]
    rcases seen : look i with _ | _ | value
    · simp [seen]
    · simp [seen, weigh]
    · cases order : better value found.1 <;> simp [seen, weigh, order]

theorem weigh_mem {better : N → N → Bool} {look : Nat → Option (Option N)} {rounds : List Nat} {found : N × Option Nat} {pos : Nat}
    (last : (rounds.foldl (fun s i => (look i).elim s (weigh better s i)) found).2 = some pos) :
    found.2 = some pos ∨ pos ∈ rounds ∧ ∃ value, look pos = some (some value) := by
  induction rounds generalizing found with
  | nil => exact .inl last
  | cons i rest ih =>
    rw [List.foldl_cons] at last
    rcases ih last with earlier | ⟨member, seen⟩
    · rcases seen : look i with _ | _ | value
      · rw [seen] at earlier
        exact .inl earlier
      · rw [seen] at earlier
        exact .inl earlier
      · rw [seen] at earlier
        unfold weigh at earlier
        dsimp only [Option.elim_some] at earlier
        split at earlier
        · obtain rfl := Option.some.inj earlier
          exact .inr ⟨List.mem_cons_self .., value, seen⟩
        · exact .inl earlier
    · exact .inr ⟨List.mem_cons_of_mem _ member, seen⟩

theorem picked_filter (look : Nat → Option Bool) (rounds acc : List Nat) :
    rounds.foldl (fun s i => (look i).elim s fun keep => if keep then s ++ [i] else s) acc =
      acc ++ rounds.filter fun i => (look i).getD false := by
  induction rounds generalizing acc with
  | nil => simp
  | cons i rest ih =>
    rw [List.foldl_cons, ih]
    rcases seen : look i with _ | keep
    · simp [seen]
    · cases keep <;> simp [seen]

end

/-! ### What targets should be -/

/-- Targets on the board that differ, and of which each is somebody unless a creature is called. -/
structure Good (effect : SkillEffect N) (side : Side N) (target : List Nat) : Prop where
  apart : target.Nodup
  inside : ∀ pos ∈ target, P_HEAD_LEFT ≤ pos ∧ pos ≤ P_BACK_RIGHT
  present : effect.isCall = false → ∀ pos ∈ target, side.present pos = true

/-- Where there is anybody there is a target. -/
structure TargetsExist (effect : SkillEffect N) (side : Side N) (target : List Nat) : Prop extends Good effect side target where
  found : side.among P_HEAD_LEFT P_BACK_RIGHT ≠ [] → target ≠ []

/-- The creatures of the front row have a cost. -/
def Side.Costed (side : Side N) : Prop :=
  ∀ pos ∈ positions P_HEAD_LEFT P_HEAD_RIGHT, ∀ fighter, side.fighterAt pos = some fighter → fighter.cost.isSome = true

/-- The positions of the row that the search takes. -/
def named (effect : SkillEffect N) (side : Side N) (tbPos : List Nat) : List Nat :=
  if effect.isCall then tbPos else tbPos.filter side.present

/-- The search indexes nothing that is nil. -/
def Runs (side : Side N) (row : SkillRow N) : Prop :=
  match row.target with
  | .pos => row.pos.isSome = true
  | .maxSummon | .minSummon => side.Costed
  | .costUpSummon | .costDownSummon =>
    side.Costed ∧ (row.costarg.isSome = true ∨ ∀ pos ∈ positions P_HEAD_LEFT P_HEAD_RIGHT, side.present pos = false)
  | .minHp => ∀ pos ∈ positions P_HEAD_LEFT P_HEAD_RIGHT, side.present pos = true
  | _ => True

/-- What the row or the caster names is as it should be. -/
def NamesGood (idx : Nat) (side : Side N) (row : SkillRow N) (effect : SkillEffect N) : Prop :=
  match row.target with
  | .pos => ∀ tbPos, row.pos = some tbPos →
    (named effect side tbPos).Nodup ∧ ∀ pos ∈ named effect side tbPos, P_HEAD_LEFT ≤ pos ∧ pos ≤ P_BACK_RIGHT
  | .self => effect.isCall = true ∨ side.present idx = true
  | _ => True

/-- A range of a column has somebody at both its positions, unless a creature is called. -/
def ColumnFull (caster : Fighter N) (idx : Nat) (side : Side N) (row : SkillRow N) (effect : SkillEffect N) : Prop :=
  row.rangetype = .line → effect.isCall = false →
    ∀ ret, plainTarget (caster.statusMark .fly) idx side = some ret → side.present (behind ret) = true

section
variable [Number N]

/-- Nobody is as the type of the search wants. -/
def FindsNobody (idx : Nat) (side : Side N) (row : SkillRow N) (effect : SkillEffect N) : Prop :=
  match row.target with
  | .pos => ∀ tbPos, row.pos = some tbPos → named effect side tbPos = []
  | .self => False
  | .obsSummon => side.present (inFront idx) = false
  | .maxSummon => ∀ pos ∈ positions P_HEAD_LEFT P_HEAD_RIGHT, ∀ fighter, side.fighterAt pos = some fighter →
    ∀ cost, fighter.cost = some cost → ¬ num 0 < cost
  | .minSummon => ∀ pos ∈ positions P_HEAD_LEFT P_HEAD_RIGHT, ∀ fighter, side.fighterAt pos = some fighter →
    ∀ cost, fighter.cost = some cost → ¬ cost < num 100
  | .costUpSummon => ∀ pos ∈ positions P_HEAD_LEFT P_HEAD_RIGHT, ∀ fighter, side.fighterAt pos = some fighter →
    ∀ cost costarg, fighter.cost = some cost → row.costarg = some costarg → ¬ costarg ≤ cost
  | .costDownSummon => ∀ pos ∈ positions P_HEAD_LEFT P_HEAD_RIGHT, ∀ fighter, side.fighterAt pos = some fighter →
    ∀ cost costarg, fighter.cost = some cost → row.costarg = some costarg → ¬ cost ≤ costarg
  | .random => side.among P_HEAD_LEFT P_BACK_RIGHT = []
  | .minHp => ∀ pos ∈ positions P_HEAD_LEFT P_HEAD_RIGHT, ∀ fighter, side.fighterAt pos = some fighter →
    ¬ fighter.nHP / fighter.nMaxHP < num 100
  | .obsHero => side.present (if idx < P_BACK_LEFT then idx + P_HEAD_RIGHT else idx) = false
  | .selfHead => ¬ (P_HEAD_RIGHT < idx ∧ effect.isCall = true)
  | .default | .other => True

/-- What the search ends with. -/
def searched (camp targetCamp : Camp) (idx : Nat) (row : SkillRow N) (effect : SkillEffect N) (field : Field N) : Option (List Nat) :=
  ((searchTarget camp targetCamp idx row effect) field).result.toOption

end

section
/-! ### The default search -/

variable {caster : Fighter N} {idx : Nat} {side : Side N} {row : SkillRow N} {effect : SkillEffect N} {target : List Nat}

theorem good_nil : Good effect side [] := ⟨List.nodup_nil, by simp, by simp⟩

theorem good_singleton {pos : Nat} (inside : P_HEAD_LEFT ≤ pos ∧ pos ≤ P_BACK_RIGHT) :
    Good effect side [pos] ↔ effect.isCall = true ∨ side.present pos = true := by
  constructor
  · intro good
    cases calls : effect.isCall with
    | true => exact .inl rfl
    | false => exact .inr (good.present calls pos (List.mem_cons_self ..))
  · intro either
    refine ⟨List.nodup_singleton pos, fun other member => List.mem_singleton.mp member ▸ inside, fun calls other member => ?_⟩
    obtain rfl := List.mem_singleton.mp member
    exact either.resolve_left fun call => absurd (calls.symm.trans call) nofun

theorem mem_positions {first last pos : Nat} (some' : first ≤ last) : pos ∈ positions first last ↔ first ≤ pos ∧ pos ≤ last := by
  unfold positions
  rw [List.mem_range'_1]
  omega

theorem good_among {first last : Nat} (low : P_HEAD_LEFT ≤ first) (some' : first ≤ last) (high : last ≤ P_BACK_RIGHT) :
    Good effect side (side.among first last) where
  apart := (List.nodup_range' ..).filter _
  inside pos member := by
    obtain ⟨above, below⟩ := (mem_positions some').mp (List.mem_filter.mp member).1
    exact ⟨low.trans above, below.trans high⟩
  present _ _ := present_of_mem_among

theorem plainTarget_present {flies : Bool} {pos : Nat} (found : plainTarget flies idx side = some pos) : side.present pos = true := by
  unfold plainTarget at found
  dsimp only at found
  split at found
  · exact Option.some.inj found ▸ present_of_any ‹_›
  · split at found
    · exact Option.some.inj found ▸ ‹_›
    · exact present_of_mem_among (List.mem_of_head? found)

theorem plainTarget_inside (low : 1 ≤ idx) (high : idx ≤ P_BACK_RIGHT) {flies : Bool} {pos : Nat}
    (found : plainTarget flies idx side = some pos) : P_HEAD_LEFT ≤ pos ∧ pos ≤ P_BACK_RIGHT := by
  have front : P_HEAD_LEFT ≤ inFront idx ∧ inFront idx ≤ P_HEAD_RIGHT := by
    unfold inFront P_HEAD_LEFT P_HEAD_RIGHT at *
    unfold P_BACK_RIGHT at high
    split <;> omega
  unfold plainTarget at found
  dsimp only at found
  unfold P_HEAD_LEFT P_HEAD_RIGHT P_BACK_RIGHT at *
  split at found
  · obtain rfl := Option.some.inj found
    omega
  · split at found
    · obtain rfl := Option.some.inj found
      omega
    · exact (mem_positions (by decide)).mp (List.mem_filter.mp (List.mem_of_head? found)).1

/-- The default search finds nobody only where nobody is. -/
theorem plainTarget_none {flies : Bool} (missing : plainTarget flies idx side = none) : side.among P_HEAD_LEFT P_BACK_RIGHT = [] := by
  unfold plainTarget at missing
  dsimp only at missing
  split at missing
  · cases missing
  · split at missing
    · cases missing
    · exact List.head?_eq_none_iff.mp missing

theorem behind_inside {ret : Nat} (inside : P_HEAD_LEFT ≤ ret ∧ ret ≤ P_BACK_RIGHT) :
    P_HEAD_LEFT ≤ behind ret ∧ behind ret ≤ P_BACK_RIGHT ∧ ret ≠ behind ret := by
  unfold behind P_HEAD_LEFT P_HEAD_RIGHT P_BACK_LEFT P_BACK_RIGHT at *
  split <;> omega

/-- The default search is as it should be, but for a range of a column. -/
theorem searchDefault_exists (low : 1 ≤ idx) (high : idx ≤ P_BACK_RIGHT) :
    TargetsExist effect side (searchDefault caster idx side row.rangetype) ↔ ColumnFull caster idx side row effect := by
  unfold searchDefault ColumnFull
  rw [defaultTarget_plain]
  cases found : plainTarget (caster.statusMark .fly) idx side with
  | none => exact iff_of_true ⟨good_nil, fun there => absurd (plainTarget_none found) there⟩ (by simp)
  | some ret =>
    have there := plainTarget_present found
    have inside := plainTarget_inside low high found
    show TargetsExist effect side (inRange side row.rangetype ret) ↔ _
    cases range : row.rangetype with
    | single =>
      refine iff_of_true ⟨(good_singleton inside).mpr (.inr there), fun _ => ?_⟩ (by simp)
      exact List.cons_ne_nil ret []
    | row =>
      refine iff_of_true ?_ (by simp)
      unfold inRange
      dsimp only
      split
      · refine ⟨good_among (by decide) (by decide) (by decide), fun _ => List.ne_nil_of_mem (a := ret) ?_⟩
        exact List.mem_filter.mpr
          ⟨(mem_positions (by decide)).mpr ⟨inside.1, by unfold P_HEAD_RIGHT; unfold P_BACK_LEFT at *; omega⟩, there⟩
      · refine ⟨good_among (by decide) (by decide) (by decide), fun _ => List.ne_nil_of_mem (a := ret) ?_⟩
        exact List.mem_filter.mpr ⟨(mem_positions (by decide)).mpr ⟨by omega, inside.2⟩, there⟩
    | line =>
      obtain ⟨above, below, apart⟩ := behind_inside inside
      constructor
      · intro exist _ calls other same
        obtain rfl := Option.some.inj same
        exact exist.present calls _ (List.mem_cons_of_mem _ (List.mem_cons_self ..))
      · intro full
        refine ⟨⟨?_, ?_, ?_⟩, fun _ => List.cons_ne_nil _ _⟩
        · exact List.nodup_cons.mpr ⟨fun member => apart (List.mem_singleton.mp member), List.nodup_singleton _⟩
        · intro pos member
          rcases List.mem_cons.mp member with rfl | member
          · exact inside
          · exact List.mem_singleton.mp member ▸ ⟨above, below⟩
        · intro calls pos member
          rcases List.mem_cons.mp member with rfl | member
          · exact there
          · exact List.mem_singleton.mp member ▸ full rfl calls ret rfl

/-! ### What each type of search finds -/

/-- A position that a loop over the front row has found. -/
theorem good_found {found : Option Nat} (there : ∀ pos, found = some pos →
    pos ∈ positions P_HEAD_LEFT P_HEAD_RIGHT ∧ side.present pos = true) : Good effect side found.toList := by
  cases found with
  | none => exact good_nil
  | some pos =>
    obtain ⟨member, present⟩ := there pos rfl
    obtain ⟨low, high⟩ := (mem_positions (by decide)).mp member
    exact (good_singleton ⟨low, high.trans (by decide)⟩).mpr (.inr present)

/-- The cost of the creature at a position: none is passed by, and the hero there has none to compare. -/
def costAt (side : Side N) (i : Nat) : Option (Option N) :=
  (side.fighterAt i).elim (some none) fun fighter => fighter.cost.map some

theorem costAt_some {i : Nat} {cost : N} :
    costAt side i = some (some cost) ↔ ∃ fighter, side.fighterAt i = some fighter ∧ fighter.cost = some cost := by
  unfold costAt
  cases side.fighterAt i with
  | none => simp
  | some fighter => simp

theorem costed_iff : side.Costed ↔ (positions P_HEAD_LEFT P_HEAD_RIGHT).all (fun i => (costAt side i).isSome) = true := by
  rw [List.all_eq_true]
  refine forall_congr' fun pos => imp_congr_right fun _ => ?_
  unfold costAt
  cases side.fighterAt pos with
  | none => simp
  | some fighter => simp

theorem bestSummon_loop (better : N → N → Bool) (start : N) (side : Side N) :
    bestSummon better start side =
      ((positions P_HEAD_LEFT P_HEAD_RIGHT).foldlM (fun s i => (costAt side i).map (weigh better s i)) (start, none)).map
        fun found => found.2.toList := by
  unfold bestSummon
  rw [Option.map_eq_bind]
  refine congrArg (Option.bind · _) (congrArg (List.foldlM · _ _) (funext fun found => funext fun i => ?_))
  unfold costAt
  cases side.fighterAt i with
  | none => rfl
  | some fighter => cases known : fighter.cost <;> simp [known, weigh]

theorem bestSummon_isSome (better : N → N → Bool) (start : N) : (bestSummon better start side).isSome = true ↔ side.Costed := by
  rw [bestSummon_loop, foldlM_look, costed_iff]
  split <;> simp_all

theorem bestSummon_found {better : N → N → Bool} {start : N} (found : bestSummon better start side = some target) :
    Good effect side target ∧ ((∀ pos ∈ positions P_HEAD_LEFT P_HEAD_RIGHT, ∀ fighter, side.fighterAt pos = some fighter →
      ∀ cost, fighter.cost = some cost → better cost start = false) ↔ target = []) := by
  rw [bestSummon_loop, foldlM_look] at found
  split at found
  · obtain rfl := Option.some.inj found
    refine ⟨good_found fun pos last => ?_, ?_⟩
    · obtain ⟨member, cost, seen⟩ := (weigh_mem last).resolve_left nofun
      obtain ⟨fighter, there, -⟩ := costAt_some.mp seen
      exact ⟨member, Side.present_iff.mpr ⟨fighter, there⟩⟩
    · rw [Option.toList_eq_nil_iff, weigh_none_iff]
      simp only [costAt_some, true_and]
      constructor
      · rintro all i member cost ⟨fighter, there, has⟩
        exact all i member fighter there cost has
      · intro all i member fighter there cost has
        exact all i member cost ⟨fighter, there, has⟩
  · cases found

/-- Whether the creature at a position is of the cost, where both costs are known. -/
def ofCost (inOrder : N → N → Bool) (costarg : Option N) (side : Side N) (i : Nat) : Option Bool :=
  (side.fighterAt i).elim (some false) fun fighter => fighter.cost.bind fun cost => costarg.map (inOrder cost)

theorem summonsOfCost_loop (inOrder : N → N → Bool) (costarg : Option N) (side : Side N) :
    summonsOfCost inOrder costarg side = (positions P_HEAD_LEFT P_HEAD_RIGHT).foldlM
      (fun s i => (ofCost inOrder costarg side i).map fun keep => if keep then s ++ [i] else s) [] := by
  unfold summonsOfCost
  refine congrArg (List.foldlM · _ _) (funext fun found => funext fun i => ?_)
  unfold ofCost
  cases side.fighterAt i with
  | none => rfl
  | some fighter => cases known : fighter.cost <;> cases costarg <;> simp [known]

theorem summonsOfCost_isSome {inOrder : N → N → Bool} {costarg : Option N} :
    (summonsOfCost inOrder costarg side).isSome = true ↔
      side.Costed ∧ (costarg.isSome = true ∨ ∀ pos ∈ positions P_HEAD_LEFT P_HEAD_RIGHT, side.present pos = false) := by
  have all : (summonsOfCost inOrder costarg side).isSome = true ↔
      ∀ pos ∈ positions P_HEAD_LEFT P_HEAD_RIGHT, (ofCost inOrder costarg side pos).isSome = true := by
    rw [summonsOfCost_loop, foldlM_look, ← List.all_eq_true]
    split <;> simp_all
  have each (pos : Nat) : (ofCost inOrder costarg side pos).isSome = true ↔
      (∀ fighter, side.fighterAt pos = some fighter → fighter.cost.isSome = true) ∧
        (costarg.isSome = true ∨ side.present pos = false) := by
    unfold ofCost Side.present Side.fighterAt
    cases side.posts pos with
    | none => simp
    | some post => cases known : post.fighter.cost <;> cases costarg <;> simp [known]
  rw [all]
  simp only [each]
  constructor
  · intro met
    refine ⟨fun pos member => (met pos member).1, ?_⟩
    cases costarg with
    | none => exact .inr fun pos member => (met pos member).2.resolve_left nofun
    | some arg => exact .inl rfl
  · rintro ⟨costed, given⟩ pos member
    exact ⟨costed pos member, given.imp id fun empty => empty pos member⟩

theorem summonsOfCost_found {inOrder : N → N → Bool} {costarg : Option N} (found : summonsOfCost inOrder costarg side = some target) :
    Good effect side target ∧ ((∀ pos ∈ positions P_HEAD_LEFT P_HEAD_RIGHT, ∀ fighter, side.fighterAt pos = some fighter →
      ∀ cost arg, fighter.cost = some cost → costarg = some arg → inOrder cost arg = false) ↔ target = []) := by
  have kept (pos : Nat) : (ofCost inOrder costarg side pos).getD false = true ↔ ∃ fighter, side.fighterAt pos = some fighter ∧
      ∃ cost arg, fighter.cost = some cost ∧ costarg = some arg ∧ inOrder cost arg = true := by
    unfold ofCost
    cases side.fighterAt pos with
    | none => simp
    | some fighter => cases known : fighter.cost <;> cases costarg <;> simp [known]
  rw [summonsOfCost_loop, foldlM_look] at found
  split at found
  · have filtered := picked_filter (ofCost inOrder costarg side) (positions P_HEAD_LEFT P_HEAD_RIGHT) []
    obtain rfl := Option.some.inj found
    rw [filtered, List.nil_append]
    refine ⟨⟨(List.nodup_range' ..).filter _, fun pos member => ?_, fun _ pos member => ?_⟩, ?_⟩
    · obtain ⟨low, high⟩ := (mem_positions (by decide)).mp (List.mem_filter.mp member).1
      exact ⟨low, high.trans (by decide)⟩
    · obtain ⟨fighter, there, -⟩ := (kept pos).mp (List.mem_filter.mp member).2
      exact Side.present_iff.mpr ⟨fighter, there⟩
    · rw [List.filter_eq_nil_iff]
      refine forall_congr' fun pos => imp_congr_right fun _ => ?_
      rw [kept]
      simp only [not_exists, not_and, Bool.not_eq_true]
  · cases found

/-- How the first part of a search ends: with targets of which as much is told, or with an error. -/
def Leads (effect : SkillEffect N) (side : Side N) (field : Field N) (ended : Trail (Act N) (Field N) (Stop N) (List Nat))
    (runs names nobody : Prop) : Prop :=
  (runs → ∃ state target, ended = ⟨[], state, .ok target⟩ ∧ state.fighters = field.fighters ∧
    (names ↔ Good effect side target) ∧ (nobody ↔ target = [])) ∧
  (¬ runs → ended = ⟨[], field, .error .error⟩)

variable {field : Field N} {runs names nobody : Prop}

theorem leads_found {state : Field N} (same : state.fighters = field.fighters) (good : names ↔ Good effect side target)
    (none' : nobody ↔ target = []) : Leads effect side field ⟨[], state, .ok target⟩ True names nobody :=
  ⟨fun _ => ⟨state, target, rfl, same, good, none'⟩, fun never => absurd trivial never⟩

theorem leads_indexed {value : Option (List Nat)} (whole : value.isSome = true ↔ runs)
    (found : ∀ target, value = some target → Good effect side target ∧ (nobody ↔ target = [])) :
    Leads effect side field ((indexed value : Play N (List Nat)) field) runs True nobody := by
  cases value with
  | none => exact ⟨fun good => absurd (whole.mpr good) nofun, fun _ => rfl⟩
  | some target =>
    obtain ⟨good, none'⟩ := found target rfl
    exact ⟨fun _ => ⟨field, target, rfl, rfl, iff_of_true trivial good, none'⟩, fun never => absurd (whole.mp rfl) never⟩

/-- One position, if somebody is there. -/
theorem leads_there {pos : Nat} (inside : P_HEAD_LEFT ≤ pos ∧ pos ≤ P_BACK_RIGHT) :
    Leads effect side field ⟨[], field, .ok (if side.present pos then [pos] else [])⟩ True True (side.present pos = false) := by
  cases there : side.present pos with
  | true => exact leads_found rfl (iff_of_true trivial ((good_singleton inside).mpr (.inr there))) (by simp)
  | false => exact leads_found rfl (iff_of_true trivial good_nil) (by simp)

end

section
variable [Number N] {side : Side N} {effect : SkillEffect N} {target : List Nat}

/-- The share of its life that the fighter at a position has left. -/
def rateAt (side : Side N) (i : Nat) : Option (Option N) := (side.fighterAt i).map fun fighter => some (fighter.nHP / fighter.nMaxHP)

theorem leastHp_loop (side : Side N) :
    leastHp side = ((positions P_HEAD_LEFT P_HEAD_RIGHT).foldlM
      (fun s i => (rateAt side i).map (weigh (fun temp rate => decide (temp < rate)) s i)) (num 100, none)).map
        fun found => found.2.toList := by
  unfold leastHp
  rw [Option.map_eq_bind]
  refine congrArg (Option.bind · _) (congrArg (List.foldlM · _ _) (funext fun found => funext fun i => ?_))
  unfold rateAt
  cases side.fighterAt i with
  | none => rfl
  | some fighter => simp [weigh]

theorem leastHp_isSome : (leastHp side).isSome = true ↔ ∀ pos ∈ positions P_HEAD_LEFT P_HEAD_RIGHT, side.present pos = true := by
  have each (pos : Nat) : (rateAt side pos).isSome = side.present pos := by
    unfold rateAt Side.present Side.fighterAt
    cases side.posts pos <;> rfl
  rw [leastHp_loop, foldlM_look, ← List.all_eq_true]
  simp only [each]
  split <;> simp_all

theorem leastHp_found (found : leastHp side = some target) :
    Good effect side target ∧ ((∀ pos ∈ positions P_HEAD_LEFT P_HEAD_RIGHT, ∀ fighter, side.fighterAt pos = some fighter →
      ¬ fighter.nHP / fighter.nMaxHP < num 100) ↔ target = []) := by
  have seen (pos : Nat) (rate : N) : rateAt side pos = some (some rate) ↔
      ∃ fighter, side.fighterAt pos = some fighter ∧ fighter.nHP / fighter.nMaxHP = rate := by
    unfold rateAt
    cases side.fighterAt pos with
    | none => simp
    | some fighter => simp
  rw [leastHp_loop, foldlM_look] at found
  split at found
  · obtain rfl := Option.some.inj found
    refine ⟨good_found fun pos last => ?_, ?_⟩
    · obtain ⟨member, rate, shown⟩ := (weigh_mem last).resolve_left nofun
      obtain ⟨fighter, there, -⟩ := (seen pos rate).mp shown
      exact ⟨member, Side.present_iff.mpr ⟨fighter, there⟩⟩
    · rw [Option.toList_eq_nil_iff, weigh_none_iff]
      simp only [seen, true_and, decide_eq_false_iff_not]
      constructor
      · rintro all i member rate ⟨fighter, there, rfl⟩
        exact all i member fighter there
      · intro all i member fighter there
        exact all i member _ ⟨fighter, there, rfl⟩
  · cases found

/-! ### The whole search -/

variable {field : Field N} {targetCamp : Camp} {idx : Nat} {row : SkillRow N}

/-- A draw from those that are there. -/
theorem random_drawn (seed : Int) {listed : List Nat} (there : listed ≠ []) :
    ∃ pos ∈ listed, listed[(Fight.random seed 1 listed.length).1.toNat - 1]? = some pos := by
  obtain ⟨low, high⟩ := random_range seed (List.length_pos_of_ne_nil there)
  have short : (Fight.random seed 1 listed.length).1.toNat - 1 < listed.length := by omega
  exact ⟨_, List.getElem_mem short, List.getElem?_eq_getElem short⟩

theorem searchFirst_leads (low : 1 ≤ idx) (high : idx ≤ P_BACK_RIGHT) :
    Leads effect (field.fighters targetCamp) field ((searchFirst targetCamp idx row effect) field)
      (Runs (field.fighters targetCamp) row) (NamesGood idx (field.fighters targetCamp) row effect)
      (FindsNobody idx (field.fighters targetCamp) row effect) := by
  have bounds : P_HEAD_LEFT = 1 ∧ P_HEAD_RIGHT = 3 ∧ P_BACK_LEFT = 4 ∧ P_BACK_RIGHT = 6 := ⟨rfl, rfl, rfl, rfl⟩
  unfold searchFirst Runs NamesGood FindsNobody
  rw [run_bind_ok (run_read field)]
  cases row.target with
  | default => exact leads_found rfl (iff_of_true trivial good_nil) (by simp)
  | pos =>
    cases row.pos with
    | none => exact ⟨fun given => absurd given nofun, fun _ => rfl⟩
    | some tbPos =>
      have one (P : List Nat → Prop) : (∀ other, some tbPos = some other → P other) ↔ P tbPos :=
        ⟨fun all => all tbPos rfl, fun met other same => Option.some.inj same ▸ met⟩
      rw [one, one, Option.isSome_some, eq_self]
      refine leads_found rfl ⟨fun good => ⟨good.1, good.2, fun calls pos member => ?_⟩, fun good => ⟨good.apart, good.inside⟩⟩ Iff.rfl
      rw [if_neg (by simp [calls])] at member
      exact (List.mem_filter.mp member).2
  | self =>
    exact leads_found rfl (good_singleton ⟨low, high⟩).symm (iff_of_false not_false (List.cons_ne_nil _ _))
  | obsSummon =>
    refine leads_there ?_
    unfold inFront
    split <;> omega
  | maxSummon => exact leads_indexed (bestSummon_isSome ..) fun target found => by simpa using bestSummon_found found
  | minSummon => exact leads_indexed (bestSummon_isSome ..) fun target found => by simpa using bestSummon_found found
  | costUpSummon => exact leads_indexed summonsOfCost_isSome fun target found => by simpa using summonsOfCost_found found
  | costDownSummon => exact leads_indexed summonsOfCost_isSome fun target found => by simpa using summonsOfCost_found found
  | random =>
    dsimp only
    split
    · rename_i empty
      exact leads_found rfl (iff_of_true trivial good_nil) (iff_of_true empty rfl)
    · rename_i there
      obtain ⟨pos, member, drawn⟩ := random_drawn field.seed there
      have one : Good effect (field.fighters targetCamp) [pos] :=
        (good_singleton ((mem_positions (by decide)).mp (List.mem_filter.mp member).1)).mpr (.inr (present_of_mem_among member))
      refine leads_found rfl (iff_of_true trivial ?_) (iff_of_false there ?_)
      · rw [drawn]
        exact one
      · rw [drawn]
        exact List.cons_ne_nil pos []
  | minHp => exact leads_indexed leastHp_isSome fun target => leastHp_found
  | obsHero =>
    refine leads_there ?_
    split <;> omega
  | selfHead =>
    have ends (effect' : Bool) : (if P_HEAD_RIGHT < idx ∧ effect' = true then [idx - P_HEAD_RIGHT] else []) = [] ↔
        ¬ (P_HEAD_RIGHT < idx ∧ effect' = true) := by
      split <;> simp_all
    refine leads_found rfl (iff_of_true trivial ?_) (ends _).symm
    split
    · rename_i called
      exact (good_singleton (by omega)).mpr (.inl called.2)
    · exact good_nil
  | other => exact leads_found rfl (iff_of_true trivial good_nil) (by simp)

variable {camp : Camp} {caster : Fighter N}

/-- What the search ends with, from how its first part ends. -/
theorem searched_exists {runs names nobody : Prop} (there : (field.fighters camp).fighterAt idx = some caster)
    (leads : Leads effect (field.fighters targetCamp) field ((searchFirst targetCamp idx row effect) field) runs names nobody)
    (default' : TargetsExist effect (field.fighters targetCamp) (searchDefault caster idx (field.fighters targetCamp) row.rangetype) ↔
      ColumnFull caster idx (field.fighters targetCamp) row effect) :
    (∃ target, searched camp targetCamp idx row effect field = some target ∧ TargetsExist effect (field.fighters targetCamp) target) ↔
      runs ∧ names ∧ (nobody → ColumnFull caster idx (field.fighters targetCamp) row effect) := by
  by_cases whole : runs
  · obtain ⟨state, first, ran, same, good, none'⟩ := leads.1 whole
    have stands : (state.fighters camp).fighterAt idx = some caster := by rw [same]; exact there
    have ends : searched camp targetCamp idx row effect field =
        some (if first = [] then searchDefault caster idx (field.fighters targetCamp) row.rangetype else first) := by
      have found : (fighter camp idx : Play N (Fighter N)) state = ⟨[], state, .ok caster⟩ := by
        have looked : (fighter? camp idx : Play N (Option (Fighter N))) state = ⟨[], state, .ok (some caster)⟩ := by
          rw [← stands]
          rfl
        unfold fighter
        rw [run_bind_ok looked]
        rfl
      unfold searched searchTarget
      rw [run_bind_ok ran]
      split
      · rw [run_bind_ok found, same.symm]
        rfl
      · rfl
    have chosen (target : List Nat) (P : List Nat → Prop) : (∃ other, some target = some other ∧ P other) ↔ P target := by
      simp
    rw [ends, chosen]
    split
    · rename_i empty
      subst empty
      rw [default']
      exact ⟨fun full => ⟨whole, good.mpr good_nil, fun _ => full⟩, fun met => met.2.2 (none'.mpr rfl)⟩
    · rename_i some'
      constructor
      · intro exist
        exact ⟨whole, good.mpr exist.toGood, fun nobody' => absurd (none'.mp nobody') some'⟩
      · rintro ⟨-, names', -⟩
        exact ⟨good.mp names', fun _ => some'⟩
  · have ends : searched camp targetCamp idx row effect field = none := by
      unfold searched searchTarget
      rw [run_bind_error (leads.2 whole)]
      rfl
    rw [ends]
    exact iff_of_false (fun found => by obtain ⟨_, same, _⟩ := found; cases same) fun met => whole met.1

end

/-- The search for targets ends with targets that exist exactly when it indexes nothing that is nil, what the row or the
caster names is on the board, and the default search it falls back on finds a whole column where it takes a column. -/
theorem targets_exist [Number N] (camp targetCamp : Camp) (idx : Nat) (row : SkillRow N) (effect : SkillEffect N)
    {field : Field N} {caster : Fighter N} (inside : idx ∈ positions P_HEAD_LEFT P_BACK_RIGHT)
    (there : (field.fighters camp).fighterAt idx = some caster) :
    (∃ target, searched camp targetCamp idx row effect field = some target ∧ TargetsExist effect (field.fighters targetCamp) target) ↔
      Runs (field.fighters targetCamp) row ∧ NamesGood idx (field.fighters targetCamp) row effect ∧
        (FindsNobody idx (field.fighters targetCamp) row effect →
          ColumnFull caster idx (field.fighters targetCamp) row effect) := by
  obtain ⟨low, high⟩ := (mem_positions (by decide)).mp inside
  exact searched_exists there (searchFirst_leads low high) (searchDefault_exists low high)

/-- An attack by the default search on a range. -/
def attackRow (rangetype : SearchRange) : SkillRow Exact where
  cost := 1
  probability := num 100
  level := num 1
  combo := []
  skillresultsid := 1
  camp := 2
  target := .default
  rangetype := rangetype
  pos := none
  costarg := none
  hittype := .must

/-- Both sides have a creature at the left of the front row, and a hero in the middle of the back row. -/
def tauntingField : Field Exact := (createManager tauntingSide tauntingSide 1).field

theorem targets_exist_row :
    ∃ target, searched .me .obs 5 (attackRow .row) (.common (num 0) (num 0) (num 1)) tauntingField = some target ∧
      TargetsExist (.common (num 0) (num 0) (num 1)) (tauntingField.fighters .obs) target :=
  (targets_exist .me .obs 5 (attackRow .row) (.common (num 0) (num 0) (num 1)) (by decide) rfl).mpr
    ⟨trivial, trivial, fun _ column => absurd column (by decide)⟩

/-- The column of the hero opposite has nobody in front, and is attacked there too. -/
theorem targets_missing :
    ¬ ∃ target, searched .me .obs 5 (attackRow .line) (.common (num 0) (num 0) (num 1)) tauntingField = some target ∧
      TargetsExist (.common (num 0) (num 0) (num 1)) (tauntingField.fighters .obs) target := by
  rintro ⟨target, found, exist⟩
  have column : searched .me .obs 5 (attackRow .line) (.common (num 0) (num 0) (num 1)) tauntingField = some [5, 2] := by decide
  obtain rfl := Option.some.inj (column.symm.trans found)
  exact absurd (exist.present rfl 2 (by decide)) (by decide)

end Tinygame.Fight
