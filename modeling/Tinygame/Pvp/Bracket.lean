import Mathlib.Data.List.Basic
import Mathlib.Data.List.ReduceOption
import Mathlib.Data.List.Perm.Basic

/-!
# The bracket of the last eight

`fightF8` of `module/pvp/pvp_imp.js`: four rounds in which the eight remaining players all fight,
and the final ranking read off the last of them. What a match answers (`get1V1PlayerInfoS`, then
`fightPvp`) is a parameter, and so is the key (area and uuid) of a player's data.
-/

namespace Tinygame.Pvp
variable {α π κ ε : Type} [DecidableEq κ]

/-- The rounds in the order they are fought. Their matches are kept in `fightInfoList8`, `4`, `2`
and `1`. -/
inductive Round where
  | fight4 | fight3 | fight2 | fight1
  deriving DecidableEq

/-- What a match answers. -/
structure Fought (π : Type) where
  playerInfo1 : π
  playerInfo2 : π
  winner : Nat
  seed : Nat

structure FightInfo (α : Type) where
  player1 : α
  player2 : α
  winner : Nat
  seed : Nat
  deriving DecidableEq

structure PvpF8Result (α π : Type) where
  playerInfoList : List π
  fightInfoList : Round → List (FightInfo α)

def savePlayerInfo (key : π → κ) (playerInfo : π) (playerInfoList : List π) : List π :=
  if playerInfoList.any (fun other => key other = key playerInfo) then playerInfoList
  else playerInfoList ++ [playerInfo]

/-- The tournament in a round: what is kept so far, and the winners and losers of the round. -/
structure Standing (α π : Type) where
  pvpF8Result : PvpF8Result α π
  winUuid : List α
  failUuid : List α

def calFightF8 (key : π → κ) (round : Round) (ua1 ua2 : α) (fought : Fought π) (s : Standing α π) :
    Standing α π :=
  let fightInfo : FightInfo α :=
    { player1 := ua1, player2 := ua2, winner := fought.winner, seed := fought.seed }
  let result : PvpF8Result α π :=
    { playerInfoList := savePlayerInfo key fought.playerInfo2
        (savePlayerInfo key fought.playerInfo1 s.pvpF8Result.playerInfoList)
      fightInfoList := fun r =>
        if r = round then s.pvpF8Result.fightInfoList r ++ [fightInfo] else s.pvpF8Result.fightInfoList r }
  if fought.winner = 1 then ⟨result, s.winUuid ++ [ua1], s.failUuid ++ [ua2]⟩
  else ⟨result, s.winUuid ++ [ua2], s.failUuid ++ [ua1]⟩

/-- The matches of a round. The two lists are the arrays from their ends, as `pop` reads them. -/
def fightAll (key : π → κ) (fight : Round → α → α → Except ε (Fought π)) (round : Round) :
    List α → List α → Standing α π → Except ε (Standing α π)
  | ua1 :: rest1, ua2 :: rest2, s => do
    let fought ← fight round ua1 ua2
    fightAll key fight round rest1 rest2 (calFightF8 key round ua1 ua2 fought s)
  | _, _, s => .ok s

/-- An array given by its entries. A round of four matches leaves none of them undefined. -/
def entries (xs : List (Option α)) : List α := xs.reduceOption

def fight1 (key : π → κ) (fight : Round → α → α → Except ε (Fought π)) (userArea1 userArea2 : List α)
    (s : Standing α π) : Except ε (PvpF8Result α π × List α) := do
  let s ← fightAll key fight .fight1 userArea1.reverse userArea2.reverse s
  let f8 := entries [s.winUuid[0]?, s.failUuid[0]?, s.winUuid[1]?, s.failUuid[1]?,
    s.winUuid[2]?, s.failUuid[2]?, s.winUuid[3]?, s.failUuid[3]?]
  .ok (s.pvpF8Result, f8)

def fight2 (key : π → κ) (fight : Round → α → α → Except ε (Fought π)) (userArea1 userArea2 : List α)
    (s : Standing α π) : Except ε (PvpF8Result α π × List α) := do
  let s ← fightAll key fight .fight2 userArea1.reverse userArea2.reverse s
  let userArea1 := entries [s.winUuid[0]?, s.failUuid[0]?, s.winUuid[2]?, s.failUuid[2]?]
  let userArea2 := entries [s.winUuid[1]?, s.failUuid[1]?, s.winUuid[3]?, s.failUuid[3]?]
  fight1 key fight userArea1 userArea2 ⟨s.pvpF8Result, [], []⟩

def fight3 (key : π → κ) (fight : Round → α → α → Except ε (Fought π)) (userArea1 userArea2 : List α)
    (s : Standing α π) : Except ε (PvpF8Result α π × List α) := do
  let s ← fightAll key fight .fight3 userArea1.reverse userArea2.reverse s
  let userArea1 := entries [s.winUuid[0]?, s.winUuid[1]?, s.failUuid[0]?, s.failUuid[1]?]
  let userArea2 := entries [s.winUuid[2]?, s.winUuid[3]?, s.failUuid[2]?, s.failUuid[3]?]
  fight2 key fight userArea1 userArea2 ⟨s.pvpF8Result, [], []⟩

def fight4 (key : π → κ) (fight : Round → α → α → Except ε (Fought π)) (userArea1 userArea2 : List α)
    (s : Standing α π) : Except ε (PvpF8Result α π × List α) := do
  let s ← fightAll key fight .fight4 userArea1.reverse userArea2.reverse s
  fight3 key fight s.winUuid s.failUuid.reverse ⟨s.pvpF8Result, [], []⟩

/-- The eight players that are left, each once. -/
structure Entrants (α : Type) where
  userArea : List α
  eight : userArea.length = 8
  distinct : userArea.Nodup

def fightF8 (key : π → κ) (fight : Round → α → α → Except ε (Fought π)) (playerInfoList : List π)
    (e : Entrants α) : Except ε (PvpF8Result α π × List α) :=
  let userArea := e.userArea
  let userArea1 := entries [userArea[0]?, userArea[2]?, userArea[4]?, userArea[6]?]
  let userArea2 := entries [userArea[1]?, userArea[3]?, userArea[5]?, userArea[7]?]
  fight4 key fight userArea1 userArea2 ⟨{ playerInfoList, fightInfoList := fun _ => [] }, [], []⟩

/-! ### What a ranking has to agree with -/

namespace FightInfo

def victor (info : FightInfo α) : α := if info.winner = 1 then info.player1 else info.player2

def loser (info : FightInfo α) : α := if info.winner = 1 then info.player2 else info.player1

def players (info : FightInfo α) : List α := [info.player1, info.player2]

end FightInfo

namespace PvpF8Result
variable (result : PvpF8Result α π)

def Won (round : Round) (player : α) : Prop := ∃ info ∈ result.fightInfoList round, info.victor = player

def Lost (round : Round) (player : α) : Prop := ∃ info ∈ result.fightInfoList round, info.loser = player

/-- Two players with the same result in a round. -/
def Level (round : Round) (x y : α) : Prop :=
  result.Won round x ∧ result.Won round y ∨ result.Lost round x ∧ result.Lost round y

/-- The ranking and the matches are those of one bracket: everybody fights once a round, the third
round decides first, the second among its equals, and the last match between the rest. -/
structure Agrees (userArea final8 : List α) : Prop where
  permutation : final8.Perm userArea
  paired : ∀ round, ((result.fightInfoList round).flatMap FightInfo.players).Perm userArea
  fight3 : ∀ (i j : Nat) x y, final8[i]? = some x → final8[j]? = some y →
    result.Won .fight3 x → result.Lost .fight3 y → i < j
  fight2 : ∀ (i j : Nat) x y, final8[i]? = some x → final8[j]? = some y →
    result.Level .fight3 x y → result.Won .fight2 x → result.Lost .fight2 y → i < j
  fight1 : ∀ info ∈ result.fightInfoList .fight1,
    ∃ i : Nat, final8[i]? = some info.victor ∧ final8[i + 1]? = some info.loser
  champion : ∀ x, final8[0]? = some x →
    result.Won .fight3 x ∧ result.Won .fight2 x ∧ result.Won .fight1 x

end PvpF8Result

/-! ### The matches of a bracket -/

/-- What is kept of a match, when the outcomes are given by `outcome`. -/
def info (outcome : Round → α → α → Fought π) (round : Round) (ua1 ua2 : α) : FightInfo α :=
  { player1 := ua1, player2 := ua2, winner := (outcome round ua1 ua2).winner, seed := (outcome round ua1 ua2).seed }

theorem calFightF8_ranks (key : π → κ) (outcome : Round → α → α → Fought π) (round : Round) (ua1 ua2 : α)
    (s : Standing α π) :
    ∃ result, calFightF8 key round ua1 ua2 (outcome round ua1 ua2) s =
        ⟨result, s.winUuid ++ [(info outcome round ua1 ua2).victor], s.failUuid ++ [(info outcome round ua1 ua2).loser]⟩ ∧
      ∀ r, result.fightInfoList r =
        s.pvpF8Result.fightInfoList r ++ if r = round then [info outcome round ua1 ua2] else [] := by
  unfold calFightF8 info FightInfo.victor FightInfo.loser
  by_cases first : (outcome round ua1 ua2).winner = 1
  all_goals
    simp only [first, if_true, if_false]
    refine ⟨_, rfl, fun r => ?_⟩
    by_cases same : r = round <;> simp [same]

/-- A round keeps its matches and lists their winners and losers in the order of the matches. -/
theorem fightAll_ranks (key : π → κ) (outcome : Round → α → α → Fought π) (round : Round) (xs ys : List α)
    (s : Standing α π) :
    ∃ result, (fightAll key (fun r x y => .ok (outcome r x y)) round xs ys s : Except ε (Standing α π)) =
        .ok ⟨result, s.winUuid ++ (List.zipWith (info outcome round) xs ys).map FightInfo.victor,
          s.failUuid ++ (List.zipWith (info outcome round) xs ys).map FightInfo.loser⟩ ∧
      ∀ r, result.fightInfoList r =
        s.pvpF8Result.fightInfoList r ++ if r = round then List.zipWith (info outcome round) xs ys else [] := by
  induction xs generalizing ys s with
  | nil => exact ⟨s.pvpF8Result, by simp [fightAll], by simp⟩
  | cons x rest ih =>
    cases ys with
    | nil => exact ⟨s.pvpF8Result, by simp [fightAll], by simp⟩
    | cons y more =>
      obtain ⟨first, ranked, kept⟩ := calFightF8_ranks key outcome round x y s
      obtain ⟨result, later, all⟩ := ih more
        ⟨first, s.winUuid ++ [(info outcome round x y).victor], s.failUuid ++ [(info outcome round x y).loser]⟩
      refine ⟨result, ?_, fun r => ?_⟩
      · simp only [fightAll, ranked, bind, Except.bind]
        simpa using later
      · rw [all, kept]
        split <;> simp

/-- The matches of a round, in the order they are fought. -/
structure Matches (α : Type) where
  a : FightInfo α
  b : FightInfo α
  c : FightInfo α
  d : FightInfo α

def Matches.list (m : Matches α) : List (FightInfo α) := [m.a, m.b, m.c, m.d]

section
variable (outcome : Round → α → α → Fought π)

def matches4 (e0 e1 e2 e3 e4 e5 e6 e7 : α) : Matches α :=
  ⟨info outcome .fight4 e6 e7, info outcome .fight4 e4 e5, info outcome .fight4 e2 e3, info outcome .fight4 e0 e1⟩

def matches3 (m : Matches α) : Matches α :=
  ⟨info outcome .fight3 m.d.victor m.a.loser, info outcome .fight3 m.c.victor m.b.loser,
    info outcome .fight3 m.b.victor m.c.loser, info outcome .fight3 m.a.victor m.d.loser⟩

def matches2 (m : Matches α) : Matches α :=
  ⟨info outcome .fight2 m.b.loser m.d.loser, info outcome .fight2 m.a.loser m.c.loser,
    info outcome .fight2 m.b.victor m.d.victor, info outcome .fight2 m.a.victor m.c.victor⟩

def matches1 (m : Matches α) : Matches α :=
  ⟨info outcome .fight1 m.c.loser m.d.loser, info outcome .fight1 m.c.victor m.d.victor,
    info outcome .fight1 m.a.loser m.b.loser, info outcome .fight1 m.a.victor m.b.victor⟩

end

def Matches.final8 (m : Matches α) : List α :=
  [m.a.victor, m.a.loser, m.b.victor, m.b.loser, m.c.victor, m.c.loser, m.d.victor, m.d.loser]

/-- The matches of the four rounds and the ranking they end in, whatever the outcomes. -/
theorem fight4_matches (key : π → κ) (outcome : Round → α → α → Fought π) (playerInfoList : List π)
    (e0 e1 e2 e3 e4 e5 e6 e7 : α) :
    let m4 := matches4 outcome e0 e1 e2 e3 e4 e5 e6 e7
    let m3 := matches3 outcome m4
    let m2 := matches2 outcome m3
    let m1 := matches1 outcome m2
    ∃ result, (fight4 key (fun r x y => .ok (outcome r x y)) [e0, e2, e4, e6] [e1, e3, e5, e7]
          ⟨{ playerInfoList, fightInfoList := fun _ => [] }, [], []⟩ : Except ε (PvpF8Result α π × List α)) =
        .ok (result, m1.final8) ∧
      result.fightInfoList .fight4 = m4.list ∧ result.fightInfoList .fight3 = m3.list ∧
      result.fightInfoList .fight2 = m2.list ∧ result.fightInfoList .fight1 = m1.list := by
  intro m4 m3 m2 m1
  obtain ⟨r4, fought4, kept4⟩ := fightAll_ranks (ε := ε) key outcome .fight4 [e6, e4, e2, e0] [e7, e5, e3, e1]
    ⟨{ playerInfoList, fightInfoList := fun _ => [] }, [], []⟩
  obtain ⟨r3, fought3, kept3⟩ := fightAll_ranks (ε := ε) key outcome .fight3
    [m4.d.victor, m4.c.victor, m4.b.victor, m4.a.victor] [m4.a.loser, m4.b.loser, m4.c.loser, m4.d.loser] ⟨r4, [], []⟩
  obtain ⟨r2, fought2, kept2⟩ := fightAll_ranks (ε := ε) key outcome .fight2
    [m3.b.loser, m3.a.loser, m3.b.victor, m3.a.victor] [m3.d.loser, m3.c.loser, m3.d.victor, m3.c.victor] ⟨r3, [], []⟩
  obtain ⟨r1, fought1, kept1⟩ := fightAll_ranks (ε := ε) key outcome .fight1
    [m2.c.loser, m2.c.victor, m2.a.loser, m2.a.victor] [m2.d.loser, m2.d.victor, m2.b.loser, m2.b.victor] ⟨r2, [], []⟩
  have last : fight1 key (fun r x y => .ok (outcome r x y)) [m2.a.victor, m2.a.loser, m2.c.victor, m2.c.loser]
      [m2.b.victor, m2.b.loser, m2.d.victor, m2.d.loser] ⟨r2, [], []⟩ = (.ok (r1, m1.final8) : Except ε _) := by
    unfold fight1
    exact congrArg (· >>= _) fought1
  have second : fight2 key (fun r x y => .ok (outcome r x y)) [m3.a.victor, m3.b.victor, m3.a.loser, m3.b.loser]
      [m3.c.victor, m3.d.victor, m3.c.loser, m3.d.loser] ⟨r3, [], []⟩ = (.ok (r1, m1.final8) : Except ε _) := by
    unfold fight2
    exact (congrArg (· >>= _) fought2).trans last
  have third : fight3 key (fun r x y => .ok (outcome r x y)) [m4.a.victor, m4.b.victor, m4.c.victor, m4.d.victor]
      [m4.d.loser, m4.c.loser, m4.b.loser, m4.a.loser] ⟨r4, [], []⟩ = (.ok (r1, m1.final8) : Except ε _) := by
    unfold fight3
    exact (congrArg (· >>= _) fought3).trans second
  refine ⟨r1, ?_, ?_, ?_, ?_, ?_⟩
  · unfold fight4
    exact (congrArg (· >>= _) fought4).trans third
  · rw [kept1, kept2, kept3, kept4]
    rfl
  · rw [kept1, kept2, kept3, kept4]
    rfl
  · rw [kept1, kept2, kept3, kept4]
    rfl
  · rw [kept1, kept2, kept3, kept4]
    rfl

/-- The matches `fightF8` has fought and the ranking it returns, whatever the outcomes. -/
theorem fightF8_matches (key : π → κ) (outcome : Round → α → α → Fought π) (playerInfoList : List π)
    (e : Entrants α) {e0 e1 e2 e3 e4 e5 e6 e7 : α} (area : e.userArea = [e0, e1, e2, e3, e4, e5, e6, e7]) :
    let m4 := matches4 outcome e0 e1 e2 e3 e4 e5 e6 e7
    let m3 := matches3 outcome m4
    let m2 := matches2 outcome m3
    let m1 := matches1 outcome m2
    ∃ result, (fightF8 key (fun r x y => .ok (outcome r x y)) playerInfoList e :
          Except ε (PvpF8Result α π × List α)) = .ok (result, m1.final8) ∧
      result.fightInfoList .fight4 = m4.list ∧ result.fightInfoList .fight3 = m3.list ∧
      result.fightInfoList .fight2 = m2.list ∧ result.fightInfoList .fight1 = m1.list := by
  unfold fightF8
  rw [area]
  exact fight4_matches key outcome playerInfoList e0 e1 e2 e3 e4 e5 e6 e7

/-! ### Everybody fights once a round -/

theorem Matches.final8_perm (m : Matches α) : m.final8.Perm (m.list.flatMap FightInfo.players) := by
  have swap : ∀ i : FightInfo α, [i.victor, i.loser].Perm i.players := by
    intro i
    unfold FightInfo.victor FightInfo.loser FightInfo.players
    split
    · exact List.Perm.refl _
    · exact List.Perm.swap _ _ _
  exact (swap m.a).append ((swap m.b).append ((swap m.c).append ((swap m.d).append List.Perm.nil)))

theorem seats_perm {a b c d e f g h : α} {seats : List α}
    (count : ∀ p : α → Bool, seats.countP p = [a, b, c, d, e, f, g, h].countP p) :
    seats.Perm [a, b, c, d, e, f, g, h] := by
  classical
  exact List.perm_iff_count.mpr fun x => count (· == x)

theorem matches4_players (outcome : Round → α → α → Fought π) (e0 e1 e2 e3 e4 e5 e6 e7 : α) :
    ((matches4 outcome e0 e1 e2 e3 e4 e5 e6 e7).list.flatMap FightInfo.players).Perm
      [e0, e1, e2, e3, e4, e5, e6, e7] := by
  refine seats_perm fun p => ?_
  simp only [Matches.list, matches4, info, FightInfo.players, List.flatMap_cons, List.flatMap_nil, List.cons_append,
    List.nil_append, List.countP_cons, List.countP_nil]
  omega

theorem matches3_players (outcome : Round → α → α → Fought π) (m : Matches α) :
    ((matches3 outcome m).list.flatMap FightInfo.players).Perm m.final8 := by
  refine seats_perm fun p => ?_
  simp only [Matches.list, matches3, info, FightInfo.players, List.flatMap_cons, List.flatMap_nil, List.cons_append,
    List.nil_append, List.countP_cons, List.countP_nil]
  omega

theorem matches2_players (outcome : Round → α → α → Fought π) (m : Matches α) :
    ((matches2 outcome m).list.flatMap FightInfo.players).Perm m.final8 := by
  refine seats_perm fun p => ?_
  simp only [Matches.list, matches2, info, FightInfo.players, List.flatMap_cons, List.flatMap_nil, List.cons_append,
    List.nil_append, List.countP_cons, List.countP_nil]
  omega

theorem matches1_players (outcome : Round → α → α → Fought π) (m : Matches α) :
    ((matches1 outcome m).list.flatMap FightInfo.players).Perm m.final8 := by
  refine seats_perm fun p => ?_
  simp only [Matches.list, matches1, info, FightInfo.players, List.flatMap_cons, List.flatMap_nil, List.cons_append,
    List.nil_append, List.countP_cons, List.countP_nil]
  omega

theorem Entrants.cases (e : Entrants α) :
    ∃ e0 e1 e2 e3 e4 e5 e6 e7, e.userArea = [e0, e1, e2, e3, e4, e5, e6, e7] := by
  obtain ⟨userArea, eight, _⟩ := e
  match userArea, eight with
  | [e0, e1, e2, e3, e4, e5, e6, e7], _ => exact ⟨e0, e1, e2, e3, e4, e5, e6, e7, rfl⟩

/-- Whoever fights, the ranking lists each once. -/
theorem matches1_final8 (outcome : Round → α → α → Fought π) (e0 e1 e2 e3 e4 e5 e6 e7 : α) :
    let m4 := matches4 outcome e0 e1 e2 e3 e4 e5 e6 e7
    let m3 := matches3 outcome m4
    let m2 := matches2 outcome m3
    let m1 := matches1 outcome m2
    let eight := [e0, e1, e2, e3, e4, e5, e6, e7]
    m1.final8.Perm eight ∧ ((m4.list.flatMap FightInfo.players).Perm eight ∧
      (m3.list.flatMap FightInfo.players).Perm eight ∧ (m2.list.flatMap FightInfo.players).Perm eight ∧
      (m1.list.flatMap FightInfo.players).Perm eight) := by
  have p4 := matches4_players outcome e0 e1 e2 e3 e4 e5 e6 e7
  have p3 := (matches3_players outcome _).trans ((Matches.final8_perm _).trans p4)
  have p2 := (matches2_players outcome _).trans ((Matches.final8_perm _).trans p3)
  have p1 := (matches1_players outcome _).trans ((Matches.final8_perm _).trans p2)
  exact ⟨(Matches.final8_perm _).trans p1, p4, p3, p2, p1⟩

/-- Every round pairs every entrant once and the ranking lists every entrant once. -/
theorem fightF8_paired (key : π → κ) (outcome : Round → α → α → Fought π) (playerInfoList : List π) (e : Entrants α) :
    ∃ result final8, (fightF8 key (fun r x y => .ok (outcome r x y)) playerInfoList e :
        Except ε (PvpF8Result α π × List α)) = .ok (result, final8) ∧
      final8.Perm e.userArea ∧
      ∀ round, ((result.fightInfoList round).flatMap FightInfo.players).Perm e.userArea := by
  obtain ⟨e0, e1, e2, e3, e4, e5, e6, e7, area⟩ := e.cases
  obtain ⟨result, ranked, l4, l3, l2, l1⟩ := fightF8_matches (ε := ε) key outcome playerInfoList e area
  obtain ⟨final8, p4, p3, p2, p1⟩ := matches1_final8 outcome e0 e1 e2 e3 e4 e5 e6 e7
  rw [area]
  refine ⟨result, _, ranked, final8, fun round => ?_⟩
  cases round with
  | fight4 => exact l4 ▸ p4
  | fight3 => exact l3 ▸ p3
  | fight2 => exact l2 ▸ p2
  | fight1 => exact l1 ▸ p1

/-! ### The ranking -/

theorem FightInfo.victor_mem (i : FightInfo α) : i.victor = i.player1 ∨ i.victor = i.player2 := by
  unfold FightInfo.victor
  split
  · exact .inl rfl
  · exact .inr rfl

theorem FightInfo.loser_mem (i : FightInfo α) : i.loser = i.player1 ∨ i.loser = i.player2 := by
  unfold FightInfo.loser
  split
  · exact .inr rfl
  · exact .inl rfl

/-- The last round is fought from the end of the arrays, so its first match, which fills the first
two places, is the one between the two winners of `fight3` that lost `fight2`. The final is its
second match. -/
theorem final8_head (outcome : Round → α → α → Fought π) (m : Matches α) {result : PvpF8Result α π}
    (l3 : result.fightInfoList .fight3 = m.list) (l2 : result.fightInfoList .fight2 = (matches2 outcome m).list) :
    ∃ first third, (matches1 outcome (matches2 outcome m)).final8[0]? = some first ∧
      (matches1 outcome (matches2 outcome m)).final8[2]? = some third ∧
      (result.Won .fight3 first ∧ result.Lost .fight2 first) ∧ result.Won .fight3 third ∧ result.Won .fight2 third := by
  have won3 : ∀ x, x = m.a.victor ∨ x = m.b.victor ∨ x = m.c.victor ∨ x = m.d.victor → result.Won .fight3 x := by
    intro x place
    unfold PvpF8Result.Won
    rw [l3]
    rcases place with rfl | rfl | rfl | rfl
    all_goals exact ⟨_, by simp [Matches.list], rfl⟩
  have in2 : (matches2 outcome m).c ∈ result.fightInfoList .fight2 ∧
      (matches2 outcome m).d ∈ result.fightInfoList .fight2 := by
    rw [l2]
    simp [Matches.list]
  refine ⟨_, _, rfl, rfl, ?_, ?_⟩
  · rcases (matches1 outcome (matches2 outcome m)).a.victor_mem with left | right
    · rw [left]
      refine ⟨won3 _ ?_, _, in2.1, rfl⟩
      rcases (matches2 outcome m).c.loser_mem with one | two
      · exact .inr (.inl one)
      · exact .inr (.inr (.inr two))
    · rw [right]
      refine ⟨won3 _ ?_, _, in2.2, rfl⟩
      rcases (matches2 outcome m).d.loser_mem with one | two
      · exact .inl one
      · exact .inr (.inr (.inl two))
  · rcases (matches1 outcome (matches2 outcome m)).b.victor_mem with left | right
    · rw [left]
      refine ⟨won3 _ ?_, _, in2.1, rfl⟩
      rcases (matches2 outcome m).c.victor_mem with one | two
      · exact .inr (.inl one)
      · exact .inr (.inr (.inr two))
    · rw [right]
      refine ⟨won3 _ ?_, _, in2.2, rfl⟩
      rcases (matches2 outcome m).d.victor_mem with one | two
      · exact .inl one
      · exact .inr (.inr (.inl two))

/-- Whatever the outcomes, the ranking disagrees with the matches: the first place goes to a player
that lost `fight2`, before the winner of the final. -/
theorem fightF8_disagrees (key : π → κ) (outcome : Round → α → α → Fought π) (playerInfoList : List π)
    (e : Entrants α) :
    ∃ result final8, (fightF8 key (fun r x y => .ok (outcome r x y)) playerInfoList e :
        Except ε (PvpF8Result α π × List α)) = .ok (result, final8) ∧ ¬ result.Agrees e.userArea final8 := by
  obtain ⟨e0, e1, e2, e3, e4, e5, e6, e7, area⟩ := e.cases
  obtain ⟨result, ranked, _, l3, l2, _⟩ := fightF8_matches (ε := ε) key outcome playerInfoList e area
  obtain ⟨first, third, place0, place2, low, high⟩ := final8_head outcome _ l3 l2
  refine ⟨result, _, ranked, fun agrees => ?_⟩
  have order := agrees.fight2 2 0 third first place2 place0 (.inl ⟨high.1, low.1⟩) high.2 low.2
  exact absurd order (by decide)

/-- The first player of every match wins: player 2 wins its last three matches, and the ranking
starts with player 6, which lost to it in `fight2`. -/
theorem fightF8_misranks :
    ¬ ∀ (outcome : Round → Nat → Nat → Fought Unit) (e : Entrants Nat) result final8,
      (fightF8 id (fun r x y => .ok (outcome r x y)) [] e : Except Unit (PvpF8Result Nat Unit × List Nat)) =
        .ok (result, final8) → result.Agrees e.userArea final8 := by
  intro agrees
  have wins := agrees (fun _ _ _ => ⟨(), (), 1, 0⟩) ⟨[0, 1, 2, 3, 4, 5, 6, 7], rfl, by decide⟩ _ _ rfl
  have order := wins.fight2 2 0 2 6 rfl rfl
    (.inl ⟨⟨⟨2, 5, 1, 0⟩, by decide, rfl⟩, ⟨6, 1, 1, 0⟩, by decide, rfl⟩)
    ⟨⟨2, 6, 1, 0⟩, by decide, rfl⟩ ⟨⟨2, 6, 1, 0⟩, by decide, rfl⟩
  exact absurd order (by decide)

end Tinygame.Pvp
