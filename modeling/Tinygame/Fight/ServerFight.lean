import Tinygame.Base.Run
import Tinygame.Fight.Faultless

/-!
# Fights on the server

`fight.js` and `svrfight.lua`. The two entry points hand what a fight is about to one Lua state through its globals, run the
script, and read the result from them. The globals outlive the call.
-/

namespace Tinygame.Fight

/-! ### The script -/

/-- What a global can hold: what JavaScript hands over, and what the script makes of it. `nil` is also what is false. -/
inductive Handed (P N : Type) where
  | nil
  | number (n : Nat)
  | other
  | player (info : P)
  | object
  | heros (tbHeros : List (HeroInfo N))
  | fighter (side : Side N)

/-- `seed` is that of `minifunc`. -/
structure Globals (P N : Type) where
  PVP : Bool := false
  INFO1 : Handed P N := .nil
  INFO2 : Handed P N := .nil
  SEED : Option Int := none
  RESULT : Nat := 0
  HPRATE : Option N := none
  seed : Int := 0

def Camp.code : Camp → Nat
  | .me => 1
  | .obs => 2

section
variable {P N : Type} [Number N] (heros : Handed P N → Option (List (HeroInfo N))) (tables : Tables N) (fuel : Nat)

/-- `CreatePlayer` and `GetHerosFightInfo`: of what is no table there is a player without heroes. -/
def fightInfo (handed : Handed P N) : Option (List (HeroInfo N)) :=
  match handed with
  | .nil | .number _ | .other => some []
  | .player _ | .object | .heros _ | .fighter _ => heros handed

/-- A fighter of a player, or what the global holds when an error ends the script. -/
def playerFighter (handed : Handed P N) : Except (Handed P N) (Handed P N) :=
  match fightInfo heros handed with
  | none => .error .object
  | some tbHeros =>
    match createFromPlayer tables tbHeros with
    | none => .error (.heros tbHeros)
    | some side => .ok (.fighter side)

/-- A fighter of a monster box. No box has a key that is no number. -/
def boxFighter (handed : Handed P N) : Except (Handed P N) (Handed P N) :=
  match handed with
  | .number boxid =>
    match createFromMonsterBox tables boxid with
    | none => .error handed
    | some none => .ok .nil
    | some (some side) => .ok (.fighter side)
  | _ => .ok .nil

def firstFighter (handed : Handed P N) : Except (Handed P N) (Handed P N) :=
  match handed with
  | .nil => .ok .nil
  | handed => playerFighter heros tables handed

def secondFighter (PVP : Bool) (handed : Handed P N) : Except (Handed P N) (Handed P N) :=
  match handed with
  | .nil => .ok .nil
  | handed => if PVP then playerFighter heros tables handed else boxFighter tables handed

/-- `startFight` and the assignment of what it returns. -/
def fought (globals : Globals P N) (side1 side2 : Side N) (seed : Int) : Globals P N :=
  let globals := { globals with seed := seed }
  let ended := coroutine tables fuel side1 side2 globals.seed
  let report := report ended
  { globals with
    INFO1 := .fighter (ended.state.field.fighters .me)
    INFO2 := .fighter (ended.state.field.fighters .obs)
    RESULT := report.winner.code
    HPRATE := some report.rate
    seed := ended.state.field.seed }

/-- `svrfight.lua`; the flag says whether it ran to its end. -/
def svrfight (globals : Globals P N) : Globals P N × Bool :=
  match firstFighter heros tables globals.INFO1 with
  | .error left => ({ globals with INFO1 := left }, false)
  | .ok info1 =>
    let globals := { globals with INFO1 := info1 }
    match secondFighter heros tables globals.PVP globals.INFO2 with
    | .error left => ({ globals with INFO2 := left }, false)
    | .ok info2 =>
      let globals := { globals with INFO2 := info2, RESULT := 2, HPRATE := some (num 0) }
      match globals.INFO1, globals.INFO2, globals.SEED with
      | .fighter side1, .fighter side2, some seed => (fought tables fuel globals side1 side2 seed, true)
      | _, _, _ => (globals, true)

/-! ### The entry points -/

/-- A call with the seed it draws. `none` is an undefined monster id. -/
inductive FightCall (P N : Type) where
  | fightEnemy (monsterid : Option (Handed P N)) (playerInfo : Handed P N) (seed : Int)
  | fightPvp (playerInfo1 playerInfo2 : Handed P N) (seed : Int)

/-- What the callback gets. -/
inductive FightAnswer where
  | error
  | result (result : Nat) (seed : Int)
deriving DecidableEq

/-- The globals are set, and the script runs. -/
def runScript (globals : Globals P N) (seed : Int) (info1 info2 : Handed P N) : Globals P N × FightAnswer :=
  let globals := { globals with SEED := some seed, INFO1 := info1, INFO2 := info2 }
  let (globals, ran) := svrfight heros tables fuel globals
  (globals, if ran then .result globals.RESULT seed else .error)

def serve (globals : Globals P N) (call : FightCall P N) : Globals P N × FightAnswer :=
  match call with
  | .fightEnemy none _ _ => (globals, .error)
  | .fightEnemy (some monsterid) playerInfo seed => runScript heros tables fuel globals seed playerInfo monsterid
  | .fightPvp playerInfo1 playerInfo2 seed =>
    runScript heros tables fuel { globals with PVP := true } seed playerInfo1 playerInfo2

def afterCall (globals : Globals P N) (call : FightCall P N) : Globals P N := (serve heros tables fuel globals call).1

/-- The answer of a call. -/
def answer (globals : Globals P N) (call : FightCall P N) : FightAnswer := (serve heros tables fuel globals call).2

/-- A process that has just begun. -/
def fresh : Globals P N := {}

end

/-! ### What is left behind -/

section
variable {P N : Type} [Number N] {heros : Handed P N → Option (List (HeroInfo N))} {tables : Tables N} {fuel : Nat}

/-- A call is served as in a process that has just begun. -/
def Apart (heros : Handed P N → Option (List (HeroInfo N))) (tables : Tables N) (fuel : Nat) (globals : Globals P N)
    (call : FightCall P N) : Prop :=
  answer heros tables fuel globals call = answer heros tables fuel fresh call

/-- No monster is fought after a player has been. -/
def NoMonsterAfterPvp (globals : Globals P N) (call : FightCall P N) : Prop :=
  ∀ monsterid playerInfo seed, call = .fightEnemy (some monsterid) playerInfo seed → globals.PVP = false

/-- Of the globals a script reads only whether players have been fought; the others it has been given. -/
theorem runScript_congr {before before' : Globals P N} (same : before.PVP = before'.PVP) (seed : Int) (info1 info2 : Handed P N) :
    (runScript heros tables fuel before seed info1 info2).2 = (runScript heros tables fuel before' seed info1 info2).2 := by
  unfold runScript svrfight
  dsimp only
  rw [same]
  cases first : firstFighter heros tables info1 with
  | error left => rfl
  | ok fighter1 =>
    cases second : secondFighter heros tables before'.PVP info2 with
    | error left => rfl
    | ok fighter2 =>
      dsimp only
      cases fighter1 with
      | fighter side1 => cases fighter2 <;> rfl
      | _ => rfl

/-- A monster that is fought after a player has been is taken for one. -/
theorem enemy_as_player {before : Globals P N} (marked : before.PVP = true) (monsterid playerInfo : Handed P N) (seed : Int) :
    answer heros tables fuel before (.fightEnemy (some monsterid) playerInfo seed) =
      answer heros tables fuel fresh (.fightPvp playerInfo monsterid seed) :=
  runScript_congr marked seed playerInfo monsterid

/-- And of its id the script makes a team without heroes. -/
theorem number_as_player (boxid : Nat) : secondFighter heros tables true (.number boxid) = .ok (.fighter .empty) := rfl

theorem apart_of_unmarked {before : Globals P N} {call : FightCall P N} (step : NoMonsterAfterPvp before call) :
    Apart heros tables fuel before call := by
  cases call with
  | fightEnemy monsterid playerInfo seed =>
    cases monsterid with
    | none => rfl
    | some monsterid => exact runScript_congr (step monsterid playerInfo seed rfl) seed playerInfo monsterid
  | fightPvp playerInfo1 playerInfo2 seed =>
    have marked : ({ before with PVP := true } : Globals P N).PVP = ({ fresh with PVP := true } : Globals P N).PVP := rfl
    exact runScript_congr marked seed playerInfo1 playerInfo2

end

/-! ### A lost fight that is won -/

/-- A box with one monster, a duellist with more life. -/
def boxTables : Tables Exact :=
  { duelTables with
    tbMonsterBox := fun boxid => if boxid = 1 then some fun pos => if pos = 5 then some 1 else none else none
    tbMonster := fun _ => some { (duellist none).toInfo with hp := some (num 1000), comboid := none } }

/-- The player is a duellist. -/
def onlyDuellist (_ : Handed Unit Exact) : Option (List (HeroInfo Exact)) := some [duellist none]

def enemyFight : FightCall Unit Exact := .fightEnemy (some (.number 1)) (.player ()) 1

end Tinygame.Fight
