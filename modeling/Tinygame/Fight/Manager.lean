import Tinygame.Base.Traced
import Tinygame.Fight.Fighter

/-!
# The fight manager

What `minifight.lua` keeps of a fight, what it records of it, and the ways its coroutine stops. The part that
skills and statuses work on is the field. The record of the skill under way, which the functions of the script
pass on and fill in, is kept there too.
-/

namespace Tinygame.Fight

/-! ### The record -/

structure BuffOp (N : Type) where
  camp : Camp
  pos : Option Nat
  id : Nat
  value : Attribute → Option (N × Bool × N × N)
  skillid : Option Nat
  dis : Bool

structure TargetOp (N : Type) where
  tcamp : Camp
  bingo : Bool
  bCrit : Option Bool := none
  bImmu : Option Bool := none
  bShield : Option Bool := none
  damage : Option N := none
  ball : Option Bool := none
  value : Option N := none
  hp : Option N := none
  maxhp : Option N := none
  bDead : Option Bool := none
  newSummonid : Option Nat := none
  skillcost : Option (List Int ⊕ Int) := none
  addCost : Option Int := none
  bSuc : Option Bool := none
  summonid : Option Nat := none
  bInQueue : Option Bool := none
  bRein : Option Bool := none
  copycamp : Option Camp := none
  copypos : Option Nat := none
  enterBuff : List (BuffOp N) := []
  addBuff : List Nat := []
  skillBuff : List Nat := []
  skillDis : List Nat := []

inductive OpType where
  | skill
  | queueskill
deriving DecidableEq

structure SkillOp (N : Type) where
  type : OpType
  camp : Camp
  skillcost : Option Nat := none
  pos : Option Nat := none
  skillid : Option Nat := none
  bcast : Option Bool := none
  beforeSearchBuff : List (BuffOp N) := []
  target : Nat → Option (TargetOp N) := fun _ => none
  hurtBuff : List (BuffOp N) := []
  curlBuff : List (BuffOp N) := []

/-- What a turn records. The message of an error gets in among the operations. -/
inductive Entry (N : Type) where
  | skill (tb : SkillOp N)
  | buff (op : BuffOp N)
  | message

structure TurnData (N : Type) where
  tCost : Camp → Int
  op : List (Entry N) := []
  tEndBuff : List (Camp × Nat × Nat) := []

/-! ### The state -/

/-- A skill that waits: one skill, or a draw from the wheel of a cost. -/
structure SkillBag where
  id : Option Nat
  cost : Option Int
  camp : Camp
  idx : Nat
  type : TargetType

structure Field (N : Type) where
  fighters : Camp → Side N
  turn : Nat
  winner : Option Camp
  SkillQueue : List SkillBag
  seed : Int
  tb : SkillOp N

structure FightManager (N : Type) where
  field : Field N
  black : Camp
  data : List (TurnData N)
  castSkill : Nat

/-- The coroutine yields what it was at, or an error ends it. -/
inductive Stop (N : Type) where
  | yield (tb : Option (SkillOp N))
  | error

/-- A fight also ends when the fuel of `castSkill` does not suffice, of which the script knows nothing. -/
inductive Halt (N : Type) where
  | stop (reason : Stop N)
  | outOfFuel

/-- What a skill or a status is about to do on the field. `idx` is what the script passes for the position. -/
inductive Act (N : Type) where
  | active (camp : Camp) (idx : Option Nat) (owner statusPos : Nat)
  | shield (camp : Camp) (idx : Nat)
  | strike (camp : Camp) (idx skillid : Nat) (targetCamp : Camp) (target : Nat) (effect : SkillEffect N)
  | harm (camp : Camp) (pos : Nat) (damage : N)
  | survives (camp : Camp) (pos : Nat)
  | dies (camp : Camp) (pos : Nat)
  | advances (camp : Camp) (pos : Nat)
  | curl (camp : Camp) (pos : Nat) (value : N)
  | dispel (camp : Camp) (pos : Nat) (dis : Int × Int)

/-- What the fight is about to do. -/
inductive Event (N : Type) where
  | act (act : Act N)
  | turnBegin
  | turnEnd
  | doHero (camp : Camp)
  | doSummon (camp : Camp)
  | combo (camp : Camp) (cost : Nat)
  | castSkill (camp : Camp) (idx skillid : Nat)
  | search (camp targetCamp : Camp) (idx : Nat) (row : SkillRow N) (effect : SkillEffect N)
  | skillEffect (camp : Camp) (idx skillid : Nat) (rein : Bool)
  | nextSkill (bag : SkillBag)
  | expire (camp : Camp) (pos statusPos : Nat)

abbrev Play (N : Type) := Traced (Act N) (Field N) (Stop N)
abbrev Battle (N : Type) := Traced (Event N) (FightManager N) (Halt N)

/-- `getObsCamp` -/
def getObsCamp : Camp → Camp
  | .me => .obs
  | .obs => .me

/-! ### The field -/

namespace Play
variable {N : Type}

/-- Indexing nil is an error. -/
def indexed {α : Type} (value : Option α) : Play N α := Traced.require .error value

def fighter? (camp : Camp) (pos : Nat) : Play N (Option (Fighter N)) := do
  let field ← Traced.read
  pure ((field.fighters camp).fighterAt pos)

/-- The fighter at a position where the script indexes it. -/
def fighter (camp : Camp) (pos : Nat) : Play N (Fighter N) := do
  let found ← fighter? camp pos
  indexed found

def modifySide (camp : Camp) (f : Side N → Side N) : Play N Unit :=
  Traced.modify fun field => { field with fighters := Function.update field.fighters camp (f (field.fighters camp)) }

def setPost (camp : Camp) (pos : Nat) (post : Option (Post N)) : Play N Unit := modifySide camp fun side => side.setPost pos post

def modifyFighter (camp : Camp) (pos : Nat) (f : Fighter N → Fighter N) : Play N Unit :=
  modifySide camp fun side => side.modifyFighter pos f

def modifyTb (f : SkillOp N → SkillOp N) : Play N Unit := Traced.modify fun field => { field with tb := f field.tb }

/-- `tb.target[target]`, which there is for every target of the skill. -/
def modifyTarget (target : Nat) (f : TargetOp N → TargetOp N) : Play N Unit :=
  modifyTb fun tb => { tb with target := Function.update tb.target target ((tb.target target).map f) }

def random (nEnd : Nat) : Play N Nat := do
  let field ← Traced.read
  let drawn := Fight.random field.seed 1 nEnd
  Traced.modify fun field => { field with seed := drawn.2 }
  pure drawn.1.toNat

def getRandomIndex [Number N] (tbPro : List N) : Play N Nat := do
  let field ← Traced.read
  let drawn := Fight.getRandomIndex field.seed tbPro
  Traced.modify fun field => { field with seed := drawn.2 }
  pure drawn.1

end Play

namespace Battle
variable {N : Type} {α : Type}

/-- On the field. -/
def play (m : Play N α) : Battle N α :=
  Traced.within FightManager.field (fun field fight => { fight with field := field }) Event.act Halt.stop m

def modifyTurn (f : TurnData N → TurnData N) : Battle N Unit :=
  Traced.modify fun fight => { fight with data := fight.data.modify (fight.field.turn - 1) f }

def record (entry : Entry N) : Battle N Unit := modifyTurn fun turn => { turn with op := turn.op ++ [entry] }

end Battle

end Tinygame.Fight
