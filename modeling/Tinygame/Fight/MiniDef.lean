import Mathlib.Data.Rat.Floor
import Mathlib.Data.Rat.Defs

/-!
# Constants and tables of the mini fight

`minidef.lua`, the numbers the scripts compute with, and the configuration tables they read. A row holds the
fields that are read, in the shape in which they are read; an id may be that of no row. A list that `pairs`
walks stands in the order in which `pairs` walks it.
-/

namespace Tinygame.Fight

/-! ### Numbers -/

/-- What the scripts do with Lua's numbers. `fixed` is `tonumber(string.format("%.1f", x))`. -/
class Number (N : Type) extends Add N, Sub N, Mul N, Div N, LT N, LE N where
  num : Rat → N
  floor : N → N
  fixed : N → N
  decLt : ∀ a b : N, Decidable (a < b)
  decLe : ∀ a b : N, Decidable (a ≤ b)

export Number (num)

section
variable {N : Type} [Number N]

instance decidableLt (a b : N) : Decidable (a < b) := Number.decLt a b
instance decidableLe (a b : N) : Decidable (a ≤ b) := Number.decLe a b

/-- `math.max` -/
def Number.max (a b : N) : N := if a < b then b else a

end

/-- Numbers that are never rounded, as long as nothing is divided by 0. -/
structure Exact where
  value : Rat
deriving DecidableEq

namespace Exact

/-- The nearest multiple of a tenth, an even one between two. -/
def tenths (x : Rat) : Rat :=
  let below := (x * 10).floor
  let rest := x * 10 - below
  (if rest < 1 / 2 ∨ rest = 1 / 2 ∧ below % 2 = 0 then below else below + 1 : Int) / 10

instance : Number Exact where
  add a b := ⟨a.value + b.value⟩
  sub a b := ⟨a.value - b.value⟩
  mul a b := ⟨a.value * b.value⟩
  div a b := ⟨a.value / b.value⟩
  lt a b := a.value < b.value
  le a b := a.value ≤ b.value
  num x := ⟨x⟩
  floor a := ⟨a.value.floor⟩
  fixed a := ⟨tenths a.value⟩
  decLt a b := inferInstanceAs (Decidable (a.value < b.value))
  decLe a b := inferInstanceAs (Decidable (a.value ≤ b.value))

end Exact

/-! ### Constants -/

def BEGIN_TURN : Nat := 1
def MAX_TURN : Nat := 10

inductive Camp where
  | me
  | obs
deriving DecidableEq

def P_HEAD_LEFT : Nat := 1
def P_HEAD_RIGHT : Nat := 3
def P_BACK_LEFT : Nat := 4
def P_BACK_RIGHT : Nat := 6

def MIN_COST : Nat := 1
def MAX_COST : Nat := 6
def MAX_SUMMON_QUEUE_NUM : Nat := 4
def MAX_CAST_SKILL : Nat := 5
def MAX_STATUS_QUEUE_NUM : Nat := 5

/-- `for i = first, last do` -/
def positions (first last : Nat) : List Nat := List.range' first (last + 1 - first)

/-- `for i = n, 1, -1 do` -/
def downFrom (n : Nat) : List Nat := (List.range' 1 n).reverse

def SKILL_PRO {N : Type} [Number N] : Int → Option (List N)
  | 0 => some [num (166 / 10), num (166 / 10), num (166 / 10), num (166 / 10), num (166 / 10), num (167 / 10)]
  | 1 => some [num 100, num 0, num 0, num 0, num 0, num 0]
  | 2 => some [num 25, num 75, num 0, num 0, num 0, num 0]
  | 3 => some [num 5, num 20, num 75, num 0, num 0, num 0]
  | 4 => some [num 0, num 5, num 20, num 75, num 0, num 0]
  | 5 => some [num 0, num 0, num 5, num 20, num 75, num 0]
  | 6 => some [num 0, num 0, num 0, num 5, num 20, num 75]
  | _ => none

inductive ConditionType where
  | turnBegin | turnEnd | ourHeroNormalAtk | ourHeroMagic | ourHeroCall | ourHeroMutil | obsCast | ourCast | cast
  | beDamage | hurt | ourCurl | summonEnter | ourEnter | obsEnter | dead | ourDead
deriving DecidableEq

inductive TargetType where
  | hero
  | summon
deriving DecidableEq

inductive SearchType where
  | default | pos | self | obsSummon | maxSummon | minSummon | costUpSummon | costDownSummon | random | minHp | obsHero
  | selfHead | other
deriving DecidableEq

inductive SearchRange where
  | row | line | single
deriving DecidableEq

inductive Bingo where
  | miss | noMiss | must | other
deriving DecidableEq

inductive StatusType where
  | fly | shield | ridicule | add | immunity | dizz | reduce | sustain | skill
  | other (code : Nat)
deriving DecidableEq

inductive Attribute where
  | atk | defense | crit | dog | maxHp
  | other (code : Nat)
deriving DecidableEq

inductive StatusCond where
  | bingo | crit | other
deriving DecidableEq

inductive StatusTarget where
  | all
  | only (type : TargetType)
  | other
deriving DecidableEq

inductive Coexist where
  | no | all | up | other
deriving DecidableEq

/-! ### Tables -/

/-- The effect of a skill with the arguments of its type. Those of `kill` are for a creature and for a hero. -/
inductive SkillEffect (N : Type) where
  | status
  | attack (arg1 arg2 arg3 : N)
  | curl (arg1 arg2 : N)
  | mutil (arg1 arg2 arg3 arg4 : Int)
  | kill (arg1 arg2 arg3 : N × N)
  | add (arg1 : Int)
  | call (arg1 : Nat)
  | copy
  | common (arg1 arg2 arg3 : N)
  | other

/-- The effect of a status with the arguments of its type. An attribute stands beside its value. -/
inductive StatusEffect (N : Type) where
  | fly
  | shield (arg1 arg2 arg3 : N)
  | ridicule
  | add (attributes : List (Attribute × Option N))
  | immunity
  | dizz
  | reduce (attributes : List (Attribute × Option N))
  | sustain
  | skill (arg1 : Option Nat)
  | other (code : Nat)

def StatusEffect.type {N : Type} : StatusEffect N → StatusType
  | .fly => .fly
  | .shield .. => .shield
  | .ridicule => .ridicule
  | .add _ => .add
  | .immunity => .immunity
  | .dizz => .dizz
  | .reduce _ => .reduce
  | .sustain => .sustain
  | .skill _ => .skill
  | .other code => .other code

structure SkillRow (N : Type) where
  cost : Int
  probability : N
  level : N
  combo : List Nat
  skillresultsid : Nat
  camp : Nat
  target : SearchType
  rangetype : SearchRange
  pos : Option (List Nat)
  costarg : Option N
  hittype : Bingo

structure SkillResultRow (N : Type) where
  effect : SkillEffect N
  status : Option (List Nat)
  statuscondition : StatusCond
  dispel : Option (Int × Int)

structure StatusRow (N : Type) where
  effect : StatusEffect N
  targetactive : StatusTarget
  triggercondition : Option ConditionType
  duration : Int
  effectivetimes : Int

structure StatusTypeRow where
  coexist : Coexist
  statustype : Int
  disperse : Int

/-- A monster, or the fight info of a hero. `normalattack` is the id for each cost. -/
structure Info (N : Type) where
  level : Option N
  hp : Option N
  atk : Option N
  defense : Option N
  reducehurt : N
  penetrationlevel : N
  critlevel : N
  tenacitylevel : N
  hitlevel : N
  dodgelevel : N
  cost : Option N
  skill : Option (List Nat)
  skill_lvl : Option (Int → Option N)
  statusid : Option (List Nat)
  normalattack : Nat → Nat

structure HeroInfo (N : Type) extends Info N where
  pos : Nat
  id : Nat

structure MonsterRow (N : Type) extends Info N where
  comboid : Option (List Nat)

/-- `tbCharacter` keeps of a character its combo skills. -/
structure Tables (N : Type) where
  tbMonsterBox : Nat → Option (Nat → Option Nat)
  tbMonster : Nat → Option (MonsterRow N)
  tbSkill : Nat → Option (SkillRow N)
  tbSkillResult : Nat → Option (SkillResultRow N)
  tbStatus : Nat → Option (StatusRow N)
  tbStatusType : StatusType → Option StatusTypeRow
  tbCharacter : Nat → Option (Option (List Nat))

end Tinygame.Fight
