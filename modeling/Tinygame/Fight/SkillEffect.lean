import Tinygame.Fight.Conditions
import Tinygame.Fight.Search

/-!
# What a skill does

`calcBingo`, `skillEffect`, `hurt` and `checkEndFight` of `minifight.lua`.
-/

namespace Tinygame.Fight
open Play
variable {N : Type} [Number N] (tables : Tables N)

/-! ### Hits -/

/-- `minifunc.random(1, 100) * 0.01` -/
def drawPercent : Play N N := do
  let drawn ← Play.random 100
  pure (num drawn * num (1 / 100))

/-- The chance to hit, where it is drawn. -/
def hitValue (bingoType : Bingo) (attacker victim : Fighter N) : N :=
  let hiter := getHiters attacker.nLVL victim.nLVL
  match bingoType with
  | .miss => getHitValue1 attacker.nHit victim.nDog hiter
  | .noMiss => getHitValue2 attacker.nHit hiter
  | .must | .other => num 0

/-- The targets that are hit and those that are missed. They are drawn from the last to the first. -/
def calcBingo (camp targetCamp : Camp) (myIdx : Nat) (bingoType : Bingo) (tbTarget : List Nat) : Play N (List Nat × List Nat) :=
  if bingoType = .must then pure (tbTarget, [])
  else
    tbTarget.reverse.foldlM (fun drawn target => do
      let attacker ← fighter camp myIdx
      let victim ← fighter targetCamp target
      let rand ← drawPercent
      pure (if hitValue bingoType attacker victim < rand then (drawn.1, drawn.2 ++ [target]) else (target :: drawn.1, drawn.2)))
      ([], [])

/-! ### The end of the fight -/

/-- Who has lost has no life left. The coroutine is not resumed. -/
def loseFight (camp : Camp) (tb : Option (SkillOp N)) : Play N Unit := do
  let field ← Traced.read
  if (field.fighters camp).totalHP ≤ num 0 then
    Traced.modify fun field => { field with winner := some (getObsCamp camp) }
    Traced.stop (.yield tb)
  else pure ()

def checkEndFight (tb : Option (SkillOp N)) : Play N Unit := do
  loseFight .me tb
  loseFight .obs tb

/-- In the middle of a skill. -/
def checkEndSkill : Play N Unit := do
  let field ← Traced.read
  checkEndFight (some field.tb)

/-! ### Statuses -/

def judgeStatus (result : SkillResultRow N) (targetCamp : Camp) (target : Nat) (skill_lvl : N) (bCrit : Bool) : Play N (List Nat) :=
  match result.status with
  | none => pure []
  | some status =>
    if result.statuscondition = .bingo ∨ result.statuscondition = .crit ∧ bCrit then
      createStatus tables targetCamp target status skill_lvl
    else pure []

/-! ### Damage -/

/-- `table.insert` into a list of the record that nobody has made is an error, unless there is nothing to insert. -/
def insertNowhere (buff : List (BuffOp N)) : Play N Unit := if buff.isEmpty then pure () else Traced.stop .error

/-- What `hurt` returns. -/
structure Hurt where
  bImm : Bool
  bCrit : Bool
  bDead : Bool
  bHurt : Bool

/-- The conditions of a creature that comes on the board. -/
def enterConditions (camp : Camp) (pos : Nat) : Play N (List (BuffOp N)) := do
  let own ← condMe tables .summonEnter camp pos
  let ours ← condCampAllExceptMe tables .ourEnter camp pos
  let theirs ← condCampAll tables .obsEnter (getObsCamp camp)
  pure (own ++ ours ++ theirs)

/-- A creature of the target's queue takes its place. -/
def advance (targetCamp : Camp) (target : Nat) (first : Fighter N) (rest : List (Fighter N)) : Play N Unit := do
  setPost targetCamp target (some ⟨first, rest⟩)
  modifyTarget target fun op => { op with newSummonid := some first.id }
  Traced.mark (.advances targetCamp target)
  let own ← condMe tables .summonEnter targetCamp target
  insertNowhere own
  let ours ← condCampAllExceptMe tables .ourEnter targetCamp target
  insertNowhere ours
  let theirs ← condCampAll tables .obsEnter (getObsCamp targetCamp)
  insertNowhere theirs

/-- A creature without life leaves its position to the next of its queue. -/
def die (targetCamp : Camp) (target : Nat) : Play N Unit := do
  Traced.mark (.dies targetCamp target)
  let buff ← condCampAllExceptMe tables .ourDead targetCamp target
  insertNowhere buff
  let there ← side targetCamp
  match (there.posts target).map Post.next with
  | some (first :: rest) => advance tables targetCamp target first rest
  | _ => setPost targetCamp target none

def lessHp (hp damage : N) : N := if hp - damage < num 0 then num 0 else hp - damage

def hurtSummon (targetCamp : Camp) (target : Nat) (damage : N) : Play N Bool := do
  modifyTarget target fun op => { op with ball := some false }
  modifyFighter targetCamp target fun fighter => { fighter with nHP := lessHp fighter.nHP damage }
  let victim ← fighter targetCamp target
  modifyTarget target fun op => { op with hp := some victim.nHP, maxhp := some victim.nMaxHP }
  let bDead := decide (victim.nHP ≤ num 0)
  if bDead then die tables targetCamp target
  else
    Traced.mark (.survives targetCamp target)
    let buff ← condMe tables .beDamage targetCamp target
    insertNowhere buff
  modifyTarget target fun op => { op with bDead := some bDead }
  pure bDead

def hurtHero (targetCamp : Camp) (target : Nat) (damage : N) : Play N Unit := do
  modifyTarget target fun op => { op with ball := some true }
  let before ← side targetCamp
  let totalHP := before.totalHP - damage
  modifySide targetCamp fun side => { side with totalHP := totalHP }
  modifyTarget target fun op => { op with hp := some totalHP, maxhp := some before.MaxHP }
  if totalHP < num 0 then modifySide targetCamp fun side => { side with totalHP := num 0 }
  else
    Traced.mark (.survives targetCamp target)
    let buff ← condMe tables .beDamage targetCamp target
    insertNowhere buff

def hurt (camp : Camp) (idx : Nat) (targetCamp : Camp) (target : Nat) (damage : N) (type : TargetType) : Play N Hurt := do
  modifyTarget target fun op => { op with bCrit := some false, bImmu := some false, bShield := some false }
  let attacker ← fighter camp idx
  let victim ← fighter targetCamp target
  let criter := getCriters attacker.nLVL victim.nLVL
  let crit := getCritValue attacker.nCrit victim.nTen criter
  let rand ← drawPercent
  let bCrit := decide (rand ≤ crit)
  let damage := if bCrit then damage * num 2 else damage
  modifyTarget target fun op => { op with bCrit := some bCrit }
  let bImmu ← condImmu tables targetCamp target
  modifyTarget target fun op => { op with bImmu := some bImmu }
  if bImmu then pure ⟨true, false, false, false⟩
  else
    let shielded ← condShield tables targetCamp target damage
    let damage := Number.floor shielded.1
    modifyTarget target fun op => { op with bShield := some shielded.2, damage := some damage }
    if damage ≤ num 0 then pure ⟨false, bCrit, false, false⟩
    else
      Traced.mark (.harm targetCamp target damage)
      if type = .summon then
        let bDead ← hurtSummon tables targetCamp target damage
        pure ⟨false, bCrit, bDead, true⟩
      else
        hurtHero tables targetCamp target damage
        pure ⟨false, bCrit, false, true⟩

/-! ### Effects -/

/-- `B` is the target and `A` the caster. -/
def attackOf (attacker victim : Fighter N) : N :=
  getAttackDamage attacker.nAfk (getRedAllValue victim.nRed victim.nDef attacker.nAfk) attacker.nPen

/-- The effect on a common attack and an attack is the same. -/
def attack (camp : Camp) (idx : Nat) (targetCamp : Camp) (target : Nat) (skill_lvl arg1 arg2 arg3 : N) : Play N Hurt := do
  let attacker ← fighter camp idx
  let victim ← fighter targetCamp target
  let damage := skill_lvl * arg1 + arg2 + attackOf attacker victim * arg3
  let result ← hurt tables camp idx targetCamp target damage victim.type
  checkEndSkill
  pure result

def kill (camp : Camp) (idx : Nat) (targetCamp : Camp) (target : Nat) (skill_lvl : N) (arg1 arg2 arg3 : N × N) : Play N Hurt := do
  let attacker ← fighter camp idx
  let victim ← fighter targetCamp target
  let atk := attackOf attacker victim
  let result ←
    if P_HEAD_RIGHT < target then
      hurt tables camp idx targetCamp target (skill_lvl * arg1.2 + arg2.2 + atk * arg3.2) .hero
    else
      hurt tables camp idx targetCamp target (skill_lvl * arg1.1 + victim.nMaxHP * arg2.1 + atk * arg3.1) .summon
  checkEndSkill
  pure result

/-- The function `curl` of the script. -/
def curl (curHP maxHP curlValue : N) : N := if maxHP < curHP + curlValue then maxHP else curHP + curlValue

def curlEffect (targetCamp : Camp) (target : Nat) (skill_lvl arg1 arg2 : N) : Play N Unit := do
  let victim ← fighter targetCamp target
  let before ← side targetCamp
  if victim.type = .hero then
    let curlValue := Number.floor (skill_lvl * arg1 + before.MaxHP * arg2)
    Traced.mark (.curl targetCamp target curlValue)
    let hp := curl before.totalHP before.MaxHP curlValue
    modifySide targetCamp fun side => { side with totalHP := hp }
    modifyTarget target fun op =>
      { op with ball := some true, value := some curlValue, hp := some hp, maxhp := some before.MaxHP }
  else
    let curlValue := Number.floor (skill_lvl * arg1 + victim.nMaxHP * arg2)
    Traced.mark (.curl targetCamp target curlValue)
    let hp := curl victim.nHP victim.nMaxHP curlValue
    modifyFighter targetCamp target fun fighter => { fighter with nHP := hp }
    modifyTarget target fun op =>
      { op with ball := some false, value := some curlValue, hp := some hp, maxhp := some victim.nMaxHP }

/-- A skill that was queued does not queue others. -/
def mutil (camp : Camp) (idx target : Nat) (rein : Bool) (costs : List Int) : Play N Unit :=
  if rein then pure ()
  else do
    let skillcost := costs.filter fun cost => decide (0 < cost)
    skillcost.forM fun cost => addSkillQueue (some cost) camp (some idx) none
    modifyTarget target fun op => { op with skillcost := some (.inl skillcost) }

/-- The cost of the skill that is drawn this turn. -/
def randomSkillCost (camp : Camp) : Play N Nat := do
  let field ← Traced.read
  let cost := (field.fighters camp).addCost + field.turn
  let tbPro ← indexed (SKILL_PRO (if (MAX_COST : Int) < cost then 0 else cost))
  Play.getRandomIndex tbPro

/-- A call brings a creature on the board or into the queue of its position. -/
def callEffect (camp : Camp) (idx : Nat) (targetCamp : Camp) (target : Nat) (rein : Bool) (monsterid : Nat) : Play N Unit := do
  modifyTarget target fun op => { op with bSuc := some false, summonid := some monsterid }
  let success ←
    if P_HEAD_RIGHT < idx then do
      let there ← side targetCamp
      match there.posts target with
      | some post =>
        if post.next.length + 1 < MAX_SUMMON_QUEUE_NUM then
          modifyTarget target fun op => { op with bInQueue := some true }
          let summon ← indexed (initSummon tables monsterid)
          setPost targetCamp target (some { post with next := post.next ++ [summon] })
        pure false
      | none =>
        modifyTarget target fun op => { op with bSuc := some true }
        let summon ← indexed (initSummon tables monsterid)
        setPost targetCamp target (some ⟨summon, []⟩)
        let buff ← enterConditions tables targetCamp target
        modifyTarget target fun op => { op with enterBuff := buff }
        pure true
    else pure false
  if success || rein then pure ()
  else do
    let cost ← randomSkillCost camp
    addSkillQueue (some cost) camp (some idx) none
    modifyTarget target fun op => { op with bRein := some true, skillcost := some (.inr cost) }

/-- A hero copies the target, with those that follow it, to the empty position before itself. -/
def copyEffect (camp : Camp) (idx : Nat) (targetCamp : Camp) (target : Nat) : Play N Unit :=
  if P_HEAD_RIGHT < idx then do
    let pos := idx - P_HEAD_RIGHT
    let own ← side camp
    if own.present pos then pure ()
    else do
      let theirs ← side targetCamp
      let post ← indexed (theirs.posts target)
      if post.fighter.type = .summon then
        setPost camp pos (some post)
        modifyTarget target fun op =>
          { op with copycamp := some camp, copypos := some pos, summonid := some post.fighter.id }
        let buff ← enterConditions tables camp pos
        modifyTarget target fun op => { op with enterBuff := buff }
      else pure ()
  else pure ()

/-- What the loop over the targets has found: of the last target that was hurt, and whether one was healed. -/
structure Effects where
  bImm : Bool := false
  bCrit : Bool := false
  bDead : Bool := false
  bHurt : Bool := false
  bCurl : Bool := false

def Effects.ofHurt (effects : Effects) (hurt : Hurt) : Effects :=
  { effects with bImm := hurt.bImm, bCrit := hurt.bCrit, bDead := hurt.bDead, bHurt := hurt.bHurt }

/-- The effect of the skill on one target. -/
def effectOn (camp : Camp) (idx : Nat) (targetCamp : Camp) (target : Nat) (result : SkillResultRow N) (skill_lvl : N)
    (rein : Bool) (effects : Effects) : Play N Effects :=
  match result.effect with
  | .attack arg1 arg2 arg3 | .common arg1 arg2 arg3 => do
    let hurt ← attack tables camp idx targetCamp target skill_lvl arg1 arg2 arg3
    pure (effects.ofHurt hurt)
  | .curl arg1 arg2 => do
    curlEffect targetCamp target skill_lvl arg1 arg2
    pure { effects with bCurl := true }
  | .mutil arg1 arg2 arg3 arg4 => do
    mutil camp idx target rein [arg1, arg2, arg3, arg4]
    pure effects
  | .kill arg1 arg2 arg3 => do
    let hurt ← kill tables camp idx targetCamp target skill_lvl arg1 arg2 arg3
    pure (effects.ofHurt hurt)
  | .add cost => do
    modifySide targetCamp fun side => { side with addCost := side.addCost + cost }
    modifyTarget target fun op => { op with addCost := some cost }
    pure effects
  | .call monsterid => do
    callEffect tables camp idx targetCamp target rein monsterid
    pure effects
  | .copy => do
    copyEffect tables camp idx targetCamp target
    pure effects
  | .status => do
    let buff ← judgeStatus tables result targetCamp target skill_lvl false
    modifyTarget target fun op => { op with addBuff := buff }
    pure effects
  | .other => pure effects

/-- Only an attack and a cure bring statuses along and dispel others. -/
def SkillEffect.bringsStatus : SkillEffect N → Bool
  | .attack .. | .common .. | .curl .. | .kill .. => true
  | _ => false

def strike (camp : Camp) (idx skillid : Nat) (targetCamp : Camp) (result : SkillResultRow N) (skill_lvl : N) (rein : Bool)
    (effects : Effects) (target : Nat) : Play N Effects := do
  Traced.mark (.strike camp idx skillid targetCamp target result.effect)
  let effects ← effectOn tables camp idx targetCamp target result skill_lvl rein effects
  if !effects.bImm && !effects.bDead && result.effect.bringsStatus then
    let buff ← judgeStatus tables result targetCamp target skill_lvl effects.bCrit
    modifyTarget target fun op => { op with skillBuff := buff }
    match result.dispel with
    | none => pure effects
    | some dis => do
      let buff ← eraseStatus tables targetCamp target dis
      modifyTarget target fun op => { op with skillDis := buff }
      pure effects
  else pure effects

/-- The caster has to know the skill. -/
def skillEffect (camp targetCamp : Camp) (idx skillid : Nat) (result : SkillResultRow N) (tbTarget : List Nat) (rein : Bool) :
    Play N Unit := do
  let caster ← fighter camp idx
  let skill_lvl ← indexed (caster.tbSkill skillid)
  let effects ← tbTarget.foldlM (strike tables camp idx skillid targetCamp result skill_lvl rein) {}
  if effects.bHurt then
    let buff ← condMe tables .hurt camp idx
    modifyTb fun tb => { tb with hurtBuff := buff }
  if effects.bCurl then
    let buff ← condCampAllExceptMe tables .ourCurl camp idx
    modifyTb fun tb => { tb with curlBuff := buff }
  checkEndSkill

end Tinygame.Fight
