import Tinygame.Fight.SkillEffect

/-!
# The mini fight

The turns of `minifight.lua`: who acts, which skill is cast, the queue of skills that follow, and the end of a
fight. `castSkill` calls itself through the queue; it is given fuel.
-/

namespace Tinygame.Fight
open Battle
variable {N : Type} [Number N] (tables : Tables N)

/-! ### Casting a skill -/

/-- The conditions of casting, those of the effect last. -/
def castConditions (camp : Camp) (idx : Nat) (effect : SkillEffect N) : Play N (List (BuffOp N)) := do
  let own ← condMe tables .cast camp idx
  let ours ← condCampAllExceptMe tables .ourCast camp idx
  let theirs ← condCampAll tables .obsCast (getObsCamp camp)
  let ofEffect ←
    match effect with
    | .common .. => condCampAllExceptMe tables .ourHeroNormalAtk camp idx
    | .mutil .. => condCampAllExceptMe tables .ourHeroMutil camp idx
    | .call _ => condCampAllExceptMe tables .ourHeroCall camp idx
    | _ => condCampAllExceptMe tables .ourHeroMagic camp idx
  pure (own ++ ours ++ theirs ++ ofEffect)

/-- Whether the effect is drawn to hit. -/
def SkillEffect.drawsBingo : SkillEffect N → Bool
  | .attack .. | .kill .. | .common .. => true
  | _ => false

def aim (targetCamp : Camp) (tbTarget : List Nat) (tb : SkillOp N) : SkillOp N :=
  { tb with target := fun target => if target ∈ tbTarget then some { tcamp := targetCamp, bingo := true } else none }

/-- The targets of the skill that are hit. -/
def hitTargets (camp targetCamp : Camp) (idx : Nat) (row : SkillRow N) (effect : SkillEffect N) (tbTarget : List Nat) :
    Play N (List Nat) :=
  if effect.drawsBingo then do
    let drawn ← calcBingo camp targetCamp idx row.hittype tbTarget
    drawn.2.forM fun target => Play.modifyTarget target fun op => { op with bingo := false }
    pure drawn.1
  else pure tbTarget

/-- A cast up to its effect. Without a target, or when all are missed, the skills that wait are not gone on with. -/
def takeEffect (camp : Camp) (idx skillid : Nat) (rein : Bool) : Battle N Bool := do
  match ← play (Play.fighter? camp idx) with
  | none => pure true
  | some _ => do
    let row ← play (Play.indexed (tables.tbSkill skillid))
    let result ← play (Play.indexed (tables.tbSkillResult row.skillresultsid))
    let targetCamp := if row.camp = 1 then camp else getObsCamp camp
    let buff ← play (castConditions tables camp idx result.effect)
    play (Play.modifyTb fun tb => { tb with beforeSearchBuff := buff })
    Traced.mark (.search camp targetCamp idx row result.effect)
    let tbTarget ← play (searchTarget camp targetCamp idx row result.effect)
    if tbTarget = [] then pure false
    else do
      play (Play.modifyTb (aim targetCamp tbTarget))
      let tbTarget ← play (hitTargets camp targetCamp idx row result.effect tbTarget)
      if tbTarget = [] then pure false
      else do
        Traced.mark (.skillEffect camp idx skillid rein)
        play (skillEffect tables camp targetCamp idx skillid result tbTarget rein)
        pure true

/-- `fightManager.castSkill = fightManager.castSkill + 1`, and the cast is recorded. -/
def endCast : Battle N Unit := do
  Traced.modify fun fight => { fight with castSkill := fight.castSkill + 1 }
  let fight ← Traced.read
  record (.skill fight.field.tb)

/-! ### Choosing a skill -/

/-- How a skill is cast: by whom, which, and whether it was queued. -/
abbrev Cast (N : Type) := Camp → Nat → Nat → Bool → Battle N Unit

def getNormalAtk (normalTable : Nat → Nat) (cost : Nat) : Nat :=
  if MIN_COST ≤ cost ∧ cost ≤ MAX_COST then normalTable cost else normalTable MAX_COST

/-- The heroes that are not dizzy. -/
def awake (side : Side N) : List Nat :=
  (positions P_BACK_LEFT P_BACK_RIGHT).filter fun pos => (side.fighterAt pos).any fun fighter => !fighter.statusMark .dizz

def castNormalAtk (cast : Cast N) (camp : Camp) : Battle N Unit := do
  let there ← play (side camp)
  let tbIdx := awake there
  if tbIdx = [] then pure ()
  else do
    let ret ← play (Play.random tbIdx.length)
    let idx ← play (Play.indexed tbIdx[ret - 1]?)
    let hero ← play (Play.fighter camp idx)
    let fight ← Traced.read
    cast camp idx (getNormalAtk hero.normalattack fight.field.turn) false

def heroCostSkill (cast : Cast N) (camp : Camp) (cost : Int) (rein : Bool) : Battle N Unit := do
  let there ← play (side camp)
  match there.roundSkill cost with
  | none => castNormalAtk cast camp
  | some wheel => do
    let skillIdx ← play (Play.getRandomIndex wheel.prop)
    if skillIdx = 0 then castNormalAtk cast camp
    else do
      let (skillid, idx) ← play (Play.indexed wheel.skill[skillIdx - 1]?)
      let hero ← play (Play.fighter camp idx)
      if hero.statusMark .dizz then castNormalAtk cast camp else cast camp idx skillid rein

def summonCostSkill (cast : Cast N) (camp : Camp) (pos : Nat) (rein : Bool) : Battle N Unit := do
  let summon ← play (Play.fighter camp pos)
  let fight ← Traced.read
  let normalatkid := getNormalAtk summon.normalattack fight.field.turn
  match summon.roundSkill with
  | none => cast camp pos normalatkid false
  | some wheel => do
    let skillIdx ← play (Play.getRandomIndex wheel.prop)
    if skillIdx = 0 then cast camp pos normalatkid false
    else do
      let skillid ← play (Play.indexed wheel.skill[skillIdx - 1]?)
      cast camp pos skillid rein

def randomCostSkill (cast : Cast N) (camp : Camp) (cost : Int) (type : TargetType) (pos : Nat) (rein : Bool) : Battle N Unit :=
  match type with
  | .hero => heroCostSkill cast camp cost rein
  | .summon => summonCostSkill cast camp pos rein

/-- The first of the skills that wait. -/
def castQueued (cast : Cast N) : Battle N Unit := do
  let fight ← Traced.read
  match fight.field.SkillQueue with
  | [] => pure ()
  | nextSkill :: rest => do
    play (Traced.modify fun field => { field with SkillQueue := rest, tb := { type := .queueskill, camp := nextSkill.camp } })
    Traced.mark (.nextSkill nextSkill)
    match nextSkill.id, nextSkill.cost with
    | some id, _ => cast nextSkill.camp nextSkill.idx id true
    | none, some cost => randomCostSkill cast nextSkill.camp cost nextSkill.type nextSkill.idx true
    | none, none => pure ()

def castSkill : Nat → Cast N
  | 0, _, _, _, _ => Traced.stop .outOfFuel
  | fuel + 1, camp, idx, skillid, rein => do
    play (Play.modifyTb fun tb => { tb with pos := some idx, skillid := some skillid, bcast := some true })
    Traced.mark (.castSkill camp idx skillid)
    let fight ← Traced.read
    if MAX_CAST_SKILL < fight.castSkill then
      play (Play.modifyTb fun tb => { tb with bcast := some false })
      endCast
    else do
      let goOn ← takeEffect tables camp idx skillid rein
      endCast
      if goOn then castQueued (castSkill fuel) else pure ()

/-! ### Turns -/

/-- A phase begins without skills that wait. -/
def beginPhase (tb : SkillOp N) : Battle N Unit :=
  Traced.modify fun fight => { fight with castSkill := 0, field := { fight.field with SkillQueue := [], tb := tb } }

def doHero (fuel : Nat) (camp : Camp) : Battle N Unit := do
  beginPhase { type := .skill, camp := camp }
  Traced.mark (.doHero camp)
  let cost ← play (randomSkillCost camp)
  play (Play.modifyTb fun tb => { tb with skillcost := some cost })
  Traced.mark (.combo camp cost)
  let there ← play (side camp)
  let comboIndex ←
    match there.combo cost with
    | none => pure 0
    | some wheel => play (Play.getRandomIndex wheel.prop)
  if 0 < comboIndex then
    -- `tbSkill` is indexed by the entry of the wheel instead of its skill, and there is no such row
    Traced.stop (.stop .error)
  else randomCostSkill (castSkill tables fuel) camp cost .hero 0 false

def actSummon (fuel : Nat) (camp : Camp) (i : Nat) : Battle N Unit := do
  match ← play (Play.fighter? camp i) with
  | none => pure ()
  | some _ => do
    if ← play (condDizz camp i) then pure ()
    else do
      play (Play.modifyTb fun _ => { type := .skill, camp := camp })
      randomCostSkill (castSkill tables fuel) camp 0 .summon i false

def doSummon (fuel : Nat) (camp : Camp) : Battle N Unit := do
  beginPhase { type := .skill, camp := camp }
  Traced.mark (.doSummon camp)
  (positions P_HEAD_LEFT P_HEAD_RIGHT).forM (actSummon tables fuel camp)

def getTurnCost (field : Field N) (camp : Camp) : Int :=
  let cost := (field.fighters camp).addCost + field.turn
  if (MAX_COST : Int) < cost then MAX_COST else cost

/-- One status at the end of a turn. The inner loop's variable is both its place and the position of the fighter
it is removed from. -/
def updateStatus (camp : Camp) (pos i : Nat) : Battle N Unit := do
  let there ← play (Play.fighter camp pos)
  let status ← play (Play.indexed there.status[i - 1]?)
  match status.duration with
  | none => pure ()
  | some duration =>
    if duration - 1 ≤ 0 then do
      Traced.mark (.expire camp pos i)
      let id ← play (removeAt tables camp i i)
      modifyTurn fun turn => { turn with tEndBuff := turn.tEndBuff ++ [(camp, i, id)] }
    else
      play (Play.modifyFighter camp pos fun fighter =>
        { fighter with status := fighter.status.modify (i - 1) fun status => { status with duration := some (duration - 1) } })

def updateFighter (camp : Camp) (pos : Nat) : Battle N Unit := do
  match ← play (Play.fighter? camp pos) with
  | none => pure ()
  | some there => (downFrom there.status.length).forM (updateStatus tables camp pos)

def updateCond : Battle N Unit :=
  (positions P_HEAD_LEFT P_BACK_RIGHT).forM fun i => do
    updateFighter tables .me i
    updateFighter tables .obs i

def recordConditions (condition : ConditionType) : Battle N Unit := do
  let tb ← play (condAllProcess tables condition)
  tb.forM fun op => record (.buff op)

def doTurn (fuel turn : Nat) : Battle N Unit := do
  Traced.modify fun fight =>
    let field := { fight.field with turn := turn }
    { fight with field := field, data := fight.data ++ [{ tCost := getTurnCost field }] }
  Traced.mark .turnBegin
  recordConditions tables .turnBegin
  let fight ← Traced.read
  doHero tables fuel fight.black
  doHero tables fuel (getObsCamp fight.black)
  doSummon tables fuel fight.black
  doSummon tables fuel (getObsCamp fight.black)
  recordConditions tables .turnEnd
  updateCond tables
  Traced.mark .turnEnd
  play (checkEndFight none)

/-- The coroutine of `startFight`. -/
def allTurns (fuel : Nat) : Battle N Unit := (positions BEGIN_TURN MAX_TURN).forM (doTurn tables fuel)

/-! ### The fight -/

def createManager (fighter1 fighter2 : Side N) (seed : Int) : FightManager N :=
  let drawn := Fight.random seed 1 2
  { field :=
      { fighters := fun camp => match camp with | .me => fighter1 | .obs => fighter2
        turn := 0
        winner := none
        SkillQueue := []
        seed := drawn.2
        tb := { type := .skill, camp := .me } }
    black := if drawn.1 = 1 then .me else .obs
    data := []
    castSkill := 0 }

/-- What the coroutine yielded, or the message of its error, is recorded in the last turn. -/
def lastEntry : Except (Halt N) Unit → Option (Entry N)
  | .ok _ | .error (.stop (.yield none)) => none
  | .error (.stop (.yield (some tb))) => some (.skill tb)
  | .error (.stop .error) | .error .outOfFuel => some .message

/-- Nobody has won: the one who came second has. -/
def winnerOf (fight : FightManager N) : Camp := fight.field.winner.getD (getObsCamp fight.black)

/-- What `startFight` returns. -/
structure Report (N : Type) where
  data : List (TurnData N)
  winner : Camp
  rate : N

/-- The run of the coroutine of a fight. -/
def coroutine (fuel : Nat) (fighter1 fighter2 : Side N) (seed : Int) : Trail (Event N) (FightManager N) (Halt N) Unit :=
  allTurns tables fuel (createManager fighter1 fighter2 seed)

def report (ended : Trail (Event N) (FightManager N) (Halt N) Unit) : Report N where
  data := ended.state.data.modify (ended.state.data.length - 1) fun turn =>
    { turn with op := turn.op ++ (lastEntry ended.result).toList }
  winner := winnerOf ended.state
  rate :=
    let mine := ended.state.field.fighters .me
    Number.floor (mine.totalHP / mine.MaxHP * num 100)

def startFight (fuel : Nat) (fighter1 fighter2 : Side N) (seed : Int) : Report N :=
  report (coroutine tables fuel fighter1 fighter2 seed)

end Tinygame.Fight
