import Tinygame.Fight.MiniFunc
import Mathlib.Logic.Function.Basic

/-!
# Fighters

`fighter.lua`. A fighter is built from a team of heroes or from a monster box; `none` is a runtime error. The
creatures that wait behind a fighter, which the script chains by `next`, are a list beside it.
-/

namespace Tinygame.Fight

structure Status (N : Type) where
  id : Nat
  lvl : N
  duration : Option Int
  times : Option Int

/-- Skills, each with the weight it is drawn with. -/
structure Wheel (ι N : Type) where
  skill : List ι
  prop : List N

def Wheel.empty {ι N : Type} : Wheel ι N := ⟨[], []⟩

def Wheel.insert {ι N : Type} (wheel : Wheel ι N) (skill : ι) (prop : N) : Wheel ι N :=
  ⟨wheel.skill ++ [skill], wheel.prop ++ [prop]⟩

/-- A hero or a creature. `tbSkill` tells the level of each skill it knows. -/
structure Fighter (N : Type) where
  id : Nat
  nLVL : N
  nMaxHP : N
  nHP : N
  nAfk : N
  nDef : N
  nRed : N
  nPen : N
  nCrit : N
  nTen : N
  nHit : N
  nDog : N
  tbSkill : Nat → Option N
  skill_lvl : Option (Int → Option N)
  type : TargetType
  cost : Option N
  roundSkill : Option (Wheel Nat N)
  status : List (Status N)
  statusMark : StatusType → Bool
  normalattack : Nat → Nat

/-- A fighter on the board and those that follow it when it dies. -/
structure Post (N : Type) where
  fighter : Fighter N
  next : List (Fighter N)

/-- One side of a fight. The skills of its wheels stand with the position of their hero. -/
structure Side (N : Type) where
  totalHP : N
  MaxHP : N
  addCost : Int
  roundSkill : Int → Option (Wheel (Nat × Nat) N)
  combo : Int → Option (Wheel (Nat × Nat) N)
  posts : Nat → Option (Post N)

namespace Side
variable {N : Type}

def setPost (side : Side N) (pos : Nat) (post : Option (Post N)) : Side N :=
  { side with posts := Function.update side.posts pos post }

def modifyFighter (side : Side N) (pos : Nat) (f : Fighter N → Fighter N) : Side N :=
  side.setPost pos ((side.posts pos).map fun post => { post with fighter := f post.fighter })

def fighterAt (side : Side N) (pos : Nat) : Option (Fighter N) := (side.posts pos).map Post.fighter

end Side

section
variable {N : Type} [Number N]

def Side.empty : Side N where
  totalHP := num 0
  MaxHP := num 0
  addCost := 0
  roundSkill := fun _ => none
  combo := fun _ => none
  posts := fun _ => none

variable (tables : Tables N)

/-! ### Statuses -/

/-- A status as it is added. A duration or a number of uses of 0 is for ever. -/
def newStatus (row : StatusRow N) (statusid : Nat) (lvl : N) : Status N where
  id := statusid
  lvl := lvl
  duration := if row.duration = 0 then none else some row.duration
  times := if row.effectivetimes = 0 then none else some row.effectivetimes

def statusType (status : Status N) : Option StatusType := (tables.tbStatus status.id).map fun row => row.effect.type

/-- Only a type that does not coexist has a mark. -/
def Coexist.marked : Coexist → Bool
  | .no | .up => true
  | .all | .other => false

def replaceStatus (fighter : Fighter N) (statusid : Nat) (markPos : Nat) (lvl : N) : Option (Fighter N × Bool) := do
  let row ← tables.tbStatus statusid
  pure ({ fighter with status := fighter.status.set markPos (newStatus row statusid lvl) }, true)

def realAddStatus (fighter : Fighter N) (statusid : Nat) (lvl : N) : Option (Fighter N × Bool) := do
  if MAX_STATUS_QUEUE_NUM ≤ fighter.status.length then
    pure (fighter, false)
  else
    let row ← tables.tbStatus statusid
    let type ← tables.tbStatusType row.effect.type
    let mark := if type.coexist.marked then Function.update fighter.statusMark row.effect.type true else fighter.statusMark
    pure ({ fighter with status := fighter.status ++ [newStatus row statusid lvl], statusMark := mark }, true)

/-- Whether a status of the type is listed. -/
def findType (type : StatusType) : List (Status N) → Option Bool
  | [] => some false
  | status :: rest => do
    if (← statusType tables status) = type then pure true else findType type rest

/-- Whether a status of the type is listed, and where, from `i` on, the first of a lower level is. -/
def findLower (type : StatusType) (lvl : N) : Nat → Bool → List (Status N) → Option (Bool × Option Nat)
  | _, isIn, [] => some (isIn, none)
  | i, isIn, status :: rest => do
    if (← statusType tables status) = type then
      if status.lvl < lvl then pure (true, some i) else findLower type lvl (i + 1) true rest
    else findLower type lvl (i + 1) isIn rest

def addStatus (fighter : Fighter N) (statusid : Nat) (skill_lvl : N) : Option (Fighter N × Bool) := do
  let row ← tables.tbStatus statusid
  let type ← tables.tbStatusType row.effect.type
  if row.targetactive = .all ∨ row.targetactive = .only fighter.type then
    match type.coexist with
    | .no =>
      if ← findType tables row.effect.type fighter.status then pure (fighter, false)
      else realAddStatus tables fighter statusid skill_lvl
    | .up =>
      match ← findLower tables row.effect.type skill_lvl 0 false fighter.status with
      | (false, _) => realAddStatus tables fighter statusid skill_lvl
      | (true, some markPos) => replaceStatus tables fighter statusid markPos skill_lvl
      | (true, none) => pure (fighter, false)
    | .all => realAddStatus tables fighter statusid skill_lvl
    | .other => pure (fighter, false)
  else pure (fighter, false)

def initStatus (templete : Fighter N) (tbStatusID : Option (List Nat)) : Option (Fighter N) :=
  (tbStatusID.getD []).foldlM (fun templete statusid => (addStatus tables templete statusid templete.nLVL).map Prod.fst) templete

/-! ### Skills -/

def Fighter.learn (templete : Fighter N) (id : Nat) (lvl : N) : Fighter N :=
  { templete with tbSkill := Function.update templete.tbSkill id (some lvl) }

def initSummonSkill (templete : Fighter N) (skills : Option (List Nat)) : Option (Fighter N) :=
  let templete := { templete with roundSkill := some (templete.roundSkill.getD .empty) }
  (skills.getD []).foldlM (fun templete id => do
    let row ← tables.tbSkill id
    let wheel := (templete.roundSkill.getD .empty).insert id row.probability
    pure ({ templete with roundSkill := some wheel }.learn id row.level)) templete

/-- The level of a skill is that of the slot of its cost, if there is one. -/
def slotLevel (skill_lvl : Option (Int → Option N)) (row : SkillRow N) : N :=
  (skill_lvl.bind fun levels => levels row.cost).getD row.level

def Wheel.add (wheels : Int → Option (Wheel (Nat × Nat) N)) (cost : Int) (skill : Nat × Nat) (prop : N) :
    Int → Option (Wheel (Nat × Nat) N) :=
  Function.update wheels cost (some (((wheels cost).getD .empty).insert skill prop))

def initHeroSkill (fighter : Side N) (templete : Fighter N) (skills : Option (List Nat))
    (skill_lvl : Option (Int → Option N)) (pos : Nat) : Option (Side N × Fighter N) :=
  (skills.getD []).foldlM (fun (built : Side N × Fighter N) id => do
    let row ← tables.tbSkill id
    let roundSkill := Wheel.add built.1.roundSkill row.cost (id, pos) row.probability
    pure ({ built.1 with roundSkill := roundSkill }, built.2.learn id (slotLevel skill_lvl row))) (fighter, templete)

/-! ### Fighters -/

/-- The fighter before its skills and statuses. -/
def template (config : Info N) (id : Nat) (temp_type : TargetType) : Fighter N where
  id := id
  nLVL := config.level.getD (num 0)
  nMaxHP := config.hp.getD (num 0)
  nHP := config.hp.getD (num 0)
  nAfk := config.atk.getD (num 0)
  nDef := config.defense.getD (num 0)
  nRed := config.reducehurt / num 100
  nPen := config.penetrationlevel / num 10000
  nCrit := config.critlevel / num 10000
  nTen := config.tenacitylevel / num 10000
  nHit := config.hitlevel / num 10000
  nDog := config.dodgelevel / num 10000
  tbSkill := fun _ => none
  skill_lvl := config.skill_lvl
  type := temp_type
  cost := if temp_type = .hero then none else some (config.cost.getD (num 0))
  roundSkill := none
  status := []
  statusMark := fun _ => false
  normalattack := config.normalattack

def initTemplete (fighter : Side N) (config : Info N) (id : Nat) (temp_type : TargetType) (pos : Nat) :
    Option (Side N × Fighter N) := do
  let templete := template config id temp_type
  let (fighter, templete) ←
    if temp_type = .hero then
      let fighter :=
        { fighter with totalHP := fighter.totalHP + templete.nMaxHP, MaxHP := fighter.MaxHP + templete.nMaxHP }
      initHeroSkill tables fighter templete config.skill config.skill_lvl pos
    else
      (initSummonSkill tables templete config.skill).map fun templete => (fighter, templete)
  let templete ← initStatus tables templete config.statusid
  let templete := (positions MIN_COST MAX_COST).foldl (fun templete i => templete.learn (templete.normalattack i) (num 0)) templete
  pure (fighter, templete)

/-- The attacks it is given are learnt last. -/
def learnAttacks (list : List Nat) (fighter : Fighter N) : Fighter N :=
  list.foldl (fun templete i => templete.learn (templete.normalattack i) (num 0)) fighter

variable {tables} in
/-- A fighter gets its skills, then its statuses, then its attacks. -/
theorem initTemplete_cases {side side' : Side N} {config : Info N} {id pos : Nat} {kind : TargetType} {templete : Fighter N}
    (ran : initTemplete tables side config id kind pos = some (side', templete)) :
    ∃ skilled last, initStatus tables skilled config.statusid = some last ∧
      templete = learnAttacks (positions MIN_COST MAX_COST) last ∧
      match kind with
      | .hero =>
        let built := template config id .hero
        initHeroSkill tables { side with totalHP := side.totalHP + built.nMaxHP, MaxHP := side.MaxHP + built.nMaxHP } built
          config.skill config.skill_lvl pos = some (side', skilled)
      | .summon => side' = side ∧ initSummonSkill tables (template config id .summon) config.skill = some skilled := by
  unfold initTemplete at ran
  simp only [Option.bind_eq_bind, Option.pure_def] at ran
  cases kind with
  | hero =>
    rw [if_pos rfl] at ran
    obtain ⟨⟨middle, skilled⟩, first, ran⟩ := Option.bind_eq_some_iff.mp ran
    obtain ⟨last, second, ran⟩ := Option.bind_eq_some_iff.mp ran
    obtain ⟨rfl, rfl⟩ := Prod.mk.inj (Option.some.inj ran)
    exact ⟨skilled, last, second, rfl, first⟩
  | summon =>
    rw [if_neg nofun] at ran
    obtain ⟨⟨middle, skilled⟩, first, ran⟩ := Option.bind_eq_some_iff.mp ran
    obtain ⟨last, second, ran⟩ := Option.bind_eq_some_iff.mp ran
    obtain ⟨rfl, rfl⟩ := Prod.mk.inj (Option.some.inj ran)
    obtain ⟨creature, built, same⟩ := Option.map_eq_some_iff.mp first
    obtain ⟨rfl, rfl⟩ := Prod.mk.inj same
    exact ⟨_, last, second, rfl, rfl, built⟩

/-- A creature of the table, as a call brings it in. -/
def initSummon (monsterid : Nat) : Option (Fighter N) := do
  let row ← tables.tbMonster monsterid
  let (_, templete) ← initTemplete tables .empty row.toInfo monsterid .summon 0
  pure templete

def checkComboHero (fighter : Side N) (comboHero : List Nat) : Bool :=
  comboHero.all fun hero =>
    (positions P_BACK_LEFT P_BACK_RIGHT).all fun pos => (fighter.fighterAt pos).any fun there => there.id = hero

/-- A combo skill of the hero at `i` enters the wheels when its heroes are there; the hero knows it anyway. -/
def addCombo (level : Fighter N → SkillRow N → N) (i : Nat) (fighter : Side N) (comboid : Nat) : Option (Side N) := do
  let row ← tables.tbSkill comboid
  let fighter :=
    if checkComboHero fighter row.combo then
      { fighter with combo := Wheel.add fighter.combo row.cost (comboid, i) row.probability }
    else fighter
  pure (fighter.modifyFighter i fun hero => hero.learn comboid (level hero row))

/-- The combo skills of the heroes in the back row. -/
def addCombos (comboid : Nat → Option (Option (List Nat))) (level : Fighter N → SkillRow N → N) (fighter : Side N) :
    Option (Side N) :=
  (positions P_BACK_LEFT P_BACK_RIGHT).foldlM (fun fighter i =>
    match fighter.fighterAt i with
    | none => pure fighter
    | some hero => do
      let combo ← comboid hero.id
      (combo.getD []).foldlM (addCombo tables level i) fighter) fighter

def createFromMonsterBox (boxid : Nat) : Option (Option (Side N)) :=
  match tables.tbMonsterBox boxid with
  | none => some none
  | some tbConfig => do
    let fighter ← (positions P_HEAD_LEFT P_BACK_RIGHT).foldlM (fun fighter i =>
      match tbConfig i with
      | none => pure fighter
      | some monsterid => do
        let row ← tables.tbMonster monsterid
        let type := if P_HEAD_RIGHT < i then TargetType.hero else TargetType.summon
        let (fighter, templete) ← initTemplete tables fighter row.toInfo monsterid type i
        pure (fighter.setPost i (some ⟨templete, []⟩))) Side.empty
    let fighter ← addCombos tables (fun id => (tables.tbMonster id).map MonsterRow.comboid) (fun _ row => row.level) fighter
    pure (some fighter)

def createFromPlayer (tbHeros : List (HeroInfo N)) : Option (Side N) := do
  let fighter ← tbHeros.foldlM (fun fighter tbInfo => do
    let (fighter, templete) ← initTemplete tables fighter tbInfo.toInfo tbInfo.id .hero tbInfo.pos
    pure (fighter.setPost tbInfo.pos (some ⟨templete, []⟩))) Side.empty
  addCombos tables tables.tbCharacter (fun hero row => slotLevel hero.skill_lvl row) fighter

end

/-! ### Attributes -/

section
variable {N : Type} [Number N]

def getAttackDamage (nAfk_a nRedAll_b nPen_a : N) : N :=
  Number.max (nAfk_a * (num 1 - nRedAll_b) * (num 1 + nPen_a)) (num 1)

def getRedAllValue (nRed_b nDef_b nAfk_a : N) : N := Number.fixed (nRed_b + nDef_b / (nAfk_a / num 4 + nDef_b))

def getHiters (nLVL_a nLVL_b : N) : N := Number.fixed ((nLVL_a - nLVL_b) / num 100)

def getHitValue1 (nHit_a nDog_b nHiters_a : N) : N := Number.max (Number.fixed (nHit_a - nDog_b + nHiters_a)) (num (1 / 10))

def getHitValue2 (nHit_a nHiters_a : N) : N := Number.fixed (nHit_a + nHiters_a)

def getCriters (nLVL_a nLVL_b : N) : N := Number.fixed ((nLVL_a - nLVL_b) / num 200)

def getCritValue (nCrit_a nTen_b nCriters_a : N) : N :=
  Number.max (Number.fixed (nCrit_a - nTen_b + nCriters_a)) (num (5 / 100))

def desAttrValue (origin des : N) : N × N :=
  let value := origin - des
  if value < num 0 then (num 0, origin) else (value, des)

end

end Tinygame.Fight
