import Tinygame.Base.Run
import Tinygame.Hero.Experience

/-!
# Experience on the client

`AddExp` of `npc/hero.lua` and `AddExp`, `OnAddExp` and `AddHeroExp` of `player/ship.lua`. The client climbs by itself and
compares with what the server answers. A level without a row costs it 10000, and it knows no highest level.
-/

namespace Tinygame.Client.Experience
open Hero (Exprience Grown playerLevelLimit expLevelLimit climb passed passed_mono passed_succ limitLevel limitLevel_cases
  granted_total cost_pos climb_level_le climb_level_le_iff climb_low climb_granted_total getExpForUpgradeLevel)

def maxExp : Int := 10000

section
variable (l_tbLevelUpExp : Exprience)

def getLevelUpExp (nCurLevel : Int) : Int :=
  match l_tbLevelUpExp.rows nCurLevel with
  | some experience => experience
  | none => maxExp

/-- The loop of each `AddExp`, with its condition. -/
def enough (mine : Grown) : Bool := mine.curExp ≥ getLevelUpExp l_tbLevelUpExp mine.level

def levelUp (mine : Grown) : Grown :=
  whileDo (fun mine => mine.curExp.toNat) (enough l_tbLevelUpExp)
    (fun mine => ⟨mine.level + 1, mine.curExp - getLevelUpExp l_tbLevelUpExp mine.level⟩) mine

/-- `AddExp` of a ship. -/
def addExp (nExp : Int) (mine : Grown) : Grown := levelUp l_tbLevelUpExp (mine.granted nExp)

/-- What is kept, and whether a mismatch was reported. -/
def crossCheck (server mine : Grown) : Grown × Bool :=
  if mine.level ≠ server.level ∨ mine.curExp ≠ server.curExp then (server, true) else (mine, false)

/-- `AddExp` of a hero. -/
def heroAddExp (tbHero : Grown) (nExp : Int) (hero : Grown) : Grown × Bool := crossCheck tbHero (addExp l_tbLevelUpExp nExp hero)

/-- A player and the heroes of its team, by their ids. -/
structure Team where
  player : Grown
  heroes : Nat → Option Grown

structure Reports where
  player : Bool := false
  heroes : Nat → Bool := fun _ => false

inductive Grant where
  | team (nExp : Int)
  | hero (heroId : Nat) (nExp : Int)

/-- Who is not in the team, or not in the answer, is left alone. -/
def addHeroExp (teamList : Nat → Option Grown) (nExp : Int) (ship : Team) (heroId : Nat) : Option Grown × Bool :=
  match ship.heroes heroId, teamList heroId with
  | some hero, some tbHero =>
    let checked := heroAddExp l_tbLevelUpExp tbHero nExp hero
    (some checked.1, checked.2)
  | hero, _ => (hero, false)

/-- The ship after the answer to a grant, and what was reported. -/
def onAddExp (answer ship : Team) : Grant → Team × Reports
  | .team nExp =>
    let checked := crossCheck answer.player (addExp l_tbLevelUpExp nExp ship.player)
    let heroes := addHeroExp l_tbLevelUpExp answer.heroes nExp ship
    ({ player := checked.1, heroes := fun heroId => (heroes heroId).1 },
      { player := checked.2, heroes := fun heroId => (heroes heroId).2 })
  | .hero heroId nExp =>
    let told := addHeroExp l_tbLevelUpExp answer.heroes nExp ship heroId
    ({ ship with heroes := fun id => if id = heroId then told.1 else ship.heroes id }, { heroes := fun id => id = heroId && told.2 })

/-- The server's side of a grant. -/
def serve (server : Team) : Grant → Team
  | .team exp => {
      player := (Hero.addPlayerExp l_tbLevelUpExp exp server.player).1
      heroes := fun heroId => (server.heroes heroId).map (Hero.addHeroExp l_tbLevelUpExp exp) }
  | .hero heroId exp => { server with
      heroes := fun id => if id = heroId then (server.heroes id).map (Hero.addHeroExp l_tbLevelUpExp exp) else server.heroes id }

/-- The server's team and the client's. -/
structure Both where
  server : Team
  ship : Team

def grant (both : Both) (granted : Grant) : Both where
  server := serve l_tbLevelUpExp both.server granted
  ship := (onAddExp l_tbLevelUpExp (serve l_tbLevelUpExp both.server granted) both.ship granted).1

/-- The check after a grant finds the same level and experience for everybody. -/
def Silent (both : Both) (granted : Grant) : Prop :=
  let reports := (onAddExp l_tbLevelUpExp (serve l_tbLevelUpExp both.server granted) both.ship granted).2
  reports.player = false ∧ ∀ heroId, reports.heroes heroId = false

/-! ### When they agree -/

theorem levelUpExp_pos (level : Int) : 0 < getLevelUpExp l_tbLevelUpExp level := by
  unfold getLevelUpExp
  split
  · rename_i experience found
    exact l_tbLevelUpExp.positive level experience found
  · decide

/-- The client's costs as a table without gaps. -/
def clientCosts : Exprience where
  rows level := some (getLevelUpExp l_tbLevelUpExp level)
  positive level _ found := Option.some.inj found ▸ levelUpExp_pos l_tbLevelUpExp level

/-- With the grant there is not enough to leave a level that has no row, nor the highest one. -/
def Short (mine : Grown) (nExp : Int) : Prop :=
  ∀ level, mine.level ≤ level → l_tbLevelUpExp.rows level = none ∨ playerLevelLimit ≤ level →
    mine.total (clientCosts l_tbLevelUpExp) + nExp < passed (clientCosts l_tbLevelUpExp) (level + 1)

/-- A hero is not granted more than the server credits at once. -/
def ShortHero (hero : Option Grown) (nExp : Int) : Prop :=
  ∀ mine, hero = some mine → nExp ≤ expLevelLimit ∧ Short l_tbLevelUpExp mine nExp

def Fits (server : Team) : Grant → Prop
  | .team nExp => Short l_tbLevelUpExp server.player nExp ∧ ∀ heroId, ShortHero l_tbLevelUpExp (server.heroes heroId) nExp
  | .hero heroId nExp => ShortHero l_tbLevelUpExp (server.heroes heroId) nExp

end

/-- A level as the server has it. -/
def Ranked (mine : Grown) : Prop := 1 ≤ mine.level ∧ mine.level ≤ playerLevelLimit

structure Team.Ranked (team : Team) : Prop where
  player : Experience.Ranked team.player
  heroes : ∀ heroId hero, team.heroes heroId = some hero → Experience.Ranked hero

/-! ### Costs -/

section
variable {l_tbLevelUpExp : Exprience} {mine server : Grown} {level : Int}

theorem cost_clientCosts (level : Int) : getExpForUpgradeLevel (clientCosts l_tbLevelUpExp) level = getLevelUpExp l_tbLevelUpExp level := by
  have positive := levelUpExp_pos l_tbLevelUpExp level
  unfold getExpForUpgradeLevel clientCosts
  dsimp only
  rw [if_pos (by omega)]

/-- The client climbs as the server would with the client's costs. -/
theorem levelUp_eq (mine : Grown) : levelUp l_tbLevelUpExp mine = climb (clientCosts l_tbLevelUpExp) mine := by
  unfold levelUp climb enough Hero.canUpgrade Hero.upgrade
  simp only [cost_clientCosts, ge_iff_le]

theorem levelUp_ends (mine : Grown) :
    (levelUp l_tbLevelUpExp mine).curExp < getLevelUpExp l_tbLevelUpExp (levelUp l_tbLevelUpExp mine).level := by
  rw [levelUp_eq, ← cost_clientCosts]
  exact climb_low _ mine

/-- No level costs the server less. -/
theorem costs_le (level : Int) : getLevelUpExp l_tbLevelUpExp level ≤ getExpForUpgradeLevel l_tbLevelUpExp level := by
  unfold getLevelUpExp getExpForUpgradeLevel
  cases found : l_tbLevelUpExp.rows level with
  | none => decide
  | some experience =>
    have positive := l_tbLevelUpExp.positive level experience found
    dsimp only
    rw [if_pos (by omega)]

theorem costs_eq_iff (level : Int) :
    getLevelUpExp l_tbLevelUpExp level = getExpForUpgradeLevel l_tbLevelUpExp level ↔ l_tbLevelUpExp.rows level ≠ none := by
  unfold getLevelUpExp getExpForUpgradeLevel
  cases found : l_tbLevelUpExp.rows level with
  | none => simp [maxExp, expLevelLimit]
  | some experience =>
    have positive := l_tbLevelUpExp.positive level experience found
    dsimp only
    rw [if_pos (by omega)]
    simp

/-- What the server has passed more than the client never shrinks, and grows with each level that has no row. -/
theorem passed_gap (l_tbLevelUpExp : Exprience) {low high : Int} (start : 1 ≤ low) (upward : low ≤ high) :
    passed (clientCosts l_tbLevelUpExp) high - passed (clientCosts l_tbLevelUpExp) low ≤
      passed l_tbLevelUpExp high - passed l_tbLevelUpExp low := by
  induction high, upward using Int.leInduction with
  | base => omega
  | succ high upward ih =>
    have le : getLevelUpExp l_tbLevelUpExp high ≤ _ := costs_le high
    rw [passed_succ _ (start.trans upward), passed_succ _ (start.trans upward), cost_clientCosts]
    omega

theorem passed_gap_lt {low high : Int} (start : 1 ≤ low) (upward : low ≤ level) (below : level < high)
    (none_ : l_tbLevelUpExp.rows level = none) :
    passed (clientCosts l_tbLevelUpExp) high - passed (clientCosts l_tbLevelUpExp) low <
      passed l_tbLevelUpExp high - passed l_tbLevelUpExp low := by
  have le : getLevelUpExp l_tbLevelUpExp level ≤ _ := costs_le level
  have different : getLevelUpExp l_tbLevelUpExp level ≠ _ := fun same => (costs_eq_iff level).mp same none_
  have before : _ ≤ passed l_tbLevelUpExp level - _ := passed_gap _ start upward
  have after : _ ≤ passed l_tbLevelUpExp high - _ := passed_gap _ (show 1 ≤ level + 1 by omega) (Int.add_one_le_of_lt below)
  rw [passed_succ _ (start.trans upward), passed_succ _ (start.trans upward), cost_clientCosts] at after
  omega

/-- Where each level that the client leaves has a row the server climbs with it. -/
theorem climb_eq_levelUp
    (rows : ∀ level, mine.level ≤ level → level < (levelUp l_tbLevelUpExp mine).level → l_tbLevelUpExp.rows level ≠ none) :
    climb l_tbLevelUpExp mine = levelUp l_tbLevelUpExp mine := by
  rw [levelUp_eq] at rows ⊢
  suffices together : mine.level ≤ (climb (clientCosts l_tbLevelUpExp) mine).level ∧
      ((∀ level, mine.level ≤ level → level < (climb (clientCosts l_tbLevelUpExp) mine).level → l_tbLevelUpExp.rows level ≠ none) →
        climb l_tbLevelUpExp mine = climb (clientCosts l_tbLevelUpExp) mine) from together.2 rows
  apply whileDo_related (R := fun s t : Grown => s.level ≤ t.level ∧
    ((∀ level, s.level ≤ level → level < t.level → l_tbLevelUpExp.rows level ≠ none) → climb l_tbLevelUpExp s = t)) Hero.upgrade_lowers
  · intro s stopped
    refine ⟨le_refl _, fun _ => ?_⟩
    have short := Hero.canUpgrade_eq_false.mp stopped
    have le : getLevelUpExp l_tbLevelUpExp s.level ≤ _ := costs_le s.level
    rw [cost_clientCosts] at short
    rw [Hero.climb_eq, Hero.canUpgrade_eq_false.mpr (by omega)]
    rfl
  · intro s t going later
    obtain ⟨upward, same⟩ := later
    have above : s.level < t.level := by
      simp only [Hero.upgrade] at upward
      omega
    refine ⟨above.le, fun rows => ?_⟩
    have cost := (costs_eq_iff s.level).mpr (rows s.level (le_refl _) above)
    have pays := Hero.canUpgrade_iff.mp going
    rw [cost_clientCosts, cost] at pays
    have next : Hero.upgrade (clientCosts l_tbLevelUpExp) s = Hero.upgrade l_tbLevelUpExp s := by
      unfold Hero.upgrade
      rw [cost_clientCosts, cost]
    rw [Hero.climb_eq, if_pos (Hero.canUpgrade_iff.mpr pays), ← next]
    apply same
    intro level from_ below
    simp only [Hero.upgrade] at from_
    exact rows level (by omega) below

/-! ### One grant -/

theorem granted_level_le_iff (table : Exprience) (start : 1 ≤ mine.level) (upward : mine.level ≤ level) (exp : Int) :
    (climb table (mine.granted exp)).level ≤ level ↔ mine.total table + exp < passed table (level + 1) := by
  rw [← granted_total]
  exact climb_level_le_iff start upward

theorem addExp_eq (l_tbLevelUpExp : Exprience) (nExp : Int) (mine : Grown) :
    addExp l_tbLevelUpExp nExp mine = climb (clientCosts l_tbLevelUpExp) (mine.granted nExp) :=
  levelUp_eq (mine.granted nExp)

theorem addExp_level_le (l_tbLevelUpExp : Exprience) (nExp : Int) (mine : Grown) :
    mine.level ≤ (addExp l_tbLevelUpExp nExp mine).level := by
  rw [addExp_eq]
  exact climb_level_le _ (mine.granted nExp)

theorem short_iff (start : 1 ≤ mine.level) (nExp : Int) :
    Short l_tbLevelUpExp mine nExp ↔ ∀ level, mine.level ≤ level → l_tbLevelUpExp.rows level = none ∨ playerLevelLimit ≤ level →
      (addExp l_tbLevelUpExp nExp mine).level ≤ level := by
  rw [addExp_eq]
  constructor
  · intro short level upward bad
    exact (granted_level_le_iff _ start upward nExp).mpr (short level upward bad)
  · intro within level upward bad
    exact (granted_level_le_iff _ start upward nExp).mp (within level upward bad)

/-- A loop and the cut, as both functions of the server have them. -/
def served (l_tbLevelUpExp : Exprience) (exp : Int) (server : Grown) : Grown :=
  { climb l_tbLevelUpExp (server.granted exp) with level := limitLevel (Hero.uncapped l_tbLevelUpExp server exp) }

theorem served_capped (exp : Int) (server : Grown) : (served l_tbLevelUpExp exp server).level ≤ playerLevelLimit := by
  unfold served
  dsimp only
  rcases limitLevel_cases (Hero.uncapped l_tbLevelUpExp server exp) with ⟨cut, low⟩ | ⟨cut, -⟩ <;> omega

theorem served_ranked (l_tbLevelUpExp : Exprience) (ranked : Ranked mine) (exp : Int) : Ranked (served l_tbLevelUpExp exp mine) := by
  refine ⟨?_, served_capped exp mine⟩
  have climbed : mine.level ≤ Hero.uncapped l_tbLevelUpExp mine exp := climb_level_le _ (mine.granted exp)
  have start := ranked.1
  have limit : (1 : Int) ≤ playerLevelLimit := by decide
  unfold served
  dsimp only
  rcases limitLevel_cases (Hero.uncapped l_tbLevelUpExp mine exp) with ⟨cut, -⟩ | ⟨cut, -⟩ <;> omega

/-- The cut only loses. -/
theorem served_total_le (l_tbLevelUpExp : Exprience) (start : 1 ≤ mine.level) (exp : Int) :
    (served l_tbLevelUpExp exp mine).total l_tbLevelUpExp ≤ mine.total l_tbLevelUpExp + exp := by
  rw [← climb_granted_total start]
  have lower : (served l_tbLevelUpExp exp mine).level ≤ (climb l_tbLevelUpExp (mine.granted exp)).level := by
    unfold served Hero.uncapped
    dsimp only
    rcases limitLevel_cases (climb l_tbLevelUpExp (mine.granted exp)).level with ⟨cut, -⟩ | ⟨cut, above⟩ <;> omega
  have mono := passed_mono l_tbLevelUpExp lower
  unfold Grown.total
  exact Int.add_le_add_right mono _

theorem addExp_total (l_tbLevelUpExp : Exprience) (start : 1 ≤ mine.level) (nExp : Int) :
    (addExp l_tbLevelUpExp nExp mine).total (clientCosts l_tbLevelUpExp) = mine.total (clientCosts l_tbLevelUpExp) + nExp := by
  rw [addExp_eq, climb_granted_total start]

/-- A server that does not credit more, and knows a highest level, has what the client has only where each level left
has a row. -/
theorem short_of_same {exp nExp : Int} (start : 1 ≤ mine.level) (less : exp ≤ nExp)
    (credited : server.total l_tbLevelUpExp ≤ mine.total l_tbLevelUpExp + exp) (capped : server.level ≤ playerLevelLimit)
    (same : addExp l_tbLevelUpExp nExp mine = server) : exp = nExp ∧ Short l_tbLevelUpExp mine nExp := by
  have total := addExp_total l_tbLevelUpExp start nExp
  have upward := addExp_level_le l_tbLevelUpExp nExp mine
  rw [short_iff start, same]
  rw [same] at total upward
  have gap := passed_gap l_tbLevelUpExp start upward
  unfold Grown.total at total credited
  refine ⟨by omega, fun level from_ bad => ?_⟩
  by_contra below
  rcases bad with none_ | high
  · have strict := passed_gap_lt start from_ (Int.not_le.mp below) none_
    omega
  · omega

/-- Where each level left has a row the server does what the client does. -/
theorem served_of_short (ranked : Ranked mine) {exp : Int} (short : Short l_tbLevelUpExp mine exp) :
    served l_tbLevelUpExp exp mine = addExp l_tbLevelUpExp exp mine := by
  obtain ⟨start, within⟩ := ranked
  have stops := (short_iff start exp).mp short
  have climbed : climb l_tbLevelUpExp (mine.granted exp) = addExp l_tbLevelUpExp exp mine := by
    apply climb_eq_levelUp
    intro level from_ below none_
    exact absurd below (Int.not_lt.mpr (stops level from_ (.inl none_)))
  unfold served Hero.uncapped
  rw [climbed, Hero.limitLevel_of_le (stops playerLevelLimit within (.inr (le_refl _)))]

theorem agrees_iff (ranked : Ranked mine) {exp nExp : Int} (less : exp ≤ nExp) :
    addExp l_tbLevelUpExp nExp mine = served l_tbLevelUpExp exp mine ↔ exp = nExp ∧ Short l_tbLevelUpExp mine nExp := by
  constructor
  · exact short_of_same ranked.1 less (served_total_le _ ranked.1 exp) (served_capped exp mine)
  · rintro ⟨rfl, short⟩
    exact (served_of_short ranked short).symm

theorem Short.less {exp less : Int} (short : Short l_tbLevelUpExp mine exp) (le : less ≤ exp) : Short l_tbLevelUpExp mine less := by
  intro level upward bad
  have enough := short level upward bad
  omega

/-- What is short with both grants is short with the second after the first. -/
theorem Short.after {first second : Int} (start : 1 ≤ mine.level) (short : Short l_tbLevelUpExp mine (first + second)) :
    Short l_tbLevelUpExp (addExp l_tbLevelUpExp first mine) second := by
  intro level upward bad
  have higher := addExp_level_le l_tbLevelUpExp first mine
  have enough := short level (higher.trans upward) bad
  rw [addExp_total l_tbLevelUpExp start]
  omega

theorem addExp_ranked {exp : Int} (ranked : Ranked mine) (short : Short l_tbLevelUpExp mine exp) :
    Ranked (addExp l_tbLevelUpExp exp mine) := by
  have higher := addExp_level_le l_tbLevelUpExp exp mine
  have capped := (short_iff ranked.1 exp).mp short playerLevelLimit ranked.2 (.inr (le_refl _))
  exact ⟨ranked.1.trans higher, capped⟩

theorem addExp_add (l_tbLevelUpExp : Exprience) (mine : Grown) (first : Int) {second : Int} (nonneg : 0 ≤ second) :
    addExp l_tbLevelUpExp second (addExp l_tbLevelUpExp first mine) = addExp l_tbLevelUpExp (first + second) mine := by
  have added := Hero.climb_add (clientCosts l_tbLevelUpExp) nonneg (mine.granted first)
  rw [addExp_eq, addExp_eq, addExp_eq]
  unfold Grown.granted at added ⊢
  dsimp only at added ⊢
  rw [← Int.add_assoc]
  exact added

theorem crossCheck_eq (server mine : Grown) : crossCheck server mine = if mine = server then (mine, false) else (server, true) := by
  unfold crossCheck
  by_cases same : mine = server
  · rw [if_pos same, same]
    simp
  · rw [if_neg same]
    apply if_pos
    by_contra fields
    obtain ⟨level, curExp⟩ := not_or.mp fields
    exact same (congrArg₂ Grown.mk (not_not.mp level) (not_not.mp curExp))

/-- After the check the client has what the server has. -/
theorem crossCheck_fst (server mine : Grown) : (crossCheck server mine).1 = server := by
  rw [crossCheck_eq]
  split
  · assumption
  · rfl

theorem crossCheck_silent_iff (server mine : Grown) : (crossCheck server mine).2 = false ↔ mine = server := by
  rw [crossCheck_eq]
  split <;> simp [*]

theorem player_silent_iff (ranked : Ranked mine) (nExp : Int) :
    (crossCheck (Hero.addPlayerExp l_tbLevelUpExp nExp mine).1 (addExp l_tbLevelUpExp nExp mine)).2 = false ↔
      Short l_tbLevelUpExp mine nExp := by
  have start := ranked.1
  rw [crossCheck_silent_iff, Hero.addPlayerExp_eq (by omega)]
  exact (agrees_iff ranked (le_refl nExp)).trans (and_iff_right rfl)

theorem hero_silent_iff (ranked : Ranked mine) (nExp : Int) :
    (heroAddExp l_tbLevelUpExp (Hero.addHeroExp l_tbLevelUpExp nExp mine) nExp mine).2 = false ↔
      nExp ≤ expLevelLimit ∧ Short l_tbLevelUpExp mine nExp := by
  have start := ranked.1
  unfold heroAddExp
  rw [crossCheck_silent_iff]
  by_cases small : nExp ≤ expLevelLimit
  · rw [Hero.addHeroExp_eq (by omega) small]
    exact (agrees_iff ranked (le_refl nExp)).trans (and_congr_left' (by simp [small]))
  · rw [Hero.addHeroExp_cut (Int.not_le.mp small), Hero.addHeroExp_eq (by omega) (le_refl _)]
    refine (agrees_iff ranked (Int.not_le.mp small).le).trans (and_congr_left' ?_)
    constructor <;> intro <;> omega

/-! ### Runs -/

/-- One hero of the team, as the ship and the server's answer have it. -/
theorem addHeroExp_spec {ship : Team} (ranked : ship.Ranked) (teamList : Nat → Option Grown) (heroId : Nat) (nExp : Int)
    (answered : teamList heroId = (ship.heroes heroId).map (Hero.addHeroExp l_tbLevelUpExp nExp)) :
    (addHeroExp l_tbLevelUpExp teamList nExp ship heroId).1 = teamList heroId ∧
      ((addHeroExp l_tbLevelUpExp teamList nExp ship heroId).2 = false ↔ ShortHero l_tbLevelUpExp (ship.heroes heroId) nExp) := by
  unfold addHeroExp ShortHero
  rw [answered]
  cases found : ship.heroes heroId with
  | none => simp
  | some hero =>
    refine ⟨congrArg some (crossCheck_fst _ _), ?_⟩
    have silent : _ ↔ nExp ≤ expLevelLimit ∧ Short l_tbLevelUpExp hero nExp := hero_silent_iff (ranked.heroes heroId hero found) nExp
    simpa using silent

/-- Both sides have the same after a grant, whatever was reported. -/
theorem grant_same {team : Team} (ranked : team.Ranked) (granted : Grant) :
    grant l_tbLevelUpExp ⟨team, team⟩ granted = ⟨serve l_tbLevelUpExp team granted, serve l_tbLevelUpExp team granted⟩ := by
  cases granted with
  | team nExp =>
    have heroes : (fun heroId => (addHeroExp l_tbLevelUpExp (serve l_tbLevelUpExp team (.team nExp)).heroes nExp team heroId).1) =
        (serve l_tbLevelUpExp team (.team nExp)).heroes :=
      funext fun heroId => (addHeroExp_spec ranked _ heroId nExp rfl).1
    unfold grant onAddExp
    dsimp only
    rw [heroes, crossCheck_fst]
  | hero heroId nExp =>
    have heroes : (fun id => if id = heroId then
        (addHeroExp l_tbLevelUpExp (serve l_tbLevelUpExp team (.hero heroId nExp)).heroes nExp team heroId).1 else team.heroes id) =
        (serve l_tbLevelUpExp team (.hero heroId nExp)).heroes := by
      funext id
      by_cases same : id = heroId
      · rw [if_pos same, same]
        exact (addHeroExp_spec ranked _ heroId nExp (if_pos rfl)).1
      · rw [if_neg same]
        exact (if_neg same).symm
    unfold grant onAddExp
    dsimp only
    rw [heroes]
    rfl

theorem silent_iff {team : Team} (ranked : team.Ranked) (granted : Grant) :
    Silent l_tbLevelUpExp ⟨team, team⟩ granted ↔ Fits l_tbLevelUpExp team granted := by
  cases granted with
  | team nExp =>
    exact and_congr (player_silent_iff ranked.player nExp) (forall_congr' fun heroId => (addHeroExp_spec ranked _ heroId nExp rfl).2)
  | hero heroId nExp =>
    refine Iff.trans ?_ (addHeroExp_spec ranked (serve l_tbLevelUpExp team (.hero heroId nExp)).heroes heroId nExp (if_pos rfl)).2
    constructor
    · rintro ⟨-, silent⟩
      simpa [onAddExp] using silent heroId
    · intro silent
      refine ⟨rfl, fun id => ?_⟩
      simp [onAddExp, silent]

theorem addHeroExp_ranked (ranked : Ranked mine) (exp : Int) : Ranked (Hero.addHeroExp l_tbLevelUpExp exp mine) := by
  have start := ranked.1
  by_cases small : exp ≤ expLevelLimit
  · rw [Hero.addHeroExp_eq (by omega) small]
    exact served_ranked _ ranked exp
  · rw [Hero.addHeroExp_cut (Int.not_le.mp small), Hero.addHeroExp_eq (by omega) (le_refl _)]
    exact served_ranked _ ranked expLevelLimit

theorem serve_ranked {team : Team} (ranked : team.Ranked) (granted : Grant) : (serve l_tbLevelUpExp team granted).Ranked := by
  cases granted with
  | team nExp =>
    constructor
    · have start := ranked.player.1
      unfold serve
      dsimp only
      rw [Hero.addPlayerExp_eq (by omega)]
      exact served_ranked _ ranked.player nExp
    · intro heroId hero there
      obtain ⟨before, found, rfl⟩ := Option.map_eq_some_iff.mp there
      exact addHeroExp_ranked (ranked.heroes heroId before found) nExp
  | hero heroId nExp =>
    refine ⟨ranked.player, fun id hero there => ?_⟩
    unfold serve at there
    dsimp only at there
    split at there
    · obtain ⟨before, found, rfl⟩ := Option.map_eq_some_iff.mp there
      exact addHeroExp_ranked (ranked.heroes id before found) nExp
    · exact ranked.heroes id hero there

/-- The loops end, and along a run the check is silent exactly where each grant fits. -/
theorem experience_agrees_iff (l_tbLevelUpExp : Exprience) (start : Team) (ranked : start.Ranked) (grants : List Grant) :
    (∀ mine, (levelUp l_tbLevelUpExp mine).curExp < getLevelUpExp l_tbLevelUpExp (levelUp l_tbLevelUpExp mine).level) ∧
      (Along (grant l_tbLevelUpExp) (Silent l_tbLevelUpExp) ⟨start, start⟩ grants ↔
        Along (serve l_tbLevelUpExp) (Fits l_tbLevelUpExp) start grants) := by
  refine ⟨levelUp_ends, ?_⟩
  induction grants generalizing start with
  | nil => exact Iff.rfl
  | cons granted grants ih =>
    unfold Along
    rw [silent_iff ranked, grant_same ranked, ih _ (serve_ranked ranked granted)]

end

/-! ### The last row -/

/-- The last row there is. -/
def lastRow : Exprience where
  rows level := if level = 99 then some 39500 else none
  positive level experience found := by
    obtain ⟨-, ⟨⟩⟩ := Option.ite_none_right_eq_some.mp found
    decide

def alone (level curExp : Int) : Team := ⟨⟨level, curExp⟩, fun _ => none⟩

theorem alone_ranked {level : Int} (start : 1 ≤ level) (within : level ≤ playerLevelLimit) (curExp : Int) : (alone level curExp).Ranked :=
  ⟨⟨start, within⟩, fun _ _ there => absurd there.symm (Option.some_ne_none _)⟩

/-- Of 49500 the client spends the last 10000 on a level that the server does not have. -/
theorem lastRow_mismatch : ¬ Along (grant lastRow) (Silent lastRow) ⟨alone 99 0, alone 99 0⟩ [.team 49500] := by
  rintro ⟨⟨silent, -⟩, -⟩
  revert silent
  decide +kernel

theorem experience_agrees_iff_lastRow :
    (∀ mine, (levelUp lastRow mine).curExp < getLevelUpExp lastRow (levelUp lastRow mine).level) ∧
      (Along (grant lastRow) (Silent lastRow) ⟨alone 99 0, alone 99 0⟩ [.team 39500, .team 100] ↔
        Along (serve lastRow) (Fits lastRow) (alone 99 0) [.team 39500, .team 100]) :=
  experience_agrees_iff lastRow (alone 99 0) (alone_ranked (by decide) (by decide) 0) [.team 39500, .team 100]

end Tinygame.Client.Experience
