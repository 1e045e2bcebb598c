import Tinygame.Fight.Faultless
import Tinygame.Fight.Team

/-!
# The order of `pairs`

`pairs` walks a table in an order that differs from one run of Lua to another. Two runs of `createFromPlayer` and
`startFight` that walk the heroes, their skills, the combos and the positions in other orders are compared.
-/

namespace Tinygame.Fight
variable {N : Type} {tables : Tables N}

/-! ### Walking again -/

/-- What `pairs` finds in a table, or in what is none, when it walks it once more. -/
inductive Rewalked : Option (List Nat) → Option (List Nat) → Prop
  | absent : Rewalked none none
  | table {walk walk' : List Nat} : walk.Perm walk' → Rewalked (some walk) (some walk')

/-- The same hero, whose skills are walked in another order. -/
structure SameHero (hero hero' : HeroInfo N) : Prop where
  skill : Rewalked hero.skill hero'.skill
  rest : hero' = { hero with skill := hero'.skill }

/-- The same team, whose heroes are walked in another order. -/
def SameTeam (tbHeros tbHeros' : List (HeroInfo N)) : Prop :=
  ∃ order, tbHeros.Perm order ∧ List.Forall₂ SameHero order tbHeros'

/-- The tables of `createFromPlayer`, which walks the combos. -/
structure BuildsAgain (tables tables' : Tables N) : Prop where
  combo : ∀ id, Option.Rel Rewalked (tables.tbCharacter id) (tables'.tbCharacter id)
  rest : tables' = { tables with tbCharacter := tables'.tbCharacter }

/-- Some skill calls the monster. -/
def Called (tables : Tables N) (monsterid : Nat) : Prop :=
  ∃ id result, tables.tbSkillResult id = some result ∧ result.effect = .call monsterid

/-- The tables of `startFight`, which walks the positions of a skill and the skills of a monster that is called. -/
structure FightsAgain (tables tables' : Tables N) : Prop where
  skill : ∀ id, tables'.tbSkill id = tables.tbSkill id ∨ ∃ row pos, tables.tbSkill id = some row ∧ row.target = .pos ∧
    Rewalked row.pos pos ∧ tables'.tbSkill id = some { row with pos := pos }
  monster : ∀ id, tables'.tbMonster id = tables.tbMonster id ∨ ∃ row skill, tables.tbMonster id = some row ∧ Called tables id ∧
    Rewalked row.skill skill ∧ tables'.tbMonster id = some { row with skill := skill }
  rest : tables' = { tables with tbSkill := tables'.tbSkill, tbMonster := tables'.tbMonster }

theorem Rewalked.perm {walk walk' : Option (List Nat)} (again : Rewalked walk walk') :
    (walk.getD []).Perm (walk'.getD []) := by
  cases again with
  | absent => exact List.Perm.refl _
  | table same => exact same

theorem heroSkills_same {hero hero' : HeroInfo N} (same : SameHero hero hero') : (heroSkills hero).Perm (heroSkills hero') := by
  unfold heroSkills
  rw [same.rest]
  exact same.skill.perm.map _

theorem flatMap_same {order tbHeros' : List (HeroInfo N)} (alike : List.Forall₂ SameHero order tbHeros') :
    (order.flatMap heroSkills).Perm (tbHeros'.flatMap heroSkills) := by
  induction alike with
  | nil => exact List.Perm.refl _
  | cons first _ ih =>
    rw [List.flatMap_cons, List.flatMap_cons]
    exact (heroSkills_same first).append ih

theorem rewalked_refl (walk : Option (List Nat)) : Rewalked walk walk := by
  cases walk with
  | none => exact .absent
  | some walk => exact .table (List.Perm.refl walk)

theorem buildsAgain_refl (tables : Tables N) : BuildsAgain tables tables := by
  apply BuildsAgain.mk
  · intro id
    cases tables.tbCharacter id with
    | none => exact .none
    | some walk => exact .some (rewalked_refl walk)
  · rfl

theorem fightsAgain_refl (tables : Tables N) : FightsAgain tables tables := ⟨fun _ => .inl rfl, fun _ => .inl rfl, rfl⟩

theorem sameTeam_of_perm {tbHeros order : List (HeroInfo N)} (same : tbHeros.Perm order) : SameTeam tbHeros order :=
  ⟨order, same, List.forall₂_same.mpr fun hero _ => ⟨rewalked_refl hero.skill, rfl⟩⟩

/-! ### Nothing left to the order -/

/-- All values of the list are one. -/
def Constant {α : Type} (l : List α) : Prop := ∀ x ∈ l, ∀ y ∈ l, x = y

theorem Constant.eq_of_perm {α : Type} {l l' : List α} (constant : Constant l) (same : l.Perm l') : l' = l := by
  apply List.ext_getElem same.length_eq.symm
  intro k short short'
  exact constant _ (same.mem_iff.mpr (List.getElem_mem short)) _ (List.getElem_mem short')

theorem Rewalked.eq {walk walk' : Option (List Nat)} (again : Rewalked walk walk') (constant : Constant (walk.getD [])) :
    walk' = walk := by
  cases again with
  | absent => rfl
  | table same => exact congrArg some (constant.eq_of_perm same)

/-- What `pairs` walks in a fight leaves nothing to the order: a position table names one position, and a monster that is
called knows one skill. -/
structure OneWay (tables : Tables N) : Prop where
  pos : ∀ id row, tables.tbSkill id = some row → row.target = .pos → Constant (row.pos.getD [])
  skill : ∀ id row, tables.tbMonster id = some row → Called tables id → Constant (row.skill.getD [])

theorem FightsAgain.eq {fight : Tables N} (again : FightsAgain tables fight) (oneWay : OneWay tables) : fight = tables := by
  have skill : fight.tbSkill = tables.tbSkill := by
    funext id
    rcases again.skill id with same | ⟨row, pos, found, target, walked, found'⟩
    · exact same
    · rw [found', walked.eq (oneWay.pos id row found target), found]
  have monster : fight.tbMonster = tables.tbMonster := by
    funext id
    rcases again.monster id with same | ⟨row, skill, found, called, walked, found'⟩
    · exact same
    · rw [found', walked.eq (oneWay.skill id row found called), found]
  rw [again.rest, skill, monster]

section
variable [Number N]

/-- What `pairs` walks when a team is built leaves nothing to the order: of two skills of one cost, two heroes at one
position and two combos of one cost that a hero gets, the one is the other, and the lives add up alike. -/
structure Settled (tables : Tables N) (tbHeros : List (HeroInfo N)) : Prop where
  skills : ∀ skill ∈ tbHeros.flatMap heroSkills, ∀ skill' ∈ tbHeros.flatMap heroSkills, ∀ row row',
    tables.tbSkill skill.1 = some row → tables.tbSkill skill'.1 = some row' → row.cost = row'.cost → skill = skill'
  heroes : ∀ hero ∈ tbHeros, ∀ hero' ∈ tbHeros, hero.pos = hero'.pos → hero = hero'
  combos : ∀ hero ∈ tbHeros, hero.pos ∈ positions P_BACK_LEFT P_BACK_RIGHT → ∀ combo,
    tables.tbCharacter hero.id = some (some combo) → ∀ id ∈ combo, ∀ id' ∈ combo, ∀ row row',
      tables.tbSkill id = some row → tables.tbSkill id' = some row' → row.cost = row'.cost →
        Meets tbHeros row.combo → Meets tbHeros row'.combo → id = id'
  life : ∀ order, tbHeros.Perm order → order.foldl addLife (num 0) = tbHeros.foldl addLife (num 0)

/-- A hero whose skills are walked in another order becomes the same fighter. -/
theorem heroFighter_same {hero hero' : HeroInfo N} (same : SameHero hero hero') :
    heroFighter tables hero' = heroFighter tables hero := by
  obtain ⟨again, rest⟩ := same
  rw [rest]
  unfold heroFighter
  dsimp only
  rw [learn_perm again.perm]
  rfl

theorem placeHero_same {hero hero' : HeroInfo N} (same : SameHero hero hero') (posts : Nat → Option (Post N)) :
    placeHero tables posts hero' = placeHero tables posts hero := by
  unfold placeHero
  rw [heroFighter_same same, same.rest]

theorem addLife_same {hero hero' : HeroInfo N} (same : SameHero hero hero') (life : N) : addLife life hero' = addLife life hero := by
  unfold addLife
  rw [same.rest]

theorem life_same {order tbHeros' : List (HeroInfo N)} (alike : List.Forall₂ SameHero order tbHeros') (life : N) :
    tbHeros'.foldl addLife life = order.foldl addLife life := by
  induction alike generalizing life with
  | nil => rfl
  | cons first _ ih =>
    rw [List.foldl_cons, List.foldl_cons, addLife_same first]
    exact ih _

/-- The loop of `createFromPlayer` makes the same of the team in another order. -/
theorem team_same {tbHeros tbHeros' : List (HeroInfo N)} (settled : Settled tables tbHeros) (same : SameTeam tbHeros tbHeros') :
    tbHeros'.foldlM (joinTeam tables) Side.empty = tbHeros.foldlM (joinTeam tables) Side.empty := by
  obtain ⟨order, walked, alike⟩ := same
  have wheels : (tbHeros.flatMap heroSkills).foldlM (enterWheel tables) Side.empty.roundSkill =
      (tbHeros'.flatMap heroSkills).foldlM (enterWheel tables) Side.empty.roundSkill :=
    wheels_perm ((walked.flatMap_right heroSkills).trans (flatMap_same alike)) settled.skills _
  have posts : tbHeros.foldlM (placeHero tables) Side.empty.posts = tbHeros'.foldlM (placeHero tables) Side.empty.posts := by
    rw [foldlM_congr₂ alike fun hero hero' same posts => placeHero_same same posts]
    exact @foldlM_perm _ _ (placeHero tables) (fun _ => True) _ _ walked (fun _ _ _ _ _ _ => trivial)
      (fun posts _ _ there _ there' => placeHero_swap settled.heroes posts there there') _ trivial
  have life : tbHeros'.foldl addLife (num 0) = tbHeros.foldl addLife (num 0) :=
    (life_same alike (num 0)).trans (settled.life order walked)
  have total : tbHeros'.foldl addLife (Side.empty : Side N).totalHP = tbHeros.foldl addLife (Side.empty : Side N).totalHP := life
  have max : tbHeros'.foldl addLife (Side.empty : Side N).MaxHP = tbHeros.foldl addLife (Side.empty : Side N).MaxHP := life
  rw [team_split, team_split, ← wheels, ← posts, total, max]

theorem addCombo_swap {tbHeros : List (HeroInfo N)} (settled : Settled tables tbHeros) {side : Side N}
    (from_ : FromTeam tbHeros side) {hero : HeroInfo N} (listed : hero ∈ tbHeros)
    (back : hero.pos ∈ positions P_BACK_LEFT P_BACK_RIGHT) {combo : List Nat}
    (known : tables.tbCharacter hero.id = some (some combo)) {id id' : Nat} (there : id ∈ combo) (there' : id' ∈ combo) (i : Nat) :
    (addCombo tables (fun hero row => slotLevel hero.skill_lvl row) i side id).bind
        (addCombo tables (fun hero row => slotLevel hero.skill_lvl row) i · id') =
      (addCombo tables (fun hero row => slotLevel hero.skill_lvl row) i side id').bind
        (addCombo tables (fun hero row => slotLevel hero.skill_lvl row) i · id) := by
  by_cases same : id = id'
  · rw [same]
  · simp only [addCombo_eq]
    cases found : tables.tbSkill id with
    | none => cases tables.tbSkill id' <;> rfl
    | some row =>
      cases found' : tables.tbSkill id' with
      | none => rfl
      | some row' =>
        apply congrArg some
        apply withCombo_swap i same
        intro checked checked' cost
        exact same (settled.combos hero listed back combo known id there id' there' row row' found found' cost
          (from_.meets checked) (from_.meets checked'))

/-- The combos of one hero, walked again. -/
theorem combos_same {tbHeros : List (HeroInfo N)} (settled : Settled tables tbHeros) {side : Side N}
    (from_ : FromTeam tbHeros side) {i : Nat} (back : i ∈ positions P_BACK_LEFT P_BACK_RIGHT) {fighter : Fighter N}
    (there : side.fighterAt i = some fighter) {combo combo' : Option (List Nat)}
    (known : tables.tbCharacter fighter.id = some combo) (again : Rewalked combo combo') :
    (combo'.getD []).foldlM (addCombo tables (fun hero row => slotLevel hero.skill_lvl row) i) side =
      (combo.getD []).foldlM (addCombo tables (fun hero row => slotLevel hero.skill_lvl row) i) side := by
  cases again with
  | absent => rfl
  | @table walk walk' same =>
    obtain ⟨post, posted, rfl⟩ := Option.map_eq_some_iff.mp there
    obtain ⟨hero, listed, rfl, named⟩ := from_ i post posted
    rw [← named] at known
    symm
    apply @foldlM_perm _ _ _ (FromTeam tbHeros) _ _ same
    · exact fun side id side' _ from_ ran => addCombo_fromTeam from_ ran
    · exact fun side from_ id there id' there' => addCombo_swap settled from_ listed back known there there' hero.pos
    · exact from_

theorem addCombos_same {tbHeros : List (HeroInfo N)} {build : Tables N} (settled : Settled tables tbHeros)
    (again : BuildsAgain tables build) {side : Side N} (from_ : FromTeam tbHeros side) :
    addCombos build build.tbCharacter (fun hero row => slotLevel hero.skill_lvl row) side =
      addCombos tables tables.tbCharacter (fun hero row => slotLevel hero.skill_lvl row) side := by
  have combo : addCombo build (fun hero row => slotLevel hero.skill_lvl row) =
      addCombo tables (fun hero row => slotLevel hero.skill_lvl row) := by
    rw [again.rest]
    rfl
  unfold addCombos
  rw [combo]
  apply foldlM_congr (FromTeam tbHeros)
  · intro side i side' _ from_ ran
    split at ran
    · exact Option.some.inj ran ▸ from_
    · obtain ⟨combo, -, ran⟩ := Option.bind_eq_some_iff.mp ran
      exact foldlM_ran (fun _ side => FromTeam tbHeros side) (fun _ _ _ _ from_ ran => addCombo_fromTeam from_ ran) from_ ran
  · intro side i back from_
    cases there : side.fighterAt i with
    | none => rfl
    | some fighter =>
      dsimp only
      have related := again.combo fighter.id
      cases known : tables.tbCharacter fighter.id with
      | none =>
        rw [known] at related
        cases known' : build.tbCharacter fighter.id with
        | none => rfl
        | some combo' =>
          rw [known'] at related
          cases related
      | some combo =>
        rw [known] at related
        cases known' : build.tbCharacter fighter.id with
        | none =>
          rw [known'] at related
          cases related
        | some combo' =>
          rw [known'] at related
          cases related with
          | some walked => exact combos_same settled from_ back there known walked
  · exact from_

/-- `createFromPlayer` makes the same of the team in other orders. -/
theorem createFromPlayer_same {tbHeros tbHeros' : List (HeroInfo N)} {build : Tables N} (settled : Settled tables tbHeros)
    (again : BuildsAgain tables build) (same : SameTeam tbHeros tbHeros') :
    createFromPlayer build tbHeros' = createFromPlayer tables tbHeros := by
  have joined : joinTeam build = joinTeam tables := by
    rw [again.rest]
    funext side hero
    exact joinTeam_character _ side hero
  show (tbHeros'.foldlM (joinTeam build) Side.empty >>= _) = (tbHeros.foldlM (joinTeam tables) Side.empty >>= _)
  rw [joined, team_same settled same]
  cases ran : tbHeros.foldlM (joinTeam tables) Side.empty with
  | none => rfl
  | some side => exact addCombos_same settled again (team_fromTeam ran)

/-! ### Fights -/

/-- What comes of a fight of two teams. Each call has the tables it walks. `none` is a runtime error before the fight. -/
def outcome (build build' tables : Tables N) (fuel : Nat) (tbHeros1 tbHeros2 : List (HeroInfo N)) (seed : Int) :
    Option (Report N) := do
  let fighter1 ← createFromPlayer build tbHeros1
  let fighter2 ← createFromPlayer build' tbHeros2
  pure (startFight tables fuel fighter1 fighter2 seed)

/-- In whichever orders `pairs` walks, the fight comes out the same. -/
def OrderFree (tables : Tables N) (tbHeros1 tbHeros2 : List (HeroInfo N)) : Prop :=
  ∀ build build' fight order1 order2, BuildsAgain tables build → BuildsAgain tables build' → FightsAgain tables fight →
    SameTeam tbHeros1 order1 → SameTeam tbHeros2 order2 → ∀ fuel seed,
      outcome build build' fight fuel order1 order2 seed = outcome tables tables tables fuel tbHeros1 tbHeros2 seed

end

/-! ### Two heroes -/

/-- A second hero, who knows the skills. -/
def second (skill : Option (List Nat)) : HeroInfo Exact := { duellist none with pos := 4, id := 2, skill := skill }

/-- The position from which the first skill of a fight is cast. -/
def firstCaster (report : Report Exact) : Option Nat :=
  match report.data.head?.bind fun turn => turn.op.head? with
  | some (.skill tb) => tb.pos
  | _ => none

/-- Numbers that are never rounded add up alike in any order. -/
theorem life_exact {tbHeros order : List (HeroInfo Exact)} (same : tbHeros.Perm order) (life : Exact) :
    order.foldl addLife life = tbHeros.foldl addLife life := by
  apply (same.foldl_eq' _ life).symm
  intro hero _ hero' _ life
  apply congrArg Exact.mk
  exact add_right_comm life.value _ _

theorem duelTables_oneWay : OneWay duelTables := by
  apply OneWay.mk
  · intro id row found target
    have found : (if id = 1 then _ else none) = some row := found
    split at found
    · rw [← Option.some.inj found] at target
      cases target
    · cases found
  · intro id row found
    cases found

end Tinygame.Fight
