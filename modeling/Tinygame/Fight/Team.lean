import Tinygame.Fight.StatusMarks

/-!
# Teams

`createFromPlayer` taken apart: the skills enter the wheels, the heroes take their posts, their lives add up, and the combos
follow. Of each part it is told when two of its steps may be exchanged.
-/

namespace Tinygame.Fight
variable {N : Type} {tables : Tables N}

/-! ### Skills -/

/-- The skills of a hero, each with the position of the hero. -/
def heroSkills (hero : HeroInfo N) : List (Nat × Nat) := (hero.skill.getD []).map fun id => (id, hero.pos)

/-- A skill enters the wheels. -/
def enterWheel (tables : Tables N) (wheels : Int → Option (Wheel (Nat × Nat) N)) (skill : Nat × Nat) :
    Option (Int → Option (Wheel (Nat × Nat) N)) :=
  (tables.tbSkill skill.1).map fun row => Wheel.add wheels row.cost skill row.probability

/-- A hero learns a skill. -/
def learnSkill (tables : Tables N) (skill_lvl : Option (Int → Option N)) (templete : Fighter N) (id : Nat) : Option (Fighter N) :=
  (tables.tbSkill id).map fun row => templete.learn id (slotLevel skill_lvl row)

theorem initHeroSkill_split (side : Side N) (templete : Fighter N) (skills : Option (List Nat))
    (skill_lvl : Option (Int → Option N)) (pos : Nat) :
    initHeroSkill tables side templete skills skill_lvl pos =
      (((skills.getD []).map fun id => (id, pos)).foldlM (enterWheel tables) side.roundSkill).bind fun wheels =>
        ((skills.getD []).foldlM (learnSkill tables skill_lvl) templete).map fun templete =>
          ({ side with roundSkill := wheels }, templete) := by
  unfold initHeroSkill
  generalize skills.getD [] = ids
  induction ids generalizing side templete with
  | nil => rfl
  | cons id rest ih =>
    rw [List.foldlM_cons, List.map_cons, List.foldlM_cons, List.foldlM_cons]
    unfold enterWheel learnSkill
    dsimp only
    cases tables.tbSkill id with
    | none => rfl
    | some row => exact ih _ _

theorem wheel_add_comm (wheels : Int → Option (Wheel (Nat × Nat) N)) {cost cost' : Int} {skill skill' : Nat × Nat}
    {prop prop' : N} (apart : cost ≠ cost') :
    Wheel.add (Wheel.add wheels cost skill prop) cost' skill' prop' =
      Wheel.add (Wheel.add wheels cost' skill' prop') cost skill prop := by
  unfold Wheel.add
  rw [Function.update_of_ne (Ne.symm apart), Function.update_of_ne apart, Function.update_comm apart]

theorem enterWheel_swap {skills : List (Nat × Nat)} (single : ∀ skill ∈ skills, ∀ skill' ∈ skills, ∀ row row',
      tables.tbSkill skill.1 = some row → tables.tbSkill skill'.1 = some row' → row.cost = row'.cost → skill = skill')
    (wheels : Int → Option (Wheel (Nat × Nat) N)) {skill skill' : Nat × Nat} (there : skill ∈ skills) (there' : skill' ∈ skills) :
    (enterWheel tables wheels skill).bind (enterWheel tables · skill') =
      (enterWheel tables wheels skill').bind (enterWheel tables · skill) := by
  unfold enterWheel
  cases found : tables.tbSkill skill.1 with
  | none => cases tables.tbSkill skill'.1 <;> rfl
  | some row =>
    cases found' : tables.tbSkill skill'.1 with
    | none => rfl
    | some row' =>
      by_cases same : row.cost = row'.cost
      · obtain rfl := single skill there skill' there' row row' found found' same
        rw [found] at found'
        cases found'
        rfl
      · exact congrArg some (wheel_add_comm wheels same)

theorem wheels_perm {skills order : List (Nat × Nat)} (same : skills.Perm order) (single : ∀ skill ∈ skills, ∀ skill' ∈ skills, ∀ row row',
      tables.tbSkill skill.1 = some row → tables.tbSkill skill'.1 = some row' → row.cost = row'.cost → skill = skill')
    (wheels : Int → Option (Wheel (Nat × Nat) N)) :
    skills.foldlM (enterWheel tables) wheels = order.foldlM (enterWheel tables) wheels :=
  @foldlM_perm _ _ (enterWheel tables) (fun _ => True) _ _ same (fun _ _ _ _ _ _ => trivial)
    (fun wheels _ _ there _ there' => enterWheel_swap single wheels there there') _ trivial

theorem learn_comm (templete : Fighter N) {id id' : Nat} (lvl lvl' : N) (apart : id ≠ id') :
    (templete.learn id lvl).learn id' lvl' = (templete.learn id' lvl').learn id lvl := by
  unfold Fighter.learn
  rw [Function.update_comm apart]

theorem learnSkill_swap (skill_lvl : Option (Int → Option N)) (templete : Fighter N) (id id' : Nat) :
    (learnSkill tables skill_lvl templete id).bind (learnSkill tables skill_lvl · id') =
      (learnSkill tables skill_lvl templete id').bind (learnSkill tables skill_lvl · id) := by
  unfold learnSkill
  by_cases same : id = id'
  · rw [same]
  · cases tables.tbSkill id with
    | none => cases tables.tbSkill id' <;> rfl
    | some row =>
      cases tables.tbSkill id' with
      | none => rfl
      | some row' => exact congrArg some (learn_comm templete _ _ same)

theorem learn_perm {ids order : List Nat} (same : ids.Perm order) (skill_lvl : Option (Int → Option N)) (templete : Fighter N) :
    ids.foldlM (learnSkill tables skill_lvl) templete = order.foldlM (learnSkill tables skill_lvl) templete :=
  @foldlM_perm _ _ (learnSkill tables skill_lvl) (fun _ => True) _ _ same (fun _ _ _ _ _ _ => trivial)
    (fun templete _ id _ id' _ => learnSkill_swap skill_lvl templete id id') _ trivial

/-! ### Combos -/

/-- The heroes of a combo all stand at each position of the back row. -/
def Meets (tbHeros : List (HeroInfo N)) (comboHero : List Nat) : Prop :=
  ∀ id ∈ comboHero, ∀ pos ∈ positions P_BACK_LEFT P_BACK_RIGHT, ∃ hero ∈ tbHeros, hero.pos = pos ∧ hero.id = id

/-- Every fighter of the side is a hero of the team. -/
def FromTeam (tbHeros : List (HeroInfo N)) (side : Side N) : Prop :=
  ∀ pos post, side.posts pos = some post → ∃ hero ∈ tbHeros, hero.pos = pos ∧ hero.id = post.fighter.id

/-- The side with a combo of the hero at `i`. -/
def withCombo (i id : Nat) (row : SkillRow N) (side : Side N) : Side N :=
  Side.modifyFighter
    (if checkComboHero side row.combo then { side with combo := Wheel.add side.combo row.cost (id, i) row.probability } else side)
    i fun hero => hero.learn id (slotLevel hero.skill_lvl row)

theorem addCombo_eq (tables : Tables N) (i id : Nat) (side : Side N) :
    addCombo tables (fun hero row => slotLevel hero.skill_lvl row) i side id =
      (tables.tbSkill id).map fun row => withCombo i id row side := by
  unfold addCombo
  cases tables.tbSkill id <;> rfl

theorem modifyFighter_ids (side : Side N) (i : Nat) {f : Fighter N → Fighter N}
    (kept : ∀ fighter, (f fighter).id = fighter.id) (pos : Nat) :
    ((side.modifyFighter i f).fighterAt pos).map Fighter.id = (side.fighterAt pos).map Fighter.id := by
  unfold Side.modifyFighter Side.setPost Side.fighterAt
  dsimp only
  rw [Function.update_apply]
  split
  · rename_i same
    subst same
    cases side.posts pos with
    | none => rfl
    | some post => exact congrArg some (kept post.fighter)
  · rfl

theorem checkComboHero_congr {side other : Side N}
    (same : ∀ pos, (other.fighterAt pos).map Fighter.id = (side.fighterAt pos).map Fighter.id)
    (comboHero : List Nat) : checkComboHero other comboHero = checkComboHero side comboHero := by
  have asked : ∀ (side : Side N) (pos id : Nat), ((side.fighterAt pos).any fun there => there.id = id) =
      ((side.fighterAt pos).map Fighter.id).any (· = id) := by
    intro side pos id
    cases side.fighterAt pos <;> rfl
  unfold checkComboHero
  simp only [asked, same]

theorem withCombo_ids (i id : Nat) (row : SkillRow N) (side : Side N) (pos : Nat) :
    ((withCombo i id row side).fighterAt pos).map Fighter.id = (side.fighterAt pos).map Fighter.id := by
  refine (modifyFighter_ids _ i ?_ pos).trans ?_
  · intro fighter
    rfl
  · split <;> rfl

theorem FromTeam.of_ids {tbHeros : List (HeroInfo N)} {side other : Side N} (from_ : FromTeam tbHeros side)
    (same : ∀ pos, (other.fighterAt pos).map Fighter.id = (side.fighterAt pos).map Fighter.id) : FromTeam tbHeros other := by
  intro pos post there
  have here : ((side.posts pos).map Post.fighter).map Fighter.id = some post.fighter.id := by
    rw [← Side.fighterAt, ← same, Side.fighterAt, there]
    rfl
  rw [Option.map_map] at here
  obtain ⟨before, found, alike⟩ := Option.map_eq_some_iff.mp here
  obtain ⟨hero, listed, placed, named⟩ := from_ pos before found
  exact ⟨hero, listed, placed, named.trans alike⟩

theorem FromTeam.withCombo {tbHeros : List (HeroInfo N)} {side : Side N} (from_ : FromTeam tbHeros side) (i id : Nat)
    (row : SkillRow N) : FromTeam tbHeros (withCombo i id row side) :=
  from_.of_ids (withCombo_ids i id row side)

theorem FromTeam.meets {tbHeros : List (HeroInfo N)} {side : Side N} (from_ : FromTeam tbHeros side) {comboHero : List Nat}
    (checked : checkComboHero side comboHero = true) : Meets tbHeros comboHero := by
  intro id listed pos back
  have there := List.all_eq_true.mp (List.all_eq_true.mp checked id listed) pos back
  unfold Side.fighterAt at there
  cases found : side.posts pos with
  | none =>
    rw [found] at there
    cases there
  | some post =>
    rw [found] at there
    obtain ⟨hero, member, placed, named⟩ := from_ pos post found
    exact ⟨hero, member, placed, named.trans (of_decide_eq_true there)⟩

/-- What `withCombo` makes of the wheels and of the posts. -/
theorem withCombo_eq (i id : Nat) (row : SkillRow N) (side : Side N) :
    withCombo i id row side =
      { side with
        combo := if checkComboHero side row.combo then Wheel.add side.combo row.cost (id, i) row.probability else side.combo
        posts := Function.update side.posts i ((side.posts i).map fun post =>
          { post with fighter := post.fighter.learn id (slotLevel post.fighter.skill_lvl row) }) } := by
  unfold withCombo
  split <;> rfl

theorem withCombo_swap {side : Side N} (i : Nat) {id id' : Nat} {row row' : SkillRow N} (apart : id ≠ id')
    (single : checkComboHero side row.combo = true → checkComboHero side row'.combo = true → row.cost ≠ row'.cost) :
    withCombo i id' row' (withCombo i id row side) = withCombo i id row (withCombo i id' row' side) := by
  have check : ∀ comboHero, checkComboHero (withCombo i id row side) comboHero = checkComboHero side comboHero :=
    checkComboHero_congr (withCombo_ids i id row side)
  have check' : ∀ comboHero, checkComboHero (withCombo i id' row' side) comboHero = checkComboHero side comboHero :=
    checkComboHero_congr (withCombo_ids i id' row' side)
  rw [withCombo_eq i id' row' (withCombo i id row side), withCombo_eq i id row (withCombo i id' row' side), check, check',
    withCombo_eq i id row side, withCombo_eq i id' row' side]
  dsimp only
  congr 1
  · cases first : checkComboHero side row.combo with
    | false => simp
    | true =>
      cases second : checkComboHero side row'.combo with
      | false => simp
      | true => simpa using wheel_add_comm side.combo (single first second)
  · rw [Function.update_self, Function.update_self, Function.update_idem, Function.update_idem]
    congr 1
    cases side.posts i with
    | none => rfl
    | some post =>
      simp only [Option.map_some]
      congr 2
      exact learn_comm _ _ _ apart

theorem addCombo_fromTeam {tbHeros : List (HeroInfo N)} {side side' : Side N} (from_ : FromTeam tbHeros side) {i id : Nat}
    (ran : addCombo tables (fun hero row => slotLevel hero.skill_lvl row) i side id = some side') : FromTeam tbHeros side' := by
  rw [addCombo_eq] at ran
  obtain ⟨row, -, rfl⟩ := Option.map_eq_some_iff.mp ran
  exact from_.withCombo i id row

/-! Only `addCombos` asks for a character. -/

theorem findType_character (character : Nat → Option (Option (List Nat))) (type : StatusType) (list : List (Status N)) :
    findType { tables with tbCharacter := character } type list = findType tables type list := by
  induction list with
  | nil => rfl
  | cons status rest ih =>
    unfold findType
    rw [ih]
    rfl

/-! ### Heroes -/

section
variable [Number N]

theorem findLower_character (character : Nat → Option (Option (List Nat))) (type : StatusType) (lvl : N) (list : List (Status N)) :
    ∀ i isIn, findLower { tables with tbCharacter := character } type lvl i isIn list = findLower tables type lvl i isIn list := by
  induction list with
  | nil => exact fun _ _ => rfl
  | cons status rest ih =>
    intro i isIn
    unfold findLower
    rw [ih, ih]
    rfl

theorem addStatus_character (character : Nat → Option (Option (List Nat))) (fighter : Fighter N) (statusid : Nat) (lvl : N) :
    addStatus { tables with tbCharacter := character } fighter statusid lvl = addStatus tables fighter statusid lvl := by
  unfold addStatus
  simp only [findType_character, findLower_character]
  rfl

/-- The fighter a hero becomes. -/
def heroFighter (tables : Tables N) (hero : HeroInfo N) : Option (Fighter N) := do
  let templete ← (hero.skill.getD []).foldlM (learnSkill tables hero.skill_lvl) (template hero.toInfo hero.id .hero)
  let templete ← initStatus tables templete hero.statusid
  pure ((positions MIN_COST MAX_COST).foldl (fun templete i => templete.learn (templete.normalattack i) (num 0)) templete)

def placeHero (tables : Tables N) (posts : Nat → Option (Post N)) (hero : HeroInfo N) : Option (Nat → Option (Post N)) :=
  (heroFighter tables hero).map fun fighter => Function.update posts hero.pos (some ⟨fighter, []⟩)

/-- The life of a team, as it adds up. -/
def addLife (life : N) (hero : HeroInfo N) : N := life + hero.hp.getD (num 0)

/-- A hero joins the team. -/
theorem initTemplete_split (side : Side N) (hero : HeroInfo N) :
    initTemplete tables side hero.toInfo hero.id .hero hero.pos =
      ((heroSkills hero).foldlM (enterWheel tables) side.roundSkill).bind fun wheels => (heroFighter tables hero).map fun fighter =>
        ({ side with
            totalHP := addLife side.totalHP hero
            MaxHP := addLife side.MaxHP hero
            roundSkill := wheels }, fighter) := by
  unfold initTemplete heroFighter heroSkills
  dsimp only
  rw [if_pos rfl, initHeroSkill_split]
  dsimp only
  cases ((hero.skill.getD []).map fun id => (id, hero.pos)).foldlM (enterWheel tables) side.roundSkill with
  | none => rfl
  | some wheels =>
    cases (hero.skill.getD []).foldlM (learnSkill tables hero.skill_lvl) (template hero.toInfo hero.id .hero) with
    | none => rfl
    | some templete =>
      simp only [bind, Option.bind_some, Option.map_some]
      cases initStatus tables templete hero.statusid <;> rfl

/-- One round of the loop of `createFromPlayer`. -/
def joinTeam (tables : Tables N) (fighter : Side N) (tbInfo : HeroInfo N) : Option (Side N) := do
  let (fighter, templete) ← initTemplete tables fighter tbInfo.toInfo tbInfo.id .hero tbInfo.pos
  pure (fighter.setPost tbInfo.pos (some ⟨templete, []⟩))

theorem joinTeam_split (side : Side N) (hero : HeroInfo N) :
    joinTeam tables side hero =
      ((heroSkills hero).foldlM (enterWheel tables) side.roundSkill).bind fun wheels =>
        (placeHero tables side.posts hero).map fun posts =>
          { side with
            totalHP := addLife side.totalHP hero
            MaxHP := addLife side.MaxHP hero
            roundSkill := wheels
            posts := posts } := by
  unfold joinTeam placeHero
  rw [initTemplete_split]
  cases (heroSkills hero).foldlM (enterWheel tables) side.roundSkill with
  | none => rfl
  | some wheels => cases heroFighter tables hero <;> rfl

/-- The wheels, the posts and the life of a team are put together apart from each other. -/
theorem team_split (tbHeros : List (HeroInfo N)) (side : Side N) :
    tbHeros.foldlM (joinTeam tables) side =
      ((tbHeros.flatMap heroSkills).foldlM (enterWheel tables) side.roundSkill).bind fun wheels =>
        (tbHeros.foldlM (placeHero tables) side.posts).map fun posts =>
          { side with
            totalHP := tbHeros.foldl addLife side.totalHP
            MaxHP := tbHeros.foldl addLife side.MaxHP
            roundSkill := wheels
            posts := posts } := by
  induction tbHeros generalizing side with
  | nil => rfl
  | cons hero rest ih =>
    rw [List.foldlM_cons, List.flatMap_cons, List.foldlM_append, List.foldlM_cons, joinTeam_split]
    cases (heroSkills hero).foldlM (enterWheel tables) side.roundSkill with
    | none => rfl
    | some wheels =>
      cases placed : placeHero tables side.posts hero with
      | none => cases (rest.flatMap heroSkills).foldlM (enterWheel tables) wheels <;> simp
      | some posts =>
        simp only [bind, Option.bind_some, Option.map_some]
        exact ih _

theorem placeHero_swap {tbHeros : List (HeroInfo N)}
    (single : ∀ hero ∈ tbHeros, ∀ hero' ∈ tbHeros, hero.pos = hero'.pos → hero = hero') (posts : Nat → Option (Post N))
    {hero hero' : HeroInfo N} (there : hero ∈ tbHeros) (there' : hero' ∈ tbHeros) :
    (placeHero tables posts hero).bind (placeHero tables · hero') =
      (placeHero tables posts hero').bind (placeHero tables · hero) := by
  by_cases same : hero.pos = hero'.pos
  · rw [single hero there hero' there' same]
  · unfold placeHero
    cases heroFighter tables hero with
    | none => cases heroFighter tables hero' <;> rfl
    | some fighter =>
      cases heroFighter tables hero' with
      | none => rfl
      | some fighter' => exact congrArg some (Function.update_comm same _ _ _)

theorem initStatus_id {templete after : Fighter N} {tbStatusID : Option (List Nat)}
    (ran : initStatus tables templete tbStatusID = some after) : after.id = templete.id := by
  refine foldlM_ran (fun _ after => after.id = templete.id) ?_ rfl ran
  intro statusid _ before after same ran
  obtain ⟨⟨added, yes⟩, ran', rfl⟩ := Option.map_eq_some_iff.mp ran
  rcases addStatus_cases ran' with rfl | ⟨row, type, -, -, -, -, rfl⟩ | ⟨row, pos, old, -, -, -, -, rfl⟩
  · exact same
  · exact same
  · exact same

theorem heroFighter_id {hero : HeroInfo N} {fighter : Fighter N} (made : heroFighter tables hero = some fighter) :
    fighter.id = hero.id := by
  unfold heroFighter at made
  obtain ⟨learnt, ran, made⟩ := Option.bind_eq_some_iff.mp made
  obtain ⟨after, ran', made⟩ := Option.bind_eq_some_iff.mp made
  have first : learnt.id = hero.id := by
    refine foldlM_ran (fun _ after => after.id = hero.id) ?_ rfl ran
    intro id _ before after same ran
    obtain ⟨row, -, rfl⟩ := Option.map_eq_some_iff.mp ran
    exact same
  have attacks : ∀ (list : List Nat) (templete : Fighter N),
      (list.foldl (fun templete i => templete.learn (templete.normalattack i) (num 0)) templete).id = templete.id := by
    intro list
    induction list with
    | nil => exact fun _ => rfl
    | cons i rest ih => exact fun templete => ih _
  rw [← Option.some.inj made, attacks, initStatus_id ran', first]

theorem team_fromTeam {tbHeros : List (HeroInfo N)} {side : Side N} (ran : tbHeros.foldlM (joinTeam tables) Side.empty = some side) :
    FromTeam tbHeros side := by
  refine (foldlM_ran (fun rest side => rest ⊆ tbHeros ∧ FromTeam tbHeros side) ?_ ⟨List.Subset.refl _, ?_⟩ ran).2
  · rintro hero rest before after ⟨within, from_⟩ ran
    obtain ⟨listed, later⟩ := List.cons_subset.mp within
    rw [joinTeam_split] at ran
    obtain ⟨wheels, -, ran⟩ := Option.bind_eq_some_iff.mp ran
    obtain ⟨posts, placed, rfl⟩ := Option.map_eq_some_iff.mp ran
    obtain ⟨fighter, made, rfl⟩ := Option.map_eq_some_iff.mp placed
    refine ⟨later, fun pos post there => ?_⟩
    dsimp only at there
    rw [Function.update_apply] at there
    split at there
    · rename_i same
      rw [← Option.some.inj there]
      exact ⟨hero, listed, same.symm, (heroFighter_id made).symm⟩
    · exact from_ pos post there
  · intro pos post there
    cases there

theorem joinTeam_character (character : Nat → Option (Option (List Nat))) (side : Side N) (hero : HeroInfo N) :
    joinTeam { tables with tbCharacter := character } side hero = joinTeam tables side hero := by
  have status : ∀ templete, initStatus { tables with tbCharacter := character } templete hero.statusid =
      initStatus tables templete hero.statusid := by
    intro templete
    unfold initStatus
    simp only [addStatus_character]
  have fighter : heroFighter { tables with tbCharacter := character } hero = heroFighter tables hero := by
    unfold heroFighter
    simp only [status]
    rfl
  rw [joinTeam_split, joinTeam_split]
  unfold placeHero
  rw [fighter]
  rfl

end

end Tinygame.Fight
