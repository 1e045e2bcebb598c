import Tinygame.Fight.Team

/-!
# Combo skills

A combo skill is for a hero whose companions stand with it in the back row. Which ones a side offers, and when that is
what the heroes of the back row ask for.
-/

namespace Tinygame.Fight
variable {N : Type} {side side' : Side N} {heroes : List Nat} {id i : Nat} {entry : Nat × Nat}

/-! ### What the check asks for -/

/-- The heroes in the back row. -/
def rowOf (held : Nat → Option Nat) : List Nat := (positions P_BACK_LEFT P_BACK_RIGHT).filterMap held

def backRow (side : Side N) : List Nat := rowOf fun pos => (side.fighterAt pos).map Fighter.id

/-- Each hero of the list stands in the back row. -/
def Present (side : Side N) (heroes : List Nat) : Prop :=
  ∀ id ∈ heroes, ∃ pos ∈ positions P_BACK_LEFT P_BACK_RIGHT, ∃ hero, side.fighterAt pos = some hero ∧ hero.id = id

theorem present_iff : Present side heroes ↔ ∀ id ∈ heroes, id ∈ backRow side := by
  simp [Present, backRow, rowOf, List.mem_filterMap]

theorem filterMap_eq_replicate {α β : Type} {f : α → Option β} {l : List α} {b : β} :
    l.filterMap f = List.replicate l.length b ↔ ∀ a ∈ l, f a = some b := by
  induction l with
  | nil => simp
  | cons a rest ih =>
    cases found : f a with
    | none =>
      have short : (rest.filterMap f).length ≤ rest.length := List.length_filterMap_le f rest
      constructor
      · intro same
        rw [List.filterMap_cons_none found] at same
        have := congrArg List.length same
        simp at this
        omega
      · intro all
        have := all a (List.mem_cons_self ..)
        simp [found] at this
    | some c => simp [found, List.replicate_succ, ih]

/-- It asks for each hero at each of the three positions. -/
theorem checkComboHero_iff : checkComboHero side heroes = true ↔ ∀ id ∈ heroes, backRow side = [id, id, id] := by
  have each (id : Nat) : backRow side = [id, id, id] ↔
      ∀ pos ∈ positions P_BACK_LEFT P_BACK_RIGHT, (side.fighterAt pos).map Fighter.id = some id :=
    filterMap_eq_replicate (f := fun pos => (side.fighterAt pos).map Fighter.id) (l := positions P_BACK_LEFT P_BACK_RIGHT)
  simp [checkComboHero, each, Option.any_eq_true]

/-- A hero is missing, or one hero holds the whole back row and no other is asked for. -/
def MissingOrAlone (row heroes : List Nat) : Prop :=
  (∃ id ∈ heroes, id ∉ row) ∨ ∃ id, row = [id, id, id] ∧ ∀ other ∈ heroes, other = id

theorem checkComboHero_right (asked : heroes ≠ []) :
    (checkComboHero side heroes = true ↔ Present side heroes) ↔ MissingOrAlone (backRow side) heroes := by
  rw [checkComboHero_iff, present_iff]
  obtain ⟨first, rest, rfl⟩ := List.exists_cons_of_ne_nil asked
  constructor
  · intro right
    by_cases present : ∀ id ∈ first :: rest, id ∈ backRow side
    · have same := right.mpr present
      have row := same first (List.mem_cons_self ..)
      refine .inr ⟨first, row, fun other member => ?_⟩
      have again := row.symm.trans (same other member)
      simpa using again.symm
    · simp only [not_forall] at present
      obtain ⟨id, member, missing⟩ := present
      exact .inl ⟨id, member, missing⟩
  · rintro (⟨id, member, missing⟩ | ⟨id, row, alone⟩)
    · constructor
      · intro same
        exact absurd (by simp [same id member]) missing
      · intro present
        exact absurd (present id member) missing
    · constructor
      · intro same other member
        simp [row, alone other member]
      · intro present other member
        rw [alone other member, row]

/-! ### What a side offers -/

/-- A combo skill is in one of the wheels. -/
def Offers (side : Side N) (entry : Nat × Nat) : Prop := ∃ cost wheel, side.combo cost = some wheel ∧ entry ∈ wheel.skill

theorem offers_add (cost : Int) (skill : Nat × Nat) (prop : N) :
    Offers { side with combo := Wheel.add side.combo cost skill prop } entry ↔ Offers side entry ∨ entry = skill := by
  have here : (Wheel.add side.combo cost skill prop) cost = some (((side.combo cost).getD .empty).insert skill prop) :=
    Function.update_self ..
  have there {other : Int} (apart : other ≠ cost) : (Wheel.add side.combo cost skill prop) other = side.combo other :=
    Function.update_of_ne apart ..
  constructor
  · intro ⟨other, wheel, found, member⟩
    dsimp only at found
    by_cases same : other = cost
    · rw [same, here] at found
      obtain rfl := Option.some.inj found
      rcases List.mem_append.mp member with before | new
      · cases was : side.combo cost with
        | none => simp [was, Wheel.empty] at before
        | some wheel => exact .inl ⟨cost, wheel, was, by simpa [was] using before⟩
      · exact .inr (List.mem_singleton.mp new)
    · exact .inl ⟨other, wheel, (there same).symm.trans found, member⟩
  · rintro (⟨other, wheel, found, member⟩ | rfl)
    · by_cases same : other = cost
      · subst same
        exact ⟨other, _, here, List.mem_append_left _ (by simpa [found] using member)⟩
      · exact ⟨other, wheel, (there same).trans found, member⟩
    · exact ⟨cost, _, here, List.mem_append_right _ (List.mem_singleton_self _)⟩

/-- The same heroes stand on both sides. -/
def Alike (side other : Side N) : Prop := ∀ pos, (other.fighterAt pos).map Fighter.id = (side.fighterAt pos).map Fighter.id

theorem Alike.hero {other : Side N} (alike : Alike side other) {pos : Nat} {hero : Fighter N} (there : other.fighterAt pos = some hero) :
    ∃ before, side.fighterAt pos = some before ∧ before.id = hero.id := by
  have same := alike pos
  rw [there] at same
  exact Option.map_eq_some_iff.mp same.symm

section
variable {tables : Tables N} {level : Fighter N → SkillRow N → N} {combos : List Nat}

/-- The heroes of a combo skill are there. -/
def Met (tables : Tables N) (side : Side N) (id : Nat) : Prop :=
  ∃ row, tables.tbSkill id = some row ∧ checkComboHero side row.combo = true

theorem Alike.met {other : Side N} (alike : Alike side other) : Met tables other id ↔ Met tables side id := by
  simp only [Met, checkComboHero_congr alike]

theorem addCombo_offers (ran : addCombo tables level i side id = some side') :
    Alike side side' ∧ ∀ entry, Offers side' entry ↔ Offers side entry ∨ (entry = (id, i) ∧ Met tables side id) := by
  unfold addCombo at ran
  obtain ⟨row, found, last⟩ := Option.bind_eq_some_iff.mp ran
  obtain rfl := Option.some.inj last
  constructor
  · intro pos
    refine (modifyFighter_ids _ i ?_ pos).trans ?_
    · intro fighter
      rfl
    · split <;> rfl
  · intro entry
    cases checked : checkComboHero side row.combo with
    | true => exact (offers_add row.cost (id, i) row.probability).trans (by simp [Met, found, checked])
    | false => exact (or_iff_left (by simp [Met, found, checked])).symm

theorem Alike.trans {middle last : Side N} (first : Alike side middle) (second : Alike middle last) : Alike side last :=
  fun pos => (second pos).trans (first pos)

theorem addComboList_offers (ran : combos.foldlM (addCombo tables level i) side = some side') : Alike side side' ∧
    ∀ entry, Offers side' entry ↔ Offers side entry ∨ (entry.2 = i ∧ entry.1 ∈ combos ∧ Met tables side entry.1) := by
  induction combos generalizing side with
  | nil =>
    obtain rfl := Option.some.inj ran
    exact ⟨fun _ => rfl, by simp⟩
  | cons id rest ih =>
    obtain ⟨middle, first, later⟩ := Option.bind_eq_some_iff.mp ran
    obtain ⟨alike, grown⟩ := addCombo_offers first
    obtain ⟨alike', grown'⟩ := ih later
    refine ⟨alike.trans alike', fun entry => ?_⟩
    rw [grown', grown, alike.met, List.mem_cons]
    obtain ⟨comboid, pos⟩ := entry
    simp only [Prod.mk.injEq]
    constructor
    · rintro ((before | ⟨⟨rfl, rfl⟩, met⟩) | ⟨here, listed, met⟩)
      · exact .inl before
      · exact .inr ⟨rfl, .inl rfl, met⟩
      · exact .inr ⟨here, .inr listed, met⟩
    · rintro (before | ⟨rfl, rfl | listed, met⟩)
      · exact .inl (.inl before)
      · exact .inl (.inr ⟨⟨rfl, rfl⟩, met⟩)
      · exact .inr ⟨rfl, listed, met⟩

/-- The hero at the position has the combo skill. -/
def Has (comboid : Nat → Option (Option (List Nat))) (side : Side N) (entry : Nat × Nat) : Prop :=
  ∃ hero combos, side.fighterAt entry.2 = some hero ∧ comboid hero.id = some (some combos) ∧ entry.1 ∈ combos

variable {comboid : Nat → Option (Option (List Nat))}

theorem has_iff {hero : Fighter N} (there : side.fighterAt i = some hero) {combo : Option (List Nat)}
    (known : comboid hero.id = some combo) : Has comboid side (id, i) ↔ id ∈ combo.getD [] := by
  cases combo <;> simp [Has, there, known]

theorem Alike.has {other : Side N} (alike : Alike side other) : Has comboid other entry ↔ Has comboid side entry := by
  have one {side other : Side N} (alike : Alike side other) (has : Has comboid other entry) : Has comboid side entry := by
    obtain ⟨hero, combos, there, known, listed⟩ := has
    obtain ⟨before, stood, same⟩ := alike.hero there
    exact ⟨before, combos, stood, same ▸ known, listed⟩
  exact ⟨one alike, one fun pos => (alike pos).symm⟩

theorem addCombos_offers (ran : addCombos tables comboid level side = some side') : Alike side side' ∧
    ∀ entry, Offers side' entry ↔ Offers side entry ∨
      (entry.2 ∈ positions P_BACK_LEFT P_BACK_RIGHT ∧ Has comboid side entry ∧ Met tables side entry.1) := by
  unfold addCombos at ran
  generalize positions P_BACK_LEFT P_BACK_RIGHT = places at ran
  induction places generalizing side with
  | nil =>
    obtain rfl := Option.some.inj ran
    exact ⟨fun _ => rfl, by simp⟩
  | cons i rest ih =>
    obtain ⟨middle, first, later⟩ := Option.bind_eq_some_iff.mp ran
    obtain ⟨alike', grown'⟩ := ih later
    have round : Alike side middle ∧
        ∀ entry, Offers middle entry ↔ Offers side entry ∨ (entry.2 = i ∧ Has comboid side entry ∧ Met tables side entry.1) := by
      cases there : side.fighterAt i with
      | none =>
        simp only [there] at first
        obtain rfl := Option.some.inj first
        refine ⟨fun _ => rfl, fun entry => (or_iff_left ?_).symm⟩
        rintro ⟨rfl, ⟨hero, combos, stands, -⟩, -⟩
        nomatch there.symm.trans stands
      | some hero =>
        simp only [there] at first
        obtain ⟨combo, known, first⟩ := Option.bind_eq_some_iff.mp first
        obtain ⟨alike, grown⟩ := addComboList_offers first
        refine ⟨alike, fun entry => (grown entry).trans (or_congr_right (and_congr_right fun here => ?_))⟩
        obtain ⟨id, pos⟩ := entry
        obtain rfl : pos = i := here
        rw [has_iff there known]
    obtain ⟨alike, grown⟩ := round
    refine ⟨alike.trans alike', fun entry => ?_⟩
    rw [grown', grown, alike.met, alike.has, List.mem_cons]
    tauto

end

/-! ### Who stands where -/

section
variable [Number N] {tables : Tables N}

/-- A fighter has the id of its row, and takes its post itself. -/
theorem initTemplete_id {config : Info N} {pos : Nat} {kind : TargetType} {templete : Fighter N}
    (ran : initTemplete tables side config id kind pos = some (side', templete)) :
    templete.id = id ∧ side'.posts = side.posts ∧ side'.combo = side.combo := by
  obtain ⟨skilled, last, second, rfl, first⟩ := initTemplete_cases ran
  have attacks (list : List Nat) (fighter : Fighter N) : (learnAttacks list fighter).id = fighter.id := by
    unfold learnAttacks
    induction list generalizing fighter with
    | nil => rfl
    | cons i rest ih => exact ih _
  rw [attacks, initStatus_id second]
  cases kind with
  | hero =>
    refine foldlM_ran (fun _ (built : Side N × Fighter N) =>
      built.2.id = id ∧ built.1.posts = side.posts ∧ built.1.combo = side.combo) ?_ ⟨rfl, rfl, rfl⟩ first
    intro id' rest built built' same ran
    obtain ⟨row, -, last⟩ := Option.bind_eq_some_iff.mp ran
    exact Option.some.inj last ▸ same
  | summon =>
    obtain ⟨rfl, built⟩ := first
    refine ⟨foldlM_ran (fun _ (templete : Fighter N) => templete.id = id) ?_ rfl built, rfl, rfl⟩
    intro id' rest templete templete' same ran
    obtain ⟨row, -, last⟩ := Option.bind_eq_some_iff.mp ran
    exact Option.some.inj last ▸ same

/-- A side under construction: nobody offers a combo yet. -/
structure Placed (held : Nat → Option Nat) (side : Side N) : Prop where
  held : ∀ pos, (side.fighterAt pos).map Fighter.id = held pos
  none : ∀ entry, ¬ Offers side entry

theorem placed_empty : Placed (fun _ => none) (Side.empty : Side N) :=
  ⟨fun _ => rfl, fun _ ⟨_, _, found, _⟩ => nomatch found⟩

theorem Placed.place {held : Nat → Option Nat} (placed : Placed held side) {config : Info N} {pos : Nat} {kind : TargetType}
    {templete : Fighter N} (ran : initTemplete tables side config id kind pos = some (side', templete)) :
    Placed (Function.update held pos (some id)) (side'.setPost pos (some ⟨templete, []⟩)) := by
  obtain ⟨rfl, posts, combo⟩ := initTemplete_id ran
  constructor
  · intro other
    unfold Side.fighterAt
    by_cases here : other = pos
    · subst here
      simp
    · rw [Side.setPost_posts_ne _ _ here, Function.update_of_ne here, posts]
      exact placed.held other
  · intro entry ⟨cost, wheel, found, member⟩
    exact placed.none entry ⟨cost, wheel, by rw [← combo]; exact found, member⟩

/-- Of the heroes of a team that are for one position, the last gets it. -/
def teamAt (tbHeros : List (HeroInfo N)) (pos : Nat) : Option Nat := (tbHeros.reverse.find? (·.pos = pos)).map (·.id)

omit [Number N] in
theorem teamAt_append (done : List (HeroInfo N)) (hero : HeroInfo N) :
    teamAt (done ++ [hero]) = Function.update (teamAt done) hero.pos (some hero.id) := by
  funext pos
  unfold teamAt
  rw [List.reverse_append, List.reverse_singleton, List.singleton_append, Function.update_apply]
  by_cases here : hero.pos = pos
  · simp [here]
  · simp [here, Ne.symm here]

theorem team_placed {team : List (HeroInfo N)} (ran : team.foldlM (joinTeam tables) Side.empty = some side) :
    Placed (teamAt team) side := by
  have all := foldlM_ran (fun rest side => ∃ done, team = done ++ rest ∧ Placed (teamAt done) side) ?_
    ⟨[], rfl, placed_empty⟩ ran
  · obtain ⟨done, same, placed⟩ := all
    rwa [same, List.append_nil]
  · rintro hero rest side side' ⟨done, same, placed⟩ ran
    obtain ⟨⟨middle, templete⟩, first, last⟩ := Option.bind_eq_some_iff.mp ran
    obtain rfl := Option.some.inj last
    refine ⟨done ++ [hero], by simp [same], ?_⟩
    rw [teamAt_append]
    exact placed.place first

omit [Number N] in
/-- The combos of whoever stands in the back row, offered where their heroes are there. -/
theorem Placed.offers {held : Nat → Option Nat} (placed : Placed held side) {comboid : Nat → Option (Option (List Nat))}
    {level : Fighter N → SkillRow N → N} (ran : addCombos tables comboid level side = some side') :
    backRow side' = rowOf held ∧ ∀ entry, Offers side' entry ↔
      entry.2 ∈ positions P_BACK_LEFT P_BACK_RIGHT ∧ Has comboid side' entry ∧ Met tables side' entry.1 := by
  obtain ⟨alike, offers⟩ := addCombos_offers ran
  constructor
  · exact congrArg rowOf (funext fun pos => (alike pos).trans (placed.held pos))
  · intro entry
    rw [offers, alike.has, alike.met]
    exact or_iff_right (placed.none entry)

theorem createFromPlayer_offers {team : List (HeroInfo N)} (ran : createFromPlayer tables team = some side) :
    backRow side = rowOf (teamAt team) ∧ ∀ entry, Offers side entry ↔
      entry.2 ∈ positions P_BACK_LEFT P_BACK_RIGHT ∧ Has tables.tbCharacter side entry ∧ Met tables side entry.1 := by
  obtain ⟨built, placed, ran⟩ := Option.bind_eq_some_iff.mp ran
  exact (team_placed placed).offers ran

/-- The combo skills that the table has for a monster. -/
def monsterCombos (tables : Tables N) (id : Nat) : Option (Option (List Nat)) := (tables.tbMonster id).map MonsterRow.comboid

/-- What a box has for the positions that are filled already. -/
def boxAt (box : Nat → Option Nat) (done : List Nat) (pos : Nat) : Option Nat := if pos ∈ done then box pos else none

theorem boxAt_append (box : Nat → Option Nat) (done : List Nat) (i : Nat) :
    boxAt box (done ++ [i]) = Function.update (boxAt box done) i (box i) := by
  funext pos
  unfold boxAt
  rw [Function.update_apply]
  by_cases here : pos = i
  · simp [here]
  · simp [here]

theorem boxAt_row (box : Nat → Option Nat) : rowOf (boxAt box (positions P_HEAD_LEFT P_BACK_RIGHT)) = rowOf box := by
  have filled : ∀ pos ∈ positions P_BACK_LEFT P_BACK_RIGHT, pos ∈ positions P_HEAD_LEFT P_BACK_RIGHT := by decide
  exact List.filterMap_congr fun pos back => if_pos (filled pos back)

theorem createFromMonsterBox_offers {boxid : Nat} (ran : createFromMonsterBox tables boxid = some (some side)) :
    ∃ box, tables.tbMonsterBox boxid = some box ∧ backRow side = rowOf box ∧ ∀ entry, Offers side entry ↔
      entry.2 ∈ positions P_BACK_LEFT P_BACK_RIGHT ∧ Has (monsterCombos tables) side entry ∧ Met tables side entry.1 := by
  unfold createFromMonsterBox at ran
  split at ran
  · nomatch ran
  · rename_i box known
    obtain ⟨built, placed, ran⟩ := Option.bind_eq_some_iff.mp ran
    obtain ⟨last, combos, ran⟩ := Option.bind_eq_some_iff.mp ran
    obtain rfl := Option.some.inj (Option.some.inj ran)
    refine ⟨box, known, ?_⟩
    rw [← boxAt_row box]
    suffices Placed (boxAt box (positions P_HEAD_LEFT P_BACK_RIGHT)) built from this.offers combos
    have all := foldlM_ran (fun rest side => ∃ done, positions P_HEAD_LEFT P_BACK_RIGHT = done ++ rest ∧ Placed (boxAt box done) side)
      ?_ ⟨[], rfl, placed_empty⟩ placed
    · obtain ⟨done, same, placed⟩ := all
      rwa [same, List.append_nil]
    · rintro i rest side side' ⟨done, same, placed⟩ ran
      refine ⟨done ++ [i], by simp [same], ?_⟩
      rw [boxAt_append]
      split at ran
      · rename_i empty
        obtain rfl := Option.some.inj ran
        have free : boxAt box done i = none := by simp [boxAt, empty]
        rwa [empty, ← free, Function.update_eq_self]
      · rename_i monsterid there
        obtain ⟨row, found, ran⟩ := Option.bind_eq_some_iff.mp ran
        obtain ⟨⟨middle, templete⟩, first, last⟩ := Option.bind_eq_some_iff.mp ran
        obtain rfl := Option.some.inj last
        rw [there]
        exact placed.place first

/-- A side offers the combo skills of its back row rightly just where a hero is missing or alone; `row` is who stands
there. -/
def OffersRight (tables : Tables N) (comboid : Nat → Option (Option (List Nat))) (row : List Nat) (side : Side N) : Prop :=
  ∀ entry skill, entry.2 ∈ positions P_BACK_LEFT P_BACK_RIGHT → Has comboid side entry → tables.tbSkill entry.1 = some skill →
    skill.combo ≠ [] → ((Offers side entry ↔ Present side skill.combo) ↔ MissingOrAlone row skill.combo)

omit [Number N] in
theorem offersRight_of {comboid : Nat → Option (Option (List Nat))} {row : List Nat} (stands : backRow side = row)
    (offers : ∀ entry, Offers side entry ↔
      entry.2 ∈ positions P_BACK_LEFT P_BACK_RIGHT ∧ Has comboid side entry ∧ Met tables side entry.1) :
    OffersRight tables comboid row side := by
  intro entry skill back has known asked
  rw [offers, ← stands, ← checkComboHero_right asked]
  simp [back, has, Met, known]

/-- The check is right, and with it what a side offers, where a required hero is missing from the back row or one hero
holds all of it. -/
theorem combo_heroes (tables : Tables N) :
    (∀ (side : Side N) (heroes : List Nat), heroes ≠ [] →
      ((checkComboHero side heroes = true ↔ Present side heroes) ↔ MissingOrAlone (backRow side) heroes)) ∧
    (∀ (team : List (HeroInfo N)) (side : Side N), createFromPlayer tables team = some side →
      OffersRight tables tables.tbCharacter (rowOf (teamAt team)) side) ∧
    ∀ (boxid : Nat) (box : Nat → Option Nat) (side : Side N), tables.tbMonsterBox boxid = some box →
      createFromMonsterBox tables boxid = some (some side) → OffersRight tables (monsterCombos tables) (rowOf box) side := by
  refine ⟨fun side heroes asked => checkComboHero_right asked, fun team side ran => ?_, fun boxid box side known ran => ?_⟩
  · obtain ⟨stands, offers⟩ := createFromPlayer_offers ran
    exact offersRight_of stands offers
  · obtain ⟨box', known', stands, offers⟩ := createFromMonsterBox_offers ran
    obtain rfl := Option.some.inj (known'.symm.trans known)
    exact offersRight_of stands offers

end

/-! ### A combo of two -/

/-- A hero of a team, or a monster of a box. -/
def trioInfo : Info Exact where
  level := some (num 1)
  hp := some (num 5)
  atk := some (num 100)
  defense := some (num 10)
  reducehurt := num 0
  penetrationlevel := num 0
  critlevel := num 0
  tenacitylevel := num 0
  hitlevel := num 0
  dodgelevel := num 0
  cost := none
  skill := none
  skill_lvl := none
  statusid := none
  normalattack _ := 1

/-- The first hero has a combo skill with the second. -/
def trioTables : Tables Exact where
  tbMonsterBox _ := some fun pos => if P_BACK_LEFT ≤ pos then some (pos - P_HEAD_RIGHT) else none
  tbMonster id := some { trioInfo with comboid := if id = 1 then some [9] else none }
  tbSkill _ := some
    { cost := 1, probability := num 100, level := num 1, combo := [1, 2], skillresultsid := 1, camp := 2
      target := .default, rangetype := .single, pos := none, costarg := none, hittype := .must }
  tbSkillResult _ := none
  tbStatus _ := none
  tbStatusType _ := none
  tbCharacter id := some (if id = 1 then some [9] else none)

def trio : List (HeroInfo Exact) :=
  [{ trioInfo with pos := 4, id := 1 }, { trioInfo with pos := 5, id := 2 }, { trioInfo with pos := 6, id := 3 }]

def trioSide : Side Exact := (createFromPlayer trioTables trio).getD .empty

def trioBox : Side Exact := ((createFromMonsterBox trioTables 1).getD none).getD .empty

theorem trio_created : createFromPlayer trioTables trio = some trioSide := by rfl

theorem trioBox_created : createFromMonsterBox trioTables 1 = some (some trioBox) := by rfl

theorem combo_heroes_trio :
    ((checkComboHero trioSide [1, 2] = true ↔ Present trioSide [1, 2]) ↔ MissingOrAlone (backRow trioSide) [1, 2]) ∧
    ((Offers trioSide (9, 4) ↔ Present trioSide [1, 2]) ↔ MissingOrAlone (rowOf (teamAt trio)) [1, 2]) ∧
    ((Offers trioBox (9, 4) ↔ Present trioBox [1, 2]) ↔ MissingOrAlone [1, 2, 3] [1, 2]) := by
  obtain ⟨check, player, box⟩ := combo_heroes trioTables
  refine ⟨check trioSide [1, 2] nofun, ?_, ?_⟩
  · exact player trio trioSide trio_created (9, 4) _ (by decide) ⟨_, [9], rfl, rfl, by decide⟩ rfl nofun
  · exact box 1 _ trioBox rfl trioBox_created (9, 4) _ (by decide) ⟨_, [9], rfl, rfl, by decide⟩ rfl nofun

/-- The two stand side by side, and neither the team nor the box offers what they have together. -/
theorem trio_offers_nothing :
    ¬ (checkComboHero trioSide [1, 2] = true ↔ Present trioSide [1, 2]) ∧
    ¬ (Offers trioSide (9, 4) ↔ Present trioSide [1, 2]) ∧ ¬ (Offers trioBox (9, 4) ↔ Present trioBox [1, 2]) := by
  have present : Present trioSide [1, 2] := present_iff.mpr (by decide +kernel)
  have present' : Present trioBox [1, 2] := present_iff.mpr (by decide +kernel)
  have unchecked : checkComboHero trioSide [1, 2] = false := by rfl
  refine ⟨fun right => ?_, fun right => ?_, fun right => ?_⟩
  · nomatch unchecked.symm.trans (right.mpr present)
  · obtain ⟨cost, wheel, found, -⟩ := right.mpr present
    nomatch (rfl : trioSide.combo cost = none).symm.trans found
  · obtain ⟨cost, wheel, found, -⟩ := right.mpr present'
    nomatch (rfl : trioBox.combo cost = none).symm.trans found

end Tinygame.Fight
