import Tinygame.Fight.Creation
import Mathlib.Data.List.Nodup

/-!
# Targets are found without a fault

The search for targets and the draw of those that are hit, from a sound field and where the search is careful.
-/

namespace Tinygame.Fight
open Traced Play
variable {N : Type}

/-! ### Who stays -/

/-- Nobody goes but, maybe, whoever stood at one position. -/
structure Spared (tables : Tables N) (before : Field N) (camp : Camp) (target : Nat) (after : Field N) : Prop where
  sound : after.Sound tables
  present : ∀ other pos, (other, pos) ≠ (camp, target) → (before.fighters other).present pos = true →
    (after.fighters other).present pos = true

section
variable {tables : Tables N} {first second third : Field N} {camp : Camp} {target : Nat}

theorem Spared.refl (sound : first.Sound tables) (camp : Camp) (target : Nat) : Spared tables first camp target first :=
  ⟨sound, fun _ _ _ there => there⟩

theorem Spared.trans (here : Spared tables first camp target second) (there : Spared tables second camp target third) :
    Spared tables first camp target third :=
  ⟨there.sound, fun other pos apart present => there.present other pos apart (here.present other pos apart present)⟩

theorem Kept.spared (kept : Kept first second) (sound : second.Sound tables) (camp : Camp) (target : Nat) :
    Spared tables first camp target second :=
  ⟨sound, fun other pos _ there => (kept.present other pos).trans there⟩

/-- Another post at a position. A hero who stood there still does. -/
theorem Side.Sound.setPost {side : Side N} (sound : side.Sound tables) {pos : Nat} {new : Option (Post N)}
    (whole : ∀ post, new = some post → post.Sound tables pos)
    (heroes : ∀ before, side.posts pos = some before → before.fighter.type = .hero →
      ∃ post, new = some post ∧ post.fighter = before.fighter) : (side.setPost pos new).Sound tables := by
  refine ⟨fun other post there => ?_, fun cost wheel found => ⟨(sound.wheels cost wheel found).1, fun entry member => ?_⟩, sound.addCost⟩
  · by_cases here : other = pos
    · subst here
      rw [Side.setPost_posts_self] at there
      exact whole post there
    · rw [Side.setPost_posts_ne _ _ here] at there
      exact sound.posts other post there
  · obtain ⟨known, before, there, hero, knows⟩ := (sound.wheels cost wheel found).2 entry member
    by_cases here : entry.2 = pos
    · obtain ⟨post, rfl, same⟩ := heroes before (here ▸ there) hero
      refine ⟨known, post, ?_, same ▸ hero, same ▸ knows⟩
      rw [here, Side.setPost_posts_self]
    · refine ⟨known, before, ?_, hero, knows⟩
      rw [Side.setPost_posts_ne _ _ here]
      exact there

/-- What stands at a position is replaced, or goes. -/
theorem spared_setPost (sound : first.Sound tables) {new : Option (Post N)} (whole : ∀ post, new = some post → post.Sound tables target)
    (heroes : ∀ before, (first.fighters camp).posts target = some before → before.fighter.type = .hero →
      ∃ post, new = some post ∧ post.fighter = before.fighter) :
    Spared tables first camp target (first.setSide camp ((first.fighters camp).setPost target new)) := by
  refine ⟨sound.setSide ((sound.sides camp).setPost whole heroes), fun other pos apart there => ?_⟩
  by_cases same : other = camp
  · subst same
    have elsewhere : pos ≠ target := fun here => apart (by rw [here])
    rw [Field.setSide_self]
    unfold Side.present at there ⊢
    rw [Side.setPost_posts_ne _ _ elsewhere]
    exact there
  · rw [Field.setSide_ne _ _ same]
    exact there

theorem present_setPost (field : Field N) (camp : Camp) (pos : Nat) (post : Post N) :
    ((field.setSide camp ((field.fighters camp).setPost pos (some post))).fighters camp).present pos = true := by
  rw [Field.setSide_self]
  unfold Side.present
  rw [Side.setPost_posts_self]
  rfl

/-- Life, and what else of a side is not looked at. -/
theorem kept_life (sound : first.Sound tables) {side : Side N} (alike : (first.fighters camp).Alike side) :
    (first.setSide camp side).Sound tables ∧ Kept first (first.setSide camp side) :=
  ⟨sound.setSide ((sound.sides camp).of_lists alike.frame alike.lists), kept_setSide alike.frame⟩

end

/-! ### Draws -/

section
variable [Number N] {tables : Tables N} {s : Field N} {α β : Type}

theorem reach_le (nRand : N) (i : Nat) (nSum : N) (tbPro : List N) : reach nRand i nSum tbPro ≤ i + tbPro.length - 1 := by
  induction tbPro generalizing i nSum with
  | nil => exact Nat.zero_le _
  | cons pro rest ih =>
    unfold reach
    rw [List.length_cons]
    dsimp only
    split
    · omega
    · have later := ih (i + 1) (nSum + pro)
      omega

theorem getRandomIndex_le (seed : Int) (tbPro : List N) : (Fight.getRandomIndex seed tbPro).1 ≤ tbPro.length := by
  have bound := reach_le (num (Fight.random seed 1 100).1) 1 (num 0) tbPro
  unfold Fight.getRandomIndex
  dsimp only
  omega

omit [Number N] in
theorem random_range (seed : Int) {n : Nat} (some' : 1 ≤ n) :
    1 ≤ (Fight.random seed 1 n).1.toNat ∧ (Fight.random seed 1 n).1.toNat ≤ n := by
  unfold Fight.random
  dsimp only
  have low := Int.emod_nonneg (nextSeed seed) (by omega : (n : Int) - 1 + 1 ≠ 0)
  have high := Int.emod_lt_of_pos (nextSeed seed) (by omega : (0 : Int) < (n : Int) - 1 + 1)
  rw [if_neg (by omega), if_neg (by omega)]
  omega

theorem holds_random_bind {n : Nat} {next : Nat → Play N β} {post : β → Field N → Prop}
    (rest : ∀ drawn seed, (1 ≤ n → 1 ≤ drawn ∧ drawn ≤ n) → Holds (faultlessPlay tables) (next drawn) { s with seed := seed } post) :
    Holds (faultlessPlay tables) (Play.random n >>= next) s post :=
  holds_run_bind rfl (rest _ _ (random_range _))

theorem holds_drawPercent_bind {next : N → Play N β} {post : β → Field N → Prop}
    (rest : ∀ rand seed, Holds (faultlessPlay tables) (next rand) { s with seed := seed } post) :
    Holds (faultlessPlay tables) (drawPercent >>= next) s post :=
  holds_run_bind rfl (rest _ _)

theorem getRandomIndex_holds (tbPro : List N) :
    Holds (faultlessPlay tables) (Play.getRandomIndex tbPro) s fun drawn s' =>
      drawn = (Fight.getRandomIndex s.seed tbPro).1 ∧ ∃ seed, s' = { s with seed := seed } :=
  holds_read_bind (holds_modify_bind (holds_pure ⟨rfl, _, rfl⟩))

/-- The cost that is drawn for a turn. -/
theorem randomSkillCost_holds (sound : s.Sound tables) (camp : Camp) :
    Holds (faultlessPlay tables) (randomSkillCost camp) s fun _ s' => ∃ seed, s' = { s with seed := seed } := by
  have positive := (sound.sides camp).addCost
  have listed (cost : Int) (low : 0 ≤ cost) (high : cost ≤ 6) : ∃ tbPro : List N, SKILL_PRO cost = some tbPro := by
    have cases : cost = 0 ∨ cost = 1 ∨ cost = 2 ∨ cost = 3 ∨ cost = 4 ∨ cost = 5 ∨ cost = 6 := by omega
    rcases cases with rfl | rfl | rfl | rfl | rfl | rfl | rfl <;> exact ⟨_, rfl⟩
  have range : ∃ tbPro : List N, SKILL_PRO (if (MAX_COST : Int) < (s.fighters camp).addCost + s.turn then 0
      else (s.fighters camp).addCost + s.turn) = some tbPro := by
    have six : (MAX_COST : Int) = 6 := rfl
    split
    · exact listed 0 (by omega) (by omega)
    · exact listed _ (by omega) (by omega)
  obtain ⟨tbPro, found⟩ := range
  unfold randomSkillCost
  refine holds_read_bind (holds_indexed_bind found ?_)
  exact (getRandomIndex_holds tbPro).mono fun _ _ met => met.2

/-! ### Targets -/

/-- Where the search has looked, somebody is at each of the targets. -/
structure Aimed (looked : Prop) (side : Side N) (target : List Nat) : Prop where
  apart : target.Nodup
  present : looked → ∀ pos ∈ target, side.present pos = true

section
variable {looked : Prop} {side : Side N}

omit [Number N] in
theorem aimed_nil : Aimed looked side [] := ⟨List.nodup_nil, fun _ _ member => absurd member List.not_mem_nil⟩

omit [Number N] in
theorem aimed_present {target : List Nat} (apart : target.Nodup) (there : ∀ pos ∈ target, side.present pos = true) :
    Aimed looked side target :=
  ⟨apart, fun _ => there⟩

omit [Number N] in
theorem aimed_toList {found : Option Nat} (there : ∀ pos, found = some pos → side.present pos = true) :
    Aimed looked side found.toList := by
  cases found with
  | none => exact aimed_nil
  | some pos => exact aimed_present (List.nodup_singleton pos) fun other member => List.mem_singleton.mp member ▸ there pos rfl

omit [Number N] in
theorem present_of_mem_among {first last pos : Nat} (member : pos ∈ side.among first last) : side.present pos = true :=
  (List.mem_filter.mp member).2

omit [Number N] in
theorem aimed_among (first last : Nat) : Aimed looked side (side.among first last) :=
  aimed_present ((List.nodup_range' ..).filter _) fun _ => present_of_mem_among

omit [Number N] in
theorem present_of_any {p : Fighter N → Bool} {pos : Nat} (any : (side.fighterAt pos).any p = true) : side.present pos = true := by
  cases there : side.fighterAt pos with
  | none =>
    rw [there] at any
    cases any
  | some fighter => exact Side.present_iff.mpr ⟨fighter, there⟩

omit [Number N] in
theorem present_of_withMarks {marks : List (Option StatusType)} {pos : Nat} (found : side.withMarks marks = some pos) :
    side.present pos = true := by
  have marked := List.find?_some found
  exact present_of_any marked

omit [Number N] in
theorem present_of_defaultTarget {caster : Fighter N} {idx pos : Nat} (found : defaultTarget caster idx side = some pos) :
    side.present pos = true := by
  have first (found : (side.among P_HEAD_LEFT P_BACK_RIGHT).head? = some pos) : side.present pos = true :=
    present_of_mem_among (List.mem_of_head? found)
  unfold defaultTarget at found
  dsimp only at found
  split at found
  · split at found
    · exact Option.some.inj found ▸ present_of_withMarks ‹_›
    · split at found
      · exact Option.some.inj found ▸ present_of_any ‹_›
      · split at found
        · exact Option.some.inj found ▸ ‹_›
        · exact first found
  · split at found
    · exact Option.some.inj found ▸ present_of_withMarks ‹_›
    · split at found
      · exact Option.some.inj found ▸ ‹_›
      · split at found
        · exact Option.some.inj found ▸ ‹_›
        · exact first found

omit [Number N] in
theorem searchDefault_aimed {caster : Fighter N} {idx : Nat} {range : SearchRange}
    (line : looked → range = .line → ∀ ret, defaultTarget caster idx side = some ret →
      side.present (behind ret) = true) : Aimed looked side (searchDefault caster idx side range) := by
  unfold searchDefault
  split
  · exact aimed_nil
  · rename_i ret found
    have there := present_of_defaultTarget found
    unfold inRange
    split
    · split <;> exact aimed_among ..
    · refine ⟨?_, fun seen pos member => ?_⟩
      · have apart : ret ≠ behind ret := by
          unfold behind
          have three : P_HEAD_RIGHT = 3 := rfl
          have four : P_BACK_LEFT = 4 := rfl
          split <;> omega
        exact List.nodup_cons.mpr ⟨fun member => apart (List.mem_singleton.mp member), List.nodup_singleton _⟩
      · rcases List.mem_cons.mp member with rfl | member
        · exact there
        · exact List.mem_singleton.mp member ▸ line seen rfl ret found
    · exact aimed_present (List.nodup_singleton ret) fun pos member => List.mem_singleton.mp member ▸ there

omit [Number N] in
/-- A fighter in the front row has a cost. -/
theorem cost_of_front (sound : side.Sound tables) {pos : Nat} (front : pos ∈ positions P_HEAD_LEFT P_HEAD_RIGHT) {fighter : Fighter N}
    (there : side.fighterAt pos = some fighter) : ∃ cost, fighter.cost = some cost := by
  obtain ⟨post, found, rfl⟩ := Side.fighterAt_eq_some.mp there
  have whole := sound.posts pos post found
  refine Option.isSome_iff_exists.mp (whole.fighter.cost ?_)
  cases type : post.fighter.type with
  | summon => rfl
  | hero =>
    have behind := whole.front type
    have inside := (List.mem_range'_1.mp front).2
    unfold P_HEAD_RIGHT P_HEAD_LEFT at *
    omega

omit [Number N] in
theorem bestSummon_aimed (sound : side.Sound tables) (better : N → N → Bool) (start : N) :
    ∃ target, bestSummon better start side = some target ∧ Aimed looked side target := by
  unfold bestSummon
  refine bind_succeeds (foldlM_succeeds (fun found : N × Option Nat => ∀ pos, found.2 = some pos → side.present pos = true)
    ?_ nofun) fun found met => ⟨_, rfl, aimed_toList met⟩
  intro found i member met
  split
  · exact ⟨found, rfl, met⟩
  · rename_i fighter there
    obtain ⟨cost, has⟩ := cost_of_front sound member there
    rw [has]
    refine ⟨_, rfl, fun pos chosen => ?_⟩
    split at chosen
    · exact Option.some.inj chosen ▸ Side.present_iff.mpr ⟨fighter, there⟩
    · exact met pos chosen

omit [Number N] in
/-- A loop that takes some of its rounds, each where a fighter stands. -/
theorem foldlM_picks {step : List Nat → Nat → Option (List Nat)} {rounds : List Nat}
    (picks : ∀ i ∈ rounds, ∀ target,
      step target i = some target ∨ side.present i = true ∧ step target i = some (target ++ [i])) (acc : List Nat) :
    ∃ more, rounds.foldlM step acc = some (acc ++ more) ∧ more.Sublist rounds ∧ ∀ pos ∈ more, side.present pos = true := by
  induction rounds generalizing acc with
  | nil =>
    exact ⟨[], congrArg some (List.append_nil acc).symm, List.Sublist.refl _, fun _ member => absurd member List.not_mem_nil⟩
  | cons i rest ih =>
    have later := ih fun i member => picks i (List.mem_cons_of_mem _ member)
    rw [List.foldlM_cons]
    rcases picks i (List.mem_cons_self ..) acc with left | ⟨there, taken⟩
    · rw [left]
      obtain ⟨more, ran, part, present⟩ := later acc
      exact ⟨more, ran, part.cons i, present⟩
    · rw [taken]
      obtain ⟨more, ran, part, present⟩ := later (acc ++ [i])
      refine ⟨i :: more, ran.trans ?_, part.cons_cons i, fun pos member => ?_⟩
      · rw [List.append_assoc]
        rfl
      · rcases List.mem_cons.mp member with rfl | member
        · exact there
        · exact present pos member

omit [Number N] in
theorem summonsOfCost_aimed (sound : side.Sound tables) (inOrder : N → N → Bool) {costarg : Option N} (given : costarg.isSome = true) :
    ∃ target, summonsOfCost inOrder costarg side = some target ∧ Aimed looked side target := by
  obtain ⟨arg, rfl⟩ := Option.isSome_iff_exists.mp given
  unfold summonsOfCost
  suffices picked : _ by
    obtain ⟨target, ran, part, present⟩ := foldlM_picks picked []
    exact ⟨target, ran, aimed_present (part.nodup (List.nodup_range' ..)) present⟩
  intro i front target
  cases there : side.fighterAt i with
  | none => exact .inl rfl
  | some fighter =>
    obtain ⟨cost, has⟩ := cost_of_front sound front there
    dsimp only
    rw [has]
    simp only [Option.bind_eq_bind, Option.bind_some, Option.pure_def]
    split
    · exact .inr ⟨Side.present_iff.mpr ⟨fighter, there⟩, rfl⟩
    · exact .inl rfl

/-- Where the front row is full. -/
theorem leastHp_aimed (full : ∀ pos ∈ positions P_HEAD_LEFT P_HEAD_RIGHT, side.present pos = true) :
    ∃ target, leastHp side = some target ∧ Aimed looked side target := by
  unfold leastHp
  refine bind_succeeds (foldlM_succeeds (fun found : N × Option Nat => ∀ pos, found.2 = some pos → side.present pos = true)
    ?_ nofun) fun found met => ⟨_, rfl, aimed_toList met⟩
  intro found i member met
  obtain ⟨fighter, there⟩ := Side.present_iff.mp (full i member)
  rw [there]
  refine ⟨_, rfl, fun pos chosen => ?_⟩
  split at chosen
  · exact Option.some.inj chosen ▸ full i member
  · exact met pos chosen

end

section
variable {field : Field N} (whole : tables.WellFormed) (sound : field.Sound tables) {targetCamp : Camp} {idx skillid : Nat}
  {row : SkillRow N} (known : tables.tbSkill skillid = some row)
  (full : row.target = .minHp → ∀ pos ∈ positions P_HEAD_LEFT P_HEAD_RIGHT, (field.fighters targetCamp).present pos = true)
  {effect : SkillEffect N} {looked : Prop} (calls : looked → effect.isCall = false)
  (self : looked → row.target = .self → (field.fighters targetCamp).present idx = true)
include whole sound known full calls self

theorem searchFirst_holds :
    Holds (faultlessPlay tables) (searchFirst targetCamp idx row effect) field fun target s' =>
      (∃ seed, s' = { field with seed := seed }) ∧ Aimed looked (field.fighters targetCamp) target := by
  have side := sound.sides targetCamp
  have same : ∃ seed, field = { field with seed := seed } := ⟨_, rfl⟩
  unfold searchFirst
  apply holds_read_bind
  dsimp only
  split
  · exact holds_pure ⟨same, aimed_nil⟩
  · rename_i target
    obtain ⟨tbPos, given, apart⟩ := whole.positions skillid row known target
    apply holds_indexed_bind given
    split
    · rename_i call
      exact holds_pure ⟨same, apart, fun seen => absurd ((calls seen).symm.trans call) nofun⟩
    · exact holds_pure ⟨same, aimed_present (apart.filter _) fun _ member => (List.mem_filter.mp member).2⟩
  · rename_i target
    refine holds_pure ⟨same, List.nodup_singleton idx, fun seen pos member => ?_⟩
    obtain rfl := List.mem_singleton.mp member
    exact self seen target
  · split
    · rename_i there
      exact holds_pure ⟨same, aimed_present (List.nodup_singleton _) fun pos member => List.mem_singleton.mp member ▸ there⟩
    · exact holds_pure ⟨same, aimed_nil⟩
  · obtain ⟨target, found, aimed⟩ := bestSummon_aimed side (fun cost best => best < cost) (num 0)
    rw [found]
    exact holds_pure ⟨same, aimed⟩
  · obtain ⟨target, found, aimed⟩ := bestSummon_aimed side (fun cost best => cost < best) (num 100)
    rw [found]
    exact holds_pure ⟨same, aimed⟩
  · rename_i target
    obtain ⟨target, found, aimed⟩ := summonsOfCost_aimed side (fun cost costarg => costarg ≤ cost)
      (whole.costs skillid row known (.inl target))
    rw [found]
    exact holds_pure ⟨same, aimed⟩
  · rename_i target
    obtain ⟨target, found, aimed⟩ := summonsOfCost_aimed side (fun cost costarg => cost ≤ costarg)
      (whole.costs skillid row known (.inr target))
    rw [found]
    exact holds_pure ⟨same, aimed⟩
  · split
    · exact holds_pure ⟨same, aimed_nil⟩
    · refine holds_random_bind fun drawn seed _ => holds_pure ⟨⟨seed, rfl⟩, aimed_toList fun pos found => ?_⟩
      exact present_of_mem_among (List.mem_of_getElem? found)
  · rename_i target
    obtain ⟨target, found, aimed⟩ := leastHp_aimed (full target)
    rw [found]
    exact holds_pure ⟨same, aimed⟩
  · generalize (if idx < P_BACK_LEFT then idx + P_HEAD_RIGHT else idx) = tar
    split
    · rename_i there
      exact holds_pure ⟨same, aimed_present (List.nodup_singleton _) fun pos member => List.mem_singleton.mp member ▸ there⟩
    · exact holds_pure ⟨same, aimed_nil⟩
  · split
    · rename_i call
      exact holds_pure ⟨same, List.nodup_singleton _, fun seen => absurd ((calls seen).symm.trans call.2) nofun⟩
    · exact holds_pure ⟨same, aimed_nil⟩
  · exact holds_pure ⟨same, aimed_nil⟩

theorem searchTarget_holds {camp : Camp} {caster : Fighter N} (there : (field.fighters camp).fighterAt idx = some caster)
    (line : looked → row.rangetype = .line → ∀ ret, defaultTarget caster idx (field.fighters targetCamp) = some ret →
      (field.fighters targetCamp).present (behind ret) = true) :
    Holds (faultlessPlay tables) (searchTarget camp targetCamp idx row effect) field fun target s' =>
      (∃ seed, s' = { field with seed := seed }) ∧ Aimed looked (field.fighters targetCamp) target := by
  unfold searchTarget
  refine holds_bind (searchFirst_holds whole sound known full calls self) ?_
  rintro target _ ⟨⟨seed, rfl⟩, aimed⟩
  split
  · exact holds_fighter_bind there (holds_read_bind (holds_pure ⟨⟨seed, rfl⟩, searchDefault_aimed line⟩))
  · exact holds_pure ⟨⟨seed, rfl⟩, aimed⟩

end

/-! ### Hits -/

/-- Those that are hit are among the targets, in order. -/
theorem calcBingo_holds {camp targetCamp : Camp} {myIdx : Nat} {bingoType : Bingo} {tbTarget : List Nat}
    (attacker : (s.fighters camp).present myIdx = true)
    (victims : bingoType ≠ .must → ∀ pos ∈ tbTarget, (s.fighters targetCamp).present pos = true) :
    Holds (faultlessPlay tables) (calcBingo camp targetCamp myIdx bingoType tbTarget) s fun drawn s' =>
      (∃ seed, s' = { s with seed := seed }) ∧ drawn.1.Sublist tbTarget := by
  unfold calcBingo
  split
  · exact holds_pure ⟨⟨_, rfl⟩, List.Sublist.refl _⟩
  · rename_i draws
    obtain ⟨caster, there⟩ := Side.present_iff.mp attacker
    refine (holds_foldlM (fun rest drawn s' => (∃ seed, s' = { s with seed := seed }) ∧
      ∃ done, tbTarget = rest.reverse ++ done ∧ drawn.1.Sublist done) ?_
      ⟨⟨_, rfl⟩, [], by simp, List.Sublist.refl _⟩).mono ?_
    · rintro target rest drawn _ ⟨⟨seed, rfl⟩, done, split, part⟩
      rw [List.reverse_cons, List.append_assoc] at split
      have member : target ∈ tbTarget := split ▸ List.mem_append_right _ (List.mem_cons_self ..)
      obtain ⟨victim, found⟩ := Side.present_iff.mp (victims draws target member)
      refine holds_fighter_bind there (holds_fighter_bind found (holds_drawPercent_bind fun rand seed => holds_pure ?_))
      refine ⟨⟨seed, rfl⟩, target :: done, split, ?_⟩
      split
      · exact part.cons target
      · exact part.cons_cons target
    · rintro drawn s' ⟨same, done, split, part⟩
      exact ⟨same, (show tbTarget = done from split) ▸ part⟩

/-- Nothing but the record and the seed has changed. -/
def Unmoved (before after : Field N) : Prop := ∃ seed tb, after = { before with seed := seed, tb := tb }

omit [Number N] in
theorem Unmoved.sound {before after : Field N} (unmoved : Unmoved before after) (sound : before.Sound tables) : after.Sound tables := by
  obtain ⟨seed, tb, rfl⟩ := unmoved
  exact ⟨sound.sides, sound.queue⟩

theorem hitTargets_holds {camp targetCamp : Camp} {idx : Nat} {row : SkillRow N} {effect : SkillEffect N} {tbTarget : List Nat}
    (attacker : (s.fighters camp).present idx = true)
    (victims : effect.drawsBingo = true → row.hittype ≠ .must → ∀ pos ∈ tbTarget, (s.fighters targetCamp).present pos = true) :
    Holds (faultlessPlay tables) (hitTargets camp targetCamp idx row effect tbTarget) s fun target s' =>
      Unmoved s s' ∧ target.Sublist tbTarget := by
  unfold hitTargets
  split
  · rename_i draws
    refine holds_bind (calcBingo_holds attacker (victims draws)) ?_
    rintro drawn _ ⟨⟨seed, rfl⟩, part⟩
    refine holds_bind (holds_forM (fun _ s' => Unmoved s s') ?_ ⟨seed, _, rfl⟩) fun _ s' unmoved => holds_pure ⟨unmoved, part⟩
    rintro target rest _ ⟨seed, tb, rfl⟩
    exact holds_modify ⟨seed, _, rfl⟩
  · exact holds_pure ⟨⟨_, _, rfl⟩, List.Sublist.refl _⟩

end

end Tinygame.Fight
