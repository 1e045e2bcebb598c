import Tinygame.Base.Audit
import Tinygame.Fight.Faultless
import Tinygame.Fight.Frame

/-!
# What is told of a fight

`startFight` hands out the record of the turns and the winner. The record tells of every cast of the fight once, in the
turn it was made in, and the winner is the one who has life left, or who came second when both have.
-/

namespace Tinygame.Fight
open Traced
variable {N : Type} [Number N] {tables : Tables N}

abbrev Casting : Type := Camp × Option Nat × Option Nat

def Entry.cast? : Entry N → Option Casting
  | .skill tb => some tb.cast
  | _ => none

/-- The casts a record tells of, in order. -/
def castsTold (data : List (TurnData N)) : List Casting := data.flatMap fun turn => turn.op.filterMap Entry.cast?

def Event.cast? : Event N → Option Casting
  | .castSkill camp idx skillid => some (camp, some idx, some skillid)
  | _ => none

/-- The casts of a fight, in order. -/
def castsMade (points : List (Event N × FightManager N)) : List Casting := points.flatMap fun point => point.1.cast?.toList

def Field.beaten (field : Field N) (camp : Camp) : Prop := (field.fighters camp).totalHP ≤ num 0

/-- The winner is the other one of a side without life. Where neither side has any, the first side has lost. -/
structure Won (field : Field N) (winner : Camp) : Prop where
  lost : field.beaten (getObsCamp winner)
  first : winner = .me → ¬ field.beaten .me

/-- The turn is the last of those that the record has. -/
structure Dated (black : Camp) (turn : Nat) (fight : FightManager N) : Prop where
  black : fight.black = black
  passed : fight.field.turn = turn
  turns : fight.data.length = turn
  begun : BEGIN_TURN ≤ turn
  last : turn ≤ MAX_TURN

/-- A turn is under way, and nobody has won. -/
structure Running (black : Camp) (turn : Nat) (fight : FightManager N) : Prop extends Dated black turn fight where
  undecided : fight.field.winner = none

/-- How a fight ends before its last turn, with these casts not yet in the record. -/
def Cut (black : Camp) (fight : FightManager N) (due : List Casting) : Halt N → Prop
  | .stop (.yield tb) => (∃ turn, Dated black turn fight) ∧ (∃ winner, fight.field.winner = some winner ∧ Won fight.field winner) ∧
    due = (tb.map SkillOp.cast).toList
  | _ => ∃ turn, Running black turn fight

def bookkeeping (black : Camp) : Audit (Event N) (FightManager N) (Halt N) Casting where
  log fight := castsTold fight.data
  worth event := event.cast?.toList
  halted reason fight due := Cut black fight due reason

/-! ### The record -/

omit [Number N] in
theorem castsTold_append (data : List (TurnData N)) (turn : TurnData N) :
    castsTold (data ++ [turn]) = castsTold data ++ turn.op.filterMap Entry.cast? := by
  simp [castsTold]

omit [Number N] in
/-- What the last turn gains the record gains. -/
theorem castsTold_modify {data : List (TurnData N)} {f : TurnData N → TurnData N} {more : List Casting} (some_ : data ≠ [])
    (gains : ∀ turn, (f turn).op.filterMap Entry.cast? = turn.op.filterMap Entry.cast? ++ more) :
    castsTold (data.modify (data.length - 1) f) = castsTold data ++ more := by
  have inside : data.length - 1 < data.length := Nat.sub_one_lt (mt List.length_eq_zero_iff.mp some_)
  obtain ⟨before, last, after, whole, place, changed⟩ := List.exists_of_modify f inside
  have nothing : after = [] := by
    rw [whole, List.length_append, List.length_cons] at place
    exact List.length_eq_zero_iff.mp (by omega)
  subst nothing
  rw [changed, whole, castsTold_append, castsTold_append, gains, List.append_assoc]

/-! ### On the field -/

section
variable {black : Camp} {turn : Nat} {fight : FightManager N} {α : Type}

/-- The field of a fight under way, with the same cast. -/
def StillField (fight : FightManager N) (field : Field N) : Prop :=
  field.winner = none ∧ field.turn = fight.field.turn ∧ field.tb.cast = fight.field.tb.cast

abbrev fieldTerms (black : Camp) (fight : FightManager N) (due : List Casting) : Terms (Act N) (Field N) (Stop N) :=
  ⟨fun _ _ => True, fun _ _ => True, fun reason field => Cut black { fight with field := field } due (.stop reason)⟩

omit [Number N] in
theorem Dated.recorded (dated : Dated black turn fight) : fight.data ≠ [] := by
  have turns := dated.turns
  have begun := dated.begun
  unfold BEGIN_TURN at begun
  intro none_
  rw [none_, List.length_nil] at turns
  omega

omit [Number N] in
theorem Running.still (running : Running black turn fight) : StillField fight fight.field := ⟨running.undecided, rfl, rfl⟩

omit [Number N] in
theorem Running.resume (running : Running black turn fight) {field : Field N} (still : StillField fight field) :
    Running black turn { fight with field := field } where
  black := running.black
  passed := still.2.1.trans running.passed
  turns := running.turns
  begun := running.begun
  last := running.last
  undecided := still.1

theorem running_framed (running : Running black turn fight) (due : List Casting) : Framed (fieldTerms black fight due) (StillField fight) where
  fighters _ _ still := still
  queue _ _ still := still
  seed _ _ still := still
  tb _ _ same still := ⟨still.1, still.2.1, same.trans still.2.2⟩
  point _ _ _ := trivial
  error _ still := ⟨turn, running.resume still⟩

theorem loseFight_decides (running : Running black turn fight) {due : List Casting} {tb : Option (SkillOp N)} {field : Field N}
    (still : StillField fight field) (told : due = (tb.map SkillOp.cast).toList) (camp : Camp)
    (first : camp = .obs → ¬ field.beaten .me) :
    Holds (fieldTerms black fight due) (loseFight camp tb) field fun _ field' => field' = field ∧ ¬ field.beaten camp := by
  refine holds_read_bind ?_
  split
  · rename_i dead
    refine holds_modify_bind (holds_stop ⟨?_, ⟨getObsCamp camp, rfl, ?_, ?_⟩, told⟩)
    · have there := running.resume still
      exact ⟨turn, there.black, there.passed, there.turns, there.begun, there.last⟩
    · have back : getObsCamp (getObsCamp camp) = camp := by cases camp <;> rfl
      rw [back]
      exact dead
    · intro won
      cases camp with
      | me => cases won
      | obs => exact first rfl
  · rename_i alive
    exact holds_pure ⟨rfl, alive⟩

theorem checkEndFight_decides (running : Running black turn fight) {due : List Casting} {tb : Option (SkillOp N)} {field : Field N}
    (still : StillField fight field) (told : due = (tb.map SkillOp.cast).toList) :
    Holds (fieldTerms black fight due) (checkEndFight tb) field fun _ field' => field' = field ∧ ∀ camp, ¬ field.beaten camp := by
  refine holds_bind (loseFight_decides running still told .me (fun other => by cases other)) ?_
  rintro - _ ⟨rfl, mine⟩
  refine (loseFight_decides running still told .obs fun _ => mine).mono ?_
  rintro - _ ⟨rfl, theirs⟩
  exact ⟨rfl, fun camp => by cases camp <;> assumption⟩

theorem endsChecked (running : Running black turn fight) : EndsChecked (fieldTerms black fight [fight.field.tb.cast]) (StillField fight) := by
  intro field still
  refine holds_read_bind ?_
  refine (checkEndFight_decides running still ?_).mono ?_
  · exact congrArg (fun cast => [cast]) still.2.2.symm
  · rintro - _ ⟨rfl, -⟩
    exact ⟨trivial, still⟩

/-- The fight goes on with the same cast, and nothing was told or paid. -/
def Onward (black : Camp) (turn : Nat) (fight : FightManager N) (due : List Casting) (fight' : FightManager N) (due' : List Casting) : Prop :=
  Running black turn fight' ∧ fight'.field.tb.cast = fight.field.tb.cast ∧ due' = due

theorem play_agrees {m : Play N α} {due : List Casting} (running : Running black turn fight)
    (framed : ∀ terms R, Framed terms R → Preserves terms R m fun _ => True) :
    (bookkeeping black).Agrees (Battle.play m) fight due fun _ => Onward black turn fight due := by
  refine Audit.agrees_within (fun _ => rfl) (fun _ => rfl) ?_
  refine (framed _ _ (running_framed running due) fight.field running.still).mono fun _ field met => ?_
  exact ⟨running.resume met.2, met.2.2.2, rfl⟩

end

/-! ### Casting -/

section
variable {black : Camp} {turn : Nat} {fight : FightManager N} {due : List Casting}

abbrev Agrees {α : Type} (black : Camp) (m : Battle N α) (fight : FightManager N) (due : List Casting)
    (post : α → FightManager N → List Casting → Prop) : Prop :=
  (bookkeeping black).Agrees m fight due post

theorem mark_onward {event : Event N} (running : Running black turn fight) (free : event.cast? = none) :
    Agrees black (mark event) fight due fun _ => Onward black turn fight due := by
  refine Audit.agrees_mark ⟨running, rfl, ?_⟩
  show due ++ event.cast?.toList = due
  rw [free]
  exact List.append_nil due

omit [Number N] in
theorem Onward.trans {fight' fight'' : FightManager N} {due' due'' : List Casting} (first : Onward black turn fight due fight' due')
    (second : Onward black turn fight' due' fight'' due'') : Onward black turn fight due fight'' due'' :=
  ⟨second.1, second.2.1.trans first.2.1, second.2.2.trans first.2.2⟩

omit [Number N] in
theorem Onward.refl (running : Running black turn fight) : Onward black turn fight due fight due := ⟨running, rfl, rfl⟩

/-- One step onward, and then the rest. -/
theorem onward_bind {α β : Type} {m : Battle N α} {next : α → Battle N β} {post : β → FightManager N → List Casting → Prop}
    (first : Agrees black m fight due fun _ => Onward black turn fight due)
    (rest : ∀ result fight', Running black turn fight' → fight'.field.tb.cast = fight.field.tb.cast → Agrees black (next result) fight' due post) :
    Agrees black (m >>= next) fight due post := by
  refine Audit.agrees_bind _ first ?_
  rintro result fight' _ ⟨running, same, rfl⟩
  exact rest result fight' running same

/-- A cast up to its effect stays the cast that is under way. -/
theorem takeEffect_onward (running : Running black turn fight) (told : due = [fight.field.tb.cast]) (camp : Camp) (idx skillid : Nat)
    (rein : Bool) : Agrees black (takeEffect tables camp idx skillid rein) fight due fun _ => Onward black turn fight due := by
  subst told
  unfold takeEffect
  refine onward_bind (play_agrees running fun _ _ _ => fighter?_framed camp idx) fun there fight1 running1 same1 => ?_
  split
  · exact Audit.agrees_pure ⟨running1, same1, rfl⟩
  refine onward_bind (play_agrees running1 fun _ _ framed => indexed_framed framed _) fun row fight2 running2 same2 => ?_
  refine onward_bind (play_agrees running2 fun _ _ framed => indexed_framed framed _) fun result fight3 running3 same3 => ?_
  dsimp only
  refine onward_bind (play_agrees running3 fun _ _ framed => castConditions_framed framed camp idx _) fun buff fight4 running4 same4 => ?_
  refine onward_bind (play_agrees running4 fun _ _ framed => modifyTb_framed framed fun _ => rfl) fun _ fight5 running5 same5 => ?_
  refine onward_bind (mark_onward running5 rfl) fun _ fight6 running6 same6 => ?_
  refine onward_bind (play_agrees running6 fun _ _ framed => searchTarget_framed framed camp _ idx row _) fun tbTarget fight7 running7 same7 => ?_
  have same := same7.trans (same6.trans (same5.trans (same4.trans (same3.trans (same2.trans same1)))))
  split
  · exact Audit.agrees_pure ⟨running7, same, rfl⟩
  refine onward_bind (play_agrees running7 fun _ _ framed => modifyTb_framed framed fun _ => rfl) fun _ fight8 running8 same8 => ?_
  refine onward_bind (play_agrees running8 fun _ _ framed => hitTargets_framed framed camp _ idx row _ tbTarget)
    fun tbTarget fight9 running9 same9 => ?_
  have same := same9.trans (same8.trans same)
  split
  · exact Audit.agrees_pure ⟨running9, same, rfl⟩
  refine onward_bind (mark_onward running9 rfl) fun _ fight10 running10 same10 => ?_
  have same := same10.trans same
  rw [← same]
  refine Audit.agrees_bind (fun _ => Onward black turn fight10 [fight10.field.tb.cast]) ?_ ?_
  · refine Audit.agrees_within (fun _ => rfl) (fun _ => rfl) ?_
    refine (skillEffect_framed (running_framed running10 _) (endsChecked running10) camp _ idx skillid result tbTarget rein
      fight10.field running10.still).mono fun _ field met => ?_
    exact ⟨running10.resume met.2, met.2.2.2, rfl⟩
  · rintro - fight11 _ ⟨running11, same11, rfl⟩
    exact Audit.agrees_pure ⟨running11, same11.trans same, rfl⟩

/-- Between casts nothing is due. -/
def AtRest (black : Camp) (turn : Nat) (fight : FightManager N) (due : List Casting) : Prop := Running black turn fight ∧ due = []

theorem modifyTurn_agrees (running : Running black turn fight) {f : TurnData N → TurnData N}
    (gains : ∀ turn, (f turn).op.filterMap Entry.cast? = turn.op.filterMap Entry.cast? ++ due) :
    Agrees black (Battle.modifyTurn f) fight due fun _ => AtRest black turn := by
  refine Audit.agrees_modify [] ?_ ⟨{ running with turns := (List.length_modify ..).trans running.turns }, rfl⟩
  · show castsTold (fight.data.modify (fight.field.turn - 1) f) ++ [] = castsTold fight.data ++ due
    rw [List.append_nil, running.passed, ← running.turns, castsTold_modify running.recorded gains]

theorem record_agrees (running : Running black turn fight) (entry : Entry N) :
    Agrees black (Battle.record entry) fight entry.cast?.toList fun _ => AtRest black turn := by
  apply modifyTurn_agrees running
  intro turn
  cases told : entry.cast? <;> simp [List.filterMap_append, told]

theorem endCast_agrees (running : Running black turn fight) : Agrees black (endCast : Battle N Unit) fight [fight.field.tb.cast] fun _ => AtRest black turn := by
  refine Audit.agrees_bind (fun _ => Onward black turn fight [fight.field.tb.cast]) ?_ ?_
  · refine Audit.agrees_modify _ rfl ⟨?_, rfl, rfl⟩
    exact { running with }
  · rintro - fight' _ ⟨running', same, rfl⟩
    refine Audit.agrees_read_bind ?_
    rw [← same]
    exact record_agrees running' _

/-! ### Choosing a skill -/

/-- A cast that is told once, whoever casts it. -/
def CastAgrees (black : Camp) (turn : Nat) (cast : Cast N) : Prop :=
  ∀ camp idx skillid rein (fight : FightManager N), Running black turn fight → fight.field.tb.camp = camp →
    Agrees black (cast camp idx skillid rein) fight [] fun _ => AtRest black turn

omit [Number N] in
theorem camp_of_cast {tb tb' : SkillOp N} {camp : Camp} (same : tb'.cast = tb.cast) (own : tb.camp = camp) : tb'.camp = camp :=
  (congrArg Prod.fst same).trans own

section
variable {camp : Camp} (running : Running black turn fight) (own : fight.field.tb.camp = camp)
include running own

theorem chosen_bind {α : Type} {m : Play N α} {next : α → Battle N Unit} (framed : ∀ terms R, Framed terms R → Preserves terms R m fun _ => True)
    (rest : ∀ result fight', Running black turn fight' → fight'.field.tb.camp = camp → Agrees black (next result) fight' [] fun _ => AtRest black turn) :
    Agrees black (Battle.play m >>= next) fight [] fun _ => AtRest black turn :=
  onward_bind (play_agrees running framed) fun result fight' running' same => rest result fight' running' (camp_of_cast same own)

variable {cast : Cast N} (agrees : CastAgrees black turn cast)
include agrees

theorem castNormalAtk_agrees : Agrees black (castNormalAtk cast camp) fight [] fun _ => AtRest black turn := by
  unfold castNormalAtk
  refine chosen_bind running own (fun _ _ _ => side_framed camp) fun there fight1 running1 own1 => ?_
  dsimp only
  split
  · exact Audit.agrees_pure ⟨running1, rfl⟩
  refine chosen_bind running1 own1 (fun _ _ framed => random_framed framed _) fun ret fight2 running2 own2 => ?_
  refine chosen_bind running2 own2 (fun _ _ framed => indexed_framed framed _) fun idx fight3 running3 own3 => ?_
  refine chosen_bind running3 own3 (fun _ _ framed => fighter_framed framed camp idx) fun hero fight4 running4 own4 => ?_
  exact Audit.agrees_read_bind (agrees camp idx _ false fight4 running4 own4)

theorem heroCostSkill_agrees (cost : Int) (rein : Bool) : Agrees black (heroCostSkill cast camp cost rein) fight [] fun _ => AtRest black turn := by
  unfold heroCostSkill
  refine chosen_bind running own (fun _ _ _ => side_framed camp) fun there fight1 running1 own1 => ?_
  split
  · exact castNormalAtk_agrees running1 own1 agrees
  refine chosen_bind running1 own1 (fun _ _ framed => getRandomIndex_framed framed _) fun skillIdx fight2 running2 own2 => ?_
  split
  · exact castNormalAtk_agrees running2 own2 agrees
  refine chosen_bind running2 own2 (fun _ _ framed => indexed_framed framed _) fun entry fight3 running3 own3 => ?_
  refine chosen_bind running3 own3 (fun _ _ framed => fighter_framed framed camp entry.2) fun hero fight4 running4 own4 => ?_
  split
  · exact castNormalAtk_agrees running4 own4 agrees
  · exact agrees camp entry.2 entry.1 rein fight4 running4 own4

theorem summonCostSkill_agrees (pos : Nat) (rein : Bool) : Agrees black (summonCostSkill cast camp pos rein) fight [] fun _ => AtRest black turn := by
  unfold summonCostSkill
  refine chosen_bind running own (fun _ _ framed => fighter_framed framed camp pos) fun summon fight1 running1 own1 => ?_
  refine Audit.agrees_read_bind ?_
  dsimp only
  split
  · exact agrees camp pos _ false fight1 running1 own1
  refine chosen_bind running1 own1 (fun _ _ framed => getRandomIndex_framed framed _) fun skillIdx fight2 running2 own2 => ?_
  split
  · exact agrees camp pos _ false fight2 running2 own2
  refine chosen_bind running2 own2 (fun _ _ framed => indexed_framed framed _) fun skillid fight3 running3 own3 => ?_
  exact agrees camp pos skillid rein fight3 running3 own3

theorem randomCostSkill_agrees (cost : Int) (type : TargetType) (pos : Nat) (rein : Bool) :
    Agrees black (randomCostSkill cast camp cost type pos rein) fight [] fun _ => AtRest black turn := by
  cases type with
  | hero => exact heroCostSkill_agrees running own agrees cost rein
  | summon => exact summonCostSkill_agrees running own agrees pos rein

end

theorem castQueued_agrees {cast : Cast N} (agrees : CastAgrees black turn cast) (running : Running black turn fight) :
    Agrees black (castQueued cast) fight [] fun _ => AtRest black turn := by
  unfold castQueued
  refine Audit.agrees_read_bind ?_
  split
  · exact Audit.agrees_pure ⟨running, rfl⟩
  rename_i nextSkill rest _
  let tb : SkillOp N := { type := .queueskill, camp := nextSkill.camp }
  refine Audit.agrees_bind (fun _ fight' due => Running black turn fight' ∧ fight'.field.tb = tb ∧ due = []) ?_ ?_
  · refine Audit.agrees_within (fun _ => rfl) (fun _ => rfl) (holds_modify ⟨?_, rfl, rfl⟩)
    exact { running with }
  rintro - fight1 _ ⟨running1, named, rfl⟩
  refine onward_bind (mark_onward running1 rfl) fun _ fight2 running2 same => ?_
  have own : fight2.field.tb.camp = nextSkill.camp := camp_of_cast same (congrArg SkillOp.camp named)
  split
  · exact agrees _ _ _ _ fight2 running2 own
  · exact randomCostSkill_agrees running2 own agrees _ _ _ _
  · exact Audit.agrees_pure ⟨running2, rfl⟩

theorem castSkill_agrees (fuel : Nat) : CastAgrees black turn (castSkill tables fuel) := by
  induction fuel with
  | zero =>
    intro camp idx skillid rein fight running own
    exact Audit.agrees_stop ⟨turn, running⟩
  | succ fuel ih =>
    intro camp idx skillid rein fight running own
    unfold castSkill
    let named (fight' : FightManager N) : Prop := fight'.field.tb.cast = (camp, some idx, some skillid)
    refine Audit.agrees_bind (fun _ fight' due => Running black turn fight' ∧ named fight' ∧ due = []) ?_ ?_
    · refine Audit.agrees_within (fun _ => rfl) (fun _ => rfl) (holds_modify ⟨?_, ?_, rfl⟩)
      · exact { running with }
      · exact congrArg (·, some idx, some skillid) own
    rintro - fight1 _ ⟨running1, told1, rfl⟩
    refine Audit.agrees_bind (fun _ fight' due => Running black turn fight' ∧ due = [fight'.field.tb.cast]) ?_ ?_
    · exact Audit.agrees_mark ⟨running1, congrArg (fun cast => [cast]) told1.symm⟩
    rintro - fight2 _ ⟨running2, rfl⟩
    refine Audit.agrees_read_bind ?_
    split
    · refine onward_bind (play_agrees running2 fun _ _ framed => modifyTb_framed framed fun _ => rfl) fun _ fight3 running3 same3 => ?_
      rw [← same3]
      exact endCast_agrees running3
    · refine onward_bind (takeEffect_onward running2 rfl camp idx skillid rein) fun goOn fight3 running3 same3 => ?_
      rw [← same3]
      refine Audit.agrees_bind _ (endCast_agrees running3) ?_
      rintro - fight4 _ ⟨running4, rfl⟩
      split
      · exact castQueued_agrees ih running4
      · exact Audit.agrees_pure ⟨running4, rfl⟩

/-! ### Turns -/

theorem beginPhase_agrees (running : Running black turn fight) (tb : SkillOp N) :
    Agrees black (beginPhase tb) fight [] fun _ fight' due => Running black turn fight' ∧ fight'.field.tb = tb ∧ due = [] :=
  Audit.agrees_modify _ rfl ⟨{ running with }, rfl, rfl⟩

theorem doHero_agrees (running : Running black turn fight) (fuel : Nat) (camp : Camp) :
    Agrees black (doHero tables fuel camp) fight [] fun _ => AtRest black turn := by
  unfold doHero
  refine Audit.agrees_bind _ (beginPhase_agrees running _) ?_
  rintro - fight1 _ ⟨running1, named, rfl⟩
  have own1 : fight1.field.tb.camp = camp := congrArg SkillOp.camp named
  refine onward_bind (mark_onward running1 rfl) fun _ fight2 running2 same2 => ?_
  have own2 := camp_of_cast same2 own1
  refine chosen_bind running2 own2 (fun _ _ framed => randomSkillCost_framed framed camp) fun cost fight3 running3 own3 => ?_
  refine chosen_bind running3 own3 (fun _ _ framed => modifyTb_framed framed fun _ => rfl) fun _ fight4 running4 own4 => ?_
  refine onward_bind (mark_onward running4 rfl) fun _ fight5 running5 same5 => ?_
  have own5 := camp_of_cast same5 own4
  refine chosen_bind running5 own5 (fun _ _ _ => side_framed camp) fun there fight6 running6 own6 => ?_
  have act (comboIndex : Nat) (fight' : FightManager N) (running' : Running black turn fight') (own' : fight'.field.tb.camp = camp) :
      Agrees black (if 0 < comboIndex then Traced.stop (.stop .error)
        else randomCostSkill (castSkill tables fuel) camp cost .hero 0 false) fight' [] fun _ => AtRest black turn := by
    split
    · exact Audit.agrees_stop ⟨turn, running'⟩
    · exact randomCostSkill_agrees running' own' (castSkill_agrees fuel) _ _ _ _
  dsimp only
  split
  · exact act 0 fight6 running6 own6
  · exact chosen_bind running6 own6 (fun _ _ framed => getRandomIndex_framed framed _) act

theorem actSummon_agrees (running : Running black turn fight) (fuel : Nat) (camp : Camp) (i : Nat) :
    Agrees black (actSummon tables fuel camp i) fight [] fun _ => AtRest black turn := by
  unfold actSummon
  refine onward_bind (play_agrees running fun _ _ _ => fighter?_framed camp i) fun there fight1 running1 _ => ?_
  split
  · exact Audit.agrees_pure ⟨running1, rfl⟩
  refine onward_bind (play_agrees running1 fun _ _ framed => condDizz_framed framed camp i) fun dizz fight2 running2 _ => ?_
  split
  · exact Audit.agrees_pure ⟨running2, rfl⟩
  refine Audit.agrees_bind (fun _ fight' due => Running black turn fight' ∧ fight'.field.tb = { type := .skill, camp := camp } ∧ due = []) ?_ ?_
  · refine Audit.agrees_within (fun _ => rfl) (fun _ => rfl) (holds_modify ⟨?_, rfl, rfl⟩)
    exact { running2 with }
  rintro - fight3 _ ⟨running3, named, rfl⟩
  exact randomCostSkill_agrees running3 (congrArg SkillOp.camp named) (castSkill_agrees fuel) _ _ _ _

theorem idle_forM {α : Type} {step : α → Battle N PUnit} (running : Running black turn fight)
    (each : ∀ round (fight : FightManager N), Running black turn fight → Agrees black (step round) fight [] fun _ => AtRest black turn) (rounds : List α) :
    Agrees black (rounds.forM step) fight [] fun _ => AtRest black turn := by
  refine Audit.agrees_forM (fun _ => AtRest black turn) ?_ ⟨running, rfl⟩
  rintro round _ fight _ ⟨running, rfl⟩
  exact each round fight running

theorem doSummon_agrees (running : Running black turn fight) (fuel : Nat) (camp : Camp) :
    Agrees black (doSummon tables fuel camp) fight [] fun _ => AtRest black turn := by
  unfold doSummon
  refine Audit.agrees_bind _ (beginPhase_agrees running _) ?_
  rintro - fight1 _ ⟨running1, -, rfl⟩
  refine onward_bind (mark_onward running1 rfl) fun _ fight2 running2 _ => ?_
  exact idle_forM running2 (fun i fight running => actSummon_agrees running fuel camp i) _

theorem updateCond_agrees (running : Running black turn fight) : Agrees black (updateCond tables) fight [] fun _ => AtRest black turn := by
  have status (camp : Camp) (pos i : Nat) (fight : FightManager N) (running : Running black turn fight) :
      Agrees black (updateStatus tables camp pos i) fight [] fun _ => AtRest black turn := by
    unfold updateStatus
    refine onward_bind (play_agrees running fun _ _ framed => fighter_framed framed camp pos) fun there fight1 running1 _ => ?_
    refine onward_bind (play_agrees running1 fun _ _ framed => indexed_framed framed _) fun status fight2 running2 _ => ?_
    split
    · exact Audit.agrees_pure ⟨running2, rfl⟩
    split
    · refine onward_bind (mark_onward running2 rfl) fun _ fight3 running3 _ => ?_
      refine onward_bind (play_agrees running3 fun _ _ framed => removeAt_framed framed camp i i) fun id fight4 running4 _ => ?_
      exact modifyTurn_agrees running4 fun turn => (List.append_nil _).symm
    · refine (play_agrees running2 fun _ _ framed => modifyFighter_framed framed camp pos _).mono ?_
      rintro - fight' _ ⟨running', -, rfl⟩
      exact ⟨running', rfl⟩
  have fighter (camp : Camp) (pos : Nat) (fight : FightManager N) (running : Running black turn fight) :
      Agrees black (updateFighter tables camp pos) fight [] fun _ => AtRest black turn := by
    unfold updateFighter
    refine onward_bind (play_agrees running fun _ _ _ => fighter?_framed camp pos) fun there fight1 running1 _ => ?_
    split
    · exact Audit.agrees_pure ⟨running1, rfl⟩
    · exact idle_forM running1 (status camp pos) _
  refine idle_forM running (fun i fight running => Audit.agrees_bind _ (fighter .me i fight running) ?_) _
  rintro - fight' _ ⟨running', rfl⟩
  exact fighter .obs i fight' running'

theorem recordConditions_agrees (running : Running black turn fight) (condition : ConditionType) :
    Agrees black (recordConditions tables condition) fight [] fun _ => AtRest black turn := by
  refine onward_bind (play_agrees running fun _ _ framed => condAllProcess_framed framed condition) fun tb fight1 running1 _ => ?_
  exact idle_forM running1 (fun op fight running => record_agrees running (.buff op)) tb

/-- A turn is over, and both sides have life left. -/
structure Lasted (black : Camp) (turn : Nat) (fight : FightManager N) : Prop where
  black : fight.black = black
  undecided : fight.field.winner = none
  passed : fight.field.turn = turn
  turns : fight.data.length = turn
  alive : turn ≠ 0 → ∀ camp, ¬ fight.field.beaten camp

theorem doTurn_agrees (lasted : Lasted black turn fight) (more : turn < MAX_TURN) (fuel : Nat) :
    Agrees black (doTurn tables fuel (turn + 1)) fight [] fun _ fight' due => Lasted black (turn + 1) fight' ∧ due = [] := by
  unfold doTurn
  refine Audit.agrees_bind (fun _ => AtRest black (turn + 1)) ?_ ?_
  · refine Audit.agrees_modify [] ?_ ⟨⟨⟨lasted.black, rfl, ?_, Nat.succ_pos turn, more⟩, lasted.undecided⟩, rfl⟩
    · show castsTold (fight.data ++ [_]) ++ [] = castsTold fight.data ++ []
      rw [castsTold_append]
      simp
    · show (fight.data ++ [_]).length = turn + 1
      rw [List.length_append, lasted.turns]
      rfl
  rintro - fight1 _ ⟨running1, rfl⟩
  refine onward_bind (mark_onward running1 rfl) fun _ fight2 running2 _ => ?_
  refine Audit.agrees_bind _ (recordConditions_agrees running2 _) ?_
  rintro - fight3 _ ⟨running3, rfl⟩
  refine Audit.agrees_read_bind ?_
  refine Audit.agrees_bind _ (doHero_agrees running3 fuel _) ?_
  rintro - fight4 _ ⟨running4, rfl⟩
  refine Audit.agrees_bind _ (doHero_agrees running4 fuel _) ?_
  rintro - fight5 _ ⟨running5, rfl⟩
  refine Audit.agrees_bind _ (doSummon_agrees running5 fuel _) ?_
  rintro - fight6 _ ⟨running6, rfl⟩
  refine Audit.agrees_bind _ (doSummon_agrees running6 fuel _) ?_
  rintro - fight7 _ ⟨running7, rfl⟩
  refine Audit.agrees_bind _ (recordConditions_agrees running7 _) ?_
  rintro - fight8 _ ⟨running8, rfl⟩
  refine Audit.agrees_bind _ (updateCond_agrees running8) ?_
  rintro - fight9 _ ⟨running9, rfl⟩
  refine onward_bind (mark_onward running9 rfl) fun _ fight10 running10 _ => ?_
  refine Audit.agrees_within (fun _ => rfl) (fun _ => rfl) ?_
  have checked : Holds (fieldTerms black fight10 []) (checkEndFight none) fight10.field _ :=
    checkEndFight_decides running10 running10.still rfl
  refine checked.mono ?_
  rintro - _ ⟨rfl, alive⟩
  exact ⟨⟨running10.black, running10.undecided, running10.passed, running10.turns, fun _ => alive⟩, rfl⟩

/-- The rounds that are left begin with the turn after the last. -/
theorem allTurns_agrees (tables : Tables N) (fuel : Nat) (start : Lasted black 0 fight) :
    Agrees black (allTurns tables fuel) fight [] fun _ fight' due => Lasted black MAX_TURN fight' ∧ due = [] := by
  let inv (rest : List Nat) (fight : FightManager N) (due : List Casting) : Prop :=
    ∃ turn ≤ MAX_TURN, rest = positions (turn + 1) MAX_TURN ∧ Lasted black turn fight ∧ due = []
  refine (Audit.agrees_forM inv ?_ ⟨0, Nat.zero_le _, rfl, start, rfl⟩).mono ?_
  · rintro round rest fight _ ⟨turn, most, rounds, lasted, rfl⟩
    have more : turn < MAX_TURN := by
      by_contra last
      obtain rfl : turn = MAX_TURN := by omega
      cases rounds
    have next : round = turn + 1 ∧ rest = positions (turn + 1 + 1) MAX_TURN := by
      unfold positions at rounds ⊢
      rw [show MAX_TURN + 1 - (turn + 1) = (MAX_TURN - turn - 1) + 1 by omega, List.range'_succ] at rounds
      obtain ⟨rfl, rfl⟩ := List.cons.inj rounds
      exact ⟨rfl, by rw [show MAX_TURN + 1 - (turn + 1 + 1) = MAX_TURN - turn - 1 by omega]⟩
    obtain ⟨rfl, rfl⟩ := next
    refine (doTurn_agrees lasted more fuel).mono ?_
    rintro - fight' _ ⟨lasted', rfl⟩
    exact ⟨turn + 1, more, rfl, lasted', rfl⟩
  · rintro - fight' due ⟨turn, most, rounds, lasted, none_⟩
    obtain rfl : turn = MAX_TURN := by
      have long := congrArg List.length rounds
      unfold positions at long
      rw [List.length_range', List.length_nil] at long
      omega
    exact ⟨lasted, none_⟩

end

/-! ### The report -/

/-- No error ended the fight. -/
def completed : Except (Halt N) Unit → Bool
  | .ok _ | .error (.stop (.yield _)) => true
  | .error (.stop .error) | .error .outOfFuel => false

/-- What is told of a fight in which `second` is the side that comes second. -/
structure ToldRight (ended : Trail (Event N) (FightManager N) (Halt N) Unit) (second : Camp) (told : Report N) : Prop where
  /-- a turn of the record for every turn of the fight -/
  turns : told.data.length = ended.state.field.turn ∧ BEGIN_TURN ≤ ended.state.field.turn ∧ ended.state.field.turn ≤ MAX_TURN
  casts : completed ended.result = true → castsTold told.data = castsMade ended.points
  decided : (∃ tb, ended.result = .error (.stop (.yield tb))) → Won ended.state.field told.winner
  undecided : ended.result = .ok () → told.winner = second ∧ ended.state.field.turn = MAX_TURN ∧ ∀ camp, ¬ ended.state.field.beaten camp
  broken : completed ended.result = false → told.winner = second

/-- The last entry is for the turn in which the fight ended. -/
theorem report_told (ended : Trail (Event N) (FightManager N) (Halt N) Unit) {black : Camp} {turn : Nat} (dated : Dated black turn ended.state) :
    (report ended).data.length = turn ∧
      castsTold (report ended).data = castsTold ended.state.data ++ (lastEntry ended.result).toList.filterMap Entry.cast? := by
  refine ⟨(List.length_modify ..).trans dated.turns, castsTold_modify dated.recorded fun last => ?_⟩
  exact List.filterMap_append

end Tinygame.Fight
