import Tinygame.Fight.Life

/-!
# Statuses and life

What the functions of the condition queues do to a field that stands, where each step spares the life there is.
-/

namespace Tinygame.Fight
open Traced Play
variable {N : Type} [Number N]

/-- The points stand where each step spares life, and so does the field, however a computation ends. -/
def standing (tables : Tables N) : Terms (Act N) (Field N) (Stop N) where
  careful := SparesAct tables
  always := StandsAt
  stopped _ := Field.Stands

/-- A computation that leaves standing what stood. -/
abbrev Upholds {α : Type} (tables : Tables N) (m : Play N α) (Q : α → Prop) : Prop :=
  Preserves (standing tables) Field.Stands m Q

variable {tables : Tables N} {s : Field N}

/-! ### Reading and writing -/

theorem Field.Stands.setSide (stands : s.Stands) {camp : Camp} {side : Side N} (new : side.Stands) : (s.setSide camp side).Stands := by
  intro other
  by_cases same : other = camp
  · subst same
    rw [Field.setSide_self]
    exact new
  · rw [Field.setSide_ne _ _ same]
    exact stands other

section
variable {α : Type} {Q : α → Prop}

theorem upholds_indexed {value : Option α} (found : ∀ result, value = some result → Q result) : Upholds tables (indexed value) Q :=
  preserves_require found fun _ stands => stands

theorem upholds_known (value : Option α) : Upholds tables (indexed value) fun _ => True := upholds_indexed fun _ _ => trivial

theorem upholds_stop {reason : Stop N} : Upholds tables (Traced.stop reason) Q := preserves_stop fun _ stands => stands

end

theorem upholds_fighter? (camp : Camp) (pos : Nat) :
    Upholds tables (fighter? camp pos) fun there => ∀ fighter, there = some fighter → fighter.Stands pos :=
  preserves_bind preserves_read fun _ stands => preserves_pure fun _ there => (stands camp).fighter there

theorem upholds_fighter (camp : Camp) (pos : Nat) : Upholds tables (Play.fighter camp pos) (Fighter.Stands pos) :=
  preserves_bind (upholds_fighter? camp pos) fun _ stands => upholds_indexed stands

theorem upholds_side (camp : Camp) : Upholds tables (side camp) Side.Stands :=
  preserves_bind preserves_read fun _ stands => preserves_pure (stands camp)

theorem upholds_modify {f : Field N → Field N} (same : ∀ field, (f field).fighters = field.fighters) :
    Upholds tables (Traced.modify f) fun _ => True :=
  preserves_modify fun field stands camp => by
    rw [same field]
    exact stands camp

theorem upholds_modifyTarget (target : Nat) (f : TargetOp N → TargetOp N) : Upholds tables (modifyTarget target f) fun _ => True :=
  upholds_modify fun _ => rfl

theorem upholds_modifyTb (f : SkillOp N → SkillOp N) : Upholds tables (modifyTb f) fun _ => True := upholds_modify fun _ => rfl

theorem upholds_modifySide (camp : Camp) {f : Side N → Side N} (each : ∀ side, side.Stands → (f side).Stands) :
    Upholds tables (modifySide camp f) fun _ => True :=
  preserves_modify fun _ stands => stands.setSide (each _ (stands camp))

theorem upholds_setPost (camp : Camp) {pos : Nat} {post : Option (Post N)} (new : ∀ next, post = some next → next.Stands pos) :
    Upholds tables (setPost camp pos post) fun _ => True :=
  upholds_modifySide camp fun _ stands => stands.setPost new

theorem upholds_modifyFighter (camp : Camp) {pos : Nat} {f : Fighter N → Fighter N}
    (each : ∀ fighter, fighter.Stands pos → (f fighter).Stands pos) : Upholds tables (modifyFighter camp pos f) fun _ => True :=
  upholds_modifySide camp fun _ stands => stands.modifyFighter fun fighter there => each fighter (stands.fighter there)

/-! ### Wearing out -/

/-- Nobody's life has changed. -/
structure Unhurt (before after : Field N) : Prop where
  totalHP : ∀ camp, (after.fighters camp).totalHP = (before.fighters camp).totalHP
  maxHP : ∀ camp, (after.fighters camp).MaxHP = (before.fighters camp).MaxHP
  posts : ∀ camp pos, ((after.fighters camp).posts pos).map (fun post => (post.fighter.life, post.next)) =
    ((before.fighters camp).posts pos).map fun post => (post.fighter.life, post.next)

namespace Unhurt
variable {before after : Field N}

omit [Number N] in
theorem refl (field : Field N) : Unhurt field field := ⟨fun _ => rfl, fun _ => rfl, fun _ _ => rfl⟩

theorem stands (unhurt : Unhurt before after) (stands : before.Stands) : after.Stands := by
  intro camp
  obtain ⟨least, most, posts⟩ := stands camp
  refine ⟨unhurt.totalHP camp ▸ least, unhurt.totalHP camp ▸ unhurt.maxHP camp ▸ most, fun pos post there => ?_⟩
  have same := unhurt.posts camp pos
  rw [there] at same
  obtain ⟨was, found, alike⟩ := Option.map_eq_some_iff.mp same.symm
  obtain ⟨life, next⟩ := Prod.mk.inj alike
  have stood := posts pos was found
  exact ⟨stood.fighter.of_life life.symm, next ▸ stood.next, next ▸ stood.few⟩

omit [Number N] in
theorem fighter (unhurt : Unhurt before after) {camp : Camp} {pos : Nat} {fighter : Fighter N}
    (there : (before.fighters camp).fighterAt pos = some fighter) :
    ∃ same, (after.fighters camp).fighterAt pos = some same ∧ same.life = fighter.life := by
  obtain ⟨post, found, rfl⟩ := Side.fighterAt_eq_some.mp there
  have same := unhurt.posts camp pos
  rw [found] at same
  obtain ⟨next, found, alike⟩ := Option.map_eq_some_iff.mp same
  exact ⟨next.fighter, Side.fighterAt_eq_some.mpr ⟨next, found, rfl⟩, (Prod.mk.inj alike).1⟩

end Unhurt

omit [Number N] in
/-- Whoever is at the position changes, but not in life. -/
theorem unhurt_modifyFighter (camp : Camp) (pos : Nat) {f : Fighter N → Fighter N}
    (same : ∀ fighter, (s.fighters camp).fighterAt pos = some fighter → (f fighter).life = fighter.life) :
    Unhurt s (s.setSide camp ((s.fighters camp).modifyFighter pos f)) := by
  refine ⟨fun other => ?_, fun other => ?_, fun other pos' => ?_⟩
  all_goals
    by_cases here : other = camp
    swap
    · rw [Field.setSide_ne _ _ here]
    subst here
    rw [Field.setSide_self]
  · rfl
  · rfl
  · by_cases there : pos' = pos
    · subst there
      unfold Side.modifyFighter
      rw [Side.setPost_posts_self, Option.map_map]
      refine Option.map_congr fun post found => ?_
      have life := same post.fighter (Side.fighterAt_eq_some.mpr ⟨post, found, rfl⟩)
      exact congrArg (fun life => (life, post.next)) life
    · unfold Side.modifyFighter
      rw [Side.setPost_posts_ne _ _ there]

theorem removeAt_unhurt (stands : s.Stands) (camp : Camp) (idx pos : Nat) :
    Holds (standing tables) (removeAt tables camp idx pos) s fun _ s' => Unhurt s s' := by
  unfold removeAt
  refine holds_bind (holds_fighter_found camp idx stands) ?_
  rintro there _ ⟨rfl, found⟩
  refine holds_bind (holds_indexed_found _ stands) ?_
  rintro removed _ ⟨rfl, ran⟩
  refine holds_modify_bind (holds_pure (unhurt_modifyFighter camp idx fun fighter here => ?_))
  obtain rfl := Option.some.inj (found.symm.trans here)
  exact removeStatus_life ran

theorem desStatusTime_unhurt (stands : s.Stands) (camp : Camp) (idx : Option Nat) (owner : Nat) (times : Option Int) (pos : Nat) :
    Holds (standing tables) (desStatusTime tables camp idx owner times pos) s fun _ s' => Unhurt s s' := by
  unfold desStatusTime
  cases times with
  | none => exact holds_pure (.refl s)
  | some times =>
    dsimp only
    split
    · refine holds_bind (holds_indexed_found idx stands) ?_
      rintro idx _ ⟨rfl, -⟩
      exact holds_bind (removeAt_unhurt stands camp idx pos) fun _ _ unhurt => holds_pure unhurt
    · exact holds_modify_bind (holds_pure (unhurt_modifyFighter camp owner fun _ _ => rfl))

/-! ### Effects -/

section
variable {lvl value : N} {rest : List (Attribute × Option N)}

theorem lives_maxHp : lives lvl ((.maxHp, some value) :: rest) = Number.floor (value * lvl) :: lives lvl rest := by simp [lives]

theorem lives_other {attr : Attribute} (apart : attr ≠ .maxHp) (value : Option N) : lives lvl ((attr, value) :: rest) = lives lvl rest := by
  simp [lives, apart]

theorem lives_none (attr : Attribute) : lives lvl ((attr, none) :: rest) = lives lvl rest := by simp [lives]

/-- What is withstands depends on the life of the side and of the fighter. -/
theorem StatusEffect.Spares.of_life {effect : StatusEffect N} {side other : Side N} {fighter after : Fighter N}
    (spares : effect.Spares lvl side fighter) (totalHP : other.totalHP = side.totalHP) (maxHP : other.MaxHP = side.MaxHP)
    (life : after.life = fighter.life) : effect.Spares lvl other after := by
  obtain ⟨type, life⟩ := Prod.mk.inj life
  obtain ⟨nHP, nMaxHP⟩ := Prod.mk.inj life
  cases effect with
  | add attributes | reduce attributes =>
    unfold Spares at spares ⊢
    simp only [type, nHP, nMaxHP, totalHP, maxHP]
    exact spares
  | _ => exact trivial

end

section
variable {side : Side N} {there : Fighter N} {pos : Nat} {lvl value : N} {rest : List (Attribute × Option N)}

/-- The side stands, and what is left of the effect spares life. -/
def Withstands (effect : StatusEffect N) (lvl : N) (pos : Nat) (side : Side N) : Prop :=
  side.Stands ∧ ∃ there, side.fighterAt pos = some there ∧ effect.Spares lvl side there

/-- Whoever is at the position changes. -/
theorem withstands_modifyFighter {effect : StatusEffect N} (stands : side.Stands) (found : side.fighterAt pos = some there)
    {f : Fighter N → Fighter N} (new : (f there).Stands pos) (spares : effect.Spares lvl side (f there)) :
    Withstands effect lvl pos (side.modifyFighter pos f) := by
  refine ⟨stands.modifyFighter fun fighter at' => ?_, f there, ?_, spares.of_life rfl rfl rfl⟩
  · exact Option.some.inj (found.symm.trans at') ▸ new
  · rw [Side.fighterAt_modifyFighter, if_pos rfl, found]
    rfl

/-- An attribute that is not the maximum of life changes. -/
theorem withstands_of_life {effect : StatusEffect N} (stands : side.Stands) (found : side.fighterAt pos = some there)
    (spares : effect.Spares lvl side there) {f : Fighter N → Fighter N} (life : (f there).life = there.life) :
    Withstands effect lvl pos (side.modifyFighter pos f) :=
  withstands_modifyFighter stands found ((stands.fighter found).of_life life) (spares.of_life rfl rfl life)

theorem raise_withstands (stands : side.Stands) (found : side.fighterAt pos = some there) {attr : Attribute}
    (spares : (StatusEffect.add ((attr, some value) :: rest)).Spares lvl side there) :
    Withstands (.add rest) lvl pos (raise attr (value * lvl) pos there side).1 := by
  have others (apart : attr ≠ .maxHp) : (StatusEffect.add rest).Spares lvl side there := by
    simp only [StatusEffect.Spares, lives_other apart] at spares ⊢
    exact spares
  cases attr with
  | atk | defense | crit | dog =>
    unfold raise
    dsimp only
    exact withstands_of_life stands found (others nofun) rfl
  | other code => exact ⟨stands, there, found, others nofun⟩
  | maxHp =>
    simp only [StatusEffect.Spares, lives_maxHp] at spares
    unfold raise
    dsimp only
    by_cases hero : there.type = .hero
    · rw [if_pos hero] at spares ⊢
      obtain ⟨most, later⟩ := spares
      refine ⟨⟨stands.least, most, stands.posts⟩, there, found, ?_⟩
      simp only [StatusEffect.Spares, if_pos hero]
      exact later
    · rw [if_neg hero] at spares ⊢
      obtain ⟨most, later⟩ := spares
      dsimp only
      have stood := stands.fighter found
      refine withstands_modifyFighter stands found ⟨fun summon => ⟨(stood.alive summon).1, most⟩, stood.back⟩ ?_
      simp only [StatusEffect.Spares, if_neg hero]
      exact later

variable [Number.Ordered N]

theorem desAttrValue_least (origin des : N) : num 0 ≤ (desAttrValue origin des).1 := by
  unfold desAttrValue
  dsimp only
  split
  · exact Std.le_refl _
  · grind

theorem desAttrValue_left {origin des : N} (left : num 0 < origin - des) : (desAttrValue origin des).1 = origin - des := by
  unfold desAttrValue
  dsimp only
  rw [if_neg (by grind)]

/-- Life is cut to the maximum, and not to more. -/
theorem clamp_le {hp maxHp : N} : clamp hp maxHp ≤ maxHp := by
  unfold clamp
  split <;> grind

omit [Number.Ordered N] in
theorem clamp_either {P : N → Prop} {hp maxHp : N} (life : P hp) (most : P maxHp) : P (clamp hp maxHp) := by
  unfold clamp
  split
  · exact most
  · exact life

theorem lower_withstands (stands : side.Stands) (found : side.fighterAt pos = some there) {attr : Attribute}
    (spares : (StatusEffect.reduce ((attr, some value) :: rest)).Spares lvl side there) :
    Withstands (.reduce rest) lvl pos (lower attr (value * lvl) pos there side).1 := by
  have others (apart : attr ≠ .maxHp) : (StatusEffect.reduce rest).Spares lvl side there := by
    simp only [StatusEffect.Spares, lives_other apart] at spares ⊢
    exact spares
  cases attr with
  | atk | defense | crit | dog =>
    unfold lower
    dsimp only
    exact withstands_of_life stands found (others nofun) rfl
  | other code => exact ⟨stands, there, found, others nofun⟩
  | maxHp =>
    simp only [StatusEffect.Spares, lives_maxHp] at spares
    unfold lower
    dsimp only
    by_cases hero : there.type = .hero
    · rw [if_pos hero]
      have least := desAttrValue_least side.MaxHP (Number.floor (value * lvl))
      exact ⟨⟨clamp_either stands.least least, clamp_le, stands.posts⟩, there, found, fun summon => nomatch hero.symm.trans summon⟩
    · rw [if_neg hero]
      have summon : there.type = .summon := by
        cases type : there.type with
        | hero => exact absurd type hero
        | summon => rfl
      obtain ⟨left, later⟩ := spares summon
      have value' := desAttrValue_left left
      dsimp only
      have stood := stands.fighter found
      refine withstands_modifyFighter stands found ⟨fun _ => ⟨clamp_either (stood.alive summon).1 ?_, clamp_le⟩, stood.back⟩ fun _ => ?_
      · rw [value']
        exact left
      · show Outlasts (desAttrValue there.nMaxHP (Number.floor (value * lvl))).1 (lives lvl rest)
        rw [value']
        exact later

end

section
variable [Number.Ordered N] {camp : Camp} {pos : Nat} {lvl : N}

omit [Number.Ordered N] in
theorem alterAttribute_withstands {effect : StatusEffect N} {there : Fighter N} (stands : s.Stands)
    (found : (s.fighters camp).fighterAt pos = some there) {alter : Nat → Fighter N → Side N → Side N}
    (next : Withstands effect lvl pos (alter pos there (s.fighters camp))) (op : Nat → Fighter N → Side N → Fighter N → BuffOp N) :
    Holds (standing tables) (alterAttribute camp (some pos) alter op) s fun _ s' =>
      s'.Stands ∧ Withstands effect lvl pos (s'.fighters camp) := by
  have later : (s.setSide camp (alter pos there (s.fighters camp))).Stands := stands.setSide next.1
  unfold alterAttribute
  refine holds_pure_bind (holds_bind (holds_fighter_found camp pos stands) ?_)
  rintro same _ ⟨rfl, here⟩
  obtain rfl := Option.some.inj (found.symm.trans here)
  refine holds_run_bind rfl (holds_modify_bind (holds_bind (holds_fighter_found camp pos later) ?_))
  rintro after _ ⟨rfl, -⟩
  refine holds_pure ⟨later, ?_⟩
  show Withstands effect lvl pos ((Field.setSide _ camp (alter pos there _)).fighters camp)
  rw [Field.setSide_self]
  exact next

omit [Number.Ordered N] in
/-- One attribute of a status that spares life with this and all others. -/
theorem addAttribute_withstands {attr : Attribute} {value : Option N} {rest : List (Attribute × Option N)} (stands : s.Stands)
    (withstands : Withstands (.add ((attr, value) :: rest)) lvl pos (s.fighters camp)) (op : BuffOp N) :
    Holds (standing tables) (addAttribute camp (some pos) lvl op (attr, value)) s fun _ s' =>
      s'.Stands ∧ Withstands (.add rest) lvl pos (s'.fighters camp) := by
  obtain ⟨stood, there, found, spares⟩ := withstands
  cases value with
  | none =>
    simp only [StatusEffect.Spares, lives_none] at spares
    rw [addAttribute_none]
    exact holds_pure ⟨stands, stood, there, found, spares⟩
  | some value =>
    rw [addAttribute_some]
    exact alterAttribute_withstands stands found (raise_withstands stood found spares) _

theorem reduceAttribute_withstands {attr : Attribute} {value : Option N} {rest : List (Attribute × Option N)} (stands : s.Stands)
    (withstands : Withstands (.reduce ((attr, value) :: rest)) lvl pos (s.fighters camp)) (op : BuffOp N) :
    Holds (standing tables) (reduceAttribute camp (some pos) lvl op (attr, value)) s fun _ s' =>
      s'.Stands ∧ Withstands (.reduce rest) lvl pos (s'.fighters camp) := by
  obtain ⟨stood, there, found, spares⟩ := withstands
  cases value with
  | none =>
    simp only [StatusEffect.Spares, lives_none] at spares
    rw [reduceAttribute_none]
    exact holds_pure ⟨stands, stood, there, found, spares⟩
  | some value =>
    rw [reduceAttribute_some]
    exact alterAttribute_withstands stands found (lower_withstands stood found spares) _

omit [Number.Ordered N] in
/-- The attributes of a status, one after the other. Without a position the first that is a number is an error. -/
theorem attributes_withstand (effect : List (Attribute × Option N) → StatusEffect N)
    (step : Option Nat → BuffOp N → Attribute × Option N → Play N (BuffOp N))
    (each : ∀ (s : Field N) op entry rest, s.Stands → Withstands (effect (entry :: rest)) lvl pos (s.fighters camp) →
      Holds (standing tables) (step (some pos) op entry) s fun _ s' => s'.Stands ∧ Withstands (effect rest) lvl pos (s'.fighters camp))
    (nowhere : ∀ op entry, Upholds tables (step none op entry) fun _ => True) (stands : s.Stands) {idx : Option Nat}
    (named : ∀ at', idx = some at' → at' = pos) {attributes : List (Attribute × Option N)}
    (withstands : idx.isSome = true → Withstands (effect attributes) lvl pos (s.fighters camp)) (op : BuffOp N) :
    Holds (standing tables) (attributes.foldlM (step idx) op) s fun _ s' => s'.Stands := by
  cases idx with
  | none => exact (preserves_foldlM (fun op entry _ => nowhere op entry) attributes trivial s stands).mono fun _ _ => And.right
  | some at' =>
    obtain rfl := named at' rfl
    exact (holds_foldlM (fun rest _ s' => s'.Stands ∧ Withstands (effect rest) lvl at' (s'.fighters camp))
      (fun entry rest op s' met => each s' op entry rest met.1 met.2) ⟨stands, withstands rfl⟩).mono fun _ _ => And.left

omit [Number.Ordered N] in
theorem alterAttribute_nowhere (alter : Nat → Fighter N → Side N → Side N) (op : Nat → Fighter N → Side N → Fighter N → BuffOp N) :
    Upholds tables (alterAttribute camp none alter op) fun _ => True :=
  preserves_bind upholds_stop fun _ (never : False) => never.elim

omit [Number.Ordered N] in
theorem addAttribute_nowhere (op : BuffOp N) (entry : Attribute × Option N) :
    Upholds tables (addAttribute camp none lvl op entry) fun _ => True := by
  obtain ⟨attr, value⟩ := entry
  cases value with
  | none => exact preserves_pure trivial
  | some value => exact alterAttribute_nowhere _ _

omit [Number.Ordered N] in
theorem reduceAttribute_nowhere (op : BuffOp N) (entry : Attribute × Option N) :
    Upholds tables (reduceAttribute camp none lvl op entry) fun _ => True := by
  obtain ⟨attr, value⟩ := entry
  cases value with
  | none => exact preserves_pure trivial
  | some value => exact alterAttribute_nowhere _ _

omit [Number.Ordered N] in
theorem addSkillQueue_upholds (cost : Option Int) (camp : Camp) (idx id : Option Nat) :
    Upholds tables (addSkillQueue cost camp idx id) fun _ => True := by
  unfold addSkillQueue
  refine preserves_bind (upholds_known _) fun idx _ => ?_
  exact preserves_bind (upholds_fighter camp idx) fun there _ => upholds_modify fun _ => rfl

/-- A status takes effect where it spares life. -/
theorem activeStatus_stands (stands : s.Stands) {idx : Option Nat} {owner statusPos : Nat} {there : Fighter N} {status : Status N}
    (found : (s.fighters camp).fighterAt owner = some there) (listed : there.status[statusPos - 1]? = some status)
    (named : ∀ at', idx = some at' → at' = owner) :
    Holds (standing tables) (activeStatus tables camp idx owner status statusPos) s fun _ s' => s'.Stands := by
  unfold activeStatus
  refine holds_mark_bind fun spares => ⟨stands, holds_bind (holds_indexed_found _ stands) ?_⟩
  rintro row _ ⟨rfl, known⟩
  refine holds_bind (desStatusTime_unhurt stands camp idx owner status.times statusPos) fun dis s' unhurt => ?_
  have stands' := unhurt.stands stands
  have withstands (some' : idx.isSome = true) : Withstands row.effect status.lvl owner (s'.fighters camp) := by
    obtain ⟨same, here, life⟩ := unhurt.fighter found
    refine ⟨stands' camp, same, here, ?_⟩
    exact (spares some' there status row found listed known).of_life (unhurt.totalHP camp) (unhurt.maxHP camp) life
  dsimp only
  split
  · rename_i attributes effect
    rw [effect] at withstands
    exact attributes_withstand .add (fun idx => addAttribute camp idx status.lvl)
      (fun _ op _ _ stands withstands => addAttribute_withstands stands withstands op) addAttribute_nowhere stands' named withstands _
  · rename_i attributes effect
    rw [effect] at withstands
    exact attributes_withstand .reduce (fun idx => reduceAttribute camp idx status.lvl)
      (fun _ op _ _ stands withstands => reduceAttribute_withstands stands withstands op) reduceAttribute_nowhere stands' named withstands _
  · refine holds_bind (addSkillQueue_upholds none camp idx _ s' stands') fun _ s'' met => holds_pure met.2
  · exact holds_pure stands'

/-! ### Conditions -/

theorem trigger_upholds (condition : ConditionType) (camp : Camp) (owner : Nat) {idx : Option Nat}
    (named : ∀ at', idx = some at' → at' = owner) : Upholds tables (trigger tables condition camp owner idx) fun _ => True := by
  unfold trigger
  refine preserves_bind (upholds_fighter? camp owner) fun there _ => ?_
  split
  · exact preserves_pure trivial
  · refine preserves_foldlM (fun tb j _ s stands => ?_) _ trivial
    refine holds_bind (holds_fighter_found camp owner stands) ?_
    rintro there _ ⟨rfl, found⟩
    refine holds_bind (holds_indexed_found _ stands) ?_
    rintro status _ ⟨rfl, listed⟩
    refine holds_bind (holds_indexed_found _ stands) ?_
    rintro row _ ⟨rfl, -⟩
    split
    · exact holds_bind (activeStatus_stands stands found listed named) fun op _ stands => holds_pure ⟨trivial, stands⟩
    · exact holds_pure ⟨trivial, stands⟩

variable (condition : ConditionType) (camp : Camp)

theorem condMe_upholds (idx : Nat) : Upholds tables (condMe tables condition camp idx) fun _ => True :=
  trigger_upholds condition camp idx nofun

theorem condCampAll_upholds : Upholds tables (condCampAll tables condition camp) fun _ => True :=
  preserves_foldlM (fun _ i _ => preserves_bind (trigger_upholds condition camp i fun _ same => (Option.some.inj same).symm)
    fun _ _ => preserves_pure trivial) _ trivial

theorem condCampAllExceptMe_upholds (idx : Nat) : Upholds tables (condCampAllExceptMe tables condition camp idx) fun _ => True := by
  refine preserves_foldlM (fun _ i _ => ?_) _ trivial
  split
  · exact preserves_pure trivial
  · exact preserves_bind (trigger_upholds condition camp i fun _ same => (Option.some.inj same).symm) fun _ _ => preserves_pure trivial

theorem condAllProcess_upholds : Upholds tables (condAllProcess tables condition) fun _ => True :=
  preserves_bind (condCampAll_upholds condition .me) fun _ _ =>
    preserves_bind (condCampAll_upholds condition .obs) fun _ _ => preserves_pure trivial

end

theorem condImmu_upholds (camp : Camp) (idx : Nat) : Upholds tables (condImmu tables camp idx) fun _ => True := by
  refine preserves_bind (upholds_fighter camp idx) fun there _ => ?_
  split
  · exact upholds_known _
  · exact preserves_pure trivial

theorem condShield_upholds (camp : Camp) (idx : Nat) (damage : N) : Upholds tables (condShield tables camp idx damage) fun _ => True := by
  refine preserves_bind (preserves_mark fun _ stands => stands) fun _ _ => ?_
  refine preserves_bind (upholds_fighter camp idx) fun there _ => ?_
  split
  · refine preserves_bind (upholds_known _) fun shielded _ => ?_
    split
    · exact upholds_stop
    · exact preserves_pure trivial
  · exact preserves_pure trivial

/-! ### Statuses of a skill -/

theorem createStatus_upholds (camp : Camp) (target : Nat) (ids : List Nat) (lvl : N) :
    Upholds tables (createStatus tables camp target ids lvl) fun _ => True := by
  refine preserves_bind (upholds_fighter? camp target) fun there _ => ?_
  split
  · exact preserves_pure trivial
  · refine preserves_foldlM (fun buff id _ => ?_) ids trivial
    split
    · exact preserves_pure trivial
    · refine preserves_bind (upholds_fighter camp target) fun there stands => ?_
      refine preserves_bind
        (upholds_indexed (Q := fun added => added.1.life = there.life) fun _ ran => addStatus_life ran) fun added same => ?_
      exact preserves_bind (upholds_modifyFighter camp fun _ _ => stands.of_life same) fun _ _ => preserves_pure trivial

theorem removeAt_upholds (camp : Camp) (idx pos : Nat) : Upholds tables (removeAt tables camp idx pos) fun _ => True :=
  fun _ stands => (removeAt_unhurt stands camp idx pos).mono fun _ _ unhurt => ⟨trivial, unhurt.stands stands⟩

theorem eraseLoop_upholds (camp : Camp) (target : Nat) (dis : Int × Int) (places ret : List Nat) :
    Upholds tables (eraseLoop tables camp target dis places ret) fun _ => True := by
  induction places generalizing ret with
  | nil => exact preserves_pure trivial
  | cons i rest ih =>
    refine preserves_bind (upholds_fighter camp target) fun there _ => preserves_bind (upholds_known _) fun status _ => ?_
    refine preserves_bind (upholds_known _) fun yes _ => ?_
    have later (ret : List Nat) : Upholds tables (if dis.2 ≠ 0 ∧ dis.2 ≤ ret.length then Pure.pure ret
        else eraseLoop tables camp target dis rest ret) fun _ => True := by
      split
      · exact preserves_pure trivial
      · exact ih ret
    split
    · refine preserves_bind (removeAt_upholds camp target i) fun id _ => ?_
      refine preserves_bind (upholds_fighter camp target) fun there _ => preserves_bind (upholds_known _) fun _ _ => ?_
      exact later (ret ++ [id])
    · exact later ret

theorem eraseStatus_upholds (camp : Camp) (target : Nat) (dis : Int × Int) :
    Upholds tables (eraseStatus tables camp target dis) fun _ => True := by
  refine preserves_bind (preserves_mark fun _ stands => stands) fun _ _ => ?_
  split
  · exact preserves_bind (upholds_fighter camp target) fun there _ => eraseLoop_upholds camp target dis _ _
  · exact preserves_pure trivial

end Tinygame.Fight
