import Tinygame.Fight.Careful

/-!
# Statuses run without a fault

Every function of the condition queues, from a sound field and where each step is careful: it meets no error,
the field stays sound, and the fighters stay the same but for their statuses and attributes.
-/

namespace Tinygame.Fight
open Traced Play
variable {N : Type}

/-! ### What stays -/

/-- The lists of statuses of a side. -/
def Side.lists (side : Side N) (pos : Nat) : Option (List (Status N)) := (side.fighterAt pos).map Fighter.status

/-- Builds, followers and wheels are as they were. -/
def Kept (before after : Field N) : Prop := ∀ camp, (after.fighters camp).frame = (before.fighters camp).frame

theorem Kept.refl (field : Field N) : Kept field field := fun _ => rfl

theorem Kept.trans {first second third : Field N} (here : Kept first second) (there : Kept second third) : Kept first third :=
  fun camp => (there camp).trans (here camp)

/-- Whoever stood at a position stands there. -/
theorem Kept.fighter {before after : Field N} (kept : Kept before after) {camp : Camp} {pos : Nat} {fighter : Fighter N}
    (there : (before.fighters camp).fighterAt pos = some fighter) :
    ∃ same, (after.fighters camp).fighterAt pos = some same ∧ same.build = fighter.build := by
  obtain ⟨post, found, rfl⟩ := Side.fighterAt_eq_some.mp there
  obtain ⟨other, found, build, -⟩ := Side.post_of_frame (kept camp).symm found
  exact ⟨other.fighter, Side.fighterAt_eq_some.mpr ⟨other, found, rfl⟩, build.symm⟩

theorem Kept.present {before after : Field N} (kept : Kept before after) (camp : Camp) (pos : Nat) :
    (after.fighters camp).present pos = (before.fighters camp).present pos := by
  have here := congrFun (congrArg (fun frame => frame.2.2) (kept camp)) pos
  have isSome := congrArg Option.isSome here
  simpa [Side.frame, Side.present] using isSome

section
variable {tables : Tables N} {side other : Side N} {field : Field N}

theorem Side.Sound.fighter (sound : side.Sound tables) {pos : Nat} {fighter : Fighter N} (there : side.fighterAt pos = some fighter) :
    fighter.Sound tables := by
  obtain ⟨post, found, rfl⟩ := Side.fighterAt_eq_some.mp there
  exact (sound.posts pos post found).fighter

/-- The statuses of a sound side stay known when its lists stay. -/
theorem Side.Sound.of_lists (sound : side.Sound tables) (frame : other.frame = side.frame) (lists : other.lists = side.lists) :
    other.Sound tables := by
  refine sound.of_frame frame fun pos post there status member => ?_
  have list : other.lists pos = some post.fighter.status := by
    unfold Side.lists Side.fighterAt
    rw [there]
    rfl
  rw [lists] at list
  obtain ⟨fighter, here, same⟩ := Option.map_eq_some_iff.mp list
  exact (sound.fighter here).statuses status (same ▸ member)

/-- A side changes. -/
def Field.setSide (field : Field N) (camp : Camp) (side : Side N) : Field N :=
  { field with fighters := Function.update field.fighters camp side }

@[simp] theorem Field.setSide_self (field : Field N) (camp : Camp) (side : Side N) : (field.setSide camp side).fighters camp = side :=
  Function.update_self ..

theorem Field.setSide_ne (field : Field N) {camp other : Camp} (side : Side N) (apart : other ≠ camp) :
    (field.setSide camp side).fighters other = field.fighters other :=
  Function.update_of_ne apart ..

theorem Field.Sound.setSide (sound : field.Sound tables) {camp : Camp} (whole : side.Sound tables) :
    (field.setSide camp side).Sound tables := by
  refine ⟨fun other => ?_, sound.queue⟩
  by_cases same : other = camp
  · subst same
    rw [Field.setSide_self]
    exact whole
  · rw [Field.setSide_ne _ _ same]
    exact sound.sides other

theorem kept_setSide {camp : Camp} (frame : side.frame = (field.fighters camp).frame) : Kept field (field.setSide camp side) := by
  intro other
  by_cases same : other = camp
  · subst same
    rw [Field.setSide_self]
    exact frame
  · rw [Field.setSide_ne _ _ same]

/-- The fighter at a position changes, in its statuses and attributes. -/
structure Touched (tables : Tables N) (before : Field N) (camp : Camp) (pos : Nat) (fighter : Fighter N) (after : Field N) : Prop where
  sound : after.Sound tables
  kept : Kept before after
  there : (after.fighters camp).fighterAt pos = some fighter

theorem Field.Sound.touched (sound : field.Sound tables) {camp : Camp} {pos : Nat} {fighter : Fighter N} {f : Fighter N → Fighter N}
    (there : (field.fighters camp).fighterAt pos = some fighter) (build : (f fighter).build = fighter.build)
    (statuses : ∀ status ∈ (f fighter).status, StatusKnown tables status.id) :
    Touched tables field camp pos (f fighter) (field.setSide camp ((field.fighters camp).modifyFighter pos f)) := by
  have frame : ((field.fighters camp).modifyFighter pos f).frame = (field.fighters camp).frame := by
    refine Side.frame_modifyFighter _ _ fun other found => ?_
    obtain rfl := Option.some.inj (there.symm.trans found)
    exact build
  refine ⟨sound.setSide ?_, kept_setSide frame, ?_⟩
  · refine (sound.sides camp).of_frame frame fun other post found status member => ?_
    have at' : ((field.fighters camp).modifyFighter pos f).fighterAt other = some post.fighter :=
      Side.fighterAt_eq_some.mpr ⟨post, found, rfl⟩
    rw [Side.fighterAt_modifyFighter] at at'
    split at at'
    · rename_i same
      subst same
      rw [there] at at'
      exact statuses status (Option.some.inj at' ▸ member)
    · exact ((sound.sides camp).fighter at').statuses status member
  · rw [Field.setSide_self, Side.fighterAt_modifyFighter, if_pos rfl, there]
    rfl

end

/-! ### Wearing out -/

section
variable [Number N] {tables : Tables N} {s : Field N} {α β : Type}

section
variable {terms : Terms (Act N) (Field N) (Stop N)}

omit [Number N]

theorem holds_indexed_bind {value : Option α} {result : α} {next : α → Play N β} {post : β → Field N → Prop}
    (found : value = some result) (rest : Holds terms (next result) s post) : Holds terms (indexed value >>= next) s post :=
  holds_require_bind found rest

theorem holds_fighter?_bind {camp : Camp} {pos : Nat} {next : Option (Fighter N) → Play N β} {post : β → Field N → Prop}
    (rest : Holds terms (next ((s.fighters camp).fighterAt pos)) s post) : Holds terms (fighter? camp pos >>= next) s post :=
  holds_run_bind rfl rest

theorem holds_fighter_bind {camp : Camp} {pos : Nat} {there : Fighter N} {next : Fighter N → Play N β}
    {post : β → Field N → Prop} (found : (s.fighters camp).fighterAt pos = some there) (rest : Holds terms (next there) s post) :
    Holds terms (fighter camp pos >>= next) s post := by
  refine holds_bind (holds_fighter?_bind ?_) fun result state (met : result = there ∧ state = s) => met.1 ▸ met.2 ▸ rest
  rw [found]
  exact holds_pure ⟨rfl, rfl⟩

theorem holds_side_bind {camp : Camp} {next : Side N → Play N β} {post : β → Field N → Prop}
    (rest : Holds terms (next (s.fighters camp)) s post) : Holds terms (side camp >>= next) s post :=
  holds_run_bind rfl rest

/-- What is found at a position is what stands there. -/
theorem holds_fighter_found (camp : Camp) (pos : Nat) (missing : terms.stopped .error s) :
    Holds terms (fighter camp pos) s fun there s' => s' = s ∧ (s.fighters camp).fighterAt pos = some there :=
  holds_run_bind rfl (holds_require (fun _ found => ⟨rfl, found⟩) fun _ => missing)

theorem holds_indexed_found (value : Option α) (missing : terms.stopped .error s) :
    Holds terms (indexed value) s fun result s' => s' = s ∧ value = some result :=
  holds_require (fun _ found => ⟨rfl, found⟩) fun _ => missing

end

omit [Number N] in
theorem removeStatus_known {fighter : Fighter N} (known : ∀ status ∈ fighter.status, StatusKnown tables status.id) {pos : Nat}
    (first : 1 ≤ pos) (last : pos ≤ fighter.status.length) :
    ∃ removed id, removeStatus tables fighter pos = some (removed, id) ∧ removed.build = fighter.build ∧
      removed.status = fighter.status.eraseIdx (pos - 1) := by
  obtain ⟨status, found⟩ : ∃ status, fighter.status[pos - 1]? = some status := ⟨_, List.getElem?_eq_getElem (by omega)⟩
  obtain ⟨row, type, here, there⟩ := known _ (List.mem_of_getElem? found)
  unfold removeStatus
  simp only [found, here, there, Option.bind_eq_bind, Option.bind_some, Option.pure_def, Option.some.injEq, Prod.mk.injEq]
  exact ⟨_, _, ⟨rfl, rfl⟩, rfl, rfl⟩

theorem removeAt_holds (sound : s.Sound tables) {camp : Camp} {idx pos : Nat} {there : Fighter N}
    (found : (s.fighters camp).fighterAt idx = some there) (first : 1 ≤ pos) (last : pos ≤ there.status.length) :
    Holds (faultlessPlay tables) (removeAt tables camp idx pos) s fun _ s' =>
      ∃ after, Touched tables s camp idx after s' ∧ after.status = there.status.eraseIdx (pos - 1) ∧
        ∀ other, other ≠ idx → (s'.fighters camp).fighterAt other = (s.fighters camp).fighterAt other := by
  have whole := (sound.sides camp).fighter found
  obtain ⟨removed, id, ran, build, list⟩ := removeStatus_known whole.statuses first last
  have touched := sound.touched (f := fun _ => removed) found build fun status member =>
    whole.statuses status (List.mem_of_mem_eraseIdx (list ▸ member))
  unfold removeAt
  refine holds_fighter_bind found (holds_indexed_bind ran ?_)
  refine holds_modify_bind (holds_pure ⟨removed, touched, list, fun other apart => ?_⟩)
  show ((s.setSide camp ((s.fighters camp).modifyFighter idx _)).fighters camp).fighterAt other = _
  rw [Field.setSide_self, Side.fighterAt_modifyFighter, if_neg apart]

omit [Number N] in
/-- A status that changes keeps its id. -/
theorem known_modify {list : List (Status N)} (known : ∀ status ∈ list, StatusKnown tables status.id) (i : Nat)
    {f : Status N → Status N} (same : ∀ status, (f status).id = status.id) :
    ∀ status ∈ list.modify i f, StatusKnown tables status.id := by
  intro status member
  obtain ⟨j, at'⟩ := List.mem_iff_getElem?.mp member
  rw [List.getElem?_modify] at at'
  obtain ⟨before, found, rfl⟩ := Option.map_eq_some_iff.mp at'
  have was := known before (List.mem_of_getElem? found)
  split
  · rw [same]
    exact was
  · exact was

/-- A status that is used up has an index to be removed with. -/
theorem desStatusTime_holds (sound : s.Sound tables) {camp : Camp} {idx : Option Nat} {owner pos : Nat} {there : Fighter N}
    (found : (s.fighters camp).fighterAt owner = some there) (times : Option Int) (first : 1 ≤ pos)
    (last : pos ≤ there.status.length) (named : idx = some owner ∨ ∀ left, times = some left → 1 < left) :
    Holds (faultlessPlay tables) (desStatusTime tables camp idx owner times pos) s fun _ s' =>
      ∃ after, Touched tables s camp owner after s' ∧ there.status.length ≤ after.status.length + 1 := by
  unfold desStatusTime
  cases times with
  | none => exact holds_pure ⟨there, ⟨sound, .refl s, found⟩, Nat.le_succ _⟩
  | some times =>
    dsimp only
    split
    · rename_i last'
      have named : idx = some owner := named.elim id fun more => absurd (more times rfl) (by omega)
      refine holds_indexed_bind named (holds_bind (removeAt_holds sound found first last) ?_)
      rintro id s' ⟨after, touched, list, -⟩
      refine holds_pure ⟨after, touched, ?_⟩
      rw [list, List.length_eraseIdx]
      split <;> omega
    · have whole := (sound.sides camp).fighter found
      have touched := sound.touched (f := setTimes (times - 1) pos) found rfl
        (known_modify whole.statuses _ fun _ => rfl)
      refine holds_modify_bind (holds_pure ⟨_, touched, ?_⟩)
      show _ ≤ (there.status.modify _ _).length + 1
      rw [List.length_modify]
      exact Nat.le_succ _

/-! ### Effects -/

/-- Only attributes have changed. -/
structure Side.Alike (before after : Side N) : Prop where
  frame : after.frame = before.frame
  lists : after.lists = before.lists

omit [Number N] in
theorem alike_modifyFighter (side : Side N) (pos : Nat) {f : Fighter N → Fighter N} (build : ∀ fighter, (f fighter).build = fighter.build)
    (status : ∀ fighter, (f fighter).status = fighter.status) : side.Alike (side.modifyFighter pos f) := by
  refine ⟨Side.frame_modifyFighter _ _ fun fighter _ => build fighter, funext fun other => ?_⟩
  unfold Side.lists
  rw [Side.fighterAt_modifyFighter]
  split
  · cases side.fighterAt other with
    | none => rfl
    | some fighter => exact congrArg some (status fighter)
  · rfl

theorem raise_alike (attr : Attribute) (amount : N) (pos : Nat) (fighter : Fighter N) (side : Side N) :
    side.Alike (raise attr amount pos fighter side).1 := by
  cases attr with
  | atk | defense | crit | dog =>
    unfold raise
    dsimp only
    apply alike_modifyFighter side pos
    · exact fun _ => rfl
    · exact fun _ => rfl
  | maxHp =>
    unfold raise
    dsimp only
    split
    · exact ⟨rfl, rfl⟩
    · dsimp only
      apply alike_modifyFighter side pos
      · exact fun _ => rfl
      · exact fun _ => rfl
  | other code => exact ⟨rfl, rfl⟩

theorem lower_alike (attr : Attribute) (amount : N) (pos : Nat) (fighter : Fighter N) (side : Side N) :
    side.Alike (lower attr amount pos fighter side).1 := by
  cases attr with
  | atk | defense | crit | dog =>
    unfold lower
    dsimp only
    apply alike_modifyFighter side pos
    · exact fun _ => rfl
    · exact fun _ => rfl
  | maxHp =>
    unfold lower
    dsimp only
    split
    · exact ⟨rfl, rfl⟩
    · dsimp only
      apply alike_modifyFighter side pos
      · exact fun _ => rfl
      · exact fun _ => rfl
  | other code => exact ⟨rfl, rfl⟩

omit [Number N] in
/-- The field after an attribute has changed. -/
theorem Touched.setSide {before field : Field N} {camp : Camp} {pos : Nat} {fighter : Fighter N} {side : Side N}
    (touched : Touched tables before camp pos fighter field) (alike : (field.fighters camp).Alike side) :
    ∃ after, Touched tables before camp pos after (field.setSide camp side) ∧ after.status = fighter.status := by
  have list : side.lists pos = some fighter.status := by
    rw [alike.lists]
    unfold Side.lists
    rw [touched.there]
    rfl
  obtain ⟨after, there, same⟩ := Option.map_eq_some_iff.mp list
  refine ⟨after, ⟨touched.sound.setSide ((touched.sound.sides camp).of_lists alike.frame alike.lists),
    touched.kept.trans (kept_setSide alike.frame), ?_⟩, same⟩
  rw [Field.setSide_self]
  exact there

section
variable {before : Field N} {camp : Camp} {owner : Nat} {fighter : Fighter N}

theorem alterAttribute_holds (touched : Touched tables before camp owner fighter s) {idx : Option Nat} (named : idx = some owner)
    {alter : Nat → Fighter N → Side N → Side N} (alike : (s.fighters camp).Alike (alter owner fighter (s.fighters camp)))
    (op : Nat → Fighter N → Side N → Fighter N → BuffOp N) :
    Holds (faultlessPlay tables) (alterAttribute camp idx alter op) s fun _ s' =>
      ∃ after, Touched tables before camp owner after s' ∧ after.status = fighter.status := by
  obtain ⟨after, next, same⟩ := touched.setSide alike
  unfold alterAttribute
  refine holds_indexed_bind named (holds_fighter_bind touched.there (holds_side_bind (holds_modify_bind ?_)))
  exact holds_fighter_bind next.there (holds_pure ⟨after, next, same⟩)

theorem addAttribute_holds (touched : Touched tables before camp owner fighter s) {idx : Option Nat} (lvl : N) (op : BuffOp N)
    (entry : Attribute × Option N) (named : idx = some owner ∨ entry.2 = none) :
    Holds (faultlessPlay tables) (addAttribute camp idx lvl op entry) s fun _ s' =>
      ∃ after, Touched tables before camp owner after s' ∧ after.status = fighter.status := by
  obtain ⟨attr, value⟩ := entry
  cases value with
  | none =>
    rw [addAttribute_none]
    exact holds_pure ⟨fighter, touched, rfl⟩
  | some value =>
    rw [addAttribute_some]
    exact alterAttribute_holds touched (named.resolve_right nofun) (raise_alike attr (value * lvl) owner fighter _) _

theorem reduceAttribute_holds (touched : Touched tables before camp owner fighter s) {idx : Option Nat} (lvl : N) (op : BuffOp N)
    (entry : Attribute × Option N) (named : idx = some owner ∨ entry.2 = none) :
    Holds (faultlessPlay tables) (reduceAttribute camp idx lvl op entry) s fun _ s' =>
      ∃ after, Touched tables before camp owner after s' ∧ after.status = fighter.status := by
  obtain ⟨attr, value⟩ := entry
  cases value with
  | none =>
    rw [reduceAttribute_none]
    exact holds_pure ⟨fighter, touched, rfl⟩
  | some value =>
    rw [reduceAttribute_some]
    exact alterAttribute_holds touched (named.resolve_right nofun) (lower_alike attr (value * lvl) owner fighter _) _

theorem attributes_holds {step : BuffOp N → Attribute × Option N → Play N (BuffOp N)} {idx : Option Nat}
    (each : ∀ op entry (s : Field N) fighter, Touched tables before camp owner fighter s → idx = some owner ∨ entry.2 = none →
      Holds (faultlessPlay tables) (step op entry) s fun _ s' =>
        ∃ after, Touched tables before camp owner after s' ∧ after.status = fighter.status)
    (touched : Touched tables before camp owner fighter s) {attributes : List (Attribute × Option N)}
    (named : idx = some owner ∨ attributes.any (fun entry => entry.2.isSome) = false) (op : BuffOp N) :
    Holds (faultlessPlay tables) (attributes.foldlM step op) s fun _ s' =>
      ∃ after, Touched tables before camp owner after s' ∧ after.status = fighter.status := by
  refine (holds_foldlM (fun rest _ s' => (idx = some owner ∨ rest.any (fun entry => entry.2.isSome) = false) ∧
    ∃ after, Touched tables before camp owner after s' ∧ after.status = fighter.status) ?_
    ⟨named, fighter, touched, rfl⟩).mono fun _ _ met => met.2
  rintro entry rest op s' ⟨named, after, touched, same⟩
  rw [List.any_cons, Bool.or_eq_false_iff] at named
  have here : idx = some owner ∨ entry.2 = none :=
    named.imp_right fun none' => Option.isNone_iff_eq_none.mp (Option.isSome_eq_false_iff.mp none'.1)
  exact (each op entry s' after touched here).mono fun _ _ ⟨next, touched, still⟩ =>
    ⟨named.imp_right And.right, next, touched, still.trans same⟩

theorem addSkillQueue_holds (touched : Touched tables before camp owner fighter s) (cost : Option Int) {id : Option Nat}
    (known : ∀ skillid, id = some skillid → SkillKnown tables skillid) :
    Holds (faultlessPlay tables) (addSkillQueue cost camp (some owner) id) s fun _ s' =>
      Touched tables before camp owner fighter s' := by
  unfold addSkillQueue
  refine holds_indexed_bind rfl (holds_fighter_bind touched.there (holds_modify ?_))
  refine ⟨⟨touched.sound.sides, fun bag member => ?_⟩, touched.kept, touched.there⟩
  rcases List.mem_append.mp member with member | new
  · exact touched.sound.queue bag member
  · obtain rfl := List.mem_singleton.mp new
    exact known

end

/-- A status takes effect for its own fighter, with or without an index. -/
theorem activeStatus_holds (whole : tables.WellFormed) (sound : s.Sound tables) {camp : Camp} {idx : Option Nat} {owner pos : Nat}
    {there : Fighter N} (found : (s.fighters camp).fighterAt owner = some there) {status : Status N}
    (listed : there.status[pos - 1]? = some status) (first : 1 ≤ pos) (named : idx = some owner ∨ idx = none) :
    Holds (faultlessPlay tables) (activeStatus tables camp idx owner status pos) s fun _ s' =>
      ∃ after, Touched tables s camp owner after s' ∧ there.status.length ≤ after.status.length + 1 := by
  obtain ⟨row, type, known, -⟩ := ((sound.sides camp).fighter found).statuses status (List.mem_of_getElem? listed)
  have last : pos ≤ there.status.length := by
    have inside := (List.getElem?_eq_some_iff.mp listed).1
    omega
  unfold activeStatus
  refine holds_mark_bind fun careful => ⟨trivial, ?_⟩
  have harmless : idx = some owner ∨ row.effect.indexes = false ∧ ∀ times, status.times = some times → 1 < times :=
    named.imp_right fun none' => careful none' there status row found listed known
  refine holds_indexed_bind known (holds_bind (desStatusTime_holds sound found status.times first last (harmless.imp_right And.right)) ?_)
  rintro dis s' ⟨after, touched, long⟩
  have attributes {m : Play N (BuffOp N)} (holds : Holds (faultlessPlay tables) m s' fun _ s' =>
      ∃ next, Touched tables s camp owner next s' ∧ next.status = after.status) :
      Holds (faultlessPlay tables) m s' fun _ s' =>
        ∃ after, Touched tables s camp owner after s' ∧ there.status.length ≤ after.status.length + 1 :=
    holds.mono fun _ _ ⟨next, touched, same⟩ => ⟨next, touched, same ▸ long⟩
  dsimp only
  split
  · rename_i entries effect
    have named : idx = some owner ∨ entries.any (fun entry => entry.2.isSome) = false :=
      harmless.imp_right fun met => (congrArg StatusEffect.indexes effect).symm.trans met.1
    exact attributes (attributes_holds (fun op entry _ _ touched named => addAttribute_holds touched _ op entry named) touched named _)
  · rename_i entries effect
    have named : idx = some owner ∨ entries.any (fun entry => entry.2.isSome) = false :=
      harmless.imp_right fun met => (congrArg StatusEffect.indexes effect).symm.trans met.1
    exact attributes (attributes_holds (fun op entry _ _ touched named => reduceAttribute_holds touched _ op entry named) touched named _)
  · rename_i arg1 effect
    have named : idx = some owner := harmless.resolve_right fun met =>
      absurd ((congrArg StatusEffect.indexes effect).symm.trans met.1) nofun
    subst named
    refine holds_bind (addSkillQueue_holds touched none fun skillid same => ?_) fun _ s'' touched => holds_pure ⟨after, touched, long⟩
    exact whole.triggered status.id row skillid known (same ▸ effect)
  · exact holds_pure ⟨after, touched, long⟩

/-! ### Conditions -/

omit [Number N] in
theorem downFrom_succ (n : Nat) : downFrom (n + 1) = (n + 1) :: downFrom n := by
  unfold downFrom
  rw [List.range'_concat, List.reverse_append, Nat.one_mul, Nat.add_comm 1 n]
  rfl

omit [Number N] in
/-- The place the loop is at is one of the list. -/
theorem statusAt {fighter : Fighter N} {n : Nat} (inside : n + 1 ≤ fighter.status.length) :
    ∃ status, fighter.status[n + 1 - 1]? = some status ∧ status ∈ fighter.status :=
  ⟨_, List.getElem?_eq_getElem (by omega), List.getElem_mem _⟩

/-- The places below one that is passed stay below the end of a list that loses one entry at a time. -/
theorem trigger_holds (whole : tables.WellFormed) (sound : s.Sound tables) (condition : ConditionType) (camp : Camp) (owner : Nat)
    {idx : Option Nat} (named : idx = some owner ∨ idx = none) :
    Holds (faultlessPlay tables) (trigger tables condition camp owner idx) s fun _ s' => s'.Sound tables ∧ Kept s s' := by
  unfold trigger
  apply holds_fighter?_bind
  split
  · exact holds_pure ⟨sound, .refl s⟩
  · rename_i there found
    refine (holds_foldlM (fun rest _ s' => ∃ n after, rest = downFrom n ∧ Touched tables s camp owner after s' ∧
      n ≤ after.status.length) ?_ ⟨_, there, rfl, ⟨sound, .refl s, found⟩, le_rfl⟩).mono
      fun _ _ ⟨_, _, _, touched, _⟩ => ⟨touched.sound, touched.kept⟩
    rintro j rest tb s' ⟨n, after, places, touched, inside⟩
    cases n with
    | zero => exact absurd places (List.cons_ne_nil _ _)
    | succ n =>
      obtain ⟨rfl, rfl⟩ := List.cons.inj (places.trans (downFrom_succ n))
      obtain ⟨status, listed, member⟩ := statusAt inside
      obtain ⟨row, type, known, -⟩ := ((touched.sound.sides camp).fighter touched.there).statuses status member
      refine holds_fighter_bind touched.there (holds_indexed_bind listed (holds_indexed_bind known ?_))
      split
      · refine holds_bind (activeStatus_holds whole touched.sound touched.there listed (by omega) named) ?_
        rintro op s'' ⟨next, further, long⟩
        exact holds_pure ⟨n, next, rfl, ⟨further.sound, touched.kept.trans further.kept, further.there⟩, by omega⟩
      · exact holds_pure ⟨n, after, rfl, touched, by omega⟩

section
variable {terms : Terms (Act N) (Field N) (Stop N)} {condition : ConditionType} {camp : Camp}

/-- Nothing happens where the fighter does not wait for the condition. -/
theorem trigger_quiet {owner : Nat}
    (quiet : ∀ fighter, (s.fighters camp).fighterAt owner = some fighter → fighter.Quiet tables condition) (idx : Option Nat) :
    Holds terms (trigger tables condition camp owner idx) s fun ops s' => ops = [] ∧ s' = s := by
  unfold trigger
  apply holds_fighter?_bind
  split
  · exact holds_pure ⟨rfl, rfl⟩
  · rename_i there found
    refine (holds_foldlM (fun rest tb s' => (∃ n, rest = downFrom n ∧ n ≤ there.status.length) ∧ tb = [] ∧ s' = s) ?_
      ⟨⟨_, rfl, le_rfl⟩, rfl, rfl⟩).mono fun _ _ inv => inv.2
    rintro j rest _ s' ⟨⟨n, places, inside⟩, rfl, rfl⟩
    cases n with
    | zero => exact absurd places (List.cons_ne_nil _ _)
    | succ n =>
      obtain ⟨rfl, rfl⟩ := List.cons.inj (places.trans (downFrom_succ n))
      obtain ⟨status, listed, member⟩ := statusAt inside
      obtain ⟨row, known, other⟩ := quiet there found status member
      refine holds_fighter_bind found (holds_indexed_bind listed (holds_indexed_bind known ?_))
      rw [if_neg other]
      exact holds_pure ⟨⟨n, rfl, by omega⟩, rfl, rfl⟩

theorem condCampAll_quiet
    (quiet : ∀ pos fighter, (s.fighters camp).fighterAt pos = some fighter → fighter.Quiet tables condition) :
    Holds terms (condCampAll tables condition camp) s fun ops s' => ops = [] ∧ s' = s := by
  unfold condCampAll
  refine holds_foldlM (fun _ tb s' => tb = [] ∧ s' = s) ?_ ⟨rfl, rfl⟩
  rintro i rest _ _ ⟨rfl, rfl⟩
  refine holds_bind (trigger_quiet (quiet i) _) ?_
  rintro _ _ ⟨rfl, rfl⟩
  exact holds_pure ⟨rfl, rfl⟩

theorem condCampAllExceptMe_quiet {idx : Nat}
    (quiet : ∀ pos fighter, pos ≠ idx → (s.fighters camp).fighterAt pos = some fighter → fighter.Quiet tables condition) :
    Holds terms (condCampAllExceptMe tables condition camp idx) s fun ops s' => ops = [] ∧ s' = s := by
  unfold condCampAllExceptMe
  refine holds_foldlM (fun _ tb s' => tb = [] ∧ s' = s) ?_ ⟨rfl, rfl⟩
  rintro i rest _ _ ⟨rfl, rfl⟩
  split
  · exact holds_pure ⟨rfl, rfl⟩
  · rename_i apart
    refine holds_bind (trigger_quiet (fun fighter => quiet i fighter (Ne.symm apart)) _) ?_
    rintro _ _ ⟨rfl, rfl⟩
    exact holds_pure ⟨rfl, rfl⟩

end

section
variable (sound : s.Sound tables) {condition : ConditionType} {camp : Camp}
include sound

omit [Number N] in
theorem Field.Sound.quiet {pos : Nat} {fighter : Fighter N} (there : (s.fighters camp).fighterAt pos = some fighter)
    (idle : ¬ fighter.Waits tables condition) : fighter.Quiet tables condition := by
  intro status member
  obtain ⟨row, _, known, -⟩ := ((sound.sides camp).fighter there).statuses status member
  exact ⟨row, known, fun waits => idle ⟨status, member, row, known, waits⟩⟩

theorem trigger_idle {owner : Nat}
    (idle : ∀ fighter, (s.fighters camp).fighterAt owner = some fighter → ¬ fighter.Waits tables condition) (idx : Option Nat) :
    Holds (faultlessPlay tables) (trigger tables condition camp owner idx) s fun ops s' => ops = [] ∧ s' = s :=
  trigger_quiet (fun fighter there => sound.quiet there (idle fighter there)) idx

theorem condCampAll_idle (idle : Idle tables condition (s.fighters camp) none) :
    Holds (faultlessPlay tables) (condCampAll tables condition camp) s fun ops s' => ops = [] ∧ s' = s :=
  condCampAll_quiet fun pos fighter there => sound.quiet there (idle pos fighter nofun there)

theorem condCampAllExceptMe_idle {idx : Nat} (idle : Idle tables condition (s.fighters camp) (some idx)) :
    Holds (faultlessPlay tables) (condCampAllExceptMe tables condition camp idx) s fun ops s' => ops = [] ∧ s' = s :=
  condCampAllExceptMe_quiet fun pos fighter apart there =>
    sound.quiet there (idle pos fighter (fun same => apart (Option.some.inj same)) there)

end

section
variable (whole : tables.WellFormed) (sound : s.Sound tables) (condition : ConditionType) (camp : Camp)
include whole sound

theorem condMe_holds (idx : Nat) :
    Holds (faultlessPlay tables) (condMe tables condition camp idx) s fun _ s' => s'.Sound tables ∧ Kept s s' :=
  trigger_holds whole sound condition camp idx (.inr rfl)

theorem condCampAll_holds :
    Holds (faultlessPlay tables) (condCampAll tables condition camp) s fun _ s' => s'.Sound tables ∧ Kept s s' := by
  unfold condCampAll
  refine holds_foldlM (fun _ _ s' => s'.Sound tables ∧ Kept s s') ?_ ⟨sound, .refl s⟩
  rintro i rest tb s' ⟨sound', kept⟩
  refine holds_bind (trigger_holds whole sound' condition camp i (.inl rfl)) ?_
  rintro ops s'' ⟨sound'', further⟩
  exact holds_pure ⟨sound'', kept.trans further⟩

theorem condCampAllExceptMe_holds (idx : Nat) :
    Holds (faultlessPlay tables) (condCampAllExceptMe tables condition camp idx) s fun _ s' => s'.Sound tables ∧ Kept s s' := by
  unfold condCampAllExceptMe
  refine holds_foldlM (fun _ _ s' => s'.Sound tables ∧ Kept s s') ?_ ⟨sound, .refl s⟩
  rintro i rest tb s' ⟨sound', kept⟩
  split
  · exact holds_pure ⟨sound', kept⟩
  · refine holds_bind (trigger_holds whole sound' condition camp i (.inl rfl)) ?_
    rintro ops s'' ⟨sound'', further⟩
    exact holds_pure ⟨sound'', kept.trans further⟩

theorem condAllProcess_holds :
    Holds (faultlessPlay tables) (condAllProcess tables condition) s fun _ s' => s'.Sound tables ∧ Kept s s' := by
  unfold condAllProcess
  refine holds_bind (condCampAll_holds whole sound condition .me) ?_
  rintro mine s₁ ⟨sound₁, kept₁⟩
  refine holds_bind (condCampAll_holds whole sound₁ condition .obs) ?_
  rintro theirs s₂ ⟨sound₂, kept₂⟩
  exact holds_pure ⟨sound₂, kept₁.trans kept₂⟩

end

/-! ### Marks -/

omit [Number N] in
theorem statusType_known {status : Status N} (known : StatusKnown tables status.id) : ∃ type, statusType tables status = some type := by
  obtain ⟨row, -, here, -⟩ := known
  exact ⟨row.effect.type, by rw [statusType, here]; rfl⟩

omit [Number N] in
/-- What `findType` tells of a list of known statuses. -/
theorem findType_known (type : StatusType) {list : List (Status N)} (known : ∀ status ∈ list, StatusKnown tables status.id) :
    ∃ found, findType tables type list = some found ∧ (found = true → ∃ status ∈ list, statusType tables status = some type) := by
  induction list with
  | nil => exact ⟨false, rfl, nofun⟩
  | cons status rest ih =>
    obtain ⟨here, is⟩ := statusType_known (known status (List.mem_cons_self ..))
    obtain ⟨found, later, shows⟩ := ih fun other member => known other (List.mem_cons_of_mem _ member)
    unfold findType
    rw [is]
    by_cases same : here = type
    · subst same
      exact ⟨true, by simp, fun _ => ⟨status, List.mem_cons_self .., is⟩⟩
    · refine ⟨found, by simp [same, later], fun yes => ?_⟩
      obtain ⟨other, member, type⟩ := shows yes
      exact ⟨other, List.mem_cons_of_mem _ member, type⟩

theorem condImmu_holds (sound : s.Sound tables) {camp : Camp} {idx : Nat} {there : Fighter N}
    (found : (s.fighters camp).fighterAt idx = some there) :
    Holds (faultlessPlay tables) (condImmu tables camp idx) s fun _ s' => s' = s := by
  unfold condImmu
  apply holds_fighter_bind found
  split
  · have known (status : Status N) (member : status ∈ there.status.reverse) : StatusKnown tables status.id :=
      ((sound.sides camp).fighter found).statuses status (List.mem_reverse.mp member)
    obtain ⟨yes, ran, -⟩ := findType_known .immunity known
    rw [ran]
    exact holds_pure rfl
  · exact holds_pure rfl

/-- Where there is no shield to be hit. -/
theorem condShield_holds (sound : s.Sound tables) {camp : Camp} {idx : Nat} {there : Fighter N}
    (found : (s.fighters camp).fighterAt idx = some there) (damage : N) :
    Holds (faultlessPlay tables) (condShield tables camp idx damage) s fun _ s' => s' = s := by
  unfold condShield
  refine holds_mark_bind fun careful => ⟨trivial, holds_fighter_bind found ?_⟩
  split
  · rename_i marked
    have known (status : Status N) (member : status ∈ there.status.reverse) : StatusKnown tables status.id :=
      ((sound.sides camp).fighter found).statuses status (List.mem_reverse.mp member)
    obtain ⟨yes, ran, shows⟩ := findType_known .shield known
    apply holds_indexed_bind ran
    split
    · rename_i shield
      obtain ⟨status, member, type⟩ := shows shield
      exact absurd type (careful there found marked status (List.mem_reverse.mp member))
    · exact holds_pure rfl
  · exact holds_pure rfl

/-! ### Statuses of a skill -/

section
variable {fighter : Fighter N}

/-- What adding a status comes to: a fighter of the same build whose statuses are known. -/
def Added (tables : Tables N) (fighter : Fighter N) (added : Option (Fighter N × Bool)) : Prop :=
  ∃ after yes, added = some (after, yes) ∧ after.build = fighter.build ∧ ∀ status ∈ after.status, StatusKnown tables status.id

omit [Number N] in
theorem realAddStatus_known (known : ∀ status ∈ fighter.status, StatusKnown tables status.id) {statusid : Nat}
    (new : StatusKnown tables statusid) (lvl : N) : Added tables fighter (realAddStatus tables fighter statusid lvl) := by
  obtain ⟨row, type, here, there⟩ := new
  unfold realAddStatus
  split
  · exact ⟨fighter, false, rfl, rfl, known⟩
  · rw [here]
    simp only [Option.bind_eq_bind, Option.bind_some]
    rw [there]
    refine ⟨_, true, rfl, rfl, fun status member => ?_⟩
    rcases List.mem_append.mp member with member | last
    · exact known status member
    · obtain rfl := List.mem_singleton.mp last
      exact ⟨row, type, here, there⟩

omit [Number N] in
theorem replaceStatus_known (known : ∀ status ∈ fighter.status, StatusKnown tables status.id) {statusid : Nat}
    (new : StatusKnown tables statusid) (markPos : Nat) (lvl : N) :
    Added tables fighter (replaceStatus tables fighter statusid markPos lvl) := by
  have again := new
  obtain ⟨row, type, here, -⟩ := new
  unfold replaceStatus
  rw [here]
  refine ⟨_, true, rfl, rfl, fun status member => ?_⟩
  rcases List.mem_or_eq_of_mem_set member with member | rfl
  · exact known status member
  · exact again

theorem findLower_known (type : StatusType) (lvl : N) (i : Nat) (isIn : Bool) {list : List (Status N)}
    (known : ∀ status ∈ list, StatusKnown tables status.id) : ∃ found, findLower tables type lvl i isIn list = some found := by
  induction list generalizing i isIn with
  | nil => exact ⟨_, rfl⟩
  | cons status rest ih =>
    obtain ⟨here, is⟩ := statusType_known (known status (List.mem_cons_self ..))
    have later (isIn : Bool) := ih (i + 1) isIn fun other member => known other (List.mem_cons_of_mem _ member)
    unfold findLower
    rw [is]
    simp only [Option.bind_eq_bind, Option.bind_some]
    split
    · split
      · exact ⟨_, rfl⟩
      · exact later true
    · exact later isIn

theorem addStatus_known (known : ∀ status ∈ fighter.status, StatusKnown tables status.id) {statusid : Nat}
    (new : StatusKnown tables statusid) (lvl : N) : Added tables fighter (addStatus tables fighter statusid lvl) := by
  have unchanged : Added tables fighter (some (fighter, false)) := ⟨fighter, false, rfl, rfl, known⟩
  have again := new
  obtain ⟨row, type, here, there⟩ := new
  unfold addStatus
  rw [here]
  simp only [Option.bind_eq_bind, Option.bind_some]
  rw [there]
  simp only [Option.bind_some]
  split
  · split
    · obtain ⟨found, ran, -⟩ := findType_known row.effect.type known
      rw [ran]
      simp only [Option.bind_some]
      split
      · exact unchanged
      · exact realAddStatus_known known again lvl
    · obtain ⟨⟨isIn, markPos⟩, ran⟩ := findLower_known row.effect.type lvl 0 false known
      rw [ran]
      simp only [Option.bind_some]
      split
      · exact realAddStatus_known known again lvl
      · exact replaceStatus_known known again _ lvl
      · exact unchanged
    · exact realAddStatus_known known again lvl
    · exact unchanged
  · exact unchanged

end

theorem createStatus_holds (whole : tables.WellFormed) (sound : s.Sound tables) (camp : Camp) (target : Nat)
    (tbStatusID : List Nat) (lvl : N) :
    Holds (faultlessPlay tables) (createStatus tables camp target tbStatusID lvl) s fun _ s' => s'.Sound tables ∧ Kept s s' := by
  unfold createStatus
  apply holds_fighter?_bind
  split
  · exact holds_pure ⟨sound, .refl s⟩
  · rename_i there found
    refine (holds_foldlM (fun _ _ s' => ∃ after, Touched tables s camp target after s') ?_ ⟨there, sound, .refl s, found⟩).mono
      fun _ _ ⟨_, touched⟩ => ⟨touched.sound, touched.kept⟩
    rintro id rest buff s' ⟨after, touched⟩
    split
    · exact holds_pure ⟨after, touched⟩
    · rename_i row known
      have here := (touched.sound.sides camp).fighter touched.there
      obtain ⟨next, yes, ran, build, statuses⟩ := addStatus_known here.statuses (whole.statuses id (by rw [known]; rfl)) lvl
      have further := touched.sound.touched (f := fun _ => next) touched.there build statuses
      refine holds_fighter_bind touched.there (holds_indexed_bind ran (holds_modify_bind ?_))
      exact holds_pure ⟨next, further.sound, touched.kept.trans further.kept, further.there⟩

omit [Number N] in
theorem dispelled_known (nature : Int) {status : Status N} (known : StatusKnown tables status.id) :
    ∃ yes, dispelled tables nature status = some yes := by
  obtain ⟨row, type, here, there⟩ := known
  unfold dispelled
  rw [here]
  simp only [Option.bind_eq_bind, Option.bind_some]
  rw [there]
  exact ⟨_, rfl⟩

/-- Below the end of the list there is always something left to print. -/
theorem eraseLoop_holds {camp : Camp} {target : Nat} (dis : Int × Int) {there : Fighter N} (sound : s.Sound tables)
    (found : (s.fighters camp).fighterAt target = some there) (n : Nat) (below : n + 1 ≤ there.status.length) (ret : List Nat) :
    Holds (faultlessPlay tables) (eraseLoop tables camp target dis (downFrom n) ret) s fun _ s' => s'.Sound tables ∧ Kept s s' := by
  induction n generalizing s there ret with
  | zero => exact holds_pure ⟨sound, .refl s⟩
  | succ n ih =>
    rw [downFrom_succ]
    unfold eraseLoop
    obtain ⟨status, listed, member⟩ := statusAt (by omega : n + 1 ≤ there.status.length)
    obtain ⟨yes, ran⟩ := dispelled_known dis.1 (((sound.sides camp).fighter found).statuses status member)
    refine holds_fighter_bind found (holds_indexed_bind listed (holds_indexed_bind ran ?_))
    have rest (ret : List Nat) (s' : Field N) (next : Fighter N) (touched : Touched tables s camp target next s')
        (still : n + 1 ≤ next.status.length) :
        Holds (faultlessPlay tables) (if dis.2 ≠ 0 ∧ dis.2 ≤ ret.length then Pure.pure ret
          else eraseLoop tables camp target dis (downFrom n) ret) s' fun _ s' => s'.Sound tables ∧ Kept s s' := by
      split
      · exact holds_pure ⟨touched.sound, touched.kept⟩
      · exact (ih touched.sound touched.there still ret).mono fun _ _ ⟨sound, further⟩ => ⟨sound, touched.kept.trans further⟩
    split
    · refine holds_bind (removeAt_holds sound found (by omega) (by omega)) ?_
      rintro id s' ⟨next, touched, list, -⟩
      have long : next.status.length = there.status.length - 1 := by
        rw [list, List.length_eraseIdx, if_pos (by omega)]
      have inside : n + 1 - 1 < next.status.length := by omega
      refine holds_fighter_bind touched.there (holds_indexed_bind (List.getElem?_eq_getElem inside) ?_)
      exact rest (ret ++ [id]) s' next touched (by omega)
    · exact rest ret s there ⟨sound, .refl s, found⟩ (by omega)

/-- Where the last status of the list is not dispelled. -/
theorem eraseStatus_holds (sound : s.Sound tables) {camp : Camp} {target : Nat} {there : Fighter N}
    (found : (s.fighters camp).fighterAt target = some there) (dis : Int × Int) :
    Holds (faultlessPlay tables) (eraseStatus tables camp target dis) s fun _ s' => s'.Sound tables ∧ Kept s s' := by
  unfold eraseStatus
  refine holds_mark_bind fun careful => ⟨trivial, ?_⟩
  split
  · rename_i some'
    apply holds_fighter_bind found
    rcases size : there.status.length with _ | n
    · exact holds_pure ⟨sound, .refl s⟩
    · rw [downFrom_succ]
      unfold eraseLoop
      obtain ⟨status, listed, member⟩ := statusAt (n := n) (by omega : n + 1 ≤ there.status.length)
      obtain ⟨yes, ran⟩ := dispelled_known dis.1 (((sound.sides camp).fighter found).statuses status member)
      have last : there.status.getLast? = some status := by
        rw [List.getLast?_eq_getElem?, size]
        exact listed
      refine holds_fighter_bind found (holds_indexed_bind listed (holds_indexed_bind ran ?_))
      split
      · rename_i erased
        exact absurd (erased ▸ ran) (careful some' there found status last)
      · apply holds_pure_bind
        dsimp only
        split
        · exact holds_pure ⟨sound, .refl s⟩
        · exact eraseLoop_holds dis sound found n (by omega) _
  · exact holds_pure ⟨sound, .refl s⟩

end

end Tinygame.Fight
