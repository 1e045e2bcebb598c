import Tinygame.Fight.MiniFight
import Tinygame.Fight.StatusFaults
import Mathlib.Logic.Relation
import Mathlib.Data.List.Perm.Basic

/-!
# Statuses and their marks

A fighter keeps its statuses in a list and, for the types that do not coexist, marks beside it. Adding, removing
and wearing out write to both, and both stay in step.
-/

namespace Tinygame.Fight
open Traced Relation
variable {N : Type} (tables : Tables N)

/-- The types of which a fighter bears one status at most. -/
def Exclusive (type : StatusType) : Prop := ∃ row, tables.tbStatusType type = some row ∧ row.coexist.marked = true

/-- The types of which a status gives way to one of a higher level. -/
def Upgrades (type : StatusType) : Prop := ∃ row, tables.tbStatusType type = some row ∧ row.coexist = .up

def Fighter.types (fighter : Fighter N) : List (Option StatusType) := fighter.status.map (statusType tables)

structure Marked (fighter : Fighter N) : Prop where
  few : fighter.status.length ≤ MAX_STATUS_QUEUE_NUM
  single : ∀ type, Exclusive tables type → (fighter.types tables).count (some type) ≤ 1
  agree : ∀ type, Exclusive tables type → (fighter.statusMark type = true ↔ some type ∈ fighter.types tables)

variable {tables} {fighter after : Fighter N}

theorem Upgrades.exclusive {type : StatusType} (upgrades : Upgrades tables type) : Exclusive tables type := by
  obtain ⟨row, found, up⟩ := upgrades
  exact ⟨row, found, up ▸ rfl⟩

theorem Marked.unique (marked : Marked tables fighter) {type : StatusType} (exclusive : Exclusive tables type)
    {a b : Status N} (ha : a ∈ fighter.status) (ta : statusType tables a = some type) (hb : b ∈ fighter.status)
    (tb : statusType tables b = some type) : a = b := by
  have one := marked.single type exclusive
  rw [Fighter.types, List.count, List.countP_map, List.countP_eq_length_filter] at one
  have ina : a ∈ fighter.status.filter ((· == some type) ∘ statusType tables) := List.mem_filter.mpr ⟨ha, by simp [ta]⟩
  have inb : b ∈ fighter.status.filter ((· == some type) ∘ statusType tables) := List.mem_filter.mpr ⟨hb, by simp [tb]⟩
  obtain ⟨c, same⟩ := List.length_eq_one_iff.mp (le_antisymm one (List.length_pos_of_mem ina))
  rw [same] at ina inb
  exact (List.mem_singleton.mp ina).trans (List.mem_singleton.mp inb).symm

theorem types_length (tables : Tables N) (fighter : Fighter N) : (fighter.types tables).length = fighter.status.length := List.length_map _

/-- Only the types of the list and the marks matter. -/
theorem Marked.congr (marked : Marked tables fighter) (types : after.types tables = fighter.types tables)
    (mark : after.statusMark = fighter.statusMark) : Marked tables after where
  few := by
    rw [← types_length tables, types, types_length]
    exact marked.few
  single := types ▸ marked.single
  agree := types ▸ mark ▸ marked.agree

theorem statusType_new {row : StatusRow N} {statusid : Nat} (hasRow : tables.tbStatus statusid = some row) (lvl : N) :
    statusType tables (newStatus row statusid lvl) = some row.effect.type := by
  show (tables.tbStatus statusid).map _ = _
  rw [hasRow]
  rfl

/-- The fighter with one more status. -/
def Fighter.bear (fighter : Fighter N) (row : StatusRow N) (coexist : Coexist) (statusid : Nat) (lvl : N) : Fighter N :=
  { fighter with
    status := fighter.status ++ [newStatus row statusid lvl]
    statusMark :=
      if coexist.marked then Function.update fighter.statusMark row.effect.type true else fighter.statusMark }

theorem Marked.bear (marked : Marked tables fighter) {row : StatusRow N} {type : StatusTypeRow} {statusid : Nat}
    (hasRow : tables.tbStatus statusid = some row) (hasType : tables.tbStatusType row.effect.type = some type)
    (room : fighter.status.length < MAX_STATUS_QUEUE_NUM)
    (absent : type.coexist.marked = true → some row.effect.type ∉ fighter.types tables) (lvl : N) :
    Marked tables (fighter.bear row type.coexist statusid lvl) := by
  have types : (fighter.bear row type.coexist statusid lvl).types tables =
      fighter.types tables ++ [some row.effect.type] := by
    show (fighter.status ++ [newStatus row statusid lvl]).map (statusType tables) = _
    rw [List.map_append, List.map_singleton, statusType_new hasRow]
    rfl
  have own (type' : StatusType) (exclusive : Exclusive tables type') (same : type' = row.effect.type) :
      type.coexist.marked = true := by
    obtain ⟨row', found, marked'⟩ := exclusive
    rw [same, hasType] at found
    exact Option.some.inj found ▸ marked'
  refine ⟨?_, fun type' exclusive => ?_, fun type' exclusive => ?_⟩
  · show (fighter.status ++ [newStatus row statusid lvl]).length ≤ _
    rw [List.length_append]
    exact room
  · rw [types, List.count_append]
    by_cases same : type' = row.effect.type
    · have none' := List.count_eq_zero.mpr (absent (own type' exclusive same))
      rw [same, none']
      simp
    · have before := marked.single type' exclusive
      simpa [List.count_singleton, Ne.symm same] using before
  · rw [types, List.mem_append, List.mem_singleton, Option.some.injEq, ← marked.agree type' exclusive]
    show (if type.coexist.marked then _ else fighter.statusMark) type' = true ↔ _
    by_cases same : type' = row.effect.type
    · rw [if_pos (own type' exclusive same), same, Function.update_self]
      simp
    · split
      · rw [Function.update_of_ne same]
        simp [same]
      · simp [same]

theorem types_set {pos : Nat} {old new : Status N} (there : fighter.status[pos]? = some old)
    (same : statusType tables new = statusType tables old) :
    (fighter.status.set pos new).map (statusType tables) = fighter.types tables := by
  have here : (fighter.types tables)[pos]? = some (statusType tables old) := by
    rw [Fighter.types, List.getElem?_map, there]
    rfl
  obtain ⟨bound, same'⟩ := List.getElem?_eq_some_iff.mp here
  rw [List.map_set, same, ← same']
  exact List.set_getElem_self bound

/-! ### Removing and wearing out -/

theorem removeStatus_cases {pos id : Nat} (ran : removeStatus tables fighter pos = some (after, id)) :
    ∃ status row type, fighter.status[pos - 1]? = some status ∧ tables.tbStatus status.id = some row ∧
      tables.tbStatusType row.effect.type = some type ∧
      after = { fighter with
        status := fighter.status.eraseIdx (pos - 1)
        statusMark :=
          if type.coexist.marked then Function.update fighter.statusMark row.effect.type false else fighter.statusMark } := by
  unfold removeStatus at ran
  obtain ⟨status, there, ran⟩ := Option.bind_eq_some_iff.mp ran
  obtain ⟨row, hasRow, ran⟩ := Option.bind_eq_some_iff.mp ran
  obtain ⟨type, hasType, ran⟩ := Option.bind_eq_some_iff.mp ran
  exact ⟨status, row, type, there, hasRow, hasType, (Prod.mk.inj (Option.some.inj ran)).1.symm⟩

theorem removeStatus_marked {pos id : Nat} (marked : Marked tables fighter)
    (ran : removeStatus tables fighter pos = some (after, id)) : Marked tables after := by
  obtain ⟨status, row, type, there, hasRow, hasType, rfl⟩ := removeStatus_cases ran
  obtain ⟨bound, same⟩ := List.getElem?_eq_some_iff.mp there
  have is : statusType tables status = some row.effect.type := by
    rw [statusType, hasRow]
    rfl
  -- the list is the status that goes and those that stay
  have split : (fighter.types tables).Perm (some row.effect.type :: (fighter.status.eraseIdx (pos - 1)).map (statusType tables)) := by
    have perm := (List.getElem_cons_eraseIdx_perm bound).symm.map (statusType tables)
    rw [same, List.map_cons, is] at perm
    exact perm
  have counted (type' : StatusType) := split.count_eq (some type')
  refine ⟨?_, fun type' exclusive => ?_, fun type' exclusive => ?_⟩
  · exact (List.length_eraseIdx_le ..).trans marked.few
  · have before := marked.single type' exclusive
    rw [counted, List.count_cons] at before
    exact (Nat.le_add_right ..).trans before
  · show (if type.coexist.marked then _ else fighter.statusMark) type' = true ↔ _
    have before := marked.agree type' exclusive
    by_cases here : type' = row.effect.type
    · subst here
      obtain ⟨row', found, marks⟩ := exclusive
      have single := marked.single row.effect.type ⟨row', found, marks⟩
      rw [counted, List.count_cons_self] at single
      have gone := List.count_eq_zero.mp (Nat.le_zero.mp (Nat.le_of_succ_le_succ single))
      rw [if_pos (Option.some.inj (hasType.symm.trans found) ▸ marks), Function.update_self]
      exact ⟨fun off => absurd off Bool.false_ne_true, fun member => absurd member gone⟩
    · rw [split.mem_iff, List.mem_cons, Option.some.injEq] at before
      split
      · rw [Function.update_of_ne here]
        exact before.trans ⟨fun member => member.resolve_left here, .inr⟩
      · exact before.trans ⟨fun member => member.resolve_left here, .inr⟩

variable (tables) in
/-- A status goes, or one wears out a little. -/
def Sheds (before after : Fighter N) : Prop :=
  (∃ pos id, removeStatus tables before pos = some (after, id)) ∨
  ∃ i, ∃ f : Status N → Status N, (∀ status, (f status).id = status.id ∧ (f status).lvl = status.lvl) ∧
    after = { before with status := before.status.modify i f }

theorem Sheds.marked (sheds : Sheds tables fighter after) (marked : Marked tables fighter) : Marked tables after := by
  rcases sheds with ⟨pos, id, ran⟩ | ⟨i, f, same, rfl⟩
  · exact removeStatus_marked marked ran
  · refine marked.congr ?_ rfl
    show (fighter.status.modify i f).map (statusType tables) = fighter.status.map (statusType tables)
    refine List.ext_getElem? fun j => ?_
    rw [List.getElem?_map, List.getElem?_map, List.getElem?_modify]
    cases fighter.status[j]? with
    | none => rfl
    | some status =>
      show some (statusType tables _) = some (statusType tables status)
      split
      · rw [statusType, statusType, (same status).1]
      · rfl

theorem Sheds.older (sheds : Sheds tables fighter after) {new : Status N} (member : new ∈ after.status) :
    ∃ old ∈ fighter.status, old.id = new.id ∧ old.lvl = new.lvl := by
  rcases sheds with ⟨pos, id, ran⟩ | ⟨i, f, same, rfl⟩
  · obtain ⟨status, row, type, -, -, -, rfl⟩ := removeStatus_cases ran
    exact ⟨new, List.mem_of_mem_eraseIdx member, rfl, rfl⟩
  · obtain ⟨j, there⟩ := List.mem_iff_getElem?.mp member
    rw [List.getElem?_modify] at there
    obtain ⟨old, found, is⟩ := Option.map_eq_some_iff.mp there
    refine ⟨old, List.mem_of_getElem? found, ?_⟩
    split at is
    · exact is ▸ ⟨(same old).1.symm, (same old).2.symm⟩
    · exact is ▸ ⟨rfl, rfl⟩

theorem marked_of_sheds (sheds : ReflTransGen (Sheds tables) fighter after) (marked : Marked tables fighter) : Marked tables after := by
  induction sheds with
  | refl => exact marked
  | tail _ step ih => exact step.marked ih

theorem older_of_sheds (sheds : ReflTransGen (Sheds tables) fighter after) {new : Status N} (member : new ∈ after.status) :
    ∃ old ∈ fighter.status, old.id = new.id ∧ old.lvl = new.lvl := by
  induction sheds generalizing new with
  | refl => exact ⟨new, member, rfl, rfl⟩
  | tail _ step ih =>
    obtain ⟨mid, there, id, lvl⟩ := step.older member
    obtain ⟨old, there', id', lvl'⟩ := ih there
    exact ⟨old, there', id'.trans id, lvl'.trans lvl⟩

/-! ### On the field -/

section
variable {step : Fighter N → Fighter N → Prop}

/-- `R` outlives a step of whoever stands at a position. -/
def Outlives (step : Fighter N → Fighter N → Prop) (R : Field N → Prop) : Prop :=
  ∀ (field : Field N) (camp : Camp) (pos : Nat) (f : Fighter N → Fighter N), R field →
    (∀ there, (field.fighters camp).fighterAt pos = some there → step there (f there)) →
    R (field.setSide camp ((field.fighters camp).modifyFighter pos f))

/-- Whoever stands at a position after stood there before, and went from there by steps. -/
def Each (step : Fighter N → Fighter N → Prop) (before after : Field N) : Prop :=
  ∀ camp pos fighter, (after.fighters camp).fighterAt pos = some fighter →
    ∃ was, (before.fighters camp).fighterAt pos = some was ∧ ReflTransGen step was fighter

theorem each_refl (field : Field N) : Each step field field := fun _ _ fighter there => ⟨fighter, there, .refl⟩

theorem outlives_each (before : Field N) : Outlives step (Each step before) := by
  intro field camp pos f each steps camp' pos' fighter there
  by_cases same : camp' = camp
  · subst same
    rw [Field.setSide_self, Side.fighterAt_modifyFighter] at there
    split at there
    · rename_i same
      subst same
      obtain ⟨mid, found, rfl⟩ := Option.map_eq_some_iff.mp there
      obtain ⟨was, there', went⟩ := each camp' pos' mid found
      exact ⟨was, there', went.tail (steps mid found)⟩
    · exact each camp' pos' fighter there
  · rw [Field.setSide_ne _ _ same] at there
    exact each camp' pos' fighter there

end

section
variable {R : Field N → Prop} {s : Field N} {fight : FightManager N} {α β : Type}

theorem keeps_fighter (camp : Camp) (pos : Nat) (kept : R s) : Keeps R (Play.fighter camp pos) s :=
  holds_run_bind rfl (keeps_require kept)

theorem keeps_indexed_bind {value : Option α} {next : α → Play N β} (kept : R s)
    (rest : ∀ result, value = some result → Keeps R (next result) s) : Keeps R (Play.indexed value >>= next) s :=
  keeps_require_bind kept rest

theorem keeps_fighter_bind {camp : Camp} {pos : Nat} {next : Fighter N → Play N β} (kept : R s)
    (rest : ∀ there, (s.fighters camp).fighterAt pos = some there → Keeps R (next there) s) :
    Keeps R (Play.fighter camp pos >>= next) s := by
  cases found : (s.fighters camp).fighterAt pos with
  | none =>
    have ran : Play.fighter camp pos s = ⟨[], s, .error .error⟩ := ?_
    exact holds_run_error ran kept
    unfold Play.fighter
    rw [run_bind_ok (rfl : Play.fighter? camp pos s = ⟨[], s, .ok _⟩), found]
    rfl
  | some there =>
    refine holds_run_bind ?_ (rest there found)
    unfold Play.fighter
    rw [run_bind_ok (rfl : Play.fighter? camp pos s = ⟨[], s, .ok _⟩), found]
    rfl

theorem keeps_play {m : Play N α} (keeps : Keeps R m fight.field) :
    Keeps (fun fight : FightManager N => R fight.field) (Battle.play m) fight :=
  keeps_within keeps

theorem keeps_play_bind {m : Play N α} {next : α → Battle N β} (first : Keeps R m fight.field)
    (rest : ∀ result (fight' : FightManager N), R fight'.field → Keeps (fun fight => R fight.field) (next result) fight') :
    Keeps (fun fight : FightManager N => R fight.field) (Battle.play m >>= next) fight :=
  keeps_bind (keeps_play first) rest

variable (outlives : Outlives (Sheds tables) R) (kept : R s)
include outlives kept

theorem removeAt_keeps (camp : Camp) (idx pos : Nat) : Keeps R (removeAt tables camp idx pos) s := by
  unfold removeAt
  refine keeps_fighter_bind kept fun there found => keeps_indexed_bind kept fun removed ran => ?_
  refine holds_run_bind rfl (holds_pure (outlives s camp idx _ kept fun there' found' => ?_))
  obtain rfl := Option.some.inj (found.symm.trans found')
  exact .inl ⟨pos, removed.2, ran⟩

theorem desStatusTime_keeps (camp : Camp) (idx : Option Nat) (owner : Nat) (times : Option Int) (pos : Nat) :
    Keeps R (desStatusTime tables camp idx owner times pos) s := by
  unfold desStatusTime
  split
  · exact holds_pure kept
  · rename_i times
    split
    · refine keeps_indexed_bind kept fun idx _ => ?_
      exact keeps_bind (removeAt_keeps outlives kept camp idx pos) fun _ _ kept => holds_pure kept
    · refine holds_run_bind rfl (holds_pure (outlives s camp owner _ kept fun there _ => ?_))
      exact .inr ⟨pos - 1, fun status => { status with times := some (times - 1) }, fun _ => ⟨rfl, rfl⟩, rfl⟩

theorem eraseLoop_keeps (camp : Camp) (target : Nat) (dis : Int × Int) (places ret : List Nat) :
    Keeps R (eraseLoop tables camp target dis places ret) s := by
  induction places generalizing s ret with
  | nil => exact holds_pure kept
  | cons i rest ih =>
    unfold eraseLoop
    refine keeps_fighter_bind kept fun there _ => keeps_indexed_bind kept fun status _ => keeps_indexed_bind kept fun yes _ => ?_
    have later (ret : List Nat) (s' : Field N) (kept : R s') :
        Keeps R (if dis.2 ≠ 0 ∧ dis.2 ≤ ret.length then Pure.pure ret else eraseLoop tables camp target dis rest ret) s' := by
      split
      · exact holds_pure kept
      · exact ih kept ret
    dsimp only
    split
    · refine keeps_bind (removeAt_keeps outlives kept camp target i) fun id s' kept => ?_
      exact keeps_fighter_bind kept fun there _ => keeps_indexed_bind kept fun _ _ => later _ s' kept
    · exact later ret s kept

theorem eraseStatus_keeps (camp : Camp) (target : Nat) (dis : Int × Int) : Keeps R (eraseStatus tables camp target dis) s := by
  unfold eraseStatus
  refine keeps_mark_bind ?_
  split
  · exact keeps_fighter_bind kept fun there _ => eraseLoop_keeps outlives kept camp target dis _ _
  · exact holds_pure kept

end

/-! ### The end of a turn -/

section
variable {R : Field N → Prop} {fight : FightManager N} {α β : Type}

variable (outlives : Outlives (Sheds tables) R)
include outlives

theorem updateStatus_keeps (kept : R fight.field) (camp : Camp) (pos i : Nat) :
    Keeps (fun fight => R fight.field) (updateStatus tables camp pos i) fight := by
  unfold updateStatus
  refine keeps_play_bind (keeps_fighter camp pos kept) fun there fight kept => ?_
  refine keeps_play_bind (keeps_require kept) fun status fight kept => ?_
  split
  · exact holds_pure kept
  · rename_i duration _
    split
    · refine keeps_mark_bind (keeps_play_bind (removeAt_keeps outlives kept camp i i) fun id fight kept => ?_)
      exact holds_modify kept
    · refine keeps_play (holds_modify (outlives fight.field camp pos _ kept fun there _ => ?_))
      exact .inr ⟨i - 1, fun status => { status with duration := some (duration - 1) }, fun _ => ⟨rfl, rfl⟩, rfl⟩

theorem updateFighter_keeps (kept : R fight.field) (camp : Camp) (pos : Nat) :
    Keeps (fun fight => R fight.field) (updateFighter tables camp pos) fight := by
  unfold updateFighter
  refine keeps_play_bind (holds_run_bind rfl (holds_pure kept)) fun found fight kept => ?_
  split
  · exact holds_pure kept
  · exact keeps_forM (fun i fight kept => updateStatus_keeps outlives kept camp pos i) _ kept

theorem updateCond_keeps (kept : R fight.field) : Keeps (fun fight => R fight.field) (updateCond tables) fight := by
  refine keeps_forM (fun i fight kept => ?_) _ kept
  exact keeps_bind (updateFighter_keeps outlives kept .me i) fun _ fight kept => updateFighter_keeps outlives kept .obs i

end

/-! ### Adding -/

theorem findType_ran {type : StatusType} {list : List (Status N)} {found : Bool}
    (ran : findType tables type list = some found) : found = true ↔ some type ∈ list.map (statusType tables) := by
  induction list with
  | nil =>
    obtain rfl := Option.some.inj ran
    simp
  | cons status rest ih =>
    unfold findType at ran
    obtain ⟨here, is, ran⟩ := Option.bind_eq_some_iff.mp ran
    rw [List.map_cons, List.mem_cons, is]
    split at ran
    · rename_i same
      obtain rfl := Option.some.inj ran
      simp [same]
    · rename_i different
      rw [ih ran]
      simp [Ne.symm different]

section
variable [Number N]

/-- The same level, or one that was raised from it. -/
def Climbs (lvl lvl' : N) : Prop := ReflTransGen (· < ·) lvl lvl'

/-- Of a type that upgrades, what is borne after is of no lower level than what was borne before. -/
def Rises (tables : Tables N) (before after : Fighter N) : Prop :=
  ∀ type, Upgrades tables type → ∀ old ∈ before.status, statusType tables old = some type →
    ∀ new ∈ after.status, statusType tables new = some type → Climbs old.lvl new.lvl

theorem findLower_ran {type : StatusType} {lvl : N} {i : Nat} {isIn : Bool} {list : List (Status N)}
    {found : Bool × Option Nat} (ran : findLower tables type lvl i isIn list = some found) :
    (found.1 = true ↔ isIn = true ∨ some type ∈ list.map (statusType tables)) ∧
      ∀ pos, found.2 = some pos → ∃ j status, pos = i + j ∧ list[j]? = some status ∧
        statusType tables status = some type ∧ status.lvl < lvl := by
  induction list generalizing i isIn with
  | nil =>
    obtain rfl := Option.some.inj ran
    exact ⟨by simp, nofun⟩
  | cons status rest ih =>
    have shift {isIn' : Bool} (ran : findLower tables type lvl (i + 1) isIn' rest = some found) (pos : Nat)
        (given : found.2 = some pos) : ∃ j other, pos = i + j ∧ (status :: rest)[j]? = some other ∧
          statusType tables other = some type ∧ other.lvl < lvl := by
      obtain ⟨j, other, place, there, is⟩ := (ih ran).2 pos given
      exact ⟨j + 1, other, by omega, there, is⟩
    unfold findLower at ran
    obtain ⟨here, is, ran⟩ := Option.bind_eq_some_iff.mp ran
    rw [List.map_cons, List.mem_cons, is]
    split at ran
    · rename_i same
      subst same
      split at ran
      · rename_i lower
        obtain rfl := Option.some.inj ran
        refine ⟨by simp, fun pos given => ⟨0, status, ?_, rfl, is, lower⟩⟩
        exact (Option.some.inj given).symm
      · exact ⟨by simp [(ih ran).1], shift ran⟩
    · rename_i different
      refine ⟨?_, shift ran⟩
      rw [(ih ran).1]
      simp [Ne.symm different]

/-- Nothing is added, one status is, or one takes the place of one of a lower level. -/
theorem addStatus_cases {statusid : Nat} {lvl : N} {yes : Bool} (ran : addStatus tables fighter statusid lvl = some (after, yes)) :
    after = fighter ∨
    (∃ row type, tables.tbStatus statusid = some row ∧ tables.tbStatusType row.effect.type = some type ∧
      fighter.status.length < MAX_STATUS_QUEUE_NUM ∧
      (type.coexist.marked = true → some row.effect.type ∉ fighter.types tables) ∧
      after = fighter.bear row type.coexist statusid lvl) ∨
    (∃ row pos old, tables.tbStatus statusid = some row ∧ fighter.status[pos]? = some old ∧
      statusType tables old = some row.effect.type ∧ old.lvl < lvl ∧
      after = { fighter with status := fighter.status.set pos (newStatus row statusid lvl) }) := by
  unfold addStatus at ran
  obtain ⟨row, hasRow, ran⟩ := Option.bind_eq_some_iff.mp ran
  obtain ⟨type, hasType, ran⟩ := Option.bind_eq_some_iff.mp ran
  have added (absent : type.coexist.marked = true → some row.effect.type ∉ fighter.types tables)
      (ran : realAddStatus tables fighter statusid lvl = some (after, yes)) : after = fighter ∨
      (∃ row type, tables.tbStatus statusid = some row ∧ tables.tbStatusType row.effect.type = some type ∧
        fighter.status.length < MAX_STATUS_QUEUE_NUM ∧
        (type.coexist.marked = true → some row.effect.type ∉ fighter.types tables) ∧
        after = fighter.bear row type.coexist statusid lvl) := by
    unfold realAddStatus at ran
    split at ran
    · exact .inl (Prod.mk.inj (Option.some.inj ran)).1.symm
    · rename_i room
      rw [hasRow] at ran
      simp only [hasType, Option.bind_eq_bind, Option.bind_some, Option.pure_def] at ran
      exact .inr ⟨row, type, hasRow, hasType, by omega, absent, (Prod.mk.inj (Option.some.inj ran)).1.symm⟩
  have unchanged (ran : some (fighter, false) = some (after, yes)) : after = fighter :=
    (Prod.mk.inj (Option.some.inj ran)).1.symm
  split at ran
  · split at ran
    · obtain ⟨found, looked, ran⟩ := Option.bind_eq_some_iff.mp ran
      cases found with
      | true => exact .inl (unchanged ran)
      | false => exact (added (fun _ there => nomatch (findType_ran looked).mpr there) ran).imp_right .inl
    · obtain ⟨⟨isIn, markPos⟩, looked, ran⟩ := Option.bind_eq_some_iff.mp ran
      obtain ⟨listed, lower⟩ := findLower_ran looked
      cases isIn with
      | false => exact (added (fun _ there => nomatch listed.mpr (.inr there)) ran).imp_right .inl
      | true =>
        cases markPos with
        | none => exact .inl (unchanged ran)
        | some markPos =>
          obtain ⟨j, old, rfl, there, is, below⟩ := lower markPos rfl
          unfold replaceStatus at ran
          rw [hasRow, Nat.zero_add] at ran
          exact .inr (.inr ⟨row, j, old, hasRow, there, is, below, (Prod.mk.inj (Option.some.inj ran)).1.symm⟩)
    · rename_i all
      exact (added (fun marked => by rw [all] at marked; exact nomatch marked) ran).imp_right .inl
    · exact .inl (unchanged ran)
  · exact .inl (unchanged ran)

theorem addStatus_marked {statusid : Nat} {lvl : N} {yes : Bool} (marked : Marked tables fighter)
    (ran : addStatus tables fighter statusid lvl = some (after, yes)) : Marked tables after := by
  rcases addStatus_cases ran with rfl | ⟨row, type, hasRow, hasType, room, absent, rfl⟩ | ⟨row, pos, old, hasRow, there, is, -, rfl⟩
  · exact marked
  · exact marked.bear hasRow hasType room absent lvl
  · exact marked.congr (types_set there ((statusType_new hasRow lvl).trans is.symm)) rfl

/-- What was borne of a type is borne still, or what has taken its place. -/
theorem addStatus_climbs {statusid : Nat} {lvl : N} {yes : Bool}
    (ran : addStatus tables fighter statusid lvl = some (after, yes)) {old : Status N} (member : old ∈ fighter.status) :
    ∃ new ∈ after.status, statusType tables new = statusType tables old ∧ Climbs old.lvl new.lvl := by
  rcases addStatus_cases ran with rfl | ⟨row, type, -, -, -, -, rfl⟩ | ⟨row, pos, there, hasRow, found, is, lower, rfl⟩
  · exact ⟨old, member, rfl, .refl⟩
  · exact ⟨old, List.mem_append_left _ member, rfl, .refl⟩
  · obtain ⟨i, bound, rfl⟩ := List.mem_iff_getElem.mp member
    by_cases here : pos = i
    · subst here
      obtain rfl := Option.some.inj ((List.getElem?_eq_getElem bound).symm.trans found)
      refine ⟨newStatus row statusid lvl, List.mem_set bound _, ?_, .single lower⟩
      exact (statusType_new hasRow lvl).trans is.symm
    · refine ⟨fighter.status[i], List.mem_of_getElem? (i := i) ?_, rfl, .refl⟩
      rw [List.getElem?_set_ne here, List.getElem?_eq_getElem bound]

variable (tables) in
def Adds (before after : Fighter N) : Prop := ∃ statusid lvl yes, addStatus tables before statusid lvl = some (after, yes)

theorem marked_of_adds (adds : ReflTransGen (Adds tables) fighter after) (marked : Marked tables fighter) : Marked tables after := by
  induction adds with
  | refl => exact marked
  | tail _ step ih =>
    obtain ⟨statusid, lvl, yes, ran⟩ := step
    exact addStatus_marked ih ran

theorem rises_of_adds (adds : ReflTransGen (Adds tables) fighter after) (marked : Marked tables fighter) : Rises tables fighter after := by
  intro type upgrades old member is new member' is'
  have climbed : ∃ last ∈ after.status, statusType tables last = statusType tables old ∧ Climbs old.lvl last.lvl := by
    clear member' is'
    induction adds with
    | refl => exact ⟨old, member, rfl, .refl⟩
    | tail _ step ih =>
      obtain ⟨last, there, same, climbs⟩ := ih
      obtain ⟨statusid, lvl, yes, ran⟩ := step
      obtain ⟨next, there', same', climbs'⟩ := addStatus_climbs ran there
      exact ⟨next, there', same'.trans same, climbs.trans climbs'⟩
  obtain ⟨last, there, same, climbs⟩ := climbed
  obtain rfl := (marked_of_adds adds marked).unique upgrades.exclusive member' is' there (same.trans is)
  exact climbs

theorem rises_of_sheds (sheds : ReflTransGen (Sheds tables) fighter after) (marked : Marked tables fighter) :
    Rises tables fighter after := by
  intro type upgrades old member is new member' is'
  obtain ⟨was, there, id, lvl⟩ := older_of_sheds sheds member'
  have same : statusType tables was = some type := by
    rw [statusType, id]
    exact is'
  obtain rfl := marked.unique upgrades.exclusive member is there same
  rw [lvl]
  exact .refl

theorem createStatus_keeps {R : Field N → Prop} (outlives : Outlives (Adds tables) R) {s : Field N} (kept : R s) (camp : Camp)
    (target : Nat) (tbStatusID : List Nat) (lvl : N) : Keeps R (createStatus tables camp target tbStatusID lvl) s := by
  unfold createStatus
  refine holds_run_bind rfl ?_
  split
  · exact holds_pure kept
  · refine keeps_foldlM (fun buff id s' kept => ?_) tbStatusID [] kept
    split
    · exact holds_pure kept
    · refine keeps_fighter_bind kept fun there found => keeps_indexed_bind kept fun added ran => ?_
      refine holds_run_bind rfl (holds_pure (outlives s' camp target _ kept fun there' found' => ?_))
      obtain rfl := Option.some.inj (found.symm.trans found')
      exact ⟨id, lvl, added.2, ran⟩

/-! ### Runs -/

/-- The calls that write to the list and the marks of whoever stands at a position. `replaceStatus` is one of the
things that `addStatus` comes to. -/
inductive StatusCall (N : Type) where
  | addStatus (camp : Camp) (pos statusid : Nat) (skill_lvl : N)
  | createStatus (targetCamp : Camp) (target : Nat) (tbStatusID : List Nat) (skill_lvl : N)
  | removeStatus (camp : Camp) (pos place : Nat)
  | desStatusTime (camp : Camp) (idx : Option Nat) (owner : Nat) (times : Option Int) (place : Nat)
  | eraseStatus (targetCamp : Camp) (target : Nat) (dis : Int × Int)
  | updateCond

def addAt (tables : Tables N) (camp : Camp) (pos statusid : Nat) (skill_lvl : N) : Play N Bool := do
  let there ← Play.fighter camp pos
  let added ← Play.indexed (addStatus tables there statusid skill_lvl)
  Play.modifyFighter camp pos fun _ => added.1
  return added.2

def StatusCall.run (tables : Tables N) : StatusCall N → Battle N Unit
  | .addStatus camp pos statusid skill_lvl => do let _ ← Battle.play (addAt tables camp pos statusid skill_lvl)
  | .createStatus targetCamp target tbStatusID skill_lvl => do
    let _ ← Battle.play (Fight.createStatus tables targetCamp target tbStatusID skill_lvl)
  | .removeStatus camp pos place => do let _ ← Battle.play (removeAt tables camp pos place)
  | .desStatusTime camp idx owner times place => do let _ ← Battle.play (Fight.desStatusTime tables camp idx owner times place)
  | .eraseStatus targetCamp target dis => do let _ ← Battle.play (Fight.eraseStatus tables targetCamp target dis)
  | .updateCond => Fight.updateCond tables

/-- An error ends the run. -/
def runCalls (tables : Tables N) (calls : List (StatusCall N)) (fight : FightManager N) : FightManager N :=
  (calls.forM (StatusCall.run tables) fight).state

def StatusCall.step (tables : Tables N) : StatusCall N → Fighter N → Fighter N → Prop
  | .addStatus .. | .createStatus .. => Adds tables
  | _ => Sheds tables

theorem call_keeps {R : Field N → Prop} {call : StatusCall N} (outlives : Outlives (call.step tables) R) {fight : FightManager N}
    (kept : R fight.field) : Keeps (fun fight => R fight.field) (call.run tables) fight := by
  cases call with
  | addStatus camp pos statusid skill_lvl =>
    refine keeps_play_bind ?_ fun _ _ kept => holds_pure kept
    refine keeps_fighter_bind kept fun there found => keeps_indexed_bind kept fun added ran => ?_
    refine holds_run_bind rfl (holds_pure (outlives _ camp pos _ kept fun there' found' => ?_))
    obtain rfl := Option.some.inj (found.symm.trans found')
    exact ⟨statusid, skill_lvl, added.2, ran⟩
  | createStatus targetCamp target tbStatusID skill_lvl =>
    exact keeps_play_bind (createStatus_keeps outlives kept targetCamp target tbStatusID skill_lvl) fun _ _ kept => holds_pure kept
  | removeStatus camp pos place => exact keeps_play_bind (removeAt_keeps outlives kept camp pos place) fun _ _ kept => holds_pure kept
  | desStatusTime camp idx owner times place =>
    exact keeps_play_bind (desStatusTime_keeps outlives kept camp idx owner times place) fun _ _ kept => holds_pure kept
  | eraseStatus targetCamp target dis =>
    exact keeps_play_bind (eraseStatus_keeps outlives kept targetCamp target dis) fun _ _ kept => holds_pure kept
  | updateCond => exact updateCond_keeps outlives kept

/-- The statuses and marks are those that `initStatus` gave to a fighter without any. -/
def Initialised (tables : Tables N) (fighter : Fighter N) : Prop :=
  ∃ templete tbStatusID inited, templete.status = [] ∧ templete.statusMark = (fun _ => false) ∧
    initStatus tables templete tbStatusID = some inited ∧ fighter.status = inited.status ∧ fighter.statusMark = inited.statusMark

theorem Initialised.marked (initialised : Initialised tables fighter) : Marked tables fighter := by
  obtain ⟨templete, tbStatusID, inited, none', unmarked, ran, status, mark⟩ := initialised
  have bare : Marked tables templete := by
    refine ⟨?_, fun type _ => ?_, fun type _ => ?_⟩
    · rw [none']
      exact Nat.zero_le _
    · rw [Fighter.types, none']
      exact Nat.zero_le _
    · rw [Fighter.types, none', unmarked]
      exact ⟨nofun, nofun⟩
  have marked : Marked tables inited := by
    refine foldlM_ran (fun _ => Marked tables) (fun id rest acc next marked added => ?_) bare ran
    obtain ⟨⟨after, yes⟩, ran, rfl⟩ := Option.map_eq_some_iff.mp added
    exact addStatus_marked marked ran
  exact marked.congr (congrArg (List.map _) status) mark

variable {fight : FightManager N}
    (initialised : ∀ camp pos fighter, (fight.field.fighters camp).fighterAt pos = some fighter → Initialised tables fighter)
include initialised

theorem runCalls_marked (calls : List (StatusCall N)) {camp : Camp} {pos : Nat}
    (there : ((runCalls tables calls fight).field.fighters camp).fighterAt pos = some fighter) : Marked tables fighter := by
  have outlives (call : StatusCall N) : Outlives (call.step tables)
      fun field => ∀ camp pos fighter, (field.fighters camp).fighterAt pos = some fighter → Marked tables fighter := by
    intro field camp pos f marked step camp' pos' fighter there
    obtain ⟨was, found, went⟩ := outlives_each field field camp pos f (each_refl field) step camp' pos' fighter there
    have before := marked camp' pos' was found
    cases call with
    | addStatus | createStatus => exact marked_of_adds went before
    | _ => exact marked_of_sheds went before
  have kept := (keeps_forM (fun call fight kept => call_keeps (outlives call) kept) calls
    fun camp pos fighter there => (initialised camp pos fighter there).marked).state
  exact kept camp pos fighter there

/-- However statuses come and go, the list and the marks of a fighter agree, and a status of a type that upgrades
gives way to none of a lower level. -/
theorem status_marks_agree (calls : List (StatusCall N)) (call : StatusCall N) (camp : Camp) (pos : Nat)
    (there : ((runCalls tables calls fight).field.fighters camp).fighterAt pos = some fighter) :
    Marked tables fighter ∧ ∀ next, ((runCalls tables (calls ++ [call]) fight).field.fighters camp).fighterAt pos = some next →
      Rises tables fighter next := by
  have marked := runCalls_marked initialised calls there
  refine ⟨marked, fun next there' => ?_⟩
  have rises (went : ReflTransGen (call.step tables) fighter next) : Rises tables fighter next := by
    cases call with
    | addStatus | createStatus => exact rises_of_adds went marked
    | _ => exact rises_of_sheds went marked
  have appended : (calls ++ [call]).forM (StatusCall.run tables) =
      (calls.forM (StatusCall.run tables) >>= fun _ => [call].forM (StatusCall.run tables)) := List.forM_append
  unfold runCalls at there there'
  rw [appended] at there'
  rcases ran : calls.forM (StatusCall.run tables) fight with ⟨points, state, reason | result⟩
  · rw [run_bind_error ran] at there'
    rw [ran] at there
    exact rises (Option.some.inj (there.symm.trans there') ▸ .refl)
  · rw [run_bind_ok ran] at there'
    rw [ran] at there
    have kept : Keeps (fun fight : FightManager N => Each (call.step tables) state.field fight.field)
        ([call].forM (StatusCall.run tables)) state :=
      keeps_bind (call_keeps (outlives_each state.field) (each_refl state.field)) fun _ _ kept => holds_pure kept
    obtain ⟨was, found, went⟩ := kept.state camp pos next there'
    exact rises (Option.some.inj (found.symm.trans there) ▸ went)

end

/-- Two statuses of a type that upgrades. -/
def wardTables : Tables Exact where
  tbMonsterBox _ := none
  tbMonster _ := none
  tbSkill _ := none
  tbSkillResult _ := none
  tbStatus id :=
    if id = 1 ∨ id = 2 then
      some { effect := .immunity, targetactive := .all, triggercondition := none, duration := 2, effectivetimes := 0 }
    else none
  tbStatusType _ := some ⟨.up, 0, 0⟩
  tbCharacter _ := none

def warden : Info Exact where
  level := some (num 1)
  hp := some (num 5)
  atk := some (num 1)
  defense := some (num 1)
  reducehurt := num 0
  penetrationlevel := num 0
  critlevel := num 0
  tenacitylevel := num 0
  hitlevel := num 0
  dodgelevel := num 0
  cost := none
  skill := none
  skill_lvl := none
  statusid := some [1]
  normalattack _ := 1

/-- A creature that came with the first of the statuses. -/
def wardFight : FightManager Exact :=
  let summon := initStatus wardTables (template warden 1 .summon) warden.statusid
  createManager (Side.empty.setPost 1 (summon.map fun fighter => ⟨fighter, []⟩)) .empty 1

theorem status_marks_agree_raised : ∃ fighter,
    ((runCalls wardTables [.updateCond, .addStatus .me 1 2 (num 3)] wardFight).field.fighters .me).fighterAt 1 = some fighter ∧
    fighter.status.map Status.id = [2] ∧ Marked wardTables fighter := by
  have initialised (camp : Camp) (pos : Nat) (fighter : Fighter Exact)
      (there : (wardFight.field.fighters camp).fighterAt pos = some fighter) : Initialised wardTables fighter := by
    cases camp with
    | obs => cases there
    | me =>
      have placed : (Function.update (fun _ => none) 1 ((initStatus wardTables (template warden 1 .summon) warden.statusid).map
          fun fighter => (⟨fighter, []⟩ : Post Exact)) pos).map Post.fighter = some fighter := there
      by_cases first : pos = 1
      · rw [first, Function.update_self, Option.map_map] at placed
        obtain ⟨inited, ran, rfl⟩ := Option.map_eq_some_iff.mp placed
        exact ⟨_, _, inited, rfl, rfl, ran, rfl, rfl⟩
      · rw [Function.update_of_ne first] at placed
        cases placed
  have held : (((runCalls wardTables [.updateCond, .addStatus .me 1 2 (num 3)] wardFight).field.fighters .me).fighterAt 1).any
      fun fighter => fighter.status.map Status.id = [2] := by decide +kernel
  obtain ⟨fighter, there, borne⟩ := (Option.any_eq_true ..).mp held
  exact ⟨fighter, there, of_decide_eq_true borne, (status_marks_agree initialised _ .updateCond .me 1 there).1⟩

end Tinygame.Fight
