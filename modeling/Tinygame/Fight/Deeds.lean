import Tinygame.Base.Course
import Tinygame.Fight.StatusMarks
import Mathlib.Data.List.InsertIdx

/-!
# Deeds on statuses

What the fight does to the statuses of its fighters, deed by deed, and what each of the functions behind the deeds comes
to for the lists of statuses.
-/

namespace Tinygame.Fight
open Traced
variable {N : Type}

/-! ### Where statuses stand -/

/-- A status in the list of whoever stands at a position. Places count from 0. -/
structure Mark where
  camp : Camp
  pos : Nat
  place : Nat
deriving DecidableEq

/-- The id of a status and the uses it has left. -/
abbrev Use : Type := Nat × Option Int

def Status.use (status : Status N) : Use := (status.id, status.times)

def Fighter.uses (fighter : Fighter N) : List Use := fighter.status.map Status.use

def Side.uses (side : Side N) (pos : Nat) : Option (List Use × List (List Use)) :=
  (side.posts pos).map fun post => (post.fighter.uses, post.next.map Fighter.uses)

/-- No status has come, gone or worn out. -/
def SameUses (before after : Field N) : Prop := ∀ camp, (after.fighters camp).uses = (before.fighters camp).uses

def Field.statusAt (field : Field N) (mark : Mark) : Option (Status N) :=
  ((field.fighters mark.camp).fighterAt mark.pos).bind fun fighter => fighter.status[mark.place]?

/-- The uses in the list of whoever stands at a position. -/
def Field.front (field : Field N) (camp : Camp) (pos : Nat) : Option (List Use) := ((field.fighters camp).fighterAt pos).map Fighter.uses

def Field.useAt (field : Field N) (mark : Mark) : Option Use := (field.front mark.camp mark.pos).bind fun list => list[mark.place]?

/-! ### Deeds -/

/-- What the fight does that may change a status, with the arguments of the function that does it. -/
inductive Deed (N : Type) where
  | add (camp : Camp) (pos statusid : Nat) (skill_lvl : N)
  | remove (camp : Camp) (idx pos : Nat)
  | active (camp : Camp) (owner statusPos : Nat) (me : Bool)
  | immu (camp : Camp) (idx : Nat)
  | shield (camp : Camp) (idx : Nat) (damage : N)
  | leave (camp : Camp) (pos : Nat)
  | advance (camp : Camp) (pos : Nat)
  | call (camp : Camp) (pos monsterid : Nat)
  | copy (camp : Camp) (pos : Nat) (targetCamp : Camp) (target : Nat)
  | rest (after : Field N)

section
variable [Number N] (tables : Tables N)

/-- The next of the queue takes the position. -/
def advanceAt (camp : Camp) (pos : Nat) : Play N Unit := do
  let there ← side camp
  match (there.posts pos).map Post.next with
  | some (first :: rest) => Play.setPost camp pos (some ⟨first, rest⟩)
  | _ => Traced.stop .error

/-- A creature comes to the position, or to its queue. -/
def callAt (camp : Camp) (pos monsterid : Nat) : Play N Unit := do
  let there ← side camp
  let summon ← Play.indexed (initSummon tables monsterid)
  match there.posts pos with
  | some post => Play.setPost camp pos (some { post with next := post.next ++ [summon] })
  | none => Play.setPost camp pos (some ⟨summon, []⟩)

def copyAt (camp : Camp) (pos : Nat) (targetCamp : Camp) (target : Nat) : Play N Unit := do
  let theirs ← side targetCamp
  let post ← Play.indexed (theirs.posts target)
  Play.setPost camp pos (some post)

/-- `me`: `condMe` has no position to pass on. -/
def activeAt (camp : Camp) (owner statusPos : Nat) (me : Bool) : Play N Unit := do
  let there ← Play.fighter camp owner
  let status ← Play.indexed there.status[statusPos - 1]?
  let _ ← activeStatus tables camp (if me then none else some owner) owner status statusPos

def Deed.run : Deed N → Play N Unit
  | .add camp pos statusid skill_lvl => do let _ ← addAt tables camp pos statusid skill_lvl
  | .remove camp idx pos => do let _ ← removeAt tables camp idx pos
  | .active camp owner statusPos me => activeAt tables camp owner statusPos me
  | .immu camp idx => do let _ ← condImmu tables camp idx
  | .shield camp idx damage => do let _ ← condShield tables camp idx damage
  | .leave camp pos => Play.setPost camp pos none
  | .advance camp pos => advanceAt camp pos
  | .call camp pos monsterid => callAt tables camp pos monsterid
  | .copy camp pos targetCamp target => copyAt camp pos targetCamp target
  | .rest after => Traced.modify fun _ => after

/-! ### What takes effect -/

/-- The last status of the type, at which the loops from the end stop. -/
def lastOf (type : StatusType) (list : List (Status N)) : Option Nat :=
  (list.reverse.findIdx? fun status => statusType tables status = some type).map fun i => list.length - 1 - i

/-- The status of the type that a hit on the fighter meets. -/
def Field.ward (field : Field N) (type : StatusType) (camp : Camp) (idx : Nat) : List Mark :=
  match (field.fighters camp).fighterAt idx with
  | none => []
  | some fighter =>
    if fighter.statusMark type ∧ findType tables type fighter.status.reverse = some true then
      (lastOf tables type fighter.status).toList.map fun place => ⟨camp, idx, place⟩
    else []

/-- The status that takes effect. -/
def Deed.strikes (field : Field N) (deed : Deed N) : List Mark :=
  match deed with
  | .active camp owner statusPos me =>
    if (activeAt tables camp owner statusPos me field).result.isOk then [⟨camp, owner, statusPos - 1⟩] else []
  | .immu camp idx => field.ward tables .immunity camp idx
  | .shield camp idx damage =>
    if (condShield tables camp idx damage field).result.isOk then field.ward tables .shield camp idx else []
  | _ => []

def Deed.takesEffect : Deed N → Bool
  | .active .. | .immu .. | .shield .. => true
  | _ => false

/-- A hit that an immunity absorbs is absorbed by one without end. -/
def Mild (field : Field N) (camp : Camp) (idx : Nat) : Prop :=
  ∀ mark ∈ field.ward tables .immunity camp idx, ∀ status, field.statusAt mark = some status → status.times = none

def Deed.allowed (field : Field N) : Deed N → Prop
  | .rest after => SameUses field after
  | .immu camp idx => Mild tables field camp idx
  | _ => True

/-- What a skill or a status is about to make take effect. The skills that draw a hit are those that hurt. -/
def announces : Act N → Field N → List Mark
  | .active camp _ owner statusPos, _ => [⟨camp, owner, statusPos - 1⟩]
  | .shield camp idx, field => field.ward tables .shield camp idx
  | .strike _ _ _ targetCamp target effect, field => if effect.drawsBingo then field.ward tables .immunity targetCamp target else []
  | _, _ => []

/-- What is hit is not immune, or so for ever. -/
def MildAct : Act N → Field N → Prop
  | .strike _ _ _ targetCamp target effect, field => effect.drawsBingo = true → Mild tables field targetCamp target
  | _, _ => True

def deedScene : Scene (Act N) (Field N) (Stop N) (Deed N) Mark (Act N) (Field N) where
  act := Deed.run tables
  does := Deed.strikes tables
  allowed := Deed.allowed tables
  view field := field
  announces := announces tables
  careful := MildAct tables

end

/-! ### Lists -/

section
variable {s s' : Field N} {camp : Camp} {pos : Nat}

theorem Field.front_eq_some {list : List Use} :
    s.front camp pos = some list ↔ ∃ fighter, (s.fighters camp).fighterAt pos = some fighter ∧ fighter.uses = list :=
  Option.map_eq_some_iff

theorem Field.useAt_eq_some {mark : Mark} {use : Use} :
    s.useAt mark = some use ↔ ∃ list, s.front mark.camp mark.pos = some list ∧ list[mark.place]? = some use :=
  Option.bind_eq_some_iff

theorem SameUses.refl (field : Field N) : SameUses field field := fun _ => rfl

theorem SameUses.trans {first second third : Field N} (here : SameUses first second) (there : SameUses second third) :
    SameUses first third :=
  fun camp => (there camp).trans (here camp)

theorem SameUses.of_fighters (same : s'.fighters = s.fighters) : SameUses s s' := fun camp => by rw [same]

theorem SameUses.front (same : SameUses s s') (camp : Camp) (pos : Nat) : s'.front camp pos = s.front camp pos := by
  have list := congrArg (Option.map Prod.fst) (congrFun (same camp) pos)
  unfold Side.uses at list
  rw [Option.map_map, Option.map_map] at list
  unfold Field.front Side.fighterAt
  rw [Option.map_map, Option.map_map]
  exact list

theorem SameUses.useAt (same : SameUses s s') (mark : Mark) : s'.useAt mark = s.useAt mark := by
  unfold Field.useAt
  rw [same.front]

/-- Only the list of whoever stands at the position changes. -/
structure Turned (before : Field N) (camp : Camp) (pos : Nat) (list : Option (List Use)) (after : Field N) : Prop where
  here : after.front camp pos = list
  elsewhere : ∀ camp' pos', ¬(camp' = camp ∧ pos' = pos) → after.front camp' pos' = before.front camp' pos'

theorem Turned.of_same {before after : Field N} (same : SameUses before after) : Turned before camp pos (before.front camp pos) after :=
  ⟨same.front camp pos, fun _ _ _ => same.front ..⟩

theorem Turned.then_same {before after : Field N} {list : Option (List Use)} (turned : Turned before camp pos list s)
    (same : SameUses s after) : Turned before camp pos list after :=
  ⟨(same.front ..).trans turned.here, fun _ _ apart => (same.front ..).trans (turned.elsewhere _ _ apart)⟩

theorem turned_setSide {side : Side N} (elsewhere : ∀ other, other ≠ pos → side.fighterAt other = (s.fighters camp).fighterAt other) :
    Turned s camp pos ((side.fighterAt pos).map Fighter.uses) (s.setSide camp side) := by
  refine ⟨?_, fun camp' pos' apart => ?_⟩
  · unfold Field.front
    rw [Field.setSide_self]
  · unfold Field.front
    by_cases same : camp' = camp
    · subst same
      rw [Field.setSide_self, elsewhere pos' fun same => apart ⟨rfl, same⟩]
    · rw [Field.setSide_ne _ _ same]

theorem turned_modifyFighter (s : Field N) (camp : Camp) (pos : Nat) (f : Fighter N → Fighter N) :
    Turned s camp pos (((s.fighters camp).fighterAt pos).map fun there => (f there).uses)
      (s.setSide camp ((s.fighters camp).modifyFighter pos f)) := by
  have turned : Turned s camp pos _ (s.setSide camp ((s.fighters camp).modifyFighter pos f)) := turned_setSide fun other apart => by
    rw [Side.fighterAt_modifyFighter, if_neg apart]
  rw [Side.fighterAt_modifyFighter, if_pos rfl, Option.map_map] at turned
  exact turned

theorem turned_setPost (s : Field N) (camp : Camp) (pos : Nat) (post : Option (Post N)) :
    Turned s camp pos (post.map fun post => post.fighter.uses) (s.setSide camp ((s.fighters camp).setPost pos post)) := by
  have turned : Turned s camp pos _ (s.setSide camp ((s.fighters camp).setPost pos post)) := turned_setSide fun other apart => by
    unfold Side.fighterAt
    rw [Side.setPost_posts_ne _ _ apart]
  unfold Side.fighterAt at turned
  rw [Side.setPost_posts_self, Option.map_map] at turned
  exact turned

theorem Side.Alike.uses {before after : Side N} (alike : before.Alike after) : after.uses = before.uses := by
  funext pos
  have lists := congrFun alike.lists pos
  unfold Side.lists Side.fighterAt at lists
  rw [Option.map_map, Option.map_map] at lists
  unfold Side.uses
  cases there : after.posts pos with
  | none =>
    rw [there] at lists
    rw [Option.map_eq_none_iff.mp lists.symm]
  | some post =>
    obtain ⟨was, here, -, next⟩ := Side.post_of_frame alike.frame there
    rw [there, here] at lists
    have status : post.fighter.status = was.fighter.status := Option.some.inj lists
    rw [here, Option.map_some, Option.map_some, next]
    exact congrArg (fun list => some (list.map Status.use, was.next.map Fighter.uses)) status

theorem sameUses_setSide {side : Side N} (same : side.uses = (s.fighters camp).uses) : SameUses s (s.setSide camp side) := by
  intro other
  by_cases here : other = camp
  · subst here
    rw [Field.setSide_self]
    exact same
  · rw [Field.setSide_ne _ _ here]

end

/-! ### Wearing out -/

/-- What taking effect comes to for the list of the status. -/
inductive Worn (list : List Use) (place : Nat) : List Use → Prop where
  | lasts (id : Nat) : list[place]? = some (id, none) → Worn list place list
  | less (id : Nat) (left : Int) : list[place]? = some (id, some left) → 1 < left → Worn list place (list.set place (id, some (left - 1)))
  | gone (id : Nat) (left : Int) : list[place]? = some (id, some left) → left ≤ 1 → Worn list place (list.eraseIdx place)

section
variable {s : Field N} {camp : Camp}

theorem uses_eraseIdx (fighter : Fighter N) (place : Nat) :
    (fighter.status.eraseIdx place).map Status.use = fighter.uses.eraseIdx place :=
  (List.eraseIdx_map ..).symm

theorem uses_setTimes {fighter : Fighter N} {pos : Nat} {status : Status N} (listed : fighter.status[pos - 1]? = some status) (left : Int) :
    (setTimes left pos fighter).uses = fighter.uses.set (pos - 1) (status.id, some left) := by
  show (fighter.status.modify _ _).map Status.use = (fighter.status.map Status.use).set _ _
  refine List.ext_getElem? fun place => ?_
  rw [List.getElem?_map, List.getElem?_modify, List.getElem?_set, List.length_map, List.getElem?_map]
  by_cases here : pos - 1 = place
  · subst here
    have inside := (List.getElem?_eq_some_iff.mp listed).1
    rw [if_pos rfl, if_pos inside, listed, Option.map_eq_map, Option.map_some, if_pos rfl]
    rfl
  · rw [if_neg here]
    cases fighter.status[place]? with
    | none => rfl
    | some other => simp [here]

variable {tables : Tables N}

variable (tables) in
theorem removeAt_turns (s : Field N) (camp : Camp) (idx pos : Nat) :
    Holds (silent (· = s)) (removeAt tables camp idx pos) s fun _ s' => ∃ list, s.front camp idx = some list ∧
      pos - 1 < list.length ∧ Turned s camp idx (some (list.eraseIdx (pos - 1))) s' := by
  unfold removeAt
  refine holds_bind (holds_fighter_found camp idx rfl) ?_
  rintro there _ ⟨rfl, found⟩
  refine holds_bind (holds_indexed_found _ rfl) ?_
  rintro removed s ⟨rfl, ran⟩
  obtain ⟨status, row, type, listed, -, -, after⟩ := removeStatus_cases ran
  refine holds_modify_bind (holds_pure ⟨there.uses, Field.front_eq_some.mpr ⟨there, found, rfl⟩, ?_, ?_⟩)
  · show pos - 1 < (there.status.map Status.use).length
    rw [List.length_map]
    exact (List.getElem?_eq_some_iff.mp listed).1
  · have turned := turned_modifyFighter s camp idx fun _ => removed.1
    have list : removed.1.uses = there.uses.eraseIdx (pos - 1) := by
      rw [after]
      exact uses_eraseIdx there _
    rw [found, Option.map_some, list] at turned
    exact turned

/-- A status without a position to be removed from is not used up. -/
theorem desStatusTime_worn (camp : Camp) {idx : Option Nat} {owner pos : Nat} {there : Fighter N} {status : Status N}
    (found : (s.fighters camp).fighterAt owner = some there) (listed : there.status[pos - 1]? = some status)
    (named : ∀ other, idx = some other → other = owner) :
    Holds (silent (· = s)) (desStatusTime tables camp idx owner status.times pos) s fun _ s' =>
      ∃ list, Worn there.uses (pos - 1) list ∧ Turned s camp owner (some list) s' := by
  have here : there.uses[pos - 1]? = some (status.id, status.times) := by
    unfold Fighter.uses
    rw [List.getElem?_map, listed]
    rfl
  have front : s.front camp owner = some there.uses := Field.front_eq_some.mpr ⟨there, found, rfl⟩
  unfold desStatusTime
  cases times : status.times with
  | none =>
    rw [times] at here
    exact holds_pure ⟨there.uses, .lasts _ here, front ▸ Turned.of_same (.refl s)⟩
  | some left =>
    rw [times] at here
    dsimp only
    split
    · refine holds_bind (holds_indexed_found idx rfl) ?_
      rintro at' s ⟨rfl, same⟩
      obtain rfl := named at' same
      refine holds_bind (removeAt_turns tables s camp at' pos) ?_
      rintro id s' ⟨list, front', -, turned⟩
      obtain rfl := Option.some.inj (front.symm.trans front')
      exact holds_pure ⟨_, .gone _ left here (by omega), turned⟩
    · have turned := turned_modifyFighter s camp owner (setTimes (left - 1) pos)
      rw [found, Option.map_some, uses_setTimes listed] at turned
      exact holds_modify_bind (holds_pure ⟨_, .less _ left here (by omega), turned⟩)

/-- Neither raising nor lowering an attribute changes a use. -/
theorem alterAttribute_same (before : Field N) (camp : Camp) (idx : Option Nat) {alter : Nat → Fighter N → Side N → Side N}
    (alike : ∀ pos there (side : Side N), side.Alike (alter pos there side)) (op : Nat → Fighter N → Side N → Fighter N → BuffOp N) :
    Preserves (silent (SameUses before)) (SameUses before) (alterAttribute camp idx alter op) fun _ => True := by
  intro s kept
  unfold alterAttribute
  refine holds_bind (holds_indexed_found idx kept) ?_
  rintro pos _ ⟨rfl, -⟩
  refine holds_bind (holds_fighter_found camp pos kept) ?_
  rintro there s ⟨rfl, -⟩
  have kept' := kept.trans (sameUses_setSide (alike pos there (s.fighters camp)).uses)
  refine holds_side_bind (holds_modify_bind (holds_bind (holds_fighter_found camp pos kept') ?_))
  rintro after _ ⟨rfl, -⟩
  exact holds_pure ⟨trivial, kept'⟩

variable [Number N]

section
variable (before : Field N) (camp : Camp) (idx : Option Nat) (lvl : N) (op : BuffOp N) (entry : Attribute × Option N)

theorem addAttribute_same : Preserves (silent (SameUses before)) (SameUses before) (addAttribute camp idx lvl op entry) fun _ => True := by
  obtain ⟨attr, value⟩ := entry
  cases value with
  | none => exact preserves_pure trivial
  | some value =>
    rw [addAttribute_some]
    exact alterAttribute_same before camp idx (fun pos there side => raise_alike attr (value * lvl) pos there side) _

theorem reduceAttribute_same :
    Preserves (silent (SameUses before)) (SameUses before) (reduceAttribute camp idx lvl op entry) fun _ => True := by
  obtain ⟨attr, value⟩ := entry
  cases value with
  | none => exact preserves_pure trivial
  | some value =>
    rw [reduceAttribute_some]
    exact alterAttribute_same before camp idx (fun pos there side => lower_alike attr (value * lvl) pos there side) _

end

omit [Number N] in
theorem addSkillQueue_same (before : Field N) (cost : Option Int) (camp : Camp) (idx id : Option Nat) :
    Preserves (silent (SameUses before)) (SameUses before) (addSkillQueue cost camp idx id) fun _ => True := by
  intro s kept
  refine holds_bind (holds_indexed_found idx kept) ?_
  rintro pos _ ⟨rfl, -⟩
  refine holds_bind (holds_fighter_found camp pos kept) ?_
  rintro there _ ⟨rfl, -⟩
  exact holds_modify ⟨trivial, kept.trans (.of_fighters rfl)⟩

variable (tables) in
/-- A status takes effect: it is worn by one use, unless an error comes first. -/
theorem activeStatus_worn (camp : Camp) {idx : Option Nat} {owner pos : Nat} {there : Fighter N} {status : Status N}
    (found : (s.fighters camp).fighterAt owner = some there) (listed : there.status[pos - 1]? = some status)
    (named : ∀ other, idx = some other → other = owner) :
    ∃ rest : Play N (BuffOp N), (activeStatus tables camp idx owner status pos = do Traced.mark (.active camp idx owner pos); rest) ∧
      Holds (silent fun s' => ∃ list, (Worn there.uses (pos - 1) list ∨ list = there.uses) ∧ Turned s camp owner (some list) s') rest s
        fun _ s' => ∃ list, Worn there.uses (pos - 1) list ∧ Turned s camp owner (some list) s' := by
  have front : s.front camp owner = some there.uses := Field.front_eq_some.mpr ⟨there, found, rfl⟩
  have still : Turned s camp owner (some there.uses) s := front ▸ Turned.of_same (.refl s)
  refine ⟨_, rfl, ?_⟩
  refine holds_bind (holds_indexed_found _ ⟨_, .inr rfl, still⟩) ?_
  rintro row s ⟨rfl, -⟩
  refine holds_bind (holds_of_silent (desStatusTime_worn camp found listed named) fun _ _ same => ⟨_, .inr rfl, same ▸ still⟩) ?_
  rintro dis s' ⟨list, worn, turned⟩
  have effects {m : Play N (BuffOp N)} (same : Preserves (silent (SameUses s')) (SameUses s') m fun _ => True) :
      Holds (silent fun s' => ∃ list, (Worn there.uses (pos - 1) list ∨ list = there.uses) ∧ Turned s camp owner (some list) s') m s'
        fun _ s' => ∃ list, Worn there.uses (pos - 1) list ∧ Turned s camp owner (some list) s' := by
    have holds : Holds (silent (SameUses s')) m s' fun _ s'' => ∃ list, Worn there.uses (pos - 1) list ∧
      Turned s camp owner (some list) s'' :=
      (same s' (.refl s')).mono fun _ _ kept => ⟨list, worn, turned.then_same kept.2⟩
    exact holds_of_silent holds fun _ _ kept => ⟨list, .inl worn, turned.then_same kept⟩
  dsimp only
  split
  · exact effects (preserves_foldlM (fun op entry _ => addAttribute_same s' camp idx _ op entry) _ trivial)
  · exact effects (preserves_foldlM (fun op entry _ => reduceAttribute_same s' camp idx _ op entry) _ trivial)
  · exact effects (preserves_bind (addSkillQueue_same s' none camp idx _) fun _ _ => preserves_pure trivial)
  · exact effects (preserves_pure trivial)

end

end Tinygame.Fight
