import Tinygame.Fight.Deeds

/-!
# The uses of a status

A status is followed from the list it stands in through the deeds of a fight, and its uses are counted. Where no hit is
absorbed by an immunity of limited uses, what is left of its uses and what it has had do not exceed what it was given.
-/

namespace Tinygame.Fight
open Traced
variable {N : Type}

section
variable [Number N] (tables : Tables N)

/-! ### A status that is followed -/

/-- The place of the status that one of a higher level takes the place of. -/
def outgrown (fighter : Fighter N) (statusid : Nat) (skill_lvl : N) : Option Nat := do
  let row ← tables.tbStatus statusid
  let type ← tables.tbStatusType row.effect.type
  if (row.targetactive = .all ∨ row.targetactive = .only fighter.type) ∧ type.coexist = .up then
    let found ← findLower tables row.effect.type skill_lvl 0 false fighter.status
    found.2
  else none

/-- The list of the position has lost what was at the place. -/
def shorter (before after : Field N) (camp : Camp) (pos : Nat) : Bool :=
  decide (((after.front camp pos).getD []).length < ((before.front camp pos).getD []).length)

/-- Where the status is when what was at another place has been removed. -/
def Mark.without (mark : Mark) (place : Nat) : Option Mark :=
  if mark.place = place then none
  else some { mark with place := if place < mark.place then mark.place - 1 else mark.place }

/-- Where the status is after the deed, if it is in a list. -/
def Deed.follow (field : Field N) (deed : Deed N) (mark : Mark) : Option Mark :=
  let ran := deed.run tables field
  match deed with
  | .remove camp pos place | .active camp pos place _ =>
    if mark.camp = camp ∧ mark.pos = pos ∧ shorter field ran.state camp pos then mark.without (place - 1) else some mark
  | .add camp pos statusid skill_lvl =>
    if mark.camp = camp ∧ mark.pos = pos ∧ (((field.fighters camp).fighterAt pos).bind fun there =>
      outgrown tables there statusid skill_lvl) = some mark.place then none else some mark
  | .leave camp pos | .advance camp pos | .copy camp pos _ _ =>
    if mark.camp = camp ∧ mark.pos = pos ∧ ran.result.isOk then none else some mark
  | _ => some mark

/-- A course of deeds with a status that is followed, and how often it has taken effect. -/
structure Followed (N : Type) where
  course : Course (Field N) Mark
  mark : Option Mark
  uses : Nat

def Followed.step (followed : Followed N) (deed : Deed N) : Followed N where
  course := (deedScene tables).step followed.course deed
  mark := if followed.course.ended then followed.mark else followed.mark.bind (deed.follow tables followed.course.state)
  uses :=
    if followed.course.ended then followed.uses
    else followed.uses + (followed.mark.map fun mark => (deed.strikes tables followed.course.state).count mark).getD 0

end

/-! ### What a deed comes to -/

/-- What is left after some uses. Where they are limited it is one at least. -/
inductive Spends : Option Int → Nat → Option Int → Prop where
  | endless (uses : Nat) : Spends none uses none
  | limited {times left : Int} {uses : Nat} : 0 < left → left + uses ≤ times → Spends (some times) uses (some left)

theorem Spends.trans {times left last : Option Int} {uses more : Nat} (first : Spends times uses left) (second : Spends left more last) :
    Spends times (uses + more) last := by
  cases first with
  | endless => cases second with | endless => exact .endless _
  | limited _ within =>
    cases second with
    | limited some' within' => exact .limited some' (by omega)

/-- A use is left, or there is no end of them. -/
abbrev Lively (times : Option Int) : Prop := Spends times 0 times

theorem Spends.lively {times left : Option Int} {uses : Nat} (spends : Spends times uses left) : Lively left := by
  cases spends with
  | endless => exact .endless _
  | limited some' _ => exact .limited some' (by simp)

section
variable {s after : Field N} {camp : Camp} {pos : Nat} {mark mark' : Mark} {id : Nat} {times : Option Int}

theorem Field.useAt_statusAt (s : Field N) (mark : Mark) : s.useAt mark = (s.statusAt mark).map Status.use := by
  unfold Field.useAt Field.front Field.statusAt Fighter.uses
  cases (s.fighters mark.camp).fighterAt mark.pos with
  | none => rfl
  | some fighter => exact List.getElem?_map ..

theorem Turned.useAt_ne {list : Option (List Use)} (turned : Turned s camp pos list after)
    (apart : ¬(mark.camp = camp ∧ mark.pos = pos)) : after.useAt mark = s.useAt mark := by
  unfold Field.useAt
  rw [turned.elsewhere _ _ apart]

theorem shorter_eq {list list' : List Use} (before : s.front camp pos = some list) (after' : after.front camp pos = some list') :
    shorter s after camp pos = decide (list'.length < list.length) := by
  unfold shorter
  rw [before, after']
  rfl

theorem shorter_self (s : Field N) (camp : Camp) (pos : Nat) : shorter s s camp pos = false := decide_eq_false (Nat.lt_irrefl _)

/-- The status is where it is looked for after the other has been removed. -/
theorem without_use {list : List Use} {use : Use} (here : list[mark.place]? = some use) {place : Nat}
    (moved : mark.without place = some mark') :
    mark'.camp = mark.camp ∧ mark'.pos = mark.pos ∧ (list.eraseIdx place)[mark'.place]? = some use := by
  unfold Mark.without at moved
  split at moved
  · cases moved
  · rename_i apart
    obtain rfl := Option.some.inj moved
    refine ⟨rfl, rfl, ?_⟩
    show (list.eraseIdx place)[if place < mark.place then mark.place - 1 else mark.place]? = some use
    rw [List.getElem?_eraseIdx]
    by_cases behind : place < mark.place
    · rw [if_pos behind, if_neg (by omega), Nat.sub_add_cancel (by omega)]
      exact here
    · rw [if_neg behind, if_pos (by omega)]
      exact here

/-- The list has lost what was at a place, and with it those behind have moved. -/
theorem left_of_erase {list : List Use} {place : Nat} (front : s.front camp pos = some list) (inside : place < list.length)
    (turned : Turned s camp pos (some (list.eraseIdx place)) after) (here : s.useAt mark = some (id, times))
    (moved : (if mark.camp = camp ∧ mark.pos = pos ∧ shorter s after camp pos then mark.without place else some mark) = some mark') :
    after.useAt mark' = some (id, times) := by
  have short : shorter s after camp pos = true := by
    rw [shorter_eq front turned.here, List.length_eraseIdx_of_lt inside]
    exact decide_eq_true (by omega)
  by_cases there : mark.camp = camp ∧ mark.pos = pos
  · rw [if_pos ⟨there.1, there.2, short⟩] at moved
    obtain ⟨rfl, rfl⟩ := there
    obtain ⟨list', front', here⟩ := Field.useAt_eq_some.mp here
    obtain rfl := Option.some.inj (front.symm.trans front')
    obtain ⟨camp', pos', here⟩ := without_use here moved
    refine Field.useAt_eq_some.mpr ⟨_, ?_, here⟩
    rw [camp', pos']
    exact turned.here
  · rw [if_neg fun all => there ⟨all.1, all.2.1⟩] at moved
    obtain rfl := Option.some.inj moved
    exact (turned.useAt_ne there).trans here

variable [Number N] {tables : Tables N} {deed : Deed N}

variable (tables) in
/-- Where the status is after the deed, its uses are those it had, less the ones that the deed has spent. -/
structure Follows (s : Field N) (deed : Deed N) (mark : Mark) (id : Nat) (times : Option Int) : Prop where
  once : (deed.strikes tables s).count mark ≤ 1
  left : ∀ mark', deed.follow tables s mark = some mark' → ∃ left, (deed.run tables s).state.useAt mark' = some (id, left) ∧
    Spends times ((deed.strikes tables s).count mark) left
  lasts : times = none → deed.takesEffect = true → (deed.follow tables s mark).isSome = true

theorem follows_kept (here : s.useAt mark = some (id, times)) (lively : Lively times) (nothing : (deed.strikes tables s).count mark = 0)
    (same : (deed.run tables s).state.useAt mark = s.useAt mark) (stays : deed.follow tables s mark = some mark) :
    Follows tables s deed mark id times := by
  refine ⟨by omega, fun mark' follow => ?_, fun _ _ => stays ▸ rfl⟩
  obtain rfl := Option.some.inj (stays.symm.trans follow)
  exact ⟨times, same.trans here, nothing.symm ▸ lively⟩

theorem follows_lost (nothing : (deed.strikes tables s).count mark = 0) (goes : deed.follow tables s mark = none)
    (other : deed.takesEffect = false) : Follows tables s deed mark id times := by
  refine ⟨by omega, fun mark' follow => ?_, fun _ effect => ?_⟩
  · cases goes.symm.trans follow
  · cases other.symm.trans effect

/-! ### Removing and taking effect -/

theorem remove_follows (here : s.useAt mark = some (id, times)) (lively : Lively times) (camp : Camp) (idx pos : Nat) :
    Follows tables s (.remove camp idx pos) mark id times := by
  have state : ((Deed.remove camp idx pos).run tables s).state = (removeAt tables camp idx pos s).state := (run_discard _ s).2.1
  rcases ends_of_silent (removeAt_turns tables s camp idx pos) with ⟨_, -, list, front, inside, turned⟩ | ⟨_, -, same⟩
  · refine ⟨Nat.zero_le _, fun mark' moved => ⟨times, ?_, lively⟩, nofun⟩
    rw [state]
    have moved : (if mark.camp = camp ∧ mark.pos = idx ∧ shorter s ((Deed.remove camp idx pos).run tables s).state camp idx then
      mark.without (pos - 1) else some mark) = some mark' := moved
    rw [state] at moved
    exact left_of_erase front inside turned here moved
  · refine follows_kept here lively rfl (by rw [state, same]) ?_
    show (if mark.camp = camp ∧ mark.pos = idx ∧ shorter s ((Deed.remove camp idx pos).run tables s).state camp idx then
      mark.without (pos - 1) else some mark) = some mark
    rw [state, same, shorter_self]
    exact if_neg fun all => nomatch all.2.2

variable (tables) in
/-- The status is worn by one use, or an error leaves it. -/
theorem activeAt_worn (s : Field N) (camp : Camp) (owner statusPos : Nat) (me : Bool) :
    ((activeAt tables camp owner statusPos me s).state = s ∧ (activeAt tables camp owner statusPos me s).result.isOk = false) ∨
      ∃ list list', s.front camp owner = some list ∧
        Turned s camp owner (some list') (activeAt tables camp owner statusPos me s).state ∧
        (Worn list (statusPos - 1) list' ∨ list' = list ∧ (activeAt tables camp owner statusPos me s).result.isOk = false) := by
  have holds : Holds ⟨fun _ _ => True, fun _ _ => True, fun _ s' => s' = s ∨ ∃ list list', s.front camp owner = some list ∧
      Turned s camp owner (some list') s' ∧ (Worn list (statusPos - 1) list' ∨ list' = list)⟩ (activeAt tables camp owner statusPos me) s
      fun _ s' => ∃ list list', s.front camp owner = some list ∧ Turned s camp owner (some list') s' ∧ Worn list (statusPos - 1) list' := by
    unfold activeAt
    refine holds_bind (holds_fighter_found camp owner (.inl rfl)) ?_
    rintro there _ ⟨rfl, found⟩
    refine holds_bind (holds_indexed_found _ (.inl rfl)) ?_
    rintro status s ⟨rfl, listed⟩
    have front : s.front camp owner = some there.uses := Field.front_eq_some.mpr ⟨there, found, rfl⟩
    have named (other : Nat) (same : (if me then none else some owner) = some other) : other = owner := by
      cases me with
      | true => cases same
      | false => exact (Option.some.inj same).symm
    obtain ⟨rest, same, worn⟩ := activeStatus_worn tables camp found listed named
    rw [same]
    refine holds_bind (holds_mark_bind fun _ => ⟨trivial, holds_of_silent worn ?_⟩) ?_
    · rintro _ s' ⟨list, worn, turned⟩
      exact .inr ⟨_, list, front, turned, worn⟩
    · rintro _ s' ⟨list, worn, turned⟩
      exact holds_pure ⟨_, list, front, turned, worn⟩
  obtain ⟨-, ends⟩ := holds fun _ _ => trivial
  split at ends
  · obtain ⟨list, list', front, turned, worn⟩ := ends
    exact .inr ⟨list, list', front, turned, .inl worn⟩
  · rename_i failed
    rw [failed]
    rcases ends with same | ⟨list, list', front, turned, worn⟩
    · exact .inl ⟨same, rfl⟩
    · exact .inr ⟨list, list', front, turned, worn.imp_right fun same => ⟨same, rfl⟩⟩

variable (tables) in
theorem active_strikes (s : Field N) (camp : Camp) (owner statusPos : Nat) (me : Bool) (mark : Mark) :
    ((Deed.active camp owner statusPos me).strikes tables s).count mark ≤ 1 ∧
      ((activeAt tables camp owner statusPos me s).result.isOk = false ∨ mark ≠ ⟨camp, owner, statusPos - 1⟩ →
        ((Deed.active camp owner statusPos me).strikes tables s).count mark = 0) := by
  have strikes : (Deed.active camp owner statusPos me).strikes tables s =
      if (activeAt tables camp owner statusPos me s).result.isOk then [⟨camp, owner, statusPos - 1⟩] else [] := rfl
  rw [strikes]
  split
  · rename_i isOk
    refine ⟨List.count_le_length, fun none' => List.count_eq_zero.mpr fun member => ?_⟩
    have apart := none'.resolve_left fun failed => nomatch isOk.symm.trans failed
    exact apart (List.mem_singleton.mp member)
  · exact ⟨Nat.zero_le _, fun _ => rfl⟩

theorem active_follows (here : s.useAt mark = some (id, times)) (lively : Lively times) (camp : Camp) (owner statusPos : Nat) (me : Bool) :
    Follows tables s (.active camp owner statusPos me) mark id times := by
  obtain ⟨once, nothing⟩ := active_strikes tables s camp owner statusPos me mark
  have follow : (Deed.active camp owner statusPos me).follow tables s mark =
      if mark.camp = camp ∧ mark.pos = owner ∧ shorter s (activeAt tables camp owner statusPos me s).state camp owner then
        mark.without (statusPos - 1) else some mark := rfl
  rcases activeAt_worn tables s camp owner statusPos me with ⟨same, failed⟩ | ⟨list, list', front, turned, worn⟩
  · refine follows_kept here lively (nothing (.inl failed)) (congrArg (Field.useAt · mark) same) ?_
    rw [follow, same, shorter_self]
    exact if_neg fun all => nomatch all.2.2
  by_cases there : mark.camp = camp ∧ mark.pos = owner
  swap
  · refine follows_kept here lively (nothing (.inr fun same => there (same ▸ ⟨rfl, rfl⟩))) (turned.useAt_ne there) ?_
    rw [follow]
    exact if_neg fun all => there ⟨all.1, all.2.1⟩
  have apart (other : mark.place ≠ statusPos - 1) : ((Deed.active camp owner statusPos me).strikes tables s).count mark = 0 :=
    nothing (.inr fun same => other (congrArg Mark.place same))
  obtain ⟨rfl, rfl⟩ := there
  obtain ⟨before, front', here'⟩ := Field.useAt_eq_some.mp here
  obtain rfl := Option.some.inj (front.symm.trans front')
  have long (same : list'.length = list.length) : (Deed.active mark.camp mark.pos statusPos me).follow tables s mark = some mark := by
    rw [follow, shorter_eq front turned.here, same]
    exact if_neg fun all => Nat.lt_irrefl _ (of_decide_eq_true all.2.2)
  have useAt {use : Use} (found : list'[mark.place]? = some use) :
      (activeAt tables mark.camp mark.pos statusPos me s).state.useAt mark = some use :=
    Field.useAt_eq_some.mpr ⟨list', turned.here, found⟩
  rcases worn with worn | ⟨rfl, failed⟩
  swap
  · exact follows_kept here lively (nothing (.inl failed)) ((useAt here').trans here.symm) (long rfl)
  cases worn with
  | lasts id' listed =>
    refine ⟨once, fun mark' moved => ⟨times, ?_⟩, fun _ _ => long rfl ▸ rfl⟩
    obtain rfl := Option.some.inj ((long rfl).symm.trans moved)
    refine ⟨useAt here', ?_⟩
    by_cases place : mark.place = statusPos - 1
    · rw [place, listed] at here'
      obtain ⟨-, rfl⟩ := Prod.mk.inj (Option.some.inj here')
      exact .endless _
    · exact (apart place).symm ▸ lively
  | less id' left listed more =>
    have stays := long List.length_set
    refine ⟨once, fun mark' moved => ?_, fun _ _ => stays ▸ rfl⟩
    obtain rfl := Option.some.inj (stays.symm.trans moved)
    by_cases place : mark.place = statusPos - 1
    · rw [place, listed] at here'
      obtain ⟨rfl, rfl⟩ := Prod.mk.inj (Option.some.inj here')
      refine ⟨some (left - 1), useAt ?_, .limited (by omega) (by omega)⟩
      rw [place]
      exact List.getElem?_set_self (List.getElem?_eq_some_iff.mp listed).1
    · refine ⟨times, useAt ?_, (apart place).symm ▸ lively⟩
      rw [List.getElem?_set_ne (Ne.symm place)]
      exact here'
  | gone id' left listed few =>
    have inside := (List.getElem?_eq_some_iff.mp listed).1
    have short : shorter s (activeAt tables mark.camp mark.pos statusPos me s).state mark.camp mark.pos = true := by
      rw [shorter_eq front turned.here, List.length_eraseIdx_of_lt inside]
      exact decide_eq_true (by omega)
    have goes : (Deed.active mark.camp mark.pos statusPos me).follow tables s mark = mark.without (statusPos - 1) :=
      follow.trans (if_pos ⟨rfl, rfl, short⟩)
    by_cases place : mark.place = statusPos - 1
    · rw [place, listed] at here'
      obtain ⟨-, rfl⟩ := Prod.mk.inj (Option.some.inj here')
      refine ⟨once, fun mark' moved => ?_, nofun⟩
      rw [goes, Mark.without, if_pos place] at moved
      cases moved
    · refine ⟨once, fun mark' moved => ⟨times, ?_, (apart place).symm ▸ lively⟩, fun _ _ => ?_⟩
      · exact left_of_erase front inside turned here (follow.symm.trans moved)
      · rw [goes, Mark.without, if_neg place]
        rfl

/-! ### Hits -/

omit [Number N] in
theorem condImmu_state (s : Field N) (camp : Camp) (idx : Nat) : (condImmu tables camp idx s).state = s := by
  have keeps : Keeps (· = s) (condImmu tables camp idx) s := by
    refine keeps_fighter_bind rfl fun there _ => ?_
    split
    · exact keeps_require rfl
    · exact holds_pure rfl
  exact keeps.state

omit [Number N] in
theorem condShield_state (s : Field N) (camp : Camp) (idx : Nat) (damage : N) : (condShield tables camp idx damage s).state = s := by
  have keeps : Keeps (· = s) (condShield tables camp idx damage) s := by
    refine keeps_mark_bind (keeps_fighter_bind rfl fun there _ => ?_)
    split
    · refine keeps_require_bind rfl fun shielded _ => ?_
      split
      · exact holds_stop rfl
      · exact holds_pure rfl
    · exact holds_pure rfl
  exact keeps.state

variable (tables) in
omit [Number N] in
theorem ward_length (s : Field N) (type : StatusType) (camp : Camp) (idx : Nat) : (s.ward tables type camp idx).length ≤ 1 := by
  unfold Field.ward
  split
  · exact Nat.zero_le _
  · split
    · rw [List.length_map]
      cases lastOf tables type _ <;> simp
    · exact Nat.zero_le _

omit [Number N] in
theorem lastOf_isSome {type : StatusType} {list : List (Status N)} (listed : some type ∈ list.reverse.map (statusType tables)) :
    (lastOf tables type list).isSome = true := by
  obtain ⟨status, member, is⟩ := List.mem_map.mp listed
  unfold lastOf
  rw [Option.isSome_map, List.findIdx?_isSome, List.any_eq_true]
  exact ⟨status, member, decide_eq_true is⟩

omit [Number N] in
/-- The immunity that is met is the one that absorbs the hit. -/
theorem condImmu_ward {camp : Camp} {idx : Nat} {absorbed : Bool} (ran : (condImmu tables camp idx s).result = .ok absorbed) :
    absorbed = true ↔ s.ward tables .immunity camp idx ≠ [] := by
  have holds : Holds ⟨fun _ _ => True, fun _ _ => True, fun _ _ => True⟩ (condImmu tables camp idx) s fun absorbed _ =>
      (absorbed = true ↔ s.ward tables .immunity camp idx ≠ []) := by
    refine holds_bind (holds_fighter_found camp idx trivial) ?_
    rintro there s ⟨rfl, found⟩
    unfold Field.ward
    rw [found]
    dsimp only
    by_cases marked : there.statusMark .immunity = true
    · rw [if_pos marked]
      refine (holds_indexed_found _ trivial).mono fun absorbed s' known => ?_
      rw [known.2]
      cases absorbed with
      | false => simp
      | true =>
        obtain ⟨place, last⟩ := Option.isSome_iff_exists.mp (lastOf_isSome ((findType_ran known.2).mp rfl))
        rw [if_pos ⟨marked, rfl⟩, last]
        simp
    · rw [if_neg marked, if_neg fun both => marked both.1]
      exact holds_pure (by simp)
  obtain ⟨-, ends⟩ := holds fun _ _ => trivial
  rw [ran] at ends
  exact ends

omit [Number N] in
/-- A shield that is hit is an error. -/
theorem ward_shield {s : Field N} {camp : Camp} {idx : Nat} {damage : N} (isOk : (condShield tables camp idx damage s).result.isOk = true) :
    s.ward tables .shield camp idx = [] := by
  unfold Field.ward
  split
  · rfl
  · rename_i there found
    split
    · rename_i shielded
      have holds : Holds ⟨fun _ _ => True, fun _ _ => True, fun _ _ => True⟩ (condShield tables camp idx damage) s fun _ _ => False := by
        refine holds_mark_bind fun _ => ⟨trivial, holds_fighter_bind found ?_⟩
        rw [if_pos shielded.1]
        refine holds_indexed_bind shielded.2 ?_
        rw [if_pos rfl]
        exact holds_stop trivial
      obtain ⟨-, ends⟩ := holds fun _ _ => trivial
      cases ran : (condShield tables camp idx damage s).result with
      | error reason =>
        rw [ran] at isOk
        cases isOk
      | ok result =>
        rw [ran] at ends
        exact ends.elim
    · rfl

theorem shield_follows (here : s.useAt mark = some (id, times)) (lively : Lively times) (camp : Camp) (idx : Nat) (damage : N) :
    Follows tables s (.shield camp idx damage) mark id times := by
  have state : ((Deed.shield camp idx damage).run tables s).state = s := (run_discard _ s).2.1.trans (condShield_state s camp idx damage)
  refine follows_kept here lively ?_ (by rw [state]) rfl
  show (if (condShield tables camp idx damage s).result.isOk then s.ward tables .shield camp idx else []).count mark = 0
  split
  · rename_i isOk
    rw [ward_shield isOk]
    rfl
  · rfl

theorem immu_follows (here : s.useAt mark = some (id, times)) (lively : Lively times) {camp : Camp} {idx : Nat}
    (mild : Mild tables s camp idx) : Follows tables s (.immu camp idx) mark id times := by
  have state : ((Deed.immu camp idx).run tables s).state = s := (run_discard _ s).2.1.trans (condImmu_state s camp idx)
  have few : ((Deed.immu camp idx).strikes tables s).count mark ≤ 1 :=
    Nat.le_trans List.count_le_length (ward_length tables s .immunity camp idx)
  refine ⟨few, fun mark' moved => ⟨times, ?_, ?_⟩, fun _ _ => rfl⟩
  · obtain rfl := Option.some.inj moved
    rw [state]
    exact here
  · by_cases struck : mark ∈ s.ward tables .immunity camp idx
    · rw [s.useAt_statusAt] at here
      obtain ⟨status, found, use⟩ := Option.map_eq_some_iff.mp here
      have endless := mild mark struck status found
      obtain ⟨-, rfl⟩ := Prod.mk.inj use
      exact endless ▸ .endless _
    · have nothing : ((Deed.immu camp idx).strikes tables s).count mark = 0 := List.count_eq_zero.mpr struck
      exact nothing.symm ▸ lively

/-! ### Coming and going -/

theorem rest_follows (here : s.useAt mark = some (id, times)) (lively : Lively times) (same : SameUses s after) :
    Follows tables s (.rest after) mark id times :=
  follows_kept here lively rfl (same.useAt mark) rfl

/-- Somebody else comes to the position, or an error leaves everything. -/
theorem setPost_follows {camp : Camp} {pos : Nat} (here : s.useAt mark = some (id, times)) (lively : Lively times)
    (turns : Holds (silent (· = s)) (deed.run tables) s fun _ s' => ∃ list, Turned s camp pos list s')
    (nothing : deed.strikes tables s = []) (other : deed.takesEffect = false)
    (follow : deed.follow tables s mark = if mark.camp = camp ∧ mark.pos = pos ∧ (deed.run tables s).result.isOk then none else some mark) :
    Follows tables s deed mark id times := by
  have none' : (deed.strikes tables s).count mark = 0 := nothing ▸ rfl
  rcases ends_of_silent turns with ⟨result, ran, list, turned⟩ | ⟨reason, ran, same⟩
  · by_cases there : mark.camp = camp ∧ mark.pos = pos
    · refine follows_lost none' ?_ other
      rw [follow, ran]
      exact if_pos ⟨there.1, there.2, rfl⟩
    · refine follows_kept here lively none' (turned.useAt_ne there) ?_
      rw [follow]
      exact if_neg fun all => there ⟨all.1, all.2.1⟩
  · refine follows_kept here lively none' (by rw [same]) ?_
    rw [follow, ran]
    exact if_neg fun all => nomatch all.2.2

theorem leave_follows (here : s.useAt mark = some (id, times)) (lively : Lively times) (camp : Camp) (pos : Nat) :
    Follows tables s (.leave camp pos) mark id times :=
  setPost_follows here lively (holds_modify ⟨_, turned_setPost s camp pos none⟩) rfl rfl rfl

theorem advance_follows (here : s.useAt mark = some (id, times)) (lively : Lively times) (camp : Camp) (pos : Nat) :
    Follows tables s (.advance camp pos) mark id times := by
  refine setPost_follows here lively (holds_side_bind ?_) rfl rfl rfl
  split
  · exact holds_modify ⟨_, turned_setPost s camp pos _⟩
  · exact holds_stop rfl

theorem copy_follows (here : s.useAt mark = some (id, times)) (lively : Lively times) (camp : Camp) (pos : Nat) (targetCamp : Camp)
    (target : Nat) : Follows tables s (.copy camp pos targetCamp target) mark id times := by
  refine setPost_follows here lively (holds_side_bind (holds_bind (holds_indexed_found _ rfl) ?_)) rfl rfl rfl
  rintro post s ⟨rfl, -⟩
  exact holds_modify ⟨_, turned_setPost s camp pos _⟩

/-- A creature that comes leaves whoever stands there. -/
theorem call_follows (here : s.useAt mark = some (id, times)) (lively : Lively times) (camp : Camp) (pos monsterid : Nat) :
    Follows tables s (.call camp pos monsterid) mark id times := by
  have stays : Holds (silent (· = s)) (callAt tables camp pos monsterid) s fun _ s' => s'.useAt mark = s.useAt mark := by
    refine holds_side_bind (holds_bind (holds_indexed_found _ rfl) ?_)
    rintro summon s ⟨rfl, -⟩
    split
    · rename_i post found
      refine holds_modify ?_
      have turned := turned_setPost s camp pos (some { post with next := post.next ++ [summon] })
      by_cases there : mark.camp = camp ∧ mark.pos = pos
      · obtain ⟨rfl, rfl⟩ := there
        have front : s.front mark.camp mark.pos = some post.fighter.uses :=
          Field.front_eq_some.mpr ⟨post.fighter, Side.fighterAt_eq_some.mpr ⟨post, found, rfl⟩, rfl⟩
        unfold Field.useAt
        rw [front]
        exact congrArg (Option.bind · fun list => list[mark.place]?) turned.here
      · exact turned.useAt_ne there
    · rename_i empty
      refine holds_modify ((turned_setPost s camp pos _).useAt_ne ?_)
      rintro ⟨rfl, rfl⟩
      obtain ⟨list, front, -⟩ := Field.useAt_eq_some.mp here
      obtain ⟨fighter, there, -⟩ := Field.front_eq_some.mp front
      obtain ⟨post, found, -⟩ := Side.fighterAt_eq_some.mp there
      exact nomatch empty.symm.trans found
  refine follows_kept here lively rfl ?_ rfl
  rcases ends_of_silent stays with ⟨_, -, same⟩ | ⟨_, -, same⟩
  · exact same
  · exact congrArg (Field.useAt · mark) same

/-! ### Adding -/

section
variable {fighter next : Fighter N} {statusid place : Nat} {lvl : N} {yes : Bool} {use : Use}

omit [Number N] in
theorem realAddStatus_stays (ran : realAddStatus tables fighter statusid lvl = some (next, yes)) (here : fighter.uses[place]? = some use) :
    next.uses[place]? = some use := by
  unfold realAddStatus at ran
  split at ran
  · exact (Prod.mk.inj (Option.some.inj ran)).1 ▸ here
  · obtain ⟨row, -, ran⟩ := Option.bind_eq_some_iff.mp ran
    obtain ⟨type, -, ran⟩ := Option.bind_eq_some_iff.mp ran
    obtain rfl := (Prod.mk.inj (Option.some.inj ran)).1
    show ((fighter.status ++ [newStatus row statusid lvl]).map Status.use)[place]? = some use
    rw [List.map_append]
    exact (List.getElem?_append_left (List.getElem?_eq_some_iff.mp here).1).trans here

/-- Only the status that is outgrown gives way. -/
theorem addStatus_stays (ran : addStatus tables fighter statusid lvl = some (next, yes)) (here : fighter.uses[place]? = some use)
    (kept : outgrown tables fighter statusid lvl ≠ some place) : next.uses[place]? = some use := by
  unfold addStatus at ran
  obtain ⟨row, hasRow, ran⟩ := Option.bind_eq_some_iff.mp ran
  obtain ⟨type, hasType, ran⟩ := Option.bind_eq_some_iff.mp ran
  have unchanged (ran : some (fighter, false) = some (next, yes)) : next.uses[place]? = some use :=
    (Prod.mk.inj (Option.some.inj ran)).1 ▸ here
  split at ran
  swap
  · exact unchanged ran
  rename_i aimed
  split at ran
  · obtain ⟨found, -, ran⟩ := Option.bind_eq_some_iff.mp ran
    cases found with
    | true => exact unchanged ran
    | false => exact realAddStatus_stays ran here
  · rename_i up
    obtain ⟨⟨isIn, markPos⟩, looked, ran⟩ := Option.bind_eq_some_iff.mp ran
    cases isIn with
    | false => exact realAddStatus_stays ran here
    | true =>
      cases markPos with
      | none => exact unchanged ran
      | some markPos =>
        have found : outgrown tables fighter statusid lvl = some markPos := by
          unfold outgrown
          simp only [hasRow, hasType, Option.bind_eq_bind, Option.bind_some, looked]
          exact if_pos ⟨aimed, up⟩
        have apart : markPos ≠ place := fun same => kept (same ▸ found)
        obtain ⟨row', -, ran⟩ := Option.bind_eq_some_iff.mp ran
        obtain rfl := (Prod.mk.inj (Option.some.inj ran)).1
        show ((fighter.status.set markPos _).map Status.use)[place]? = some use
        rw [List.map_set, List.getElem?_set_ne apart]
        exact here
  · exact realAddStatus_stays ran here
  · exact unchanged ran

end

theorem add_follows (here : s.useAt mark = some (id, times)) (lively : Lively times) (camp : Camp) (pos statusid : Nat) (lvl : N) :
    Follows tables s (.add camp pos statusid lvl) mark id times := by
  have state : ((Deed.add camp pos statusid lvl).run tables s).state = (addAt tables camp pos statusid lvl s).state := (run_discard _ s).2.1
  have follow : (Deed.add camp pos statusid lvl).follow tables s mark = if mark.camp = camp ∧ mark.pos = pos ∧
      (((s.fighters camp).fighterAt pos).bind fun there => outgrown tables there statusid lvl) =
        some mark.place then none else some mark := rfl
  have adds : Holds (silent (· = s)) (addAt tables camp pos statusid lvl) s fun _ s' => ∃ there next yes,
      (s.fighters camp).fighterAt pos = some there ∧ addStatus tables there statusid lvl = some (next, yes) ∧
      Turned s camp pos (some next.uses) s' := by
    refine holds_bind (holds_fighter_found camp pos rfl) ?_
    rintro there _ ⟨rfl, found⟩
    refine holds_bind (holds_indexed_found _ rfl) ?_
    rintro ⟨next, yes⟩ s ⟨rfl, ran⟩
    have turned := turned_modifyFighter s camp pos fun _ => next
    rw [found, Option.map_some] at turned
    exact holds_modify_bind (holds_pure ⟨there, next, yes, found, ran, turned⟩)
  by_cases gives : mark.camp = camp ∧ mark.pos = pos ∧
      (((s.fighters camp).fighterAt pos).bind fun there => outgrown tables there statusid lvl) = some mark.place
  · exact follows_lost rfl (follow.trans (if_pos gives)) rfl
  refine follows_kept here lively rfl ?_ (follow.trans (if_neg gives))
  rw [state]
  rcases ends_of_silent adds with ⟨_, -, there, next, yes, found, ran, turned⟩ | ⟨_, -, same⟩
  swap
  · rw [same]
  by_cases there' : mark.camp = camp ∧ mark.pos = pos
  · obtain ⟨rfl, rfl⟩ := there'
    obtain ⟨list, front, here'⟩ := Field.useAt_eq_some.mp here
    obtain ⟨fighter, found', rfl⟩ := Field.front_eq_some.mp front
    obtain rfl := Option.some.inj (found.symm.trans found')
    rw [found, Option.bind_some] at gives
    rw [here]
    exact Field.useAt_eq_some.mpr ⟨_, turned.here, addStatus_stays ran here' fun same => gives ⟨rfl, rfl, same⟩⟩
  · exact turned.useAt_ne there'

/-! ### Runs -/

/-- What every deed does to a status that is listed. -/
theorem deed_follows (here : s.useAt mark = some (id, times)) (lively : Lively times) (allowed : deed.allowed tables s) :
    Follows tables s deed mark id times := by
  cases deed with
  | add camp pos statusid lvl => exact add_follows here lively camp pos statusid lvl
  | remove camp idx pos => exact remove_follows here lively camp idx pos
  | active camp owner statusPos me => exact active_follows here lively camp owner statusPos me
  | immu camp idx => exact immu_follows here lively allowed
  | shield camp idx damage => exact shield_follows here lively camp idx damage
  | leave camp pos => exact leave_follows here lively camp pos
  | advance camp pos => exact advance_follows here lively camp pos
  | call camp pos monsterid => exact call_follows here lively camp pos monsterid
  | copy camp pos targetCamp target => exact copy_follows here lively camp pos targetCamp target
  | rest after => exact rest_follows here lively allowed

end

section
variable [Number N] {tables : Tables N} {id : Nat} {times : Option Int} {followed : Followed N}

/-- Where the status is listed, it has the uses left that it was given, less those that it has had. -/
structure Tracked (id : Nat) (times : Option Int) (followed : Followed N) : Prop where
  listed : ∀ mark, followed.mark = some mark →
    ∃ left, followed.course.state.useAt mark = some (id, left) ∧ Spends times followed.uses left
  few : ∀ most, times = some most → (followed.uses : Int) ≤ most

theorem Tracked.step (tracked : Tracked id times followed) {deed : Deed N} (allows : (deedScene tables).Allows followed.course deed) :
    Tracked id times (followed.step tables deed) := by
  obtain ⟨⟨state, ended', done⟩, mark, uses⟩ := followed
  cases ended' with
  | true => exact tracked
  | false =>
    cases mark with
    | none => exact ⟨nofun, tracked.few⟩
    | some mark =>
      obtain ⟨left, here, spends⟩ := tracked.listed mark rfl
      have follows : Follows tables state deed mark id left := deed_follows here spends.lively (allows rfl)
      refine ⟨fun mark' moved => ?_, fun most limited => ?_⟩
      · obtain ⟨last, here', spends'⟩ := follows.left mark' moved
        exact ⟨last, here', spends.trans spends'⟩
      · have once := follows.once
        subst limited
        cases spends with
        | limited some' within =>
          have within : _ + (uses : Int) ≤ most := within
          show ((uses + (deed.strikes tables state).count mark : Nat) : Int) ≤ most
          omega

theorem Tracked.run {deeds : List (Deed N)} (tracked : Tracked id times followed)
    (along : Along (deedScene tables).step (deedScene tables).Allows followed.course deeds) :
    Tracked id times (run (Followed.step tables) followed deeds) := by
  induction deeds generalizing followed with
  | nil => exact tracked
  | cons deed rest ih => exact ih (tracked.step along.1) along.2

variable (tables) in
/-- A status of `effectivetimes` takes effect as often at most and is gone with the last; of no end of uses, it stays in
the list whatever takes effect. -/
structure WearsOut (row : StatusRow N) (statusid : Nat) (followed : Followed N) : Prop where
  listed : ∀ mark, followed.mark = some mark → ∃ left, followed.course.state.useAt mark = some (statusid, left)
  limited : 0 < row.effectivetimes → (followed.uses : Int) ≤ row.effectivetimes ∧
    ((followed.uses : Int) = row.effectivetimes → followed.mark = none)
  endless : row.effectivetimes = 0 → ∀ mark, followed.mark = some mark → ∀ deed : Deed N, deed.takesEffect = true →
    (deed.follow tables followed.course.state mark).isSome = true

theorem Tracked.wearsOut {row : StatusRow N} {statusid : Nat} {lvl : N}
    (tracked : Tracked statusid (newStatus row statusid lvl).times followed) :
    WearsOut tables row statusid followed := by
  refine ⟨fun mark there => ?_, fun limited => ?_, fun endless mark there deed effect => ?_⟩
  · obtain ⟨left, here, -⟩ := tracked.listed mark there
    exact ⟨left, here⟩
  · have times : (newStatus row statusid lvl).times = some row.effectivetimes := if_neg (by omega)
    refine ⟨tracked.few _ times, fun all => Option.eq_none_iff_forall_not_mem.mpr fun mark there => ?_⟩
    obtain ⟨left, -, spends⟩ := tracked.listed mark there
    rw [times] at spends
    cases spends with
    | limited some' within => omega
  · obtain ⟨left, here, spends⟩ := tracked.listed mark there
    have times : (newStatus row statusid lvl).times = none := if_pos endless
    rw [times] at spends
    cases spends with
    | endless =>
      cases deed with
      | active camp owner statusPos me => exact (active_follows here (.endless 0) camp owner statusPos me).lasts rfl rfl
      | immu | shield => rfl
      | _ => cases effect

/-- From when a status is listed as it is added, it wears out. -/
theorem wearsOut_run {course : Course (Field N) Mark} {mark : Mark} {row : StatusRow N} {statusid : Nat} {lvl : N}
    (added : course.state.statusAt mark = some (newStatus row statusid lvl)) (some' : 0 ≤ row.effectivetimes) {deeds : List (Deed N)}
    (along : Along (deedScene tables).step (deedScene tables).Allows course deeds) :
    WearsOut tables row statusid (run (Followed.step tables) ⟨course, some mark, 0⟩ deeds) := by
  have lively : Lively (newStatus row statusid lvl).times := by
    show Lively (if row.effectivetimes = 0 then none else some row.effectivetimes)
    split
    · exact .endless 0
    · exact .limited (by omega) (by simp)
  have start : Tracked statusid (newStatus row statusid lvl).times ⟨course, some mark, 0⟩ := by
    refine ⟨fun mark' same => ?_, fun most limited => ?_⟩
    · obtain rfl := Option.some.inj same
      refine ⟨_, ?_, lively⟩
      rw [Field.useAt_statusAt, added]
      rfl
    · rw [limited] at lively
      cases lively with
      | limited some' _ => exact some'.le
  exact (start.run along).wearsOut

end

end Tinygame.Fight
