import Tinygame.Base.Ends
import Tinygame.Fight.Careful
import Tinygame.Fight.StatusMarks
import Tinygame.Fight.Targeting
import Mathlib.Data.List.Induction

/-!
# Statuses run out at the end of a turn

What `updateCond` is for: every duration goes down by one, and what was in its last turn is removed from the fighter
that carries it, and recorded with that fighter's position. The loop over the statuses has taken the name of the position
for the place in the list, so that the two have to agree.
-/

namespace Tinygame.Fight
open Traced
variable {N : Type}

/-! ### One turn less -/

/-- The status of a fighter is in its last turn. -/
def Status.ends (status : Status N) : Bool := decide (status.duration = some 1)

/-- A turn at least is left of the status, or it has no end. -/
def Status.Lasting (status : Status N) : Prop := ∀ duration, status.duration = some duration → 1 ≤ duration

/-- What is left of a status after the turn. -/
def Status.ticked (status : Status N) : Option (Status N) :=
  if status.ends then none else some { status with duration := status.duration.map (· - 1) }

section
variable (tables : Tables N)

/-- With the status a mark of the type goes. -/
def Status.unmarks (type : StatusType) (status : Status N) : Bool :=
  status.ends && (tables.tbStatus status.id).any fun row => decide (row.effect.type = type) &&
    (tables.tbStatusType type).any fun row => decide row.coexist.marked

/-- The fighter when the first statuses of its list have been gone through, and `done` is left of the others. -/
def Fighter.wornTo (low done : List (Status N)) (fighter : Fighter N) : Fighter N :=
  { fighter with
    status := low.filterMap Status.ticked ++ done
    statusMark := fun type => fighter.statusMark type && !low.any (Status.unmarks tables type) }

/-- The fighter after the turn. -/
def Fighter.worn (fighter : Fighter N) : Fighter N := fighter.wornTo tables fighter.status []

/-- What is recorded of a fighter's statuses, from the last to the first. -/
def endBuff (camp : Camp) (pos : Nat) (status : List (Status N)) : List (Camp × Nat × Nat) :=
  (status.reverse.filter Status.ends).map fun status => (camp, pos, status.id)

def Side.endBuff (side : Side N) (camp : Camp) (pos : Nat) : List (Camp × Nat × Nat) :=
  (side.fighterAt pos).elim [] fun fighter => Fight.endBuff camp pos fighter.status

/-- The side when its fighters at some positions have been gone through. -/
def Side.worn (side : Side N) (passed : Nat → Prop) [DecidablePred passed] : Side N :=
  { side with posts := fun pos => (side.posts pos).map fun post =>
      if passed pos then { post with fighter := post.fighter.worn tables } else post }

/-- The positions in the order of the loop. -/
def boardRounds : List (Camp × Nat) := (positions P_HEAD_LEFT P_BACK_RIGHT).flatMap fun pos => [(.me, pos), (.obs, pos)]

namespace FightManager

/-- More is recorded of the turn. -/
def tell (told : List (Camp × Nat × Nat)) (fight : FightManager N) : FightManager N :=
  { fight with data := fight.data.modify (fight.field.turn - 1) fun turn => { turn with tEndBuff := turn.tEndBuff ++ told } }

def setFighters (fighters : Camp → Side N) (fight : FightManager N) : FightManager N :=
  { fight with field := { fight.field with fighters } }

/-- The fighter at one position is changed. -/
def put (camp : Camp) (pos : Nat) (f : Fighter N → Fighter N) (fight : FightManager N) : FightManager N :=
  fight.setFighters (Function.update fight.field.fighters camp ((fight.field.fighters camp).modifyFighter pos f))

/-- The fight when the fighters at the positions have been gone through. -/
def worn (rounds : List (Camp × Nat)) (fight : FightManager N) : FightManager N :=
  tell (rounds.flatMap fun round => (fight.field.fighters round.1).endBuff round.1 round.2)
    (fight.setFighters fun camp => (fight.field.fighters camp).worn tables fun pos => (camp, pos) ∈ rounds)

/-- The fight when the fighter at one position has been gone through. -/
def wear (round : Camp × Nat) (fight : FightManager N) : FightManager N :=
  tell ((fight.field.fighters round.1).endBuff round.1 round.2) (fight.put round.1 round.2 (Fighter.worn tables))

end FightManager
end

/-- Every status in its last turn stands in its fighter's list where the fighter stands on the board. -/
def AtOwnPlace (pos : Nat) (status : List (Status N)) : Prop := ∀ i last, status[i]? = some last → last.ends = true → i + 1 = pos

/-! ### Putting and telling -/

namespace FightManager
variable {camp : Camp} {pos : Nat} {fight : FightManager N}

theorem fighterAt_put (camp : Camp) (pos : Nat) (f : Fighter N → Fighter N) (fight : FightManager N) :
    ((fight.put camp pos f).field.fighters camp).fighterAt pos = ((fight.field.fighters camp).fighterAt pos).map f := by
  show (Function.update fight.field.fighters camp _ camp).fighterAt pos = _
  rw [Function.update_self, Side.fighterAt_modifyFighter, if_pos rfl]

theorem put_put (camp : Camp) (pos : Nat) (f g : Fighter N → Fighter N) (fight : FightManager N) :
    (fight.put camp pos f).put camp pos g = fight.put camp pos fun fighter => g (f fighter) := by
  unfold put setFighters Side.modifyFighter Side.setPost
  simp [Function.comp_def]

theorem put_congr {f g : Fighter N → Fighter N} {there : Fighter N} (found : (fight.field.fighters camp).fighterAt pos = some there)
    (same : f there = g there) : fight.put camp pos f = fight.put camp pos g := by
  obtain ⟨post, posted, rfl⟩ := Side.fighterAt_eq_some.mp found
  unfold put Side.modifyFighter
  rw [posted, Option.map_some, Option.map_some, same]

theorem put_self {there : Fighter N} (found : (fight.field.fighters camp).fighterAt pos = some there) :
    fight.put camp pos (fun _ => there) = fight := by
  obtain ⟨post, posted, rfl⟩ := Side.fighterAt_eq_some.mp found
  unfold put Side.modifyFighter Side.setPost
  rw [posted, Option.map_some, ← posted, Function.update_eq_self, Function.update_eq_self]
  rfl

theorem put_none (absent : (fight.field.fighters camp).fighterAt pos = none) (f : Fighter N → Fighter N) :
    fight.put camp pos f = fight := by
  have empty : (fight.field.fighters camp).posts pos = none := Option.map_eq_none_iff.mp absent
  unfold put Side.modifyFighter Side.setPost
  rw [empty, Option.map_none, ← empty, Function.update_eq_self, Function.update_eq_self]
  rfl

theorem fighterAt_put_ne {other : Camp × Nat} (apart : other ≠ (camp, pos)) (f : Fighter N → Fighter N) (fight : FightManager N) :
    ((fight.put camp pos f).field.fighters other.1).fighterAt other.2 = (fight.field.fighters other.1).fighterAt other.2 := by
  show (Function.update fight.field.fighters camp _ other.1).fighterAt other.2 = _
  by_cases same : other.1 = camp
  · obtain ⟨camp', pos'⟩ := other
    obtain rfl : camp' = camp := same
    rw [Function.update_self, Side.fighterAt_modifyFighter, if_neg fun here => apart (by rw [← here])]
  · rw [Function.update_of_ne same]

theorem tell_tell (fight : FightManager N) (first second : List (Camp × Nat × Nat)) :
    (fight.tell first).tell second = fight.tell (first ++ second) := by
  unfold tell
  dsimp only
  rw [List.modify_modify_eq]
  simp [Function.comp_def]

theorem tell_nil (fight : FightManager N) : fight.tell [] = fight := by
  have same : (fun turn : TurnData N => { turn with tEndBuff := turn.tEndBuff ++ [] }) = id := by
    funext turn
    simp
  unfold tell
  rw [same, List.modify_id]

/-- What is recorded of the turn under way. -/
def told (fight : FightManager N) : List (Camp × Nat × Nat) := (fight.data[fight.field.turn - 1]?).elim [] TurnData.tEndBuff

/-- The turn has its record. -/
def Recorded (fight : FightManager N) : Prop := fight.field.turn - 1 < fight.data.length

theorem told_tell (recorded : fight.Recorded) (more : List (Camp × Nat × Nat)) : (fight.tell more).told = fight.told ++ more := by
  unfold told tell
  dsimp only
  rw [List.getElem?_modify_eq, List.getElem?_eq_getElem recorded]
  rfl

theorem put_tell (fight : FightManager N) (camp : Camp) (pos : Nat) (f : Fighter N → Fighter N) (told : List (Camp × Nat × Nat)) :
    (fight.tell told).put camp pos f = (fight.put camp pos f).tell told := rfl

end FightManager

/-! ### One status -/

section
variable {tables : Tables N} {field field' : Field N} {fight fight' : FightManager N} {camp : Camp} {pos i : Nat}

theorem ends_fighter? (field : Field N) (camp : Camp) (pos : Nat) :
    Ends (Play.fighter? camp pos) field ((field.fighters camp).fighterAt pos) field :=
  (ends_bind_of (ends_read field)).mpr (ends_pure _ _)

theorem ends_fighter_iff {there : Fighter N} :
    Ends (Play.fighter camp pos) field there field' ↔ (field.fighters camp).fighterAt pos = some there ∧ field' = field :=
  (ends_bind_of (ends_fighter? field camp pos)).trans ends_require_iff

theorem ends_play {α : Type} {m : Play N α} {result : α} (ends : Ends m fight.field result field') :
    Ends (Battle.play m) fight result { fight with field := field' } :=
  ends_within_iff.mpr ⟨field', ends, rfl⟩

theorem ends_playFighter {there : Fighter N} (found : (fight.field.fighters camp).fighterAt pos = some there) :
    Ends (Battle.play (Play.fighter camp pos)) fight there fight :=
  ends_play (ends_fighter_iff.mpr ⟨found, rfl⟩)

theorem ends_playIndexed {α : Type} {value : Option α} {result : α} (found : value = some result) :
    Ends (Battle.play (Play.indexed value)) fight result fight :=
  ends_play (ends_require found)

theorem ends_modifyFighter (field : Field N) (camp : Camp) (pos : Nat) (f : Fighter N → Fighter N) :
    Ends (Play.modifyFighter camp pos f) field ()
      { field with fighters := Function.update field.fighters camp ((field.fighters camp).modifyFighter pos f) } :=
  ends_modify _ _

theorem ends_removeAt_iff {id : Nat} :
    Ends (removeAt tables camp pos i) field id field' ↔ ∃ there removed, (field.fighters camp).fighterAt pos = some there ∧
      removeStatus tables there i = some (removed, id) ∧
      field' = { field with
        fighters := Function.update field.fighters camp ((field.fighters camp).modifyFighter pos fun _ => removed) } := by
  unfold removeAt
  constructor
  · intro ends
    obtain ⟨there, mid, first, rest⟩ := ends_bind_iff.mp ends
    obtain ⟨found, same⟩ := ends_fighter_iff.mp first
    obtain ⟨removed, later, second, last⟩ := ends_bind_iff.mp rest
    obtain ⟨taken, same'⟩ := ends_require_iff.mp second
    subst same same'
    obtain ⟨_, written, write, pure'⟩ := ends_bind_iff.mp last
    obtain ⟨-, rfl⟩ := (ends_modifyFighter later camp pos fun _ => removed.1).unique write
    obtain ⟨rfl, rfl⟩ := ends_pure_iff.mp pure'
    exact ⟨there, removed.1, found, taken, rfl⟩
  · rintro ⟨there, removed, found, taken, rfl⟩
    refine (ends_bind_of (ends_fighter_iff.mpr ⟨found, rfl⟩)).mpr ((ends_bind_of (ends_require taken)).mpr ?_)
    exact (ends_bind_of (ends_modifyFighter _ _ _ _)).mpr (ends_pure _ _)

variable {there : Fighter N} {status : Status N}

/-- A status without end stays. -/
theorem updateStatus_lasting (found : (fight.field.fighters camp).fighterAt pos = some there) (entry : there.status[i - 1]? = some status)
    (lasting : status.duration = none) : Ends (updateStatus tables camp pos i) fight () fight := by
  unfold updateStatus
  refine (ends_bind_of (ends_playFighter found)).mpr ((ends_bind_of (ends_playIndexed entry)).mpr ?_)
  rw [lasting]
  exact ends_pure _ _

variable (tables) in
/-- One that has more than a turn left has one less. -/
theorem updateStatus_later (found : (fight.field.fighters camp).fighterAt pos = some there) (entry : there.status[i - 1]? = some status)
    {duration : Int} (left : status.duration = some duration) (later : 1 < duration) :
    Ends (updateStatus tables camp pos i) fight () (fight.put camp pos fun fighter =>
      { fighter with status := fighter.status.modify (i - 1) fun status => { status with duration := some (duration - 1) } }) := by
  unfold updateStatus
  refine (ends_bind_of (ends_playFighter found)).mpr ((ends_bind_of (ends_playIndexed entry)).mpr ?_)
  rw [left]
  dsimp only
  rw [if_neg (by omega)]
  exact ends_play (ends_modify _ _)

/-- Of one in its last turn, the place is taken for the position. -/
theorem updateStatus_ends_iff (found : (fight.field.fighters camp).fighterAt pos = some there) (entry : there.status[i - 1]? = some status)
    {duration : Int} (left : status.duration = some duration) (last : duration ≤ 1) :
    Ends (updateStatus tables camp pos i) fight () fight' ↔
      ∃ other removed id, (fight.field.fighters camp).fighterAt i = some other ∧ removeStatus tables other i = some (removed, id) ∧
        fight' = (fight.put camp i fun _ => removed).tell [(camp, i, id)] := by
  unfold updateStatus
  rw [ends_bind_of (ends_playFighter found), ends_bind_of (ends_playIndexed entry), left]
  dsimp only
  rw [if_pos (by omega), ends_bind_of (ends_mark _ _)]
  constructor
  · intro ends
    obtain ⟨id, mid, played, ends⟩ := ends_bind_iff.mp ends
    obtain ⟨field', taken, rfl⟩ := ends_within_iff.mp played
    obtain ⟨other, removed, stands, out, rfl⟩ := ends_removeAt_iff.mp taken
    obtain ⟨-, rfl⟩ := (ends_modify _ _).unique ends
    exact ⟨other, removed, id, stands, out, rfl⟩
  · rintro ⟨other, removed, id, stands, out, rfl⟩
    exact (ends_bind_of (ends_play (ends_removeAt_iff.mpr ⟨other, removed, stands, out, rfl⟩))).mpr (ends_modify _ _)

/-- What is recorded of the turn is never taken back. -/
def Longer (fight fight' : FightManager N) : Prop :=
  fight'.field.turn = fight.field.turn ∧ fight'.data.length = fight.data.length ∧ fight.told <+: fight'.told

theorem Longer.refl (fight : FightManager N) : Longer fight fight := ⟨rfl, rfl, List.prefix_refl _⟩

theorem Longer.trans {fight'' : FightManager N} (here : Longer fight fight') (there : Longer fight' fight'') : Longer fight fight'' :=
  ⟨there.1.trans here.1, there.2.1.trans here.2.1, here.2.2.trans there.2.2⟩

theorem longer_tell (fight : FightManager N) (told : List (Camp × Nat × Nat)) : Longer fight (fight.tell told) := by
  refine ⟨rfl, List.length_modify .., ?_⟩
  by_cases recorded : fight.Recorded
  · rw [FightManager.told_tell recorded]
    exact List.prefix_append ..
  · have none' : fight.told = [] := by
      unfold FightManager.told
      rw [List.getElem?_eq_none (Nat.not_lt.mp recorded)]
      rfl
    rw [none']
    exact List.nil_prefix

theorem updateStatus_longer (ends : Ends (updateStatus tables camp pos i) fight () fight') : Longer fight fight' := by
  obtain ⟨there, mid, read, rest⟩ := ends_bind_iff.mp ends
  obtain ⟨field', looked, rfl⟩ := ends_within_iff.mp read
  obtain ⟨found, rfl⟩ := ends_fighter_iff.mp looked
  obtain ⟨status, mid, index, -⟩ := ends_bind_iff.mp rest
  obtain ⟨field', taken, rfl⟩ := ends_within_iff.mp index
  obtain ⟨entry, -⟩ := ends_require_iff.mp taken
  cases left : status.duration with
  | none =>
    obtain ⟨-, rfl⟩ := (updateStatus_lasting found entry left).unique ends
    exact .refl _
  | some duration =>
    by_cases later : 1 < duration
    · obtain ⟨-, rfl⟩ := (updateStatus_later tables found entry left later).unique ends
      exact ⟨rfl, rfl, List.prefix_refl _⟩
    · obtain ⟨other, removed, id, -, -, rfl⟩ := (updateStatus_ends_iff found entry left (by omega)).mp ends
      exact longer_tell ..

/-! ### One fighter -/

variable {front low done : List (Status N)}

/-- The status at the end of what is still to go through is removed. -/
theorem removeStatus_last (listed : there.status = front ++ status :: done) (known : StatusKnown tables status.id)
    (last : status.ends = true) : ∃ removed, removeStatus tables there (front.length + 1) = some (removed, status.id) ∧
      removed.status = front ++ done ∧ removed.wornTo tables front done = there.wornTo tables (front ++ [status]) done := by
  obtain ⟨row, type, known, typed⟩ := known
  have entry : there.status[front.length + 1 - 1]? = some status := by
    rw [listed, Nat.add_sub_cancel, List.getElem?_append_right (Nat.le_refl _), Nat.sub_self]
    rfl
  refine ⟨_, by unfold removeStatus; rw [entry]; simp [known, typed]; rfl, ?_, ?_⟩
  · simp [listed, List.eraseIdx_append_of_length_le]
  · unfold Fighter.wornTo
    have status' : (front ++ [status]).filterMap Status.ticked = front.filterMap Status.ticked := by
      rw [List.filterMap_append]
      simp [Status.ticked, last]
    rw [status']
    congr 1
    funext other
    by_cases same : row.effect.type = other
    · subst same
      cases marked : type.coexist.marked <;> simp [Status.unmarks, last, known, typed, marked]
    · cases type.coexist.marked <;> simp [Status.unmarks, last, known, same, Function.update_of_ne (Ne.symm same)]

/-- The statuses have their rows, and a number of turns left that is not zero or below. -/
structure Whole (tables : Tables N) (status : List (Status N)) : Prop where
  known : ∀ one ∈ status, StatusKnown tables one.id
  lasting : ∀ one ∈ status, one.Lasting

theorem Whole.init (whole : Whole tables (front ++ [status])) : Whole tables front :=
  ⟨fun one member => whole.known one (List.mem_append_left _ member), fun one member => whole.lasting one (List.mem_append_left _ member)⟩

/-- What a status that stays is ticked to. -/
theorem ticked_of_not_ends (stays : status.ends = false) :
    status.ticked = some { status with duration := status.duration.map (· - 1) } := by
  unfold Status.ticked
  rw [stays]
  rfl

theorem ends_iff_last : status.ends = true ↔ status.duration = some 1 := by
  unfold Status.ends
  exact decide_eq_true_iff

theorem endBuff_concat (camp : Camp) (pos : Nat) (front : List (Status N)) (status : Status N) :
    endBuff camp pos (front ++ [status]) = (if status.ends then [(camp, pos, status.id)] else []) ++ endBuff camp pos front := by
  unfold endBuff
  rw [List.reverse_append, List.reverse_singleton, List.singleton_append, List.filter_cons]
  split <;> rfl

theorem modify_middle {α : Type} (front done : List α) (here : α) (f : α → α) :
    (front ++ here :: done).modify front.length f = front ++ f here :: done := by
  induction front with
  | nil => rfl
  | cons first rest ih => exact (List.modify_succ_cons ..).trans (congrArg (first :: ·) ih)

/-- A round that leaves its status on the list: it is ticked, or without end. -/
theorem updateStatus_stays (found : (fight.field.fighters camp).fighterAt pos = some there)
    (listed : there.status = front ++ status :: done) (lasting : status.Lasting)
    (stays : status.ends = false) :
    Ends (updateStatus tables camp pos (front.length + 1)) fight ()
      (fight.put camp pos fun fighter => { fighter with
        status := front ++ { status with duration := status.duration.map (· - 1) } :: done }) := by
  have entry : there.status[front.length + 1 - 1]? = some status := by
    rw [listed, Nat.add_sub_cancel, List.getElem?_append_right (Nat.le_refl _), Nat.sub_self]
    rfl
  cases left : status.duration with
  | none =>
    have same : there.status = front ++ { status with duration := none } :: done := by
      rw [listed, ← left]
    rw [Option.map_none, ← same, FightManager.put_congr (g := fun _ => there) found rfl, FightManager.put_self found]
    exact updateStatus_lasting found entry left
  | some duration =>
    have more : duration ≠ 1 := by
      rintro rfl
      rw [ends_iff_last.mpr left] at stays
      cases stays
    have low := lasting duration left
    have later := updateStatus_later tables found entry left (by omega)
    rw [Option.map_some]
    convert later using 1
    refine FightManager.put_congr found ?_
    rw [listed, Nat.add_sub_cancel, modify_middle]

theorem AtOwnPlace.init (own : AtOwnPlace pos (front ++ [status])) : AtOwnPlace pos front := by
  intro i last entry
  exact own i last (by rw [List.getElem?_append_left (List.getElem?_eq_some_iff.mp entry).1, entry])

theorem atOwnPlace_concat (own : AtOwnPlace pos front) (here : status.ends = true → front.length + 1 = pos) :
    AtOwnPlace pos (front ++ [status]) := by
  intro i last entry ends
  rcases Nat.lt_or_ge i front.length with before | after
  · rw [List.getElem?_append_left before] at entry
    exact own i last entry ends
  · rw [List.getElem?_append_right after] at entry
    obtain ⟨short, rfl⟩ := List.getElem?_eq_some_iff.mp entry
    rw [List.length_singleton] at short
    obtain rfl : i = front.length := by omega
    refine here ?_
    rw [← ends]
    simp

theorem AtOwnPlace.last (own : AtOwnPlace pos (front ++ [status])) (ends : status.ends = true) : front.length + 1 = pos :=
  own front.length status (by simp) ends

/-- The state after a round that removes its status, and after one that does not. -/
theorem statuses_worn (found : (fight.field.fighters camp).fighterAt pos = some there) (listed : there.status = low ++ done)
    (whole : Whole tables low) (own : AtOwnPlace pos low) :
    Ends ((downFrom low.length).forM (updateStatus tables camp pos)) fight ()
      ((fight.put camp pos (Fighter.wornTo tables low done)).tell (endBuff camp pos low)) := by
  induction low using List.reverseRecOn generalizing done fight there with
  | nil =>
    have same : there.wornTo tables [] done = there := by
      unfold Fighter.wornTo
      rw [List.nil_append] at listed
      simp [← listed]
    rw [FightManager.put_congr (g := fun _ => there) found same, FightManager.put_self found]
    exact ends_forM_nil_iff.mpr (FightManager.tell_nil fight)
  | append_singleton front status ih =>
    rw [List.append_assoc, List.singleton_append] at listed
    rw [List.length_append, List.length_singleton, downFrom_succ]
    refine ends_forM_cons_iff.mpr ?_
    have stands (f : Fighter N → Fighter N) : ((fight.put camp pos f).field.fighters camp).fighterAt pos = some (f there) := by
      rw [FightManager.fighterAt_put, found, Option.map_some]
    cases last : status.ends with
    | true =>
      obtain ⟨removed, out, left, same⟩ := removeStatus_last listed (whole.known status (by simp)) last
      have place := own.last last
      have entry : there.status[front.length + 1 - 1]? = some status := by simp [listed]
      have first : Ends (updateStatus tables camp pos (front.length + 1)) fight ()
          ((fight.put camp pos fun _ => removed).tell [(camp, pos, status.id)]) :=
        (updateStatus_ends_iff found entry (ends_iff_last.mp last) (Int.le_refl 1)).mpr
          ⟨there, removed, status.id, place ▸ found, out, by rw [place]⟩
      refine ⟨_, first, ?_⟩
      have after : (((fight.put camp pos fun _ => removed).tell [(camp, pos, status.id)]).field.fighters camp).fighterAt pos =
          some removed := stands fun _ => removed
      have rest := ih after left whole.init own.init
      rw [FightManager.put_tell, FightManager.put_put, FightManager.tell_tell] at rest
      rw [endBuff_concat, if_pos last, FightManager.put_congr (g := fun _ => removed.wornTo tables front done) found same.symm]
      exact rest
    | false =>
      refine ⟨_, updateStatus_stays found listed (whole.lasting status (by simp)) last, ?_⟩
      have rest := ih (stands fun fighter => { fighter with
        status := front ++ { status with duration := status.duration.map (· - 1) } :: done }) rfl whole.init own.init
      rw [FightManager.put_put] at rest
      rw [endBuff_concat, if_neg (by simp [last]), List.nil_append]
      convert rest using 2
      refine FightManager.put_congr found ?_
      unfold Fighter.wornTo
      simp [Status.unmarks, ticked_of_not_ends last, last]

/-- Where the loop ends in records that begin as they should, every place was the position. -/
theorem statuses_placed {list rest : List (Camp × Nat × Nat)} (found : (fight.field.fighters camp).fighterAt pos = some there)
    (listed : there.status = low ++ done) (whole : Whole tables low) (recorded : fight.Recorded)
    (ends : Ends ((downFrom low.length).forM (updateStatus tables camp pos)) fight () fight')
    (begun : fight'.told <+: list) (right : list = fight.told ++ (endBuff camp pos low ++ rest)) : AtOwnPlace pos low := by
  induction low using List.reverseRecOn generalizing done fight there with
  | nil => exact fun i last entry => nomatch entry
  | append_singleton front status ih =>
    rw [List.append_assoc, List.singleton_append] at listed
    rw [List.length_append, List.length_singleton, downFrom_succ] at ends
    obtain ⟨mid, first, later⟩ := ends_forM_cons_iff.mp ends
    have entry : there.status[front.length + 1 - 1]? = some status := by simp [listed]
    cases last : status.ends with
    | true =>
      obtain ⟨other, removed, id, stands, out, rfl⟩ := (updateStatus_ends_iff found entry (ends_iff_last.mp last) (Int.le_refl 1)).mp first
      have grown := Ends.forM_rel Longer.refl (fun _ _ _ => Longer.trans) (fun _ _ _ => updateStatus_longer) later
      have here : ((fight.put camp (front.length + 1) fun _ => removed).tell [(camp, front.length + 1, id)]).told =
          fight.told ++ [(camp, front.length + 1, id)] := FightManager.told_tell recorded _
      have told : fight.told ++ [(camp, front.length + 1, id)] <+: list := here ▸ grown.2.2.trans begun
      rw [right, endBuff_concat, if_pos last, List.append_assoc] at told
      have head := (List.cons_prefix_cons.mp ((List.prefix_append_right_inj _).mp told)).1
      obtain ⟨place, rfl⟩ : front.length + 1 = pos ∧ id = status.id := by simpa using head
      -- the place was the position, so that it was the status of the fighter itself that was removed
      obtain ⟨removed', out', left, -⟩ := removeStatus_last listed (whole.known status (by simp)) last
      rw [place] at stands
      obtain rfl : other = there := Option.some.inj (stands.symm.trans found)
      obtain ⟨rfl, -⟩ := Prod.mk.inj (Option.some.inj (out.symm.trans out'))
      rw [place] at later here
      have after : (((fight.put camp pos fun _ => removed).tell [(camp, pos, status.id)]).field.fighters camp).fighterAt pos =
          some removed := (FightManager.fighterAt_put ..).trans (by rw [found]; rfl)
      have recorded' : ((fight.put camp pos fun _ => removed).tell [(camp, pos, status.id)]).Recorded := by
        unfold FightManager.Recorded FightManager.tell
        rw [List.length_modify]
        exact recorded
      have own := ih after left whole.init recorded' later (by rw [right, endBuff_concat, if_pos last, here]; simp)
      exact atOwnPlace_concat own fun _ => place
    | false =>
      obtain ⟨-, rfl⟩ := (updateStatus_stays found listed (whole.lasting status (by simp)) last).unique first
      have stands := FightManager.fighterAt_put camp pos (fun fighter : Fighter N => { fighter with
        status := front ++ { status with duration := status.duration.map (· - 1) } :: done }) fight
      rw [found, Option.map_some] at stands
      rw [endBuff_concat, if_neg (by simp [last]), List.nil_append] at right
      have own := ih stands rfl whole.init recorded later right
      exact atOwnPlace_concat own fun ends => absurd (last.symm.trans ends) nofun

theorem updateFighter_worn (whole : ∀ there, (fight.field.fighters camp).fighterAt pos = some there → Whole tables there.status)
    (own : ∀ there, (fight.field.fighters camp).fighterAt pos = some there → AtOwnPlace pos there.status) :
    Ends (updateFighter tables camp pos) fight () (fight.wear tables (camp, pos)) := by
  unfold updateFighter FightManager.wear Side.endBuff
  refine (ends_bind_of (ends_play (ends_fighter? ..))).mpr ?_
  cases found : (fight.field.fighters camp).fighterAt pos with
  | none =>
    dsimp only [Option.elim_none]
    rw [FightManager.put_none found, FightManager.tell_nil]
    exact ends_pure _ _
  | some there =>
    dsimp only [Option.elim_some]
    rw [FightManager.put_congr (f := Fighter.worn tables) (g := Fighter.wornTo tables there.status []) found rfl]
    exact statuses_worn found (List.append_nil _).symm (whole there found) (own there found)

theorem updateFighter_placed {list rest : List (Camp × Nat × Nat)}
    (whole : ∀ there, (fight.field.fighters camp).fighterAt pos = some there → Whole tables there.status) (recorded : fight.Recorded)
    (ends : Ends (updateFighter tables camp pos) fight () fight') (begun : fight'.told <+: list)
    (right : list = fight.told ++ ((fight.field.fighters camp).endBuff camp pos ++ rest)) :
    ∀ there, (fight.field.fighters camp).fighterAt pos = some there → AtOwnPlace pos there.status := by
  intro there found
  unfold updateFighter at ends
  rw [ends_bind_of (ends_play (ends_fighter? ..)), found] at ends
  unfold Side.endBuff at right
  rw [found] at right
  exact statuses_placed found (List.append_nil _).symm (whole there found) recorded ends begun right

theorem updateFighter_longer (ends : Ends (updateFighter tables camp pos) fight () fight') : Longer fight fight' := by
  unfold updateFighter at ends
  rw [ends_bind_of (ends_play (ends_fighter? ..))] at ends
  cases found : (fight.field.fighters camp).fighterAt pos with
  | none =>
    rw [found] at ends
    obtain ⟨-, rfl⟩ := ends_pure_iff.mp ends
    exact .refl _
  | some there =>
    rw [found] at ends
    exact Ends.forM_rel Longer.refl (fun _ _ _ => Longer.trans) (fun _ _ _ => updateStatus_longer) ends

/-! ### The whole board -/

theorem worn_nil (fight : FightManager N) : fight.worn tables [] = fight := by
  have nobody (side : Side N) (camp : Camp) : (side.worn tables fun pos => (camp, pos) ∈ []) = side := by
    unfold Side.worn
    simp
  unfold FightManager.worn
  simp only [nobody]
  exact FightManager.tell_nil fight

/-- The fighters at the rounds of which one comes first. -/
theorem worn_modifyFighter (side : Side N) {camp : Camp} {pos : Nat} {rest : List (Camp × Nat)} (new : (camp, pos) ∉ rest) :
    ((side.modifyFighter pos (Fighter.worn tables)).worn tables fun other => (camp, other) ∈ rest) =
      side.worn tables fun other => (camp, other) ∈ (camp, pos) :: rest := by
  unfold Side.worn Side.modifyFighter Side.setPost
  congr 1
  funext other
  dsimp only
  by_cases same : other = pos
  · subst same
    rw [Function.update_self, Option.map_map]
    simp [Function.comp_def, new]
  · rw [Function.update_of_ne same]
    simp [same]

theorem worn_cons {round : Camp × Nat} {rest : List (Camp × Nat)} (new : round ∉ rest) :
    (fight.wear tables round).worn tables rest = fight.worn tables (round :: rest) := by
  obtain ⟨camp, pos⟩ := round
  have told : (rest.flatMap fun round => ((fight.put camp pos (Fighter.worn tables)).field.fighters round.1).endBuff round.1 round.2) =
      rest.flatMap fun round => (fight.field.fighters round.1).endBuff round.1 round.2 := by
    refine List.flatMap_congr fun other member => ?_
    unfold Side.endBuff
    rw [FightManager.fighterAt_put_ne fun same => new (same ▸ member)]
  have fighters : (fun camp' => ((fight.put camp pos (Fighter.worn tables)).field.fighters camp').worn tables fun pos' =>
    (camp', pos') ∈ rest) =
      fun camp' => (fight.field.fighters camp').worn tables fun pos' => (camp', pos') ∈ (camp, pos) :: rest := by
    funext camp'
    show (Function.update fight.field.fighters camp _ camp').worn tables _ = _
    by_cases same : camp' = camp
    · subst same
      rw [Function.update_self, worn_modifyFighter _ new]
    · rw [Function.update_of_ne same]
      simp [same]
  calc (fight.wear tables (camp, pos)).worn tables rest
    _ = (((fight.put camp pos (Fighter.worn tables)).setFighters fun camp' =>
          ((fight.put camp pos (Fighter.worn tables)).field.fighters camp').worn tables fun pos' => (camp', pos') ∈ rest).tell
          ((fight.field.fighters camp).endBuff camp pos)).tell
          (rest.flatMap fun round => ((fight.put camp pos (Fighter.worn tables)).field.fighters round.1).endBuff round.1 round.2) := rfl
    _ = fight.worn tables ((camp, pos) :: rest) := by
      rw [told, fighters, FightManager.tell_tell]
      rfl

/-- The two camps of each position, in the order of the loop. -/
theorem updateCond_rounds : updateCond tables = boardRounds.forM fun round => updateFighter tables round.1 round.2 := by
  unfold updateCond boardRounds
  generalize positions P_HEAD_LEFT P_BACK_RIGHT = all
  induction all with
  | nil => rfl
  | cons pos rest ih =>
    show ((updateFighter tables .me pos >>= fun _ => updateFighter tables .obs pos) >>= fun _ => rest.forM _) =
      (updateFighter tables .me pos >>= fun _ => updateFighter tables .obs pos >>= fun _ => List.forM _ _)
    rw [bind_assoc, ih]
    rfl

/-- What is known of the fighter at a position. -/
def AtRound (P : Nat → Fighter N → Prop) (fight : FightManager N) (round : Camp × Nat) : Prop :=
  ∀ there, (fight.field.fighters round.1).fighterAt round.2 = some there → P round.2 there

/-- It stays known when another fighter is gone through. -/
theorem AtRound.wear {P : Nat → Fighter N → Prop} {round other : Camp × Nat} (known : AtRound P fight other) (apart : other ≠ round) :
    AtRound P (fight.wear tables round) other := by
  intro there found
  exact known there ((FightManager.fighterAt_put_ne apart _ fight).symm.trans found)

theorem AtRound.of_wear {P : Nat → Fighter N → Prop} {round other : Camp × Nat} (known : AtRound P (fight.wear tables round) other)
    (apart : other ≠ round) : AtRound P fight other := by
  intro there found
  exact known there ((FightManager.fighterAt_put_ne apart _ fight).trans found)

theorem recorded_wear {round : Camp × Nat} (recorded : fight.Recorded) : (fight.wear tables round).Recorded := by
  unfold FightManager.Recorded FightManager.wear FightManager.tell
  rw [List.length_modify]
  exact recorded

variable {rounds : List (Camp × Nat)}

theorem rounds_worn (apart : rounds.Nodup) (whole : ∀ round ∈ rounds, AtRound (fun _ there => Whole tables there.status) fight round)
    (own : ∀ round ∈ rounds, AtRound (fun pos there => AtOwnPlace pos there.status) fight round) :
    Ends (rounds.forM fun round => updateFighter tables round.1 round.2) fight () (fight.worn tables rounds) := by
  induction rounds generalizing fight with
  | nil =>
    rw [worn_nil]
    exact ends_forM_nil_iff.mpr rfl
  | cons round rest ih =>
    obtain ⟨new, apart⟩ := List.nodup_cons.mp apart
    have others {other : Camp × Nat} (member : other ∈ rest) : other ≠ round := fun same => new (same ▸ member)
    rw [← worn_cons new]
    refine ends_forM_cons_iff.mpr ⟨_, updateFighter_worn (whole round (List.mem_cons_self ..)) (own round (List.mem_cons_self ..)), ?_⟩
    exact ih apart (fun other member => (whole other (List.mem_cons_of_mem _ member)).wear (others member))
      fun other member => (own other (List.mem_cons_of_mem _ member)).wear (others member)

theorem rounds_placed {list rest' : List (Camp × Nat × Nat)} (apart : rounds.Nodup) (recorded : fight.Recorded)
    (whole : ∀ round ∈ rounds, AtRound (fun _ there => Whole tables there.status) fight round)
    (ends : Ends (rounds.forM fun round => updateFighter tables round.1 round.2) fight () fight') (begun : fight'.told <+: list)
    (right : list = fight.told ++ ((rounds.flatMap fun round => (fight.field.fighters round.1).endBuff round.1 round.2) ++ rest')) :
    ∀ round ∈ rounds, AtRound (fun pos there => AtOwnPlace pos there.status) fight round := by
  induction rounds generalizing fight with
  | nil => exact fun round member => absurd member List.not_mem_nil
  | cons round rest ih =>
    obtain ⟨new, apart⟩ := List.nodup_cons.mp apart
    have others {other : Camp × Nat} (member : other ∈ rest) : other ≠ round := fun same => new (same ▸ member)
    obtain ⟨mid, first, later⟩ := ends_forM_cons_iff.mp ends
    have longer : Longer mid fight' := Ends.forM_rel Longer.refl (fun _ _ _ => Longer.trans) (fun _ _ _ => updateFighter_longer) later
    rw [List.flatMap_cons, List.append_assoc] at right
    have here : AtRound (fun pos there => AtOwnPlace pos there.status) fight round :=
      updateFighter_placed (whole round (List.mem_cons_self ..)) recorded first (longer.2.2.trans begun) right
    obtain ⟨-, rfl⟩ := (updateFighter_worn (whole round (List.mem_cons_self ..)) here).unique first
    have told : (fight.wear tables round).told = fight.told ++ (fight.field.fighters round.1).endBuff round.1 round.2 :=
      FightManager.told_tell recorded _
    have same : (rest.flatMap fun other => ((fight.wear tables round).field.fighters other.1).endBuff other.1 other.2) =
        rest.flatMap fun other => (fight.field.fighters other.1).endBuff other.1 other.2 := by
      refine List.flatMap_congr fun other member => ?_
      unfold Side.endBuff
      rw [show ((fight.wear tables round).field.fighters other.1).fighterAt other.2 = _ from
        FightManager.fighterAt_put_ne (others member) _ fight]
    have placed := ih apart (recorded_wear recorded)
      (fun other member => (whole other (List.mem_cons_of_mem _ member)).wear (others member))
      later (by rw [right, told, same, List.append_assoc])
    intro other member
    rcases List.mem_cons.mp member with rfl | member
    · exact here
    · exact (placed other member).of_wear (others member)

theorem told_worn (recorded : fight.Recorded) (rounds : List (Camp × Nat)) : (fight.worn tables rounds).told =
    fight.told ++ rounds.flatMap fun round => (fight.field.fighters round.1).endBuff round.1 round.2 :=
  FightManager.told_tell recorded _

/-- The end of a turn does what it should exactly when every status in its last turn stands at its fighter's own position. -/
theorem turn_end_expiry (recorded : fight.Recorded)
    (whole : ∀ round ∈ boardRounds, AtRound (fun _ there => Whole tables there.status) fight round) :
    Ends (updateCond tables) fight () (fight.worn tables boardRounds) ↔
      ∀ round ∈ boardRounds, AtRound (fun pos there => AtOwnPlace pos there.status) fight round := by
  have apart : boardRounds.Nodup := by decide
  rw [updateCond_rounds]
  constructor
  · intro ends
    exact rounds_placed apart recorded whole ends (List.prefix_refl _) (by rw [told_worn recorded, List.append_nil])
  · exact rounds_worn apart whole

/-! ### The durations that are met -/

/-- Where no row has a negative duration, what is added has a turn left, or no end. -/
theorem addStatus_lasting [Number N] (positive : ∀ id row, tables.tbStatus id = some row → 0 ≤ row.duration) {fighter after : Fighter N}
    {statusid : Nat} {lvl : N} {yes : Bool} (ran : addStatus tables fighter statusid lvl = some (after, yes))
    (lasting : ∀ one ∈ fighter.status, one.Lasting) : ∀ one ∈ after.status, one.Lasting := by
  have new {row : StatusRow N} (found : tables.tbStatus statusid = some row) : (newStatus row statusid lvl).Lasting := by
    intro duration left
    have low := positive statusid row found
    simp only [newStatus] at left
    split at left
    · cases left
    · obtain rfl := Option.some.inj left
      omega
  intro one member
  rcases addStatus_cases ran with rfl | ⟨row, type, found, -, -, -, rfl⟩ | ⟨row, pos, old, found, -, -, -, rfl⟩
  · exact lasting one member
  · rcases List.mem_append.mp member with member | member
    · exact lasting one member
    · rw [List.mem_singleton.mp member]
      exact new found
  · rcases List.mem_or_eq_of_mem_set member with member | rfl
    · exact lasting one member
    · exact new found

/-- What is left after the turn has a turn left, or no end. -/
theorem worn_lasting {fighter : Fighter N} (lasting : ∀ one ∈ fighter.status, one.Lasting) :
    ∀ one ∈ (fighter.worn tables).status, one.Lasting := by
  intro one member
  simp only [Fighter.worn, Fighter.wornTo, List.append_nil] at member
  obtain ⟨before, listed, left⟩ := List.mem_filterMap.mp member
  cases last : before.ends with
  | true =>
    unfold Status.ticked at left
    rw [last] at left
    cases left
  | false =>
    rw [ticked_of_not_ends last] at left
    obtain rfl := Option.some.inj left
    intro duration more
    obtain ⟨old, was, rfl⟩ := Option.map_eq_some_iff.mp more
    have low := lasting before listed old was
    have : old ≠ 1 := by
      rintro rfl
      rw [ends_iff_last.mpr was] at last
      cases last
    omega

end

/-- A hero at a position, with a status in its last turn. -/
def fadingFight (pos : Nat) : FightManager Exact :=
  let hero := { bystander .hero fun mark => mark = .immunity with status := [⟨1, num 1, some 1, none⟩] }
  let fight := createManager (Side.empty.setPost pos (some ⟨hero, []⟩)) .empty 1
  { fight with field := { fight.field with turn := 1 }, data := [{ tCost := fun _ => 0 }] }

theorem fading_fighter {pos other : Nat} {camp : Camp} {there : Fighter Exact}
    (found : ((fadingFight pos).field.fighters camp).fighterAt other = some there) :
    (camp, other) = (.me, pos) ∧ there.status = [⟨1, num 1, some 1, none⟩] := by
  cases camp with
  | obs => cases found
  | me =>
    obtain ⟨post, placed, rfl⟩ := Side.fighterAt_eq_some.mp found
    have placed : Function.update (fun _ => none) pos _ other = some post := placed
    by_cases same : other = pos
    · subst same
      rw [Function.update_self] at placed
      obtain rfl := Option.some.inj placed
      exact ⟨rfl, rfl⟩
    · rw [Function.update_of_ne same] at placed
      cases placed

theorem fading_recorded (pos : Nat) : (fadingFight pos).Recorded := Nat.zero_lt_one

theorem fading_whole (pos : Nat) :
    ∀ round ∈ boardRounds, AtRound (fun _ there => Whole wardTables there.status) (fadingFight pos) round := by
  intro round _ there found
  rw [(fading_fighter found).2]
  refine ⟨fun one member => ?_, fun one member duration left => ?_⟩
  · rw [List.mem_singleton.mp member]
    exact ⟨_, _, rfl, rfl⟩
  · rw [List.mem_singleton.mp member] at left
    exact Int.le_of_eq (Option.some.inj left)

/-- At the left of the front row the status goes, with its mark. -/
theorem turn_end_expiry_front :
    Ends (updateCond wardTables) (fadingFight 1) () ((fadingFight 1).worn wardTables boardRounds) := by
  refine (turn_end_expiry (fading_recorded 1) (fading_whole 1)).mpr fun round _ there found i last entry _ => ?_
  obtain ⟨same, only⟩ := fading_fighter found
  rw [only] at entry
  have first : i < 1 := (List.getElem?_eq_some_iff.mp entry).1
  rw [(Prod.mk.inj same).2]
  omega

/-- Anywhere else it is looked for there, where nobody is. -/
theorem status_outlives_turn :
    ¬ Ends (updateCond wardTables) (fadingFight 5) () ((fadingFight 5).worn wardTables boardRounds) := by
  intro ends
  have failed : (updateCond wardTables (fadingFight 5)).result.isOk = false := by decide +kernel
  rw [(ends_iff.mp ends).1] at failed
  cases failed

end Tinygame.Fight
