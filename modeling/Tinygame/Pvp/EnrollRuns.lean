import Mathlib.Algebra.BigOperators.Group.Finset.Basic
import Mathlib.Data.Finset.Card
import Tinygame.Pvp.EnrollBoard

/-!
# The day tournament's books

Who is in the list, how many they are and what they paid, over any run of enrolment requests. Three
sets of players carry the count: those whose own record is marked, those of them who are in the
list, and those of these who are in the numbers. A request moves its player from one to the next.
-/

namespace Tinygame.Pvp
open Redis

/-- What the tournament opens with: the players' records, the list and the area's numbers. -/
structure Opening where
  infos : String → PvpInfo
  day : PvpDay
  today : AreaDay

/-- The requests' players are eligible by time and not in the list. -/
structure Opening.Eligible (o : Opening) (requests : List Request) : Prop where
  early : ∀ r ∈ requests, (o.infos r.uuid).myTime < o.today.updateTime
  unlisted : ∀ r ∈ requests, r.uuid ∉ o.day.uuids
  room : o.today.nums ≤ numsLimit

section
variable (o : Opening) (area : String) (requests : List Request)

/-- The player's record after entering. -/
def Opening.marked (uuid : String) : PvpInfo := enteredInfo (o.infos uuid) o.today.updateTime

/-- A request that has marked its player and has stores left. -/
def Phase.Carries : Phase → Prop
  | .savePvpDay _ info _ world | .saveGlobalInfo _ info _ world => enters info (todayOf area world)
  | _ => False

def Phase.Told : Phase → Prop
  | .ended (some response) => ErrCode.passes response.retCode
  | _ => False

/-- A record as a request of the player can have read it. -/
def Known (marked : Finset String) (r : Request) (info : PvpInfo) : Prop :=
  info = o.infos r.uuid ∨ info = o.marked r.uuid ∧ r.uuid ∈ marked

/-- What the phase says about its player. -/
def Phase.Stage (marked listed counted : Finset String) (r : Request) : Phase → Prop
  | .pvpDay _ info | .globalInfo _ info _ => Known o marked r info
  | .savePvpInfo _ info _ world => Known o marked r info ∧ (todayOf area world).updateTime = o.today.updateTime
  | .savePvpDay _ info _ world => r.uuid ∈ marked ∧ (todayOf area world).updateTime = o.today.updateTime ∧
      (enters info (todayOf area world) → info = o.infos r.uuid ∧ r.uuid ∉ listed)
  | .saveGlobalInfo _ info _ world => r.uuid ∈ marked ∧ (todayOf area world).updateTime = o.today.updateTime ∧
      (enters info (todayOf area world) → info = o.infos r.uuid ∧ r.uuid ∈ listed ∧ r.uuid ∉ counted)
  | .ended (some response) => ErrCode.passes response.retCode → r.uuid ∈ marked
  | _ => True

/-- Where the requests stand to the three sets. -/
structure Ledger (phases : Nat → Phase) (marked listed counted : Finset String) : Prop where
  stage : ∀ i r, requests[i]? = some r → (phases i).Stage o area marked listed counted r
  alone : ∀ i j r s, requests[i]? = some r → requests[j]? = some s → r.uuid = s.uuid →
    (phases i).Carries area → (phases j).Carries area → i = j
  carried : ∀ uuid ∈ marked, uuid ∉ counted → ∃ i r, requests[i]? = some r ∧ r.uuid = uuid ∧ (phases i).Carries area
  told : ∀ uuid ∈ counted, ∃ i r, requests[i]? = some r ∧ r.uuid = uuid ∧ (phases i).Told

/-- What the three sets say about the board. -/
structure Accounts (b : Board) (marked listed counted : Finset String) : Prop where
  infos : ∀ r ∈ requests, b.infos r.uuid = if r.uuid ∈ marked then o.marked r.uuid else o.infos r.uuid
  day : ∀ uuid, b.day.uuids.count uuid = o.day.uuids.count uuid + if uuid ∈ listed then 1 else 0
  stands : b.world.pvpDay.get? area = some (todayOf area b.world)
  updateTime : (todayOf area b.world).updateTime = o.today.updateTime
  nums : (todayOf area b.world).nums = o.today.nums + counted.card
  rewardPool : (todayOf area b.world).rewardPool = o.today.rewardPool + ∑ uuid ∈ counted, (o.infos uuid).ticketDay
  room : (todayOf area b.world).nums ≤ numsLimit

/-- The books of a board. -/
structure Books (b : Board) (marked listed counted : Finset String) : Prop where
  listedMarked : listed ⊆ marked
  countedListed : counted ⊆ listed
  accounts : Accounts o area requests b marked listed counted
  ledger : Ledger o area requests b.phases marked listed counted

variable {o area requests} {b : Board} {marked listed counted : Finset String} {i : Nat} {r : Request}

theorem Known.mono {marked' : Finset String} {info : PvpInfo} (known : Known o marked r info)
    (more : marked ⊆ marked') : Known o marked' r info :=
  known.imp_right fun found => ⟨found.1, more found.2⟩

/-- The stage of a request outlives the steps of others, when its player is not the one they book. -/
theorem Phase.Stage.mono {marked' listed' counted' : Finset String} {phase : Phase}
    (stage : phase.Stage o area marked listed counted r) (more : marked ⊆ marked') (more' : listed ⊆ listed')
    (other : phase.Carries area → (r.uuid ∈ listed' → r.uuid ∈ listed) ∧ (r.uuid ∈ counted' → r.uuid ∈ counted)) :
    phase.Stage o area marked' listed' counted' r := by
  cases phase with
  | session => trivial
  | baseInfo => trivial
  | pvpInfo => trivial
  | pvpDay => exact Known.mono stage more
  | globalInfo => exact Known.mono stage more
  | savePvpInfo => exact ⟨stage.1.mono more, stage.2⟩
  | savePvpDay =>
    exact ⟨more stage.1, stage.2.1, fun entering =>
      ⟨(stage.2.2 entering).1, fun member => (stage.2.2 entering).2 ((other entering).1 member)⟩⟩
  | saveGlobalInfo =>
    exact ⟨more stage.1, stage.2.1, fun entering =>
      ⟨(stage.2.2 entering).1, more' (stage.2.2 entering).2.1,
        fun member => (stage.2.2 entering).2.2 ((other entering).2 member)⟩⟩
  | ended response =>
    cases response with
    | none => trivial
    | some response => exact fun passes => more (stage passes)

/-- Request `i` goes on to `phase`, and the sets grow by its player at most. -/
theorem Ledger.go {phases : Nat → Phase} {marked' listed' counted' : Finset String}
    (ledger : Ledger o area requests phases marked listed counted) (asked : requests[i]? = some r) {phase : Phase}
    (stage : phase.Stage o area marked' listed' counted' r) (more : marked ⊆ marked') (more' : listed ⊆ listed')
    (more'' : counted ⊆ counted')
    (only : ∀ uuid, uuid ≠ r.uuid →
      (uuid ∈ marked' → uuid ∈ marked) ∧ (uuid ∈ listed' → uuid ∈ listed) ∧ (uuid ∈ counted' → uuid ∈ counted))
    (free : ∀ j s, j ≠ i → requests[j]? = some s → s.uuid = r.uuid → (phases j).Carries area →
      listed' = listed ∧ counted' = counted ∧ ¬ phase.Carries area)
    (carry : r.uuid ∈ marked' → r.uuid ∉ counted' →
      phase.Carries area ∨ r.uuid ∈ marked ∧ r.uuid ∉ counted ∧ ¬ (phases i).Carries area)
    (tell : r.uuid ∈ counted' → phase.Told ∨ r.uuid ∈ counted) (untold : ¬ (phases i).Told) :
    Ledger o area requests (Function.update phases i phase) marked' listed' counted' := by
  have others : ∀ j, j ≠ i → Function.update phases i phase j = phases j := fun j different =>
    Function.update_of_ne different _ _
  have self : Function.update phases i phase i = phase := Function.update_self _ _ _
  have mine : ∀ s, requests[i]? = some s → s = r := fun s other => Option.some.inj (other.symm.trans asked)
  constructor
  · intro j s other
    by_cases same : j = i
    · subst same
      rw [self, mine s other]
      exact stage
    · rw [others j same]
      refine (ledger.stage j s other).mono more more' fun carries => ?_
      by_cases player : s.uuid = r.uuid
      · obtain ⟨list, count, -⟩ := free j s same other player carries
        exact ⟨fun member => list ▸ member, fun member => count ▸ member⟩
      · exact ⟨(only _ player).2.1, (only _ player).2.2⟩
  · intro j k s t other other' player carries carries'
    by_cases same : j = i
    · subst same
      by_cases same' : k = j
      · exact same'.symm
      · rw [others k same'] at carries'
        rw [self] at carries
        have whose : t.uuid = r.uuid := by rw [← player, mine s other]
        exact absurd carries (free k t same' other' whose carries').2.2
    · by_cases same' : k = i
      · subst same'
        rw [others j same] at carries
        rw [self] at carries'
        have whose : s.uuid = r.uuid := by rw [player, mine t other']
        exact absurd carries' (free j s same other whose carries).2.2
      · rw [others j same] at carries
        rw [others k same'] at carries'
        exact ledger.alone j k s t other other' player carries carries'
  · intro uuid member missing
    by_cases player : uuid = r.uuid
    · subst player
      rcases carry member missing with carries | ⟨before, absent, idle⟩
      · exact ⟨i, r, asked, rfl, by rw [self]; exact carries⟩
      · obtain ⟨j, s, other, whose, carries⟩ := ledger.carried _ before absent
        have apart : j ≠ i := by
          rintro rfl
          exact idle carries
        exact ⟨j, s, other, whose, by rw [others j apart]; exact carries⟩
    · obtain ⟨j, s, other, whose, carries⟩ :=
        ledger.carried uuid ((only uuid player).1 member) fun counted => missing (more'' counted)
      have apart : j ≠ i := by
        rintro rfl
        rw [mine s other] at whose
        exact player whose.symm
      exact ⟨j, s, other, whose, by rw [others j apart]; exact carries⟩
  · intro uuid member
    have old : uuid ∈ counted → ∃ j s, requests[j]? = some s ∧ s.uuid = uuid ∧
        (Function.update phases i phase j).Told := by
      intro before
      obtain ⟨j, s, other, whose, told⟩ := ledger.told uuid before
      have apart : j ≠ i := by
        rintro rfl
        exact untold told
      exact ⟨j, s, other, whose, by rw [others j apart]; exact told⟩
    by_cases player : uuid = r.uuid
    · subst player
      rcases tell member with told | before
      · exact ⟨i, r, asked, rfl, by rw [self]; exact told⟩
      · exact old before
    · exact old ((only uuid player).2.2 member)

/-- A step that books nothing. -/
theorem Books.go (books : Books o area requests b marked listed counted) (asked : requests[i]? = some r)
    {phase : Phase} (stage : phase.Stage o area marked listed counted r) (free : ¬ phase.Carries area)
    (before : ¬ (b.phases i).Carries area) (untold : ¬ (b.phases i).Told) :
    Books o area requests (b.go i phase) marked listed counted where
  listedMarked := books.listedMarked
  countedListed := books.countedListed
  accounts := ⟨books.accounts.infos, books.accounts.day, books.accounts.stands, books.accounts.updateTime,
    books.accounts.nums, books.accounts.rewardPool, books.accounts.room⟩
  ledger := books.ledger.go asked stage subset_rfl subset_rfl subset_rfl (fun _ _ => ⟨id, id, id⟩)
    (fun _ _ _ _ _ _ => ⟨rfl, rfl, free⟩) (fun member missing => .inr ⟨member, missing, before⟩) .inr untold

theorem failure_stage {errCode : Nat} (refused : ¬ ErrCode.passes errCode) :
    (Phase.ended (some (.failure errCode))).Stage o area marked listed counted r :=
  fun passes => absurd passes refused

/-- The handler's verdict on what was read. -/
theorem decided_stage (value : Value) {info : PvpInfo} (day : PvpDay) {world : GlobalInfo}
    (known : Known o marked r info) (updateTime : (todayOf area world).updateTime = o.today.updateTime) :
    (decided area r value info day world).Stage o area marked listed counted r ∧
      ¬ (decided area r value info day world).Carries area := by
  unfold decided
  split
  · split
    · exact ⟨⟨known, updateTime⟩, id⟩
    · rename_i refused
      exact ⟨failure_stage refused, id⟩
  · exact ⟨trivial, id⟩

/-- The player's own record is stored: it becomes marked, if the player enters. -/
theorem books_savePvpInfo (eligible : o.Eligible requests) (books : Books o area requests b marked listed counted)
    (asked : requests[i]? = some r) {value : Value} {info : PvpInfo} {day : PvpDay} {world : GlobalInfo}
    (phase : b.phases i = .savePvpInfo value info day world) (passed : Passed area r value info day world)
    (fresh : b.infos r.uuid = info) :
    ∃ marked', Books o area requests
      { b.go i (.savePvpDay value info day world) with
        infos := Function.update b.infos r.uuid (afterInfo info (todayOf area world)) } marked' listed counted := by
  have member : r ∈ requests := List.mem_of_getElem? asked
  have early := eligible.early r member
  have record := books.accounts.infos r member
  have stage := books.ledger.stage i r asked
  rw [phase] at stage
  obtain ⟨known, updateTime⟩ := stage
  have untold : ¬ (b.phases i).Told := by rw [phase]; exact id
  obtain ⟨handled, ran, passes, stands⟩ := passed
  obtain ⟨-, -, -, -, verdict⟩ := enrollPvpDay_leaves stands ran passes
  by_cases entering : enters info (todayOf area world)
  · -- the record was not marked yet: a marked one carries the tournament's own time
    have unmarked : r.uuid ∉ marked := by
      intro there
      rw [if_pos there, fresh] at record
      have late := entering.1
      rw [record, updateTime] at late
      exact lt_irrefl _ late
    rw [if_neg unmarked, fresh] at record
    refine ⟨insert r.uuid marked, ⟨books.listedMarked.trans (Finset.subset_insert _ _), books.countedListed, ?_, ?_⟩⟩
    · refine { books.accounts with infos := fun s there => ?_ }
      by_cases same : s.uuid = r.uuid
      · rw [same, if_pos (Finset.mem_insert_self _ _)]
        dsimp only
        rw [Function.update_self, afterInfo, if_pos entering, record, updateTime]
        rfl
      · dsimp only
        rw [Function.update_of_ne same]
        refine (books.accounts.infos s there).trans ?_
        simp [same]
    · have stage : Phase.Stage o area (insert r.uuid marked) listed counted r (.savePvpDay value info day world) :=
        ⟨Finset.mem_insert_self _ _, updateTime, fun _ => ⟨record, fun there => unmarked (books.listedMarked there)⟩⟩
      refine books.ledger.go asked stage
        (Finset.subset_insert _ _) subset_rfl subset_rfl ?_ ?_ (fun _ _ => .inl entering) .inr untold
      · exact fun uuid other => ⟨fun there => (Finset.mem_insert.mp there).resolve_left other, id, id⟩
      · intro j s apart other player carries
        have carrier := books.ledger.stage j s other
        have there : s.uuid ∈ marked := by
          cases at' : b.phases j with
          | savePvpDay => rw [at'] at carrier; exact carrier.1
          | saveGlobalInfo => rw [at'] at carrier; exact carrier.1
          | _ => rw [at'] at carries; exact carries.elim
        exact absurd (player ▸ there) unmarked
  · -- the record was marked by an earlier request
    have late : o.today.updateTime ≤ info.myTime := updateTime ▸ verdict.resolve_left entering
    have there : r.uuid ∈ marked := by
      rcases known with same | ⟨-, there⟩
      · rw [same] at late
        exact absurd early (not_lt.mpr late)
      · exact there
    have same : Function.update b.infos r.uuid (afterInfo info (todayOf area world)) = b.infos := by
      rw [afterInfo, if_neg entering, ← fresh]
      exact Function.update_eq_self _ _
    refine ⟨marked, ?_⟩
    rw [same]
    exact books.go asked (show Phase.Stage _ _ _ _ _ _ (.savePvpDay value info day world) from
      ⟨there, updateTime, fun entering' => absurd entering' entering⟩) entering (by rw [phase]; exact id) untold

/-- The list is stored: the player is in it, if the player enters. -/
theorem books_savePvpDay (books : Books o area requests b marked listed counted)
    (asked : requests[i]? = some r) {value : Value} {info : PvpInfo} {day : PvpDay} {world : GlobalInfo}
    (phase : b.phases i = .savePvpDay value info day world) (fresh : b.day = day) :
    ∃ listed', Books o area requests
      { b.go i (.saveGlobalInfo value info day world) with
        day := afterDay r.uuid info day (todayOf area world) } marked listed' counted := by
  have stage := books.ledger.stage i r asked
  rw [phase] at stage
  obtain ⟨there, updateTime, enter⟩ := stage
  have untold : ¬ (b.phases i).Told := by rw [phase]; exact id
  by_cases entering : enters info (todayOf area world)
  · obtain ⟨record, unlisted⟩ := enter entering
    have carries : (b.phases i).Carries area := by rw [phase]; exact entering
    refine ⟨insert r.uuid listed, ⟨Finset.insert_subset there books.listedMarked,
      books.countedListed.trans (Finset.subset_insert _ _), ?_, ?_⟩⟩
    · refine { books.accounts with day := fun uuid => ?_ }
      have before := books.accounts.day uuid
      dsimp only
      rw [afterDay, if_pos entering, enteredDay, ← fresh]
      dsimp only
      rw [List.count_append, before, List.count_singleton]
      by_cases same : r.uuid = uuid
      · subst same
        simp [unlisted]
      · simp [same, Ne.symm same]
    · have stage : Phase.Stage o area marked (insert r.uuid listed) counted r (.saveGlobalInfo value info day world) :=
        ⟨there, updateTime, fun _ =>
          ⟨record, Finset.mem_insert_self _ _, fun member => unlisted (books.countedListed member)⟩⟩
      refine books.ledger.go asked stage subset_rfl (Finset.subset_insert _ _) subset_rfl ?_ ?_ (fun _ _ => .inl entering) .inr untold
      · exact fun uuid other => ⟨id, fun member => (Finset.mem_insert.mp member).resolve_left other, id⟩
      · exact fun j s apart other player carries' =>
          absurd (books.ledger.alone j i s r other asked player carries' carries) apart
  · have same : afterDay r.uuid info day (todayOf area world) = b.day := by rw [afterDay, if_neg entering, fresh]
    refine ⟨listed, ?_⟩
    rw [same]
    exact books.go asked (show Phase.Stage _ _ _ _ _ _ (.saveGlobalInfo value info day world) from
      ⟨there, updateTime, fun entering' => absurd entering' entering⟩) entering (by rw [phase]; exact entering) untold

/-- The numbers are stored: the player is counted, if the player enters. -/
theorem books_saveGlobalInfo (books : Books o area requests b marked listed counted)
    (asked : requests[i]? = some r) {value : Value} {info : PvpInfo} {day : PvpDay} {world : GlobalInfo}
    (phase : b.phases i = .saveGlobalInfo value info day world) (passed : Passed area r value info day world)
    (fresh : b.world = world) :
    ∃ counted', Books o area requests
      { b.go i (.ended (answered area r value info day world)) with
        world := afterGlobal area info world (todayOf area world) } marked listed counted' := by
  have stage := books.ledger.stage i r asked
  rw [phase] at stage
  obtain ⟨there, updateTime, enter⟩ := stage
  have untold : ¬ (b.phases i).Told := by rw [phase]; exact id
  obtain ⟨handled, ran, passes, stands⟩ := passed
  have answer : answered area r value info day world = some ⟨handled.code, handled.outArgs⟩ := by
    rw [answered, ran, Option.map_some]
  rw [answer]
  have accounts := books.accounts
  by_cases entering : enters info (todayOf area world)
  · obtain ⟨record, listed', uncounted⟩ := enter entering
    have carries : (b.phases i).Carries area := by rw [phase]; exact entering
    have numbers : todayOf area (afterGlobal area info world (todayOf area world)) =
        enteredToday info (todayOf area world) := by
      rw [afterGlobal, if_pos entering, todayOf, Obj.get?_set_self, Option.getD_some]
    have updateTime' := accounts.updateTime
    have nums := accounts.nums
    have rewardPool := accounts.rewardPool
    rw [fresh] at updateTime' nums rewardPool
    refine ⟨insert r.uuid counted, ⟨books.listedMarked, Finset.insert_subset listed' books.countedListed, ?_, ?_⟩⟩
    · refine ⟨accounts.infos, accounts.day, ?_, ?_, ?_, ?_, ?_⟩
      · dsimp only
        rw [numbers, afterGlobal, if_pos entering, Obj.get?_set_self]
      · dsimp only
        rw [numbers]
        exact updateTime'
      · dsimp only
        rw [numbers, Finset.card_insert_of_notMem uncounted, enteredToday, nums]
        push_cast
        omega
      · dsimp only
        rw [numbers, Finset.sum_insert uncounted, enteredToday, rewardPool, record]
        dsimp only
        omega
      · dsimp only
        rw [numbers, enteredToday]
        have space := entering.2.2
        dsimp only
        omega
    · have stage : Phase.Stage o area marked listed (insert r.uuid counted) r
          (.ended (some ⟨handled.code, handled.outArgs⟩)) := fun _ => there
      refine books.ledger.go asked stage subset_rfl subset_rfl (Finset.subset_insert _ _) ?_ ?_ ?_ ?_ untold
      · exact fun uuid other => ⟨id, id, fun member => (Finset.mem_insert.mp member).resolve_left other⟩
      · exact fun j s apart other player carries' =>
          absurd (books.ledger.alone j i s r other asked player carries' carries) apart
      · exact fun _ missing => absurd (Finset.mem_insert_self _ _) missing
      · exact fun _ => .inl passes
  · have same : afterGlobal area info world (todayOf area world) = b.world := by
      rw [afterGlobal, if_neg entering, fresh]
    refine ⟨counted, ?_⟩
    rw [same]
    exact books.go asked (show Phase.Stage _ _ _ _ _ _ (.ended (some ⟨handled.code, handled.outArgs⟩)) from
      fun _ => there) id (by rw [phase]; exact entering) untold

/-- A step of the board keeps the books, when it stores only what it finds as read. -/
theorem books_move (base : String → Option Value) (eligible : o.Eligible requests)
    (books : Books o area requests b marked listed counted)
    (standing : ∀ i r, requests[i]? = some r → (b.phases i).Stands area r) (fresh : b.Fresh requests i) :
    ∃ marked' listed' counted', Books o area requests (b.move area base requests i) marked' listed' counted' := by
  cases asked : requests[i]? with
  | none =>
    simp only [Board.move, asked]
    exact ⟨_, _, _, books⟩
  | some r =>
    have there : r ∈ requests := List.mem_of_getElem? asked
    have finds := fresh r asked
    have passed := standing i r asked
    have stage := books.ledger.stage i r asked
    have record : Known o marked r (b.infos r.uuid) := by
      rw [books.accounts.infos r there]
      split
      · rename_i member
        exact .inr ⟨rfl, member⟩
      · exact .inl rfl
    simp only [Board.move, asked]
    cases phase : b.phases i with
    | session => exact ⟨_, _, _, books.go asked trivial id (by rw [phase]; exact id) (by rw [phase]; exact id)⟩
    | baseInfo =>
      have refused : ¬ ErrCode.passes 2001 := by decide
      have failed := books.go asked (failure_stage refused) id (by rw [phase]; exact id) (by rw [phase]; exact id)
      cases base r.uuid with
      | none => exact ⟨_, _, _, failed⟩
      | some value =>
        dsimp only
        split
        · exact ⟨_, _, _, books.go asked trivial id (by rw [phase]; exact id) (by rw [phase]; exact id)⟩
        · exact ⟨_, _, _, failed⟩
    | pvpInfo value => exact ⟨_, _, _, books.go asked record id (by rw [phase]; exact id) (by rw [phase]; exact id)⟩
    | pvpDay value info =>
      rw [phase] at stage
      exact ⟨_, _, _, books.go asked stage id (by rw [phase]; exact id) (by rw [phase]; exact id)⟩
    | globalInfo value info day =>
      rw [phase] at stage
      obtain ⟨stage', free⟩ := decided_stage value day stage books.accounts.updateTime
      exact ⟨_, _, _, books.go asked stage' free (by rw [phase]; exact id) (by rw [phase]; exact id)⟩
    | savePvpInfo value info day world =>
      rw [phase] at finds passed
      obtain ⟨marked', kept⟩ := books_savePvpInfo eligible books asked phase passed finds
      exact ⟨_, _, _, kept⟩
    | savePvpDay value info day world =>
      rw [phase] at finds
      obtain ⟨listed', kept⟩ := books_savePvpDay books asked phase finds
      exact ⟨_, _, _, kept⟩
    | saveGlobalInfo value info day world =>
      rw [phase] at finds passed
      obtain ⟨counted', kept⟩ := books_saveGlobalInfo books asked phase passed finds
      exact ⟨_, _, _, kept⟩
    | ended response => exact ⟨_, _, _, books⟩

end

/-! ### Runs -/

section
variable (matching : BaseInfo → Query (Option Value)) (o : Opening) (area : String) (store : Store Value)
  (requests : List Request)

/-- The store when the requests come in. -/
structure Opens : Prop where
  sessions : ∀ r ∈ requests, store.sessions.get? r.sid = some ⟨area, r.uuid⟩
  infos : ∀ r ∈ requests, store.strings.get? (pvpInfoKey area r.uuid) = some (.pvpInfo (o.infos r.uuid))
  day : store.strings.get? (pvpDayKey area) = some (.pvpDay o.day)
  world : ∃ world, store.strings.get? globalInfoKey = some (.globalInfo world) ∧ world.pvpDay.get? area = some o.today
  distinct : DistinctKeys area requests
  eligible : o.Eligible requests

/-- The requests before their first step. -/
def incoming : AgentPool :=
  Pool.init store (requests.map fun r => bindFunCallback matching enrollPvpDay "enrollPvpDay" r.inArgs r.sid)

/-- The players with a response that says they are enrolled. -/
def told (pool : AgentPool) : Finset String :=
  ((requests.zip pool.programs).filterMap fun entry => match entry.2 with
    | .done (some response) => if ErrCode.passes response.retCode then some entry.1.uuid else none
    | _ => none).toFinset

/-- Nobody is lost, nobody is counted twice, and the area never has more players than it may. -/
def NoneLost (pool : AgentPool) : Prop :=
  ∃ day world today, pool.store.strings.get? (pvpDayKey area) = some (.pvpDay day) ∧
    pool.store.strings.get? globalInfoKey = some (.globalInfo world) ∧ world.pvpDay.get? area = some today ∧
    today.nums ≤ numsLimit ∧
    (pool.Quiet →
      (∀ uuid ∈ told requests pool, day.uuids.count uuid = 1) ∧
      (∀ uuid, uuid ∉ told requests pool → day.uuids.count uuid = o.day.uuids.count uuid) ∧
      today.nums = o.today.nums + (told requests pool).card ∧
      today.rewardPool = o.today.rewardPool + ∑ uuid ∈ told requests pool, (o.infos uuid).ticketDay)

variable {matching o area store requests}

theorem mem_told {pool : AgentPool} {uuid : String} :
    uuid ∈ told requests pool ↔ ∃ (i : Nat) (r : Request) (response : Response), requests[i]? = some r ∧ r.uuid = uuid ∧
      pool.programs[i]? = some (.done (some response)) ∧ ErrCode.passes response.retCode := by
  unfold told
  rw [List.mem_toFinset, List.mem_filterMap]
  constructor
  · rintro ⟨⟨r, program⟩, member, found⟩
    obtain ⟨i, zipped⟩ := List.mem_iff_getElem?.mp member
    obtain ⟨asked, running⟩ := List.getElem?_zip_eq_some.mp zipped
    dsimp only at found asked running
    split at found
    · rename_i response
      split at found
      · rename_i passes
        exact ⟨i, r, response, asked, Option.some.inj found, running, passes⟩
      · cases found
    · cases found
  · rintro ⟨i, r, response, asked, rfl, running, passes⟩
    exact ⟨(r, .done (some response)), List.mem_iff_getElem?.mpr ⟨i, List.getElem?_zip_eq_some.mpr ⟨asked, running⟩⟩,
      if_pos passes⟩

/-- Where the board stands when the requests come in. -/
def Opening.board (o : Opening) (world : GlobalInfo) : Board := ⟨o.infos, o.day, world, fun _ => .session⟩

theorem incoming_holds (opens : Opens o area store requests) {world : GlobalInfo}
    (found : store.strings.get? globalInfoKey = some (.globalInfo world)) :
    Holds area (fun uuid => store.strings.get? (baseInfoKey area uuid)) requests
      (incoming matching store requests).store (o.board world) :=
  ⟨opens.sessions, fun _ _ => rfl, opens.infos, opens.day, found⟩

theorem incoming_runs (world : GlobalInfo) :
    Runs matching area requests (incoming matching store requests) (o.board world).phases where
  length := by simp [incoming, Pool.init]
  programs i r asked := by simp [incoming, Pool.init, asked, Opening.board, code]
  stands _ _ _ := trivial
  reads i r asked entry member := absurd member List.not_mem_nil

theorem incoming_books (opens : Opens o area store requests) {world : GlobalInfo}
    (today : world.pvpDay.get? area = some o.today) : Books o area requests (o.board world) ∅ ∅ ∅ := by
  have same : todayOf area world = o.today := by rw [todayOf, today, Option.getD_some]
  refine ⟨subset_rfl, subset_rfl, ⟨fun r there => ?_, fun uuid => ?_, ?_, ?_, ?_, ?_, ?_⟩, ?_⟩
  · simp [Opening.board]
  · simp [Opening.board]
  · exact today.trans (congrArg some same.symm)
  · exact congrArg AreaDay.updateTime same
  · simp [Opening.board, same]
  · simp [Opening.board, same]
  · simpa [Opening.board, same] using opens.eligible.room
  · exact ⟨fun _ _ _ => trivial, fun _ _ _ _ _ _ _ carries => carries.elim,
      fun uuid member => absurd member (Finset.notMem_empty _), fun uuid member => absurd member (Finset.notMem_empty _)⟩

/-- A run of the pool is a run of the board. -/
theorem represents_run {base : String → Option Value} (distinct : DistinctKeys area requests) {pool : AgentPool}
    {b : Board} (holds : Holds area base requests pool.store b) (runs : Runs matching area requests pool b.phases)
    (events : List Nat) :
    Holds area base requests (run move pool events).store (run (Board.move area base requests) b events) ∧
      Runs matching area requests (run move pool events) (run (Board.move area base requests) b events).phases := by
  induction events generalizing pool b with
  | nil => exact ⟨holds, runs⟩
  | cons i rest ih =>
    obtain ⟨holds', runs'⟩ := represents_move distinct holds runs i
    exact ih holds' runs'

/-- The books are kept over a run whose stores find everything as read. -/
theorem books_run {base : String → Option Value} (distinct : DistinctKeys area requests) (eligible : o.Eligible requests)
    {pool : AgentPool} {b : Board} {marked listed counted : Finset String}
    (holds : Holds area base requests pool.store b) (runs : Runs matching area requests pool b.phases)
    (books : Books o area requests b marked listed counted) {events : List Nat}
    (fresh : Along move Redis.Fresh pool events) :
    ∃ b' marked' listed' counted', Holds area base requests (run move pool events).store b' ∧
      Runs matching area requests (run move pool events) b'.phases ∧
      Books o area requests b' marked' listed' counted' := by
  induction events generalizing pool b marked listed counted with
  | nil => exact ⟨b, _, _, _, holds, runs, books⟩
  | cons i rest ih =>
    obtain ⟨first, later⟩ := fresh
    obtain ⟨holds', runs'⟩ := represents_move distinct holds runs i
    obtain ⟨_, _, _, books'⟩ := books_move base eligible books runs.stands (fresh_board holds runs first)
    exact ih holds' runs' books' later

/-- A request whose program has ended is in its last phase. -/
theorem code_done {r : Request} {phase : Phase} {result : Option Response} (stands : phase.Stands area r)
    (ended : code matching area r phase = .done result) : phase = .ended result := by
  cases phase with
  | session => obtain ⟨_, step, -⟩ := code_session matching area r; rw [step] at ended; cases ended
  | baseInfo => obtain ⟨_, step, -⟩ := code_baseInfo matching area r; rw [step] at ended; cases ended
  | pvpInfo value =>
    obtain ⟨_, step, -⟩ := code_pvpInfo matching area r value ⟨0, 0, 0⟩
    rw [step] at ended
    cases ended
  | pvpDay value info =>
    obtain ⟨_, step, -⟩ := code_pvpDay matching area r value info ⟨"", []⟩
    rw [step] at ended
    cases ended
  | globalInfo value info day =>
    obtain ⟨_, step, -⟩ := code_globalInfo matching area r value info day ⟨∅⟩
    rw [step] at ended
    cases ended
  | savePvpInfo value info day world =>
    obtain ⟨handled, ran, passes, today⟩ := stands
    obtain ⟨⟨_, step, -⟩, -, -⟩ := code_save matching today ran passes
    rw [step] at ended
    cases ended
  | savePvpDay value info day world =>
    obtain ⟨handled, ran, passes, today⟩ := stands
    obtain ⟨-, ⟨_, step, -⟩, -⟩ := code_save matching today ran passes
    rw [step] at ended
    cases ended
  | saveGlobalInfo value info day world =>
    obtain ⟨handled, ran, passes, today⟩ := stands
    obtain ⟨-, -, ⟨_, step, -⟩⟩ := code_save matching today ran passes
    rw [step] at ended
    cases ended
  | ended response =>
    rw [code] at ended
    cases ended
    rfl

theorem quiet_of_ended {pool : AgentPool} {phases : Nat → Phase} (runs : Runs matching area requests pool phases)
    (isOver : ∀ i r, requests[i]? = some r → ∃ result, phases i = .ended result) : pool.Quiet := by
  intro program member
  obtain ⟨i, running⟩ := List.mem_iff_getElem?.mp member
  have short : i < requests.length := runs.length ▸ (List.getElem?_eq_some_iff.mp running).1
  have asked := List.getElem?_eq_getElem short
  obtain ⟨result, last⟩ := isOver i _ asked
  have ended := runs.programs i _ asked
  rw [last, code, running] at ended
  exact ⟨result, Option.some.inj ended⟩

/-- When everybody has been answered, those who were told are those who were counted. -/
theorem told_eq {pool : AgentPool} {b : Board} {marked listed counted : Finset String}
    (runs : Runs matching area requests pool b.phases) (books : Books o area requests b marked listed counted)
    (quiet : pool.Quiet) : told requests pool = counted ∧ listed = counted := by
  have isOver : ∀ i r, requests[i]? = some r → ∃ result, b.phases i = .ended result ∧
      pool.programs[i]? = some (.done result) := by
    intro i r asked
    have running := runs.programs i r asked
    obtain ⟨result, ended⟩ := quiet _ (List.mem_of_getElem? running)
    have last := code_done (runs.stands i r asked) ended
    exact ⟨result, last, running.trans (congrArg some ended)⟩
  have all : marked ⊆ counted := by
    intro uuid member
    by_contra missing
    obtain ⟨i, r, asked, -, carries⟩ := books.ledger.carried uuid member missing
    obtain ⟨result, last, -⟩ := isOver i r asked
    rw [last] at carries
    exact carries
  refine ⟨Finset.Subset.antisymm ?_ ?_, Finset.Subset.antisymm (books.listedMarked.trans all) books.countedListed⟩
  · intro uuid member
    obtain ⟨i, r, response, asked, rfl, running, passes⟩ := mem_told.mp member
    obtain ⟨result, last, running'⟩ := isOver i r asked
    rw [running] at running'
    cases running'
    have stage := books.ledger.stage i r asked
    rw [last] at stage
    exact all (stage passes)
  · intro uuid member
    obtain ⟨i, r, asked, player, passed⟩ := books.ledger.told uuid member
    obtain ⟨result, last, running⟩ := isOver i r asked
    rw [last] at passed
    cases result with
    | none => exact passed.elim
    | some response => exact mem_told.mpr ⟨i, r, response, asked, player, running, passed⟩

/-- **Enrolment.** In a run of enrolment requests in which every store finds the entity as its
request read it, no enrolment is lost. -/
theorem enrolment_counted (opens : Opens o area store requests) {events : List Nat}
    (fresh : Along move Redis.Fresh (incoming matching store requests) events) :
    NoneLost o area requests (run move (incoming matching store requests) events) := by
  obtain ⟨world, found, today⟩ := opens.world
  obtain ⟨b, marked, listed, counted, holds, runs, books⟩ := books_run opens.distinct opens.eligible
    (incoming_holds opens found) (incoming_runs world) (incoming_books opens today) fresh
  have accounts := books.accounts
  refine ⟨b.day, b.world, todayOf area b.world, holds.day, holds.world, accounts.stands, accounts.room, fun quiet => ?_⟩
  obtain ⟨same, same'⟩ := told_eq runs books quiet
  rw [same]
  refine ⟨fun uuid member => ?_, fun uuid missing => ?_, accounts.nums, accounts.rewardPool⟩
  · have player : ∃ r ∈ requests, r.uuid = uuid := by
      obtain ⟨i, r, asked, player, -⟩ := books.ledger.told uuid member
      exact ⟨r, List.mem_of_getElem? asked, player⟩
    obtain ⟨r, there, rfl⟩ := player
    rw [accounts.day, if_pos (same' ▸ member), List.count_eq_zero_of_not_mem (opens.eligible.unlisted r there)]
  · rw [accounts.day, if_neg (same' ▸ missing), Nat.add_zero]

theorem along_fresh {base : String → Option Value} (distinct : DistinctKeys area requests) {pool : AgentPool} {b : Board}
    (holds : Holds area base requests pool.store b) (runs : Runs matching area requests pool b.phases)
    {events : List Nat} (along : Along (Board.move area base requests) (Board.Fresh requests) b events) :
    Along move Redis.Fresh pool events := by
  induction events generalizing pool b with
  | nil => trivial
  | cons i rest ih =>
    obtain ⟨holds', runs'⟩ := represents_move distinct holds runs i
    exact ⟨fresh_pool holds runs along.1, ih holds' runs' along.2⟩

end

/-! ### Two players -/

namespace TwoPlayers

def requests : List Request := [⟨"s0", "ann", ∅⟩, ⟨"s1", "bob", ∅⟩]

def opening : Opening := ⟨fun _ => ⟨20, 0, 0⟩, ⟨"1", []⟩, ⟨0, 0, 0, 7⟩⟩

def world : GlobalInfo := ⟨Obj.set ∅ "1" opening.today⟩

def player (uuid : String) : Value := .baseInfo ⟨"1", uuid, 0, []⟩

def store : Store Value where
  sessions := (Obj.set ∅ "s0" ⟨"1", "ann"⟩).set "s1" ⟨"1", "bob"⟩
  strings := (((((Obj.set ∅ (baseInfoKey "1" "ann") (player "ann")).set (baseInfoKey "1" "bob") (player "bob")).set
    (pvpInfoKey "1" "ann") (.pvpInfo (opening.infos "ann"))).set
    (pvpInfoKey "1" "bob") (.pvpInfo (opening.infos "bob"))).set
    (pvpDayKey "1") (.pvpDay opening.day)).set globalInfoKey (.globalInfo world)
  hashes := ∅

theorem distinct : DistinctKeys "1" requests := by
  intro r there s there'
  simp only [requests, List.mem_cons, List.not_mem_nil, or_false] at there there'
  rcases there with rfl | rfl <;> rcases there' with rfl | rfl <;> decide

theorem opens : Opens opening "1" store requests where
  sessions r there := by
    simp only [requests, List.mem_cons, List.not_mem_nil, or_false] at there
    rcases there with rfl | rfl <;> rfl
  infos r there := by
    simp only [requests, List.mem_cons, List.not_mem_nil, or_false] at there
    rcases there with rfl | rfl <;> simp [store, Obj.get?_set, pvpInfoKey_ne_day, pvpInfoKey_ne_global]
    decide
  day := by simp [store, Obj.get?_set, pvpDayKey_ne_global]
  world := ⟨world, Obj.get?_set_self _ _ _, Obj.get?_set_self _ _ _⟩
  distinct := distinct
  eligible := by
    refine ⟨fun r _ => ?_, fun r _ => List.not_mem_nil, by decide⟩
    show (0 : Int) < 7
    decide

/-- Nobody looks for opponents here. -/
def matching : BaseInfo → Query (Option Value) := fun _ => .done none

def base (uuid : String) : Option Value := store.strings.get? (baseInfoKey "1" uuid)

theorem holds : Holds "1" base requests (incoming matching store requests).store (opening.board world) :=
  incoming_holds opens (Obj.get?_set_self _ _ _)

/-- One player after the other. -/
def inTurn : List Nat := List.replicate 8 0 ++ List.replicate 8 1

/-- Both players read everything before either stores. -/
def crossed : List Nat := [0, 0, 0, 0, 0, 1, 1, 1, 1, 1, 0, 0, 0, 1, 1, 1]

theorem inTurn_fresh : Along move Redis.Fresh (incoming matching store requests) inTurn := by
  refine along_fresh distinct holds (incoming_runs world) (along_append.mpr ?_)
  have start : (opening.board world).Current ⟨"s0", "ann", ∅⟩ ((opening.board world).phases 0) := trivial
  obtain ⟨first, wait⟩ := start.alone_fresh (show requests[0]? = _ from rfl) 8
  have next : (run (Board.move "1" base requests) (opening.board world) (List.replicate 8 0)).Current ⟨"s1", "bob", ∅⟩
      ((run (Board.move "1" base requests) (opening.board world) (List.replicate 8 0)).phases 1) := by
    rw [wait 1 (by decide)]
    trivial
  exact ⟨first, (next.alone_fresh (show requests[1]? = _ from rfl) 8).1⟩

/-- Two players enrol one after the other and both are counted. -/
theorem enrolment_counted_in_turn :
    NoneLost opening "1" requests (run move (incoming matching store requests) inTurn) :=
  enrolment_counted opens inTurn_fresh

/-- What the response shows of the area: one player and one stake. -/
def shown : Response := ⟨ErrCode.success, [("pvpDay", .areaDay "1" ⟨20, 1, 0, 7⟩)]⟩

theorem crossed_ends : (run (Board.move "1" base requests) (opening.board world) crossed).day = ⟨"1", ["bob"]⟩ ∧
    (run (Board.move "1" base requests) (opening.board world) crossed).phases 0 = .ended (some shown) ∧
    (run (Board.move "1" base requests) (opening.board world) crossed).phases 1 = .ended (some shown) :=
  ⟨rfl, rfl, rfl⟩

/-- Both players are told that they are enrolled, and only one of them is in the list. -/
theorem enrolment_lost : Opens opening "1" store requests ∧
    ¬ NoneLost opening "1" requests (run move (incoming matching store requests) crossed) := by
  refine ⟨opens, ?_⟩
  rintro ⟨day, _, _, found, -, -, -, counted⟩
  obtain ⟨holds, runs⟩ := represents_run distinct holds (incoming_runs world) crossed
  obtain ⟨list, first, second⟩ := crossed_ends
  generalize run (Board.move "1" base requests) (opening.board world) crossed = b
    at holds runs list first second
  have ann := runs.programs 0 ⟨"s0", "ann", ∅⟩ rfl
  rw [first, code] at ann
  have quiet : (run move (incoming matching store requests) crossed).Quiet := by
    refine quiet_of_ended runs fun i r asked => ?_
    rcases i with _ | _ | i
    · exact ⟨_, first⟩
    · exact ⟨_, second⟩
    · cases asked
  have once := (counted quiet).1 "ann" (mem_told.mpr ⟨0, _, _, rfl, rfl, ann, by decide⟩)
  rw [holds.day] at found
  cases found
  rw [list] at once
  exact absurd once (by decide)

end TwoPlayers
end Tinygame.Pvp
