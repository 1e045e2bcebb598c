import Tinygame.Pvp.PowerOrder

/-!
# Where the players are listed

What the board owes the players: an entry that a full range has pushed out is owed until its player
comes in again or leaves. Along an orderly run each player is owed one entry at rest, and the request
that is changing the player knows what is missing.
-/

namespace Tinygame.PowerIndex
open Redis

/-! ### Entries owed -/

/-- The entries of the range after the player has come in or gone. -/
def gone (u : UserArea) (field : String) (evicted : List (UserArea × String)) : List (UserArea × String) :=
  evicted.filter (· ≠ (u, field))

/-- Coming in may push out another player. -/
def entered (u : UserArea) (field : String) (bucket : Option Value) (evicted : List (UserArea × String)) :
    List (UserArea × String) :=
  (lruEvicted u (dataMap 0 bucket)).toList.map (·, field) ++ gone u field evicted

instance : LawfulBEq (UserArea × String) := inferInstance

/-- How often the player is listed in the range, an evicted entry included. -/
def owed (buckets : String → Option Value) (evicted : List (UserArea × String)) (u : UserArea) (field : String) : Nat :=
  (entries (buckets field)).count u + if (u, field) ∈ evicted then 1 else 0

section
variable {buckets : String → Option Value} {evicted : List (UserArea × String)} {u v : UserArea} {field other : String}

theorem mem_gone : (v, other) ∈ gone u field evicted ↔ (v, other) ∈ evicted ∧ ¬ (v = u ∧ other = field) := by
  rw [gone, List.mem_filter, decide_eq_true_iff, Ne, Prod.mk.injEq]

theorem mem_entered {bucket : Option Value} : (v, other) ∈ entered u field bucket evicted ↔
    (lruEvicted u (dataMap 0 bucket) = some v ∧ other = field) ∨ (v, other) ∈ evicted ∧ ¬ (v = u ∧ other = field) := by
  rw [entered, List.mem_append, mem_gone]
  simp [Option.mem_toList, eq_comm]

theorem owed_elsewhere (evicted : List (UserArea × String)) {range : Option Value}
    {evicted' : List (UserArea × String)} (different : other ≠ field)
    (same : (v, other) ∈ evicted' ↔ (v, other) ∈ evicted) :
    owed (Function.update buckets field range) evicted' v other = owed buckets evicted v other := by
  unfold owed
  rw [Function.update_of_ne different]
  simp only [same]

theorem owed_leave (buckets : String → Option Value) (evicted : List (UserArea × String)) (v : UserArea) (other : String)
    {base : BaseInfo} (player : base.userArea = u) (once : ∀ v, owed buckets evicted v field ≤ 1) :
    owed (Function.update buckets field (some (.power (leave base (buckets field))))) (gone u field evicted) v other =
      if v = u ∧ other = field then 0 else owed buckets evicted v other := by
  by_cases there : other = field
  · subst there
    have count := count_lruRemove u v (dataMap (getPowerId base.power) (buckets other))
    rw [dataMap_keys] at count
    have bound := once v
    unfold owed at bound ⊢
    simp only [Function.update_self, entries_power, leave, player, count, mem_gone, and_true]
    by_cases same : v = u
    · subst same
      simp only [if_true, not_true, and_false, if_false]
      omega
    · simp [same]
  · rw [owed_elsewhere evicted there (by simp [mem_gone, there]), if_neg fun both => there both.2]

theorem owed_enter (buckets : String → Option Value) (evicted : List (UserArea × String)) (v : UserArea) (other : String)
    {base : BaseInfo} (player : base.userArea = u) (once : ∀ v, owed buckets evicted v field ≤ 1) :
    owed (Function.update buckets field (some (.power (enter base (buckets field)))))
        (entered u field (buckets field) evicted) v other =
      if v = u ∧ other = field then 1 else owed buckets evicted v other := by
  by_cases there : other = field
  · subst there
    have count := count_lruSet u v (dataMap (getPowerId base.power) (buckets other))
    have evicts : lruEvicted u (dataMap (getPowerId base.power) (buckets other)) =
        lruEvicted u (dataMap 0 (buckets other)) := by
      unfold lruEvicted
      rw [dataMap_keys, dataMap_keys]
    have own := lruEvicted_ne u (dataMap 0 (buckets other))
    have pushed := lruEvicted_listed u v (dataMap 0 (buckets other))
    rw [dataMap_keys] at count own pushed
    rw [evicts] at count
    have bound := once v
    unfold owed at bound ⊢
    simp only [Function.update_self, entries_power, enter, player, count, mem_entered, and_true]
    by_cases same : v = u
    · subst same
      have stays := own (by omega)
      simp only [stays, if_true, if_false, not_true, and_false, or_false, Nat.sub_zero, Nat.add_zero]
      omega
    · by_cases out : lruEvicted u (dataMap 0 (buckets other)) = some v
      · have before := pushed out same
        simp only [out, same, if_true, if_false, true_or, Nat.sub_zero, Nat.add_zero]
        omega
      · simp [out, same]
  · rw [owed_elsewhere evicted there (by simp [mem_entered, there]), if_neg fun both => there both.2]

end

/-! ### The ledger -/

/-- The base infos and entries the requests come upon. -/
structure Opening where
  bases : UserArea → BaseInfo
  listed : UserArea → String → Nat

/-- Nobody is listed twice, and the players of the requests nowhere but in the range of their power. -/
structure Opening.Eligible (o : Opening) (requests : List Request) : Prop where
  named : ∀ r ∈ requests, (o.bases r.player).userArea = r.player
  once : ∀ u field, o.listed u field ≤ 1
  placed : ∀ r ∈ requests, ∀ field, field ≠ range (o.bases r.player).power → o.listed r.player field = 0

/-- A player nobody is busy with; `touched` players have been set. -/
structure Rest (o : Opening) (u : UserArea) (touched : Prop) (base : BaseInfo) (owed : String → Nat) : Prop where
  placed : touched → ∀ field, owed field = if field = range base.power then 1 else 0
  kept : ¬ touched → base = o.bases u ∧ ∀ field, owed field = o.listed u field

/-- A player that is about to leave the range of `base`, or has left it. -/
def Leaving (base : BaseInfo) (owed : String → Nat) : Removal → Prop
  | .find old | .save old _ => old = base ∧ ∀ field, field ≠ range base.power → owed field = 0
  | .ended => ∀ field, owed field = 0
  | .unstarted => False

def Removal.old? : Removal → Option BaseInfo
  | .find base | .save base _ => some base
  | _ => none

section
variable (getPlayerPower : BaseInfo → Option Value → Option Value → Nat) (o : Opening) (requests : List Request)

/-- How far a busy request has come with its player. -/
def Progress (u : UserArea) (touched : Prop) (base : BaseInfo) (owed : String → Nat) (removal : Removal) : Phase → Prop
  | .session | .baseInfo => False
  | .bagList seen | .team seen _ | .start seen _ _ => base = seen ∧ Rest o u touched base owed
  | .saveBase seen _ _ => base = seen ∧ Leaving seen owed removal
  | .find seen bag team | .save seen bag team _ => base = raised getPlayerPower seen bag team ∧ Leaving seen owed removal
  | .ended _ => ∃ old, removal.old? = some old ∧ old.userArea = u ∧ range old.power ≠ range base.power ∧
      owed (range base.power) = 1 ∧ ∀ field, field ≠ range base.power → field ≠ range old.power → owed field = 0

namespace Board

/-- The request has read its player's base info, and it or its removal goes on. -/
def Busy (b : Board) (i : Nat) : Prop := (b.phases i).Past ∧ ¬ b.Over i

/-- Some request of the player has started its removal. -/
def Touched (b : Board) (u : UserArea) : Prop :=
  ∃ i r, requests[i]? = some r ∧ r.player = u ∧ b.removals i ≠ .unstarted

end Board

/-- The evicted entries after the next step of program `j`. -/
def Board.evict (b : Board) (j : Nat) (evicted : List (UserArea × String)) : List (UserArea × String) :=
  match requests[j]? with
  | some r => match b.phases j with
    | .save base bag team _ =>
      let field := range (raised getPlayerPower base bag team).power
      entered r.player field (b.buckets field) evicted
    | _ => evicted
  | none => match b.jobs[j - requests.length]? with
    | some i => match requests[i]?, b.removals i with
      | some r, .save base _ => gone r.player (range base.power) evicted
      | _, _ => evicted
    | none => evicted

structure Tidy (b : Board) (evicted : List (UserArea × String)) : Prop where
  named : ∀ r ∈ requests, (b.bases r.player).userArea = r.player
  once : ∀ u field, owed b.buckets evicted u field ≤ 1
  exclusive : ∀ i j r s, requests[i]? = some r → requests[j]? = some s → r.player = s.player → b.Busy i → b.Busy j → i = j
  rest : ∀ u, (∀ i r, requests[i]? = some r → r.player = u → ¬ b.Busy i) →
    Rest o u (b.Touched requests u) (b.bases u) (owed b.buckets evicted u)
  work : ∀ i r, requests[i]? = some r → b.Busy i →
    Progress getPlayerPower o r.player (b.Touched requests r.player) (b.bases r.player) (owed b.buckets evicted r.player)
      (b.removals i) (b.phases i)

variable {getPlayerPower o requests} {b b' : Board} {evicted evicted' : List (UserArea × String)} {i j k : Nat} {r : Request}

/-- A step of request `i` or of its removal, when no other request is busy with the player. -/
theorem Tidy.change (tidy : Tidy getPlayerPower o requests b evicted) (asked : requests[i]? = some r)
    (alone : ∀ j s, requests[j]? = some s → s.player = r.player → j ≠ i → ¬ b.Busy j)
    (phases : ∀ j, j ≠ i → b'.phases j = b.phases j) (removals : ∀ j, j ≠ i → b'.removals j = b.removals j)
    (bases : ∀ u, u ≠ r.player → b'.bases u = b.bases u)
    (others : ∀ u, u ≠ r.player → owed b'.buckets evicted' u = owed b.buckets evicted u)
    (named : (b'.bases r.player).userArea = r.player)
    (once : ∀ field, owed b'.buckets evicted' r.player field ≤ 1)
    (rest : ¬ b'.Busy i → Rest o r.player (b'.Touched requests r.player) (b'.bases r.player)
      (owed b'.buckets evicted' r.player))
    (work : b'.Busy i → Progress getPlayerPower o r.player (b'.Touched requests r.player) (b'.bases r.player)
      (owed b'.buckets evicted' r.player) (b'.removals i) (b'.phases i)) :
    Tidy getPlayerPower o requests b' evicted' := by
  have own : ∀ {j s}, requests[j]? = some s → s.player ≠ r.player → j ≠ i := by
    rintro j s other different rfl
    exact different (congrArg Request.player (Option.some.inj (other.symm.trans asked)))
  have busy : ∀ {j}, j ≠ i → (b'.Busy j ↔ b.Busy j) := by
    intro j different
    unfold Board.Busy Board.Over
    rw [phases j different, removals j different]
  have touched : ∀ {u}, u ≠ r.player → b'.Touched requests u = b.Touched requests u := by
    intro u different
    unfold Board.Touched
    apply propext
    constructor
    · rintro ⟨j, s, other, rfl, started⟩
      exact ⟨j, s, other, rfl, removals j (own other different) ▸ started⟩
    · rintro ⟨j, s, other, rfl, started⟩
      exact ⟨j, s, other, rfl, (removals j (own other different)).symm ▸ started⟩
  constructor
  · intro s there
    by_cases same : s.player = r.player
    · rw [same]
      exact named
    · rw [bases _ same]
      exact tidy.named s there
  · intro u field
    by_cases same : u = r.player
    · rw [same]
      exact once field
    · rw [others u same]
      exact tidy.once u field
  · intro j l s t other other' same busyJ busyL
    by_cases mine : s.player = r.player
    · have only : ∀ {m q}, requests[m]? = some q → q.player = r.player → b'.Busy m → m = i := by
        intro m q found player busyM
        by_contra different
        exact alone m q found player different ((busy different).mp busyM)
      rw [only other mine busyJ, only other' (same ▸ mine) busyL]
    · exact tidy.exclusive j l s t other other' same ((busy (own other mine)).mp busyJ)
        ((busy (own other' (same ▸ mine))).mp busyL)
  · intro u idle
    by_cases same : u = r.player
    · subst same
      exact rest (idle i r asked rfl)
    · rw [touched same, bases u same, others u same]
      exact tidy.rest u fun j s other player busyJ =>
        idle j s other player ((busy (own other (player ▸ same))).mpr busyJ)
  · intro j s other busyJ
    by_cases mine : s.player = r.player
    · have only : j = i := by
        by_contra different
        exact alone j s other mine different ((busy different).mp busyJ)
      subst only
      rw [mine]
      exact work busyJ
    · rw [touched mine, bases _ mine, others _ mine, removals j (own other mine), phases j (own other mine)]
      exact tidy.work j s other ((busy (own other mine)).mp busyJ)

/-! ### Step by step -/

theorem Tidy.alone (tidy : Tidy getPlayerPower o requests b evicted) (asked : requests[i]? = some r) (busy : b.Busy i) :
    ∀ j s, requests[j]? = some s → s.player = r.player → j ≠ i → ¬ b.Busy j :=
  fun j s other same different busyJ => different (tidy.exclusive j i s r other asked same busyJ busy)

/-- A request that has not read anything yet opens its session. -/
theorem Tidy.open (tidy : Tidy getPlayerPower o requests b evicted) (before : ¬ (b.phases i).Past) {phase : Phase}
    (after : ¬ phase.Past) : Tidy getPlayerPower o requests (b.go i phase) evicted := by
  have busy : ∀ j, (b.go i phase).Busy j ↔ b.Busy j := by
    intro j
    unfold Board.Busy Board.Over Board.go
    by_cases same : j = i
    · subst same
      simp [before, after]
    · simp [Function.update_of_ne same]
  constructor
  · exact tidy.named
  · exact tidy.once
  · exact fun j l s t other other' same busyJ busyL =>
      tidy.exclusive j l s t other other' same ((busy j).mp busyJ) ((busy l).mp busyL)
  · exact fun u idle => tidy.rest u fun j s other player busyJ => idle j s other player ((busy j).mpr busyJ)
  · intro j s other busyJ
    have different : j ≠ i := by
      rintro rfl
      exact before ((busy j).mp busyJ).1
    have work := tidy.work j s other ((busy j).mp busyJ)
    dsimp only [Board.go]
    rw [Function.update_of_ne different]
    exact work

/-- A request goes on without a store. -/
theorem Tidy.go (tidy : Tidy getPlayerPower o requests b evicted) (asked : requests[i]? = some r)
    (alone : ∀ j s, requests[j]? = some s → s.player = r.player → j ≠ i → ¬ b.Busy j) {phase : Phase}
    (rest : ¬ (b.go i phase).Busy i →
      Rest o r.player (b.Touched requests r.player) (b.bases r.player) (owed b.buckets evicted r.player))
    (work : (b.go i phase).Busy i → Progress getPlayerPower o r.player (b.Touched requests r.player) (b.bases r.player)
      (owed b.buckets evicted r.player) (b.removals i) phase) :
    Tidy getPlayerPower o requests (b.go i phase) evicted := by
  refine tidy.change asked alone (fun j different => Function.update_of_ne different _ _) (fun _ _ => rfl)
    (fun _ _ => rfl) (fun _ _ => rfl) (tidy.named r (List.mem_of_getElem? asked)) (tidy.once r.player) rest fun busy => ?_
  dsimp only [Board.go]
  rw [Function.update_self]
  exact work busy

theorem busy_of_past {b : Board} (past : (b.phases i).Past) (running : ¬ (b.phases i).Ended) : b.Busy i :=
  ⟨past, fun isOver => running isOver.1⟩

theorem busy_go (phase : Phase) (past : phase.Past) (running : ¬ phase.Ended) : (b.go i phase).Busy i := by
  refine busy_of_past ?_ ?_ <;> dsimp only [Board.go] <;> rwa [Function.update_self]

/-- A removal has begun, so nothing is owed outside the old range. -/
theorem Rest.leaving (eligible : o.Eligible requests) (member : r ∈ requests) {touched : Prop} {base : BaseInfo}
    {owed : String → Nat} (rest : Rest o r.player touched base owed) :
    Leaving base owed (.find base) := by
  refine ⟨rfl, fun field different => ?_⟩
  by_cases set : touched
  · rw [rest.placed set, if_neg different]
  · obtain ⟨same, kept⟩ := rest.kept set
    rw [kept]
    exact eligible.placed r member field (same ▸ different)

/-- The last store of a request. -/
theorem Tidy.save (tidy : Tidy getPlayerPower o requests b evicted) (sound : b.Sound) (asked : requests[i]? = some r)
    {base : BaseInfo} {bag team : Value} {data : Option Value} (phase : b.phases i = .save base bag team data)
    (fresh : b.buckets (range (raised getPlayerPower base bag team).power) = data)
    (cleared : range base.power = range (raised getPlayerPower base bag team).power → (b.removals i).Over) :
    Tidy getPlayerPower o requests
      ((b.go i (.ended (some (answer getPlayerPower base bag team)))).put
        (range (raised getPlayerPower base bag team).power) (enter (raised getPlayerPower base bag team) data))
      (entered r.player (range (raised getPlayerPower base bag team).power) data evicted) := by
  have busy : b.Busy i := busy_of_past (by rw [phase]; trivial) (by rw [phase]; exact id)
  have work := tidy.work i r asked busy
  have fits := sound.fits i
  rw [phase] at work fits
  obtain ⟨current, leaving⟩ := work
  have member : r ∈ requests := List.mem_of_getElem? asked
  have named := tidy.named r member
  have player : (raised getPlayerPower base bag team).userArea = r.player := current ▸ named
  have after := fun u field => owed_enter b.buckets evicted u field player
    (fun v => tidy.once v (range (raised getPlayerPower base bag team).power))
  have touched : b.Touched requests r.player := ⟨i, r, asked, rfl, fits⟩
  subst fresh
  refine tidy.change asked (tidy.alone asked busy) (fun j different => Function.update_of_ne different _ _)
    (fun _ _ => rfl) (fun _ _ => rfl) ?_ named ?_ ?_ ?_
  · intro u different
    funext field
    exact (after u field).trans (if_neg fun both => different both.1)
  · intro field
    refine Nat.le_trans (Nat.le_of_eq (after r.player field)) ?_
    split
    · exact Nat.le_refl 1
    · exact tidy.once _ _
  · intro idle
    have isOver : (b.removals i).Over := by
      by_contra pending
      refine idle ⟨?_, fun isOver => pending isOver.2⟩
      dsimp only [Board.put, Board.go]
      rw [Function.update_self]
      trivial
    have gone : ∀ field, owed b.buckets evicted r.player field = 0 := by
      cases removal : b.removals i with
      | unstarted => exact absurd removal fits
      | ended => rw [removal] at leaving; exact leaving
      | _ => rw [removal] at isOver; exact isOver.elim
    refine ⟨fun _ field => ?_, fun untouched => absurd touched untouched⟩
    refine (after r.player field).trans ?_
    change _ = if field = range (b.bases r.player).power then 1 else 0
    rw [current, gone]
    simp
  · intro busy'
    have pending : ¬ (b.removals i).Over := by
      intro isOver
      refine busy'.2 ⟨?_, isOver⟩
      dsimp only [Board.put, Board.go]
      rw [Function.update_self]
      trivial
    have different : range base.power ≠ range (raised getPlayerPower base bag team).power :=
      fun same => pending (cleared same)
    have old : (b.removals i).old? = some base ∧
        ∀ field, field ≠ range base.power → owed b.buckets evicted r.player field = 0 := by
      cases removal : b.removals i with
      | unstarted => exact absurd removal fits
      | ended => rw [removal] at pending; exact absurd trivial pending
      | find seen => rw [removal] at leaving; exact ⟨congrArg some leaving.1, leaving.2⟩
      | save seen read => rw [removal] at leaving; exact ⟨congrArg some leaving.1, leaving.2⟩
    dsimp only [Board.put, Board.go]
    rw [Function.update_self, current]
    refine ⟨base, old.1, player, different, ?_, fun field one two => ?_⟩
    · exact (after r.player _).trans (if_pos ⟨rfl, rfl⟩)
    · exact (after r.player field).trans ((if_neg fun both => one both.2).trans (old.2 field two))

/-- A removal that has begun is that of a busy request. -/
theorem busy_of_pending (sound : b.Sound) (pending : ¬ (b.removals i).Over) : b.Busy i := by
  refine ⟨?_, fun isOver => pending isOver.2⟩
  have fits := sound.fits i
  cases phase : b.phases i with
  | session => rw [phase] at fits; exact absurd (fits ▸ trivial) pending
  | baseInfo => rw [phase] at fits; exact absurd (fits ▸ trivial) pending
  | _ => trivial

/-- A request with a removal under way has come to its stores. -/
theorem fits_pending {removal : Removal} {phase : Phase} (fits : phase.Fits removal) (pending : ¬ removal.Over)
    {u : UserArea} {touched : Prop} {base : BaseInfo} {owed : String → Nat}
    (work : Progress getPlayerPower o u touched base owed removal phase) (named : base.userArea = u) :
    ∃ old, removal.old? = some old ∧ old.userArea = u ∧
      (phase.Ended ∨ ∀ field, field ≠ range old.power → owed field = 0) := by
  have early : removal ≠ .unstarted := fun same => pending (same ▸ trivial)
  have leaving : ∀ {seen : BaseInfo}, Leaving seen owed removal → removal.old? = some seen ∧
      ∀ field, field ≠ range seen.power → owed field = 0 := by
    intro seen leaving
    cases removal with
    | unstarted => exact leaving.elim
    | ended => exact absurd trivial pending
    | find old => exact ⟨congrArg some leaving.1, leaving.2⟩
    | save old data => exact ⟨congrArg some leaving.1, leaving.2⟩
  cases phase with
  | session => exact absurd fits early
  | baseInfo => exact absurd fits early
  | bagList => exact absurd fits early
  | team => exact absurd fits early
  | start => exact absurd fits early
  | saveBase seen bag team =>
    obtain ⟨same, left⟩ := work
    exact ⟨seen, (leaving left).1, same ▸ named, .inr (leaving left).2⟩
  | find seen bag team =>
    obtain ⟨same, left⟩ := work
    exact ⟨seen, (leaving left).1, by rw [← named, same]; rfl, .inr (leaving left).2⟩
  | save seen bag team data =>
    obtain ⟨same, left⟩ := work
    exact ⟨seen, (leaving left).1, by rw [← named, same]; rfl, .inr (leaving left).2⟩
  | ended response =>
    obtain ⟨old, found, player, -⟩ := work
    exact ⟨old, found, player, .inl trivial⟩

/-- The removal of a request has read its range. -/
theorem Tidy.sideFind (tidy : Tidy getPlayerPower o requests b evicted) (sound : b.Sound) (asked : requests[i]? = some r)
    {base : BaseInfo} (removal : b.removals i = .find base) (data : Option Value) :
    Tidy getPlayerPower o requests (b.side i (.save base data)) evicted := by
  have busy : b.Busy i := busy_of_pending sound (by rw [removal]; exact id)
  have fits := sound.fits i
  have work := tidy.work i r asked busy
  refine tidy.change asked (tidy.alone asked busy) (fun _ _ => rfl) (fun j different => Function.update_of_ne different _ _)
    (fun _ _ => rfl) (fun _ _ => rfl) (tidy.named r (List.mem_of_getElem? asked)) (tidy.once r.player) ?_ ?_
  · intro idle
    refine absurd ⟨busy.1, fun isOver => ?_⟩ idle
    have last := isOver.2
    dsimp only [Board.side] at last
    rw [Function.update_self] at last
    exact last
  · intro _
    dsimp only [Board.side]
    rw [Function.update_self]
    rw [removal] at work fits
    cases phase : b.phases i <;> rw [phase] at work fits
    case saveBase => exact work
    case find => exact work
    case save => exact work
    case ended => exact work
    all_goals cases fits

/-- The removal of a request has cut its player out. -/
theorem Tidy.sideSave (tidy : Tidy getPlayerPower o requests b evicted) (sound : b.Sound) (asked : requests[i]? = some r)
    {base : BaseInfo} {data : Option Value} (removal : b.removals i = .save base data)
    (fresh : b.buckets (range base.power) = data) :
    Tidy getPlayerPower o requests ((b.side i .ended).put (range base.power) (leave base data))
      (gone r.player (range base.power) evicted) := by
  have busy : b.Busy i := busy_of_pending sound (by rw [removal]; exact id)
  have fits := sound.fits i
  have work := tidy.work i r asked busy
  have named := tidy.named r (List.mem_of_getElem? asked)
  rw [removal] at work fits
  obtain ⟨old, pending, player, left⟩ := fits_pending fits id work named
  obtain rfl : base = old := Option.some.inj pending
  have after := fun u field => owed_leave b.buckets evicted u field player
    (fun v => tidy.once v (range base.power))
  subst fresh
  refine tidy.change asked (tidy.alone asked busy) (fun _ _ => rfl) (fun j different => Function.update_of_ne different _ _)
    (fun _ _ => rfl) ?_ named ?_ ?_ ?_
  · intro u different
    funext field
    exact (after u field).trans (if_neg fun both => different both.1)
  · intro field
    refine Nat.le_trans (Nat.le_of_eq (after r.player field)) ?_
    split
    · exact Nat.zero_le 1
    · exact tidy.once _ _
  · intro idle
    have ended : (b.phases i).Ended := by
      by_contra running
      exact idle ⟨busy.1, fun isOver => running isOver.1⟩
    cases phase : b.phases i with
    | ended response =>
      rw [phase] at work
      obtain ⟨_, same, -, different, there, elsewhere⟩ := work
      cases same
      refine ⟨fun _ field => (after r.player field).trans ?_, fun untouched => absurd ⟨i, r, asked, rfl, ?_⟩ untouched⟩
      · change _ = if field = range (b.bases r.player).power then 1 else 0
        by_cases here : field = range (b.bases r.player).power
        · rw [if_neg fun both => different (both.2.symm.trans here), if_pos here, here, there]
        · rw [if_neg here]
          split
          · rfl
          · rename_i other
            exact elsewhere field here fun same => other ⟨rfl, same⟩
      · dsimp only [Board.put, Board.side]
        rw [Function.update_self]
        exact fun same => nomatch same
    | _ => rw [phase] at ended; exact ended.elim
  · intro busy'
    have running : ¬ (b.phases i).Ended := by
      refine fun ended => busy'.2 ⟨ended, ?_⟩
      dsimp only [Board.put, Board.side]
      rw [Function.update_self]
      trivial
    have cleared : ∀ field, (if r.player = r.player ∧ field = range base.power then 0
        else owed b.buckets evicted r.player field) = 0 := by
      intro field
      split
      · rfl
      · rename_i other
        exact left.resolve_left running field fun same => other ⟨rfl, same⟩
    dsimp only [Board.put, Board.side]
    rw [Function.update_self]
    cases phase : b.phases i <;> rw [phase] at work fits running
    case saveBase => exact ⟨work.1, fun field => (after r.player field).trans (cleared field)⟩
    case find => exact ⟨work.1, fun field => (after r.player field).trans (cleared field)⟩
    case save => exact ⟨work.1, fun field => (after r.player field).trans (cleared field)⟩
    case ended => exact absurd trivial running
    all_goals cases fits

/-- A request that has failed before its removal leaves its player at rest. -/
theorem Tidy.fail (tidy : Tidy getPlayerPower o requests b evicted) (asked : requests[i]? = some r) (busy : b.Busy i)
    (unstarted : b.removals i = .unstarted)
    (rest : Rest o r.player (b.Touched requests r.player) (b.bases r.player) (owed b.buckets evicted r.player))
    (response : Option Response) : Tidy getPlayerPower o requests (b.go i (.ended response)) evicted := by
  refine tidy.go asked (tidy.alone asked busy) (fun _ => rest) fun busy' => absurd ?_ busy'.2
  unfold Board.Over
  dsimp only [Board.go]
  rw [Function.update_self, unstarted]
  exact ⟨trivial, trivial⟩

theorem Tidy.start (tidy : Tidy getPlayerPower o requests b evicted) (eligible : o.Eligible requests)
    (asked : requests[i]? = some r) {base : BaseInfo} {bag team : Value} (phase : b.phases i = .start base bag team) :
    Tidy getPlayerPower o requests
      { (b.go i (.saveBase base bag team)).side i (.find base) with jobs := b.jobs ++ [i] } evicted := by
  have busy : b.Busy i := busy_of_past (by rw [phase]; trivial) (by rw [phase]; exact id)
  have member : r ∈ requests := List.mem_of_getElem? asked
  have work := tidy.work i r asked busy
  rw [phase] at work
  obtain ⟨same, rest⟩ := work
  refine tidy.change asked (tidy.alone asked busy) (fun j different => Function.update_of_ne different _ _)
    (fun j different => Function.update_of_ne different _ _) (fun _ _ => rfl) (fun _ _ => rfl) (tidy.named r member)
    (tidy.once r.player) (fun idle => absurd (busy_of_past ?_ ?_) idle) fun _ => ?_
  all_goals dsimp only [Board.go, Board.side]; rw [Function.update_self]
  · trivial
  · exact id
  · rw [Function.update_self]
    exact ⟨same, same ▸ rest.leaving eligible member⟩

theorem Tidy.saveBase (tidy : Tidy getPlayerPower o requests b evicted) (asked : requests[i]? = some r) {base : BaseInfo}
    {bag team : Value} (phase : b.phases i = .saveBase base bag team) :
    Tidy getPlayerPower o requests { b.go i (.find base bag team) with
      bases := Function.update b.bases r.player (raised getPlayerPower base bag team) } evicted := by
  have busy : b.Busy i := busy_of_past (by rw [phase]; trivial) (by rw [phase]; exact id)
  have work := tidy.work i r asked busy
  have named := tidy.named r (List.mem_of_getElem? asked)
  rw [phase] at work
  obtain ⟨same, leaving⟩ := work
  refine tidy.change asked (tidy.alone asked busy) (fun j different => Function.update_of_ne different _ _)
    (fun _ _ => rfl) (fun u different => Function.update_of_ne different _ _) (fun _ _ => rfl) ?_ (tidy.once r.player)
    (fun idle => absurd (busy_of_past ?_ ?_) idle) fun _ => ?_
  all_goals dsimp only [Board.go]; rw [Function.update_self]
  · rw [← named, same]
    rfl
  · trivial
  · exact id
  · rw [Function.update_self]
    exact ⟨rfl, leaving⟩

/-- The ledger is kept by an orderly step. -/
theorem tidy_move (stock : Stock) (eligible : o.Eligible requests) (sound : b.Sound)
    (valid : ∀ i ∈ b.jobs, i < requests.length) (tidy : Tidy getPlayerPower o requests b evicted)
    (orderly : b.Orderly getPlayerPower requests j) :
    Tidy getPlayerPower o requests (b.move getPlayerPower stock requests j) (b.evict getPlayerPower requests j evicted) := by
  unfold Board.Orderly at orderly
  unfold Board.move Board.evict
  cases asked : requests[j]? with
  | some r =>
    have fits := sound.fits j
    rw [asked] at orderly
    simp only [Board.main] at orderly ⊢
    have working : (b.phases j).Past → ¬ (b.phases j).Ended → b.Busy j ∧
        Progress getPlayerPower o r.player (b.Touched requests r.player) (b.bases r.player)
          (owed b.buckets evicted r.player) (b.removals j) (b.phases j) := by
      intro past running
      have busy : b.Busy j := ⟨past, fun isOver => running isOver.1⟩
      exact ⟨busy, tidy.work j r asked busy⟩
    cases phase : b.phases j <;> rw [phase] at orderly fits working
    case session => exact tidy.open (by rw [phase]; exact id) id
    case baseInfo =>
      have alone : ∀ i s, requests[i]? = some s → s.player = r.player → ¬ b.Busy i :=
        fun i s other same busy => busy.2 (orderly i s other same busy.1)
      have rest := tidy.rest r.player alone
      exact tidy.go asked (fun i s other same _ => alone i s other same) (fun _ => rest) fun _ => ⟨rfl, rest⟩
    case bagList base =>
      obtain ⟨busy, work⟩ := working trivial id
      have fail := tidy.fail asked busy fits work.2
      cases stock.bags r.player with
      | none => exact fail _
      | some bag =>
        dsimp only
        split
        · exact tidy.go asked (tidy.alone asked busy) (fun _ => work.2) fun _ => work
        · exact fail _
    case team base bag =>
      obtain ⟨busy, work⟩ := working trivial id
      dsimp only
      split
      · exact tidy.fail asked busy fits work.2 _
      · exact tidy.go asked (tidy.alone asked busy) (fun _ => work.2) fun _ => work
    case start base bag team => exact tidy.start eligible asked phase
    case saveBase base bag team => exact tidy.saveBase asked phase
    case find base bag team =>
      obtain ⟨busy, work⟩ := working trivial id
      exact tidy.go asked (tidy.alone asked busy)
        (fun idle => absurd (busy_go (.save base bag team _) trivial id) idle) fun _ => work
    case save base bag team data =>
      have saved := tidy.save sound asked phase orderly.1 orderly.2
      rw [← orderly.1] at saved ⊢
      exact saved
    case ended response => exact tidy
  | none =>
    rw [asked] at orderly
    dsimp only at orderly ⊢
    cases job : b.jobs[j - requests.length]? with
    | none => exact tidy
    | some i =>
      have asked' := List.getElem?_eq_getElem (valid i (List.mem_of_getElem? job))
      rw [job] at orderly
      simp only [asked', Board.remove] at orderly ⊢
      cases removal : b.removals i with
      | unstarted => exact tidy
      | find base => exact tidy.sideFind sound asked' removal _
      | save base data =>
        rw [removal] at orderly
        exact tidy.sideSave sound asked' removal orderly
      | ended => exact tidy

end
end Tinygame.PowerIndex
