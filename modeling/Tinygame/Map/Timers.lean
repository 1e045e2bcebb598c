import Tinygame.Map.Progress

/-!
# Nodes on a timer

The polls of a node that is on a timer. `moveNode` takes the seconds since the stamp off the waiting time and leaves the
stamp as it is, so seconds are taken off again at the next poll. `getGlobalMapInfo` saves what is left; the other two
requests that poll end in an error that saves nothing.
-/

namespace Tinygame.Map

variable (cfg : MapConfig)

/-- The requests that call `moveNode` for the node. -/
def Polls (id : String) (call : Call) : Prop :=
  match call.request with
  | .getGlobalMapInfo => True
  | .enterMap nodeid => nodeid.name = id
  | .changeAfk nodeid => nodeid.name = id
  | _ => False

/-- The map when the request has moved nodes. -/
def movedMap (player : Player) (call : Call) : Option GlobalMapInfo :=
  match call.request with
  | .getGlobalMapInfo => getGlobalMapInfo cfg player.mapInfo call.now
  | .enterMap nodeid => (checkTime cfg player.mapInfo nodeid call.now).map Prod.snd
  | .changeAfk nodeid => (checkTime cfg player.mapInfo nodeid call.now).map Prod.snd
  | _ => none

/-- The request moves the node from the timers to the open nodes. -/
def MovesNode (id : String) (player : Player) (call : Call) : Prop :=
  ∃ map, movedMap cfg player call = some map ∧ map.timeNode.has id = false ∧ map.openNode.has id = true

/-- The time has come for a node that was put on a timer at `s` to wait `w` seconds. -/
def TimeUp (s w : Int) (call : Call) : Prop := w ≤ diffSeconds call.now (format s)

instance (s w : Int) (call : Call) : Decidable (TimeUp s w call) := inferInstanceAs (Decidable (w ≤ _))

/-- The seconds that a poll takes off the waiting time that is stored. -/
def takesOff (s : Int) (call : Call) : Int := if call.request = .getGlobalMapInfo then diffSeconds call.now (format s) else 0

def takenOff (s : Int) (calls : List Call) : Int := (calls.map (takesOff s)).sum

/-- The node is moved by the first poll at which its time has come, and by none before. -/
def OpensInTime (id : String) (s w : Int) (player : Player) (calls : List Call) : Prop :=
  ∀ past call later, calls = past ++ call :: later → (∀ earlier ∈ past, ¬ TimeUp s w earlier) →
    (MovesNode cfg id (run (Player.serve cfg) player past) call ↔ TimeUp s w call)

/-- As long as its time has not come, what the polls take off the waiting time leaves something of it. -/
def TakesTooLittle (s w : Int) (calls : List Call) : Prop :=
  ∀ past call later, calls = past ++ call :: later → (∀ earlier ∈ past ++ [call], ¬ TimeUp s w earlier) →
    takenOff s past + diffSeconds call.now (format s) < w

variable {cfg : MapConfig} {map map' : GlobalMapInfo} {player : Player} {call : Call} {id : String} {row : WorldMapRow}
  {entry : TimeNode} {s w now : Int}

/-! ### One poll -/

theorem diffSeconds_nonneg (later : s ≤ now) : 0 ≤ diffSeconds now (format s) := by
  unfold diffSeconds format
  apply Int.tdiv_nonneg
  · omega
  · decide

/-- What a poll leaves of a node on a timer. -/
structure Polled (id : String) (entry : TimeNode) (now : Int) (map : GlobalMapInfo) : Prop where
  up : entry.leftTime now ≤ 0 → map.timeNode.has id = false ∧ map.openNode.has id = true
  waits : ¬ entry.leftTime now ≤ 0 → map.timeNode.get? id = some { entry with waitSec := entry.leftTime now }

theorem moveNode_polled (known : cfg.node id = some row) (timed : map.timeNode.get? id = some entry) (now : Int) :
    ∃ moved, moveNode cfg.toWorldConfig map id now = some moved ∧ Polled id entry now moved.2 ∧
      (moved.1 = true ↔ entry.leftTime now ≤ 0) := by
  unfold moveNode
  rw [timed]
  dsimp only
  by_cases up : entry.leftTime now ≤ 0
  · rw [if_pos up, known]
    refine ⟨_, rfl, ⟨?_, fun waits => absurd up waits⟩, fun _ => up, fun _ => rfl⟩
    intro _
    simp [Obj.has, Obj.get?_delete_self, Obj.get?_set_self]
  · rw [if_neg up]
    refine ⟨_, rfl, ⟨fun is => absurd is up, ?_⟩, fun is => Bool.noConfusion is, fun is => absurd is up⟩
    intro _
    exact Obj.get?_set_self _ _ _

theorem Polled.moved (polled : Polled id entry now map) :
    (map.timeNode.has id = false ∧ map.openNode.has id = true) ↔ entry.leftTime now ≤ 0 := by
  constructor
  · intro gone
    by_contra waits
    have there := polled.waits waits
    rw [Obj.has, there] at gone
    cases gone.1
  · exact polled.up

/-- A node without a row is dropped before it is polled. -/
theorem getGlobalMapInfo_some (cfg : MapConfig) (map : GlobalMapInfo) (now : Int) :
    ∃ map', getGlobalMapInfo cfg map now = some map' := by
  have round : ∀ state : GlobalMapInfo, ∀ nodeid ∈ map.timeNode.keys, True → ∃ next,
      (if (cfg.node nodeid).isSome then (moveNode cfg.toWorldConfig state nodeid now).map Prod.snd
        else some { state with timeNode := state.timeNode.delete nodeid }) = some next ∧ True := by
    intro state nodeid _ _
    by_cases known : (cfg.node nodeid).isSome = true
    · rw [if_pos known]
      obtain ⟨row, found⟩ := Option.isSome_iff_exists.mp known
      cases timed : state.timeNode.get? nodeid with
      | none =>
        unfold moveNode
        rw [timed]
        exact ⟨_, rfl, trivial⟩
      | some entry =>
        obtain ⟨moved, done, -⟩ := moveNode_polled found timed now
        rw [done]
        exact ⟨_, rfl, trivial⟩
    · rw [if_neg known]
      exact ⟨_, rfl, trivial⟩
  obtain ⟨map', done, -⟩ := foldlM_succeeds (fun _ => True) round trivial
  exact ⟨map', done⟩

/-- The loop over the timers polls each of them once. -/
theorem getGlobalMapInfo_polled (known : cfg.node id = some row) (timed : map.timeNode.get? id = some entry)
    (done : getGlobalMapInfo cfg map now = some map') : Polled id entry now map' := by
  have polled := foldlM_ran (fun (rest : List String) (state : GlobalMapInfo) => rest.Nodup ∧
    (id ∈ rest → state.timeNode.get? id = some entry) ∧ (id ∉ rest → Polled id entry now state)) ?_ ?_ done
  · exact polled.2.2 List.not_mem_nil
  · intro nodeid rest state state' before round
    obtain ⟨distinct, waits, left⟩ := before
    obtain ⟨first, later⟩ := List.nodup_cons.mp distinct
    refine ⟨later, ?_⟩
    by_cases here : nodeid = id
    · subst here
      obtain ⟨moved, polls, polled, -⟩ := moveNode_polled known (waits List.mem_cons_self) now
      rw [known, polls] at round
      obtain rfl := Option.some.inj round
      exact ⟨fun there => absurd there first, fun _ => polled⟩
    · have same : state'.timeNode.get? id = state.timeNode.get? id ∧ state'.openNode.get? id = state.openNode.get? id := by
        split at round
        · obtain ⟨moved, polls, rfl⟩ := Option.map_eq_some_iff.mp round
          exact moveNode_others polls (Ne.symm here)
        · obtain rfl := Option.some.inj round
          exact ⟨Obj.get?_delete_of_ne _ (Ne.symm here), rfl⟩
      constructor
      · intro there
        rw [same.1]
        exact waits (List.mem_cons_of_mem _ there)
      · intro gone
        have polled := left (by simp [Ne.symm here, gone])
        exact {
          up := by
            intro up
            rw [Obj.has, Obj.has, same.1, same.2]
            exact polled.up up
          waits := by
            intro waits
            rw [same.1]
            exact polled.waits waits }
  · refine ⟨map.timeNode.nodupKeys, fun _ => timed, fun gone => ?_⟩
    exact absurd (Obj.mem_keys_iff.mpr ⟨entry, timed⟩) gone

/-- A request that polls the node moves it exactly when nothing of its waiting time is left. -/
theorem movesNode_iff (known : cfg.node id = some row) (timed : player.mapInfo.timeNode.get? id = some entry)
    (polls : Polls id call) : MovesNode cfg id player call ↔ entry.leftTime call.now ≤ 0 := by
  have gate : ∀ nodeid : Sent, nodeid.name = id → ((∃ map, (checkTime cfg player.mapInfo nodeid call.now).map Prod.snd = some map ∧
      map.timeNode.has id = false ∧ map.openNode.has id = true) ↔ entry.leftTime call.now ≤ 0) := by
    intro nodeid named
    obtain ⟨moved, done, polled, -⟩ := moveNode_polled known timed call.now
    have waited : player.mapInfo.timeNode.has nodeid.name = true := by
      rw [named]
      exact Obj.has_iff.mpr ⟨entry, timed⟩
    unfold checkTime
    rw [if_pos (.inl waited), named, done, ← polled.moved]
    simp
  unfold MovesNode movedMap
  unfold Polls at polls
  cases request : call.request with
  | getGlobalMapInfo =>
    obtain ⟨map', done⟩ := getGlobalMapInfo_some cfg player.mapInfo call.now
    have polled := getGlobalMapInfo_polled known timed done
    rw [← polled.moved]
    simp [done]
  | enterMap nodeid =>
    rw [request] at polls
    exact gate nodeid polls
  | changeAfk nodeid =>
    rw [request] at polls
    exact gate nodeid polls
  | walkPath =>
    rw [request] at polls
    exact polls.elim
  | changeState =>
    rw [request] at polls
    exact polls.elim

/-- What is stored of the waiting time when the node is not moved. -/
theorem serve_waits (known : cfg.node id = some row) (timed : player.mapInfo.timeNode.get? id = some entry)
    (polls : Polls id call) (waits : ¬ entry.leftTime call.now ≤ 0) :
    (player.serve cfg call).mapInfo.timeNode.get? id =
      some { entry with waitSec := if call.request = .getGlobalMapInfo then entry.leftTime call.now else entry.waitSec } := by
  obtain ⟨moved, done, -, opened⟩ := moveNode_polled known timed call.now
  have stuck : moved.1 = false := by
    rw [← Bool.not_eq_true, opened]
    exact waits
  have gate : ∀ nodeid : Sent, nodeid.name = id → checkTime cfg player.mapInfo nodeid call.now = some moved := by
    intro nodeid named
    have waited : player.mapInfo.timeNode.has nodeid.name = true := by
      rw [named]
      exact Obj.has_iff.mpr ⟨entry, timed⟩
    unfold checkTime
    rw [if_pos (.inl waited), named, done]
  unfold Polls at polls
  unfold Player.serve
  cases request : call.request with
  | getGlobalMapInfo =>
    obtain ⟨map', looped⟩ := getGlobalMapInfo_some cfg player.mapInfo call.now
    have polled := getGlobalMapInfo_polled known timed looped
    rw [if_pos rfl]
    dsimp only
    rw [looped]
    exact polled.waits waits
  | enterMap nodeid =>
    rw [request] at polls
    have failed : Map.enterMap cfg call.level nodeid call.now (player.read (fieldOf nodeid)) =
        some (fails { player.read (fieldOf nodeid) with mapInfo := moved.2 } ErrCode.NODE_TIME_NOT_OPEN) := by
      unfold Map.enterMap
      rw [show (player.read (fieldOf nodeid)).mapInfo = player.mapInfo from rfl, gate nodeid polls]
      simp [stuck]
    dsimp only
    rw [failed, if_neg (by simp)]
    exact timed
  | changeAfk nodeid =>
    rw [request] at polls
    have failed : Map.changeAfk cfg call.level nodeid call.now (player.read (fieldOf nodeid)) =
        (∅, some (fails { player.read (fieldOf nodeid) with mapInfo := moved.2 } ErrCode.NODE_TIME_NOT_OPEN)) := by
      unfold Map.changeAfk
      rw [show (player.read (fieldOf nodeid)).mapInfo = player.mapInfo from rfl, gate nodeid polls]
      simp [stuck]
    dsimp only
    rw [failed, if_neg (by simp)]
    exact timed
  | walkPath =>
    rw [request] at polls
    exact polls.elim
  | changeState =>
    rw [request] at polls
    exact polls.elim

/-! ### Runs of polls -/

variable {calls past : List Call}

theorem takenOff_nonneg (each : ∀ call ∈ past, s ≤ call.now) : 0 ≤ takenOff s past := by
  apply List.sum_nonneg
  intro seconds there
  obtain ⟨call, member, rfl⟩ := List.mem_map.mp there
  unfold takesOff
  split
  · exact diffSeconds_nonneg (each call member)
  · exact Int.le_refl _

theorem serve_takesOff (known : cfg.node id = some row) {v : Int} (timed : player.mapInfo.timeNode.get? id = some ⟨format s, v⟩)
    (polls : Polls id call) (leaves : diffSeconds call.now (format s) < v) :
    (player.serve cfg call).mapInfo.timeNode.get? id = some ⟨format s, v - takesOff s call⟩ := by
  have waits : ¬ (TimeNode.mk (format s) v).leftTime call.now ≤ 0 := by
    unfold TimeNode.leftTime
    dsimp only
    omega
  rw [serve_waits known timed polls waits]
  unfold TimeNode.leftTime takesOff
  dsimp only
  split <;> simp

/-- While each poll leaves something, the waiting time is what was not taken off. -/
theorem run_waits (known : cfg.node id = some row) {v : Int} (timed : player.mapInfo.timeNode.get? id = some ⟨format s, v⟩)
    (polls : ∀ call ∈ past, Polls id call)
    (leaves : ∀ before call later, past = before ++ call :: later → takenOff s before + diffSeconds call.now (format s) < v) :
    (run (Player.serve cfg) player past).mapInfo.timeNode.get? id = some ⟨format s, v - takenOff s past⟩ := by
  induction past generalizing player v with
  | nil => simpa [takenOff] using timed
  | cons call rest ih =>
    have first : diffSeconds call.now (format s) < v := by simpa [takenOff] using leaves [] call rest rfl
    have next := serve_takesOff known timed (polls call List.mem_cons_self) first
    have value : v - takenOff s (call :: rest) = v - takesOff s call - takenOff s rest := by
      unfold takenOff
      rw [List.map_cons, List.sum_cons]
      omega
    rw [run_cons, value]
    apply ih next
    · exact fun call there => polls call (List.mem_cons_of_mem _ there)
    · intro before call' later whole
      have left := leaves (call :: before) call' later (by rw [whole, List.cons_append])
      unfold takenOff at left ⊢
      rw [List.map_cons, List.sum_cons] at left
      omega

theorem movesNode_run (known : cfg.node id = some row) (timed : player.mapInfo.timeNode.get? id = some ⟨format s, w⟩)
    (polls : ∀ poll ∈ past ++ [call], Polls id poll)
    (leaves : ∀ before call later, past = before ++ call :: later → takenOff s before + diffSeconds call.now (format s) < w) :
    MovesNode cfg id (run (Player.serve cfg) player past) call ↔ w ≤ takenOff s past + diffSeconds call.now (format s) := by
  have waits := run_waits known timed (fun call there => polls call (List.mem_append_left _ there)) leaves
  rw [movesNode_iff known waits (polls call (by simp))]
  unfold TimeNode.leftTime
  dsimp only
  omega

theorem mem_further {earlier : Call} {before later : List Call} (there : earlier ∈ before ++ [call]) :
    earlier ∈ before ++ call :: later := by
  rw [List.append_cons]
  exact List.mem_append_left later there

/-- A node on a timer opens in time exactly when its polls take too little off its waiting time. -/
theorem opensInTime_iff (cfg : MapConfig) (id : String) (s w : Int) (row : WorldMapRow) (player : Player) (calls : List Call)
    (known : cfg.node id = some row) (timed : player.mapInfo.timeNode.get? id = some ⟨format s, w⟩)
    (polls : ∀ call ∈ calls, Polls id call ∧ s ≤ call.now) :
    OpensInTime cfg id s w player calls ↔ TakesTooLittle s w calls := by
  constructor
  · intro inTime past call later whole early
    induction size : past.length using Nat.strongRecOn generalizing past call later with
    | ind n ih =>
      have leaves : ∀ before call' later', past = before ++ call' :: later' →
          takenOff s before + diffSeconds call'.now (format s) < w := by
        rintro before call' later' rfl
        apply ih before.length ?_ before call' (later' ++ call :: later) ?_ ?_ rfl
        · rw [← size, List.length_append, List.length_cons]
          omega
        · rw [whole, List.append_assoc, List.cons_append]
        · intro earlier there
          exact early earlier (List.mem_append_left _ (mem_further there))
      have polled : ∀ call' ∈ past ++ [call], Polls id call' := by
        intro call' there
        exact (polls call' (whole ▸ mem_further there)).1
      have moves := movesNode_run known timed polled leaves
      rw [inTime past call later whole fun earlier there => early earlier (List.mem_append_left _ there)] at moves
      have notYet := mt moves.mpr (early call (by simp))
      omega
  · rintro little past call later rfl early
    have leaves : ∀ before call' later', past = before ++ call' :: later' →
        takenOff s before + diffSeconds call'.now (format s) < w := by
      rintro before call' later' rfl
      apply little before call' (later' ++ call :: later)
      · rw [List.append_assoc, List.cons_append]
      · intro earlier there
        exact early earlier (mem_further there)
    rw [movesNode_run known timed (fun call' there => (polls call' (mem_further there)).1) leaves]
    constructor
    · intro enough
      by_contra notYet
      have left : takenOff s past + diffSeconds call.now (format s) < w := by
        apply little past call later rfl
        intro earlier there
        rcases List.mem_append.mp there with there | here
        · exact early earlier there
        · rw [List.mem_singleton.mp here]
          exact notYet
      omega
    · intro up
      have taken : 0 ≤ takenOff s past := takenOff_nonneg fun call' there => (polls call' (by simp [there])).2
      unfold TimeUp at up
      omega

/-- A new player for whom node 101104 opens ten seconds after the start. -/
def waitingPlayer : Player :=
  { firstPlayer with mapInfo := { firstPlayer.mapInfo with timeNode := (∅ : Obj TimeNode).set "101104" ⟨0, 10⟩ } }

theorem opensInTime_once : OpensInTime firstConfig "101104" 0 10 waitingPlayer [⟨6000, 1, .getGlobalMapInfo⟩] := by
  apply (opensInTime_iff firstConfig "101104" 0 10 ⟨1, 1, 2, .node 101205, 5, 10⟩ waitingPlayer _ (by decide +kernel)
    (by decide +kernel) ?_).mpr
  · intro past call later whole _
    obtain ⟨rfl, whole⟩ | ⟨-, none⟩ := List.singleton_eq_append_iff.mp whole
    · obtain ⟨rfl, -⟩ := List.cons.inj whole
      decide
    · cases none
  · intro call there
    rw [List.mem_singleton.mp there]
    exact ⟨trivial, by decide⟩

/-- Polls after six and after seven seconds open the node after seven. -/
theorem opens_early : ¬ OpensInTime firstConfig "101104" 0 10 waitingPlayer
    [⟨6000, 1, .getGlobalMapInfo⟩, ⟨7000, 1, .getGlobalMapInfo⟩] := by
  intro inTime
  have second := inTime [⟨6000, 1, .getGlobalMapInfo⟩] ⟨7000, 1, .getGlobalMapInfo⟩ [] rfl ?_
  · have moved : (movedMap firstConfig (run (Player.serve firstConfig) waitingPlayer [⟨6000, 1, .getGlobalMapInfo⟩])
        ⟨7000, 1, .getGlobalMapInfo⟩).map (fun map => (map.timeNode.has "101104", map.openNode.has "101104")) =
          some (false, true) := by decide +kernel
    obtain ⟨map, done, both⟩ := Option.map_eq_some_iff.mp moved
    obtain ⟨gone, opened⟩ := Prod.mk.inj both
    exact absurd (second.mp ⟨map, done, gone, opened⟩) (by decide)
  · intro earlier there
    rw [List.mem_singleton.mp there]
    decide

end Tinygame.Map
