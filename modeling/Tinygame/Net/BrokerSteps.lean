import Tinygame.Net.BrokerRefinement

/-!
# One event of the broker

What each event does to the registered workers, and the delivery events it stands for at one
request id. The timer's two loops are read as one loop over the registered workers.
-/

namespace Tinygame.Broker
variable {δ : Type} {b : State δ} {rid : String}

/-! ### The choice of a worker -/

/-- The scan of `seen` has found the worker of `best`, or no worker at all. -/
def Scanned (ws : Obj Worker) (seen : List String) : Option (String × Int) → Prop
  | none => ∀ workid ∈ seen, ∀ w, ws.get? workid = some w → ¬ 0 ≤ w.liveness
  | some (chosen, load) =>
    (∃ w, ws.get? chosen = some w ∧ 0 ≤ w.liveness ∧ w.load = load) ∧
      ∀ workid ∈ seen, ∀ w, ws.get? workid = some w → 0 ≤ w.liveness → load ≤ w.load

theorem lighter_scanned {ws : Obj Worker} {seen : List String} {best : Option (String × Int)}
    (scanned : Scanned ws seen best) (workid : String) :
    Scanned ws (seen ++ [workid]) (lighter ws best workid) := by
  unfold lighter
  cases found : ws.get? workid with
  | none =>
    cases best with
    | none =>
      intro other member w present
      rcases List.mem_append.mp member with earlier | last
      · exact scanned other earlier w present
      · rw [List.mem_singleton.mp last, found] at present
        cases present
    | some chosen =>
      refine ⟨scanned.1, fun other member w present => ?_⟩
      rcases List.mem_append.mp member with earlier | last
      · exact scanned.2 other earlier w present
      · rw [List.mem_singleton.mp last, found] at present
        cases present
  | some w =>
    dsimp only
    by_cases taken : 0 ≤ w.liveness ∧ best.all (w.load < ·.2) = true
    · rw [if_pos taken]
      refine ⟨⟨w, found, taken.1, rfl⟩, fun other member w' present alive => ?_⟩
      rcases List.mem_append.mp member with earlier | last
      · cases best with
        | none => exact absurd alive (scanned other earlier w' present)
        | some chosen =>
          have below : w.load < chosen.2 := by simpa using taken.2
          exact le_trans (le_of_lt below) (scanned.2 other earlier w' present alive)
      · rw [List.mem_singleton.mp last, found] at present
        cases present
        exact le_refl _
    · rw [if_neg taken]
      cases best with
      | none =>
        intro other member w' present
        rcases List.mem_append.mp member with earlier | last
        · exact scanned other earlier w' present
        · rw [List.mem_singleton.mp last, found] at present
          cases present
          simpa using taken
      | some chosen =>
        refine ⟨scanned.1, fun other member w' present alive => ?_⟩
        rcases List.mem_append.mp member with earlier | last
        · exact scanned.2 other earlier w' present alive
        · rw [List.mem_singleton.mp last, found] at present
          cases present
          have above : ¬ w.load < chosen.2 := fun below => taken ⟨alive, by simpa using below⟩
          exact not_lt.mp above

theorem foldl_lighter_scanned {ws : Obj Worker} (keys seen : List String) {best : Option (String × Int)}
    (scanned : Scanned ws seen best) : Scanned ws (seen ++ keys) (keys.foldl (lighter ws) best) := by
  induction keys generalizing seen best with
  | nil => simpa using scanned
  | cons key rest ih => simpa using ih (seen ++ [key]) (lighter_scanned scanned key)

/-- Routing by type picks a living worker of least load, when there is one. -/
theorem leastLoaded_least (ws : Obj Worker) :
    match leastLoaded ws with
    | some chosen => ∃ w, ws.get? chosen = some w ∧ 0 ≤ w.liveness ∧
        ∀ workid w', ws.get? workid = some w' → 0 ≤ w'.liveness → w.load ≤ w'.load
    | none => ∀ workid w, ws.get? workid = some w → ¬ 0 ≤ w.liveness := by
  have scanned := foldl_lighter_scanned ws.keys [] (show Scanned ws [] none by simp [Scanned])
  rw [List.nil_append] at scanned
  unfold leastLoaded
  cases chosen : ws.keys.foldl (lighter ws) none with
  | none =>
    rw [chosen] at scanned
    exact fun workid w present => scanned workid (Obj.mem_keys_iff.mpr ⟨w, present⟩) w present
  | some best =>
    rw [chosen] at scanned
    obtain ⟨⟨w, found, alive, load⟩, least⟩ := scanned
    refine ⟨w, found, alive, fun workid w' present alive' => ?_⟩
    rw [load]
    exact least workid (Obj.mem_keys_iff.mpr ⟨w', present⟩) w' present alive'

/-! ### A new request -/

/-- The delivery events a new request stands for. -/
def opening (b : State δ) (server clientid : String) : List (Move δ) :=
  match b.workers.get? server with
  | some ws =>
    match truthy (leastLoaded ws) with
    | some workid => [.route clientid workid]
    | none => [.refuse clientid]
  | none =>
    match castType? server with
    | some type =>
      if b.workers.has type then
        match truthy (b.addressed type).getLast? with
        | some _ => [.cast clientid (b.addressed type)]
        | none => [.cast clientid (b.addressed type), .refuse clientid]
      else [.refuse clientid]
    | none =>
      match b.workers.keys.find? (fun type => (b.worker? type server).isSome) with
      | some type => if b.reached type server then [.route clientid server] else []
      | none => [.refuse clientid]

theorem refused_stands {server clientid : String} {data : δ} {sent : List (Note δ)}
    (stands : Stands b rid .idle sent) :
    Stands (send b (.noexists clientid server rid data)) rid
      (run Delivery.step .idle [(.refuse clientid : Move δ)])
      (sent ++ Delivery.out .idle [(.refuse clientid : Move δ)]) := refuse_stands server clientid data stands

theorem routeReq_stands (server clientid : String) (data : δ) {sent : List (Note δ)}
    (stands : Stands b rid .idle sent) :
    Stands (routeReq b server clientid rid data) rid
      (run Delivery.step .idle (opening b server clientid))
      (sent ++ Delivery.out .idle (opening b server clientid)) := by
  unfold routeReq opening
  cases b.workers.get? server with
  | some ws =>
    dsimp only
    cases truthy (leastLoaded ws) with
    | some workid => exact routeTo_stands stands
    | none => exact refused_stands stands
  | none =>
    dsimp only
    cases castType? server with
    | some type =>
      dsimp only
      split
      · simp only [foldl_castTurn, Option.or_none]
        have cast := foldl_castTo_stands type clientid data stands (b.addressed type)
        have last : ((b.workids type).filter (b.reached type)).getLast? = (b.addressed type).getLast? := rfl
        rw [last]
        cases truthy (b.addressed type).getLast? with
        | some _ => simpa [State.addressed] using cast
        | none =>
          have refused := refuse_stands server clientid data cast
          simpa [State.addressed] using refused
      · exact refused_stands stands
    | none =>
      dsimp only
      cases b.workers.keys.find? (fun type => (b.worker? type server).isSome) with
      | some type =>
        have alive : ((b.worker? type server).map Worker.liveness).any (0 ≤ ·) = b.reached type server := by
          unfold State.reached
          cases b.worker? type server <;> rfl
        simp only [alive]
        split
        · exact routeTo_stands stands
        · simpa using stands
      | none => exact refused_stands stands

theorem foldl_castTo_frame {type clientid other : String} {data : δ} (h : other ≠ rid) (keys : List String) :
    Frame rid b (keys.foldl (castTo type clientid other data) b) := by
  induction keys generalizing b with
  | nil => exact Frame.refl rid b
  | cons key rest ih => exact (castTo_frame h).trans ih

theorem routeReq_frame {server clientid other : String} {data : δ} (h : other ≠ rid) :
    Frame rid b (routeReq b server clientid other data) := by
  have refused : ∀ b : State δ, Frame rid b (send b (.noexists clientid server other data)) :=
    fun _ => send_frame (if_neg h)
  unfold routeReq
  split
  · split
    · exact routeTo_frame h
    · exact refused b
  · split
    · split
      · simp only [foldl_castTurn, Option.or_none]
        split
        · exact foldl_castTo_frame h _
        · exact (foldl_castTo_frame h _).trans (refused _)
      · exact refused b
    · split
      · split
        · exact routeTo_frame h
        · exact Frame.refl rid b
      · exact refused b

/-! ### The registered workers -/

/-- The worker is registered under some type. -/
def State.registered (b : State δ) (workid : String) : Prop :=
  ∃ server, (b.worker? server workid).isSome = true

/-- The same workers are registered, with the same liveness. -/
def SameLives (b b' : State δ) : Prop :=
  ∀ server workid, (b'.worker? server workid).map Worker.liveness = (b.worker? server workid).map Worker.liveness

theorem SameLives.refl (b : State δ) : SameLives b b := fun _ _ => rfl

theorem SameLives.trans {b₁ b₂ b₃ : State δ} (first : SameLives b₁ b₂) (second : SameLives b₂ b₃) :
    SameLives b₁ b₃ := fun server workid => (second server workid).trans (first server workid)

theorem SameLives.of_workers {b b' : State δ} (h : b'.workers = b.workers) : SameLives b b' :=
  fun server workid => by rw [worker?_of_workers h]

theorem SameLives.isSome {b b' : State δ} (same : SameLives b b') (server workid : String) :
    (b'.worker? server workid).isSome = (b.worker? server workid).isSome := by
  have lives := congrArg Option.isSome (same server workid)
  simpa using lives

theorem worker?_castTo (type clientid rid workid : String) (data : δ) (b : State δ) (server other : String) :
    (castTo type clientid rid data b workid).worker? server other =
      if server = type ∧ other = workid then
        (b.worker? server other).map (fun w => { w with load := w.load + 1 })
      else b.worker? server other := by
  rw [worker?_of_workers (castTo_workers ..), worker?_modifyWorker]

theorem worker?_routeTo (b : State δ) (type workid clientid rid : String) (data : δ) (server other : String) :
    (routeTo b type workid clientid rid data).worker? server other =
      if server = type ∧ other = workid then
        (b.worker? server other).map (fun w => { w with load := w.load + 1 })
      else b.worker? server other :=
  worker?_modifyWorker b type workid _ server other

theorem routeTo_lives (b : State δ) (type workid clientid rid : String) (data : δ) :
    SameLives b (routeTo b type workid clientid rid data) := by
  intro server other
  rw [worker?_routeTo]
  split
  · cases b.worker? server other <;> rfl
  · rfl

theorem castTo_lives (type clientid rid workid : String) (data : δ) (b : State δ) :
    SameLives b (castTo type clientid rid data b workid) := by
  intro server other
  rw [worker?_castTo]
  split
  · cases b.worker? server other <;> rfl
  · rfl

theorem foldl_castTo_lives (type clientid rid : String) (data : δ) (keys : List String) (b : State δ) :
    SameLives b (keys.foldl (castTo type clientid rid data) b) := by
  induction keys generalizing b with
  | nil => exact SameLives.refl b
  | cons key rest ih => exact (castTo_lives type clientid rid key data b).trans (ih _)

theorem routeReq_lives (b : State δ) (server clientid rid : String) (data : δ) :
    SameLives b (routeReq b server clientid rid data) := by
  have refused : ∀ b : State δ, SameLives b (send b (.noexists clientid server rid data)) :=
    fun b => SameLives.of_workers rfl
  unfold routeReq
  split
  · split
    · exact routeTo_lives b _ _ _ _ _
    · exact refused b
  · split
    · split
      · simp only [foldl_castTurn, Option.or_none]
        split
        · exact foldl_castTo_lives _ _ _ _ _ b
        · exact (foldl_castTo_lives _ _ _ _ _ b).trans (refused _)
      · exact refused b
    · split
      · split
        · exact routeTo_lives b _ _ _ _ _
        · exact SameLives.refl b
      · exact refused b

theorem relayReply_workers (b : State δ) (workid rid : String) (data : δ) :
    (relayReply b workid rid data).workers = b.workers := by
  unfold relayReply
  split
  · split
    · dsimp only
      rw [allReceiveProc_workers]
      split <;> rfl
    · rfl
  · split
    · dsimp only
      split <;> rfl
    · rfl

/-- A reply counts one delivery less for its worker and proves the worker alive. -/
theorem worker?_replyReq (b : State δ) (server workid rid : String) (data : δ) (type other : String) :
    (replyReq b server workid rid data).worker? type other =
      if type = server ∧ other = workid then
        (b.worker? type other).map (fun w => { load := w.load - 1, liveness := HEALTH_LIVENESS })
      else b.worker? type other := by
  unfold replyReq
  rw [worker?_modifyWorker, worker?_of_workers (relayReply_workers ..)]

theorem worker?_addServer (b : State δ) (server type other : String) :
    (b.addServer server).worker? type other = b.worker? type other := by
  unfold State.addServer
  split
  · rfl
  · rename_i absent
    have none_ : b.workers.get? server = none := Obj.has_eq_false.mp (by simpa using absent)
    unfold State.worker?
    rw [Obj.get?_set]
    split
    · rename_i same
      rw [same, none_]
      rfl
    · rfl

theorem has_addServer (b : State δ) (server : String) : (b.addServer server).workers.has server = true := by
  unfold State.addServer
  split
  · assumption
  · simp [Obj.has_set]

theorem worker?_addWorker (b : State δ) {server : String} (present : b.workers.has server = true)
    (workid type other : String) :
    (b.addWorker server workid).worker? type other =
      if type = server ∧ other = workid then some ((b.worker? type other).getD { load := 0, liveness := 0 })
      else b.worker? type other := by
  unfold State.addWorker
  split
  · rename_i known
    split
    · rename_i hit
      rw [← hit.1, ← hit.2] at known
      obtain ⟨w, found⟩ := Option.isSome_iff_exists.mp known
      rw [found, Option.getD_some]
    · rfl
  · rename_i unknown
    obtain ⟨ws, found⟩ := Obj.has_iff.mp present
    have none_ : ws.get? workid = none := by simpa [State.worker?, found] using unknown
    unfold State.worker?
    simp only [Obj.get?_modify]
    by_cases same : type = server
    · subst same
      by_cases hit : other = workid <;> simp [found, hit, Obj.get?_set, none_]
    · simp [same]

theorem worker?_removeWorker (b : State δ) (server workid type other : String) :
    State.worker? { b with workers := b.workers.modify server (·.delete workid) } type other =
      if type = server ∧ other = workid then none else b.worker? type other := by
  unfold State.worker?
  simp only [Obj.get?_modify]
  by_cases same : type = server
  · subst same
    cases b.workers.get? type with
    | none => simp
    | some ws => by_cases hit : other = workid <;> simp [hit, Obj.get?_delete]
  · simp [same]

/-- A heartbeat registers its sender and proves it alive. -/
theorem worker?_heartbeat (b : State δ) (identity server type other : String) :
    (onMsg b identity (.heartbeat server)).worker? type other =
      if type = server ∧ other = identity then
        some { load := ((b.worker? type other).map Worker.load).getD 0, liveness := HEALTH_LIVENESS }
      else b.worker? type other := by
  unfold onMsg
  dsimp only
  rw [worker?_modifyWorker, worker?_addWorker _ (has_addServer b server), worker?_addServer]
  split
  · cases b.worker? type other <;> rfl
  · rfl

/-! ### The timer -/

/-- A worker one tick older, unless that is the end of it. -/
def Worker.aged (w : Worker) : Option Worker :=
  if w.liveness - 1 < 0 then none else some { w with liveness := w.liveness - 1 }

/-- The next tick of the timer expires the worker under this type. -/
def State.dying (b : State δ) (server workid : String) : Bool :=
  (b.worker? server workid).any (·.liveness - 1 < 0)

/-- The registered workers with their types, in the order of the timer's loops. -/
def State.roster (b : State δ) : List (String × String) :=
  b.workers.keys.flatMap (fun server => (b.workids server).map (server, ·))

/-- One turn of the timer's loops. -/
def checkEach (b : State δ) (entry : String × String) : State δ := checkWorker entry.1 b entry.2

theorem worker?_checkWorker (b : State δ) (server workid type other : String) :
    (checkWorker server b workid).worker? type other =
      if type = server ∧ other = workid then (b.worker? type other).bind Worker.aged
      else b.worker? type other := by
  unfold checkWorker
  cases found : b.worker? server workid with
  | none =>
    dsimp only
    split
    · rename_i hit
      rw [hit.1, hit.2, found]
      rfl
    · rfl
  | some w =>
    dsimp only
    split
    · rename_i dies
      rw [worker?_removeWorker, worker?_of_workers (dispatchReqs_workers _ _), worker?_modifyWorker]
      split
      · rename_i hit
        simp [hit.1, hit.2, found, Worker.aged, dies]
      · rfl
    · rename_i lives
      rw [worker?_of_workers (send_workers _ _), worker?_modifyWorker]
      split
      · rename_i hit
        simp [hit.1, hit.2, found, Worker.aged, lives]
      · rfl

theorem workids_checkWorker (b : State δ) {server type : String} (workid : String) (h : type ≠ server) :
    (checkWorker server b workid).workids type = b.workids type := by
  unfold checkWorker
  cases b.worker? server workid with
  | none => rfl
  | some w =>
    dsimp only
    split
    · have kept : ∀ b : State δ,
          State.workids { b with workers := b.workers.modify server (·.delete workid) } type = b.workids type := by
        intro b
        simp [State.workids, Obj.get?_modify, h]
      rw [kept, workids_of_workers (dispatchReqs_workers _ _), workids_modifyWorker]
    · exact workids_modifyWorker ..

theorem workids_foldl_checkWorker {server type : String} (h : type ≠ server) (keys : List String) (b : State δ) :
    (keys.foldl (checkWorker server) b).workids type = b.workids type := by
  induction keys generalizing b with
  | nil => rfl
  | cons key rest ih => exact (ih _).trans (workids_checkWorker b key h)

/-- The timer's loops visit the workers registered when the tick begins. -/
theorem checkWorkers_eq (b : State δ) : checkWorkers b = b.roster.foldl checkEach b := by
  have loops : ∀ (types : List String) (b' : State δ), types.Nodup →
      (∀ type ∈ types, b'.workids type = b.workids type) →
      types.foldl (fun b server => (b.workids server).foldl (checkWorker server) b) b' =
        (types.flatMap (fun server => (b.workids server).map (server, ·))).foldl checkEach b' := by
    intro types
    induction types with
    | nil => exact fun _ _ _ => rfl
    | cons server rest ih =>
      intro b' once same
      obtain ⟨fresh, once⟩ := List.nodup_cons.mp once
      rw [List.foldl_cons, List.flatMap_cons, List.foldl_append, List.foldl_map, same server List.mem_cons_self]
      refine ih _ once fun type member => ?_
      rw [workids_foldl_checkWorker (fun same : type = server => fresh (same ▸ member))]
      exact same type (List.mem_cons_of_mem _ member)
  exact loops b.workers.keys b b.workers.keys_nodup (fun _ _ => rfl)

theorem mem_roster {server workid : String} :
    (server, workid) ∈ b.roster ↔ (b.worker? server workid).isSome = true := by
  unfold State.roster
  simp only [List.mem_flatMap, List.mem_map, Prod.mk.injEq]
  constructor
  · rintro ⟨_, _, _, found, rfl, rfl⟩
    exact mem_workids.mp found
  · intro found
    refine ⟨server, ?_, workid, mem_workids.mpr found, rfl, rfl⟩
    unfold State.worker? at found
    cases typed : b.workers.get? server with
    | none => simp [typed] at found
    | some ws => exact Obj.mem_keys_iff.mpr ⟨ws, typed⟩

theorem workids_nodup (b : State δ) (server : String) : (b.workids server).Nodup := by
  unfold State.workids
  cases b.workers.get? server with
  | none => exact List.nodup_nil
  | some ws => exact ws.keys_nodup

theorem roster_nodup (b : State δ) : b.roster.Nodup := by
  unfold State.roster
  rw [List.nodup_flatMap]
  refine ⟨fun server _ => (workids_nodup b server).map (fun _ _ h => (Prod.mk.inj h).2), ?_⟩
  refine b.workers.keys_nodup.imp fun different => ?_
  simp only [Function.onFun, List.Disjoint, List.mem_map]
  rintro _ ⟨_, _, rfl⟩ ⟨_, _, same⟩
  exact different (Prod.mk.inj same).1.symm

theorem worker?_foldl_checkEach {entries : List (String × String)} (once : entries.Nodup) (b : State δ)
    (type other : String) :
    (entries.foldl checkEach b).worker? type other =
      if (type, other) ∈ entries then (b.worker? type other).bind Worker.aged else b.worker? type other := by
  induction entries generalizing b with
  | nil => rfl
  | cons entry rest ih =>
    obtain ⟨fresh, once⟩ := List.nodup_cons.mp once
    rw [List.foldl_cons, ih once, checkEach, worker?_checkWorker]
    by_cases here : (type, other) = entry
    · subst here
      simp [fresh]
    · have elsewhere : ¬ (type = entry.1 ∧ other = entry.2) := fun h => here (Prod.ext h.1 h.2)
      simp [here, elsewhere]

/-- A tick ages every worker once. -/
theorem worker?_checkWorkers (b : State δ) (type other : String) :
    (checkWorkers b).worker? type other = (b.worker? type other).bind Worker.aged := by
  rw [checkWorkers_eq, worker?_foldl_checkEach (roster_nodup b)]
  split
  · rfl
  · rename_i absent
    have none_ : b.worker? type other = none := by simpa [mem_roster] using absent
    rw [none_]
    rfl

/-- The workers a tick expires, in order. -/
def State.expired (b : State δ) : List String :=
  (b.roster.filter (fun entry => b.dying entry.1 entry.2)).map Prod.snd

theorem mem_expired {workid : String} : workid ∈ b.expired ↔ ∃ server, b.dying server workid = true := by
  unfold State.expired
  simp only [List.mem_map, List.mem_filter, Prod.exists, exists_eq_right]
  constructor
  · rintro ⟨server, _, dies⟩
    exact ⟨server, dies⟩
  · rintro ⟨server, dies⟩
    refine ⟨server, mem_roster.mpr ?_, dies⟩
    unfold State.dying at dies
    cases found : b.worker? server workid with
    | none => simp [found] at dies
    | some w => rfl

theorem removeWorker_frame (rid server workid : String) (b : State δ) :
    Frame rid b { b with workers := b.workers.modify server (·.delete workid) } := ⟨rfl, rfl, rfl, rfl⟩

theorem checkWorker_stands (server workid : String) {phase : Phase} {sent : List (Note δ)}
    (stands : Stands b rid phase sent) :
    if b.dying server workid then
      Stands (checkWorker server b workid) rid (Delivery.step phase (.expire workid : Move δ))
        (sent ++ Delivery.notes phase (.expire workid))
    else Stands (checkWorker server b workid) rid phase sent := by
  unfold checkWorker State.dying
  cases found : b.worker? server workid with
  | none => exact stands
  | some w =>
    have older := (modifyWorker_frame rid server workid b
      (fun w => { w with liveness := w.liveness - 1 })).stands stands
    by_cases dies : w.liveness - 1 < 0
    · simp only [Option.any_some, dies, decide_true, if_true]
      exact (removeWorker_frame rid server workid _).stands (dispatchReqs_stands older)
    · simp only [Option.any_some, dies, decide_false, if_false]
      exact (send_frame rfl).stands older

theorem dying_checkWorker (b : State δ) {server workid type other : String}
    (h : (type, other) ≠ (server, workid)) :
    (checkWorker server b workid).dying type other = b.dying type other := by
  have elsewhere : ¬ (type = server ∧ other = workid) := fun same => h (Prod.ext same.1 same.2)
  rw [State.dying, worker?_checkWorker, if_neg elsewhere, State.dying]

theorem foldl_checkEach_stands {entries : List (String × String)} (once : entries.Nodup) {phase : Phase}
    {sent : List (Note δ)} (stands : Stands b rid phase sent) :
    let gone := ((entries.filter (fun entry => b.dying entry.1 entry.2)).map Prod.snd).map
      (Delivery.Event.expire : String → Move δ)
    Stands (entries.foldl checkEach b) rid (run Delivery.step phase gone) (sent ++ Delivery.out phase gone) := by
  induction entries generalizing b phase sent with
  | nil => simpa using stands
  | cons entry rest ih =>
    obtain ⟨fresh, once⟩ := List.nodup_cons.mp once
    have first := checkWorker_stands entry.1 entry.2 stands
    have later : rest.filter (fun e => (checkWorker entry.1 b entry.2).dying e.1 e.2) =
        rest.filter (fun e => b.dying e.1 e.2) := by
      refine List.filter_congr fun e member => dying_checkWorker b ?_
      intro same
      have equal : e = entry := same
      exact fresh (equal ▸ member)
    rw [List.foldl_cons]
    by_cases dies : b.dying entry.1 entry.2
    · rw [if_pos dies] at first
      have done := ih once first
      simpa [later, dies, checkEach] using done
    · rw [if_neg dies] at first
      have done := ih once first
      simpa [later, dies, checkEach] using done

theorem checkWorkers_stands {phase : Phase} {sent : List (Note δ)} (stands : Stands b rid phase sent) :
    let gone := b.expired.map (Delivery.Event.expire : String → Move δ)
    Stands (checkWorkers b) rid (run Delivery.step phase gone) (sent ++ Delivery.out phase gone) := by
  rw [checkWorkers_eq]
  exact foldl_checkEach_stands (roster_nodup b) stands

/-! ### Any event -/

/-- The delivery events that an event of the broker stands for at the request `rid`. -/
def moves (rid : String) (b : State δ) : Event δ → List (Move δ)
  | .message identity (.request server r _) => if r = rid then opening b server identity else []
  | .message identity (.reply _ r data) => if r = rid then [.reply identity data] else []
  | .message _ _ => []
  | .timer => b.expired.map .expire

/-- The event is a request with the id `rid`. -/
def Event.opens (rid : String) : Event δ → Prop
  | .message _ (.request _ r _) => r = rid
  | _ => False

theorem heartbeat_frame (rid identity server : String) (b : State δ) :
    Frame rid b (onMsg b identity (.heartbeat server)) := by
  have typed : Frame rid b (b.addServer server) := by
    unfold State.addServer
    split <;> exact ⟨rfl, rfl, rfl, rfl⟩
  have named : Frame rid (b.addServer server) ((b.addServer server).addWorker server identity) := by
    unfold State.addWorker
    split <;> exact ⟨rfl, rfl, rfl, rfl⟩
  exact (typed.trans named).trans (modifyWorker_frame rid server identity _ _)

/-- Every event of the broker moves every request by the protocol and sends what it sends. -/
theorem step_stands {e : Event δ} {phase : Phase} {sent : List (Note δ)} (stands : Stands b rid phase sent)
    (fresh : e.opens rid → phase = .idle) :
    Stands (step b e) rid (run Delivery.step phase (moves rid b e))
      (sent ++ Delivery.out phase (moves rid b e)) := by
  cases e with
  | timer => exact checkWorkers_stands stands
  | message identity args =>
    cases args with
    | request server r data =>
      by_cases same : r = rid
      · subst same
        obtain rfl := fresh rfl
        simpa [step, onMsg, moves] using routeReq_stands server identity data stands
      · simpa [step, onMsg, moves, same] using (routeReq_frame same).stands stands
    | reply server r data =>
      by_cases same : r = rid
      · subst same
        simpa [step, onMsg, moves] using replyReq_stands server identity data stands
      · simpa [step, onMsg, moves, same] using (replyReq_frame same).stands stands
    | heartbeat server => simpa [step, onMsg, moves] using (heartbeat_frame rid identity server b).stands stands
    | other => simpa [step, onMsg, moves] using stands

end Tinygame.Broker
