import Tinygame.Net.BrokerDelivery

/-!
# The load counter of the broker

`load` counts the requests handed to a worker and not yet replied. It is compared with what the
maps still record for the worker. A reply is counted whether or not a delivery is recorded for it,
so the two agree in the runs where every reply answers a recorded delivery.
-/

namespace Tinygame.Broker
variable {δ : Type} {b b' : State δ}

/-- The deliveries that the maps record for a worker. -/
def State.outstanding (b : State δ) (workid : String) : Nat :=
  b.reqmap.count (fun worker => decide (worker = workid)) + b.castmsg.count (fun ws => ws.has workid)

theorem outstanding_of_maps (reqmap : b'.reqmap = b.reqmap) (castmsg : b'.castmsg = b.castmsg) :
    b'.outstanding = b.outstanding := by
  funext workid
  rw [State.outstanding, reqmap, castmsg, State.outstanding]

/-- A reply of the worker to this id would find a recorded delivery. -/
def State.recorded (b : State δ) (workid rid : String) : Bool :=
  match b.castmsg.get? rid with
  | some ws => ws.has workid
  | none => b.reqmap.get? rid = some workid

/-! ### What one operation does to the record -/

theorem routeTo_outstanding {type workid clientid rid : String} {data : δ} (fresh : b.reqmap.get? rid = none)
    (other : String) :
    (routeTo b type workid clientid rid data).outstanding other =
      b.outstanding other + if other = workid then 1 else 0 := by
  have written := Obj.count_set b.reqmap (fun worker => decide (worker = other)) rid workid
  rw [Obj.count_delete_of_none _ _ fresh] at written
  have routed : (routeTo b type workid clientid rid data).outstanding other =
      (b.reqmap.set rid workid).count (fun worker => decide (worker = other)) +
        b.castmsg.count (fun ws => ws.has other) := rfl
  rw [routed, written, State.outstanding]
  by_cases same : other = workid
  · subst same
    simp
    omega
  · simp [same, Ne.symm same]

/-- The entry of a cast that is not there yet is the same as an empty one. -/
theorem cast_entry_count (castmsg : Obj (Obj Nat)) (rid other : String) (absent : castmsg.get? rid = none) :
    (castmsg.set rid ∅).count (fun ws => ws.has other) = castmsg.count (fun ws => ws.has other) := by
  rw [Obj.count_set, Obj.count_delete_of_none _ _ absent]
  rfl

theorem castTo_castmsg (type clientid rid workid : String) (data : δ) (b : State δ) :
    (castTo type clientid rid data b workid).castmsg =
      (if b.castmsg.has rid then b.castmsg else b.castmsg.set rid ∅).modify rid (·.set workid 1) := by
  cases present : b.castmsg.has rid <;> simp [castTo, send, State.modifyWorker, present]

theorem castTo_reqmap (type clientid rid workid : String) (data : δ) (b : State δ) :
    (castTo type clientid rid data b workid).reqmap = b.reqmap := by
  cases present : b.castmsg.has rid <;> simp [castTo, send, State.modifyWorker, present]

theorem castTo_outstanding {type clientid rid workid : String} {data : δ}
    (fresh : ((b.castmsg.get? rid).getD ∅).has workid = false) (other : String) :
    (castTo type clientid rid data b workid).outstanding other =
      b.outstanding other + if other = workid then 1 else 0 := by
  obtain ⟨ws, entry, old, same⟩ : ∃ ws, (if b.castmsg.has rid then b.castmsg else b.castmsg.set rid ∅).get? rid = some ws ∧
      ws.has workid = false ∧
      (if b.castmsg.has rid then b.castmsg else b.castmsg.set rid ∅).count (fun ws => ws.has other) =
        b.castmsg.count (fun ws => ws.has other) := by
    cases found : b.castmsg.get? rid with
    | some ws =>
      rw [if_pos (Obj.has_iff.mpr ⟨ws, found⟩)]
      exact ⟨ws, found, by simpa [found] using fresh, rfl⟩
    | none =>
      rw [if_neg (by simp [Obj.has_eq_false.mpr found])]
      exact ⟨∅, Obj.get?_set_self _ _ _, rfl, cast_entry_count b.castmsg rid other found⟩
  have changed := Obj.count_modify _ (fun ws : Obj Nat => ws.has other) (·.set workid 1) entry
  rw [State.outstanding, castTo_castmsg, castTo_reqmap, State.outstanding]
  rw [same, Obj.has_set] at changed
  by_cases hit : other = workid
  · subst hit
    simp [old] at changed ⊢
    omega
  · simp [hit] at changed ⊢
    omega

theorem allReceiveProc_outstanding (b : State δ) (rid : String) :
    (allReceiveProc b rid).outstanding = b.outstanding := by
  funext other
  unfold allReceiveProc
  split
  · rfl
  · rename_i empty
    have removed : (b.castmsg.delete rid).count (fun ws => ws.has other) =
        b.castmsg.count (fun ws => ws.has other) := by
      cases found : b.castmsg.get? rid with
      | none => exact Obj.count_delete_of_none _ _ found
      | some ws =>
        have none_ : ws.has other = false := by
          rw [Bool.eq_false_iff, Ne, ← Obj.mem_keys_iff_has]
          simp only [found, Option.getD_some, ne_eq, not_not] at empty
          simp [empty]
        have counted := Obj.count_delete b.castmsg (fun ws => ws.has other) found
        rw [none_] at counted
        exact counted.symm
    exact congrArg (b.reqmap.count (fun worker => decide (worker = other)) + ·) removed

theorem uncast_outstanding {rid workid : String} {ws : Obj Nat} (cast : b.castmsg.get? rid = some ws)
    (member : ws.has workid = true) (other : String) :
    (b.uncast rid workid).outstanding other + (if other = workid then 1 else 0) = b.outstanding other := by
  have changed := Obj.count_modify b.castmsg (fun ws => ws.has other) (·.delete workid) cast
  rw [Obj.has_delete] at changed
  unfold State.outstanding State.uncast
  by_cases hit : other = workid
  · subst hit
    simp [member] at changed ⊢
    omega
  · simp [hit] at changed ⊢
    omega

/-- A reply takes off the record exactly what is recorded for it. -/
theorem relayReply_outstanding (b : State δ) (workid rid : String) (data : δ) (other : String) :
    (relayReply b workid rid data).outstanding other +
        (if other = workid ∧ b.recorded workid rid = true then 1 else 0) = b.outstanding other := by
  unfold relayReply State.recorded
  cases cast : b.castmsg.get? rid with
  | some ws =>
    dsimp only
    by_cases member : ws.has workid = true
    · rw [if_pos member, allReceiveProc_outstanding]
      simp only [member, and_true]
      cases b.clientmap.get? rid with
      | none => exact uncast_outstanding cast member other
      | some clientid => exact uncast_outstanding (b := send b (.reply clientid workid rid data)) cast member other
    · simp [member]
  | none =>
    dsimp only
    by_cases mapped : b.reqmap.get? rid = some workid
    · have removed := Obj.count_delete b.reqmap (fun worker => decide (worker = other)) mapped
      simp only [mapped, decide_true, and_true, if_true]
      have counts : ∀ b' : State δ, b'.reqmap = b.reqmap.delete rid → b'.castmsg = b.castmsg →
          b'.outstanding other + (if other = workid then 1 else 0) = b.outstanding other := by
        intro b' reqmap castmsg
        rw [State.outstanding, reqmap, castmsg, State.outstanding, removed]
        by_cases hit : other = workid
        · simp [hit]
          omega
        · simp [hit, Ne.symm hit]
      cases b.clientmap.get? rid <;> exact counts _ rfl rfl
    · simp [mapped]

theorem dropReq_outstanding (b : State δ) {workid other : String} (h : other ≠ workid) (rid : String) :
    (dropReq workid b rid).outstanding other = b.outstanding other := by
  unfold dropReq
  split
  · rename_i mapped
    have removed := Obj.count_delete b.reqmap (fun worker => decide (worker = other)) mapped
    simp only [Ne.symm h, decide_false, Bool.toNat_false, Nat.add_zero] at removed
    unfold State.outstanding
    rw [removed]
    dsimp only
    cases b.clientmap.get? rid <;> rfl
  · rfl

theorem dropCast_outstanding (b : State δ) {workid other : String} (h : other ≠ workid) (rid : String) :
    (dropCast workid b rid).outstanding other = b.outstanding other := by
  unfold dropCast
  cases cast : b.castmsg.get? rid with
  | none => rfl
  | some ws =>
    dsimp only
    split
    · rename_i member
      rw [allReceiveProc_outstanding]
      simpa [h] using uncast_outstanding cast member other
    · rfl

theorem foldl_outstanding {f : State δ → String → State δ} {other : String}
    (keep : ∀ b key, (f b key).outstanding other = b.outstanding other) (keys : List String) (b : State δ) :
    (keys.foldl f b).outstanding other = b.outstanding other := by
  induction keys generalizing b with
  | nil => rfl
  | cons key rest ih => exact (ih _).trans (keep b key)

/-! ### Losing a worker clears its record -/

theorem dropReq_unmapped (workid rid : String) (b : State δ) : (dropReq workid b rid).reqmap.get? rid ≠ some workid := by
  unfold dropReq
  split
  · have gone : (b.reqmap.delete rid).get? rid ≠ some workid := by simp
    dsimp only
    cases b.clientmap.get? rid <;> exact gone
  · assumption

theorem foldl_dropReq_unmapped (workid : String) {keys : List String} (b : State δ) {rid : String}
    (once : keys.Nodup) (present : b.reqmap.get? rid = some workid → rid ∈ keys) :
    (keys.foldl (dropReq workid) b).reqmap.get? rid ≠ some workid := by
  induction keys generalizing b with
  | nil => exact fun mapped => absurd (present mapped) List.not_mem_nil
  | cons key rest ih =>
    obtain ⟨fresh, once⟩ := List.nodup_cons.mp once
    rw [List.foldl_cons]
    by_cases here : key = rid
    · subst here
      rw [(Frame.foldl (b := dropReq workid b key) (fun _ _ h => dropReq_frame h) fresh).reqmap]
      exact dropReq_unmapped workid key b
    · refine ih _ once fun mapped => ?_
      rw [(dropReq_frame here).reqmap] at mapped
      exact (List.mem_cons.mp (present mapped)).resolve_left (Ne.symm here)

/-- The worker is in no cast under this id. -/
def Uncast (b : State δ) (workid rid : String) : Prop :=
  ∀ ws, b.castmsg.get? rid = some ws → ws.has workid = false

theorem dropCast_uncast (workid rid : String) (b : State δ) : Uncast (dropCast workid b rid) workid rid := by
  unfold dropCast
  cases cast : b.castmsg.get? rid with
  | none =>
    intro ws found
    exact absurd (cast.symm.trans found) (by simp)
  | some ws =>
    dsimp only
    split
    · have left : (b.uncast rid workid).castmsg.get? rid = some (ws.delete workid) := by
        simp [State.uncast, Obj.get?_modify, cast]
      have gone : (ws.delete workid).has workid = false := by simp [Obj.has_delete]
      intro other found
      unfold allReceiveProc at found
      split at found
      · rw [left] at found
        exact Option.some.inj found ▸ gone
      · exact absurd found (by simp)
    · rename_i absent
      intro other found
      rw [cast] at found
      exact Option.some.inj found ▸ Bool.eq_false_iff.mpr absent

theorem foldl_dropCast_uncast (workid : String) {keys : List String} (b : State δ) {rid : String}
    (once : keys.Nodup) (present : ¬ Uncast b workid rid → rid ∈ keys) :
    Uncast (keys.foldl (dropCast workid) b) workid rid := by
  induction keys generalizing b with
  | nil => exact Classical.not_not.mp fun cast => absurd (present cast) List.not_mem_nil
  | cons key rest ih =>
    obtain ⟨fresh, once⟩ := List.nodup_cons.mp once
    rw [List.foldl_cons]
    by_cases here : key = rid
    · subst here
      have kept := (Frame.foldl (b := dropCast workid b key) (f := dropCast workid)
        (fun _ _ h => dropCast_frame h) fresh).castmsg
      intro ws found
      exact dropCast_uncast workid key b ws (kept ▸ found)
    · refine ih _ once fun cast => ?_
      have before : ¬ Uncast b workid rid := by
        intro uncast
        refine cast fun ws found => uncast ws ?_
        rwa [(dropCast_frame here).castmsg] at found
      exact (List.mem_cons.mp (present before)).resolve_left (Ne.symm here)

theorem dropCast_reqmap (workid rid : String) (b : State δ) : (dropCast workid b rid).reqmap = b.reqmap := by
  unfold dropCast
  split
  · split
    · unfold allReceiveProc
      split <;> rfl
    · rfl
  · rfl

theorem foldl_dropCast_reqmap (workid : String) (keys : List String) (b : State δ) :
    (keys.foldl (dropCast workid) b).reqmap = b.reqmap := by
  induction keys generalizing b with
  | nil => rfl
  | cons key rest ih => exact (ih _).trans (dropCast_reqmap workid key b)

theorem outstanding_eq_zero {workid : String} (unmapped : ∀ rid, b.reqmap.get? rid ≠ some workid)
    (uncast : ∀ rid, Uncast b workid rid) : b.outstanding workid = 0 := by
  have first : b.reqmap.count (fun worker => decide (worker = workid)) = 0 := by
    by_contra some_
    obtain ⟨rid, worker, found, same⟩ := (Obj.count_pos_iff _).mp (Nat.pos_of_ne_zero some_)
    exact unmapped rid (of_decide_eq_true same ▸ found)
  have second : b.castmsg.count (fun ws => ws.has workid) = 0 := by
    by_contra some_
    obtain ⟨rid, ws, found, member⟩ := (Obj.count_pos_iff _).mp (Nat.pos_of_ne_zero some_)
    exact Bool.false_ne_true ((uncast rid ws found).symm.trans member)
  rw [State.outstanding, first, second]

/-- A lost worker has nothing recorded any more, the others are unaffected. -/
theorem dispatchReqs_outstanding (b : State δ) (workid other : String) :
    (dispatchReqs b workid).outstanding other = if other = workid then 0 else b.outstanding other := by
  unfold dispatchReqs
  dsimp only
  split
  · rename_i same
    subst same
    refine outstanding_eq_zero (fun rid => ?_) (fun rid => ?_)
    · rw [foldl_dropCast_reqmap]
      exact foldl_dropReq_unmapped other b b.reqmap.keys_nodup fun mapped => Obj.mem_keys_iff.mpr ⟨_, mapped⟩
    · refine foldl_dropCast_uncast other _ (AList.keys_nodup _) fun cast => ?_
      by_contra absent
      refine cast fun ws found => absurd (Obj.mem_keys_iff.mpr ⟨ws, found⟩) absent
  · rename_i different
    rw [foldl_outstanding (dropCast_outstanding · different), foldl_outstanding (dropReq_outstanding · different)]

/-! ### The invariant -/

/-- The books agree: a registered worker is registered once, its counter is the number of its
recorded deliveries, and nothing is recorded for anybody else. -/
structure Booked (b : State δ) : Prop where
  accounted : ∀ server workid w, b.worker? server workid = some w → w.load = b.outstanding workid
  absent : ∀ workid, ¬ b.registered workid → b.outstanding workid = 0
  single : ∀ workid server type, (b.worker? server workid).isSome = true →
    (b.worker? type workid).isSome = true → server = type

/-- A step that changes the counter and the record of one registered worker alike. -/
theorem Booked.shift (booked : Booked b) {server workid : String} (change : Int)
    (known : (b.worker? server workid).isSome = true)
    (present : ∀ type other, (b'.worker? type other).isSome = (b.worker? type other).isSome)
    (counted : ∀ type other, (b'.worker? type other).map Worker.load =
      (b.worker? type other).map (fun w => w.load + if type = server ∧ other = workid then change else 0))
    (recorded : ∀ other, (b'.outstanding other : Int) = b.outstanding other + if other = workid then change else 0) :
    Booked b' := by
  refine ⟨fun type other w found => ?_, fun other unknown => ?_, fun other type type' => ?_⟩
  · have loads := counted type other
    rw [found] at loads
    obtain ⟨w₀, found₀, same⟩ := Option.map_eq_some_iff.mp loads.symm
    have single : (type = server ∧ other = workid) ↔ other = workid := by
      refine ⟨And.right, fun hit => ⟨?_, hit⟩⟩
      subst hit
      exact booked.single other type server (by simp [found₀]) known
    rw [recorded, ← same, booked.accounted type other w₀ found₀]
    simp only [single]
  · have unknown₀ : ¬ b.registered other := fun ⟨type, there⟩ => unknown ⟨type, (present type other).trans there⟩
    have different : other ≠ workid := fun hit => unknown₀ (hit ▸ ⟨server, known⟩)
    have none_ := recorded other
    rw [booked.absent other unknown₀, if_neg different] at none_
    simpa using none_
  · rw [present, present]
    exact booked.single other type type'

/-- A step that changes no counter and no record. -/
theorem Booked.same (booked : Booked b)
    (counted : ∀ type other, (b'.worker? type other).map Worker.load = (b.worker? type other).map Worker.load)
    (recorded : b'.outstanding = b.outstanding) : Booked b' := by
  have present : ∀ type other, (b'.worker? type other).isSome = (b.worker? type other).isSome := by
    intro type other
    simpa using congrArg Option.isSome (counted type other)
  refine ⟨fun type other w found => ?_, fun other unknown => ?_, fun other type type' => ?_⟩
  · have loads := counted type other
    rw [found] at loads
    obtain ⟨w₀, found₀, same⟩ := Option.map_eq_some_iff.mp loads.symm
    rw [recorded, ← same, booked.accounted type other w₀ found₀]
  · rw [recorded]
    exact booked.absent other fun ⟨type, there⟩ => unknown ⟨type, (present type other).trans there⟩
  · rw [present, present]
    exact booked.single other type type'

/-- The condition on an event under which it keeps the books: a request has an id that is not
recorded, a reply comes from a worker of the type it names exactly when its delivery is recorded,
and no heartbeat gives a worker a second type. -/
def Accountable (b : State δ) : Event δ → Prop
  | .message _ (.request _ rid _) => b.reqmap.has rid = false ∧ b.castmsg.has rid = false
  | .message identity (.reply server rid _) =>
    (b.worker? server identity).isSome = b.recorded identity rid
  | .message identity (.heartbeat server) => ∀ type, (b.worker? type identity).isSome = true → type = server
  | _ => True

theorem send_booked (booked : Booked b) (msg : Msg δ) : Booked (send b msg) :=
  booked.same (fun _ _ => rfl) (outstanding_of_maps rfl rfl)

theorem routeTo_booked (booked : Booked b) {type workid clientid rid : String} {data : δ}
    (known : (b.worker? type workid).isSome = true) (fresh : b.reqmap.get? rid = none) :
    Booked (routeTo b type workid clientid rid data) := by
  refine booked.shift 1 known (fun server other => ?_) (fun server other => ?_) (fun other => ?_)
  · rw [worker?_routeTo]
    split <;> simp
  · rw [worker?_routeTo]
    split
    · cases b.worker? server other <;> rfl
    · simp
  · rw [routeTo_outstanding fresh]
    split <;> simp

theorem castTo_booked (booked : Booked b) {type clientid rid workid : String} {data : δ}
    (known : (b.worker? type workid).isSome = true) (fresh : ((b.castmsg.get? rid).getD ∅).has workid = false) :
    Booked (castTo type clientid rid data b workid) := by
  refine booked.shift 1 known (fun server other => ?_) (fun server other => ?_) (fun other => ?_)
  · rw [worker?_castTo]
    split <;> simp
  · rw [worker?_castTo]
    split
    · cases b.worker? server other <;> rfl
    · simp
  · rw [castTo_outstanding fresh]
    split <;> simp

theorem castTo_members (type clientid rid workid : String) (data : δ) (b : State δ) (other : String) :
    (((castTo type clientid rid data b workid).castmsg.get? rid).getD ∅).has other =
      (decide (other = workid) || ((b.castmsg.get? rid).getD ∅).has other) := by
  rw [castTo_castmsg, Obj.get?_modify, if_pos rfl]
  cases found : b.castmsg.get? rid with
  | some ws => simp [Obj.has_iff.mpr ⟨ws, found⟩, found, Obj.has_set]
  | none => simp [Obj.has_eq_false.mpr found, Obj.has_set]

theorem foldl_castTo_booked (type clientid rid : String) (data : δ) {keys : List String} (once : keys.Nodup)
    (booked : Booked b) (known : ∀ workid ∈ keys, (b.worker? type workid).isSome = true)
    (fresh : ∀ workid ∈ keys, ((b.castmsg.get? rid).getD ∅).has workid = false) :
    Booked (keys.foldl (castTo type clientid rid data) b) := by
  induction keys generalizing b with
  | nil => exact booked
  | cons key rest ih =>
    obtain ⟨new, once⟩ := List.nodup_cons.mp once
    rw [List.foldl_cons]
    refine ih once (castTo_booked booked (known key List.mem_cons_self) (fresh key List.mem_cons_self)) ?_ ?_
    · intro workid member
      rw [(castTo_lives type clientid rid key data b).isSome]
      exact known workid (List.mem_cons_of_mem _ member)
    · intro workid member
      have different : workid ≠ key := fun same => new (same ▸ member)
      rw [castTo_members, fresh workid (List.mem_cons_of_mem _ member)]
      simp [different]

theorem routeReq_booked (booked : Booked b) {server clientid rid : String} {data : δ}
    (unrouted : b.reqmap.has rid = false) (uncast : b.castmsg.has rid = false) :
    Booked (routeReq b server clientid rid data) := by
  have fresh := Obj.has_eq_false.mp unrouted
  unfold routeReq
  cases typed : b.workers.get? server with
  | some ws =>
    dsimp only
    cases chosen : truthy (leastLoaded ws) with
    | some result =>
      obtain ⟨w, found⟩ := leastLoaded_mem (Option.eq_some_of_filter_eq_some chosen)
      have known : (b.worker? server result).isSome = true := by simp [State.worker?, typed, found]
      exact routeTo_booked booked known fresh
    | none => exact send_booked booked _
  | none =>
    cases cast : castType? server with
    | some type =>
      dsimp only
      split
      · simp only [foldl_castTurn, Option.or_none]
        have reached : ∀ workid ∈ b.addressed type, (b.worker? type workid).isSome = true :=
          fun workid member => mem_workids.mp (List.mem_filter.mp member).1
        have once : (b.addressed type).Nodup := (workids_nodup b type).filter _
        have casted := foldl_castTo_booked type clientid rid data once booked reached
          (by simp [Obj.has_eq_false.mp uncast])
        split
        · exact casted
        · exact send_booked casted _
      · exact send_booked booked _
    | none =>
      dsimp only
      split
      · rename_i type found
        have present : (b.worker? type server).isSome = true := by simpa using List.find?_some found
        split
        · exact routeTo_booked booked present fresh
        · exact booked
      · exact send_booked booked _

theorem replyReq_booked (booked : Booked b) {server workid rid : String} (data : δ)
    (matched : (b.worker? server workid).isSome = b.recorded workid rid) :
    Booked (replyReq b server workid rid data) := by
  have recorded : ∀ other, (replyReq b server workid rid data).outstanding other +
      (if other = workid ∧ b.recorded workid rid = true then 1 else 0) = b.outstanding other := by
    intro other
    rw [← relayReply_outstanding b workid rid data other]
    rfl
  cases known : b.recorded workid rid with
  | true =>
    rw [known] at matched
    refine booked.shift (-1) matched (fun type other => ?_) (fun type other => ?_) (fun other => ?_)
    · rw [worker?_replyReq]
      split <;> simp
    · rw [worker?_replyReq]
      split
      · cases b.worker? type other <;> rfl
      · simp
    · have counted := recorded other
      simp only [known, and_true] at counted
      split at counted
      · rename_i hit
        rw [if_pos hit]
        omega
      · rename_i miss
        rw [if_neg miss]
        omega
  | false =>
    rw [known] at matched
    refine booked.same (fun type other => ?_) (funext fun other => ?_)
    · rw [worker?_replyReq]
      split
      · rename_i hit
        rw [hit.1, hit.2, Option.isSome_eq_false_iff.mp matched |> Option.isNone_iff_eq_none.mp]
        rfl
      · rfl
    · simpa [known] using recorded other

theorem heartbeat_outstanding (b : State δ) (identity server : String) :
    (onMsg b identity (.heartbeat server)).outstanding = b.outstanding := by
  have typed : (b.addServer server).outstanding = b.outstanding := by
    unfold State.addServer
    split <;> rfl
  have named : ((b.addServer server).addWorker server identity).outstanding = (b.addServer server).outstanding := by
    unfold State.addWorker
    split <;> rfl
  exact named.trans typed

theorem heartbeat_booked (booked : Booked b) {identity server : String}
    (typed : ∀ type, (b.worker? type identity).isSome = true → type = server) :
    Booked (onMsg b identity (.heartbeat server)) := by
  -- a worker that is new here is registered nowhere, so nothing is recorded for it
  have unknown : b.worker? server identity = none → b.outstanding identity = 0 := by
    intro new
    refine booked.absent identity fun ⟨type, there⟩ => ?_
    rw [typed type there, new] at there
    cases there
  refine ⟨fun type other w found => ?_, fun other missing => ?_, fun other type type' there there' => ?_⟩
  · rw [heartbeat_outstanding]
    rw [worker?_heartbeat] at found
    split at found
    · rename_i hit
      obtain ⟨rfl, rfl⟩ := hit
      cases found
      cases known : b.worker? type other with
      | none => simp [unknown known]
      | some w₀ => simpa using booked.accounted type other w₀ known
    · exact booked.accounted type other w found
  · rw [heartbeat_outstanding]
    refine booked.absent other fun ⟨type, there⟩ => missing ⟨type, ?_⟩
    rw [worker?_heartbeat]
    split
    · rfl
    · exact there
  · have places : ∀ place, ((onMsg b identity (.heartbeat server)).worker? place other).isSome = true →
        (place = server ∧ other = identity) ∨ (b.worker? place other).isSome = true := by
      intro place present
      rw [worker?_heartbeat] at present
      split at present
      · exact .inl ‹_›
      · exact .inr present
    rcases places type there with ⟨here, same⟩ | old <;> rcases places type' there' with ⟨here', same'⟩ | old'
    · rw [here, here']
    · rw [here, typed type' (same ▸ old')]
    · rw [here', typed type (same' ▸ old)]
    · exact booked.single other type type' old old'

theorem checkWorker_outstanding (b : State δ) (server workid other : String) :
    (checkWorker server b workid).outstanding other =
      if b.dying server workid = true ∧ other = workid then 0 else b.outstanding other := by
  unfold checkWorker State.dying
  cases found : b.worker? server workid with
  | none => simp
  | some w =>
    by_cases dies : w.liveness - 1 < 0
    · have lost := dispatchReqs_outstanding
        (b.modifyWorker server workid (fun w => { w with liveness := w.liveness - 1 })) workid other
      simp only [Option.any_some, dies, decide_true, if_true, true_and]
      exact lost
    · simp only [Option.any_some, dies, decide_false, if_false, Bool.false_eq_true, false_and]
      rfl

theorem checkWorker_booked (booked : Booked b) (server workid : String) : Booked (checkWorker server b workid) := by
  by_cases dies : b.dying server workid = true
  · obtain ⟨w₀, found₀⟩ : ∃ w, b.worker? server workid = some w := by
      cases found : b.worker? server workid with
      | none => simp [State.dying, found] at dies
      | some w => exact ⟨w, rfl⟩
    have removed : (b.worker? server workid).bind Worker.aged = none := by
      have low : w₀.liveness - 1 < 0 := by simpa [State.dying, found₀] using dies
      simp [found₀, Worker.aged, low]
    have known : (b.worker? server workid).isSome = true := by simp [found₀]
    refine ⟨fun type other w found => ?_, fun other missing => ?_, fun other type type' there there' => ?_⟩
    · rw [worker?_checkWorker] at found
      split at found
      · rename_i hit
        rw [hit.1, hit.2, removed] at found
        cases found
      · rename_i elsewhere
        have different : other ≠ workid := by
          rintro rfl
          exact elsewhere ⟨booked.single other type server (by simp [found]) known, rfl⟩
        simpa [checkWorker_outstanding, different] using booked.accounted type other w found
    · rw [checkWorker_outstanding]
      split
      · rfl
      · rename_i kept
        refine booked.absent other fun there => missing ?_
        obtain ⟨type, there⟩ := there
        refine ⟨type, ?_⟩
        rw [worker?_checkWorker, if_neg fun hit => kept ⟨dies, hit.2⟩]
        exact there
    · have places : ∀ place, ((checkWorker server b workid).worker? place other).isSome = true →
          (b.worker? place other).isSome = true := by
        intro place present
        rw [worker?_checkWorker] at present
        split at present
        · rename_i hit
          rw [hit.1, hit.2]
          exact known
        · exact present
      exact booked.single other type type' (places type there) (places type' there')
  · refine booked.same (fun type other => ?_) (funext fun other => ?_)
    · rw [worker?_checkWorker]
      split
      · rename_i hit
        rw [hit.1, hit.2]
        cases found : b.worker? server workid with
        | none => rfl
        | some w =>
          have high : ¬ w.liveness - 1 < 0 := by simpa [State.dying, found] using dies
          simp [Worker.aged, high]
      · rfl
    · rw [checkWorker_outstanding, if_neg fun h => dies h.1]

theorem foldl_booked {α : Type} {f : State δ → α → State δ} (keep : ∀ b key, Booked b → Booked (f b key))
    (keys : List α) (booked : Booked b) : Booked (keys.foldl f b) := by
  induction keys generalizing b with
  | nil => exact booked
  | cons key rest ih => exact ih (keep b key booked)

/-- An event that meets the condition keeps the books. -/
theorem step_booked {e : Event δ} (booked : Booked b) (ok : Accountable b e) : Booked (step b e) := by
  cases e with
  | timer =>
    exact foldl_booked (fun b server booked =>
      foldl_booked (fun b workid booked => checkWorker_booked booked server workid) (b.workids server) booked) _ booked
  | message identity args =>
    cases args with
    | request server rid data => exact routeReq_booked booked ok.1 ok.2
    | reply server rid data => exact replyReq_booked booked data ok
    | heartbeat server => exact heartbeat_booked booked ok
    | other => exact booked

theorem initial_booked : Booked (initial : State δ) := by
  refine ⟨fun _ _ _ found => ?_, fun _ _ => rfl, fun _ _ _ there => ?_⟩
  · cases found
  · cases there

theorem run_alive {events : List (Event δ)}
    (alive : ∀ server workid w, b.worker? server workid = some w → 0 ≤ w.liveness) :
    ∀ server workid w, (run step b events).worker? server workid = some w → 0 ≤ w.liveness := by
  induction events generalizing b with
  | nil => exact alive
  | cons e rest ih => exact ih (step_alive alive)

/-- In a run whose events all meet the condition, the counter of every registered worker is the
number of its recorded deliveries, it is never negative, and the scan that routes a request by type
takes a worker with the fewest of them. -/
theorem load_accounted {events : List (Event δ)} (steps : Along step Accountable initial events) :
    let b := run step initial events
    (∀ server workid w, b.worker? server workid = some w → w.load = b.outstanding workid ∧ 0 ≤ w.load) ∧
      ∀ server ws chosen, b.workers.get? server = some ws → leastLoaded ws = some chosen →
        ∀ workid, (b.worker? server workid).isSome = true → b.outstanding chosen ≤ b.outstanding workid := by
  intro b
  have booked : Booked b := run_invariant (fun _ _ booked ok => step_booked booked ok) initial_booked steps
  have alive : ∀ server workid w, b.worker? server workid = some w → 0 ≤ w.liveness :=
    run_alive fun _ _ _ found => by cases found
  refine ⟨fun server workid w found => ?_, fun server ws chosen typed picked workid known => ?_⟩
  · have load := booked.accounted server workid w found
    exact ⟨load, by omega⟩
  · have place : ∀ other, b.worker? server other = ws.get? other := fun other => by simp [State.worker?, typed]
    obtain ⟨w', found'⟩ := Option.isSome_iff_exists.mp known
    have least := leastLoaded_least ws
    rw [picked] at least
    obtain ⟨w, found, _, fewest⟩ := least
    have below := fewest workid w' ((place workid).symm.trans found') (alive server workid w' found')
    have load := booked.accounted server chosen w ((place chosen).trans found)
    have load' := booked.accounted server workid w' found'
    omega

theorem load_accounted_one_reply :
    let events : List (Event Nat) := [.message "w" (.heartbeat "conn"), .message "c" (.request "conn" "r" 1),
      .timer, .message "w" (.reply "conn" "r" 7)]
    (run step initial events).worker? "conn" "w" = some { load := 0, liveness := 3 } ∧
      (run step initial events).outstanding "w" = 0 := by
  have accounted := @load_accounted Nat [.message "w" (.heartbeat "conn"), .message "c" (.request "conn" "r" 1),
    .timer, .message "w" (.reply "conn" "r" 7)]
    ⟨fun _ there => (by cases there), ⟨by decide, by decide⟩, trivial, Eq.symm (by decide), trivial⟩
  have found : (run step initial [.message "w" (.heartbeat "conn"), .message "c" (.request "conn" "r" 1),
    .timer, .message "w" (.reply "conn" "r" 7)] : State Nat).worker? "conn" "w" = some { load := 0, liveness := 3 } := by
    decide
  have counted := (accounted.1 "conn" "w" _ found).1
  exact ⟨found, by simpa using counted.symm⟩

/-- A second reply to the same request is counted although nothing is recorded for it any more. -/
theorem load_below_record :
    ¬ ∀ (events : List (Event Nat)) (server workid : String) (w : Worker),
      (run step initial events).worker? server workid = some w →
        w.load = (run step initial events).outstanding workid := by
  intro accounted
  have twice := accounted [.message "w" (.heartbeat "conn"), .message "c" (.request "conn" "r" 1),
    .message "w" (.reply "conn" "r" 7), .message "w" (.reply "conn" "r" 7)] "conn" "w"
    { load := -1, liveness := 3 } (by decide)
  exact absurd twice (by decide)

end Tinygame.Broker
