import Tinygame.Net.Broker
import Tinygame.Net.Delivery
import Mathlib.Data.Finset.Lattice.Basic
import Mathlib.Data.Finset.Lattice.Lemmas

/-!
# The broker follows the delivery protocol

The maps of the broker, read at one request id, hold a phase of `Delivery`. Every event of the
broker moves the phase of each id by the delivery events it stands for and sends exactly what the
protocol sends.
-/

namespace Tinygame.Broker
variable {δ : Type} {b b' : State δ} {rid : String}

abbrev Phase := Delivery.Phase String String
abbrev Note (δ : Type) := Delivery.Note String String δ
abbrev Move (δ : Type) := Delivery.Event String String δ

/-- What a message says about the request `rid`. -/
def note? (rid : String) : Msg δ → Option (Note δ)
  | .request workid r _ => if r = rid then some (.request workid) else none
  | .reply clientid workid r data => if r = rid then some (.reply clientid workid data) else none
  | .disconnect clientid workid r => if r = rid then some (.disconnect clientid workid) else none
  | .done clientid r => if r = rid then some (.done clientid) else none
  | .noexists clientid _ r _ => if r = rid then some (.noexists clientid) else none
  | .heartbeat _ => none

/-- Everything sent about the request `rid`, in order. -/
def about (b : State δ) (rid : String) : List (Note δ) := b.socket.filterMap (note? rid)

/-- The maps hold the request `rid` in the given phase. -/
def At (b : State δ) (rid : String) : Phase → Prop
  | .idle => b.castmsg.get? rid = none ∧ b.reqmap.get? rid = none ∧ b.clientmap.get? rid = none
  | .pending clientid workid =>
    b.castmsg.get? rid = none ∧ b.reqmap.get? rid = some workid ∧ b.clientmap.get? rid = some clientid
  | .casting clientid workids =>
    (∃ ws, b.castmsg.get? rid = some ws ∧ (∀ workid, ws.has workid = true ↔ workid ∈ workids)) ∧
      workids ≠ ∅ ∧ b.reqmap.get? rid = none ∧ b.clientmap.get? rid = some clientid

/-- The request is in a phase and `sent` is what was sent about it. -/
def Stands (b : State δ) (rid : String) (phase : Phase) (sent : List (Note δ)) : Prop :=
  At b rid phase ∧ about b rid = sent

/-- The state shows nothing new about the request `rid`. -/
structure Frame (rid : String) (b b' : State δ) : Prop where
  castmsg : b'.castmsg.get? rid = b.castmsg.get? rid
  reqmap : b'.reqmap.get? rid = b.reqmap.get? rid
  clientmap : b'.clientmap.get? rid = b.clientmap.get? rid
  about : about b' rid = about b rid

theorem Frame.refl (rid : String) (b : State δ) : Frame rid b b := ⟨rfl, rfl, rfl, rfl⟩

theorem Frame.trans {b₁ b₂ b₃ : State δ} (first : Frame rid b₁ b₂) (second : Frame rid b₂ b₃) :
    Frame rid b₁ b₃ :=
  ⟨second.castmsg.trans first.castmsg, second.reqmap.trans first.reqmap,
    second.clientmap.trans first.clientmap, second.about.trans first.about⟩

theorem Frame.at_iff (frame : Frame rid b b') (phase : Phase) : At b' rid phase ↔ At b rid phase := by
  cases phase <;> simp only [At, frame.castmsg, frame.reqmap, frame.clientmap]

theorem Frame.stands {phase : Phase} {sent : List (Note δ)} (frame : Frame rid b b')
    (stands : Stands b rid phase sent) : Stands b' rid phase sent :=
  ⟨(frame.at_iff phase).mpr stands.1, frame.about.trans stands.2⟩

theorem Frame.foldl {f : State δ → String → State δ} (keep : ∀ b key, key ≠ rid → Frame rid b (f b key))
    {keys : List String} (absent : rid ∉ keys) : Frame rid b (keys.foldl f b) := by
  induction keys generalizing b with
  | nil => exact Frame.refl rid b
  | cons key rest ih =>
    simp only [List.mem_cons, not_or] at absent
    exact (keep b key (Ne.symm absent.1)).trans (ih absent.2)

/-- A loop over ids touches the request `rid` in its own turn only. -/
theorem stands_foldl {f : State δ → String → State δ} {phase phase' : Phase} {sent sent' : List (Note δ)}
    (keep : ∀ b key, key ≠ rid → Frame rid b (f b key))
    (turn : ∀ b, Stands b rid phase sent → Stands (f b rid) rid phase' sent')
    {keys : List String} (once : keys.Nodup) (present : rid ∈ keys) (stands : Stands b rid phase sent) :
    Stands (keys.foldl f b) rid phase' sent' := by
  induction keys generalizing b with
  | nil => simp at present
  | cons key rest ih =>
    obtain ⟨fresh, once⟩ := List.nodup_cons.mp once
    by_cases same : key = rid
    · subst same
      exact (Frame.foldl keep fresh).stands (turn b stands)
    · have later : rid ∈ rest := (List.mem_cons.mp present).resolve_left (Ne.symm same)
      exact ih once later ((keep b key same).stands stands)

/-! ### Sending -/

@[simp] theorem send_workers (b : State δ) (msg : Msg δ) : (send b msg).workers = b.workers := rfl
@[simp] theorem send_castmsg (b : State δ) (msg : Msg δ) : (send b msg).castmsg = b.castmsg := rfl
@[simp] theorem send_reqmap (b : State δ) (msg : Msg δ) : (send b msg).reqmap = b.reqmap := rfl
@[simp] theorem send_clientmap (b : State δ) (msg : Msg δ) : (send b msg).clientmap = b.clientmap := rfl

theorem about_sent {msg : Msg δ} (h : b'.socket = b.socket ++ [msg]) :
    about b' rid = about b rid ++ (note? rid msg).toList := by
  simp only [about, h, List.filterMap_append]
  cases found : note? rid msg <;> simp [found]

theorem about_of_socket (h : b'.socket = b.socket) : about b' rid = about b rid := by
  rw [about, h, about]

theorem about_foreign {msg : Msg δ} (h : b'.socket = b.socket ++ [msg]) (foreign : note? rid msg = none) :
    about b' rid = about b rid := by
  simp [about_sent h, foreign]

theorem send_frame {msg : Msg δ} (foreign : note? rid msg = none) : Frame rid b (send b msg) :=
  ⟨rfl, rfl, rfl, about_foreign rfl foreign⟩

theorem modifyWorker_frame (rid server workid : String) (b : State δ) (f : Worker → Worker) :
    Frame rid b (b.modifyWorker server workid f) := ⟨rfl, rfl, rfl, rfl⟩

/-! ### A worker leaves a cast -/

theorem allReceiveProc_workers (b : State δ) (rid : String) : (allReceiveProc b rid).workers = b.workers := by
  unfold allReceiveProc
  split <;> rfl

theorem allReceiveProc_frame {other : String} (h : other ≠ rid) : Frame rid b (allReceiveProc b other) := by
  unfold allReceiveProc
  split
  · exact Frame.refl rid b
  · exact ⟨Obj.get?_delete_of_ne _ (Ne.symm h), rfl, Obj.get?_delete_of_ne _ (Ne.symm h),
      about_foreign rfl (if_neg h)⟩

theorem uncast_frame {other workid : String} (h : other ≠ rid) : Frame rid b (b.uncast other workid) :=
  ⟨by simp [State.uncast, Obj.get?_modify, Ne.symm h], rfl, rfl, rfl⟩

@[simp] theorem about_uncast (b : State δ) (rid other workid : String) :
    about (b.uncast other workid) rid = about b rid := rfl

theorem leave_stands (workid : String) {clientid : String} {workids : Finset String} {sent : List (Note δ)}
    (stands : Stands b rid (.casting clientid workids) sent) :
    Stands (allReceiveProc (b.uncast rid workid) rid) rid
      (Delivery.leave clientid workids workid) (sent ++ Delivery.leaveNotes clientid workids workid) := by
  obtain ⟨⟨⟨ws, cast, members⟩, _, reqmap, client⟩, sent_⟩ := stands
  have left : (b.uncast rid workid).castmsg.get? rid = some (ws.delete workid) := by
    simp [State.uncast, Obj.get?_modify, cast]
  have members' : ∀ other, (ws.delete workid).has other = true ↔ other ∈ workids.erase workid := by
    intro other
    simp [Obj.has_delete, members other]
  have empty : (ws.delete workid).keys = [] ↔ workids.erase workid = ∅ := by
    rw [List.eq_nil_iff_forall_not_mem, Finset.eq_empty_iff_forall_notMem]
    simp only [Obj.mem_keys_iff_has, members']
  unfold allReceiveProc Delivery.leave Delivery.leaveNotes
  rw [left, Option.getD_some]
  by_cases last : workids.erase workid = ∅
  · rw [if_neg (not_not_intro (empty.mpr last)), if_pos last, if_pos last]
    refine ⟨⟨Obj.get?_delete_self _ _, reqmap, Obj.get?_delete_self _ _⟩, ?_⟩
    rw [about_sent rfl, about_uncast, sent_]
    simp [note?, State.uncast, client]
  · rw [if_pos (mt empty.mp last), if_neg last, if_neg last, List.append_nil]
    exact ⟨⟨⟨_, left, members'⟩, last, reqmap, client⟩, (about_of_socket rfl).trans sent_⟩

/-! ### Replies -/

theorem replyReq_frame {server workid other : String} {data : δ} (h : other ≠ rid) :
    Frame rid b (replyReq b server workid other data) := by
  have foreign : ∀ clientid, note? rid (.reply clientid workid other data) = none := fun _ => if_neg h
  refine Frame.trans ?_ (modifyWorker_frame rid server workid _ _)
  unfold relayReply
  split
  · split
    · refine Frame.trans ?_ (allReceiveProc_frame h)
      split
      · exact (send_frame (foreign _)).trans (uncast_frame h)
      · exact uncast_frame h
    · exact Frame.refl rid b
  · split
    · split
      · exact ⟨rfl, Obj.get?_delete_of_ne _ (Ne.symm h), Obj.get?_delete_of_ne _ (Ne.symm h),
          about_foreign rfl (foreign _)⟩
      · exact ⟨rfl, Obj.get?_delete_of_ne _ (Ne.symm h), rfl, rfl⟩
    · exact Frame.refl rid b

theorem replyReq_stands (server workid : String) (data : δ) {phase : Phase} {sent : List (Note δ)}
    (stands : Stands b rid phase sent) :
    Stands (replyReq b server workid rid data) rid (Delivery.step phase (.reply workid data : Move δ))
      (sent ++ Delivery.notes phase (.reply workid data)) := by
  refine (modifyWorker_frame rid server workid _ _).stands ?_
  unfold relayReply
  cases phase with
  | idle =>
    obtain ⟨⟨castmsg, reqmap, clientmap⟩, sent_⟩ := stands
    simp only [castmsg, reqmap, Delivery.step, Delivery.notes, List.append_nil]
    exact ⟨⟨castmsg, reqmap, clientmap⟩, sent_⟩
  | pending clientid worker =>
    obtain ⟨⟨castmsg, reqmap, clientmap⟩, sent_⟩ := stands
    simp only [castmsg, reqmap, clientmap, Option.some.injEq, Delivery.step, Delivery.notes]
    by_cases same : worker = workid
    · subst same
      simp only [if_true]
      refine ⟨⟨castmsg, Obj.get?_delete_self _ _, Obj.get?_delete_self _ _⟩, ?_⟩
      rw [about_sent (b := b) rfl, sent_]
      simp [note?]
    · simp only [if_neg same, if_neg (Ne.symm same), List.append_nil]
      exact ⟨⟨castmsg, reqmap, clientmap⟩, sent_⟩
  | casting clientid workids =>
    obtain ⟨⟨ws, cast, members⟩, some_, reqmap, client⟩ := stands.1
    simp only [cast, client, members, Delivery.step, Delivery.notes]
    split
    · rename_i member
      have told : Stands (send b (.reply clientid workid rid data)) rid (.casting clientid workids)
          (sent ++ [.reply clientid workid data]) := by
        refine ⟨stands.1, ?_⟩
        rw [about_sent rfl, stands.2]
        simp [note?]
      simpa using leave_stands workid told
    · simpa using stands

/-! ### Losing a worker -/

theorem dropReq_frame {workid other : String} (h : other ≠ rid) : Frame rid b (dropReq workid b other) := by
  unfold dropReq
  split
  · dsimp only
    split
    · exact ⟨rfl, Obj.get?_delete_of_ne _ (Ne.symm h), Obj.get?_delete_of_ne _ (Ne.symm h),
        about_foreign rfl (if_neg h)⟩
    · exact ⟨rfl, Obj.get?_delete_of_ne _ (Ne.symm h), rfl, rfl⟩
  · exact Frame.refl rid b

theorem dropReq_stands (workid : String) {clientid worker : String} {sent : List (Note δ)}
    (stands : Stands b rid (.pending clientid worker) sent) :
    Stands (dropReq workid b rid) rid (Delivery.step (.pending clientid worker) (.expire workid : Move δ))
      (sent ++ Delivery.notes (.pending clientid worker) (.expire workid)) := by
  obtain ⟨⟨castmsg, reqmap, clientmap⟩, sent_⟩ := stands
  simp only [dropReq, reqmap, clientmap, Option.some.injEq, Delivery.step, Delivery.notes]
  by_cases same : worker = workid
  · subst same
    simp only [if_true]
    refine ⟨⟨castmsg, Obj.get?_delete_self _ _, Obj.get?_delete_self _ _⟩, ?_⟩
    rw [about_sent (b := b) rfl, sent_]
    simp [note?]
  · simp only [if_neg same, if_neg (Ne.symm same), List.append_nil]
    exact ⟨⟨castmsg, reqmap, clientmap⟩, sent_⟩

theorem dropCast_frame {workid other : String} (h : other ≠ rid) : Frame rid b (dropCast workid b other) := by
  unfold dropCast
  split
  · split
    · exact (uncast_frame h).trans (allReceiveProc_frame h)
    · exact Frame.refl rid b
  · exact Frame.refl rid b

theorem dropCast_stands (workid : String) {clientid : String} {workids : Finset String} {sent : List (Note δ)}
    (stands : Stands b rid (.casting clientid workids) sent) :
    Stands (dropCast workid b rid) rid (Delivery.step (.casting clientid workids) (.expire workid : Move δ))
      (sent ++ Delivery.notes (.casting clientid workids) (.expire workid)) := by
  obtain ⟨⟨ws, cast, members⟩, _⟩ := stands.1
  simp only [dropCast, cast, members, Delivery.step, Delivery.notes]
  split
  · exact leave_stands workid stands
  · simpa using stands

theorem dispatchReqs_stands {workid : String} {phase : Phase} {sent : List (Note δ)}
    (stands : Stands b rid phase sent) :
    Stands (dispatchReqs b workid) rid (Delivery.step phase (.expire workid : Move δ))
      (sent ++ Delivery.notes phase (.expire workid)) := by
  unfold dispatchReqs
  -- the first loop acts on a request that waits for one worker, the second on a cast
  cases phase with
  | idle =>
    have unrouted : rid ∉ b.reqmap.keys := by simp [Obj.mem_keys_iff, stands.1.2.1]
    have first := (Frame.foldl (f := dropReq workid) (fun _ _ h => dropReq_frame h) unrouted).stands stands
    have uncast : rid ∉ (b.reqmap.keys.foldl (dropReq workid) b).castmsg.keys := by
      simp [Obj.mem_keys_iff, first.1.1]
    simpa [Delivery.step, Delivery.notes] using
      (Frame.foldl (f := dropCast workid) (fun _ _ h => dropCast_frame h) uncast).stands first
  | pending clientid worker =>
    have routed : rid ∈ b.reqmap.keys := Obj.mem_keys_iff.mpr ⟨worker, stands.1.2.1⟩
    have first := stands_foldl (f := dropReq workid) (fun _ _ h => dropReq_frame h)
      (fun _ => dropReq_stands workid) b.reqmap.keys_nodup routed stands
    have uncast : rid ∉ (b.reqmap.keys.foldl (dropReq workid) b).castmsg.keys := by
      have none_ : (b.reqmap.keys.foldl (dropReq workid) b).castmsg.get? rid = none := by
        have placed := first.1
        simp only [Delivery.step] at placed
        split at placed <;> exact placed.1
      simp [Obj.mem_keys_iff, none_]
    exact (Frame.foldl (f := dropCast workid) (fun _ _ h => dropCast_frame h) uncast).stands first
  | casting clientid workids =>
    have unrouted : rid ∉ b.reqmap.keys := by simp [Obj.mem_keys_iff, stands.1.2.2.1]
    have first := (Frame.foldl (f := dropReq workid) (fun _ _ h => dropReq_frame h) unrouted).stands stands
    obtain ⟨⟨ws, cast, _⟩, _⟩ := first.1
    exact stands_foldl (f := dropCast workid) (fun _ _ h => dropCast_frame h)
      (fun _ => dropCast_stands workid) (AList.keys_nodup _) (Obj.mem_keys_iff.mpr ⟨ws, cast⟩) first

/-! ### The workers of the broker -/

theorem foldl_workers {f : State δ → String → State δ} (keep : ∀ b key, (f b key).workers = b.workers)
    (keys : List String) : (keys.foldl f b).workers = b.workers := by
  induction keys generalizing b with
  | nil => rfl
  | cons key rest ih => exact ih.trans (keep b key)

theorem dispatchReqs_workers (b : State δ) (workid : String) : (dispatchReqs b workid).workers = b.workers := by
  unfold dispatchReqs
  refine (foldl_workers (fun b key => ?_) _).trans (foldl_workers (fun b key => ?_) _)
  · unfold dropCast
    split
    · split
      · exact allReceiveProc_workers _ _
      · rfl
    · rfl
  · unfold dropReq
    split
    · dsimp only
      split <;> rfl
    · rfl

theorem worker?_of_workers (h : b'.workers = b.workers) (server workid : String) :
    b'.worker? server workid = b.worker? server workid := by
  rw [State.worker?, h, State.worker?]

theorem workids_of_workers (h : b'.workers = b.workers) (server : String) :
    b'.workids server = b.workids server := by
  rw [State.workids, h, State.workids]

theorem mem_workids {server workid : String} : workid ∈ b.workids server ↔ (b.worker? server workid).isSome := by
  unfold State.workids State.worker?
  cases b.workers.get? server with
  | none => simp
  | some ws => simp [Obj.mem_keys_iff, Option.isSome_iff_exists]

theorem worker?_modifyWorker (b : State δ) (server workid : String) (f : Worker → Worker) (type other : String) :
    (b.modifyWorker server workid f).worker? type other =
      if type = server ∧ other = workid then (b.worker? type other).map f else b.worker? type other := by
  unfold State.worker? State.modifyWorker
  simp only [Obj.get?_modify]
  by_cases same : type = server
  · subst same
    cases b.workers.get? type with
    | none => simp
    | some ws => by_cases hit : other = workid <;> simp [Obj.get?_modify, hit]
  · simp [same]

theorem workids_modifyWorker (b : State δ) (server workid : String) (f : Worker → Worker) (type : String) :
    (b.modifyWorker server workid f).workids type = b.workids type := by
  unfold State.workids State.modifyWorker
  simp only [Obj.get?_modify]
  split
  · rename_i same
    subst same
    cases b.workers.get? type <;> simp [Obj.keys_modify]
  · rfl

/-! ### Routing -/

theorem routeTo_frame {type workid clientid other : String} {data : δ} (h : other ≠ rid) :
    Frame rid b (routeTo b type workid clientid other data) :=
  ⟨rfl, Obj.get?_set_of_ne _ _ (Ne.symm h), Obj.get?_set_of_ne _ _ (Ne.symm h),
    about_foreign rfl (if_neg h)⟩

theorem routeTo_stands {type workid clientid : String} {data : δ} {sent : List (Note δ)}
    (stands : Stands b rid .idle sent) :
    Stands (routeTo b type workid clientid rid data) rid (.pending clientid workid)
      (sent ++ [.request workid]) := by
  refine ⟨⟨stands.1.1, Obj.get?_set_self _ _ _, Obj.get?_set_self _ _ _⟩, ?_⟩
  rw [about_sent (b := b) rfl, stands.2]
  simp [note?]

theorem refuse_stands (server clientid : String) (data : δ) {phase : Phase} {sent : List (Note δ)}
    (stands : Stands b rid phase sent) :
    Stands (send b (.noexists clientid server rid data)) rid phase (sent ++ [.noexists clientid]) := by
  refine ⟨stands.1, ?_⟩
  rw [about_sent (b := b) rfl, stands.2]
  simp [note?]

theorem castTo_socket (type clientid rid workid : String) (data : δ) (b : State δ) :
    (castTo type clientid rid data b workid).socket = b.socket ++ [.request workid rid data] := by
  cases cast : b.castmsg.has rid <;> simp [castTo, send, State.modifyWorker, cast]

theorem castTo_frame {type clientid other workid : String} {data : δ} (h : other ≠ rid) :
    Frame rid b (castTo type clientid other data b workid) := by
  refine ⟨?_, ?_, ?_, about_foreign (castTo_socket ..) (if_neg h : note? rid (.request workid other data) = none)⟩
  all_goals
    cases cast : b.castmsg.has other <;>
      simp [castTo, send, State.modifyWorker, cast, Obj.get?_modify, Obj.get?_set, Ne.symm h]

theorem about_castTo (type clientid rid workid : String) (data : δ) (b : State δ) :
    about (castTo type clientid rid data b workid) rid = about b rid ++ [.request workid] := by
  rw [about_sent (castTo_socket ..)]
  simp [note?]

theorem castTo_first (type clientid workid : String) (data : δ) {sent : List (Note δ)}
    (stands : Stands b rid .idle sent) :
    Stands (castTo type clientid rid data b workid) rid (.casting clientid {workid})
      (sent ++ [.request workid]) := by
  obtain ⟨⟨castmsg, reqmap, _⟩, sent_⟩ := stands
  have absent : b.castmsg.has rid = false := Obj.has_eq_false.mpr castmsg
  refine ⟨⟨⟨(∅ : Obj Nat).set workid 1, ?_, ?_⟩, by simp, ?_, ?_⟩, ?_⟩
  · simp [castTo, send, State.modifyWorker, absent, Obj.get?_modify]
  · simp [Obj.has_set]
  · simpa [castTo, send, State.modifyWorker, absent] using reqmap
  · simp [castTo, send, State.modifyWorker, absent]
  · rw [about_castTo, sent_]

theorem castTo_next (type workid : String) (data : δ) {clientid : String} {workids : Finset String}
    {sent : List (Note δ)} (stands : Stands b rid (.casting clientid workids) sent) :
    Stands (castTo type clientid rid data b workid) rid (.casting clientid (insert workid workids))
      (sent ++ [.request workid]) := by
  obtain ⟨⟨⟨ws, cast, members⟩, _, reqmap, client⟩, sent_⟩ := stands
  have present : b.castmsg.has rid = true := Obj.has_iff.mpr ⟨ws, cast⟩
  refine ⟨⟨⟨ws.set workid 1, ?_, ?_⟩, by simp, ?_, ?_⟩, ?_⟩
  · simp [castTo, send, State.modifyWorker, present, Obj.get?_modify, cast]
  · simp [Obj.has_set, members]
  · simpa [castTo, send, State.modifyWorker, present] using reqmap
  · simpa [castTo, send, State.modifyWorker, present] using client
  · rw [about_castTo, sent_]

theorem foldl_castTo_next (type : String) (data : δ) {clientid : String} {workids : Finset String}
    {sent : List (Note δ)} (stands : Stands b rid (.casting clientid workids) sent) (keys : List String) :
    Stands (keys.foldl (castTo type clientid rid data) b) rid (.casting clientid (workids ∪ keys.toFinset))
      (sent ++ keys.map .request) := by
  induction keys generalizing b workids sent with
  | nil => simpa [Finset.union_empty] using stands
  | cons key rest ih =>
    have done := ih (castTo_next type key data stands)
    simpa [Finset.insert_union, Finset.union_insert] using done

theorem foldl_castTo_stands (type clientid : String) (data : δ) {sent : List (Note δ)}
    (stands : Stands b rid .idle sent) (keys : List String) :
    Stands (keys.foldl (castTo type clientid rid data) b) rid
      (Delivery.step .idle (.cast clientid keys : Move δ))
      (sent ++ Delivery.notes (.idle : Phase) (.cast clientid keys)) := by
  cases keys with
  | nil => simpa [Delivery.step, Delivery.notes] using stands
  | cons key rest =>
    have done := foldl_castTo_next type data (castTo_first type clientid key data stands) rest
    simpa [Delivery.step, Delivery.notes, Finset.singleton_union] using done

/-- A worker of a type that a cast reaches. -/
def State.reached (b : State δ) (type workid : String) : Bool :=
  (b.worker? type workid).any (0 ≤ ·.liveness)

/-- The workers a cast to `type` reaches, in order. -/
def State.addressed (b : State δ) (type : String) : List String :=
  (b.workids type).filter (b.reached type)

theorem castTo_workers (type clientid rid workid : String) (data : δ) (b : State δ) :
    (castTo type clientid rid data b workid).workers =
      (b.modifyWorker type workid (fun w => { w with load := w.load + 1 })).workers := by
  simp only [castTo, send]
  split <;> rfl

theorem reached_castTo (type clientid rid workid : String) (data : δ) (b : State δ) :
    (castTo type clientid rid data b workid).reached type = b.reached type := by
  funext other
  unfold State.reached
  rw [worker?_of_workers (castTo_workers _ _ _ _ _ _), worker?_modifyWorker]
  split
  · cases b.worker? type other <;> rfl
  · rfl

/-- The cast loop reaches the workers that are alive and leaves the last of them in `result`. -/
theorem foldl_castTurn (type clientid rid : String) (data : δ) (b : State δ) (result : Option String)
    (keys : List String) :
    keys.foldl (castTurn type clientid rid data) (b, result) =
      ((keys.filter (b.reached type)).foldl (castTo type clientid rid data) b,
        (keys.filter (b.reached type)).getLast?.or result) := by
  induction keys generalizing b result with
  | nil => rfl
  | cons key rest ih =>
    rw [List.foldl_cons, List.filter_cons]
    cases found : b.worker? type key with
    | none => simp [castTurn, found, State.reached, ih]
    | some w =>
      by_cases alive : 0 ≤ w.liveness
      · simp only [castTurn, found, if_pos alive, ih, reached_castTo]
        rw [if_pos (by simp [State.reached, found, alive])]
        cases rest.filter (b.reached type) with
        | nil => rfl
        | cons other more => simp [List.getLast?_cons]
      · simp [castTurn, found, ih, State.reached, alive]

end Tinygame.Broker
