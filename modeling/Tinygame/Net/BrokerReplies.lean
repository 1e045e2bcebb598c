import Tinygame.Net.BrokerDelivery
import Tinygame.Net.BrokerSends

/-!
# The replies a client gets

Every reply the broker passes on answers a request of that client, comes from a worker the request
was handed to, and is the worker's own text.
-/

namespace Tinygame.Delivery
variable {κ ω δ : Type} [DecidableEq ω]

def Phase.client? : Phase κ ω → Option κ
  | .idle => none
  | .pending client _ => some client
  | .casting client _ => some client

def isReply : Note κ ω δ → Bool
  | .reply _ _ _ => true
  | _ => false

omit [DecidableEq ω] in
theorem client?_leave [DecidableEq ω] (client : κ) (workers : Finset ω) (worker : ω) {other : κ}
    (known : (leave client workers worker).client? = some other) : other = client := by
  unfold leave at known
  split at known
  · cases known
  · exact (Option.some.inj known).symm

/-- A reply or a loss leaves a request with its client or without one. -/
theorem client?_step {phase : Phase κ ω} {e : Event κ ω δ} {worker : ω} (settles : Settles worker e) {client : κ}
    (known : (step phase e).client? = some client) : phase.client? = some client := by
  cases phase with
  | idle =>
    cases e with
    | reply | expire => cases known
    | _ => exact settles.elim
  | pending owner other =>
    cases e with
    | reply | expire =>
      simp only [step] at known
      split at known
      · cases known
      · exact known
    | _ => exact settles.elim
  | casting owner workers =>
    cases e with
    | reply | expire =>
      simp only [step] at known
      split at known
      · exact congrArg some (client?_leave owner workers _ known).symm
      · exact known
    | _ => exact settles.elim

/-- A reply noted in one event is to the client, from a worker waited for. -/
theorem notes_reply {phase : Phase κ ω} {e : Event κ ω δ} {settler : ω} (settles : Settles settler e) {client : κ} {worker : ω}
    {data : δ} (noted : .reply client worker data ∈ notes phase e) :
    phase.client? = some client ∧ worker ∈ phase.workers := by
  cases phase with
  | idle =>
    cases e with
    | reply | expire => cases noted
    | _ => exact settles.elim
  | pending owner other =>
    cases e with
    | reply from_ text =>
      simp only [notes] at noted
      split at noted
      · cases List.mem_singleton.mp noted
        exact ⟨rfl, Finset.mem_singleton_self _⟩
      · cases noted
    | expire gone =>
      simp only [notes] at noted
      split at noted
      · cases List.mem_singleton.mp noted
      · cases noted
    | _ => exact settles.elim
  | casting owner workers =>
    have closing : ∀ gone, (Note.reply client worker data : Note κ ω δ) ∉ leaveNotes owner workers gone := by
      intro gone there
      unfold leaveNotes at there
      split at there
      · cases List.mem_singleton.mp there
      · cases there
    cases e with
    | reply from_ text =>
      simp only [notes] at noted
      split at noted
      · rename_i member
        rcases List.mem_cons.mp noted with same | rest
        · cases same
          exact ⟨rfl, member⟩
        · exact absurd rest (closing from_)
      · cases noted
    | expire gone =>
      simp only [notes] at noted
      split at noted
      · exact absurd noted (closing gone)
      · cases noted
    | _ => exact settles.elim

theorem out_reply {phase : Phase κ ω} {events : List (Event κ ω δ)} (opened : Opened events) {client : κ} {worker : ω} {data : δ}
    (noted : .reply client worker data ∈ out phase events) : phase.client? = some client ∧ worker ∈ phase.workers := by
  induction events generalizing phase with
  | nil => cases noted
  | cons e rest ih =>
    obtain ⟨settler, settles⟩ := opened e List.mem_cons_self
    rw [out_cons] at noted
    rcases List.mem_append.mp noted with here | later
    · exact notes_reply settles here
    · obtain ⟨known, waits⟩ := ih (fun e there => opened e (List.mem_cons_of_mem _ there)) later
      exact ⟨client?_step settles known, step_workers_subset phase settles waits⟩

/-- Each worker is heard once. -/
theorem out_repliedBy {phase : Phase κ ω} {events : List (Event κ ω δ)} (opened : Opened events)
    (waiting : phase.client? ≠ none → phase.workers ≠ ∅) (worker : ω) : (out phase events).countP (repliedBy worker) ≤ 1 := by
  cases phase with
  | idle => simp [(idle_quiet opened).2]
  | pending client other =>
    rcases pending_ends_once client other opened with ⟨_, silent⟩ | ⟨_, note, sent, _⟩
    · simp [silent]
    · rw [sent]
      exact List.countP_le_length
  | casting client workers =>
    have nonempty : workers ≠ ∅ := waiting (by simp [Phase.client?])
    obtain ⟨relays, relayed, ends⟩ := casting_completes client nonempty opened
    split at ends
    · rw [ends.2, List.countP_append]
      have heard := relayed.2 worker
      simpa [repliedBy] using heard
    · rw [ends.2]
      exact relayed.2 worker

/-- How a request begins: it waits on its client's behalf, for workers it was sent to. -/
structure Begun (client : κ) (opening : List (Event κ ω δ)) : Prop where
  owner : ∀ other, (run step .idle opening).client? = some other → other = client
  waiting : (run step .idle opening).client? ≠ none → (run step .idle opening).workers ≠ ∅
  addressed : ∀ worker ∈ (run step .idle opening).workers, .request worker ∈ out .idle opening
  unanswered : ∀ note ∈ out .idle opening, isReply note = false

theorem begun_nil (client : κ) : Begun client ([] : List (Event κ ω δ)) where
  owner other known := by cases known
  waiting known := absurd rfl known
  addressed worker waits := by cases waits
  unanswered note there := by cases there

theorem begun_refuse (client : κ) : Begun client [(.refuse client : Event κ ω δ)] where
  owner other known := by cases known
  waiting known := absurd rfl known
  addressed worker waits := by cases waits
  unanswered := by simp [isReply]

theorem begun_route (client : κ) (worker : ω) : Begun client [(.route client worker : Event κ ω δ)] where
  owner other known := (Option.some.inj known).symm
  waiting _ := Finset.singleton_ne_empty worker
  addressed other waits := by
    rw [Finset.mem_singleton.mp waits]
    simp [notes]
  unanswered := by simp [notes, isReply]

theorem begun_cast (client : κ) (workers : List ω) : Begun client [(.cast client workers : Event κ ω δ)] where
  owner other known := by
    simp only [run_cons, run_nil, step] at known
    split at known
    · cases known
    · exact (Option.some.inj known).symm
  waiting known := by
    simp only [run_cons, run_nil, step] at known ⊢
    split
    · rename_i empty
      simp [empty, Phase.client?] at known
    · rename_i nonempty
      exact fun empty => nonempty (List.toFinset_eq_empty_iff _ |>.mp empty)
  addressed other waits := by
    rw [run_cons, run_nil, cast_workers, List.mem_toFinset] at waits
    simpa [notes] using waits
  unanswered := by simp [notes, isReply]

theorem begun_cast_refuse (client : κ) (workers : List ω) :
    Begun client [(.cast client workers : Event κ ω δ), .refuse client] where
  owner other known := (begun_cast client workers).owner other (by simpa using known)
  waiting known := by simpa using (begun_cast client workers).waiting (by simpa using known)
  addressed other waits := by
    have sent := (begun_cast client workers).addressed other (by simpa using waits)
    simp only [out_cons, out_nil, List.append_nil] at sent ⊢
    exact List.mem_append_left _ sent
  unanswered := by
    intro note there
    simp only [out_cons, out_nil, List.append_nil, notes_refuse] at there
    rcases List.mem_append.mp there with here | refused
    · exact (begun_cast client workers).unanswered note (by simpa using here)
    · rw [List.mem_singleton.mp refused]
      rfl

end Tinygame.Delivery

namespace Tinygame.Broker
variable {δ : Type} {b : State δ} {rid : String}

/-! ### What a run sends -/

theorem run_sends (b : State δ) (events : List (Event δ)) :
    Sends (fun msg => ∃ b', ∃ e ∈ events, Due b' e msg) b (run step b events) := by
  induction events generalizing b with
  | nil => exact .refl _ b
  | cons e rest ih =>
    have first := (step_sends b e).imp fun msg due => (⟨b, e, List.mem_cons_self, due⟩ : ∃ b', ∃ e' ∈ e :: rest, Due b' e' msg)
    have later := (ih (step b e)).imp fun msg ⟨b', e', there, due⟩ =>
      (⟨b', e', List.mem_cons_of_mem _ there, due⟩ : ∃ b', ∃ e' ∈ e :: rest, Due b' e' msg)
    exact first.trans later

theorem request_came {events : List (Event δ)} {workid : String} {data : δ}
    (sent : .request workid rid data ∈ (run step initial events).socket) :
    ∃ identity server, .message identity (.request server rid data) ∈ events := by
  rcases (run_sends initial events).mem sent with before | ⟨_, e, there, identity, server, rfl⟩
  · cases before
  · exact ⟨identity, server, there⟩

theorem reply_came {events : List (Event δ)} {clientid workid : String} {data : δ}
    (sent : .reply clientid workid rid data ∈ (run step initial events).socket) :
    ∃ server, .message workid (.reply server rid data) ∈ events := by
  rcases (run_sends initial events).mem sent with before | ⟨_, e, there, server, rfl⟩
  · cases before
  · exact ⟨server, there⟩

theorem mem_requestIds {events : List (Event δ)} :
    rid ∈ requestIds events ↔ ∃ clientid server data, .message clientid (.request server rid data) ∈ events := by
  unfold requestIds
  rw [List.mem_filterMap]
  constructor
  · rintro ⟨e, there, same⟩
    split at same
    · cases same
      exact ⟨_, _, _, there⟩
    · cases same
  · rintro ⟨clientid, server, data, there⟩
    exact ⟨_, there, rfl⟩

/-- Requests of one id are one request. -/
theorem request_unique {events : List (Event δ)} (distinct : (requestIds events).Nodup) {clientid clientid' server server' : String}
    {data data' : δ} (first : .message clientid (.request server rid data) ∈ events)
    (second : .message clientid' (.request server' rid data') ∈ events) :
    clientid' = clientid ∧ server' = server ∧ data' = data := by
  obtain ⟨before, after, rfl⟩ := List.append_of_mem first
  obtain ⟨_, unused, later⟩ := distinct_split distinct
  rcases List.mem_append.mp second with early | rest
  · exact absurd (mem_requestIds.mpr ⟨_, _, _, early⟩) unused
  · rcases List.mem_cons.mp rest with same | late
    · cases same
      exact ⟨rfl, rfl, rfl⟩
    · exact absurd (mem_requestIds.mpr ⟨_, _, _, late⟩) later

/-! ### What is said about one request -/

theorem opening_begun (b : State δ) (server clientid : String) : Delivery.Begun clientid (opening b server clientid) := by
  unfold opening
  split
  · split
    · exact Delivery.begun_route _ _
    · exact Delivery.begun_refuse _
  · split
    · split
      · split
        · exact Delivery.begun_cast _ _
        · exact Delivery.begun_cast_refuse _ _
      · exact Delivery.begun_refuse _
    · split
      · split
        · exact Delivery.begun_route _ _
        · exact Delivery.begun_nil _
      · exact Delivery.begun_refuse _

/-- What was said about a request since it came. -/
theorem about_request {server clientid : String} {data : δ} {before after : List (Event δ)}
    (distinct : (requestIds (before ++ .message clientid (.request server rid data) :: after)).Nodup) :
    ∃ answers, Delivery.Opened answers ∧
      about (run step initial (before ++ .message clientid (.request server rid data) :: after)) rid =
        Delivery.out .idle (opening (run step initial before) server clientid) ++
          Delivery.out (run Delivery.step .idle (opening (run step initial before) server clientid)) answers := by
  obtain ⟨first, unused, later⟩ := distinct_split distinct
  have arrived := arrival_stands server clientid data (run_sound first) unused
  have stands := run_stands later arrived
  rw [run_append, run_cons]
  exact ⟨_, movesAlong_opened later _, stands.2⟩

theorem reply_about {clientid workid : String} {data : δ} :
    .reply clientid workid data ∈ about b rid ↔ .reply clientid workid rid data ∈ b.socket := by
  unfold about
  rw [List.mem_filterMap]
  constructor
  · rintro ⟨msg, there, noted⟩
    cases msg with
    | heartbeat => cases noted
    | _ =>
      simp only [note?] at noted
      split at noted
      · rename_i same
        cases noted
        try exact same ▸ there
      · cases noted
  · intro there
    exact ⟨_, there, by simp [note?]⟩

theorem request_about {workid : String} (sent : .request workid ∈ about b rid) : ∃ data, .request workid rid data ∈ b.socket := by
  obtain ⟨msg, there, noted⟩ := List.mem_filterMap.mp sent
  cases msg with
  | heartbeat => cases noted
  | _ =>
    simp only [note?] at noted
    split at noted
    · rename_i same
      cases noted
      try exact ⟨_, same ▸ there⟩
    · cases noted

/-- Nothing is said about an id no request had. -/
theorem request_known {events : List (Event δ)} (distinct : (requestIds events).Nodup) {clientid workid : String} {data : δ}
    (sent : .reply clientid workid rid data ∈ (run step initial events).socket) :
    ∃ clientid server data, .message clientid (.request server rid data) ∈ events := by
  by_contra none_
  have silent := ((run_sound distinct).unused rid fun used => none_ (mem_requestIds.mp used)).2
  have there := reply_about.mpr sent
  rw [silent] at there
  cases there

/-- A reply goes to the client that asked, from a worker that was handed what the client sent, and is what that worker sent. -/
theorem reply_routed {events : List (Event δ)} (distinct : (requestIds events).Nodup) {clientid workid : String} {data : δ}
    (sent : .reply clientid workid rid data ∈ (run step initial events).socket) :
    (∃ server given, .message clientid (.request server rid given) ∈ events ∧
      .request workid rid given ∈ (run step initial events).socket) ∧
      ∃ server, .message workid (.reply server rid data) ∈ events := by
  refine ⟨?_, reply_came sent⟩
  obtain ⟨asker, server, given, asked⟩ := request_known distinct sent
  obtain ⟨before, after, rfl⟩ := List.append_of_mem asked
  obtain ⟨answers, opened, said⟩ := about_request distinct
  have begun := opening_begun (run step initial before) server asker
  have there := reply_about.mpr sent
  rw [said] at there
  rcases List.mem_append.mp there with early | answered
  · cases begun.unanswered _ early
  · obtain ⟨known, waits⟩ := Delivery.out_reply opened answered
    obtain rfl := begun.owner _ known
    have handed : .request workid ∈ about (run step initial (before ++ .message clientid (.request server rid given) :: after)) rid := by
      rw [said]
      exact List.mem_append_left _ (begun.addressed _ waits)
    obtain ⟨data', handed⟩ := request_about handed
    obtain ⟨_, _, came⟩ := request_came handed
    obtain ⟨_, _, rfl⟩ := request_unique distinct asked came
    exact ⟨server, data', asked, handed⟩

/-- The message is a reply of the worker to the request. -/
def repliesFor (rid workid : String) : Msg δ → Bool
  | .reply _ from_ r _ => r = rid ∧ from_ = workid
  | _ => false

/-- The message is a reply to the request. -/
def repliesTo (rid : String) : Msg δ → Bool
  | .reply _ _ r _ => r = rid
  | _ => false

theorem countP_about {p : Msg δ → Bool} {q : Note δ → Bool} (same : ∀ msg, p msg = (note? rid msg).any q) (b : State δ) :
    b.socket.countP p = (about b rid).countP q := by
  unfold about
  rw [List.countP_filterMap]
  refine List.countP_congr fun msg _ => ?_
  rw [same]
  cases note? rid msg <;> simp

theorem countP_unanswered {notes : List (Note δ)} {q : Note δ → Bool} (unanswered : ∀ note ∈ notes, Delivery.isReply note = false)
    (replies : ∀ note, q note = true → Delivery.isReply note = true) : notes.countP q = 0 := by
  rw [List.countP_eq_zero]
  intro note there holds
  have none_ := unanswered note there
  rw [replies note holds] at none_
  cases none_

/-- Each worker's reply to a request is passed on once. -/
theorem repliesFor_once {events : List (Event δ)} (distinct : (requestIds events).Nodup) (rid workid : String) :
    (run step initial events).socket.countP (repliesFor rid workid) ≤ 1 := by
  have same : ∀ msg : Msg δ, repliesFor rid workid msg = (note? rid msg).any (Delivery.repliedBy workid) := by
    intro msg
    cases msg with
    | heartbeat => rfl
    | _ =>
      simp only [repliesFor, note?]
      split <;> simp [Delivery.repliedBy, *]
  rw [countP_about same]
  by_cases used : rid ∈ requestIds events
  · obtain ⟨clientid, server, data, asked⟩ := mem_requestIds.mp used
    obtain ⟨before, after, rfl⟩ := List.append_of_mem asked
    obtain ⟨answers, opened, said⟩ := about_request distinct
    have begun := opening_begun (run step initial before) server clientid
    rw [said, List.countP_append, countP_unanswered begun.unanswered, Nat.zero_add]
    · exact Delivery.out_repliedBy opened begun.waiting workid
    · intro note replied
      cases note <;> first | rfl | cases replied
  · rw [((run_sound distinct).unused rid used).2]
    simp

/-- No reply is passed on for an id no request had. -/
theorem repliesTo_zero {events : List (Event δ)} (distinct : (requestIds events).Nodup) (unused : rid ∉ requestIds events) :
    (run step initial events).socket.countP (repliesTo rid) = 0 := by
  rw [List.countP_eq_zero]
  intro msg there counted
  cases msg with
  | reply clientid workid r data =>
    obtain rfl : r = rid := by simpa [repliesTo] using counted
    obtain ⟨_, _, _, asked⟩ := request_known distinct there
    exact unused (mem_requestIds.mpr ⟨_, _, _, asked⟩)
  | _ => cases counted

/-- The reply to a request that is not cast is passed on once. -/
theorem repliesTo_once {events : List (Event δ)} (distinct : (requestIds events).Nodup) {clientid server : String} {data : δ}
    (asked : .message clientid (.request server rid data) ∈ events) (single : castType? server = none) :
    (run step initial events).socket.countP (repliesTo rid) ≤ 1 := by
  have same : ∀ msg : Msg δ, repliesTo rid msg = (note? rid msg).any Delivery.isReply := by
    intro msg
    cases msg with
    | heartbeat => rfl
    | _ =>
      simp only [repliesTo, note?]
      split <;> simp [Delivery.isReply, *]
  rw [countP_about same]
  obtain ⟨before, after, rfl⟩ := List.append_of_mem asked
  obtain ⟨first, _, _⟩ := distinct_split distinct
  obtain ⟨answers, opened, said⟩ := about_request distinct
  have begun := opening_begun (run step initial before) server clientid
  rw [said, List.countP_append, countP_unanswered begun.unanswered (fun _ holds => holds), Nat.zero_add]
  have uncast : (run step initial before).casts server = false := by simp [State.casts, single]
  have routed := opening_single clientid uncast (run_sound first).alive
  rcases routed with ⟨workid, same⟩ | same
  · rw [same]
    rcases Delivery.pending_ends_once clientid workid opened with ⟨_, silent⟩ | ⟨_, note, sent, _⟩
    · simp [Delivery.step, silent]
    · simp only [run_cons, run_nil, Delivery.step, sent]
      exact List.countP_le_length
  · rw [same]
    simp [(Delivery.idle_quiet opened).2]

end Tinygame.Broker
