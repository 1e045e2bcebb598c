import Tinygame.Base.Run
import Mathlib.Data.Finset.Basic
import Mathlib.Data.List.Nodup

/-!
# One request at a broker

What a broker owes to one request, apart from how it stores it. A request is opened once: it is
handed to one worker, cast to several, or refused. From then on only replies and the loss of
workers concern it.
-/

namespace Tinygame.Delivery
variable {κ ω δ : Type} [DecidableEq ω]

inductive Phase (κ ω : Type) where
  | idle
  | pending (client : κ) (worker : ω)
  | casting (client : κ) (workers : Finset ω)

inductive Event (κ ω δ : Type) where
  | route (client : κ) (worker : ω)
  | cast (client : κ) (workers : List ω)
  | refuse (client : κ)
  | reply (worker : ω) (data : δ)
  | expire (worker : ω)

/-- What is sent about the request: one copy for each worker, the rest for the client. -/
inductive Note (κ ω δ : Type) where
  | request (worker : ω)
  | reply (client : κ) (worker : ω) (data : δ)
  | disconnect (client : κ) (worker : ω)
  | done (client : κ)
  | noexists (client : κ)

/-- The workers a request still waits for. -/
def Phase.workers : Phase κ ω → Finset ω
  | .idle => ∅
  | .pending _ worker => {worker}
  | .casting _ workers => workers

/-- A cast request loses one of the workers it waits for. -/
def leave (client : κ) (workers : Finset ω) (worker : ω) : Phase κ ω :=
  if workers.erase worker = ∅ then .idle else .casting client (workers.erase worker)

def leaveNotes (client : κ) (workers : Finset ω) (worker : ω) : List (Note κ ω δ) :=
  if workers.erase worker = ∅ then [.done client] else []

def step : Phase κ ω → Event κ ω δ → Phase κ ω
  | .idle, .route client worker => .pending client worker
  | .idle, .cast client workers => if workers = [] then .idle else .casting client workers.toFinset
  | .pending client worker, .reply from_ _ => if from_ = worker then .idle else .pending client worker
  | .pending client worker, .expire gone => if gone = worker then .idle else .pending client worker
  | .casting client workers, .reply from_ _ =>
    if from_ ∈ workers then leave client workers from_ else .casting client workers
  | .casting client workers, .expire gone =>
    if gone ∈ workers then leave client workers gone else .casting client workers
  | phase, _ => phase

def notes : Phase κ ω → Event κ ω δ → List (Note κ ω δ)
  | .idle, .route _ worker => [.request worker]
  | .idle, .cast _ workers => workers.map .request
  | _, .refuse client => [.noexists client]
  | .pending client worker, .reply from_ data => if from_ = worker then [.reply client worker data] else []
  | .pending client worker, .expire gone => if gone = worker then [.disconnect client worker] else []
  | .casting client workers, .reply from_ data =>
    if from_ ∈ workers then .reply client from_ data :: leaveNotes client workers from_ else []
  | .casting client workers, .expire gone =>
    if gone ∈ workers then leaveNotes client workers gone else []
  | _, _ => []

@[simp] theorem step_refuse (phase : Phase κ ω) (client : κ) :
    step phase (.refuse client : Event κ ω δ) = phase := by
  cases phase <;> rfl

@[simp] theorem notes_refuse (phase : Phase κ ω) (client : κ) :
    notes phase (.refuse client : Event κ ω δ) = [.noexists client] := by
  cases phase <;> rfl

/-- Everything sent about the request while `events` are handled. -/
def out : Phase κ ω → List (Event κ ω δ) → List (Note κ ω δ)
  | _, [] => []
  | phase, e :: rest => notes phase e ++ out (step phase e) rest

@[simp] theorem out_nil (phase : Phase κ ω) : out phase ([] : List (Event κ ω δ)) = [] := rfl

@[simp] theorem out_cons (phase : Phase κ ω) (e : Event κ ω δ) (rest : List (Event κ ω δ)) :
    out phase (e :: rest) = notes phase e ++ out (step phase e) rest := rfl

theorem out_append (phase : Phase κ ω) (first second : List (Event κ ω δ)) :
    out phase (first ++ second) = out phase first ++ out (run step phase first) second := by
  induction first generalizing phase with
  | nil => rfl
  | cons e rest ih => simp [ih]

/-- The event is a reply or a loss of `worker`. -/
def Settles (worker : ω) : Event κ ω δ → Prop
  | .reply from_ _ => from_ = worker
  | .expire gone => gone = worker
  | _ => False

/-- No event of the list opens the request. -/
def Opened (events : List (Event κ ω δ)) : Prop := ∀ e ∈ events, ∃ worker, Settles worker e

omit [DecidableEq ω] in
theorem opened_append {first second : List (Event κ ω δ)} :
    Opened (first ++ second) ↔ Opened first ∧ Opened second := by
  simp [Opened, or_imp, forall_and]

/-! ### The workers waited for -/

theorem leave_workers (client : κ) (workers : Finset ω) (worker : ω) :
    (leave client workers worker).workers = workers.erase worker := by
  unfold leave
  split
  · rename_i empty
    rw [empty]
    rfl
  · rfl

theorem cast_workers (client : κ) (workers : List ω) :
    (step (.idle : Phase κ ω) (.cast client workers : Event κ ω δ)).workers = workers.toFinset := by
  simp only [step]
  split
  · rename_i empty
    rw [empty]
    rfl
  · rfl

/-- A reply or a loss never makes a request wait for another worker. -/
theorem step_workers_subset (phase : Phase κ ω) {e : Event κ ω δ} {worker : ω} (settles : Settles worker e) :
    (step phase e).workers ⊆ phase.workers := by
  cases e with
  | reply | expire =>
    cases phase with
    | idle => exact Finset.Subset.refl _
    | pending client other =>
      simp only [step]
      split
      · exact Finset.empty_subset _
      · exact Finset.Subset.refl _
    | casting client workers =>
      simp only [step]
      split
      · rw [leave_workers]
        exact Finset.erase_subset _ _
      · exact Finset.Subset.refl _
  | _ => exact settles.elim

theorem expire_workers (phase : Phase κ ω) (gone : ω) :
    gone ∉ (step phase (.expire gone : Event κ ω δ)).workers := by
  cases phase with
  | idle => exact Finset.notMem_empty _
  | pending client worker =>
    simp only [step]
    split
    · exact Finset.notMem_empty _
    · rename_i other
      exact fun member => other (Finset.mem_singleton.mp member)
  | casting client workers =>
    simp only [step]
    split
    · rw [leave_workers]
      exact Finset.notMem_erase _ _
    · assumption

/-- After a round of losses a request waits for none of the workers lost. -/
theorem expire_round_workers (phase : Phase κ ω) (lost : List ω) {worker : ω}
    (waits : worker ∈ (run step phase (lost.map (Event.expire : ω → Event κ ω δ))).workers) :
    worker ∈ phase.workers ∧ worker ∉ lost := by
  induction lost generalizing phase with
  | nil => exact ⟨waits, List.not_mem_nil⟩
  | cons gone rest ih =>
    obtain ⟨member, others⟩ := ih (step phase (.expire gone : Event κ ω δ)) waits
    have shrinks := step_workers_subset phase (e := (.expire gone : Event κ ω δ)) rfl member
    refine ⟨shrinks, fun found => ?_⟩
    rcases List.mem_cons.mp found with rfl | later
    · exact expire_workers phase worker member
    · exact others later

/-! ### A request that nobody owes an answer -/

theorem idle_quiet {events : List (Event κ ω δ)} (opened : Opened events) :
    run step (.idle : Phase κ ω) events = .idle ∧ out (.idle : Phase κ ω) events = [] := by
  induction events with
  | nil => exact ⟨rfl, rfl⟩
  | cons e rest ih =>
    obtain ⟨worker, settles⟩ := opened e List.mem_cons_self
    have stays : step (.idle : Phase κ ω) e = .idle ∧ notes (.idle : Phase κ ω) e = [] := by
      cases e with
      | reply | expire => exact ⟨rfl, rfl⟩
      | _ => exact settles.elim
    obtain ⟨final, silent⟩ := ih (fun e member => opened e (List.mem_cons_of_mem _ member))
    rw [run_cons, out_cons, stays.1, stays.2]
    exact ⟨final, silent⟩

/-! ### A request handed to one worker -/

/-- A note that ends the request of `client`. -/
def Note.Ends (client : κ) : Note κ ω δ → Prop
  | .reply addressee _ _ => addressee = client
  | .disconnect addressee _ => addressee = client
  | .noexists addressee => addressee = client
  | _ => False

theorem pending_step (client : κ) (worker : ω) {e : Event κ ω δ} {other : ω} (settles : Settles other e) :
    (step (.pending client worker) e = .pending client worker ∧ notes (.pending client worker) e = []) ∨
      (step (.pending client worker) e = .idle ∧
        ∃ note, notes (.pending client worker) e = [note] ∧ note.Ends client) := by
  cases e with
  | reply from_ data =>
    by_cases same : from_ = worker
    · exact .inr ⟨if_pos same, _, if_pos same, rfl⟩
    · exact .inl ⟨if_neg same, if_neg same⟩
  | expire gone =>
    by_cases same : gone = worker
    · exact .inr ⟨if_pos same, _, if_pos same, rfl⟩
    · exact .inl ⟨if_neg same, if_neg same⟩
  | _ => exact settles.elim

/-- A request handed to one worker is still waiting for it, or was ended once, for its own client. -/
theorem pending_ends_once (client : κ) (worker : ω) {events : List (Event κ ω δ)} (opened : Opened events) :
    (run step (.pending client worker) events = .pending client worker ∧
        out (.pending client worker) events = []) ∨
      (run step (.pending client worker) events = .idle ∧
        ∃ note, out (.pending client worker) events = [note] ∧ note.Ends client) := by
  induction events with
  | nil => exact .inl ⟨rfl, rfl⟩
  | cons e rest ih =>
    obtain ⟨other, settles⟩ := opened e List.mem_cons_self
    have later : Opened rest := fun e member => opened e (List.mem_cons_of_mem _ member)
    rw [run_cons, out_cons]
    rcases pending_step client worker settles with ⟨stays, silent⟩ | ⟨ended, note, sent, ends⟩
    · rw [stays, silent]
      exact ih later
    · obtain ⟨final, quiet⟩ := idle_quiet (κ := κ) later
      rw [ended, sent, quiet]
      exact .inr ⟨final, note, rfl, ends⟩

/-! ### A request cast to several workers -/

/-- Some event of the list is a reply or a loss of `worker`. -/
def Settled (worker : ω) (events : List (Event κ ω δ)) : Prop := ∃ e ∈ events, Settles worker e

instance (worker : ω) (e : Event κ ω δ) : Decidable (Settles worker e) := by
  cases e <;> unfold Settles <;> infer_instance

instance (worker : ω) (events : List (Event κ ω δ)) : Decidable (Settled worker events) :=
  inferInstanceAs (Decidable (∃ e ∈ events, _))

/-- The workers of a cast that have neither replied nor been lost. -/
def remaining (workers : Finset ω) (events : List (Event κ ω δ)) : Finset ω :=
  workers.filter (fun worker => ¬ Settled worker events)

def repliedBy (worker : ω) : Note κ ω δ → Bool
  | .reply _ from_ _ => from_ = worker
  | _ => false

/-- The replies relayed for a cast: to its client, from its workers, each worker at most once. -/
def Relays (client : κ) (workers : Finset ω) (sent : List (Note κ ω δ)) : Prop :=
  (∀ note ∈ sent, ∃ worker ∈ workers, ∃ data, note = .reply client worker data) ∧
    ∀ worker, sent.countP (repliedBy worker) ≤ 1

/-- The copy of a reply that goes to the client. -/
def relay (client : κ) : Event κ ω δ → List (Note κ ω δ)
  | .reply worker data => [.reply client worker data]
  | _ => []

theorem casting_step (client : κ) (workers : Finset ω) {e : Event κ ω δ} {worker : ω}
    (settles : Settles worker e) :
    step (.casting client workers) e =
        (if worker ∈ workers then leave client workers worker else .casting client workers) ∧
      notes (.casting client workers) e =
        if worker ∈ workers then relay client e ++ leaveNotes client workers worker else [] := by
  cases e with
  | reply | expire => cases settles; exact ⟨rfl, rfl⟩
  | _ => exact settles.elim

theorem relay_relays (client : κ) {workers : Finset ω} {e : Event κ ω δ} {worker : ω}
    (settles : Settles worker e) (member : worker ∈ workers) : Relays client workers (relay client e) := by
  cases e with
  | reply from_ data =>
    cases settles
    refine ⟨by simp [relay, member], fun other => ?_⟩
    exact List.countP_le_length.trans (by simp [relay])
  | _ => exact ⟨by simp [relay], by simp [relay]⟩

/-- A worker that has left the cast is heard no more, so its reply can be put before the others. -/
theorem relays_cons {client : κ} {workers : Finset ω} {e : Event κ ω δ} {worker : ω}
    {sent : List (Note κ ω δ)} (settles : Settles worker e) (member : worker ∈ workers)
    (later : Relays client (workers.erase worker) sent) : Relays client workers (relay client e ++ sent) := by
  have first := relay_relays client settles member
  refine ⟨fun note found => ?_, fun other => ?_⟩
  · rcases List.mem_append.mp found with found | found
    · exact first.1 note found
    · obtain ⟨from_, present, data, same⟩ := later.1 note found
      exact ⟨from_, Finset.mem_of_mem_erase present, data, same⟩
  · rw [List.countP_append]
    by_cases same : other = worker
    · have unheard : sent.countP (repliedBy other) = 0 := by
        rw [List.countP_eq_zero]
        intro note found replied
        obtain ⟨from_, present, data, rfl⟩ := later.1 note found
        have := Finset.ne_of_mem_erase present
        simp_all [repliedBy]
      rw [unheard]
      exact first.2 other
    · have unheard : (relay client e).countP (repliedBy other) = 0 := by
        cases e with
        | reply from_ data => cases settles; simp [relay, repliedBy, Ne.symm same]
        | _ => rfl
      rw [unheard, Nat.zero_add]
      exact later.2 other

theorem remaining_cons_of_mem {workers : Finset ω} {e : Event κ ω δ} {rest : List (Event κ ω δ)}
    {worker : ω} (settles : Settles worker e) :
    remaining workers (e :: rest) = remaining (workers.erase worker) rest := by
  have only : ∀ other, Settles other e ↔ other = worker := by
    intro other
    cases e with
    | reply | expire => cases settles; exact eq_comm
    | _ => exact settles.elim
  ext other
  simp [remaining, Settled, only]
  tauto

/-- A cast request waits for exactly the workers that are not settled. Its client hears every
worker at most once, and the end of the cast in the step that settles the last worker. -/
theorem casting_completes (client : κ) {workers : Finset ω} {events : List (Event κ ω δ)}
    (some_ : workers ≠ ∅) (opened : Opened events) :
    ∃ relays, Relays client workers relays ∧
      if remaining workers events = ∅ then
        run step (.casting client workers) events = .idle ∧
          out (.casting client workers) events = relays ++ [.done client]
      else
        run step (.casting client workers) events = .casting client (remaining workers events) ∧
          out (.casting client workers) events = relays := by
  induction events generalizing workers with
  | nil =>
    have all : remaining workers ([] : List (Event κ ω δ)) = workers := by simp [remaining, Settled]
    exact ⟨[], ⟨by simp, by simp⟩, by simp [all, some_]⟩
  | cons e rest ih =>
    obtain ⟨worker, settles⟩ := opened e List.mem_cons_self
    have later : Opened rest := fun e member => opened e (List.mem_cons_of_mem _ member)
    obtain ⟨stepped, noted⟩ := casting_step client workers settles
    rw [run_cons, out_cons, stepped, noted, remaining_cons_of_mem settles]
    by_cases member : worker ∈ workers
    · simp only [if_pos member]
      by_cases last : workers.erase worker = ∅
      · -- the last worker leaves: the cast is over and nothing more is sent
        obtain ⟨final, quiet⟩ := idle_quiet (κ := κ) later
        refine ⟨relay client e, relay_relays client settles member, ?_⟩
        simp [leave, leaveNotes, last, final, quiet, remaining]
      · obtain ⟨relays, relayed, rest⟩ := ih last later
        refine ⟨relay client e ++ relays, relays_cons settles member relayed, ?_⟩
        simp only [leave, leaveNotes, if_neg last, List.append_nil]
        split at rest
        · rename_i finished
          rw [if_pos finished]
          exact ⟨rest.1, by rw [rest.2, List.append_assoc]⟩
        · rename_i unfinished
          rw [if_neg unfinished]
          exact ⟨rest.1, by rw [rest.2]⟩
    · rw [if_neg member, if_neg member, Finset.erase_eq_of_notMem member]
      exact ih some_ later

end Tinygame.Delivery
