import Tinygame.Mail.MailImp

/-!
# The mail to an area

`sendGlobalMail` gives a mail an id, a head and a text. Players pull mail from the pool of their area, and
no request puts an id there: whatever is in a set has been in one before.
-/

namespace Tinygame.Mail
open Redis (Session redisKeyGen)

/-- An id that had not been given away at `issued`. -/
def Later (issued : Nat) (value : String) : Prop := ∃ n, issued < n ∧ value = toString n

/-- No id of a later mail is in a set. -/
def Store.Before (issued : Nat) (store : Store) : Prop := ∀ key, ∀ value ∈ store.members key, ¬ Later issued value

/-- What a request has read from the sets, or been given as an id. -/
def Request.Before (issued : Nat) : Request → Prop
  | .receiveMail _ (.addNewMails _ diff) => ∀ value ∈ diff, ¬ Later issued value
  | .receiveMail _ (.getMailHeads _ list) => ∀ value ∈ list, ¬ Later issued value
  | .receiveMail _ (.answered _ mailList) => ∀ value ∈ mailList.map Prod.fst, ¬ Later issued value
  | .sendGlobalMail _ (.addMailHeadEx _ newID) => issued < newID
  | .sendGlobalMail _ (.addMailTextEx _ newID mailHead) => issued < newID ∧ mailHead.id = newID
  | .sendGlobalMail _ (.sent _ mailHead) => issued < mailHead.id
  | _ => True

section
variable {issued : Nat} {store : Store} {Item : Bag.ItemTable}

theorem before_sets {store' : Store} (before : store.Before issued) (sets : store'.sets = store.sets) : store'.Before issued := by
  intro key value there
  refine before key value ?_
  rwa [Store.members, ← sets, ← Store.members]

theorem before_sadd (before : store.Before issued) (key : String) {values : List String}
    (old : ∀ value ∈ values, ¬ Later issued value) : (store.sadd key values).Before issued := by
  intro key' value there
  rcases Store.mem_sadd.mp there with ⟨-, new⟩ | kept
  · exact old value new
  · exact before key' value kept

theorem before_smove (before : store.Before issued) (source dest value : String) :
    (store.smove source dest value).Before issued := by
  intro key' value' there
  rw [Store.mem_smove] at there
  split at there
  · rename_i listed
    rcases there with ⟨-, rfl⟩ | ⟨kept, -⟩
    · exact before source value' listed
    · exact before key' value' kept
  · exact before key' value' there

theorem mailList_listed {area : String} {list : List String} {value : String} (there : value ∈ (mailList store area list).map Prod.fst) :
    value ∈ list := by
  obtain ⟨entry, listed, rfl⟩ := List.mem_map.mp there
  obtain ⟨mailID, asked, found⟩ := List.mem_filterMap.mp listed
  split at found
  · cases found
    exact asked
  · cases found

/-- A command keeps the ids of later mails out of the sets, and gives away later ids only. -/
theorem request_before {request : Request} (stored : store.Before issued) (counter : issued ≤ store.mailID)
    (read : request.Before issued) (Item : Bag.ItemTable) (fails : Bool) :
    (request.step Item fails store).2.Before issued ∧ issued ≤ (request.step Item fails store).2.mailID ∧
      (request.step Item fails store).1.Before issued := by
  cases request with
  | sendGlobalMail msg next =>
    simp only [Request.step]
    cases next with
    | checkArea =>
      refine ⟨stored, counter, ?_⟩
      simp only [SendGlobalMail.step]
      split <;> trivial
    | createNewMailID area =>
      cases fails with
      | true => exact ⟨stored, counter, trivial⟩
      | false => exact ⟨before_sets stored rfl, Nat.le_succ_of_le counter, Nat.lt_succ_of_le counter⟩
    | addMailHeadEx area newID =>
      cases fails with
      | true => exact ⟨stored, counter, trivial⟩
      | false => exact ⟨before_sets stored rfl, counter, read, rfl⟩
    | addMailTextEx area newID mailHead =>
      cases fails with
      | true => exact ⟨stored, counter, trivial⟩
      | false => exact ⟨before_sets stored rfl, counter, (read.2.symm ▸ read.1 : issued < mailHead.id)⟩
    | sent area mailHead => exact ⟨stored, counter, read⟩
    | failed => exact ⟨stored, counter, trivial⟩
  | receiveMail sessionId next =>
    simp only [Request.step]
    cases next with
    | getSession =>
      simp only [ReceiveMail.step]
      split <;> exact ⟨stored, counter, trivial⟩
    | recvGlobalMail session =>
      have old : ∀ value ∈ store.sdiff (globalMailPool session.area) (mailGetList session), ¬ Later issued value :=
        fun value there => stored _ value (List.mem_filter.mp there).1
      simp only [ReceiveMail.step]
      split
      · exact ⟨stored, counter, trivial⟩
      · split
        · exact ⟨stored, counter, trivial⟩
        · exact ⟨stored, counter, old⟩
    | addNewMails session diff =>
      cases fails with
      | true => exact ⟨stored, counter, trivial⟩
      | false => exact ⟨before_sadd stored _ read, counter, trivial⟩
    | getAllNewMail session =>
      simp only [ReceiveMail.step]
      split
      · exact ⟨stored, counter, trivial⟩
      · split
        · exact ⟨stored, counter, fun value there => absurd there List.not_mem_nil⟩
        · exact ⟨stored, counter, fun value there => stored _ value there⟩
    | getMailHeads session list =>
      cases fails with
      | true => exact ⟨stored, counter, trivial⟩
      | false => exact ⟨stored, counter, fun value there => read value (mailList_listed there)⟩
    | answered session mailList => exact ⟨stored, counter, read⟩
    | failed => exact ⟨stored, counter, trivial⟩
  | getMailAttach sessionId mailID next =>
    obtain ⟨sets, same⟩ := getMailAttach_sets Item sessionId mailID fails store next
    refine ⟨?_, ?_, trivial⟩
    · rcases sets with sets | ⟨session, mailHead, rfl, moved⟩
      · exact before_sets stored sets
      · rw [Request.step, moved]
        exact before_smove stored _ _ _
    · rw [Request.step, same]
      exact counter

end

section
variable {issued : Nat} {state : State} {Item : Bag.ItemTable}

/-- The pools and the requests know no later mail. -/
structure State.Before (issued : Nat) (state : State) : Prop where
  stored : state.store.Before issued
  counter : issued ≤ state.store.mailID
  read : ∀ request ∈ state.requests, request.Before issued

theorem before_step (before : state.Before issued) (event : Event) : (step Item state event).Before issued := by
  obtain ⟨stored, counter, read⟩ := before
  cases event with
  | arrive call =>
    refine ⟨stored, counter, fun request there => ?_⟩
    rcases List.mem_append.mp there with old | new
    · exact read request old
    · rw [List.mem_singleton.mp new]
      cases call <;> trivial
  | request i fails =>
    cases there : state.requests[i]? with
    | none =>
      simp only [step, there]
      exact ⟨stored, counter, read⟩
    | some request =>
      obtain ⟨stored', counter', next⟩ := request_before stored counter (read request (List.mem_of_getElem? there)) Item fails
      simp only [step, there]
      refine ⟨stored', counter', fun r member => ?_⟩
      rcases List.mem_or_eq_of_mem_set member with old | rfl
      · exact read r old
      · exact next
  | expire key =>
    have kept : (state.store.expire key).sets = state.store.sets ∧ (state.store.expire key).mailID = state.store.mailID := by
      unfold Store.expire
      split <;> exact ⟨rfl, rfl⟩
    exact ⟨before_sets stored kept.1, kept.2 ▸ counter, read⟩

/-- A player gets the mail in the list of a pull. -/
def Gets (state : State) (id : Nat) : Prop :=
  ∃ sessionId session mailList, .receiveMail sessionId (.answered session mailList) ∈ state.requests ∧
    toString id ∈ mailList.map Prod.fst

/-- **System mail.** A mail that has been sent to an area without error is in nobody's list, whatever
requests run, in whatever order, and however often players pull. -/
theorem global_mail_lost (Item : Bag.ItemTable) (store : Store) (fresh : store.Before store.mailID) (events : List Event)
    {msg : Msg} {area : String} {mailHead : MailHead}
    (sent : .sendGlobalMail msg (.sent area mailHead) ∈ (run (step Item) (init store) events).requests) :
    ¬ Gets (run (step Item) (init store) events) mailHead.id := by
  have before : (run (step Item) (init store) events).Before store.mailID :=
    run_keeps (State.Before store.mailID) (fun _ event before => before_step before event)
      ⟨fresh, Nat.le_refl _, fun _ there => absurd there List.not_mem_nil⟩ events
  rintro ⟨sessionId, session, mailList, answered, listed⟩
  have given : store.mailID < mailHead.id := before.read _ sent
  exact before.read _ answered _ listed ⟨mailHead.id, given, rfl⟩

end

/-- An area with one player. -/
def oneArea : Store := ⟨Obj.set ∅ "s1" ⟨"1", "p"⟩, 0, ∅, ∅⟩

def news : Msg := ⟨"1", "1", "gm", "news", some (Obj.set ∅ "gold" 50), "hello"⟩

/-- The mail is sent. -/
def send : List Event := .arrive (.sendGlobalMail news) :: List.replicate 4 (.request 0 false)

/-- And then the player pulls. -/
def pull : List Event := .arrive (.receiveMail "s1") :: List.replicate 4 (.request 1 false)

def emptyTable : Bag.ItemTable := Bag.ItemTable.none

theorem oneArea_fresh : oneArea.Before oneArea.mailID := fun _ _ there => absurd there List.not_mem_nil

theorem news_sent : .sendGlobalMail news (.sent "1" ⟨1, "gm", "news", news.attach⟩) ∈
    (run (step emptyTable) (init oneArea) (send ++ pull)).requests :=
  List.mem_of_getElem? (i := 0) rfl

theorem global_mail_lost_once : ¬ Gets (run (step emptyTable) (init oneArea) (send ++ pull)) 1 :=
  global_mail_lost emptyTable oneArea oneArea_fresh (send ++ pull) news_sent

/-- The mail is sent without error, and then the player of the area asks for the first time and is answered
without it. -/
theorem news_not_pulled :
    .sendGlobalMail news (.sent "1" ⟨1, "gm", "news", news.attach⟩) ∈ (run (step emptyTable) (init oneArea) send).requests ∧
    ∃ mailList, .receiveMail "s1" (.answered ⟨"1", "p"⟩ mailList) ∈ (run (step emptyTable) (init oneArea) (send ++ pull)).requests ∧
      toString 1 ∉ mailList.map Prod.fst :=
  ⟨List.mem_of_getElem? (i := 0) rfl, [], List.mem_of_getElem? (i := 1) rfl, List.not_mem_nil⟩

end Tinygame.Mail
