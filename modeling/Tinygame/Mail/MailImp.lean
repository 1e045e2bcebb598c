import Tinygame.Bag.BagList
import Tinygame.Base.Run
import Tinygame.Dataprocess.Redis

/-!
# The mail requests

`mail_imp.js` and `mail_handle.js`: the mail to an area, the pulling of mail, and the claiming of what is
attached to one. Each function of a waterfall issues one command, so a request stands before the function
that comes next, with its arguments. The command is carried out whole, or fails and changes nothing.
-/

namespace Tinygame.Mail
open Redis (Session redisKeyGen)

/-- `attach` has the amounts `parseInt` reads. -/
structure MailHead where
  id : Nat
  sender : String
  title : String
  attach : Option (Obj Int)

/-- The fields of the player's data that a mail credits. -/
structure BaseInfo where
  gold : Int
  diamond : Int
  others : Obj String

inductive Value where
  | mailHead (mailHead : MailHead)
  | mailText (text : String)
  | baseInfo (baseInfo : BaseInfo)
  | bagList (bagList : Bag.BagList)

/-- The databases as the mail uses them. `mailID` is the counter of mail ids. -/
structure Store where
  sessions : Obj Session
  mailID : Nat
  strings : Obj Value
  sets : Obj (List String)

namespace Store

/-- `SMEMBERS`. -/
def members (store : Store) (key : String) : List String := (store.sets.get? key).getD []

def sadd (store : Store) (key : String) (values : List String) : Store :=
  { store with sets := store.sets.set key (values.foldr List.insert (store.members key)) }

/-- Nothing happens to a value that is not in the source. -/
def smove (store : Store) (source dest value : String) : Store :=
  if value ∈ store.members source then
    let taken := { store with sets := store.sets.set source ((store.members source).filter (· ≠ value)) }
    taken.sadd dest [value]
  else store

def sdiff (store : Store) (key other : String) : List String := (store.members key).filter (· ∉ store.members other)

def set (store : Store) (key : String) (value : Value) : Store := { store with strings := store.strings.set key value }

end Store

/-! ### Keys -/

def mailHeadKey (area mailID : String) : String := redisKeyGen area "mailHead" mailID
def mailTextKey (area mailID : String) : String := redisKeyGen area "mailText" mailID
def globalMailPool (area : String) : String := redisKeyGen area "" "globalMailPool"
def mailPool (session : Session) : String := redisKeyGen session.area session.uuid "mailPool"
def mailGetList (session : Session) : String := redisKeyGen session.area session.uuid "mailGetList"
def playerKey (session : Session) : String := redisKeyGen session.area session.uuid "player"
def bagKey (session : Session) : String := redisKeyGen session.area session.uuid "bag"

/-! ### sendGlobalMail -/

/-- The fields of the message; `zone` and `svr` are missing when they are empty. -/
structure Msg where
  zone : String
  svr : String
  sender : String
  title : String
  attach : Option (Obj Int)
  text : String

inductive SendGlobalMail where
  | checkArea
  | createNewMailID (area : String)
  | addMailHeadEx (area : String) (newID : Nat)
  | addMailTextEx (area : String) (newID : Nat) (mailHead : MailHead)
  | sent (area : String) (mailHead : MailHead)
  | failed

def SendGlobalMail.step (msg : Msg) (fails : Bool) (store : Store) : SendGlobalMail → SendGlobalMail × Store
  | .checkArea => (if msg.zone ≠ "" ∧ msg.svr ≠ "" then .createNewMailID msg.svr else .failed, store)
  | .createNewMailID area =>
    if fails then (.failed, store) else (.addMailHeadEx area (store.mailID + 1), { store with mailID := store.mailID + 1 })
  | .addMailHeadEx area newID =>
    let mailHead : MailHead := ⟨newID, msg.sender, msg.title, msg.attach⟩
    if fails then (.failed, store)
    else (.addMailTextEx area newID mailHead, store.set (mailHeadKey area (toString newID)) (.mailHead mailHead))
  | .addMailTextEx area newID mailHead =>
    if fails then (.failed, store)
    -- the last function pushes the mail to nobody, and does not add it to the pool of the area either
    else (.sent area mailHead, store.set (mailTextKey area (toString newID)) (.mailText msg.text))
  | .sent area mailHead => (.sent area mailHead, store)
  | .failed => (.failed, store)

/-! ### ReceiveMail -/

inductive ReceiveMail where
  | getSession
  | recvGlobalMail (session : Session)
  /-- The second command of `recvGlobalMail`. -/
  | addNewMails (session : Session) (diff : List String)
  | getAllNewMail (session : Session)
  | getMailHeads (session : Session) (list : List String)
  | answered (session : Session) (mailList : List (String × MailHead))
  | failed

/-- The heads that are there, under their ids. -/
def mailList (store : Store) (area : String) (list : List String) : List (String × MailHead) :=
  list.filterMap fun mailID => match store.strings.get? (mailHeadKey area mailID) with
    | some (.mailHead mailHead) => some (mailID, mailHead)
    | _ => none

def ReceiveMail.step (sessionId : String) (fails : Bool) (store : Store) : ReceiveMail → ReceiveMail × Store
  | .getSession => match fails, store.sessions.get? sessionId with
    | false, some session => (.recvGlobalMail session, store)
    | _, _ => (.failed, store)
  | .recvGlobalMail session =>
    if fails then (.failed, store)
    else match store.sdiff (globalMailPool session.area) (mailGetList session) with
      | [] => (.getAllNewMail session, store)
      | diff => (.addNewMails session diff, store)
  | .addNewMails session diff =>
    if fails then (.failed, store) else (.getAllNewMail session, store.sadd (mailPool session) diff)
  | .getAllNewMail session =>
    if fails then (.failed, store)
    else match store.members (mailPool session) with
      | [] => (.answered session [], store)
      | list => (.getMailHeads session list, store)
  | .getMailHeads session list =>
    if fails then (.failed, store) else (.answered session (mailList store session.area list), store)
  | .answered session mailList => (.answered session mailList, store)
  | .failed => (.failed, store)

/-! ### getMailAttach -/

/-- `Const.COMMON_VALUE_MAX`. -/
def commonValueMax : Int := 999999999

def addValue (value : Int) : Int := if value > commonValueMax then commonValueMax else value

/-- The loop over the attachment. An item the bag has no room for is logged and left out. -/
def takeAttach (Item : Bag.ItemTable) (attach : Option (Obj Int)) (bagList : Bag.BagList) (baseInfo : BaseInfo) :
    Bag.BagList × BaseInfo :=
  match attach with
  | none => (bagList, baseInfo)
  | some attach => attach.entries.foldl (fun (bagList, baseInfo) e =>
      let baseInfo := if e.1 = "gold" then { baseInfo with gold := addValue (baseInfo.gold + e.2) } else baseInfo
      let baseInfo := if e.1 = "diamond" then { baseInfo with diamond := addValue (baseInfo.diamond + e.2) } else baseInfo
      let bagList := if Item.rows.has e.1 then (Bag.addItem Item (.text e.1) e.2 bagList).2 else bagList
      (bagList, baseInfo)) (bagList, baseInfo)

inductive GetMailAttach where
  | getSession
  | isInMailPool (session : Session)
  | getMailHeads (session : Session)
  | getBagList (session : Session) (mailHead : MailHead)
  | getBaseInfo (session : Session) (mailHead : MailHead) (bagList : Bag.BagList)
  | setBaseInfo (session : Session) (mailHead : MailHead) (bagList : Bag.BagList) (baseInfo : BaseInfo)
  | setBagList (session : Session) (mailHead : MailHead) (bagList : Bag.BagList)
  | moveMail (session : Session) (mailHead : MailHead)
  | answered (attach : Option (Obj Int))
  | failed

def GetMailAttach.step (Item : Bag.ItemTable) (sessionId mailID : String) (fails : Bool) (store : Store) :
    GetMailAttach → GetMailAttach × Store
  | .getSession => match fails, store.sessions.get? sessionId with
    | false, some session => (.isInMailPool session, store)
    | _, _ => (.failed, store)
  | .isInMailPool session =>
    (if ¬ fails ∧ mailID ∈ store.members (mailPool session) then .getMailHeads session else .failed, store)
  | .getMailHeads session => match fails, store.strings.get? (mailHeadKey session.area mailID) with
    | false, some (.mailHead mailHead) => (.getBagList session mailHead, store)
    | _, _ => (.failed, store)
  | .getBagList session mailHead => match fails, store.strings.get? (bagKey session) with
    | false, some (.bagList bagList) => (.getBaseInfo session mailHead bagList, store)
    | _, _ => (.failed, store)
  | .getBaseInfo session mailHead bagList => match fails, store.strings.get? (playerKey session) with
    | false, some (.baseInfo baseInfo) =>
      let (bagList, baseInfo) := takeAttach Item mailHead.attach bagList baseInfo
      (.setBaseInfo session mailHead bagList baseInfo, store)
    | _, _ => (.failed, store)
  | .setBaseInfo session mailHead bagList baseInfo =>
    if fails then (.failed, store)
    else (.setBagList session mailHead bagList, store.set (playerKey session) (.baseInfo baseInfo))
  | .setBagList session mailHead bagList =>
    if fails then (.failed, store) else (.moveMail session mailHead, store.set (bagKey session) (.bagList bagList))
  | .moveMail session mailHead =>
    if fails then (.failed, store)
    else (.answered mailHead.attach, store.smove (mailPool session) (mailGetList session) mailID)
  | .answered attach => (.answered attach, store)
  | .failed => (.failed, store)

/-! ### Requests under way -/

inductive Request where
  | sendGlobalMail (msg : Msg) (next : SendGlobalMail)
  | receiveMail (sessionId : String) (next : ReceiveMail)
  | getMailAttach (sessionId mailID : String) (next : GetMailAttach)

def Request.step (Item : Bag.ItemTable) (fails : Bool) (store : Store) : Request → Request × Store
  | .sendGlobalMail msg next => let (next, store) := next.step msg fails store
    (.sendGlobalMail msg next, store)
  | .receiveMail sessionId next => let (next, store) := next.step sessionId fails store
    (.receiveMail sessionId next, store)
  | .getMailAttach sessionId mailID next => let (next, store) := next.step Item sessionId mailID fails store
    (.getMailAttach sessionId mailID next, store)

/-- What of a mail has been saved. -/
inductive Part where
  | baseInfo
  | bagList
  deriving DecidableEq

/-- The record a command of this request saves with the attachment in it. -/
def Request.saves (fails : Bool) : Request → Option (String × Part)
  | .getMailAttach _ mailID (.setBaseInfo ..) => if fails then none else some (mailID, .baseInfo)
  | .getMailAttach _ mailID (.setBagList ..) => if fails then none else some (mailID, .bagList)
  | _ => none

/-- `saved` keeps which records have been saved with which mail's attachment. -/
structure State where
  store : Store
  requests : List Request
  saved : List (String × Part)

/-- What a client or the operator asks for. -/
inductive Call where
  | sendGlobalMail (msg : Msg)
  | receiveMail (sessionId : String)
  | getMailAttach (sessionId mailID : String)

/-- The request before its first command. -/
def Call.request : Call → Request
  | .sendGlobalMail msg => .sendGlobalMail msg .checkArea
  | .receiveMail sessionId => .receiveMail sessionId .getSession
  | .getMailAttach sessionId mailID => .getMailAttach sessionId mailID .getSession

/-- A request comes in; one issues its next command, which may fail; or a head or a text expires. -/
inductive Event where
  | arrive (call : Call)
  | request (i : Nat) (fails : Bool)
  | expire (key : String)

def Store.expire (store : Store) (key : String) : Store :=
  match store.strings.get? key with
  | some (.mailHead _) | some (.mailText _) => { store with strings := store.strings.delete key }
  | _ => store

def step (Item : Bag.ItemTable) (state : State) : Event → State
  | .arrive call => { state with requests := state.requests ++ [call.request] }
  | .request i fails => match state.requests[i]? with
    | some request =>
      let (next, store) := request.step Item fails state.store
      ⟨store, state.requests.set i next, state.saved ++ (request.saves fails).toList⟩
    | none => state
  | .expire key => { state with store := state.store.expire key }

def init (store : Store) : State := ⟨store, [], []⟩

/-! ### Sets -/

namespace Store
variable {store : Store} {key key' value : String}

theorem members_set (store : Store) (key key' : String) (values : List String) :
    ({ store with sets := store.sets.set key values } : Store).members key' =
      if key' = key then values else store.members key' := by
  unfold members
  rw [Obj.get?_set]
  split <;> rfl

theorem mem_foldr_insert {values others : List String} : value ∈ values.foldr List.insert others ↔ value ∈ values ∨ value ∈ others := by
  induction values with
  | nil => simp
  | cons first rest ih => simp [ih, or_assoc]

theorem mem_sadd {values : List String} :
    value ∈ (store.sadd key values).members key' ↔ key' = key ∧ value ∈ values ∨ value ∈ store.members key' := by
  rw [sadd, members_set]
  split
  · rename_i same
    rw [mem_foldr_insert, same]
    simp
  · rename_i other
    simp [other]

theorem mem_smove {source dest moved : String} :
    value ∈ (store.smove source dest moved).members key' ↔
      (if moved ∈ store.members source then
        key' = dest ∧ value = moved ∨ value ∈ store.members key' ∧ ¬ (key' = source ∧ value = moved)
      else value ∈ store.members key') := by
  unfold smove
  split
  · rw [mem_sadd, members_set]
    split
    · rename_i same
      simp [same]
    · rename_i other
      simp [other]
  · rfl

theorem smove_rest (source dest value : String) :
    (store.smove source dest value).sessions = store.sessions ∧ (store.smove source dest value).mailID = store.mailID := by
  unfold smove
  split <;> exact ⟨rfl, rfl⟩

@[simp] theorem members_store (store : Store) (key' : String) (text : Value) : (store.set key text).members key' = store.members key' := rfl

end Store

/-! ### What a claim is about -/

/-- Only the move is about the sets, and no claim is about the counter. -/
theorem getMailAttach_sets (Item : Bag.ItemTable) (sessionId m : String) (fails : Bool) (store : Store) (next : GetMailAttach) :
    ((next.step Item sessionId m fails store).2.sets = store.sets ∨
      ∃ other mailHead, next = .moveMail other mailHead ∧ (next.step Item sessionId m fails store).2 =
        store.smove (mailPool other) (mailGetList other) m) ∧
      (next.step Item sessionId m fails store).2.mailID = store.mailID := by
  cases next with
  | getSession | getMailHeads other | getBagList other mailHead =>
    simp only [GetMailAttach.step]
    split <;> exact ⟨.inl rfl, rfl⟩
  | getBaseInfo other mailHead bagList =>
    simp only [GetMailAttach.step]
    split <;> exact ⟨.inl rfl, rfl⟩
  | setBaseInfo other mailHead bagList baseInfo => cases fails <;> exact ⟨.inl rfl, rfl⟩
  | setBagList other mailHead bagList => cases fails <;> exact ⟨.inl rfl, rfl⟩
  | moveMail other mailHead =>
    cases fails with
    | true => exact ⟨.inl rfl, rfl⟩
    | false => exact ⟨.inr ⟨other, mailHead, rfl, rfl⟩, (Store.smove_rest ..).2⟩
  | isInMailPool other => exact ⟨.inl rfl, rfl⟩
  | answered attach => exact ⟨.inl rfl, rfl⟩
  | failed => exact ⟨.inl rfl, rfl⟩

end Tinygame.Mail
