import Tinygame.Base.LimitMap
import Tinygame.Base.Run
import Tinygame.Dataprocess.Entity

/-!
# The session directory of a conn server

`sessionMap` of `conn_imp.js` finds the session of a player by the uuid. Only the end of `loginGame` writes it,
nothing takes an entry out again, and `pushMsgToClientArea` sends to every entry of the area.
-/

namespace Tinygame.Conn

/-- `Const.CONNECT_SERVER_LIMIT`. -/
def connectServerLimit : Nat := 2000

/-- What `sessionMap` holds for a uuid. -/
structure Entry where
  area : String
  sessionId : String

/-- A player who is logged in, with the session that is current. -/
structure Online where
  player : UserArea
  sessionId : String
  deriving DecidableEq

/-- `online` is who is logged in here: the code keeps no such list. -/
structure ConnServer where
  sessionMap : LimitMap Entry
  online : List Online

def start : ConnServer := ⟨LimitMap.new connectServerLimit, []⟩

def setSession (player : UserArea) (sessionId : String) (sessionMap : LimitMap Entry) : LimitMap Entry :=
  sessionMap.set player.uuid ⟨player.area, sessionId⟩

inductive Event
  /-- A login comes to its end; `added` tells whether its session was stored. -/
  | loginGame (player : UserArea) (sessionId : String) (added : Bool)
  | exitGame (player : UserArea)
  | closeClient (sessionId : String)

def step (server : ConnServer) : Event → ConnServer
  | .loginGame player sessionId added =>
    { sessionMap := setSession player sessionId server.sessionMap
      online := (server.online.filter fun o => o.player ≠ player ∧ o.sessionId ≠ sessionId) ++
        if added then [⟨player, sessionId⟩] else [] }
  | .exitGame player => { server with online := server.online.filter fun o => o.player ≠ player }
  | .closeClient sessionId => { server with online := server.online.filter fun o => o.sessionId ≠ sessionId }

structure PushArgs where
  uuid : String
  area : String
  type : String
  msg : String

structure PushMsg extends PushArgs where
  /-- `Const.LOGIN_ON`. -/
  state : String

/-- The sessions the message goes to, each with what it is sent. -/
def pushMsgToClientArea (server : ConnServer) (inArgs : PushArgs) : List (String × PushMsg) :=
  (server.sessionMap.map.entries.filter fun entry => entry.2.area = inArgs.area).map fun entry =>
    (entry.2.sessionId, { inArgs with state := "1" })

/-- How often a session gets the message. -/
def ConnServer.copies (server : ConnServer) (inArgs : PushArgs) (sessionId : String) : Nat :=
  ((pushMsgToClientArea server inArgs).map Prod.fst).count sessionId

/-- Everybody of the area gets the message once, and nobody of another area gets it. -/
def Complete (server : ConnServer) : Prop :=
  ∀ inArgs, ∀ o ∈ server.online, server.copies inArgs o.sessionId = if o.player.area = inArgs.area then 1 else 0

/-- Names that an object treats like any other. -/
def Plain (uuid : String) : Prop := uuid ≠ "__proto__" ∧ uuid ≠ "hasOwnProperty"

/-- A login whose uuid is that of nobody online in another area, which pushes nobody out who is online, and whose
session no other entry holds. -/
def Careful (server : ConnServer) : Event → Prop
  | .loginGame player sessionId _ =>
    Plain player.uuid ∧
      (∀ o ∈ server.online, o.player ≠ player → o.sessionId ≠ sessionId →
        o.player.uuid ≠ player.uuid ∧ server.sessionMap.evicted player.uuid ≠ some o.player.uuid) ∧
      ∀ uuid entry, uuid ≠ player.uuid → server.sessionMap.get uuid = some entry → entry.sessionId ≠ sessionId
  | _ => True

variable {server : ConnServer} {event : Event} {inArgs : PushArgs} {sessionId : String}

/-! ### Copies -/

/-- Everybody online is found under the uuid, and a session is found under one uuid only. -/
structure Listed (server : ConnServer) : Prop where
  found : ∀ o ∈ server.online, server.sessionMap.get o.player.uuid = some ⟨o.player.area, o.sessionId⟩
  apart : ∀ uuid uuid' entry entry', server.sessionMap.get uuid = some entry → server.sessionMap.get uuid' = some entry' →
    entry.sessionId = entry'.sessionId → uuid = uuid'

theorem mem_recipients : sessionId ∈ (pushMsgToClientArea server inArgs).map Prod.fst ↔
    ∃ uuid, server.sessionMap.get uuid = some ⟨inArgs.area, sessionId⟩ := by
  unfold pushMsgToClientArea
  simp only [List.map_map, List.mem_map, List.mem_filter, decide_eq_true_eq, Function.comp]
  constructor
  · rintro ⟨⟨uuid, entry⟩, ⟨there, area⟩, rfl⟩
    refine ⟨uuid, ?_⟩
    rw [← area]
    exact AList.mem_lookup_iff.mpr there
  · rintro ⟨uuid, found⟩
    exact ⟨⟨uuid, inArgs.area, sessionId⟩, ⟨AList.mem_lookup_iff.mp found, rfl⟩, rfl⟩

theorem recipients_nodup (listed : Listed server) : ((pushMsgToClientArea server inArgs).map Prod.fst).Nodup := by
  unfold pushMsgToClientArea
  rw [List.map_map]
  have keys : (server.sessionMap.map.entries.filter fun entry => entry.2.area = inArgs.area).Nodup :=
    (List.NodupKeys.nodup server.sessionMap.map.nodupKeys).filter _
  refine keys.map_on fun first there second there' same => ?_
  obtain ⟨uuid, entry⟩ := first
  obtain ⟨uuid', entry'⟩ := second
  have found : server.sessionMap.get uuid = some entry := AList.mem_lookup_iff.mpr (List.mem_of_mem_filter there)
  have found' : server.sessionMap.get uuid' = some entry' := AList.mem_lookup_iff.mpr (List.mem_of_mem_filter there')
  obtain rfl := listed.apart uuid uuid' entry entry' found found' same
  obtain rfl := Option.some.inj (found.symm.trans found')
  rfl

theorem complete_of_listed (listed : Listed server) : Complete server := by
  intro inArgs o online
  have found := listed.found o online
  unfold ConnServer.copies
  by_cases area : o.player.area = inArgs.area
  · rw [if_pos area]
    apply List.count_eq_one_of_mem (recipients_nodup listed)
    exact mem_recipients.mpr ⟨o.player.uuid, area ▸ found⟩
  · rw [if_neg area]
    apply List.count_eq_zero.mpr
    intro received
    obtain ⟨uuid, found'⟩ := mem_recipients.mp received
    obtain rfl := listed.apart uuid o.player.uuid _ _ found' found rfl
    exact area (congrArg Entry.area (Option.some.inj (found.symm.trans found')))

/-! ### Runs -/

theorem listed_start : Listed start where
  found _ online := absurd online List.not_mem_nil
  apart uuid _ _ _ found := by
    have empty : start.sessionMap.get uuid = none := rfl
    cases empty.symm.trans found

theorem listed_step (listed : Listed server) (careful : Careful server event) : Listed (step server event) := by
  cases event with
  | exitGame player => exact ⟨fun o online => listed.found o (List.mem_of_mem_filter online), listed.apart⟩
  | closeClient sessionId => exact ⟨fun o online => listed.found o (List.mem_of_mem_filter online), listed.apart⟩
  | loginGame player sessionId added =>
    obtain ⟨-, others, unused⟩ := careful
    have own : (setSession player sessionId server.sessionMap).get player.uuid = some ⟨player.area, sessionId⟩ :=
      LimitMap.get_set_self ..
    have before {uuid : String} {entry : Entry} (different : uuid ≠ player.uuid)
        (found : (setSession player sessionId server.sessionMap).get uuid = some entry) : server.sessionMap.get uuid = some entry :=
      LimitMap.get_of_get_set different found
    refine ⟨fun o online => ?_, fun uuid uuid' entry entry' found found' same => ?_⟩
    · rcases List.mem_append.mp online with stayed | joined
      · simp only [List.mem_filter, decide_eq_true_eq] at stayed
        obtain ⟨different, stays⟩ := others o stayed.1 stayed.2.1 stayed.2.2
        exact (LimitMap.get_set_of_ne different stays).trans (listed.found o stayed.1)
      · split at joined
        · obtain rfl := List.mem_singleton.mp joined
          exact own
        · cases joined
    · by_cases isOwn : uuid = player.uuid
      · subst isOwn
        obtain rfl := Option.some.inj (own.symm.trans found)
        by_contra different
        exact unused uuid' entry' (Ne.symm different) (before (Ne.symm different) found') same.symm
      · by_cases isOwn' : uuid' = player.uuid
        · subst isOwn'
          obtain rfl := Option.some.inj (own.symm.trans found')
          exact absurd same (unused uuid entry isOwn (before isOwn found))
        · exact listed.apart uuid uuid' entry entry' (before isOwn found) (before isOwn' found') same

/-- **An area's broadcast is complete** after every run whose logins are careful. -/
theorem area_complete {events : List Event} (careful : Along step Careful start events) : Complete (run step start events) :=
  complete_of_listed (run_invariant (fun _ _ => listed_step) listed_start careful)

/-! ### Two logins -/

/-- Ann of the first area and Bob of the second. -/
def annAndBob : List Event := [.loginGame ⟨"1", "ann"⟩ "s1" true, .loginGame ⟨"2", "bob"⟩ "s2" true]

theorem area_complete_two : Complete (run step start annAndBob) := by
  refine area_complete ⟨⟨⟨by decide, by decide⟩, fun o online => absurd online List.not_mem_nil, fun uuid entry _ found => ?_⟩,
    ⟨⟨by decide, by decide⟩, fun o online _ _ => ?_, fun uuid entry _ found => ?_⟩, trivial⟩
  · cases found
  · obtain rfl := List.mem_singleton.mp online
    decide
  · have only : uuid = "ann" := by
      by_contra different
      have none : (step start (.loginGame ⟨"1", "ann"⟩ "s1" true)).sessionMap.get uuid = none :=
        LimitMap.get_set_none rfl different
      cases none.symm.trans found
    subst only
    obtain rfl := Option.some.inj found
    decide

/-- Two areas have a player with one uuid: the first of them gets nothing. -/
theorem area_incomplete : ¬ Complete (run step start [.loginGame ⟨"1", "ann"⟩ "s1" true, .loginGame ⟨"2", "ann"⟩ "s2" true]) := by
  intro complete
  have lost := complete ⟨"x", "1", "0", "hello"⟩ ⟨⟨"1", "ann"⟩, "s1"⟩ (by decide)
  exact absurd lost (by decide)

end Tinygame.Conn
