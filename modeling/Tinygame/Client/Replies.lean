import Tinygame.Base.Run
import Tinygame.Client.Communicator

/-!
# Replies reach their own callback

A call that has neither been answered nor given up is kept under its id as long as no later call gets that id before.
Then its answer finds it, and nothing else does.
-/

namespace Tinygame.Client

open LuaSerialize (Lua)
open Serialize (Error)

variable {κ : Type} {serialize unserialize : String → Lua → Except Error Lua} {state : State κ} {event : Event κ}

/-- The callback of the call is called once, with its arguments as the type of the call says or with the code alone. -/
def Called (unserialize : String → Lua → Except Error Lua) (call : Call κ) (args : Lua) (retCode : Int) (result : Result κ) : Prop :=
  ∃ f value, call.callback = .func f ∧ result.invoked = [(f, value)] ∧
    if NETWORK_NO_NEED_TIPS < retCode ∧ retCode < NETWORK_RETCODE_NEED_UNPACK then value = codeOnly retCode
    else unpacked unserialize call.outArgs args retCode = .ok value

/-- An answer calls the callback of its call, or none where its code says so. What answers no call calls none. -/
def Right (unserialize : String → Lua → Except Error Lua) : Record κ → Prop
  | .answered call args retCode result => result.error = false ∧
      if retCode = 0 ∨ NETWORK_NO_NEED_TIPS < retCode then Called unserialize call args retCode result else result.invoked = []
  | .received _ registered result => registered = false → result.error = false ∧ result.invoked = []

/-- Calls register a function, and the server answers each call at most once, with arguments of its type where the code
says that there are some. -/
def Proper (serialize unserialize : String → Lua → Except Error Lua) (state : State κ) : Event κ → Prop
  | .call funcInterface inArgs inCallback _ => ∀ args, callArgs serialize funcInterface inArgs inCallback = .ok args →
      ∃ f, args.1 = .func f
  | .answer i args retCode => i ∉ state.answered ∧ ∃ call, state.calls[i]? = some call ∧
      (retCode = 0 ∨ NETWORK_RETCODE_NEED_UNPACK ≤ retCode → ∃ value, unpacked unserialize call.outArgs args retCode = .ok value)
  | _ => True

/-- A call gets an id that is free. An answer comes in time, with a code below `NETWORK_RETCODE_NEED_UNPACK`, under a
function name that no push is registered for. What is neither an answer of the server nor a push has an id under which
nothing is kept, and a code that does not ask for a callback. -/
def Careful (state : State κ) : Event κ → Prop
  | .call .. => state.cbCache.dt state.cbCache.next = none
  | .answer i _ retCode => i ∉ state.timedOut ∧ retCode < NETWORK_RETCODE_NEED_UNPACK ∧
      ∀ call, state.calls[i]? = some call → state.regCbTable call.seq = none
  | .receive data => data.funcName.bind state.regCbTable = none → data.funcId ≠ .nil ∧
      (∀ k, data.funcId = .number k → state.cbCache.dt k = none) ∧
      ∃ retCode, data.retCode = some retCode ∧ ¬(NETWORK_NO_NEED_TIPS < retCode ∧ retCode < NETWORK_RETCODE_NEED_UNPACK)
  | _ => True

structure Sound (unserialize : String → Lua → Except Error Lua) (state : State κ) : Prop where
  held : ∀ (i : Nat) call, state.calls[i]? = some call → i ∉ state.answered → i ∉ state.timedOut →
    ∃ time, state.cbCache.dt call.funcId = some ⟨call.callback, call.outArgs, time, i⟩
  functions : ∀ call ∈ state.calls, ∃ f, call.callback = .func f
  log : ∀ record ∈ state.log, Right unserialize record

theorem sound_init : Sound unserialize (State.init : State κ) where
  held _ _ made := by cases made
  functions _ there := absurd there List.not_mem_nil
  log _ there := absurd there List.not_mem_nil

/-! ### What comes in -/

/-- The answer of a call that is kept calls its callback. -/
theorem answerCallback_right {call : Call κ} {args : Lua} {retCode : Int} {f : κ} {time : Int} {i : Nat}
    (func : call.callback = .func f) (low : retCode < NETWORK_RETCODE_NEED_UNPACK)
    (fits : retCode = 0 → ∃ value, unpacked unserialize call.outArgs args retCode = .ok value) :
    Right unserialize (.answered call args retCode (answerCallback unserialize (call.data args retCode)
      (some ⟨call.callback, call.outArgs, time, i⟩))) := by
  unfold Right answerCallback Call.data
  dsimp only
  rw [func]
  by_cases success : retCode = 0
  · obtain ⟨value, fits⟩ := fits success
    rw [if_neg (not_not.mpr success), if_pos (.inl success), doCallbackFunc]
    dsimp only
    rw [fits]
    refine ⟨rfl, f, value, func, rfl, ?_⟩
    rw [if_neg (by rw [success]; decide)]
    exact fits
  · rw [if_pos success]
    by_cases quiet : retCode = NETWORK_NO_NEED_TIPS
    · rw [if_pos quiet, if_neg (by rw [quiet]; decide)]
      exact ⟨rfl, rfl⟩
    · rw [if_neg quiet]
      by_cases tips : retCode < NETWORK_NO_NEED_TIPS
      · rw [if_pos tips, if_neg (by rintro (zero | above); exacts [success zero, absurd above (by omega)])]
        exact ⟨rfl, rfl⟩
      · have above : NETWORK_NO_NEED_TIPS < retCode := by omega
        rw [if_neg tips, if_pos low, if_pos (.inr above)]
        refine ⟨rfl, f, codeOnly retCode, func, rfl, ?_⟩
        rw [if_pos ⟨above, low⟩]

/-- An answer to nothing calls nothing. -/
theorem answerCallback_none {data : Data} {retCode : Int} (code : data.retCode = some retCode)
    (unasked : ¬(NETWORK_NO_NEED_TIPS < retCode ∧ retCode < NETWORK_RETCODE_NEED_UNPACK)) :
    (answerCallback unserialize data (none : Option (Entry κ))).error = false ∧
      (answerCallback unserialize data (none : Option (Entry κ))).invoked = [] := by
  unfold answerCallback
  rw [code]
  dsimp only
  split
  · rename_i failure
    split
    · exact ⟨rfl, rfl⟩
    · rename_i loud
      split
      · exact ⟨rfl, rfl⟩
      · rename_i above
        split
        · rename_i low
          exact absurd ⟨by omega, low⟩ unasked
        · exact ⟨rfl, rfl⟩
  · exact ⟨rfl, rfl⟩

/-! ### What a step keeps -/

theorem expired_held {cbCache : DataCache (Entry κ)} {now : Int} {order : List Nat} {found : Nat × Entry κ}
    (late : expired cbCache now order = some found) : cbCache.dt found.1 = some found.2 := by
  obtain ⟨k, -, chosen⟩ := List.exists_of_findSome?_eq_some late
  obtain ⟨entry, held, chosen⟩ := Option.bind_eq_some_iff.mp chosen
  split at chosen
  · cases chosen
    exact held
  · cases chosen

/-- A call takes a free id, so that nothing that is kept is lost. -/
theorem call_sound {outArgs seq : String} {callback : Arg κ} {time : Int} (sound : Sound unserialize state)
    (func : ∃ f, callback = .func f) (free : state.cbCache.dt state.cbCache.next = none) :
    Sound unserialize { state with
      cbCache := state.cbCache.push ⟨callback, outArgs, time, state.calls.length⟩
      calls := state.calls ++ [⟨seq, callback, outArgs, state.cbCache.next⟩] } where
  held i call made unanswered waiting := by
    show ∃ t, Function.update state.cbCache.dt state.cbCache.next _ call.funcId = _
    rcases Nat.lt_trichotomy i state.calls.length with old | new | none
    · replace made : (state.calls ++ [_])[i]? = some call := made
      rw [List.getElem?_append_left old] at made
      obtain ⟨t, kept⟩ := sound.held i call made unanswered waiting
      have other : call.funcId ≠ state.cbCache.next := by
        intro same
        rw [same, free] at kept
        cases kept
      exact ⟨t, by rw [Function.update_of_ne other, kept]⟩
    · replace made : (state.calls ++ [_])[i]? = some call := made
      rw [new, List.getElem?_concat_length] at made
      cases made
      exact ⟨time, by rw [Function.update_self, new]⟩
    · replace made : (state.calls ++ [_])[i]? = some call := made
      rw [List.getElem?_eq_none (by rw [List.length_append, List.length_singleton]; omega)] at made
      cases made
  functions call there := by
    rcases List.mem_append.mp there with old | new
    · exact sound.functions call old
    · rw [List.mem_singleton.mp new]
      exact func
  log := sound.log

/-- What a timeout takes out is given up. -/
theorem timeout_sound {found : Nat × Entry κ} (sound : Sound unserialize state)
    (there : state.cbCache.dt found.1 = some found.2) :
    Sound unserialize { state with
      cbCache := state.cbCache.erase found.1
      timedOut := found.2.call :: state.timedOut } where
  held i call made unanswered waiting := by
    obtain ⟨notNow, waiting⟩ := not_or.mp (mt List.mem_cons.mpr waiting)
    obtain ⟨t, kept⟩ := sound.held i call made unanswered waiting
    have other : call.funcId ≠ found.1 := by
      intro same
      rw [same, there] at kept
      exact notNow (congrArg Entry.call (Option.some.inj kept)).symm
    refine ⟨t, ?_⟩
    show Function.update state.cbCache.dt found.1 none call.funcId = _
    rw [Function.update_of_ne other, kept]
  functions := sound.functions
  log := sound.log

/-- The first answer of a call that is still kept finds the call's entry, and takes only that out. -/
theorem answer_sound {i : Nat} {call : Call κ} {args : Lua} {retCode : Int} (sound : Sound unserialize state)
    (made : state.calls[i]? = some call) (first : i ∉ state.answered) (waiting : i ∉ state.timedOut)
    (low : retCode < NETWORK_RETCODE_NEED_UNPACK) (noPush : state.regCbTable call.seq = none)
    (fits : retCode = 0 → ∃ value, unpacked unserialize call.outArgs args retCode = .ok value) :
    Sound unserialize { state with
      cbCache := (recvCallback unserialize state.cbCache state.regCbTable (call.data args retCode)).1
      answered := i :: state.answered
      log := state.log ++ [.answered call args retCode
        (recvCallback unserialize state.cbCache state.regCbTable (call.data args retCode)).2] } := by
  obtain ⟨time, kept⟩ := sound.held i call made first waiting
  have handled : recvCallback unserialize state.cbCache state.regCbTable (call.data args retCode) =
      (state.cbCache.erase call.funcId, answerCallback unserialize (call.data args retCode)
        (some ⟨call.callback, call.outArgs, time, i⟩)) := by
    unfold recvCallback
    dsimp only [Call.data]
    rw [show (some call.seq).bind state.regCbTable = state.regCbTable call.seq from rfl, noPush, ← kept]
  rw [handled]
  refine ⟨?_, sound.functions, ?_⟩
  · intro j other there unanswered waiting
    obtain ⟨notNow, unanswered⟩ := not_or.mp (mt List.mem_cons.mpr unanswered)
    obtain ⟨t, stays⟩ := sound.held j other there unanswered waiting
    have apart : other.funcId ≠ call.funcId := by
      intro same
      rw [same, kept] at stays
      exact notNow (congrArg Entry.call (Option.some.inj stays)).symm
    refine ⟨t, ?_⟩
    show Function.update state.cbCache.dt call.funcId none other.funcId = _
    rw [Function.update_of_ne apart, stays]
  · intro record there
    rcases List.mem_append.mp there with old | new
    · exact sound.log record old
    · obtain ⟨f, func⟩ := sound.functions call (List.mem_of_getElem? made)
      rw [List.mem_singleton.mp new]
      exact answerCallback_right func low fits

theorem receive_sound {data : Data} (sound : Sound unserialize state) (careful : Careful state (.receive data)) :
    Sound unserialize (step serialize unserialize state (.receive data)) := by
  show Sound unserialize { state with
    cbCache := (recvCallback unserialize state.cbCache state.regCbTable data).1
    log := state.log ++ [.received data (data.funcName.bind state.regCbTable).isSome
      (recvCallback unserialize state.cbCache state.regCbTable data).2] }
  have logged : ∀ result : Result κ, ((data.funcName.bind state.regCbTable).isSome = false →
      result.error = false ∧ result.invoked = []) → ∀ record ∈ state.log ++
        [.received data (data.funcName.bind state.regCbTable).isSome result], Right unserialize record := by
    intro result right record there
    rcases List.mem_append.mp there with old | new
    · exact sound.log record old
    · rw [List.mem_singleton.mp new]
      exact right
  unfold recvCallback
  cases push : data.funcName.bind state.regCbTable with
  | some reg =>
    rw [push] at logged
    dsimp only
    split <;> exact ⟨sound.held, sound.functions, logged _ (fun not => by cases not)⟩
  | none =>
    rw [push] at logged
    obtain ⟨given, free, retCode, code, unasked⟩ := careful push
    have quiet : (answerCallback unserialize data (none : Option (Entry κ))).error = false ∧
        (answerCallback unserialize data (none : Option (Entry κ))).invoked = [] := answerCallback_none code unasked
    dsimp only
    cases funcId : data.funcId with
    | nil => exact absurd funcId given
    | other => exact ⟨sound.held, sound.functions, logged _ fun _ => quiet⟩
    | number k =>
      have free := free k funcId
      refine ⟨?_, sound.functions, logged _ ?_⟩
      · intro i call made unanswered waiting
        obtain ⟨t, kept⟩ := sound.held i call made unanswered waiting
        have other : call.funcId ≠ k := by
          intro same
          rw [same, free] at kept
          cases kept
        refine ⟨t, ?_⟩
        show Function.update state.cbCache.dt k none call.funcId = _
        rw [Function.update_of_ne other, kept]
      · intro _
        show (answerCallback unserialize data (state.cbCache.dt k)).error = false ∧
          (answerCallback unserialize data (state.cbCache.dt k)).invoked = []
        rw [free]
        exact quiet

theorem step_sound (sound : Sound unserialize state) (proper : Proper serialize unserialize state event)
    (careful : Careful state event) : Sound unserialize (step serialize unserialize state event) := by
  cases event with
  | call funcInterface inArgs inCallback time =>
    unfold step
    dsimp only
    split
    · exact sound
    · rename_i args packed
      exact call_sound sound (proper args packed) careful
  | regCallback funcInterface callback => exact ⟨sound.held, sound.functions, sound.log⟩
  | checkTimeout now order =>
    unfold step
    dsimp only
    split
    · exact sound
    · rename_i found late
      exact timeout_sound sound (expired_held late)
  | answer i args retCode =>
    obtain ⟨first, call, made, fits⟩ := proper
    obtain ⟨waiting, low, noPush⟩ := careful
    unfold step
    dsimp only
    rw [made]
    exact answer_sound sound made first waiting low (noPush call made) fun zero => fits (.inl zero)
  | receive data => exact receive_sound sound careful

/-- In a run of proper and careful steps every answer calls the callback of its call. -/
theorem run_repliesRight (serialize unserialize : String → Lua → Except Error Lua) (events : List (Event κ))
    (steps : Along (step serialize unserialize)
      (fun state event => Proper serialize unserialize state event ∧ Careful state event) State.init events) :
    ∀ record ∈ (run (step serialize unserialize) State.init events).log, Right unserialize record := by
  have keep : ∀ (state : State κ) event, Sound unserialize state →
      Proper serialize unserialize state event ∧ Careful state event →
        Sound unserialize (step serialize unserialize state event) :=
    fun _ _ sound ok => step_sound sound ok.1 ok.2
  exact (run_invariant keep sound_init steps).log

/-! ### Enrolling -/

/-- The answer of `enrollPvpDay`. -/
def enrollProto (name : String) : Option (List Serialize.Field) :=
  match name with
  | "EnrollPvpDayRsp" => some [⟨"pvpDay", .struct "PvpDay"⟩]
  | "PvpDay" => some [⟨"uuids", .vector .string⟩, ⟨"area", .string⟩, ⟨"rewardPool", .string⟩, ⟨"nums", .string⟩,
      ⟨"updateTime", .string⟩, ⟨"maxCount", .string⟩, ⟨"pvpF8Result", .struct "PvpF8Result"⟩,
      ⟨"finalSort", .vector (.proto "UserArea")⟩]
  | "PvpF8Result" => some [⟨"playerInfoList", .vector (.proto "PlayerInfo")⟩, ⟨"fightInfoList8", .vector (.proto "FightInfo")⟩,
      ⟨"fightInfoList4", .vector (.proto "FightInfo")⟩, ⟨"fightInfoList2", .vector (.proto "FightInfo")⟩,
      ⟨"fightInfoList1", .vector (.proto "FightInfo")⟩]
  | "UserArea" => some [⟨"uuid", .string⟩, ⟨"area", .string⟩]
  | _ => none

def enrollPvpDay : FuncInterface := ⟨"36454946434315534733256", "", "EnrollPvpDayRsp"⟩

/-- A `PvpDay` with nobody in it. -/
def enrollArgs : Lua := .table [(.index 1, .table [(.index 1, .table []), (.index 2, .scalar "1"), (.index 3, .scalar "0"),
  (.index 4, .scalar "0"), (.index 5, .scalar "0"), (.index 6, .scalar "0"),
  (.index 7, .table [(.index 1, .table []), (.index 2, .table []), (.index 3, .table []), (.index 4, .table []),
    (.index 5, .table [])]), (.index 8, .table [])])]

/-- A player enrols, and gets an answer with this code. -/
def enrolling (retCode : Int) : List (Event String) :=
  [.call enrollPvpDay (.func "onEnroll") .nil 0, .answer 0 enrollArgs retCode]

/-- How often an answer has called a callback. -/
def Record.calls : Record κ → Option Nat
  | .answered _ _ _ result => some result.invoked.length
  | .received .. => none

theorem Right.calls_le {record : Record κ} {n : Nat} (right : Right unserialize record) (calls : record.calls = some n) : n ≤ 1 := by
  cases record with
  | received => cases calls
  | answered call args retCode result =>
    obtain rfl := Option.some.inj calls
    obtain ⟨-, invoked⟩ := right
    split at invoked
    · obtain ⟨f, value, -, once, -⟩ := invoked
      rw [once]
      exact Nat.le_refl 1
    · rw [invoked]
      exact Nat.zero_le 1

abbrev enrollSerialize : String → Lua → Except Error Lua := LuaSerialize.serialize enrollProto 4
abbrev enrollUnserialize : String → Lua → Except Error Lua := LuaSerialize.unserialize enrollProto 4

theorem enrollArgs_fit : (LuaSerialize.value (enrollUnserialize "EnrollPvpDayRsp" enrollArgs)).isNil = false := by
  decide +kernel

theorem enrolling_proper (retCode : Int) :
    Along (step enrollSerialize enrollUnserialize) (Proper enrollSerialize enrollUnserialize) State.init (enrolling retCode) := by
  refine ⟨?_, ?_, trivial⟩
  · intro args packed
    cases packed
    exact ⟨"onEnroll", rfl⟩
  · refine ⟨List.not_mem_nil, _, rfl, fun _ => ?_⟩
    show ∃ value, unpacked enrollUnserialize "EnrollPvpDayRsp" enrollArgs retCode = .ok value
    have fits := LuaSerialize.value_spec enrollArgs_fit
    rw [unpacked, fits]
    exact ⟨_, rfl⟩

theorem run_repliesRight_enrolling :
    ∃ record ∈ (run (step enrollSerialize enrollUnserialize) State.init (enrolling 0)).log,
      record.calls = some 1 ∧ Right enrollUnserialize record := by
  have right := run_repliesRight enrollSerialize enrollUnserialize (enrolling 0)
    (along_and (enrolling_proper 0) ⟨rfl, ⟨List.not_mem_nil, by decide, fun _ _ => rfl⟩, trivial⟩)
  have once : (run (step enrollSerialize enrollUnserialize) State.init (enrolling 0)).log.any
      (fun record => record.calls = some 1) = true := by decide +kernel
  obtain ⟨record, there, calls⟩ := List.any_eq_true.mp once
  exact ⟨record, there, of_decide_eq_true calls, right record there⟩

/-- `PVP_DAY_IS_ENROLL` comes with the `PvpDay`. The callback is called twice. -/
theorem isEnroll_calls_twice :
    Along (step enrollSerialize enrollUnserialize) (Proper enrollSerialize enrollUnserialize) State.init (enrolling 16001) ∧
      ¬∀ record ∈ (run (step enrollSerialize enrollUnserialize) State.init (enrolling 16001)).log,
        Right enrollUnserialize record := by
  refine ⟨enrolling_proper 16001, fun right => ?_⟩
  have twice : (run (step enrollSerialize enrollUnserialize) State.init (enrolling 16001)).log.any
      (fun record => record.calls = some 2) = true := by decide +kernel
  obtain ⟨record, there, calls⟩ := List.any_eq_true.mp twice
  have once := (right record there).calls_le (of_decide_eq_true calls)
  omega

end Tinygame.Client
