import Tinygame.Base.LimitMap
import Tinygame.Base.Run

/-!
# Callbacks of remote calls

`callRemoteFunc`, `callRemoteFuncAll` and `onDispatch` of `module/net/mdp/remote_proxy.js` at the
calling process. A function given as callback stays with the caller, in a cache keyed by the
request id. Its replies come back with `retCode` and `outArgs` and without a function name.
-/

namespace Tinygame.Callback
variable {β κ φ : Type}

def UNDEFINED_FUNCTION : Int := 401
def ERROR_FUNCTION_NAME : Int := 402

/-- An object of arguments. `onDispatch` writes its `retCode`. -/
structure Args (β : Type) where
  retCode : Option Int
  rest : β

/-- What a dispatch hands on about the call. -/
structure Current where
  rid : String
  funcName : Option String
  callbackFunc : Option String
  deriving DecidableEq

/-- A message as `JSON.parse` gives it; a property that is missing is `none`. -/
structure Msg (β : Type) where
  funcName : Option String
  inArgs : Option (Args β)
  outArgs : Option (Args β)
  retCode : Option Int
  callbackFunc : Option String

/-- A value of the cache: the context saved by the caller and its function. -/
structure Entry (κ φ : Type) where
  curr : κ
  func : φ

/-- What `onDispatch` comes to. -/
inductive Outcome (β κ φ : Type) where
  /-- `callback.func(outArgs, onResponse, current)` -/
  | callback (entry : Entry κ φ) (outArgs : Args β) (current : Current)
  /-- `impHandler[funcName](args, onResponse, current)` -/
  | handler (funcName : String) (args : Option (Args β)) (current : Current)
  /-- `onResponse(retCode, current, {}, {})` -/
  | response (retCode : Int) (current : Current)
  /-- `onResponse(retCode, callback.curr, {}, {})` -/
  | responseTo (retCode : Int) (curr : κ)
  /-- a `TypeError` before the error handler exists -/
  | thrown

/-- `imp` tells which names `impHandler` has. -/
def onDispatch (imp : String → Bool) (callbackCache : LimitMap (Entry κ φ)) (rid : String) (msg : Msg β) :
    Outcome β κ φ :=
  let current : Current := { rid, funcName := msg.funcName, callbackFunc := msg.callbackFunc }
  let callback := callbackCache.get rid
  let funcName := msg.funcName.getD "undefined"
  let nameless := msg.funcName = none ∨ msg.funcName = some ""
  match msg.retCode, msg.outArgs with
  | some _, none => .thrown
  | some retCode, some outArgs =>
    match callback with
    | some entry => .callback entry { outArgs with retCode := some retCode } current
    | none =>
      if nameless then .response UNDEFINED_FUNCTION current
      else if imp funcName then .handler funcName (some { outArgs with retCode := some retCode }) current
      else .response ERROR_FUNCTION_NAME current
  | none, _ =>
    if nameless ∧ callback.isNone then .response UNDEFINED_FUNCTION current
    else if imp funcName then .handler funcName msg.inArgs current
    else
      match callback with
      | some entry => .responseTo ERROR_FUNCTION_NAME entry.curr
      | none => .response ERROR_FUNCTION_NAME current

inductive Event (β κ φ : Type) where
  /-- A call with a function callback: of all workers or of one, and the id that its request was
  sent under, if it was sent. -/
  | call (all : Bool) (rid : Option String) (entry : Entry κ φ)
  | reply (rid : String) (msg : Msg β)

structure State (β κ φ : Type) where
  callbackCache : LimitMap (Entry κ φ) := .new 100
  /-- what the replies came to -/
  outcomes : List (Outcome β κ φ) := []

/-- The key of a call in the cache. `send` returns `undefined` for a request it did not send,
`broadcast` returns `null`. -/
def cacheKey (all : Bool) (rid : Option String) : String := rid.getD (if all then "null" else "undefined")

def step (imp : String → Bool) (s : State β κ φ) : Event β κ φ → State β κ φ
  | .call all rid entry => { s with callbackCache := s.callbackCache.set (cacheKey all rid) entry }
  | .reply rid msg => { s with outcomes := s.outcomes ++ [onDispatch imp s.callbackCache rid msg] }

/-- The ids of the requests sent, in order. -/
def sentIds (events : List (Event β κ φ)) : List String :=
  events.filterMap fun e =>
    match e with
    | .call _ rid _ => rid
    | .reply _ _ => none

/-- The ids are fresh, as `uuid.v4` makes them: no two are equal and none is the text of a missing one. -/
def Fresh (events : List (Event β κ φ)) : Prop :=
  (sentIds events).Nodup ∧ "undefined" ∉ sentIds events ∧ "null" ∉ sentIds events

/-- The number of calls among the events. -/
def calls (events : List (Event β κ φ)) : Nat :=
  events.countP fun e =>
    match e with
    | .call _ _ _ => true
    | .reply _ _ => false

theorem step_limit (imp : String → Bool) (s : State β κ φ) (e : Event β κ φ) :
    (step imp s e).callbackCache.limit = s.callbackCache.limit := by
  cases e with
  | call all rid entry => exact LimitMap.limit_set _ _ _
  | reply rid msg => rfl

theorem run_limit (imp : String → Bool) (events : List (Event β κ φ)) (s : State β κ φ) :
    (run (step imp) s events).callbackCache.limit = s.callbackCache.limit := by
  induction events generalizing s with
  | nil => rfl
  | cons e rest ih => exact (ih _).trans (step_limit imp s e)

/-- A callback stays in the cache through fewer calls than its limit. -/
theorem run_held (imp : String → Bool) {events : List (Event β κ φ)} {s : State β κ φ} {rid : String}
    {entry : Entry κ φ} {younger : Nat} (held : s.callbackCache.Held rid entry younger)
    (others : ∀ all other entry', .call all other entry' ∈ events → rid ≠ cacheKey all other)
    (few : younger + calls events < s.callbackCache.limit) :
    (run (step imp) s events).callbackCache.get rid = some entry := by
  induction events generalizing s younger with
  | nil => exact held.1
  | cons e rest ih =>
    have later : ∀ all other entry', Event.call all other entry' ∈ rest → rid ≠ cacheKey all other :=
      fun all other entry' member => others all other entry' (List.mem_cons_of_mem _ member)
    rw [run_cons]
    cases e with
    | call all other entry' =>
      have count : calls (.call all other entry' :: rest) = calls rest + 1 := by simp [calls]
      rw [count] at few
      have different := others all other entry' List.mem_cons_self
      refine ih (LimitMap.set_other_held held different (by omega)) later ?_
      rw [step_limit]
      omega
    | reply other msg =>
      have count : calls (.reply other msg :: rest) = calls rest := by simp [calls]
      rw [count] at few
      exact ih held later few

theorem sentIds_append (first second : List (Event β κ φ)) :
    sentIds (first ++ second) = sentIds first ++ sentIds second := List.filterMap_append

/-- The key of a sent request is its id, and no other call uses it. -/
theorem cacheKey_ne {events : List (Event β κ φ)} {rid : String} (named : rid ≠ "undefined" ∧ rid ≠ "null")
    (other : rid ∉ sentIds events) {all : Bool} {sent : Option String} {entry : Entry κ φ}
    (member : .call all sent entry ∈ events) : rid ≠ cacheKey all sent := by
  cases sent with
  | none => cases all with
    | true => exact named.2
    | false => exact named.1
  | some id =>
    rintro rfl
    exact other (List.mem_filterMap.mpr ⟨_, member, rfl⟩)

theorem get_of_unused (imp : String → Bool) {events : List (Event β κ φ)} {s : State β κ φ} {rid : String}
    (unused : s.callbackCache.get rid = none)
    (others : ∀ all other entry', .call all other entry' ∈ events → rid ≠ cacheKey all other) :
    (run (step imp) s events).callbackCache.get rid = none := by
  induction events generalizing s with
  | nil => exact unused
  | cons e rest ih =>
    refine ih ?_ fun all other entry' member => others all other entry' (List.mem_cons_of_mem _ member)
    cases e with
    | call all other entry' =>
      have different := others all other entry' List.mem_cons_self
      exact LimitMap.get_set_none unused different
    | reply other msg => exact unused

/-- A reply with a code and arguments goes to the callback of its own call, while fewer than 100
calls were made since. -/
theorem callback_delivered (imp : String → Bool) {before between after : List (Event β κ φ)} {all : Bool}
    {rid : String} {entry : Entry κ φ} {msg : Msg β} {retCode : Int} {outArgs : Args β}
    (fresh : Fresh (before ++ .call all (some rid) entry :: (between ++ .reply rid msg :: after)))
    (few : calls between < 100) (coded : msg.retCode = some retCode) (answered : msg.outArgs = some outArgs) :
    (run (step imp) {} (before ++ .call all (some rid) entry :: (between ++ [.reply rid msg]))).outcomes =
      (run (step imp) {} (before ++ .call all (some rid) entry :: between)).outcomes ++
        [.callback entry { outArgs with retCode := some retCode }
          { rid, funcName := msg.funcName, callbackFunc := msg.callbackFunc }] := by
  obtain ⟨distinct, undefined, null⟩ := fresh
  have ids : ∀ (first second : List (Event β κ φ)), sentIds (first ++ .call all (some rid) entry :: second) =
      sentIds first ++ rid :: sentIds second := fun first second => by
    rw [sentIds_append]
    rfl
  rw [ids] at distinct undefined null
  have named : rid ≠ "undefined" ∧ rid ≠ "null" :=
    ⟨fun same => undefined (by simp [same]), fun same => null (by simp [same])⟩
  obtain ⟨_, later, apart⟩ := List.nodup_append.mp distinct
  have unused : rid ∉ sentIds before := fun member => apart rid member rid (by simp) rfl
  have unusedLater : rid ∉ sentIds between := fun member =>
    (List.nodup_cons.mp later).1 (by rw [sentIds_append]; exact List.mem_append_left _ member)
  have absent := get_of_unused imp (s := ({} : State β κ φ)) rfl fun _ _ _ member => cacheKey_ne named unused member
  generalize start : run (step imp) {} before = s at absent
  have limit : s.callbackCache.limit = 100 := by
    rw [← start, run_limit]
    rfl
  have held := LimitMap.set_new_held entry (Obj.has_eq_false.mpr absent)
  have kept := run_held imp (s := step imp s (.call all (some rid) entry)) held
    (fun _ _ _ member => cacheKey_ne named unusedLater member) (by rw [step_limit, limit]; omega)
  rw [← List.cons_append, ← List.append_assoc, run_append, run_append, start, run_cons, run_cons, run_nil]
  generalize run (step imp) (step imp s (.call all (some rid) entry)) between = s' at kept ⊢
  simp only [step, onDispatch, coded, answered, kept]

theorem callback_delivered_second_call :
    (run (step fun _ => false) {} [.call false (some "r1") ⟨(), 1⟩, .call true (some "r2") ⟨(), 2⟩,
        .reply "r1" ⟨none, none, some ⟨none, 7⟩, some 0, none⟩] : State Nat Unit Nat).outcomes =
      [.callback ⟨(), 1⟩ ⟨some 0, 7⟩ ⟨"r1", none, none⟩] :=
  @callback_delivered Nat Unit Nat (fun _ => false) [] [.call true (some "r2") ⟨(), 2⟩] [] false "r1" ⟨(), 1⟩
    ⟨none, none, some ⟨none, 7⟩, some 0, none⟩ 0 ⟨none, 7⟩ ⟨by decide, by decide, by decide⟩ (by decide) rfl rfl

/-! ### Callbacks that are dropped -/

/-- The registrations among the events, in order. -/
def registrations (events : List (Event β κ φ)) : List (String × Entry κ φ) :=
  events.filterMap fun e =>
    match e with
    | .call all rid entry => some (cacheKey all rid, entry)
    | .reply _ _ => none

theorem run_cache (imp : String → Bool) (events : List (Event β κ φ)) (s : State β κ φ) :
    (run (step imp) s events).callbackCache =
      (registrations events).foldl (fun m e => m.set e.1 e.2) s.callbackCache := by
  induction events generalizing s with
  | nil => rfl
  | cons e rest ih =>
    rw [run_cons, ih]
    cases e <;> rfl

/-- After 100 more calls with ids of their own a callback is no longer in the cache. -/
theorem callback_evicted (imp : String → Bool) {first : String × Entry κ φ} {events : List (Event β κ φ)}
    {later : List (String × Entry κ φ)} (registered : registrations events = first :: later)
    (distinct : ((first :: later).map Prod.fst).Nodup) (many : 100 ≤ later.length) :
    (run (step imp) {} events).callbackCache.get first.1 = none := by
  have new : (({} : State β κ φ).callbackCache.keys ++ (first :: later).map Prod.fst).Nodup := distinct
  have keys := LimitMap.keys_foldl_set (first :: later) new
  have whole : ({} : State β κ φ).callbackCache.keys ++ (first :: later).map Prod.fst =
      first.1 :: later.map Prod.fst := rfl
  have limit : ({} : State β κ φ).callbackCache.limit = 100 := rfl
  refine LimitMap.get_eq_none fun member => ?_
  rw [run_cache, registered, keys, whole, limit, List.length_cons, List.length_map] at member
  have some_ : later.length + 1 - 100 = (later.length - 100) + 1 := by omega
  rw [some_, List.drop_succ_cons] at member
  exact (List.nodup_cons.mp distinct).1 (List.mem_of_mem_drop member)

/-- The id of the call number `n` in a series of calls. -/
def callId (n : Nat) : String := String.ofList (List.replicate (n + 1) 'r')

def nthCall (n : Nat) : Event Nat Unit Nat := .call false (some (callId n)) ⟨(), n⟩

theorem callId_injective : Function.Injective callId := by
  intro m n same
  have lengths := congrArg (fun s => s.toList.length) same
  simpa [callId] using lengths

theorem callId_ne {word : String} {c : Char} (member : c ∈ word.toList) (other : c ≠ 'r') (n : Nat) :
    callId n ≠ word := by
  rintro rfl
  rw [callId, String.toList_ofList] at member
  exact other (List.eq_of_mem_replicate member)

theorem sentIds_nthCall (ns : List Nat) : sentIds (ns.map nthCall) = ns.map callId := by
  rw [sentIds, List.filterMap_map]
  exact congrFun (List.filterMap_eq_map (f := callId)) ns

theorem registrations_nthCall (ns : List Nat) :
    registrations (ns.map nthCall) = ns.map fun n => (callId n, ⟨(), n⟩) := by
  rw [registrations, List.filterMap_map]
  exact congrFun (List.filterMap_eq_map (f := fun n => (callId n, (⟨(), n⟩ : Entry Unit Nat)))) ns

/-- The reply to the first of a series of calls, as the worker's `onResponse` sends it. -/
def firstReply : Event Nat Unit Nat := .reply (callId 0) ⟨none, none, some ⟨none, 7⟩, some 0, none⟩

theorem series_fresh {ns : List Nat} (once : (0 :: ns).Nodup) :
    Fresh (nthCall 0 :: (ns.map nthCall ++ [firstReply])) := by
  have ids : sentIds (nthCall 0 :: (ns.map nthCall ++ [firstReply])) = (0 :: ns).map callId := by
    rw [← List.cons_append, ← List.map_cons, sentIds_append, sentIds_nthCall]
    exact List.append_nil _
  rw [Fresh, ids]
  refine ⟨once.map callId_injective, ?_, ?_⟩
  · simp only [List.mem_map, not_exists, not_and]
    exact fun n _ => callId_ne (c := 'u') (by decide) (by decide) n
  · simp only [List.mem_map, not_exists, not_and]
    exact fun n _ => callId_ne (c := 'u') (by decide) (by decide) n

/-- The reply to the first of more than 100 outstanding calls is answered as a call of an undefined
function: it has no function name and its callback is gone. -/
theorem series_loses_first {ns : List Nat} (once : (0 :: ns).Nodup) (many : 100 ≤ ns.length) :
    (run (step fun _ => true) {} (nthCall 0 :: (ns.map nthCall ++ [firstReply]))).outcomes =
      (run (step fun _ => true) {} (nthCall 0 :: ns.map nthCall)).outcomes ++
        [.response UNDEFINED_FUNCTION ⟨callId 0, none, none⟩] := by
  have distinct : ((0 :: ns).map callId).Nodup := once.map callId_injective
  have gone := callback_evicted (fun _ => true) (registrations_nthCall (0 :: ns))
    (by simpa [Function.comp_def] using distinct) (by simpa using many)
  rw [List.map_cons] at gone
  rw [← List.cons_append, run_append]
  generalize run (step fun _ => true) {} (nthCall 0 :: ns.map nthCall) = s at gone
  have outcome : onDispatch (fun _ => true) s.callbackCache (callId 0)
      (⟨none, none, some ⟨none, 7⟩, some 0, none⟩ : Msg Nat) =
        .response UNDEFINED_FUNCTION ⟨callId 0, none, none⟩ := by
    unfold onDispatch
    dsimp only
    rw [gone]
    rfl
  exact congrArg (s.outcomes ++ [·]) outcome

theorem callback_lost :
    ¬ ∀ (before between : List (Event Nat Unit Nat)) (all : Bool) (rid : String) (entry : Entry Unit Nat)
      (msg : Msg Nat) (retCode : Int) (outArgs : Args Nat),
      Fresh (before ++ .call all (some rid) entry :: (between ++ [.reply rid msg])) →
      msg.retCode = some retCode → msg.outArgs = some outArgs →
      (run (step fun _ => true) {} (before ++ .call all (some rid) entry :: (between ++ [.reply rid msg]))).outcomes =
        (run (step fun _ => true) {} (before ++ .call all (some rid) entry :: between)).outcomes ++
          [.callback entry { outArgs with retCode := some retCode }
            { rid, funcName := msg.funcName, callbackFunc := msg.callbackFunc }] := by
  intro delivered
  obtain ⟨ns, once, many⟩ : ∃ ns : List Nat, (0 :: ns).Nodup ∧ 100 ≤ ns.length := by
    refine ⟨(List.range 100).map Nat.succ, ?_, by simp⟩
    rw [← List.range_succ_eq_map]
    exact List.nodup_range
  have outcome := delivered [] (ns.map nthCall) false (callId 0) ⟨(), 0⟩ _ 0 ⟨none, 7⟩ (series_fresh once) rfl rfl
  have same := (series_loses_first once many).symm.trans outcome
  cases (List.cons.inj (List.append_cancel_left same)).1

end Tinygame.Callback
