import Tinygame.Client.TClient

/-!
# Messages sent while the connection is not open

What is owed to the server is what has been given to `sendEx` since the connection was last open. The cache holds the part of
it that no error, no attempt and no close has dropped, and what it holds is packed once more when it is sent.
-/

namespace Tinygame.Client

/-! ### Strings -/

theorem escape_length (c : Char) : 0 < (escape c).length := by
  have spelled : ∀ n : Nat, ∀ text, char2escape n = some text → 0 < text.toList.length := by
    intro n text found
    unfold char2escape at found
    split at found
    all_goals first | (obtain rfl := Option.some.inj found; decide) | skip
    split at found
    · obtain rfl := Option.some.inj found
      rw [String.toList_append, List.length_append]
      split <;> exact Nat.lt_of_lt_of_le (by decide) (Nat.le_add_right _ _)
    · cases found
  unfold escape
  cases found : char2escape c.toNat with
  | none => exact Nat.one_pos
  | some text => exact spelled _ text found

/-- A string gets longer when it is packed. -/
theorem jsonString_length (s : String) : s.length < (jsonString s).length := by
  have longer : ∀ letters : List Char, letters.length ≤ (letters.flatMap escape).length := by
    intro letters
    induction letters with
    | nil => exact Nat.le_refl 0
    | cons c rest ih =>
      have one := escape_length c
      rw [List.flatMap_cons, List.length_append, List.length_cons]
      omega
  have inside := longer s.toList
  rw [jsonString, String.length_ofList, List.length_append, List.length_cons, List.length_singleton, ← String.length_toList]
  omega

/-- Strings that are all packed once more are not what they were, in whatever order. -/
theorem packed_again (pairs : Pairs) {values : List String} (same : (pairs.order values).map jsonString = values) : values = [] := by
  have length : ∀ values : List String, (values.map String.length).sum + values.length ≤
      ((values.map jsonString).map String.length).sum := by
    intro values
    induction values with
    | nil => exact Nat.le_refl 0
    | cons s rest ih =>
      have longer := jsonString_length s
      simp only [List.map_cons, List.sum_cons, List.length_cons]
      omega
  have more := length (pairs.order values)
  rw [same, ((pairs.perm values).map String.length).sum_nat, (pairs.perm values).length_eq] at more
  exact List.length_eq_zero_iff.mp (by omega)

/-! ### What each function does -/

namespace TClient

section
variable {δ : Type} {encode : δ → String} {pairs : Pairs} {blocks : Bool} {client : TClient δ}

/-- The connection is open. -/
def IsOpen (client : TClient δ) : Prop := client.connector = true ∧ client.connectState = .connected

instance instDecidableIsOpen (client : TClient δ) : Decidable client.IsOpen := inferInstanceAs (Decidable (_ ∧ _))

/-- What has gone to `sendString`. -/
def sends (effects : List Effect) : List String :=
  effects.filterMap fun
    | .sendString msg => some msg
    | _ => none

theorem sends_append (first second : List Effect) : sends (first ++ second) = sends first ++ sends second :=
  List.filterMap_append

theorem sends_strings (messages : List String) : sends (messages.map .sendString) = messages := by
  induction messages with
  | nil => rfl
  | cons msg rest ih => exact congrArg (msg :: ·) ih

theorem close_eq (blocks : Bool) (client : TClient δ) :
    (client.close blocks).msgCache = client.msgCache.clear ∧ (client.close blocks).connector = false ∧
      (client.close blocks).connectState ≠ .connecting ∧
      (client.close blocks).effects = client.effects ++ if client.connector then [.close] else [] := by
  unfold close emit disconnect
  cases client.connector <;> cases blocks <;> simp

/-- Nothing at all, or an attempt, for which a connector that was there is closed, or the end of the attempts. -/
theorem reconnect_cases (blocks : Bool) (client : TClient δ) :
    client.reconnect blocks = client ∧ client.connectState = .connecting ∨
      client.connectState ≠ .connecting ∧
        (client.reconnect blocks).connector = false ∧
        ∃ effects, (client.reconnect blocks).effects = client.effects ++ effects ∧ sends effects = [] ∧
          ((.disconnectNetwork ∉ effects ∧
              (client.reconnect blocks).msgCache = if client.connector then client.msgCache.clear else client.msgCache) ∨
            .disconnectNetwork ∈ effects ∧ (client.reconnect blocks).msgCache = client.msgCache.clear) := by
  by_cases connecting : client.connectState = .connecting
  · refine .inl ⟨?_, connecting⟩
    rw [reconnect, if_neg (not_not_intro connecting)]
  · refine .inr ⟨connecting, ?_⟩
    unfold reconnect isRetry close emit disconnect
    rw [if_pos connecting]
    by_cases last : client.reconnNum ≥ TCLIENT_RECONNECT_TRY_MAX_COUNT
    · cases connector : client.connector <;> cases blocks <;> simp [last, sends, DataCache.clear]
    · cases connector : client.connector <;> cases blocks <;> simp [last, sends, DataCache.clear]

theorem sendEx_open (encode : δ → String) (blocks : Bool) (isOpen : client.IsOpen) (data : Message δ) (isLoadUi : Bool) :
    client.sendEx encode blocks data isLoadUi =
      (if isLoadUi then client.emit .sendingNetwork else client).emit (.sendString (pack encode data)) := by
  rw [sendEx, if_neg (by simp [isOpen.1, isOpen.2])]

theorem sendEx_offline (encode : δ → String) (blocks : Bool) (offline : ¬ client.IsOpen) (data : Message δ) (isLoadUi : Bool) :
    client.sendEx encode blocks data isLoadUi = (client.pushMsgToCache (pack encode data)).reconnect blocks := by
  refine if_pos ?_
  by_contra connected
  push Not at connected
  exact offline ⟨by simpa using connected.1, connected.2⟩

theorem sendAll_open (encode : δ → String) (blocks : Bool) (isOpen : client.IsOpen) (messages : List (Message δ)) :
    client.sendAll encode blocks messages =
      { client with effects := client.effects ++ (messages.map (pack encode)).map .sendString } := by
  induction messages generalizing client with
  | nil => simp [sendAll]
  | cons data rest ih =>
    have first := sendEx_open encode blocks isOpen data false
    rw [sendAll, List.foldl_cons, first]
    refine (@ih (client.emit (.sendString (pack encode data))) isOpen).trans ?_
    simp [emit]

/-- What the callbacks of an open send. -/
def own (client : TClient δ) (login : Option (Message δ)) : List (Message δ) :=
  (if client.reLoginCallback then login.toList else []) ++ client.callback.getD []

/-- The callbacks first, then the cache, which is empty afterwards. -/
theorem onOpen_eq (encode : δ → String) (pairs : Pairs) (blocks : Bool) (connector : client.connector = true)
    (login : Option (Message δ)) :
    client.onOpen encode pairs blocks login =
      { client with
        connectState := .connected
        reconnNum := 0
        callback := none
        msgCache := client.msgCache.clear
        effects := client.effects ++ .connectedNetwork ::
          ((client.own login ++ (pairs.order client.msgCache.data).map Message.string).map (pack encode)).map .sendString } := by
  have all : ∀ client : TClient δ, client.connector = true → client.connectState = .connected → ∀ messages,
      client.sendAll encode blocks messages =
        { client with effects := client.effects ++ (messages.map (pack encode)).map .sendString } :=
    fun _ connector state => sendAll_open encode blocks ⟨connector, state⟩
  have begun : (client.emit .connectedNetwork).connected encode blocks login =
      { client with
        connectState := .connected
        reconnNum := 0
        effects := client.effects ++ .connectedNetwork ::
          ((if client.reLoginCallback then login.toList else []).map (pack encode)).map .sendString } := by
    unfold connected
    cases again : client.reLoginCallback with
    | false => simp [emit, again]
    | true =>
      rw [if_pos (by exact again), all]
      · simp [emit, again]
      · exact connector
      · rfl
  unfold onOpen
  dsimp only
  rw [begun, all]
  · unfold sendDelayMsg
    dsimp only
    rw [all]
    · simp [own]
    · exact connector
    · rfl
  · exact connector
  · rfl

/-! ### What is owed -/

/-- `pending` is what has been given since the connection was last open, unless the attempts have run out since. `kept` is what
is left of it. -/
structure Watched (δ : Type) where
  client : TClient δ
  pending : List (Message δ) := []
  kept : List (Message δ) := []

def watch (encode : δ → String) (pairs : Pairs) (blocks : Bool) (watched : Watched δ) (event : Event δ) : Watched δ :=
  let client := watched.client
  let after := client.step encode pairs blocks event
  if .disconnectNetwork ∈ after.effects then { client := after }
  else match event with
    | .sendEx data _ =>
      if client.IsOpen then { watched with client := after }
      else
        { client := after
          pending := watched.pending ++ [data]
          -- a connector that has not opened yet is closed, and with it goes the cache
          kept := if client.connector then [] else watched.kept ++ [data] }
    | .opened _ => if client.connector then { client := after } else { watched with client := after }
    | .failed => { watched with client := after, kept := [] }
    | .closed | .timer _ => { watched with client := after }

/-- What an event is to send. -/
def due (encode : δ → String) (watched : Watched δ) (event : Event δ) : List String :=
  match event with
  | .sendEx data _ => if watched.client.IsOpen then [pack encode data] else []
  | .opened login =>
    if watched.client.connector then (watched.client.own login ++ watched.pending).map (pack encode) else []
  | .closed | .failed | .timer _ => []

/-- Fewer messages than the cache can take are pending, and the event sends what it is to send. -/
def Right (encode : δ → String) (pairs : Pairs) (blocks : Bool) (watched : Watched δ) (event : Event δ) : Prop :=
  watched.pending.length < TCLIENT_MAX_MSG_CACHE →
    sends (watched.client.step encode pairs blocks event).effects = due encode watched event

/-- An open that comes before too many messages are pending finds none. -/
def Idle (watched : Watched δ) (event : Event δ) : Prop :=
  ∀ login, event = .opened login → watched.client.connector = true → watched.pending.length < TCLIENT_MAX_MSG_CACHE →
    watched.pending = []

/-- The cache holds what is kept, as long as it does not go round. -/
structure Cached (encode : δ → String) (cache : DataCache String) (kept : List (Message δ)) : Prop where
  size : cache.size = TCLIENT_MAX_MSG_CACHE
  capacity : kept.length < TCLIENT_MAX_MSG_CACHE → cache.capacity = kept.length
  nothing : kept.length < TCLIENT_MAX_MSG_CACHE → cache.dt 0 = none
  dt : kept.length < TCLIENT_MAX_MSG_CACHE → ∀ k, cache.dt (k + 1) = (kept[k]?).map (pack encode)

theorem Cached.clear {cache : DataCache String} (size : cache.size = TCLIENT_MAX_MSG_CACHE) :
    Cached encode cache.clear [] :=
  ⟨size, fun _ => rfl, fun _ => rfl, fun _ _ => rfl⟩

theorem Cached.push {cache : DataCache String} {kept : List (Message δ)} (cached : Cached encode cache kept) (data : Message δ) :
    Cached encode (cache.push (pack encode data)) (kept ++ [data]) := by
  have shorter : (kept ++ [data]).length < TCLIENT_MAX_MSG_CACHE → kept.length + 1 < TCLIENT_MAX_MSG_CACHE := by
    rw [List.length_append, List.length_singleton]
    exact id
  have next : (kept ++ [data]).length < TCLIENT_MAX_MSG_CACHE → cache.next = kept.length + 1 := by
    intro few
    have room := shorter few
    rw [DataCache.next, cached.capacity (by omega), cached.size, if_neg (by omega)]
  refine ⟨cached.size, fun few => ?_, fun few => ?_, fun few k => ?_⟩
  · rw [DataCache.push, next few, List.length_append, List.length_singleton]
  · have room := shorter few
    rw [DataCache.push, next few]
    dsimp only
    rw [Function.update_of_ne (by omega)]
    exact cached.nothing (by omega)
  · have room := shorter few
    rw [DataCache.push, next few]
    dsimp only
    rw [Function.update_apply]
    by_cases last : k = kept.length
    · rw [if_pos (by omega), last]
      simp
    · rw [if_neg (by omega), cached.dt (by omega)]
      by_cases inside : k < kept.length
      · rw [List.getElem?_append_left inside]
      · rw [List.getElem?_eq_none (by omega), List.getElem?_eq_none]
        rw [List.length_append, List.length_singleton]
        omega

theorem range_filterMap {α : Type} (values : List α) {n : Nat} (within : values.length ≤ n) :
    (List.range n).filterMap (values[·]?) = values := by
  induction values generalizing n with
  | nil => exact List.filterMap_eq_nil_iff.mpr fun _ _ => List.getElem?_nil
  | cons a rest ih =>
    obtain ⟨m, rfl⟩ : ∃ m, n = m + 1 := ⟨n - 1, by rw [List.length_cons] at within; omega⟩
    rw [List.range_succ_eq_map, List.filterMap_cons, List.filterMap_map]
    exact congrArg (a :: ·) (ih (Nat.le_of_succ_le_succ within))

theorem Cached.data {cache : DataCache String} {kept : List (Message δ)} (cached : Cached encode cache kept)
    (few : kept.length < TCLIENT_MAX_MSG_CACHE) : cache.data = kept.map (pack encode) := by
  have slots : (cache.dt ∘ Nat.succ) = ((kept.map (pack encode))[·]?) := by
    funext k
    rw [List.getElem?_map]
    exact cached.dt few k
  rw [DataCache.data, cached.size, TCLIENT_MAX_MSG_CACHE, List.range_succ_eq_map, List.filterMap_cons, cached.nothing few,
    List.filterMap_map, slots]
  refine range_filterMap _ ?_
  rw [List.length_map]
  exact Nat.le_of_lt_succ few

/-- What holds throughout. -/
structure Kept (encode : δ → String) (watched : Watched δ) : Prop where
  sub : watched.kept.Sublist watched.pending
  cached : Cached encode watched.client.msgCache watched.kept
  apart : watched.client.connectState = .connecting → watched.client.connector = false

/-- Of a call that connects again: a connector that is there takes the cache with it. -/
theorem kept_reconnect {pending kept : List (Message δ)} (sub : kept.Sublist pending)
    (before : .disconnectNetwork ∉ client.effects) (size : client.msgCache.size = TCLIENT_MAX_MSG_CACHE)
    (there : client.connector = true → kept = [])
    (missing : client.connector = false → Cached encode client.msgCache kept)
    (apart : client.connectState = .connecting → client.connector = false) :
    Kept encode (if .disconnectNetwork ∈ (client.reconnect blocks).effects then { client := client.reconnect blocks }
      else { client := client.reconnect blocks, pending, kept }) := by
  rcases reconnect_cases blocks client with ⟨same, connecting⟩ | ⟨-, none_, effects, more, -, ⟨goes, cache⟩ | ⟨ends, cache⟩⟩
  · rw [same, if_neg before]
    exact ⟨sub, missing (apart connecting), apart⟩
  · rw [if_neg (by rw [more, List.mem_append]; exact not_or.mpr ⟨before, goes⟩)]
    refine ⟨sub, ?_, fun _ => none_⟩
    cases connector : client.connector with
    | true =>
      dsimp only
      rw [cache, connector, if_pos rfl, there connector]
      exact .clear size
    | false =>
      dsimp only
      rw [cache, connector, if_neg (by simp)]
      exact missing connector
  · rw [if_pos (by rw [more]; exact List.mem_append_right _ ends)]
    refine ⟨List.Sublist.refl _, ?_, fun _ => none_⟩
    dsimp only
    rw [cache]
    exact .clear size

theorem watch_kept {watched : Watched δ} (kept : Kept encode watched) (event : Event δ) :
    Kept encode (watch encode pairs blocks watched event) := by
  obtain ⟨sub, cached, apart⟩ := kept
  cases event with
  | sendEx data isLoadUi =>
    by_cases isOpen : watched.client.IsOpen
    · have sent := @sendEx_open δ { watched.client with effects := [] } encode blocks isOpen data isLoadUi
      have quiet : .disconnectNetwork ∉ (watched.client.step encode pairs blocks (.sendEx data isLoadUi)).effects := by
        rw [step, sent]
        cases isLoadUi <;> simp [emit]
      unfold watch
      rw [if_neg quiet]
      dsimp only
      rw [if_pos isOpen, step, sent]
      cases isLoadUi
      · exact ⟨sub, cached, apart⟩
      · exact ⟨sub, cached, apart⟩
    · have sent := @sendEx_offline δ { watched.client with effects := [] } encode blocks isOpen data isLoadUi
      unfold watch step
      dsimp only
      rw [if_neg isOpen, sent]
      refine kept_reconnect ?_ List.not_mem_nil cached.size (fun there => if_pos there) (fun missing => ?_) apart
      · split
        · exact List.nil_sublist _
        · exact sub.append (List.Sublist.refl _)
      · rw [if_neg (by rw [show watched.client.connector = false from missing]; simp)]
        exact cached.push data
  | opened login =>
    unfold watch step
    dsimp only
    by_cases there : watched.client.connector = true
    · rw [if_pos there, @onOpen_eq δ { watched.client with effects := [] } encode pairs blocks there, if_neg (by simp),
        if_pos there]
      exact ⟨List.Sublist.refl _, .clear cached.size, fun connecting => absurd connecting (by simp)⟩
    · rw [if_neg there, if_neg List.not_mem_nil, if_neg there]
      exact ⟨sub, cached, apart⟩
  | closed =>
    unfold watch step onClose
    dsimp only
    by_cases closing : watched.client.connectState = .close
    · rw [if_neg (not_not_intro closing), disconnect, if_neg List.not_mem_nil]
      exact ⟨sub, cached, fun _ => rfl⟩
    · rw [if_pos closing]
      exact kept_reconnect sub List.not_mem_nil cached.size (fun there => absurd there (by simp [disconnect])) (fun _ => cached)
        fun _ => rfl
  | failed =>
    unfold watch step onError
    dsimp only
    obtain ⟨cache, none_, -, effects⟩ := close_eq blocks { watched.client with effects := [] }
    refine kept_reconnect (List.nil_sublist _) ?_ ?_ (fun _ => rfl) (fun _ => ?_) (fun _ => none_)
    · rw [effects]
      split <;> simp
    · rw [cache]
      exact cached.size
    · rw [cache]
      exact .clear cached.size
  | timer created =>
    unfold watch step connect emit
    dsimp only
    by_cases set : watched.client.reconnectScheduler = true
    · rw [if_pos set, if_neg (by simp)]
      exact ⟨sub, cached, fun connecting => absurd connecting (by simp)⟩
    · rw [if_neg set, if_neg List.not_mem_nil]
      exact ⟨sub, cached, apart⟩

theorem reconnect_sends (blocks : Bool) (client : TClient δ) :
    sends (client.reconnect blocks).effects = sends client.effects := by
  rcases reconnect_cases blocks client with ⟨same, -⟩ | ⟨-, -, effects, more, nothing, -⟩
  · rw [same]
  · rw [more, sends_append, nothing, List.append_nil]

/-- An open sends what the callbacks send and then what is kept, packed once more. -/
theorem opened_sends (encode : δ → String) (pairs : Pairs) (blocks : Bool) (there : client.connector = true)
    (login : Option (Message δ)) :
    sends (client.step encode pairs blocks (.opened login)).effects =
      (client.own login).map (pack encode) ++ (pairs.order client.msgCache.data).map jsonString := by
  have opened := @onOpen_eq δ { client with effects := [] } encode pairs blocks there login
  rw [step]
  dsimp only
  rw [if_pos there, opened]
  dsimp only
  rw [List.nil_append, ← List.singleton_append, sends_append, sends_strings, List.map_append, List.map_map]
  rfl

/-- An event sends what it is to send if and only if it opens no connection for messages that are pending. -/
theorem right_iff {watched : Watched δ} (kept : Kept encode watched) (event : Event δ) :
    Right encode pairs blocks watched event ↔ Idle watched event := by
  obtain ⟨sub, cached, apart⟩ := kept
  cases event with
  | sendEx data isLoadUi =>
    refine iff_of_true (fun _ => ?_) fun _ other => absurd other (by simp)
    by_cases isOpen : watched.client.IsOpen
    · have sent := @sendEx_open δ { watched.client with effects := [] } encode blocks isOpen data isLoadUi
      rw [due, step, if_pos isOpen, sent]
      cases isLoadUi <;> rfl
    · have sent := @sendEx_offline δ { watched.client with effects := [] } encode blocks isOpen data isLoadUi
      rw [due, step, if_neg isOpen, sent, reconnect_sends]
      rfl
  | opened login =>
    by_cases there : watched.client.connector = true
    · have sent := opened_sends encode pairs blocks there login
      unfold Right
      rw [due, if_pos there, sent, List.map_append, List.append_right_inj]
      constructor
      · intro right _ _ _ few
        have same := right few
        have short : watched.kept.length < TCLIENT_MAX_MSG_CACHE := Nat.lt_of_le_of_lt sub.length_le few
        rw [cached.data short] at same
        have length := congrArg List.length same
        rw [List.length_map, (pairs.perm _).length_eq, List.length_map, List.length_map] at length
        rw [sub.eq_of_length length] at same
        exact List.map_eq_nil_iff.mp (packed_again pairs same)
      · intro idle few
        have nothing := idle login rfl there few
        have dropped : watched.kept = [] := by
          rw [nothing] at sub
          exact List.sublist_nil.mp sub
        rw [cached.data (by rw [dropped]; exact Nat.zero_lt_succ 9), dropped, nothing, List.map_nil, (pairs.perm []).eq_nil]
        rfl
    · refine iff_of_true (fun _ => ?_) fun _ _ connector => absurd connector there
      rw [due, if_neg there, step, if_neg there]
      rfl
  | closed =>
    refine iff_of_true (fun _ => ?_) fun _ other => absurd other (by simp)
    rw [due, step, onClose]
    split
    · exact reconnect_sends ..
    · rfl
  | failed =>
    refine iff_of_true (fun _ => ?_) fun _ other => absurd other (by simp)
    rw [due, step, onError, reconnect_sends, (close_eq ..).2.2.2]
    split <;> rfl
  | timer created =>
    refine iff_of_true (fun _ => ?_) fun _ other => absurd other (by simp)
    rw [due, step]
    split <;> rfl

/-- The object as it is made, with nothing pending. -/
def begun (callback : Option (List (Message δ))) (created : Bool) : Watched δ := { client := TClient.new callback created }

theorem begun_kept (encode : δ → String) (callback : Option (List (Message δ))) (created : Bool) :
    Kept encode (begun callback created) :=
  ⟨List.Sublist.refl _, ⟨rfl, fun _ => rfl, fun _ => rfl, fun _ _ => rfl⟩, fun connecting =>
    absurd (show ConnState.hanging = ConnState.connecting from connecting) (by decide)⟩

/-- **Messages sent offline.** In a run every event sends what it is to send, the messages that are pending at an open among it,
if and only if no open finds any. -/
theorem offline_iff (encode : δ → String) (pairs : Pairs) (blocks : Bool) (callback : Option (List (Message δ)))
    (created : Bool) (events : List (Event δ)) :
    Along (watch encode pairs blocks) (Right encode pairs blocks) (begun callback created) events ↔
      Along (watch encode pairs blocks) Idle (begun callback created) events := by
  have start := begun_kept encode callback created
  generalize begun callback created = watched at start
  induction events generalizing watched with
  | nil => exact Iff.rfl
  | cons event rest ih => exact and_congr (right_iff start event) (ih _ (watch_kept start event))

end

/-- The order of the ids. -/
def ascending : Pairs := ⟨id, fun _ => .refl _⟩

/-- The connection opens and is lost, a message is given, and the connection opens again. -/
def lostAndFound : List (Event Unit) :=
  [.opened none, .closed, .sendEx (.table ()) false, .timer true, .opened none]

/-- A message is given before the connection has opened, and another attempt succeeds. -/
def early : List (Event Unit) := [.sendEx (.table ()) false, .timer true, .opened none]

/-- The message comes as a string, and the early one does not come at all. -/
theorem offline_lost :
    (¬ Along (watch (fun _ => "[]") ascending true) (Right (fun _ => "[]") ascending true) (begun none true) lostAndFound) ∧
      ¬ Along (watch (fun _ => "[]") ascending true) (Right (fun _ => "[]") ascending true) (begun none true) early := by
  refine ⟨fun right => ?_, fun right => ?_⟩
  · exact absurd (right.2.2.2.2.1 (by decide +kernel)) (by decide +kernel)
  · exact absurd (right.2.2.1 (by decide +kernel)) (by decide +kernel)

end TClient
end Tinygame.Client
