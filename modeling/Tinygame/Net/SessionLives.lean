import Tinygame.Base.Lifetime
import Tinygame.Net.Sessions

/-!
# How long a session lives

A session is there from the connection that was let in until a client with its id closes, the id is kicked, the server
stops or a check finds that it was not heard of for too long. Nothing else takes it away, and what happens to the other
sessions makes no difference to it.
-/

namespace Tinygame.Sessions
variable {κ : Type} {s : State κ} {sid : Nat}

/-- The session of a connection that `createSession` lets in, where the id is free. -/
def admits (s : State κ) (sid : Nat) : Op κ → Option (Record κ)
  | .createSession client sid' now =>
    if sid' = sid ∧ s.connectNum < maxConnections then some ⟨.ready, client, now, s.created.length⟩ else none
  | _ => none

theorem admits_iff {op : Op κ} {first : Record κ} : admits s sid op = some first ↔
    ∃ client now, op = .createSession client sid now ∧ s.connectNum < maxConnections ∧
      first = ⟨.ready, client, now, s.created.length⟩ := by
  cases op with
  | createSession client sid' now =>
    rw [admits, Option.ite_none_right_eq_some]
    constructor
    · rintro ⟨⟨rfl, room⟩, same⟩
      exact ⟨client, now, rfl, room, (Option.some.inj same).symm⟩
    · rintro ⟨_, _, same, room, rfl⟩
      cases same
      exact ⟨⟨rfl, room⟩, rfl⟩
  | _ => simp [admits]

/-- The operation takes away whatever session has the id. -/
def ends (sid : Nat) : Op κ → Bool
  | .close sid' => sid' = sid
  | .kick sessionid => sessionid = toString sid
  | .stop => true
  | _ => false

/-- When the session was last heard of. -/
def hears (sid serial : Nat) (last : Int) : Op κ → Int
  | .message sid' serial' now => if sid' = sid ∧ serial' = serial then now else last
  | _ => last

def overdue (healthTime : Int) (session : Record κ) : Op κ → Bool
  | .checkHealth curTime => session.state = .needClear || decide (curTime - session.lasthealth > healthTime)
  | _ => false

/-- What an operation leaves of a session. -/
def lives (healthTime : Int) (sid : Nat) (session : Record κ) (op : Op κ) : Option (Record κ) :=
  if ends sid op || overdue healthTime session op then none
  else some { session with lasthealth := hears sid session.serial session.lasthealth op }

/-- Nobody ends the session, and no check comes too late after it was last heard of. -/
def Stays (healthTime : Int) (sid : Nat) (last : Int) (op : Op κ) : Prop :=
  ends sid op = false ∧ ∀ curTime, op = .checkHealth curTime → curTime - last ≤ healthTime

/-! ### One session in a step -/

theorem destroy_healthTime (s : State κ) (id : String) : (destroy s id).healthTime = s.healthTime := by
  unfold destroy
  split <;> rfl

/-- A loop over all ids that removes what is due. -/
theorem get?_removals {remove : State κ → String → State κ} (due : Record κ → Bool) {healthTime : Int}
    (same : ∀ s id, (remove s id).healthTime = s.healthTime)
    (each : ∀ s id, s.healthTime = healthTime → ∀ k, (remove s id).sessionHandler.get? k =
      if k = id then (s.sessionHandler.get? k).filter fun session => !due session else s.sessionHandler.get? k)
    (time : s.healthTime = healthTime) (k : String) :
    (s.sessionHandler.keys.foldl remove s).sessionHandler.get? k = (s.sessionHandler.get? k).filter fun session => !due session := by
  have loop : ∀ (ids : List String) (s : State κ), s.healthTime = healthTime → (ids.foldl remove s).sessionHandler.get? k =
      if k ∈ ids then (s.sessionHandler.get? k).filter fun session => !due session else s.sessionHandler.get? k := by
    intro ids
    induction ids with
    | nil =>
      intro s _
      simp
    | cons id rest ih =>
      intro s time
      rw [List.foldl_cons, ih _ ((same s id).trans time), each s id time]
      by_cases here : k = id
      · -- what is not due stays however often it is looked at
        subst here
        cases s.sessionHandler.get? k with
        | none => simp
        | some session => cases late : due session <;> simp [late, Option.filter]
      · simp [here]
  rw [loop _ s time]
  split
  · rfl
  · rename_i absent
    have nothing : s.sessionHandler.get? k = none := by
      rw [← Obj.has_eq_false]
      simpa [Obj.mem_keys_iff_has] using absent
    rw [nothing]
    rfl

theorem get?_checkHealth (s : State κ) (curTime : Int) (k : String) :
    (checkHealth s curTime).sessionHandler.get? k =
      (s.sessionHandler.get? k).filter fun session => !overdue s.healthTime session (.checkHealth curTime) := by
  refine get?_removals (fun session => overdue s.healthTime session (.checkHealth curTime)) ?_ ?_ rfl k
  · intro s id
    split
    · exact destroy_healthTime s id
    · rfl
  · intro s₁ id time k
    unfold unhealthy
    cases found : s₁.sessionHandler.get? id with
    | none =>
      rw [if_neg Bool.false_ne_true]
      split
      · rename_i here
        rw [here, found]
        rfl
      · rfl
    | some session =>
      rw [time]
      dsimp only
      split
      · rename_i late
        rw [destroy_get]
        split
        · rename_i here
          rw [here, found]
          have late : overdue s.healthTime session (.checkHealth curTime) = true := late
          exact (Option.filter_some_neg (by simp [late])).symm
        · rfl
      · rename_i fine
        split
        · rename_i here
          rw [here, found]
          have early : overdue s.healthTime session (.checkHealth curTime) = false := Bool.eq_false_iff.mpr fine
          exact (Option.filter_some_pos (by simp [early])).symm
        · rfl

theorem get?_stop (s : State κ) (k : String) : (stop s).sessionHandler.get? k = none := by
  refine (get?_removals (fun _ => true) destroy_healthTime ?_ rfl k).trans ?_
  · intro s id _ other
    rw [destroy_get]
    split
    · cases s.sessionHandler.get? other <;> rfl
    · rfl
  · cases s.sessionHandler.get? k <;> rfl

theorem get?_createSession (s : State κ) (client : κ) (sid' : Nat) (now : Int) (sid : Nat) :
    (createSession s client sid' now).sessionHandler.get? (toString sid) =
      (s.sessionHandler.get? (toString sid)).or (admits s sid (.createSession client sid' now)) := by
  unfold createSession admits
  dsimp only
  by_cases same : sid' = sid
  · subst same
    cases found : s.sessionHandler.get? (toString sid') with
    | some session =>
      rw [if_pos (Obj.has_iff.mpr ⟨session, found⟩)]
      exact found
    | none =>
      rw [if_neg (Bool.eq_false_iff.mp (Obj.has_eq_false.mpr found))]
      by_cases full : s.connectNum ≥ maxConnections
      · rw [if_pos full, if_neg (by omega)]
        exact found
      · rw [if_neg full, if_pos ⟨rfl, by omega⟩]
        exact Obj.get?_set_self _ _ _
  · have other : toString sid ≠ toString sid' := fun h => same (toString_number.mp h).symm
    rw [if_neg (fun h : sid' = sid ∧ s.connectNum < maxConnections => same h.1), Option.or_none]
    split
    · rfl
    · split
      · rfl
      · exact Obj.get?_set_of_ne _ _ other

/-- `close` and `kick`. -/
theorem get?_destroy (s : State κ) (id : String) {op : Op κ} (ended : ends sid op = decide (id = toString sid))
    (fine : ∀ session, overdue s.healthTime session op = false) (deaf : ∀ serial last, hears sid serial last op = last)
    (shut : admits s sid op = none) :
    (destroy s id).sessionHandler.get? (toString sid) =
      (s.sessionHandler.get? (toString sid)).elim (admits s sid op) fun session => lives s.healthTime sid session op := by
  rw [destroy_get, shut]
  cases s.sessionHandler.get? (toString sid) with
  | none => exact ite_self _
  | some session =>
    show _ = lives s.healthTime sid session op
    unfold lives
    rw [ended, fine, deaf, Bool.or_false]
    by_cases same : toString sid = id
    · rw [if_pos same, if_pos (decide_eq_true same.symm)]
    · rw [if_neg same, if_neg fun h => same (of_decide_eq_true h).symm]

theorem get?_step (s : State κ) (op : Op κ) (sid : Nat) :
    (step s op).sessionHandler.get? (toString sid) =
      (s.sessionHandler.get? (toString sid)).elim (admits s sid op) fun session => lives s.healthTime sid session op := by
  cases op with
  | createSession client sid' now =>
    refine (get?_createSession s client sid' now sid).trans ?_
    cases s.sessionHandler.get? (toString sid) <;> rfl
  | message sid' serial now =>
    show (s.sessionHandler.modify _ _).get? (toString sid) = _
    rw [Obj.get?_modify]
    cases found : s.sessionHandler.get? (toString sid) with
    | none =>
      split
      · rename_i same
        rw [← same, found]
        rfl
      · rfl
    | some session =>
      show _ = some { session with lasthealth := if sid' = sid ∧ serial = session.serial then now else session.lasthealth }
      by_cases same : sid' = sid
      · subst same
        rw [if_pos rfl, found, Option.map_some]
        by_cases own : session.serial = serial
        · rw [if_pos own, if_pos ⟨rfl, own.symm⟩]
        · rw [if_neg own, if_neg fun h => own h.2.symm]
      · rw [if_neg fun h => same (toString_number.mp h).symm, if_neg fun h => same h.1]
  | close sid' =>
    refine get?_destroy s (toString sid') ?_ (fun _ => rfl) (fun _ _ => rfl) rfl
    exact decide_eq_decide.mpr toString_number.symm
  | kick sessionid => exact get?_destroy s sessionid rfl (fun _ => rfl) (fun _ _ => rfl) rfl
  | checkHealth curTime =>
    refine (get?_checkHealth s curTime (toString sid)).trans ?_
    cases s.sessionHandler.get? (toString sid) with
    | none => rfl
    | some session =>
      show _ = if overdue s.healthTime session (.checkHealth curTime) = true then none else some session
      cases late : overdue s.healthTime session (.checkHealth curTime) <;> simp [late, Option.filter]
  | stop =>
    refine (get?_stop s (toString sid)).trans ?_
    cases s.sessionHandler.get? (toString sid) <;> rfl

/-! ### One session in a run -/

theorem step_healthTime (s : State κ) (op : Op κ) : (step s op).healthTime = s.healthTime := by
  have removals {remove : State κ → String → State κ} (same : ∀ s id, (remove s id).healthTime = s.healthTime) (ids : List String)
      (s : State κ) : (ids.foldl remove s).healthTime = s.healthTime := by
    induction ids generalizing s with
    | nil => rfl
    | cons id rest ih => exact (ih _).trans (same s id)
  cases op with
  | createSession client sid now =>
    show (createSession s client sid now).healthTime = _
    unfold createSession
    split
    · rfl
    · split <;> rfl
  | message sid serial now => rfl
  | close sid => exact destroy_healthTime s _
  | kick sessionid => exact destroy_healthTime s sessionid
  | checkHealth curTime =>
    refine removals (fun s id => ?_) _ s
    split
    · exact destroy_healthTime s id
    · rfl
  | stop => exact removals destroy_healthTime _ s

theorem stays_iff {healthTime : Int} {session : Record κ} (ready : session.state = .ready) (op : Op κ) :
    Stays healthTime sid session.lasthealth op ↔ (ends sid op || overdue healthTime session op) = false := by
  rw [Bool.or_eq_false_iff]
  apply and_congr_right
  intro _
  cases op with
  | checkHealth curTime => simp [overdue, ready]
  | _ => simp [overdue]

/-- What the operations leave of a session: it stays all along, and keeps when it was last heard of. -/
theorem lived_iff {healthTime : Int} {first session : Record κ} (ready : first.state = .ready) (later : List (Op κ)) :
    later.foldlM (lives healthTime sid) first = some session ↔
      Along (hears sid first.serial) (Stays healthTime sid) first.lasthealth later ∧
        session = { first with lasthealth := run (hears sid first.serial) first.lasthealth later } := by
  induction later generalizing first with
  | nil =>
    rw [List.foldlM_nil]
    constructor
    · intro same
      exact ⟨trivial, (Option.some.inj same).symm⟩
    · rintro ⟨-, rfl⟩
      rfl
  | cons op rest ih =>
    rw [List.foldlM_cons, run_cons]
    have whole : Along (hears sid first.serial) (Stays healthTime sid) first.lasthealth (op :: rest) ↔
        Stays healthTime sid first.lasthealth op ∧
          Along (hears sid first.serial) (Stays healthTime sid) (hears sid first.serial first.lasthealth op) rest := Iff.rfl
    rw [whole, stays_iff ready]
    cases gone : ends sid op || overdue healthTime first op with
    | true =>
      have nothing : lives healthTime sid first op = none := if_pos gone
      rw [nothing]
      simp
    | false =>
      have stays : lives healthTime sid first op =
          some { first with lasthealth := hears sid first.serial first.lasthealth op } :=
        if_neg (by rw [gone]; exact Bool.false_ne_true)
      have later : ({ first with lasthealth := hears sid first.serial first.lasthealth op } : Record κ).state = .ready := ready
      rw [stays]
      refine (ih later).trans ?_
      simp

/-- What is kept under an id is the session of the connection that was let in with it and has stayed ever since. -/
theorem sessions_exact (healthTime : Option Int) (ops : List (Op κ)) (sid : Nat) (session : Record κ) :
    (run step (new healthTime) ops).sessionHandler.get? (toString sid) = some session ↔
      ∃ past client now later, ops = past ++ .createSession client sid now :: later ∧
        let s := run step (new healthTime) past
        s.sessionHandler.has (toString sid) = false ∧ s.connectNum < maxConnections ∧
          Along (hears sid s.created.length) (Stays s.healthTime sid) now later ∧
          session = ⟨.ready, client, run (hears sid s.created.length) now later, s.created.length⟩ := by
  have always : ∀ past : List (Op κ), (run step (new healthTime) past).healthTime = (new healthTime : State κ).healthTime :=
    fun past => run_keeps (fun s => s.healthTime = (new healthTime : State κ).healthTime)
      (fun s op same => (step_healthTime s op).trans same) rfl past
  have empty : (new healthTime : State κ).sessionHandler.get? (toString sid) = none := by
    unfold new
    split <;> rfl
  have lived := entry_iff_lived (fun s => s.sessionHandler.get? (toString sid)) (fun s op => admits s sid op)
    (lives (new healthTime : State κ).healthTime sid) (fun s => s.healthTime = (new healthTime : State κ).healthTime)
    (fun s op same => (step_healthTime s op).trans same) (fun s op same => same ▸ get?_step s op sid) rfl empty ops session
  refine lived.trans ?_
  constructor
  · rintro ⟨past, op, later, first, rfl, free, opened, stayed⟩
    obtain ⟨client, now, rfl, room, rfl⟩ := admits_iff.mp opened
    obtain ⟨along, rfl⟩ := (lived_iff rfl later).mp stayed
    rw [← always past] at along
    exact ⟨past, client, now, later, rfl, Obj.has_eq_false.mpr free, room, along, rfl⟩
  · rintro ⟨past, client, now, later, rfl, free, room, along, rfl⟩
    rw [always past] at along
    exact ⟨past, _, later, _, rfl, Obj.has_eq_false.mp free, admits_iff.mpr ⟨client, now, rfl, room, rfl⟩,
      (lived_iff rfl later).mpr ⟨along, rfl⟩⟩

end Tinygame.Sessions
