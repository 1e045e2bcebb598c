import Tinygame.Dataprocess.AnyConfig

/-!
# A session sees its own entries

Whatever a client sends and whatever the data config says, the generated handles of a request ask for
entities of the session's area and player, and the handler is told no other names.
-/

namespace Tinygame.AnyConfig
open Redis
variable {V : Type}

/-- The key a command is about. -/
def key? : Command V → Option String
  | .read (.getSession _) => none
  | .read (.get key) => some key
  | .read (.hget key _) => some key
  | .read (.hgetall key) => some key
  | .read (.hmget key _) => some key
  | .write (.set key _) => some key
  | .write (.hset key _ _) => some key
  | .write (.hmset key _) => some key

/-- The command is about an entity of the config, as the session's area or player has it. -/
def Confined (cfg : DataConfig V) (session : Session) (command : Command V) : Prop :=
  ∃ s ∈ cfg.setting, ∃ dbKey, s.dbKey = some dbKey ∧
    key? command = some (keyOf s.kind session.area session.uuid dbKey)

section
variable {js : Values V} {cfg : DataConfig V} {errCode : String → Option Nat} {session : Session}
  {P : Command V → Prop} {dataKey : Props V}

/-- The names in a data key are those of the session. -/
def Names (js : Values V) (session : Session) (dataKey : Props V) : Prop :=
  dataKey "area" = some (js.string session.area) ∧ dataKey "uuid" = some (js.string session.uuid)

theorem Names.update (names : Names js session dataKey) {key : String} (other : key ≠ "uuid" ∧ key ≠ "area") (value : Option V) :
    Names js session (Function.update dataKey key value) := by
  refine ⟨?_, ?_⟩
  · rw [Function.update_of_ne (Ne.symm other.2)]
    exact names.1
  · rw [Function.update_of_ne (Ne.symm other.1)]
    exact names.2

theorem Names.getSingleKey (keys : ∀ s ∈ cfg.setting, s.key ≠ some "uuid" ∧ s.key ≠ some "area") (inArgs : Props V)
    (names : Names js session dataKey) : Names js session (getSingleKey js cfg inArgs dataKey) := by
  unfold AnyConfig.getSingleKey
  generalize cfg.setting = settings at keys
  induction settings generalizing dataKey with
  | nil => exact names
  | cons s rest ih =>
    refine ih ?_ fun s' there => keys s' (List.mem_cons_of_mem _ there)
    have first := keys s (List.mem_cons_self ..)
    cases named : s.key with
    | none => simpa only [named] using names
    | some key =>
      simp only [named]
      split
      · exact names.update ⟨fun same => first.1 (same ▸ named), fun same => first.2 (same ▸ named)⟩ _
      · exact names

/-- The key of an entity is the session's. -/
theorem genKey_confined {s : Setting V} (listed : s ∈ cfg.setting) (names : Names js session dataKey) {thisKey : String}
    (key : genKey js s dataKey = some thisKey) {command : Command V} (about : key? command = some thisKey) :
    Confined cfg session command := by
  unfold genKey spell at key
  rw [names.1, names.2] at key
  obtain ⟨dbKey, kept, rfl⟩ := Option.map_eq_some_iff.mp key
  refine ⟨s, listed, dbKey, kept, ?_⟩
  rw [about, Option.map_some, Option.map_some, Option.getD_some, Option.getD_some, js.text_string, js.text_string]

/-- What a handle does when it is given the session's names: it asks only such commands, and hands the
names on. -/
def Keeps (js : Values V) (session : Session) (P : Command V → Prop) (handle : Handle V) : Prop :=
  ∀ func dataKey dataValue, Names js session dataKey →
    (handle func dataKey dataValue).Only P ∧
      (handle func dataKey dataValue).Yields fun outcome => ∀ dataKey dataValue,
        outcome = some (.ok (dataKey, dataValue)) → Names js session dataKey

/-- A handle that asks once and calls back with the answer. -/
theorem ask_keeps {command : Command V} (asks : P command) {outcome : Reply V → Except (Option Nat) (Props V × Props V)}
    (kept : ∀ reply dataKey dataValue, outcome reply = .ok (dataKey, dataValue) → Names js session dataKey) :
    let p : Work V (Outcome V) := Program.request command >>= fun reply => pure (some (outcome reply))
    p.Only P ∧ p.Yields fun result => ∀ dataKey dataValue, result = some (.ok (dataKey, dataValue)) →
      Names js session dataKey :=
  ⟨⟨asks, fun _ => trivial⟩, fun reply dataKey dataValue same => kept reply dataKey dataValue (Option.some.inj same)⟩

theorem bindReadFuncHandleGet_keeps {s : Setting V} (listed : s ∈ cfg.setting) :
    Keeps js session (fun command => Confined cfg session command ∨ P command) (bindReadFuncHandleGet js errCode s) := by
  intro func dataKey dataValue names
  unfold bindReadFuncHandleGet
  split
  · rename_i thisKey key _
    refine ask_keeps (.inl (genKey_confined listed names key rfl)) fun reply dataKey' dataValue' same => ?_
    split at same
    · split at same <;> cases same
      exact names
    · cases same
  · exact ⟨trivial, fun _ _ same => by cases same; exact names⟩
  · exact ⟨trivial, fun _ _ same => by cases same⟩

theorem fieldKey_names {s : Setting V} {key : String} (other : key ≠ "uuid" ∧ key ≠ "area") {func : FuncConfig}
    {dataValue dataKey' : Props V} (names : Names js session dataKey)
    (settled : fieldKey js cfg s key func dataKey dataValue = some dataKey') : Names js session dataKey' := by
  have fixed : Names js session (withDefault s key dataKey) := by
    unfold withDefault
    split
    · exact names.update other _
    · exact names
  unfold fieldKey at settled
  dsimp only at settled
  split at settled
  · cases settled
    exact fixed
  · split at settled
    · split at settled <;> cases settled
      exact fixed
    · obtain ⟨found, -, rfl⟩ := Option.map_eq_some_iff.mp settled
      exact fixed.update other _
    · cases settled
      exact fixed

theorem bindReadFuncHandleHget_keeps {s : Setting V} (listed : s ∈ cfg.setting) {key : String}
    (other : key ≠ "uuid" ∧ key ≠ "area") :
    Keeps js session (fun command => Confined cfg session command ∨ P command)
      (bindReadFuncHandleHget js cfg errCode s key) := by
  intro func dataKey dataValue names
  unfold bindReadFuncHandleHget
  split
  · rename_i thisKey found _
    split
    · exact ⟨trivial, fun _ _ same => by cases same⟩
    · rename_i dataKey' settled
      have names' := fieldKey_names other names settled
      refine ask_keeps (.inl (genKey_confined listed names found rfl)) fun reply dataKey'' dataValue' same => ?_
      split at same <;> cases same
      · exact names'
      · exact names'
  · exact ⟨trivial, fun _ _ same => by cases same; exact names⟩
  · exact ⟨trivial, fun _ _ same => by cases same⟩

theorem bindReadFuncHandleHall_keeps {s : Setting V} (listed : s ∈ cfg.setting) :
    Keeps js session (fun command => Confined cfg session command ∨ P command) (bindReadFuncHandleHall js errCode s) := by
  intro func dataKey dataValue names
  unfold bindReadFuncHandleHall
  split
  · rename_i thisKey key _
    refine ask_keeps (.inl (genKey_confined listed names key rfl)) fun reply dataKey' dataValue' same => ?_
    split at same <;> cases same
    exact names
  · exact ⟨trivial, fun _ _ same => by cases same; exact names⟩
  · exact ⟨trivial, fun _ _ same => by cases same⟩

theorem bindWriteFuncHandle_keeps {s : Setting V} (listed : s ∈ cfg.setting) :
    Keeps js session (fun command => Confined cfg session command ∨ P command) (bindWriteFuncHandle js errCode s) := by
  intro func dataKey dataValue names
  unfold bindWriteFuncHandle
  split
  · rename_i thisKey key _
    split
    · rename_i value _
      have about : key? (.write (storing js s thisKey dataKey value)) = some thisKey := by
        unfold storing
        split <;> rfl
      refine ask_keeps (.inl (genKey_confined listed names key about)) fun reply dataKey' dataValue' same => ?_
      split at same <;> cases same
      exact names
    · exact ⟨trivial, fun _ _ same => by cases same; exact names⟩
  · exact ⟨trivial, fun _ _ same => by cases same; exact names⟩
  · exact ⟨trivial, fun _ _ same => by cases same⟩

/-- Every generated handle keeps to the session. -/
theorem convertfuncHandle_keeps (keys : ∀ s ∈ cfg.setting, s.key ≠ some "uuid" ∧ s.key ≠ some "area") :
    ∀ handle ∈ (convertfuncHandle js cfg errCode).1 ++ (convertfuncHandle js cfg errCode).2,
      Keeps js session (fun command => Confined cfg session command ∨ P command) handle := by
  let good (handles : List (Handle V) × List (Handle V)) : Prop :=
    ∀ handle ∈ handles.1 ++ handles.2, Keeps js session (fun command => Confined cfg session command ∨ P command) handle
  suffices kept : ∀ settings ⊆ cfg.setting, ∀ handles, good handles → good (settings.foldl _ handles) from
    kept cfg.setting (List.Subset.refl _) ([], []) fun _ there => absurd there List.not_mem_nil
  intro settings
  induction settings with
  | nil => exact fun _ _ kept => kept
  | cons s rest ih =>
    intro within handles kept
    obtain ⟨listed, later⟩ := List.cons_subset.mp within
    refine ih later _ ?_
    have first := keys s listed
    intro handle there
    dsimp only at there
    split at there
    · exact kept handle there
    · simp only [List.mem_append, List.mem_singleton] at there
      rcases there with (old | rfl) | old
      · exact kept handle (List.mem_append_left _ old)
      · exact bindReadFuncHandleHall_keeps listed
      · exact kept handle (List.mem_append_right _ old)
    · split at there
      · rename_i key named
        have other : key ≠ "uuid" ∧ key ≠ "area" :=
          ⟨fun same => first.1 (same ▸ named), fun same => first.2 (same ▸ named)⟩
        simp only [List.mem_append, List.mem_singleton] at there
        rcases there with (old | rfl) | old | rfl
        · exact kept handle (List.mem_append_left _ old)
        · exact bindReadFuncHandleHget_keeps listed other
        · exact kept handle (List.mem_append_right _ old)
        · exact bindWriteFuncHandle_keeps listed
      · simp only [List.mem_append, List.mem_cons] at there
        rcases there with (rfl | old) | rfl | old
        · exact bindReadFuncHandleGet_keeps listed
        · exact kept handle (List.mem_append_left _ old)
        · exact bindWriteFuncHandle_keeps listed
        · exact kept handle (List.mem_append_right _ old)

theorem own_keeps {own : OwnHandle V} (asks : ∀ func dataKey dataValue, (own func dataKey dataValue).Only P) :
    Keeps js session (fun command => Confined cfg session command ∨ P command) own.handle := by
  intro func dataKey dataValue names
  have only := (asks func dataKey dataValue).mono fun command asked => (.inr asked : Confined cfg session command ∨ P command)
  have ended := Program.yields_true (own func dataKey dataValue)
  refine ⟨only.bind ended fun _ _ => trivial, ended.bind fun outcome _ dataKey' dataValue' same => ?_⟩
  cases outcome with
  | none => cases same
  | some outcome =>
    cases outcome with
    | error e => cases same
    | ok dataValue => cases same; exact names

/-- A waterfall of such handles. -/
theorem waterfall_keeps {handles : List (Handle V)} (keep : ∀ handle ∈ handles, Keeps js session P handle)
    (func : FuncConfig) (dataValue : Props V) (names : Names js session dataKey) :
    (waterfall func handles dataKey dataValue).Only P ∧
      (waterfall func handles dataKey dataValue).Yields fun ending => ∀ dataKey dataValue,
        ending = .completed dataKey dataValue → Names js session dataKey := by
  induction handles generalizing dataKey dataValue with
  | nil => exact ⟨trivial, fun _ _ same => by cases same; exact names⟩
  | cons handle rest ih =>
    obtain ⟨only, ended⟩ := keep handle (List.mem_cons_self ..) func dataKey dataValue names
    have later : ∀ dataKey dataValue, Names js session dataKey → (waterfall func rest dataKey dataValue).Only P ∧
        (waterfall func rest dataKey dataValue).Yields fun ending => ∀ dataKey dataValue,
          ending = .completed dataKey dataValue → Names js session dataKey := fun dataKey dataValue names =>
      ih (fun handle there => keep handle (List.mem_cons_of_mem _ there)) dataValue names
    refine ⟨only.bind ended fun outcome kept => ?_, ended.bind fun outcome kept => ?_⟩
    · match outcome with
      | some (.ok (dataKey', dataValue')) => exact (later dataKey' dataValue' (kept _ _ rfl)).1
      | some (.error (some errCode)) => trivial
      | some (.error none) =>
        dsimp only
        split <;> trivial
      | none => trivial
    · match outcome with
      | some (.ok (dataKey', dataValue')) => exact (later dataKey' dataValue' (kept _ _ rfl)).2
      | some (.error (some errCode)) => exact fun _ _ same => by cases same
      | some (.error none) =>
        dsimp only
        split
        · exact fun _ _ same => by cases same; exact names
        · exact fun _ _ same => by cases same
      | none => exact fun _ _ same => by cases same

end

section
variable {js : Values V} {cfg : DataConfig V} {errCode : String → Option Nat} {own : OwnHandles V} {session : Session}
  {P : Command V → Prop}

/-- What the handles behind the generated ones ask. -/
def OwnAsk (own : OwnHandles V) (P : Command V → Prop) : Prop :=
  ∀ handle ∈ own.read ++ own.write, ∀ func dataKey dataValue, (handle func dataKey dataValue).Only P

theorem handles_keep (keys : ∀ s ∈ cfg.setting, s.key ≠ some "uuid" ∧ s.key ≠ some "area") (asks : OwnAsk own P) :
    ∀ handle ∈ readHandles js cfg errCode own ++ writeHandles js cfg errCode own,
      Keeps js session (fun command => Confined cfg session command ∨ P command) handle := by
  intro handle there
  have generated := @convertfuncHandle_keeps _ js cfg errCode session P keys
  simp only [readHandles, writeHandles, List.mem_append, List.mem_map] at there generated
  rcases there with (read | ⟨h, listed, rfl⟩) | write | ⟨h, listed, rfl⟩
  · exact generated handle (.inl read)
  · exact own_keeps (asks h (List.mem_append_left _ listed))
  · exact generated handle (.inr write)
  · exact own_keeps (asks h (List.mem_append_right _ listed))

theorem setDataValue_only (keys : ∀ s ∈ cfg.setting, s.key ≠ some "uuid" ∧ s.key ≠ some "area") (asks : OwnAsk own P)
    (func : FuncConfig) {dataKey : Props V} (names : Names js session dataKey) (handled : Handled V) :
    (setDataValue js cfg errCode own func dataKey handled).Only fun command => Confined cfg session command ∨ P command := by
  unfold setDataValue
  dsimp only
  split
  · obtain ⟨only, -⟩ := waterfall_keeps (fun handle there => handles_keep keys asks handle (List.mem_append_right _ there))
      func handled.dataValue names
    refine only.bind (Program.yields_true _) fun ending _ => ?_
    cases ending <;> trivial
  · trivial

theorem withSession_only (keys : ∀ s ∈ cfg.setting, s.key ≠ some "uuid" ∧ s.key ≠ some "area") (asks : OwnAsk own P)
    (handler : Handler V) (func : FuncConfig) (inArgs : Props V) :
    (withSession js cfg errCode own handler func inArgs session).Only fun command =>
      Confined cfg session command ∨ P command := by
  have names : Names js session (newDataKey (js.string session.area) (js.string session.uuid)) := ⟨rfl, rfl⟩
  unfold withSession serve
  obtain ⟨only, ended⟩ := waterfall_keeps (fun handle there => handles_keep keys asks handle (List.mem_append_left _ there))
    func (fun _ => none) (names.getSingleKey keys _)
  refine only.bind ended fun ending kept => ?_
  cases ending with
  | failed errCode => trivial
  | lost => trivial
  | completed dataKey dataValue =>
    unfold doLogic
    dsimp only
    split
    · trivial
    · rename_i handled _
      refine Program.only_forkAll _ (setDataValue_only keys asks func ?_ handled)
      split
      · exact (kept _ _ rfl).update ⟨by decide, by decide⟩ _
      · exact kept _ _ rfl

/-- The two handlers do the same when they are told the names of the session. -/
def Agree (js : Values V) (session : Session) (handler handler' : Handler V) : Prop :=
  ∀ dataValue inArgs dataKey, Names js session dataValue → Names js session inArgs →
    handler dataValue inArgs dataKey = handler' dataValue inArgs dataKey

theorem withSession_handler {handler handler' : Handler V} (agree : Agree js session handler handler') (func : FuncConfig)
    (inArgs : Props V) :
    withSession js cfg errCode own handler func inArgs session =
      withSession js cfg errCode own handler' func inArgs session := by
  unfold withSession serve
  dsimp only
  congr 1
  funext ending
  cases ending with
  | failed errCode => rfl
  | lost => rfl
  | completed dataKey dataValue =>
    have told : Names js session (Function.update (Function.update inArgs "uuid" (some (js.string session.uuid))) "area"
        (some (js.string session.area))) := ⟨rfl, rfl⟩
    generalize Function.update (Function.update inArgs "uuid" (some (js.string session.uuid))) "area"
      (some (js.string session.area)) = inArgs at told
    have data : Names js session (Function.update (Function.update dataValue "area" (inArgs "area")) "uuid"
        (inArgs "uuid")) := ⟨told.1, told.2⟩
    unfold doLogic
    dsimp only
    rw [agree _ _ dataKey data told]

theorem withSession_client (handler : Handler V) (func : FuncConfig) {inArgs inArgs' : Props V}
    (same : ∀ name, name ≠ "uuid" → name ≠ "area" → inArgs' name = inArgs name) :
    withSession js cfg errCode own handler func inArgs' session =
      withSession js cfg errCode own handler func inArgs session := by
  have told : Function.update (Function.update inArgs' "uuid" (some (js.string session.uuid))) "area"
      (some (js.string session.area)) =
      Function.update (Function.update inArgs "uuid" (some (js.string session.uuid))) "area"
        (some (js.string session.area)) := by
    funext name
    simp only [Function.update_apply]
    by_cases area : name = "area"
    · simp [area]
    · by_cases uuid : name = "uuid"
      · simp [uuid]
      · simp [area, uuid, same name uuid area]
  unfold withSession
  dsimp only
  rw [told]

/-- **Session confinement.** A request of a session-checked function looks its session up. From then on
its generated handles ask for entities of that session only, its handler is told that session's names
only, and what the client sent as its own names makes no difference to anything. -/
theorem session_confined (js : Values V) (errCode : String → Option Nat) (handler : Handler V) {funcName : String}
    {func : FuncConfig} (found : cfg.find funcName = some func) (checked : func.isSession = true)
    (keys : ∀ s ∈ cfg.setting, s.key ≠ some "uuid" ∧ s.key ≠ some "area") (asks : OwnAsk own P) (inArgs : Props V)
    (sessionId : String) :
    bindFunCallback js cfg errCode own handler funcName inArgs sessionId =
        .call (.read (.getSession sessionId)) (fun
          | .session session => withSession js cfg errCode own handler func inArgs session
          | _ => .done (some (.failure ErrCode.getSessionError))) ∧
      (∀ session, (withSession js cfg errCode own handler func inArgs session).Only fun command =>
        Confined cfg session command ∨ P command) ∧
      (∀ session handler', Agree js session handler handler' →
        withSession js cfg errCode own handler func inArgs session =
          withSession js cfg errCode own handler' func inArgs session) ∧
      ∀ inArgs' : Props V, (∀ name, name ≠ "uuid" → name ≠ "area" → inArgs' name = inArgs name) →
        ∀ (store : Store V) others events,
          run agentStep (Pool.init store (bindFunCallback js cfg errCode own handler funcName inArgs' sessionId :: others)) events =
            run agentStep (Pool.init store (bindFunCallback js cfg errCode own handler funcName inArgs sessionId :: others)) events := by
  have request : ∀ inArgs, bindFunCallback js cfg errCode own handler funcName inArgs sessionId =
      .call (.read (.getSession sessionId)) (fun
        | .session session => withSession js cfg errCode own handler func inArgs session
        | _ => .done (some (.failure ErrCode.getSessionError))) := by
    intro inArgs
    simp only [bindFunCallback, found, checked, if_true, Program.bind_request]
    congr 1
  refine ⟨request inArgs, fun session => withSession_only keys asks handler func inArgs,
    fun session handler' agree => withSession_handler agree func inArgs, fun inArgs' same store others events => ?_⟩
  have equal : bindFunCallback js cfg errCode own handler funcName inArgs' sessionId =
      bindFunCallback js cfg errCode own handler funcName inArgs sessionId := by
    rw [request, request]
    congr 1
    funext reply
    cases reply with
    | session session => exact withSession_client handler func same
    | _ => rfl
  rw [equal]

end

/-- The values the shipped handlers work on. -/
def values : Values Value where
  string := .text
  text
    | .num n => toString n
    | .text s => s
    | _ => "[object Object]"
  truthy := Value.truthy
  own part value := some (value.property part)
  hash readData := .hash (readData.entries.map fun e => (e.1, e.2))
  dataValue := .hash []
  text_string _ := rfl

def upgradeHeroQuality : FuncConfig :=
  ⟨"upgradeHeroQuality", true, [⟨"HeroInfo", true, true, none⟩, ⟨"BagList", true, true, none⟩, ⟨"PvpDay", true, false, none⟩]⟩

/-- Heroes, the bag, and the tournament of the area. -/
def threeEntities : DataConfig Value where
  setting := [⟨"HeroInfo", .hashPersonal, some "hero", some "heroId", none⟩, ⟨"BagList", .personal, some "bag", none, none⟩,
    ⟨"PvpDay", .area, some "pvpday", none, none⟩]
  funcs := [upgradeHeroQuality]

/-- The client names a player of another area. -/
def forged : Props Value := fun name =>
  if name = "heroId" then some (.text "101")
  else if name = "uuid" then some (.text "victim")
  else if name = "area" then some (.text "2") else none

theorem session_confined_forged :
    (withSession values threeEntities (fun _ => some 2002) ⟨[], []⟩
        (fun dataValue _ _ => some ⟨none, [], dataValue, none, []⟩) upgradeHeroQuality forged ⟨"1", "player"⟩).Only
      fun command => Confined threeEntities ⟨"1", "player"⟩ command ∨ False :=
  (session_confined values (fun _ => some 2002) (fun dataValue _ _ => some ⟨none, [], dataValue, none, []⟩)
    (show threeEntities.find "upgradeHeroQuality" = some upgradeHeroQuality from rfl) rfl (by decide)
    (fun _ there => absurd there List.not_mem_nil) forged "s1").2.1 ⟨"1", "player"⟩

end Tinygame.AnyConfig
