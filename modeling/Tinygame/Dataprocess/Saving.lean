import Tinygame.Base.Lookup
import Tinygame.Dataprocess.Confinement
import Tinygame.Pvp.EnrollDay

/-!
# What a request saves

The last stage of a request stores the entities one after another and stops at the first that fails. There
is no way back: what was stored before stays stored.
-/

namespace Tinygame.AnyConfig
open Redis

/-! ### The agent's own handles -/

def baseInfo? (dataValue : Props Value) : Option BaseInfo :=
  match dataValue "baseInfo" with
  | some (.baseInfo baseInfo) => some baseInfo
  | _ => none

section
variable (js : Values Value) (cfg : DataConfig Value) (errCode : String → Option Nat)

/-- A method that is made for a setting of the config. -/
def settingMethod (dataKey : Props Value) (action name : String) (answer : Bool) : Option Bool :=
  if cfg.setting.any (·.name = name) then method dataKey (action ++ name) answer else none

def getPvpSng (matching : BaseInfo → Query (Option Value)) : OwnHandle Value := fun func dataKey dataValue =>
  match settingMethod cfg dataKey "r" "PvpSng" (func.reads "PvpSng"), baseInfo? dataValue with
  | none, _ => return none
  | some true, some baseInfo => do
    match ← (matching baseInfo).work with
    | some pvpSng => return some (.ok (Function.update dataValue "pvpSng" (some pvpSng)))
    | none => return some (.error (errCode "DATA_GET_PVPSNG_ERROR"))
  | _, _ => return some (.ok dataValue)

def getTeamHeroList : OwnHandle Value := fun func dataKey dataValue =>
  match settingMethod cfg dataKey "r" "TeamHeroList" (func.reads "TeamHeroList"), baseInfo? dataValue with
  | none, _ => return none
  | some true, some baseInfo => do
    let heroIds := getHeroIdsFromPosList baseInfo.posList
    match ← Program.request (.read (.hmget (redisKeyGen (spell js dataKey "area") (spell js dataKey "uuid") "hero") heroIds)) with
    | .values data => return some (.ok (Function.update dataValue "teamHeroList" (some (teamHeroList baseInfo data))))
    | _ => return some (.error (errCode "DATA_GET_TEAMHEROLIST_ERROR"))
  | _, _ => return some (.ok dataValue)

/-- The agent's `setPvpSng`. -/
def storePvpSng : OwnHandle Value := fun func dataKey dataValue =>
  match settingMethod cfg dataKey "w" "PvpSng" (func.writes "PvpSng"), baseInfo? dataValue with
  | none, _ => return none
  | some true, some baseInfo => do
    if ← setPvpSng baseInfo then return some (.ok dataValue)
    else return some (.error (errCode "DATA_SET_PVPSNG_ERROR"))
  | _, _ => return some (.ok dataValue)

def storingTeam (dataKey : Props Value) (team : Value) : Write Value :=
  .hmset (redisKeyGen (spell js dataKey "area") (spell js dataKey "uuid") "hero") (heroInfoList team)

/-- There is no `DATA_SET_TEAMHEROLIST_ERROR` in the shipped table. -/
def setTeamHeroList : OwnHandle Value := fun func dataKey dataValue =>
  match settingMethod cfg dataKey "w" "TeamHeroList" (func.writes "TeamHeroList"),
      (dataValue "teamHeroList").filter js.truthy with
  | none, _ => return none
  | some true, some team => do
    match ← Program.request (.write (storingTeam js dataKey team)) with
    | .ok => return some (.ok dataValue)
    | _ => return some (.error (errCode "DATA_SET_TEAMHEROLIST_ERROR"))
  | _, _ => return some (.ok dataValue)

def agentHandles (matching : BaseInfo → Query (Option Value)) : OwnHandles Value where
  read := [getPvpSng cfg errCode matching, getTeamHeroList js cfg errCode]
  write := [storePvpSng cfg errCode, setTeamHeroList js cfg errCode]

/-! ### The jobs of the last stage -/

/-- One thing the last stage does. -/
inductive Task where
  | entity (command : Write Value)
  | power (baseInfo : BaseInfo)
  | throws

/-- A task, with the code its failure is told with. -/
structure Job where
  task : Task
  errCode : Option Nat

def entityJob (func : FuncConfig) (dataKey dataValue : Props Value) (s : Setting Value) : Option Job :=
  match genKey js s dataKey, method dataKey ("w" ++ s.name) (func.writes s.name) with
  | some thisKey, some true => ((dataValue s.valueName).filter js.truthy).map fun value =>
      ⟨.entity (storing js s thisKey dataKey value), errorCode errCode "DATA_SET_" s⟩
  | some _, some false => none
  | _, _ => some ⟨.throws, none⟩

def powerJob (func : FuncConfig) (dataKey dataValue : Props Value) : Option Job :=
  match settingMethod cfg dataKey "w" "PvpSng" (func.writes "PvpSng"), baseInfo? dataValue with
  | none, _ => some ⟨.throws, none⟩
  | some true, some baseInfo => some ⟨.power baseInfo, errCode "DATA_SET_PVPSNG_ERROR"⟩
  | _, _ => none

def teamJob (func : FuncConfig) (dataKey dataValue : Props Value) : Option Job :=
  match settingMethod cfg dataKey "w" "TeamHeroList" (func.writes "TeamHeroList"),
      (dataValue "teamHeroList").filter js.truthy with
  | none, _ => some ⟨.throws, none⟩
  | some true, some team => some ⟨.entity (storingTeam js dataKey team), errCode "DATA_SET_TEAMHEROLIST_ERROR"⟩
  | _, _ => none

/-- The entities of this kind have a write handle. -/
def Setting.stores (s : Setting Value) : Bool := s.kind ≠ .writeYourself && s.kind ≠ .hashAllPersonal

/-- The settings in the order of their write handles. -/
def saveOrder (settings : List (Setting Value)) : List (Setting Value) :=
  (settings.filter fun s => s.stores && s.key.isNone).reverse ++ settings.filter fun s => s.stores && s.key.isSome

/-- The jobs of a function, in their order. -/
def jobs (func : FuncConfig) (dataKey dataValue : Props Value) : List Job :=
  (saveOrder cfg.setting).filterMap (entityJob js errCode func dataKey dataValue) ++
    ([powerJob cfg errCode func dataKey dataValue, teamJob js cfg errCode func dataKey dataValue].filterMap id)

end

/-- The write a task makes; what the power index holds is found when it is done. -/
def Task.Wrote : Task → Write Value → Prop
  | .entity command, made => made = command
  | .power baseInfo, made => ∃ data, made = .hset powerKey (toString (getPowerId baseInfo.power))
      (.power (lruSet baseInfo.userArea (dataMap (getPowerId baseInfo.power) data)))
  | .throws, _ => False

/-- The command came to nothing. -/
def Failed : Command Value × Reply Value → Prop
  | (.write _, reply) => reply ≠ .ok
  | (.read _, reply) => ∀ data, reply ≠ .value data

/-! ### A job is done whole or leaves nothing -/

/-- `false` is a failure. -/
def Task.work : Task → Work Value Bool
  | .entity command => do
    match ← Program.request (.write command) with
    | .ok => return true
    | _ => return false
  | .power baseInfo => setPvpSng baseInfo
  | .throws => return false

/-- What the handle of a job does. -/
def handleJob (dataKey dataValue : Props Value) : Option Job → Work Value (Outcome Value)
  | none => return some (.ok (dataKey, dataValue))
  | some ⟨.throws, _⟩ => return none
  | some job => do
    if ← job.task.work then return some (.ok (dataKey, dataValue)) else return some (.error job.errCode)

theorem task_done {task : Task} {trace : List (Command Value × Reply Value)} {good : Bool}
    (follows : Program.Follows task.work trace (.done good)) :
    (good = true → ∃ made, task.Wrote made ∧ Redis.writes trace = [made]) ∧
      (good = false → Redis.writes trace = [] ∧ (task = .throws ∨ ∃ last, trace.getLast? = some last ∧ Failed last)) := by
  cases task with
  | throws =>
    obtain ⟨rfl, same⟩ := Program.follows_done follows
    cases same
    simp
  | entity command =>
    obtain ⟨reply, rest, rfl, later⟩ := Program.follows_call follows
    cases reply with
    | ok =>
      obtain ⟨rfl, same⟩ := Program.follows_done later
      cases same
      simp [Task.Wrote]
    | _ =>
      obtain ⟨rfl, same⟩ := Program.follows_done later
      cases same
      simp [Redis.writes, written?, Failed]
  | power baseInfo =>
    obtain ⟨reply, rest, rfl, later⟩ := Program.follows_call follows
    cases reply with
    | value data =>
      obtain ⟨reply, rest, rfl, last⟩ := Program.follows_call later
      cases reply with
      | ok =>
        obtain ⟨rfl, same⟩ := Program.follows_done last
        cases same
        exact ⟨fun _ => ⟨_, ⟨data, rfl⟩, rfl⟩, fun bad => by cases bad⟩
      | _ =>
        obtain ⟨rfl, same⟩ := Program.follows_done last
        cases same
        simp [Redis.writes, written?, Failed]
    | _ =>
      obtain ⟨rfl, same⟩ := Program.follows_done later
      cases same
      simp [Redis.writes, written?, Failed]

section
variable {js : Values Value} {cfg : DataConfig Value} {errCode : String → Option Nat} {func : FuncConfig}
  {dataKey dataValue : Props Value}

theorem bindWriteFuncHandle_job (s : Setting Value) : bindWriteFuncHandle js errCode s func dataKey dataValue =
    handleJob dataKey dataValue (entityJob js errCode func dataKey dataValue s) := by
  unfold bindWriteFuncHandle entityJob
  cases genKey js s dataKey with
  | none => rfl
  | some thisKey =>
    cases method dataKey ("w" ++ s.name) (func.writes s.name) with
    | none => rfl
    | some writes =>
      cases writes with
      | false => rfl
      | true =>
        dsimp only
        cases (dataValue s.valueName).filter js.truthy with
        | none => rfl
        | some value =>
          simp only [handleJob, Option.map_some, Task.work, Program.bind_request, Program.bind_call]
          congr 1
          funext reply
          cases reply <;> rfl

theorem storePvpSng_job : (storePvpSng cfg errCode).handle func dataKey dataValue =
    handleJob dataKey dataValue (powerJob cfg errCode func dataKey dataValue) := by
  unfold OwnHandle.handle storePvpSng powerJob
  split
  · rfl
  · simp only [handleJob, Task.work, setPvpSng, updatePower, Program.bind_request, Program.bind_call]
    congr 1
    funext reply
    cases reply with
    | value data =>
      simp only [Program.bind_call]
      congr 1
      funext reply
      cases reply <;> rfl
    | _ => rfl
  · rfl

theorem setTeamHeroList_job : (setTeamHeroList js cfg errCode).handle func dataKey dataValue =
    handleJob dataKey dataValue (teamJob js cfg errCode func dataKey dataValue) := by
  unfold OwnHandle.handle setTeamHeroList teamJob
  split
  · rfl
  · simp only [handleJob, Task.work, Program.bind_request, Program.bind_call]
    congr 1
    funext reply
    cases reply <;> rfl
  · rfl

theorem handleJob_done {job : Job} {trace : List (Command Value × Reply Value)} {outcome : Outcome Value}
    (follows : Program.Follows (handleJob dataKey dataValue (some job)) trace (.done outcome)) :
    (∃ made, job.task.Wrote made ∧ Redis.writes trace = [made] ∧ outcome = some (.ok (dataKey, dataValue))) ∨
      Redis.writes trace = [] ∧ ((job.task = .throws ∧ outcome = none) ∨
        ((∃ last, trace.getLast? = some last ∧ Failed last) ∧ outcome = some (.error job.errCode))) := by
  obtain ⟨task, errCode⟩ := job
  have working : task = .throws ∧ trace = [] ∧ outcome = none ∨ task ≠ .throws ∧
      Program.Follows (task.work >>= fun good => pure (if good then some (.ok (dataKey, dataValue)) else some (.error errCode)))
        trace (.done outcome) := by
    cases task with
    | throws =>
      obtain ⟨rfl, same⟩ := Program.follows_done follows
      cases same
      exact .inl ⟨rfl, rfl, rfl⟩
    | _ =>
      refine .inr ⟨by simp, ?_⟩
      simpa only [handleJob, ← apply_ite pure] using follows
  rcases working with ⟨rfl, rfl, rfl⟩ | ⟨works, follows⟩
  · exact .inr ⟨rfl, .inl ⟨rfl, rfl⟩⟩
  · obtain ⟨good, first, second, rfl, start, later⟩ := Program.follows_bind follows
    obtain ⟨rfl, same⟩ := Program.follows_done later
    cases same
    rw [List.append_nil]
    obtain ⟨well, badly⟩ := task_done start
    cases good with
    | true =>
      obtain ⟨made, wrote, only⟩ := well rfl
      exact .inl ⟨made, wrote, only, rfl⟩
    | false =>
      obtain ⟨nothing, throws | last⟩ := badly rfl
      · exact absurd throws works
      · exact .inr ⟨nothing, .inr ⟨last, rfl⟩⟩

/-- The handles do these jobs; `none` is a handle with nothing to do. -/
def Does (func : FuncConfig) (dataKey dataValue : Props Value) (handles : List (Handle Value)) (todo : List (Option Job)) : Prop :=
  List.Forall₂ (fun handle job => handle func dataKey dataValue = handleJob dataKey dataValue job) handles todo

/-- How a stage ends that leaves these jobs. -/
def EndsWith (trace : List (Command Value × Reply Value)) (dataKey dataValue : Props Value) (ending : Ending Value) : List Job → Prop
  | [] => ending = .completed dataKey dataValue
  | job :: _ => (job.task = .throws ∧ ending = .lost) ∨
      ((∃ last, trace.getLast? = some last ∧ Failed last) ∧
        ∀ errCode, job.errCode = some errCode → ending = .failed errCode)

theorem EndsWith.append {first second : List (Command Value × Reply Value)} {ending : Ending Value} {left : List Job}
    (ends : EndsWith second dataKey dataValue ending left) : EndsWith (first ++ second) dataKey dataValue ending left := by
  cases left with
  | nil => exact ends
  | cons job later =>
    rcases ends with throws | ⟨⟨last, found, failed⟩, code⟩
    · exact .inl throws
    · refine .inr ⟨⟨last, ?_, failed⟩, code⟩
      rw [List.getLast?_append, found]
      rfl

/-- The jobs are done in their order, up to the first that fails. -/
theorem waterfall_jobs {handles : List (Handle Value)} {todo : List (Option Job)} (does : Does func dataKey dataValue handles todo)
    {trace : List (Command Value × Reply Value)} {ending : Ending Value}
    (follows : Program.Follows (waterfall func handles dataKey dataValue) trace (.done ending)) :
    ∃ saved left, todo.filterMap id = saved ++ left ∧
      List.Forall₂ (fun job made => job.task.Wrote made) saved (Redis.writes trace) ∧
      EndsWith trace dataKey dataValue ending left := by
  induction does generalizing trace with
  | nil =>
    obtain ⟨rfl, same⟩ := Program.follows_done follows
    cases same
    exact ⟨[], [], rfl, .nil, rfl⟩
  | @cons handle job rest todo does _ ih =>
    unfold waterfall at follows
    rw [does] at follows
    cases job with
    | none =>
      obtain ⟨saved, left, split, made, ends⟩ := ih follows
      exact ⟨saved, left, split, made, ends⟩
    | some job =>
      obtain ⟨outcome, first, second, rfl, start, later⟩ := Program.follows_bind follows
      rw [Redis.writes_append]
      rcases handleJob_done start with ⟨made, wrote, only, rfl⟩ | ⟨nothing, ⟨throws, rfl⟩ | ⟨last, rfl⟩⟩
      · obtain ⟨saved, left, split, all, ends⟩ := ih later
        refine ⟨job :: saved, left, congrArg (job :: ·) split, ?_, ends.append⟩
        · rw [only]
          exact .cons wrote all
      · obtain ⟨rfl, same⟩ := Program.follows_done later
        cases same
        refine ⟨[], job :: todo.filterMap id, rfl, ?_, .inl ⟨throws, rfl⟩⟩
        rw [nothing]
        exact .nil
      · have told : second = [] ∧ ∀ errCode, job.errCode = some errCode → ending = .failed errCode := by
          cases code : job.errCode with
          | some errCode =>
            rw [code] at later
            obtain ⟨rfl, same⟩ := Program.follows_done later
            cases same
            simp
          | none =>
            rw [code] at later
            dsimp only at later
            split at later
            all_goals
              obtain ⟨rfl, -⟩ := Program.follows_done later
              simp
        obtain ⟨rfl, code⟩ := told
        refine ⟨[], job :: todo.filterMap id, rfl, ?_, .inr ⟨?_, code⟩⟩
        · rw [nothing]
          exact .nil
        · rwa [List.append_nil]

/-- The write handles stand in the order of `saveOrder`. -/
theorem convertfuncHandle_writes (js : Values Value) (cfg : DataConfig Value) (errCode : String → Option Nat) :
    (convertfuncHandle js cfg errCode).2 = (saveOrder cfg.setting).map (bindWriteFuncHandle js errCode) := by
  let placed (settings : List (Setting Value)) (handles after : List (Handle Value) × List (Handle Value)) : Prop :=
    after.2 = (settings.filter fun s => s.stores && s.key.isNone).reverse.map (bindWriteFuncHandle js errCode) ++
      handles.2 ++ (settings.filter fun s => s.stores && s.key.isSome).map (bindWriteFuncHandle js errCode)
  suffices all : ∀ settings handles, placed settings handles (settings.foldl _ handles) from
    (all cfg.setting ([], [])).trans (by simp [saveOrder])
  intro settings
  induction settings with
  | nil =>
    intro handles
    simp [placed]
  | cons s rest ih =>
    intro handles
    refine (ih _).trans ?_
    dsimp only
    split
    · rename_i kind
      simp [Setting.stores, kind]
    · rename_i kind
      simp [Setting.stores, kind]
    · rename_i own all
      have stores : s.stores = true := by
        simp only [Setting.stores, ne_eq, Bool.and_eq_true, decide_eq_true_eq]
        exact ⟨own, all⟩
      split
      · rename_i key named
        simp [stores, named]
      · rename_i plain
        simp [stores, plain]

theorem writeHandles_does (js : Values Value) (cfg : DataConfig Value) (errCode : String → Option Nat)
    (matching : BaseInfo → Query (Option Value)) (func : FuncConfig) (dataKey dataValue : Props Value) :
    Does func dataKey dataValue (writeHandles js cfg errCode (agentHandles js cfg errCode matching))
      ((saveOrder cfg.setting).map (entityJob js errCode func dataKey dataValue) ++
        [powerJob cfg errCode func dataKey dataValue, teamJob js cfg errCode func dataKey dataValue]) := by
  unfold writeHandles
  rw [convertfuncHandle_writes]
  apply List.rel_append
  · rw [List.forall₂_map_left_iff, List.forall₂_map_right_iff, List.forall₂_same]
    intro s _
    exact bindWriteFuncHandle_job s
  · exact .cons storePvpSng_job (.cons setTeamHeroList_job .nil)

/-! ### Until then nothing is stored -/

/-- The program only reads. -/
def Reads {α : Type} (p : Work Value α) : Prop := p.Only fun command => ∃ read, command = .read read

theorem writes_of_reads {α : Type} {p q : Work Value α} {trace : List (Command Value × Reply Value)}
    (follows : p.Follows trace q) (reads : Reads p) : Redis.writes trace = [] := by
  apply List.filterMap_eq_nil_iff.mpr
  intro entry there
  obtain ⟨read, same⟩ := follows.only reads entry there
  obtain ⟨command, reply⟩ := entry
  subst same
  cases reply <;> rfl

theorem query_reads {α : Type} (query : Query α) : Reads query.work := by
  induction query with
  | done result => trivial
  | call command next ih => exact ⟨⟨command, rfl⟩, ih⟩
  | fork job next => exact job.elim

theorem reads_bind {α β : Type} {p : Work Value α} {rest : α → Work Value β} (reads : Reads p)
    (later : ∀ result, Reads (rest result)) : Reads (p >>= rest) :=
  Program.Only.bind reads (Program.yields_true p) fun result _ => later result

/-- The code comes from the table. -/
def Listed (errCode : String → Option Nat) (code : Nat) : Prop := ∃ name, errCode name = some code

/-- The handle only reads, and its codes are those of the table. -/
def ReadHandle (errCode : String → Option Nat) (handle : Handle Value) : Prop :=
  ∀ func dataKey dataValue, Reads (handle func dataKey dataValue) ∧
    (handle func dataKey dataValue).Yields fun outcome => ∀ code, outcome = some (.error (some code)) → Listed errCode code

theorem errorCode_listed {action : String} {s : Setting Value} {code : Nat}
    (told : errorCode errCode action s = some code) : Listed errCode code := ⟨_, told⟩

theorem bindReadFuncHandleGet_reads (s : Setting Value) : ReadHandle errCode (bindReadFuncHandleGet js errCode s) := by
  intro func dataKey dataValue
  unfold bindReadFuncHandleGet
  split
  · apply And.intro
    · exact ⟨⟨_, rfl⟩, fun _ => trivial⟩
    · intro reply code same
      have told := Option.some.inj same
      split at told
      · split at told
        · cases told
        · exact errorCode_listed (Except.error.inj told)
      · exact errorCode_listed (Except.error.inj told)
  · exact ⟨trivial, fun code same => by cases same⟩
  · exact ⟨trivial, fun code same => by cases same⟩

theorem bindReadFuncHandleHget_reads (s : Setting Value) (key : String) :
    ReadHandle errCode (bindReadFuncHandleHget js cfg errCode s key) := by
  intro func dataKey dataValue
  unfold bindReadFuncHandleHget
  split
  · split
    · exact ⟨trivial, fun code same => by cases same⟩
    · apply And.intro
      · exact ⟨⟨_, rfl⟩, fun _ => trivial⟩
      · intro reply code same
        have told := Option.some.inj same
        split at told
        · cases told
        · cases told
        · exact errorCode_listed (Except.error.inj told)
  · exact ⟨trivial, fun code same => by cases same⟩
  · exact ⟨trivial, fun code same => by cases same⟩

theorem bindReadFuncHandleHall_reads (s : Setting Value) : ReadHandle errCode (bindReadFuncHandleHall js errCode s) := by
  intro func dataKey dataValue
  unfold bindReadFuncHandleHall
  split
  · apply And.intro
    · exact ⟨⟨_, rfl⟩, fun _ => trivial⟩
    · intro reply code same
      have told := Option.some.inj same
      split at told
      · cases told
      · exact errorCode_listed (Except.error.inj told)
  · exact ⟨trivial, fun code same => by cases same⟩
  · exact ⟨trivial, fun code same => by cases same⟩

/-- A handle behind the generated ones. -/
theorem own_reads {own : OwnHandle Value}
    (reads : ∀ func dataKey dataValue, Reads (own func dataKey dataValue) ∧
      (own func dataKey dataValue).Yields fun outcome => ∀ code, outcome = some (.error (some code)) → Listed errCode code) :
    ReadHandle errCode own.handle := by
  intro func dataKey dataValue
  obtain ⟨only, coded⟩ := reads func dataKey dataValue
  apply And.intro
  · exact reads_bind only fun _ => trivial
  · apply coded.bind
    rintro (_ | error | dataValue) coded code same
    · cases same
    · cases same
      exact coded code rfl
    · cases same

theorem getPvpSng_reads (matching : BaseInfo → Query (Option Value)) :
    ReadHandle errCode (getPvpSng cfg errCode matching).handle := by
  apply own_reads
  intro func dataKey dataValue
  unfold getPvpSng
  split
  · exact ⟨trivial, fun code same => by cases same⟩
  · apply And.intro
    · apply reads_bind (query_reads _)
      intro pvpSng
      cases pvpSng <;> trivial
    · apply (Program.yields_true _).bind
      intro pvpSng _
      cases pvpSng with
      | none => exact fun code same => ⟨_, Except.error.inj (Option.some.inj same)⟩
      | some pvpSng => exact fun code same => by cases same
  · exact ⟨trivial, fun code same => by cases same⟩

theorem getTeamHeroList_reads : ReadHandle errCode (getTeamHeroList js cfg errCode).handle := by
  apply own_reads
  intro func dataKey dataValue
  unfold getTeamHeroList
  split
  · exact ⟨trivial, fun code same => by cases same⟩
  · apply And.intro
    · refine ⟨⟨_, rfl⟩, fun reply => ?_⟩
      cases reply <;> trivial
    · intro reply
      cases reply with
      | values data => exact fun code same => by cases same
      | _ => exact fun code same => ⟨_, Except.error.inj (Option.some.inj same)⟩
  · exact ⟨trivial, fun code same => by cases same⟩

theorem convertfuncHandle_reads (js : Values Value) (cfg : DataConfig Value) (errCode : String → Option Nat) :
    ∀ handle ∈ (convertfuncHandle js cfg errCode).1, ReadHandle errCode handle := by
  let good (handles : List (Handle Value) × List (Handle Value)) : Prop := ∀ handle ∈ handles.1, ReadHandle errCode handle
  suffices kept : ∀ (settings : List (Setting Value)) handles, good handles → good (settings.foldl _ handles) from
    kept cfg.setting ([], []) fun _ there => absurd there List.not_mem_nil
  intro settings
  induction settings with
  | nil => exact fun _ kept => kept
  | cons s rest ih =>
    intro handles kept
    apply ih
    intro handle there
    dsimp only at there
    split at there
    · exact kept handle there
    · rcases List.mem_append.mp there with old | new
      · exact kept handle old
      · rw [List.mem_singleton.mp new]
        exact bindReadFuncHandleHall_reads s
    · split at there
      · rename_i key _
        rcases List.mem_append.mp there with old | new
        · exact kept handle old
        · rw [List.mem_singleton.mp new]
          exact bindReadFuncHandleHget_reads s key
      · rcases List.mem_cons.mp there with rfl | old
        · exact bindReadFuncHandleGet_reads s
        · exact kept handle old

theorem readHandles_read (js : Values Value) (cfg : DataConfig Value) (errCode : String → Option Nat)
    (matching : BaseInfo → Query (Option Value)) :
    ∀ handle ∈ readHandles js cfg errCode (agentHandles js cfg errCode matching), ReadHandle errCode handle := by
  intro handle there
  simp only [readHandles, agentHandles, List.map_cons, List.map_nil, List.mem_append, List.mem_cons, List.not_mem_nil,
    or_false] at there
  rcases there with generated | rfl | rfl
  · exact convertfuncHandle_reads js cfg errCode handle generated
  · exact getPvpSng_reads matching
  · exact getTeamHeroList_reads

theorem waterfall_reads {handles : List (Handle Value)} (reads : ∀ handle ∈ handles, ReadHandle errCode handle)
    (dataKey dataValue : Props Value) : Reads (waterfall func handles dataKey dataValue) ∧
      (waterfall func handles dataKey dataValue).Yields fun ending => ∀ code, ending = .failed code → Listed errCode code := by
  induction handles generalizing dataKey dataValue with
  | nil => exact ⟨trivial, fun code same => by cases same⟩
  | cons handle rest ih =>
    obtain ⟨first, later⟩ := List.forall_mem_cons.mp reads
    obtain ⟨only, coded⟩ := first func dataKey dataValue
    apply And.intro
    · apply reads_bind only
      rintro (_ | (_ | errCode) | ⟨dataKey, dataValue⟩)
      · trivial
      · dsimp only
        split <;> trivial
      · trivial
      · exact (ih later dataKey dataValue).1
    · apply coded.bind
      rintro (_ | (_ | errCode) | ⟨dataKey, dataValue⟩) coded
      · exact fun code same => by cases same
      · dsimp only
        split
        · exact fun code same => by cases same
        · exact fun code same => by cases same
      · exact fun code same => by cases same; exact coded _ rfl
      · exact (ih later dataKey dataValue).2

end

/-! ### What becomes of a request -/

section
variable (js : Values Value) (cfg : DataConfig Value) (errCode : String → Option Nat)

/-- The request has stored nothing, and is told so if it is told anything. -/
def Refused (trace : List (Command Value × Reply Value)) (response : Option (Response Value)) : Prop :=
  Redis.writes trace = [] ∧ ∀ answer, response = some answer → ¬ ErrCode.passes answer.retCode

/-- What the function writes of this data is among the writes. -/
def AllStored (func : FuncConfig) (dataKey dataValue : Props Value) (made : List (Write Value)) : Prop :=
  (∀ s ∈ cfg.setting, s.stores = true → func.writes s.name = true → ∀ value, (dataValue s.valueName).filter js.truthy = some value →
    ∃ thisKey, genKey js s dataKey = some thisKey ∧ storing js s thisKey dataKey value ∈ made) ∧
  (func.writes "PvpSng" = true → ∀ baseInfo, baseInfo? dataValue = some baseInfo →
    ∃ command ∈ made, (Task.power baseInfo).Wrote command) ∧
  (func.writes "TeamHeroList" = true → ∀ team, (dataValue "teamHeroList").filter js.truthy = some team →
    storingTeam js dataKey team ∈ made)

/-- The jobs of the request have been done in their order, each whole, up to the first that failed. With none
left everything is stored and the handler's answer goes out. With one left the request's last command is one that
failed, and the code of the job goes out. -/
def Saved (func : FuncConfig) (dataKey : Props Value) (handled : Handled Value) (trace : List (Command Value × Reply Value))
    (response : Option (Response Value)) : Prop :=
  ∃ saved left, jobs js cfg errCode func dataKey handled.dataValue = saved ++ left ∧
    List.Forall₂ (fun job made => job.task.Wrote made) saved (Redis.writes trace) ∧
    (left = [] → response = some ⟨handled.retCode.getD ErrCode.success, handled.outArgs⟩ ∧
      AllStored js cfg func dataKey handled.dataValue (Redis.writes trace)) ∧
    ∀ job later, left = job :: later → (job.task = .throws ∧ response = none) ∨
      ((∃ last, trace.getLast? = some last ∧ Failed last) ∧
        ∀ errCode, job.errCode = some errCode → response = some (.failure errCode))

/-- The data key of the last stage. -/
def Handled.keyed (handled : Handled Value) (dataKey : Props Value) : Props Value :=
  match handled.heroId with
  | some heroId => Function.update dataKey "heroId" (some heroId)
  | none => dataKey

/-- The handler let the request go on, and this is what came of it. -/
def Went (handler : Handler Value) (func : FuncConfig) (trace : List (Command Value × Reply Value))
    (response : Option (Response Value)) : Prop :=
  ∃ dataValue inArgs dataKey handled, handler dataValue inArgs dataKey = some handled ∧
    ErrCode.passes (handled.retCode.getD ErrCode.success) ∧
      Saved js cfg errCode func (handled.keyed dataKey) handled trace response

end

section
variable {js : Values Value} {cfg : DataConfig Value} {errCode : String → Option Nat} {handler : Handler Value}
  {func : FuncConfig} {dataKey dataValue : Props Value} {handled : Handled Value}
  {first trace : List (Command Value × Reply Value)} {response : Option (Response Value)}

/-! What a request asked before it came to its jobs. -/

theorem Refused.append (nothing : Redis.writes first = []) (refused : Refused trace response) :
    Refused (first ++ trace) response := by
  apply And.intro
  · rw [Redis.writes_append, nothing, refused.1, List.append_nil]
  · exact refused.2

theorem Saved.append (nothing : Redis.writes first = []) (stored : Saved js cfg errCode func dataKey handled trace response) :
    Saved js cfg errCode func dataKey handled (first ++ trace) response := by
  have same : Redis.writes (first ++ trace) = Redis.writes trace := by
    rw [Redis.writes_append, nothing, List.nil_append]
  obtain ⟨saved, left, split, made, all, stopped⟩ := stored
  unfold Saved
  rw [same]
  refine ⟨saved, left, split, made, all, fun job later there => ?_⟩
  rcases stopped job later there with throws | ⟨⟨last, found, failed⟩, code⟩
  · exact .inl throws
  · refine .inr ⟨⟨last, ?_, failed⟩, code⟩
    rw [List.getLast?_append, found]
    rfl

theorem Went.append (nothing : Redis.writes first = []) (went : Went js cfg errCode handler func trace response) :
    Went js cfg errCode handler func (first ++ trace) response := by
  obtain ⟨dataValue, inArgs, dataKey, handled, ran, passes, stored⟩ := went
  exact ⟨dataValue, inArgs, dataKey, handled, ran, passes, stored.append nothing⟩

/-! With no job left everything is stored. -/

theorem wrote_of_mem {saved : List Job} {made : List (Write Value)} {job : Job}
    (wrote : List.Forall₂ (fun job made => job.task.Wrote made) saved made) (there : job ∈ saved) :
    ∃ command ∈ made, job.task.Wrote command := by
  obtain ⟨k, short, rfl⟩ := List.getElem_of_mem there
  have short' : k < made.length := wrote.length_eq ▸ short
  exact ⟨made[k], List.getElem_mem short', wrote.get short short'⟩

theorem mem_saveOrder {s : Setting Value} {settings : List (Setting Value)} (there : s ∈ settings) (stores : s.stores = true) :
    s ∈ saveOrder settings := by
  unfold saveOrder
  cases plain : s.key with
  | none => simp [there, stores, plain]
  | some key => simp [there, stores, plain]

/-- No handle that throws is among the jobs that are done. -/
theorem throws_not_done {saved : List Job} {made : List (Write Value)} {errCode : Option Nat}
    (wrote : List.Forall₂ (fun job made => job.task.Wrote made) saved made) : (⟨.throws, errCode⟩ : Job) ∉ saved := by
  intro there
  obtain ⟨command, -, impossible⟩ := wrote_of_mem wrote there
  exact impossible

theorem method_true (dataKey : Props Value) (name : String) : method dataKey name true = none ∨ method dataKey name true = some true := by
  unfold method
  split <;> simp

theorem settingMethod_true (dataKey : Props Value) (action name : String) :
    settingMethod cfg dataKey action name true = none ∨ settingMethod cfg dataKey action name true = some true := by
  unfold settingMethod
  split
  · exact method_true dataKey _
  · exact .inl rfl

theorem all_stored {made : List (Write Value)}
    (wrote : List.Forall₂ (fun job made => job.task.Wrote made) (jobs js cfg errCode func dataKey dataValue) made) :
    AllStored js cfg func dataKey dataValue made := by
  have own : ∀ job, powerJob cfg errCode func dataKey dataValue = some job ∨ teamJob js cfg errCode func dataKey dataValue = some job →
      job ∈ jobs js cfg errCode func dataKey dataValue := by
    rintro job (power | team)
    · simp [jobs, power]
    · simp [jobs, team]
  refine ⟨?_, ?_, ?_⟩
  · intro s there stores on value left
    have listed : ∀ job, entityJob js errCode func dataKey dataValue s = some job →
        job ∈ jobs js cfg errCode func dataKey dataValue := by
      intro job found
      exact List.mem_append_left _ (List.mem_filterMap.mpr ⟨s, mem_saveOrder there stores, found⟩)
    cases key : genKey js s dataKey with
    | none => exact absurd (listed ⟨.throws, none⟩ (by simp only [entityJob, key])) (throws_not_done wrote)
    | some thisKey =>
      rcases method_true dataKey ("w" ++ s.name) with shadowed | there
      · exact absurd (listed ⟨.throws, none⟩ (by simp only [entityJob, key, on, shadowed])) (throws_not_done wrote)
      · have job := listed ⟨.entity (storing js s thisKey dataKey value), errorCode errCode "DATA_SET_" s⟩
          (by simp only [entityJob, key, on, there, left, Option.map_some])
        obtain ⟨command, stored, rfl⟩ := wrote_of_mem wrote job
        exact ⟨thisKey, rfl, stored⟩
  · intro on baseInfo base
    rcases @settingMethod_true cfg dataKey "w" "PvpSng" with shadowed | there
    · exact absurd (own ⟨.throws, none⟩ (.inl (by simp only [powerJob, on, shadowed]))) (throws_not_done wrote)
    · exact wrote_of_mem wrote (own ⟨.power baseInfo, errCode "DATA_SET_PVPSNG_ERROR"⟩
        (.inl (by simp only [powerJob, on, there, base])))
  · intro on team left
    rcases @settingMethod_true cfg dataKey "w" "TeamHeroList" with shadowed | there
    · exact absurd (own ⟨.throws, none⟩ (.inr (by simp only [teamJob, on, shadowed]))) (throws_not_done wrote)
    · obtain ⟨command, stored, rfl⟩ :=
        wrote_of_mem wrote (own ⟨.entity (storingTeam js dataKey team), errCode "DATA_SET_TEAMHEROLIST_ERROR"⟩
        (.inr (by simp only [teamJob, on, there, left])))
      exact stored

/-! ### From stage to stage -/

theorem setDataValue_ends {matching : BaseInfo → Query (Option Value)} (passes : ErrCode.passes (handled.retCode.getD ErrCode.success))
    (follows : Program.Follows (setDataValue js cfg errCode (agentHandles js cfg errCode matching) func dataKey handled) trace
      (.done response)) : Saved js cfg errCode func dataKey handled trace response := by
  unfold setDataValue at follows
  dsimp only at follows
  rw [if_pos passes] at follows
  obtain ⟨ending, trace, second, rfl, start, later⟩ := Program.follows_bind follows
  obtain ⟨saved, left, split, made, ends⟩ := waterfall_jobs (writeHandles_does js cfg errCode matching func dataKey handled.dataValue) start
  have order : jobs js cfg errCode func dataKey handled.dataValue = saved ++ left := by
    rw [← split, List.filterMap_append, List.filterMap_map]
    rfl
  have silent : second = [] := by
    cases ending <;> exact (Program.follows_done later).1
  subst silent
  rw [List.append_nil]
  refine ⟨saved, left, order, made, ?_, ?_⟩
  · rintro rfl
    rw [List.append_nil] at order
    rw [show ending = .completed dataKey handled.dataValue from ends] at later
    obtain ⟨-, same⟩ := Program.follows_done later
    cases same
    exact ⟨rfl, all_stored (order ▸ made)⟩
  · rintro job later' rfl
    rcases ends with ⟨throws, rfl⟩ | ⟨last, code⟩
    · obtain ⟨-, same⟩ := Program.follows_done later
      cases same
      exact .inl ⟨throws, rfl⟩
    · refine .inr ⟨last, fun errCode found => ?_⟩
      rw [code errCode found] at later
      obtain ⟨-, same⟩ := Program.follows_done later
      cases same
      rfl

theorem refused_failure {code : Nat} (nothing : Redis.writes trace = []) (bad : ¬ ErrCode.passes code) :
    Refused trace (some (.failure code)) := by
  apply And.intro nothing
  intro answer same
  rw [← Option.some.inj same]
  exact bad

theorem serve_ends {matching : BaseInfo → Query (Option Value)} (coded : ∀ code, Listed errCode code → ¬ ErrCode.passes code)
    {inArgs : Props Value}
    (follows : Program.Follows (serve js cfg errCode (agentHandles js cfg errCode matching) handler func inArgs dataKey) trace
      (.done response)) : Refused trace response ∨ Went js cfg errCode handler func trace response := by
  obtain ⟨ending, first, second, rfl, start, later⟩ := Program.follows_bind follows
  have reads := @waterfall_reads errCode func _ (readHandles_read js cfg errCode matching) dataKey fun _ => none
  have nothing := writes_of_reads start reads.1
  have listed : ∀ code, ending = .failed code → Listed errCode code := reads.2.result start
  cases ending with
  | failed code =>
    obtain ⟨rfl, same⟩ := Program.follows_done later
    cases same
    exact .inl (Refused.append nothing (refused_failure rfl (coded code (listed code rfl))))
  | lost =>
    obtain ⟨rfl, same⟩ := Program.follows_done later
    cases same
    exact .inl (Refused.append nothing ⟨rfl, fun answer same => by cases same⟩)
  | completed dataKey dataValue =>
    unfold doLogic at later
    dsimp only at later
    split at later
    · obtain ⟨rfl, same⟩ := Program.follows_done later
      cases same
      exact .inl (Refused.append nothing ⟨rfl, fun answer same => by cases same⟩)
    · rename_i handled ran
      have stage : Program.Follows (setDataValue js cfg errCode (agentHandles js cfg errCode matching) func
          (handled.keyed dataKey) handled) second (.done response) := by
        unfold Handled.keyed
        cases named : handled.heroId with
        | some heroId =>
          rw [named] at later
          exact Program.follows_forkAll later
        | none =>
          rw [named] at later
          exact Program.follows_forkAll later
      by_cases passes : ErrCode.passes (handled.retCode.getD ErrCode.success)
      · exact .inr (Went.append nothing ⟨_, _, dataKey, handled, ran, passes, setDataValue_ends passes stage⟩)
      · unfold setDataValue at stage
        dsimp only at stage
        rw [if_neg passes] at stage
        obtain ⟨rfl, same⟩ := Program.follows_done stage
        cases same
        exact .inl (Refused.append nothing (refused_failure rfl passes))

/-- A request asks for its session first, if its function wants one. -/
theorem request_ends {matching : BaseInfo → Query (Option Value)} (coded : ∀ code, Listed errCode code → ¬ ErrCode.passes code)
    {funcName sessionId : String} {inArgs : Props Value}
    (follows : Program.Follows (bindFunCallback js cfg errCode (agentHandles js cfg errCode matching) handler funcName inArgs
      sessionId) trace (.done response)) :
    Refused trace response ∨ ∃ func, cfg.find funcName = some func ∧ Went js cfg errCode handler func trace response := by
  unfold bindFunCallback at follows
  cases found : cfg.find funcName with
  | none =>
    rw [found] at follows
    obtain ⟨rfl, same⟩ := Program.follows_done follows
    cases same
    exact .inl (refused_failure rfl (by decide))
  | some func =>
    rw [found] at follows
    dsimp only at follows
    split at follows
    · obtain ⟨reply, rest, rfl, later⟩ := Program.follows_call follows
      have nothing : Redis.writes [((.read (.getSession sessionId) : Command Value), reply)] = [] := Redis.writes_read _ _ []
      cases reply with
      | session session =>
        rcases serve_ends coded later with refused | went
        · exact .inl (Refused.append nothing refused)
        · exact .inr ⟨func, rfl, Went.append nothing went⟩
      | _ =>
        obtain ⟨rfl, same⟩ := Program.follows_done later
        cases same
        exact .inl (Refused.append nothing (refused_failure rfl (by decide)))
    · rcases serve_ends coded follows with refused | went
      · exact .inl refused
      · exact .inr ⟨func, rfl, went⟩

end

/-! ### An enrolment that is stored in part -/

/-- What program `i` has answered. -/
def answerOf (pool : AgentPool Value) (i : Nat) : Option (Response Value) :=
  match pool.programs[i]? with
  | some (.done answer) => answer
  | _ => none

/-- Told a failure, a request by itself has left the store as it was. -/
def AllOrNothing (js : Values Value) (cfg : DataConfig Value) (errCode : String → Option Nat) (handler : Handler Value)
    (funcName : String) : Prop :=
  ∀ (matching : BaseInfo → Query (Option Value)) (inArgs : Props Value) (sessionId : String) (store : Store Value)
    (events : List (Nat × Bool)) (answer : Response Value),
    let pool := run agentStep (Pool.init store [bindFunCallback js cfg errCode (agentHandles js cfg errCode matching) handler
      funcName inArgs sessionId]) events
    answerOf pool 0 = some answer → ¬ ErrCode.passes answer.retCode → pool.store = store

/-- The names of the data config, as it spells them. -/
def dataName : DataName → String
  | .heroBookInfo => "HeroBookInfo"
  | .globalInfo => "GlobalInfo"
  | .bagList => "BagList"
  | .pvpDay => "PvpDay"
  | .mapInfo => "MapInfo"
  | .pvpInfo => "PvpInfo"
  | .nodeInfo => "NodeInfo"
  | .baseInfo => "BaseInfo"
  | .pvpWeek => "PvpWeek"
  | .pvpSng => "PvpSng"
  | .heroInfo => "HeroInfo"
  | .heroInfoList => "HeroInfoList"
  | .teamHeroList => "TeamHeroList"

/-- The shipped config; every function of it asks for a session. -/
def shipped : DataConfig Value where
  setting := setting.map fun s => ⟨dataName s.name, s.kind, some s.dbKey, s.key, s.default.map fun n => .num n⟩
  funcs := dataConfig.map fun f => ⟨f.funcName, true, f.access.map fun a => ⟨dataName a.name, a.read, a.write, a.sp⟩⟩

/-- The codes of `Const.CLIENT_ERROR_CODE` that the pipeline asks for. -/
def errorCodes : List (String × Nat) :=
  [("DATA_GET_BASEINFO_ERROR", 2001), ("DATA_GET_BAGLIST_ERROR", 2003), ("DATA_GET_HEROINFO_ERROR", 2002),
    ("DATA_GET_MAPINFO_ERROR", 2004), ("DATA_GET_TEAMHEROLIST_ERROR", 2005), ("DATA_GET_PVPINFO_ERROR", 2006),
    ("DATA_GET_PVPSNG_ERROR", 2007), ("DATA_GET_PVPDAY_ERROR", 2008), ("DATA_GET_PVPWEEK_ERROR", 2009),
    ("DATA_GET_GLOBALINFO_ERROR", 2010), ("DATA_GET_HEROINFOLIST_ERROR", 2011), ("DATA_GET_HEROBOOKINFO_ERROR", 2012),
    ("DATA_SET_BASEINFO_ERROR", 2101), ("DATA_SET_BAGLIST_ERROR", 2103), ("DATA_SET_HEROINFO_ERROR", 2102),
    ("DATA_SET_MAPINFO_ERROR", 2104), ("DATA_SET_PVPINFO_ERROR", 2105), ("DATA_SET_PVPSNG_ERROR", 2106),
    ("DATA_SET_PVPDAY_ERROR", 2107), ("DATA_SET_PVPWEEK_ERROR", 2108), ("DATA_SET_GLOBALINFO_ERROR", 2109),
    ("DATA_SET_HEROBOOKINFO_ERROR", 2112)]

def shippedCode (name : String) : Option Nat := errorCodes.lookup name

theorem shippedCode_fails (name : String) (code : Nat) (told : shippedCode name = some code) : ¬ ErrCode.passes code := by
  have all : ∀ entry ∈ errorCodes, ¬ ErrCode.passes entry.2 := by decide
  exact all (name, code) (mem_of_lookup_eq told)

/-- What a handler finds in the data. -/
def ofProps (dataValue : Props Value) : DataValue where
  area := spell values dataValue "area"
  uuid := spell values dataValue "uuid"
  entity name := dataValue name.valueName

/-- `enrollPvpDay` of `pvp_imp.js`, which leaves three entities. -/
def enrollPvpDay : Handler Value := fun dataValue _ _ =>
  (Pvp.enrollPvpDay (ofProps dataValue) ∅ ⟨"", "", ∅⟩).map fun handled =>
    ⟨handled.retCode, handled.outArgs,
      Function.update (Function.update (Function.update dataValue "pvpInfo" (handled.dataValue.entity .pvpInfo)) "pvpDay"
        (handled.dataValue.entity .pvpDay)) "globalInfo" (handled.dataValue.entity .globalInfo), none, handled.started⟩

/-- A player with fifty tickets, on a day that waits for its players. -/
def oneDay : Store Value where
  sessions := Obj.set ∅ "s1" ⟨"1", "ann"⟩
  strings := (((Obj.set ∅ (Pvp.baseInfoKey "1" "ann") (.baseInfo ⟨"1", "ann", 0, []⟩)).set (Pvp.pvpInfoKey "1" "ann")
    (.pvpInfo ⟨50, 0, 0⟩)).set (Pvp.pvpDayKey "1") (.pvpDay ⟨"1", []⟩)).set Pvp.globalInfoKey
      (.globalInfo ⟨Obj.set ∅ "1" ⟨0, 0, 10, 100⟩⟩)
  hashes := ∅

/-- The list of the day is not stored. -/
def secondWriteFails : List (Nat × Bool) := List.replicate 6 (0, false) ++ [(0, true)]

def tornRun : AgentPool Value :=
  run agentStep (Pool.init oneDay [bindFunCallback values shipped shippedCode (agentHandles values shipped shippedCode
    fun _ => .done none) enrollPvpDay "enrollPvpDay" (fun _ => none) "s1"]) secondWriteFails

def infoIn (store : Store Value) : Option PvpInfo :=
  match store.strings.get? (Pvp.pvpInfoKey "1" "ann") with
  | some (.pvpInfo info) => some info
  | _ => none

theorem tornRun_answer : (answerOf tornRun 0).map (·.retCode) = some 2107 := by decide +kernel

theorem tornRun_info : infoIn tornRun.store = some ⟨50, 100, 1⟩ ∧ infoIn oneDay = some ⟨50, 0, 0⟩ := by decide +kernel

/-- The player has enrolled, is told an error, and is not on the list of the day. -/
theorem enrolment_torn : ¬ AllOrNothing values shipped shippedCode enrollPvpDay "enrollPvpDay" := by
  intro whole
  obtain ⟨answer, found, code⟩ := Option.map_eq_some_iff.mp tornRun_answer
  have failure : ¬ ErrCode.passes answer.retCode := by
    rw [code]
    decide
  have kept : tornRun.store = oneDay :=
    whole (fun _ => .done none) (fun _ => none) "s1" oneDay secondWriteFails answer found failure
  have info := tornRun_info.1
  rw [kept, tornRun_info.2] at info
  cases info

theorem answerOf_done {pool : AgentPool Value} {i : Nat} {answer : Response Value} (found : answerOf pool i = some answer) :
    pool.programs[i]? = some (.done (some answer)) := by
  unfold answerOf at found
  split at found
  · rename_i here
    rw [here, found]
  · cases found

/-- **How far a request is stored.** Whatever fails and whatever else runs on the store, a request that has
ended has either stored nothing and been told a failure, or its handler let it go on and its jobs were done up
to the first that failed. The store is what these writes and those of the other programs made of it. -/
theorem request_saves (js : Values Value) (cfg : DataConfig Value) (errCode : String → Option Nat)
    (coded : ∀ name code, errCode name = some code → ¬ ErrCode.passes code) (matching : BaseInfo → Query (Option Value))
    (handler : Handler Value) (funcName : String) (inArgs : Props Value) (sessionId : String) (store : Store Value)
    (others : List (Work Value (Option (Response Value)))) (events : List (Nat × Bool)) (response : Option (Response Value))
    (ended : (run agentStep (Pool.init store (bindFunCallback js cfg errCode (agentHandles js cfg errCode matching) handler
      funcName inArgs sessionId :: others)) events).programs[0]? = some (.done response)) :
    let pool := run agentStep (Pool.init store (bindFunCallback js cfg errCode (agentHandles js cfg errCode matching) handler
      funcName inArgs sessionId :: others)) events
    (Refused (pool.journalOf 0) response ∨
      ∃ func, cfg.find funcName = some func ∧ Went js cfg errCode handler func (pool.journalOf 0) response) ∧
    pool.store = (Redis.writes (pool.journal.map Prod.snd)).foldl Store.put store := by
  intro pool
  apply And.intro
  · obtain ⟨trace, last, journal, found, follows⟩ := Pool.follows_run Store.exec SideProgram.work events
      (show (Pool.init store (bindFunCallback js cfg errCode (agentHandles js cfg errCode matching) handler
        funcName inArgs sessionId :: others)).programs[0]? = some _ from rfl)
    have same : pool.journalOf 0 = trace := journal
    rw [Option.some.inj (found.symm.trans ended)] at follows
    rw [same]
    exact request_ends (fun code ⟨name, told⟩ => coded name code told) follows
  · rw [← foldl_apply]
    exact Pool.store_run Store.exec_shown events rfl

theorem request_saves_torn : ∃ answer, answerOf tornRun 0 = some answer ∧
    ((Refused (tornRun.journalOf 0) (some answer) ∨
      ∃ func, shipped.find "enrollPvpDay" = some func ∧
        Went values shipped shippedCode enrollPvpDay func (tornRun.journalOf 0) (some answer)) ∧
    tornRun.store = (Redis.writes (tornRun.journal.map Prod.snd)).foldl Store.put oneDay) := by
  obtain ⟨answer, found, -⟩ := Option.map_eq_some_iff.mp tornRun_answer
  exact ⟨answer, found, request_saves values shipped shippedCode shippedCode_fails (fun _ => .done none) enrollPvpDay
    "enrollPvpDay" (fun _ => none) "s1" oneDay [] secondWriteFails (some answer) (answerOf_done found)⟩

end Tinygame.AnyConfig
