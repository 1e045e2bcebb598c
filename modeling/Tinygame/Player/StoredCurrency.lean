import Tinygame.Base.Program
import Tinygame.Dataprocess.Redis
import Tinygame.Player.CurrencyRange

/-!
# Changing a stored balance

`modPlayerGold` and `modPlayerDiamond` of `player_handle.js`, which read a player's record, change a balance and
save the record. Both take what `addPlayerGold` or `addPlayerDiamond` hands back for a failure when it is zero;
what these hand back on failure is null.
-/

namespace Tinygame.Player.Stored
open Redis (Store Command redisKeyGen)

/-- A store does what it is asked, refuses it, or does it and the answer is lost. -/
inductive Behaviour where
  | answers
  | refuses
  | loses
  deriving DecidableEq

def Behaviour.exec {V : Type} (behaviour : Behaviour) (store : Store V) (command : Command V) : Store V × Redis.Reply V :=
  match behaviour with
  | .answers => store.exec command false
  | .refuses => store.exec command true
  | .loses => ((store.exec command false).1, .failed)

/-- What a callback is told. -/
inductive CallbackError where
  | redis
  | text (message : String)

abbrev Asking := Program (Command DataValue) (Redis.Reply DataValue) Empty (Except CallbackError DataValue)

def getBaseInfo (area uuid : String) : Asking := do
  match ← Program.request (.read (.get (redisKeyGen area uuid "player"))) with
  | .value (some baseInfo) => return .ok baseInfo
  | .value none => return .error (.text "baseInfo is null")
  | _ => return .error .redis

def setBaseInfo (area uuid : String) (baseInfo : DataValue) : Asking := do
  match ← Program.request (.write (.set (redisKeyGen area uuid "player") baseInfo)) with
  | .ok => return .ok baseInfo
  | _ => return .error .redis

/-- Both functions; `add` changes the balance. That there is a record has been looked at by `getBaseInfo`. -/
def modPlayer (add : Amount → DataValue → Amount × DataValue) (area uuid : String) (amount : Amount) : Asking := do
  match ← getBaseInfo area uuid with
  | .error err => return .error err
  | .ok playerInfo =>
    let (added, playerInfo) := add amount playerInfo
    if added = some 0 then return .ok playerInfo
    setBaseInfo area uuid playerInfo

def modPlayerGold : String → String → Amount → Asking := modPlayer addPlayerGold

def modPlayerDiamond : String → String → Amount → Asking := modPlayer addPlayerDiamond

/-- A program alone on the store, whose behaviours come in turn. -/
def serve {α : Type} : Store DataValue → (Nat → Behaviour) → Program (Command DataValue) (Redis.Reply DataValue) Empty α →
    Store DataValue × α
  | store, _, .done result => (store, result)
  | store, behaviours, .call command next =>
    let answered := (behaviours 0).exec store command
    serve answered.1 (fun n => behaviours (n + 1)) (next answered.2)
  | _, _, .fork job _ => job.elim

/-! ### What the callback should say -/

/-- What the balance should become. -/
def wanted (balance : DataValue → Int) (amount : Amount) (playerInfo : DataValue) : Amount :=
  amount.map (balance playerInfo + ·)

/-- The callback hears of no error exactly when the change is stored, and the record stays as it was when the
change would leave the range. -/
structure Truthful (balance : DataValue → Int) (amount : Amount) (playerInfo : DataValue)
    (ended : Option DataValue × Except CallbackError DataValue) : Prop where
  done : ended.2.isOk = true ↔ ∃ record, ended.1 = some record ∧ wanted balance amount playerInfo = some (balance record) ∧
    InRange (balance record)
  refused : ¬ (wanted balance amount playerInfo).Fine → ended.2.isOk = false ∧ ended.1 = some playerInfo

/-- When the callback is right. -/
structure Careful (balance : DataValue → Int) (amount : Amount) (playerInfo : DataValue) (reading saving : Behaviour) :
    Prop where
  /-- A balance that would become zero is that already. -/
  emptied : reading = .answers → wanted balance amount playerInfo = some 0 → amount = some 0
  /-- Of what leaves the range the save is not answered. -/
  outside : reading = .answers → ¬ (wanted balance amount playerInfo).Fine → saving ≠ .answers
  /-- The answer of a save that changes the balance is not lost. -/
  lost : reading = .answers → (wanted balance amount playerInfo).Fine → wanted balance amount playerInfo ≠ some 0 →
    saving ≠ .loses
  /-- Where nothing is to be changed the store fails at nothing it is asked. -/
  unchanged : amount = some 0 → InRange (balance playerInfo) →
    reading = .answers ∧ (wanted balance amount playerInfo = some 0 ∨ saving = .answers)

/-! ### One call -/

section
variable {add : Amount → DataValue → Amount × DataValue} {balance : DataValue → Int} {amount : Amount}
  {playerInfo : DataValue} {area uuid : String} {store : Store DataValue}

/-- A helper that adds to the balance within the range, and else leaves the record alone. -/
structure Adds (add : Amount → DataValue → Amount × DataValue) (balance : DataValue → Int) : Prop where
  fits : ∀ amount playerInfo tmp, wanted balance amount playerInfo = some tmp → InRange tmp →
    (add amount playerInfo).1 = some tmp ∧ balance (add amount playerInfo).2 = tmp
  refuses : ∀ amount playerInfo, ¬ (wanted balance amount playerInfo).Fine → add amount playerInfo = (none, playerInfo)

theorem addPlayerGold_adds : Adds addPlayerGold DataValue.gold where
  fits amount playerInfo tmp same range := by
    obtain ⟨gold, rfl, rfl⟩ := Option.map_eq_some_iff.mp same
    have inside : commonValueMin ≤ playerInfo.gold + gold ∧ playerInfo.gold + gold ≤ commonValueMax := range
    simp only [addPlayerGold, if_pos inside, true_and]
    rfl
  refuses amount playerInfo outside := by
    cases amount with
    | none => rfl
    | some gold => exact if_neg fun range => outside ⟨_, rfl, range⟩

theorem addPlayerDiamond_adds : Adds addPlayerDiamond DataValue.diamond where
  fits amount playerInfo tmp same range := by
    obtain ⟨diamond, rfl, rfl⟩ := Option.map_eq_some_iff.mp same
    have inside : commonValueMin ≤ playerInfo.diamond + diamond ∧ playerInfo.diamond + diamond ≤ commonValueMax := range
    simp only [addPlayerDiamond, if_pos inside, true_and]
    rfl
  refuses amount playerInfo outside := by
    cases amount with
    | none => rfl
    | some diamond => exact if_neg fun range => outside ⟨_, rfl, range⟩

variable {behaviours : Nat → Behaviour}

/-- The record as the store has it afterwards, and what the callback is told. -/
def outcome (mod : String → String → Amount → Asking) (area uuid : String) (amount : Amount) (store : Store DataValue)
    (behaviours : Nat → Behaviour) : Option DataValue × Except CallbackError DataValue :=
  let served := serve store behaviours (mod area uuid amount)
  (served.1.strings.get? (redisKeyGen area uuid "player"), served.2)

theorem outcome_unread (there : store.strings.get? (redisKeyGen area uuid "player") = some playerInfo)
    (unread : behaviours 0 ≠ .answers) :
    outcome (modPlayer add) area uuid amount store behaviours = (some playerInfo, .error .redis) := by
  cases reading : behaviours 0 with
  | answers => exact absurd reading unread
  | refuses => simp [outcome, modPlayer, getBaseInfo, serve, reading, Behaviour.exec, there]
  | loses => simp [outcome, modPlayer, getBaseInfo, serve, reading, Behaviour.exec, Store.exec_read, there]

theorem outcome_skipped (there : store.strings.get? (redisKeyGen area uuid "player") = some playerInfo)
    (reading : behaviours 0 = .answers) (skipped : (add amount playerInfo).1 = some 0) :
    outcome (modPlayer add) area uuid amount store behaviours = (some playerInfo, .ok (add amount playerInfo).2) := by
  simp [outcome, modPlayer, getBaseInfo, serve, reading, Behaviour.exec, Store.exec_read, Store.answer, there, skipped]

/-- What a save leaves stored, and what its callback is told. -/
def saved (saving : Behaviour) (before after : DataValue) : Option DataValue × Except CallbackError DataValue :=
  match saving with
  | .answers => (some after, .ok after)
  | .refuses => (some before, .error .redis)
  | .loses => (some after, .error .redis)

theorem outcome_saved (there : store.strings.get? (redisKeyGen area uuid "player") = some playerInfo)
    (reading : behaviours 0 = .answers) (saves : (add amount playerInfo).1 ≠ some 0) :
    outcome (modPlayer add) area uuid amount store behaviours = saved (behaviours 1) playerInfo (add amount playerInfo).2 := by
  cases saving : behaviours 1 <;>
    simp [outcome, modPlayer, getBaseInfo, setBaseInfo, serve, reading, saving, Behaviour.exec, Store.exec_read, Store.answer,
      there, saves, saved]

/-! ### Whether it is told the truth -/

/-- The balance is what it should become when nothing was to be added. -/
theorem wanted_self_iff : wanted balance amount playerInfo = some (balance playerInfo) ↔ amount = some 0 := by
  cases amount with
  | none => simp [wanted]
  | some n => simp [wanted]

/-- An error is the truth unless there was nothing to change. -/
theorem truthful_error {told : Except CallbackError DataValue} (failed : told.isOk = false) :
    Truthful balance amount playerInfo (some playerInfo, told) ↔ ¬ (amount = some 0 ∧ InRange (balance playerInfo)) := by
  constructor
  · rintro truthful ⟨nothing, range⟩
    have done := truthful.done.mpr ⟨playerInfo, rfl, wanted_self_iff.mpr nothing, range⟩
    rw [failed] at done
    cases done
  · intro changes
    refine ⟨⟨fun done => ?_, ?_⟩, fun _ => ⟨failed, rfl⟩⟩
    · rw [failed] at done
      cases done
    · rintro ⟨record, same, became, range⟩
      obtain rfl := Option.some.inj same
      exact absurd ⟨wanted_self_iff.mp became, range⟩ changes

/-- A stored record with the balance that was wanted, in the range. -/
theorem truthful_stored {after : DataValue} (told : Except CallbackError DataValue)
    (became : wanted balance amount playerInfo = some (balance after)) (range : InRange (balance after)) :
    Truthful balance amount playerInfo (some after, told) ↔ told.isOk = true := by
  have stored : ∃ record, some after = some record ∧ wanted balance amount playerInfo = some (balance record) ∧
      InRange (balance record) := ⟨after, rfl, became, range⟩
  exact ⟨fun truthful => truthful.done.mpr stored,
    fun done => ⟨iff_of_true done stored, fun outside => absurd ⟨_, became, range⟩ outside⟩⟩

section
variable (adds : Adds add balance) (there : store.strings.get? (redisKeyGen area uuid "player") = some playerInfo)
include there

theorem truthful_unread (unread : behaviours 0 ≠ .answers) :
    Truthful balance amount playerInfo (outcome (modPlayer add) area uuid amount store behaviours) ↔
      Careful balance amount playerInfo (behaviours 0) (behaviours 1) := by
  rw [outcome_unread there unread, truthful_error rfl]
  constructor
  · intro changes
    exact ⟨fun read => absurd read unread, fun read => absurd read unread, fun read => absurd read unread,
      fun nothing range => absurd ⟨nothing, range⟩ changes⟩
  · rintro careful ⟨nothing, range⟩
    exact unread (careful.unchanged nothing range).1

include adds

/-- The helper has refused, and the record as it was is saved. -/
theorem truthful_outside (reading : behaviours 0 = .answers) (outside : ¬ (wanted balance amount playerInfo).Fine) :
    Truthful balance amount playerInfo (outcome (modPlayer add) area uuid amount store behaviours) ↔
      Careful balance amount playerInfo (behaviours 0) (behaviours 1) := by
  have refused := adds.refuses amount playerInfo outside
  have changes : ¬ (amount = some 0 ∧ InRange (balance playerInfo)) := by
    rintro ⟨nothing, range⟩
    exact outside ⟨_, wanted_self_iff.mpr nothing, range⟩
  have careful : Careful balance amount playerInfo (behaviours 0) (behaviours 1) ↔ behaviours 1 ≠ .answers := by
    refine ⟨fun careful => careful.outside reading outside, fun unanswered => ⟨fun _ empty => ?_, fun _ _ => unanswered,
      fun _ inside => absurd inside outside, fun nothing range => absurd ⟨nothing, range⟩ changes⟩⟩
    exact absurd ⟨0, empty, by decide, by decide⟩ outside
  rw [outcome_saved there reading (by simp [refused]), refused, careful]
  cases saving : behaviours 1 with
  | answers => exact iff_of_false (fun truthful => by cases (truthful.refused outside).1) (· rfl)
  | refuses => exact iff_of_true ((truthful_error rfl).mpr changes) (by decide)
  | loses => exact iff_of_true ((truthful_error rfl).mpr changes) (by decide)

/-- A balance of zero is taken for a refusal: nothing is saved, and the callback hears of no error. -/
theorem truthful_emptied (reading : behaviours 0 = .answers) (empty : wanted balance amount playerInfo = some 0) :
    Truthful balance amount playerInfo (outcome (modPlayer add) area uuid amount store behaviours) ↔
      Careful balance amount playerInfo (behaviours 0) (behaviours 1) := by
  have zero : InRange 0 := ⟨by decide, by decide⟩
  have skipped := (adds.fits amount playerInfo 0 empty zero).1
  rw [outcome_skipped there reading skipped]
  constructor
  · intro truthful
    obtain ⟨record, same, became, -⟩ := truthful.done.mp rfl
    obtain rfl := Option.some.inj same
    have nothing := wanted_self_iff.mp became
    exact ⟨fun _ _ => nothing, fun _ outside => absurd ⟨0, empty, zero⟩ outside, fun _ _ nonzero => absurd empty nonzero,
      fun _ _ => ⟨reading, .inl empty⟩⟩
  · intro careful
    have became : wanted balance amount playerInfo = some (balance playerInfo) :=
      wanted_self_iff.mpr (careful.emptied reading empty)
    have emptied : balance playerInfo = 0 := Option.some.inj (became.symm.trans empty)
    exact (truthful_stored _ became (by rw [emptied]; exact zero)).mpr rfl

theorem truthful_saved (reading : behaviours 0 = .answers) {tmp : Int} (same : wanted balance amount playerInfo = some tmp)
    (range : InRange tmp) (nonzero : tmp ≠ 0) :
    Truthful balance amount playerInfo (outcome (modPlayer add) area uuid amount store behaviours) ↔
      Careful balance amount playerInfo (behaviours 0) (behaviours 1) := by
  obtain ⟨added, became⟩ := adds.fits amount playerInfo tmp same range
  have fine : (wanted balance amount playerInfo).Fine := ⟨tmp, same, range⟩
  have filled : wanted balance amount playerInfo ≠ some 0 := by simp [same, nonzero]
  have careful : Careful balance amount playerInfo (behaviours 0) (behaviours 1) ↔
      behaviours 1 ≠ .loses ∧ (amount = some 0 ∧ InRange (balance playerInfo) → behaviours 1 = .answers) := by
    refine ⟨fun careful => ⟨careful.lost reading fine filled, ?_⟩, fun kept => ⟨fun _ empty => absurd empty filled,
      fun _ outside => absurd fine outside, fun _ _ _ => kept.1,
      fun nothing inside => ⟨reading, .inr (kept.2 ⟨nothing, inside⟩)⟩⟩⟩
    rintro ⟨nothing, inside⟩
    exact (careful.unchanged nothing inside).2.resolve_left filled
  have stored : ∀ told, Truthful balance amount playerInfo (some (add amount playerInfo).2, told) ↔ told.isOk = true :=
    fun told => truthful_stored told (by rw [same, became]) (by rw [became]; exact range)
  rw [outcome_saved there reading (by simp [added, nonzero]), careful]
  cases saving : behaviours 1 with
  | answers => exact iff_of_true ((stored _).mpr rfl) (by simp)
  | refuses =>
    refine (truthful_error rfl).trans ?_
    simp
  | loses => exact iff_of_false (fun truthful => by cases (stored _).mp truthful) (by simp)

/-- The callback is right exactly as stated, for a helper that adds within the range. -/
theorem truthful_iff :
    Truthful balance amount playerInfo (outcome (modPlayer add) area uuid amount store behaviours) ↔
      Careful balance amount playerInfo (behaviours 0) (behaviours 1) := by
  by_cases reading : behaviours 0 = .answers
  · by_cases fine : (wanted balance amount playerInfo).Fine
    · obtain ⟨tmp, same, range⟩ := fine
      by_cases zero : tmp = 0
      · subst zero
        exact truthful_emptied adds there reading same
      · exact truthful_saved adds there reading same range zero
    · exact truthful_outside adds there reading fine
  · exact truthful_unread there reading

end

end

/-- The gold and the diamonds of a record that is there: the callback is right exactly as stated. -/
theorem currency_told (area uuid : String) (amount : Amount) (store : Store DataValue) (behaviours : Nat → Behaviour)
    {playerInfo : DataValue} (there : store.strings.get? (redisKeyGen area uuid "player") = some playerInfo) :
    (Truthful DataValue.gold amount playerInfo (outcome modPlayerGold area uuid amount store behaviours) ↔
      Careful DataValue.gold amount playerInfo (behaviours 0) (behaviours 1)) ∧
    (Truthful DataValue.diamond amount playerInfo (outcome modPlayerDiamond area uuid amount store behaviours) ↔
      Careful DataValue.diamond amount playerInfo (behaviours 0) (behaviours 1)) :=
  ⟨truthful_iff addPlayerGold_adds there, truthful_iff addPlayerDiamond_adds there⟩

/-- The store of a server with one player, who has ten pieces of gold. -/
def tenStored : Store DataValue := ⟨∅, Obj.set ∅ (redisKeyGen "1" "7" "player") tenGold, ∅⟩

theorem tenStored_player : tenStored.strings.get? (redisKeyGen "1" "7" "player") = some tenGold := Obj.get?_set_self ..

theorem currency_told_ten :
    (Truthful DataValue.gold (some 5) tenGold (outcome modPlayerGold "1" "7" (some 5) tenStored fun _ => .answers) ↔
      Careful DataValue.gold (some 5) tenGold .answers .answers) ∧
    (Truthful DataValue.diamond (some 5) tenGold (outcome modPlayerDiamond "1" "7" (some 5) tenStored fun _ => .answers) ↔
      Careful DataValue.diamond (some 5) tenGold .answers .answers) :=
  currency_told "1" "7" (some 5) tenStored (fun _ => .answers) tenStored_player

/-- Ten pieces of gold are paid out of ten, and eleven out of ten: the callback hears of no error, and the gold is
what it was. -/
theorem currency_untold :
    ¬ Truthful DataValue.gold (some (-10)) tenGold (outcome modPlayerGold "1" "7" (some (-10)) tenStored fun _ => .answers) ∧
      ¬ Truthful DataValue.gold (some (-11)) tenGold (outcome modPlayerGold "1" "7" (some (-11)) tenStored fun _ => .answers) := by
  refine ⟨fun truthful => ?_, fun truthful => ?_⟩
  · obtain ⟨record, same, became, -⟩ := truthful.done.mp (by decide)
    have kept : (outcome modPlayerGold "1" "7" (some (-10)) tenStored fun _ => .answers).1.map DataValue.gold = some 10 := by
      decide
    rw [same] at kept
    have zero : some (0 : Int) = some record.gold := became
    rw [Option.map_some, ← zero] at kept
    exact absurd kept (by decide)
  · have outside : ¬ (wanted DataValue.gold (some (-11)) tenGold).Fine := by
      rintro ⟨n, same, inside, -⟩
      obtain rfl := Option.some.inj same
      exact absurd inside (by decide)
    exact absurd (truthful.refused outside).1 (by decide)

end Tinygame.Player.Stored
