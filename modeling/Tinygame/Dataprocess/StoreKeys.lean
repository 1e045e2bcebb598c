import Tinygame.Dataprocess.Redis

/-!
# Whose entry a key is

What the program keeps in the store, each under the key `redisKeyGen` makes of its three names. One
table abbreviates the names in all three places, and players bring names of their own.
-/

namespace Tinygame.Redis

/-- What is kept of one player. -/
inductive PersonalKind where
  | player | bag | hero | pvp | map | node | skill | roleinfo | baseinfo
  | mailPool | mailGetList | taskPool | taskDonePool
  deriving DecidableEq

namespace PersonalKind

def name : PersonalKind → String
  | .player => "player"
  | .bag => "bag"
  | .hero => "hero"
  | .pvp => "pvp"
  | .map => "map"
  | .node => "node"
  | .skill => "skill"
  | .roleinfo => "roleinfo"
  | .baseinfo => "baseinfo"
  | .mailPool => "mailPool"
  | .mailGetList => "mailGetList"
  | .taskPool => "taskPool"
  | .taskDonePool => "taskDonePool"

/-- The number behind the kind in the table. -/
def number : PersonalKind → Option Nat
  | .player => some 4
  | .bag => some 8
  | .hero => some 5
  | .pvp => none
  | .map => some 3
  | .node => some 21
  | .skill => some 6
  | .roleinfo => some 2
  | .baseinfo => some 1
  | .mailPool => some 16
  | .mailGetList => some 17
  | .taskPool => some 18
  | .taskDonePool => some 19

end PersonalKind

inductive MailPart where
  | mailHead | mailText
  deriving DecidableEq

def MailPart.name : MailPart → String
  | .mailHead => "mailHead"
  | .mailText => "mailText"

inductive GlobalKind where
  | all | power | pvpweek
  deriving DecidableEq

def GlobalKind.name : GlobalKind → String
  | .all => "all"
  | .power => "power"
  | .pvpweek => "pvpweek"

/-- `pvpday` is the only entity kept by area. -/
inductive Entity where
  | personal (area uuid : String) (kind : PersonalKind)
  | mail (area : String) (part : MailPart) (mailID : Nat)
  | pvpday (area : String)
  | global (kind : GlobalKind)
  deriving DecidableEq

def Entity.key : Entity → String
  | .personal area uuid kind => redisKeyGen area uuid kind.name
  | .mail area part mailID => redisKeyGen area part.name (toString mailID)
  | .pvpday area => redisKeyGen area "pvpday" "area"
  | .global kind => redisKeyGen "all" kind.name "global"

/-- The login takes every player id that is not empty. -/
def checkUuid (uuid : String) : Bool := uuid.length ≠ 0

/-! ### When keys coincide -/

/-- One is a name of the table and the other the number behind it, or they are the same. -/
def Namesake (x y : String) : Prop := x = y ∨ (x, y) ∈ redisName ∨ (y, x) ∈ redisName

/-- The second name is the first with more behind a colon, and the other player id lacks it. -/
def Borrows (area uuid area' uuid' : String) : Prop :=
  ∃ w, shortName area' = shortName area ++ ":" ++ w ∧ shortName uuid = w ++ ":" ++ shortName uuid'

/-- The first two parts of two keys cannot be told apart. -/
def Confused (area uuid area' uuid' : String) : Prop :=
  Namesake area area' ∧ Namesake uuid uuid' ∨ Borrows area uuid area' uuid' ∨ Borrows area' uuid' area uuid

/-- A player whose id is read as one half of a mail, and a mail numbered like the kind of the entry. -/
def Posing (area uuid : String) (kind : PersonalKind) (area' : String) (part : MailPart) (mailID : Nat) : Prop :=
  kind.number = some mailID ∧ Confused area uuid area' part.name

/-- Two entities that are not the same, under one key. -/
def Entity.Clash : Entity → Entity → Prop
  | .personal area uuid kind, .personal area' uuid' kind' =>
    kind = kind' ∧ (area, uuid) ≠ (area', uuid') ∧ Confused area uuid area' uuid'
  | .mail area part mailID, .mail area' part' mailID' =>
    part = part' ∧ mailID = mailID' ∧ area ≠ area' ∧ Namesake area area'
  | .personal area uuid kind, .mail area' part mailID => Posing area uuid kind area' part mailID
  | .mail area' part mailID, .personal area uuid kind => Posing area uuid kind area' part mailID
  | .pvpday area, .pvpday area' => area ≠ area' ∧ Namesake area area'
  | _, _ => False

/-! ### Keys taken apart -/

theorem separated_eq {c : Char} {s t s' t' : List Char} : s ++ c :: t = s' ++ c :: t' ↔
    s = s' ∧ t = t' ∨ (∃ w, s' = s ++ c :: w ∧ t = w ++ c :: t') ∨ ∃ w, s = s' ++ c :: w ∧ t' = w ++ c :: t := by
  constructor
  · intro same
    rcases List.append_eq_append_iff.mp same with ⟨w, first, second⟩ | ⟨w, first, second⟩
    · cases w with
      | nil =>
        rw [List.nil_append] at second
        exact .inl ⟨by simpa using first.symm, (List.cons.inj second).2⟩
      | cons d w =>
        obtain ⟨rfl, rest⟩ := List.cons.inj second
        exact .inr (.inl ⟨w, first, rest⟩)
    · cases w with
      | nil =>
        rw [List.nil_append] at second
        exact .inl ⟨by simpa using first, (List.cons.inj second).2.symm⟩
      | cons d w =>
        obtain ⟨rfl, rest⟩ := List.cons.inj second
        exact .inr (.inr ⟨w, first, rest⟩)
  · rintro (⟨rfl, rfl⟩ | ⟨w, rfl, rfl⟩ | ⟨w, rfl, rfl⟩) <;> simp

/-- A part without a separator ends where the last separator is. -/
theorem separated_last {c : Char} (s s' : List Char) {t t' : List Char} (plain : c ∉ t) (plain' : c ∉ t') :
    s ++ c :: t = s' ++ c :: t' ↔ s = s' ∧ t = t' := by
  rw [separated_eq]
  constructor
  · rintro (same | ⟨w, -, rfl⟩ | ⟨w, -, rfl⟩)
    · exact same
    · exact absurd (by simp) plain
    · exact absurd (by simp) plain'
  · exact .inl

theorem redisKeyGen_eq {area uuid name area' uuid' name' : String} (plain : ':' ∉ (shortName name).toList)
    (plain' : ':' ∉ (shortName name').toList) :
    redisKeyGen area uuid name = redisKeyGen area' uuid' name' ↔
      shortName area ++ ":" ++ shortName uuid = shortName area' ++ ":" ++ shortName uuid' ∧
        shortName name = shortName name' := by
  have parts := separated_last (shortName area ++ ":" ++ shortName uuid).toList
    (shortName area' ++ ":" ++ shortName uuid').toList plain plain'
  rw [String.toList_inj, String.toList_inj] at parts
  rw [← parts, ← String.toList_inj]
  simp [redisKeyGen]

/-! ### The table -/

theorem redisName_functional : ∀ e ∈ redisName, shortName e.1 = e.2 ∧ shortName e.2 = e.2 := by decide

theorem redisName_injective : ∀ e ∈ redisName, ∀ e' ∈ redisName, e.2 = e'.2 → e.1 = e'.1 := by decide

theorem shortName_eq_iff {x y : String} : shortName x = shortName y ↔ Namesake x y := by
  have listed : ∀ {x v}, redisName.lookup x = some v → (x, v) ∈ redisName := by
    intro x v found
    obtain ⟨before, after, split, -⟩ := List.lookup_eq_some_iff.mp found
    simp [split]
  constructor
  · intro same
    unfold shortName at same
    cases first : redisName.lookup x with
    | none =>
      cases second : redisName.lookup y with
      | none =>
        rw [first, second] at same
        exact .inl same
      | some w =>
        rw [first, second] at same
        obtain rfl : x = w := same
        exact .inr (.inr (listed second))
    | some v =>
      cases second : redisName.lookup y with
      | none =>
        rw [first, second] at same
        obtain rfl : v = y := same
        exact .inr (.inl (listed first))
      | some w =>
        rw [first, second] at same
        obtain rfl : v = w := same
        exact .inl (redisName_injective _ (listed first) _ (listed second) rfl)
  · rintro (rfl | there | there)
    · rfl
    · obtain ⟨name, number⟩ := redisName_functional _ there
      exact name.trans number.symm
    · obtain ⟨name, number⟩ := redisName_functional _ there
      exact number.trans name.symm

theorem confused_iff {area uuid area' uuid' : String} :
    shortName area ++ ":" ++ shortName uuid = shortName area' ++ ":" ++ shortName uuid' ↔
      Confused area uuid area' uuid' := by
  have borrows : ∀ {a u a' u' : String}, Borrows a u a' u' ↔ ∃ w,
      (shortName a').toList = (shortName a).toList ++ ':' :: w ∧ (shortName u).toList = w ++ ':' :: (shortName u').toList := by
    intro a u a' u'
    constructor
    · rintro ⟨w, first, second⟩
      exact ⟨w.toList, by simp [first], by simp [second]⟩
    · rintro ⟨w, first, second⟩
      refine ⟨String.ofList w, String.toList_inj.mp ?_, String.toList_inj.mp ?_⟩
      · simp [first]
      · simp [second]
  have parts := @separated_eq ':' (shortName area).toList (shortName uuid).toList (shortName area').toList
    (shortName uuid').toList
  rw [← borrows, ← borrows, String.toList_inj, String.toList_inj, shortName_eq_iff, shortName_eq_iff] at parts
  rw [Confused, ← parts, ← String.toList_inj]
  simp

/-! ### Numbers -/

/-- No name of the table is a number. -/
theorem redisName_words : ∀ e ∈ redisName, ∃ c ∈ e.1.toList, c.isDigit = false := by
  have words : redisName.all (fun e => e.1.toList.any fun c => !c.isDigit) = true := by decide +kernel
  intro e there
  obtain ⟨c, inside, other⟩ := List.any_eq_true.mp (List.all_eq_true.mp words e there)
  exact ⟨c, inside, by simpa using other⟩

theorem shortName_number (n : Nat) : shortName (toString n) = toString n := by
  unfold shortName
  cases found : redisName.lookup (toString n) with
  | none => rfl
  | some v =>
    obtain ⟨before, after, split, -⟩ := List.lookup_eq_some_iff.mp found
    obtain ⟨c, there, letter⟩ := redisName_words (toString n, v) (by simp [split])
    rw [toString_digits n c there] at letter
    cases letter

theorem number_plain (n : Nat) : ':' ∉ (shortName (toString n)).toList := by
  rw [shortName_number]
  intro there
  exact absurd (toString_digits n ':' there) (by decide)

theorem kind_plain (kind : PersonalKind) : ':' ∉ (shortName kind.name).toList := by
  cases kind <;> decide

theorem kind_injective {kind kind' : PersonalKind} : shortName kind.name = shortName kind'.name ↔ kind = kind' := by
  refine ⟨fun same => ?_, fun same => same ▸ rfl⟩
  revert same
  cases kind <;> cases kind' <;> decide

/-- A kind with a number in the table is spelled by it. -/
theorem kind_number {kind : PersonalKind} {n : Nat} : shortName kind.name = toString n ↔ kind.number = some n := by
  cases number : kind.number with
  | some m =>
    have spelled : shortName kind.name = toString m := by
      revert number
      cases kind <;> rintro ⟨⟩ <;> decide
    rw [spelled, toString_number, Option.some.injEq]
  | none =>
    refine ⟨fun same => ?_, fun none => nomatch none⟩
    have letters : shortName kind.name = "pvp" := by
      revert number
      cases kind <;> rintro ⟨⟩
      rfl
    have digit := toString_digits n 'p' (by rw [← same, letters]; decide)
    exact absurd digit (by decide)

theorem number_ne_word {n : Nat} {word : String} {c : Char} (there : c ∈ word.toList) (letter : c.isDigit = false) :
    shortName (toString n) ≠ word := by
  rw [shortName_number]
  rintro rfl
  rw [toString_digits n c there] at letter
  cases letter

/-! ### Keys of two entities -/

theorem joined_eq {x y x' y' : String} (plain : ':' ∉ (shortName y).toList) (plain' : ':' ∉ (shortName y').toList) :
    shortName x ++ ":" ++ shortName y = shortName x' ++ ":" ++ shortName y' ↔
      Namesake x x' ∧ shortName y = shortName y' := by
  have parts := separated_last (shortName x).toList (shortName x').toList plain plain'
  rw [String.toList_inj, String.toList_inj, shortName_eq_iff] at parts
  rw [← parts, ← String.toList_inj]
  simp

theorem part_plain (part : MailPart) : ':' ∉ (shortName part.name).toList := by
  cases part <;> decide

theorem personal_key_eq {area uuid area' uuid' : String} {kind kind' : PersonalKind} :
    (Entity.personal area uuid kind).key = (Entity.personal area' uuid' kind').key ↔
      Confused area uuid area' uuid' ∧ kind = kind' := by
  rw [Entity.key, Entity.key, redisKeyGen_eq (kind_plain kind) (kind_plain kind'), confused_iff, kind_injective]

theorem mail_key_eq {area area' : String} {part part' : MailPart} {mailID mailID' : Nat} :
    (Entity.mail area part mailID).key = (Entity.mail area' part' mailID').key ↔
      Namesake area area' ∧ part = part' ∧ mailID = mailID' := by
  have parts : shortName part.name = shortName part'.name ↔ part = part' := by
    refine ⟨fun same => ?_, fun same => same ▸ rfl⟩
    revert same
    cases part <;> cases part' <;> decide
  rw [Entity.key, Entity.key, redisKeyGen_eq (number_plain mailID) (number_plain mailID'),
    joined_eq (part_plain part) (part_plain part'), parts, shortName_number, shortName_number, toString_number, and_assoc]

theorem posing_key_eq {area uuid area' : String} {kind : PersonalKind} {part : MailPart} {mailID : Nat} :
    (Entity.personal area uuid kind).key = (Entity.mail area' part mailID).key ↔
      Posing area uuid kind area' part mailID := by
  rw [Entity.key, Entity.key, redisKeyGen_eq (kind_plain kind) (number_plain mailID), confused_iff, shortName_number,
    kind_number, and_comm]
  rfl

theorem pvpday_key_eq {area area' : String} : (Entity.pvpday area).key = (Entity.pvpday area').key ↔ Namesake area area' := by
  rw [Entity.key, Entity.key, redisKeyGen_eq (by decide) (by decide), joined_eq (by decide) (by decide)]
  simp

theorem global_key_eq {kind kind' : GlobalKind} : (Entity.global kind).key = (Entity.global kind').key ↔ kind = kind' := by
  refine ⟨fun same => ?_, fun same => same ▸ rfl⟩
  revert same
  cases kind <;> cases kind' <;> decide

/-- The last part of a key tells entries of players and mails from those of areas and of all. -/
theorem last_ne {area uuid name area' uuid' name' : String} (plain : ':' ∉ (shortName name).toList)
    (plain' : ':' ∉ (shortName name').toList) (different : shortName name ≠ shortName name') :
    redisKeyGen area uuid name ≠ redisKeyGen area' uuid' name' :=
  fun same => different ((redisKeyGen_eq plain plain').mp same).2

theorem kind_ne_area (kind : PersonalKind) : shortName kind.name ≠ shortName "area" := by
  cases kind <;> decide

theorem kind_ne_global (kind : PersonalKind) : shortName kind.name ≠ shortName "global" := by
  cases kind <;> decide

theorem clash_irrefl (e : Entity) : ¬ e.Clash e := by
  cases e with
  | personal => exact fun clash => clash.2.1 rfl
  | mail => exact fun clash => clash.2.2.1 rfl
  | pvpday => exact fun clash => clash.1 rfl
  | global => exact id

/-- Two entities have one key when they are the same, and when they clash. -/
theorem key_eq_iff (e e' : Entity) : e.key = e'.key ↔ e = e' ∨ e.Clash e' := by
  cases e with
  | personal area uuid kind =>
    cases e' with
    | personal area' uuid' kind' =>
      rw [personal_key_eq, Entity.personal.injEq]
      constructor
      · rintro ⟨confused, rfl⟩
        by_cases same : (area, uuid) = (area', uuid')
        · rw [Prod.mk.injEq] at same
          exact .inl ⟨same.1, same.2, rfl⟩
        · exact .inr ⟨rfl, same, confused⟩
      · rintro (⟨rfl, rfl, rfl⟩ | ⟨rfl, -, confused⟩)
        · exact ⟨.inl ⟨.inl rfl, .inl rfl⟩, rfl⟩
        · exact ⟨confused, rfl⟩
    | mail area' part mailID =>
      rw [posing_key_eq]
      exact ⟨.inr, fun either => either.resolve_left Entity.noConfusion⟩
    | pvpday area' =>
      exact iff_of_false (last_ne (kind_plain kind) (by decide) (kind_ne_area kind))
        (fun either => either.elim (fun same => nomatch same) id)
    | global kind' =>
      exact iff_of_false (last_ne (kind_plain kind) (by decide) (kind_ne_global kind))
        (fun either => either.elim (fun same => nomatch same) id)
  | mail area part mailID =>
    cases e' with
    | personal area' uuid' kind' =>
      rw [eq_comm, posing_key_eq]
      exact ⟨.inr, fun either => either.resolve_left Entity.noConfusion⟩
    | mail area' part' mailID' =>
      rw [mail_key_eq, Entity.mail.injEq]
      constructor
      · rintro ⟨namesake, rfl, rfl⟩
        by_cases same : area = area'
        · exact .inl ⟨same, rfl, rfl⟩
        · exact .inr ⟨rfl, rfl, same, namesake⟩
      · rintro (⟨rfl, rfl, rfl⟩ | ⟨rfl, rfl, -, namesake⟩)
        · exact ⟨.inl rfl, rfl, rfl⟩
        · exact ⟨namesake, rfl, rfl⟩
    | pvpday area' =>
      exact iff_of_false (last_ne (number_plain mailID) (by decide)
        (number_ne_word (c := 'a') (by decide) (by decide))) (fun either => either.elim (fun same => nomatch same) id)
    | global kind' =>
      exact iff_of_false (last_ne (number_plain mailID) (by decide)
        (number_ne_word (c := 'g') (by decide) (by decide))) (fun either => either.elim (fun same => nomatch same) id)
  | pvpday area =>
    cases e' with
    | personal area' uuid' kind' =>
      exact iff_of_false (last_ne (kind_plain kind') (by decide) (kind_ne_area kind')).symm
        (fun either => either.elim (fun same => nomatch same) id)
    | mail area' part' mailID' =>
      exact iff_of_false (last_ne (number_plain mailID') (by decide)
        (number_ne_word (c := 'a') (by decide) (by decide))).symm (fun either => either.elim (fun same => nomatch same) id)
    | pvpday area' =>
      rw [pvpday_key_eq, Entity.pvpday.injEq]
      by_cases same : area = area'
      · exact iff_of_true (.inl same) (.inl same)
      · exact ⟨fun namesake => .inr ⟨same, namesake⟩, fun either => (either.resolve_left same).2⟩
    | global kind' =>
      exact iff_of_false (last_ne (by decide) (by decide) (by decide)) (fun either => either.elim (fun same => nomatch same) id)
  | global kind =>
    cases e' with
    | personal area' uuid' kind' =>
      exact iff_of_false (last_ne (kind_plain kind') (by decide) (kind_ne_global kind')).symm
        (fun either => either.elim (fun same => nomatch same) id)
    | mail area' part' mailID' =>
      exact iff_of_false (last_ne (number_plain mailID') (by decide)
        (number_ne_word (c := 'g') (by decide) (by decide))).symm (fun either => either.elim (fun same => nomatch same) id)
    | pvpday area' =>
      exact iff_of_false (last_ne (by decide) (by decide) (by decide)) (fun either => either.elim (fun same => nomatch same) id)
    | global kind' =>
      rw [global_key_eq, Entity.global.injEq]
      exact ⟨.inl, fun either => either.resolve_right id⟩

end Tinygame.Redis
