import Mathlib.Data.Nat.Find
import Tinygame.Base.Answers
import Tinygame.Base.Inheriting
import Tinygame.Base.LimitMap

/-!
# The keys of a bounded map

`LimitMap` of `module/utils.js` as the object and the array it consists of. As long as the keys are such that an
object treats alike the two agree, and the map is the bounded map without what objects inherit.
-/

namespace Tinygame.LimitKeys
variable {α : Type}

structure State (α : Type) where
  limit : Nat
  map : Inheriting α
  keys : List String

def new (limit : Nat) : State α := ⟨if limit = 0 then 10 else limit, {}, []⟩

/-- `keys.shift()` and the deletion of what it gives, when there is no room. -/
def makeRoom (m : State α) : List String × Inheriting α :=
  match m.keys with
  | firstKey :: rest => if m.limit ≤ m.keys.length then (rest, m.map.delete firstKey) else (m.keys, m.map)
  | [] => ([], m.map)

def set (host : Host α) (m : State α) (key : String) (value : α) : Option (State α) :=
  (m.map.hasOwnProperty host key).map fun present =>
    if present then { m with map := m.map.assign host key value }
    else { m with map := (makeRoom m).2.assign host key value, keys := (makeRoom m).1 ++ [key] }

def get (m : State α) (key : String) : Found α := m.map.find key

inductive Op (α : Type) where
  | set (key : String) (value : α)
  | get (key : String)
  deriving DecidableEq

inductive Answer (α : Type) where
  | returned
  | typeError
  | found (result : Found α)

def perform (host : Host α) (m : State α) : Op α → Answer α × State α
  | .set key value =>
    match set host m key value with
    | some m' => (.returned, m')
    | none => (.typeError, m)
  | .get key => (.found (get m key), m)

/-! ### What is asked of a run -/

section
variable (host : Host α) (limit : Nat)

def reached (ops : List (Op α)) : State α := after (perform host) (new limit) ops

/-- The value of the last set of the key. -/
def lastSet (ops : List (Op α)) (key : String) : Option α :=
  ops.reverse.findSome? fun op =>
    match op with
    | .set other value => if other = key then some value else none
    | .get _ => none

/-- How many operations came before the one that brought the key in: the last moment it was not there. -/
def enteredAt (ops : List (Op α)) (key : String) : Nat :=
  Nat.findGreatest (fun n => key ∉ (reached host limit (ops.take n)).keys) ops.length

/-- Of the keys that are there this one came in first. -/
def Oldest (ops : List (Op α)) (key : String) : Prop :=
  key ∈ (reached host limit ops).keys ∧
    ∀ other ∈ (reached host limit ops).keys, other ≠ key → enteredAt host limit ops key < enteredAt host limit ops other

/-- The keys are those of the map, each once, and no more than the limit. A key that is there has the value it was set
to last, a set brings its key in, and only a new key drops another, the one that came in first. -/
structure Sound (ops : List (Op α)) : Prop where
  once : (reached host limit ops).keys.Nodup
  keyed : ∀ key, key ∈ (reached host limit ops).keys ↔ (reached host limit ops).map.own.has key = true
  bounded : (reached host limit ops).keys.length ≤ limit
  read : ∀ key ∈ (reached host limit ops).keys, ∃ value,
    lastSet ops key = some value ∧ get (reached host limit ops) key = .value value
  held : ∀ past key value later, ops = past ++ .set key value :: later →
    key ∈ (reached host limit (past ++ [.set key value])).keys
  dropped : ∀ past op later, ops = past ++ op :: later → ∀ gone ∈ (reached host limit past).keys,
    gone ∉ (reached host limit (past ++ [op])).keys →
      ∃ key value, op = .set key value ∧ key ∉ (reached host limit past).keys ∧ Oldest host limit past gone

end

/-- An object treats the key of a set like any other. -/
def Op.Plain : Op α → Prop
  | .set key _ => key ≠ "__proto__" ∧ key ≠ "hasOwnProperty"
  | .get _ => True

instance (op : Op α) : Decidable op.Plain := by
  cases op <;> unfold Op.Plain <;> infer_instance

/-! ### The bounded map -/

/-- The state is that of the bounded map, and `hasOwnProperty` is what it should be. -/
structure Follows (m : State α) (l : LimitMap α) : Prop where
  limit : m.limit = l.limit
  own : m.map.own = l.map
  keys : m.keys = l.keys
  usual : m.map.Usual

def apply (l : LimitMap α) : Op α → LimitMap α
  | .set key value => l.set key value
  | .get _ => l

section
variable {host : Host α} {m : State α} {l : LimitMap α} {key other : String} {value : α} {op : Op α} {limit : Nat}
  {ops : List (Op α)}

theorem Follows.new (limit : Nat) : Follows (LimitKeys.new limit : State α) (LimitMap.new limit) :=
  ⟨rfl, rfl, rfl, Inheriting.usual_empty⟩

theorem Follows.makeRoom (follows : Follows m l) :
    (makeRoom m).1 = l.makeRoom.1 ∧ (makeRoom m).2.own = l.makeRoom.2 ∧ (makeRoom m).2.Usual := by
  unfold LimitKeys.makeRoom LimitMap.makeRoom
  rw [follows.keys, follows.limit]
  cases l.keys with
  | nil => exact ⟨rfl, follows.own, follows.usual⟩
  | cons firstKey rest =>
    dsimp only
    split
    · exact ⟨rfl, congrArg (Obj.delete · firstKey) follows.own, follows.usual.delete firstKey⟩
    · exact ⟨rfl, follows.own, follows.usual⟩

theorem Follows.set (host : Host α) (follows : Follows m l) (plain : (Op.set key value).Plain) :
    ∃ m', set host m key value = some m' ∧ Follows m' (l.set key value) := by
  obtain ⟨proto, call⟩ := plain
  have present := follows.usual.hasOwnProperty_eq host key
  rw [follows.own] at present
  unfold LimitKeys.set
  rw [present, Option.map_some]
  refine ⟨_, rfl, ?_⟩
  unfold LimitMap.set
  by_cases there : l.map.has key = true
  · rw [if_pos there, dif_pos there, Inheriting.assign_plain host m.map proto]
    exact ⟨follows.limit, congrArg (Obj.set · key value) follows.own, follows.keys, follows.usual.set call value⟩
  · obtain ⟨keys, own, usual⟩ := follows.makeRoom
    rw [if_neg there, dif_neg there, Inheriting.assign_plain host _ proto]
    exact ⟨follows.limit, congrArg (Obj.set · key value) own, congrArg (· ++ [key]) keys, usual.set call value⟩

theorem Follows.perform (host : Host α) (follows : Follows m l) (plain : op.Plain) : Follows (perform host m op).2 (apply l op) := by
  cases op with
  | set key value =>
    obtain ⟨m', returned, next⟩ := follows.set host plain
    unfold LimitKeys.perform
    dsimp only
    rw [returned]
    exact next
  | get key => exact follows

theorem Follows.get (follows : Follows m l) (found : l.get key = some value) : get m key = .value value := by
  unfold LimitKeys.get Inheriting.find
  rw [follows.own]
  have own : l.map.get? key = some value := found
  rw [own]

/-! ### One operation -/

theorem mem_keys_apply_set (l : LimitMap α) (key : String) (value : α) : key ∈ (l.set key value).keys :=
  ((l.set key value).keyed key).mpr (Obj.has_iff.mpr ⟨value, LimitMap.get_set_self l key value⟩)

theorem keys_full {first : String} {rest : List String} (keys : l.keys = first :: rest) (absent : l.map.has key = false)
    (full : l.limit ≤ l.keys.length) : (l.set key value).keys = rest ++ [key] := by
  rw [LimitMap.keys_set_of_new value absent]
  unfold LimitMap.makeRoom
  rw [keys] at full ⊢
  exact congrArg (· ++ [key]) (congrArg Prod.fst (if_pos full))

theorem keys_room (absent : l.map.has key = false) (room : l.keys.length < l.limit) :
    (l.set key value).keys = l.keys ++ [key] := by
  rw [LimitMap.keys_set_of_new value absent]
  unfold LimitMap.makeRoom
  cases keys : l.keys with
  | nil => rfl
  | cons first rest =>
    rw [keys] at room
    exact congrArg (· ++ [key]) (congrArg Prod.fst (if_neg (Nat.not_le_of_lt room)))

/-- Only a set of a new key drops one, and drops the first. -/
theorem gone_first {gone : String} (there : gone ∈ l.keys) (dropped : gone ∉ (apply l op).keys) :
    ∃ key value rest, op = .set key value ∧ key ∉ l.keys ∧ l.keys = gone :: rest := by
  cases op with
  | get key => exact absurd there dropped
  | set key value =>
    change gone ∉ (l.set key value).keys at dropped
    cases present : l.map.has key with
    | true =>
      rw [LimitMap.keys_set_of_has value present] at dropped
      exact absurd there dropped
    | false =>
      have new : key ∉ l.keys := fun listed => by
        rw [(l.keyed key).mp listed] at present
        cases present
      rcases Nat.lt_or_ge l.keys.length l.limit with room | full
      · rw [keys_room present room] at dropped
        exact absurd (List.mem_append_left _ there) dropped
      · cases keys : l.keys with
        | nil =>
          rw [keys] at there
          cases there
        | cons first rest =>
          rw [keys_full keys present full] at dropped
          rw [keys] at there new
          rcases List.mem_cons.mp there with rfl | later
          · exact ⟨key, value, rest, rfl, new, rfl⟩
          · exact absurd (List.mem_append_left _ later) dropped

theorem lastSet_get (ops : List (Op α)) (other key : String) : lastSet (ops ++ [.get other]) key = lastSet ops key := by
  simp [lastSet]

theorem lastSet_set (ops : List (Op α)) (other : String) (value : α) (key : String) :
    lastSet (ops ++ [.set other value]) key = if other = key then some value else lastSet ops key := by
  unfold lastSet
  rw [List.reverse_append, List.reverse_singleton, List.singleton_append, List.findSome?_cons]
  dsimp only
  by_cases same : other = key
  · rw [if_pos same, if_pos same]
  · rw [if_neg same, if_neg same]

/-! ### The run -/

theorem reached_snoc (host : Host α) (limit : Nat) (ops : List (Op α)) (op : Op α) :
    reached host limit (ops ++ [op]) = (perform host (reached host limit ops) op).2 := after_snoc _ ops op

/-- A key that is there came in before the last operation. -/
theorem enteredAt_lt (there : key ∈ (reached host limit ops).keys) : enteredAt host limit ops key < ops.length := by
  have within : enteredAt host limit ops key ≤ ops.length := Nat.findGreatest_le ops.length
  apply Nat.lt_of_le_of_ne within
  intro last
  have start : key ∉ (reached host limit (ops.take 0)).keys := List.not_mem_nil
  have absent : key ∉ (reached host limit (ops.take (enteredAt host limit ops key))).keys :=
    Nat.findGreatest_spec (P := fun n => key ∉ (reached host limit (ops.take n)).keys) (Nat.zero_le _) start
  rw [last, List.take_length] at absent
  exact absent there

/-- A key that stays came in when it did. -/
theorem enteredAt_stays (there : key ∈ (reached host limit (ops ++ [op])).keys) :
    enteredAt host limit (ops ++ [op]) key = enteredAt host limit ops key := by
  have greatest := Nat.findGreatest_eq_iff.mp (rfl : enteredAt host limit ops key = _)
  unfold enteredAt at greatest ⊢
  obtain ⟨within, absent, present⟩ := greatest
  rw [Nat.findGreatest_eq_iff, List.length_append, List.length_singleton]
  refine ⟨Nat.le_succ_of_le within, fun positive => ?_, fun n later before => ?_⟩
  · rw [List.take_append_of_le_length within]
    exact absent positive
  · rcases Nat.lt_or_ge ops.length n with last | early
    · have whole : n = (ops ++ [op]).length := by
        rw [List.length_append, List.length_singleton]
        omega
      rw [whole, List.take_length]
      exact not_not.mpr there
    · rw [List.take_append_of_le_length early]
      exact present later early

/-- A new key came in with the last operation. -/
theorem enteredAt_new (absent : key ∉ (reached host limit ops).keys) (there : key ∈ (reached host limit (ops ++ [op])).keys) :
    enteredAt host limit (ops ++ [op]) key = ops.length := by
  rw [enteredAt_stays there]
  unfold enteredAt
  rw [Nat.findGreatest_eq_iff]
  refine ⟨Nat.le_refl _, fun _ => ?_, fun n later before => absurd before (Nat.not_le_of_lt later)⟩
  rw [List.take_length]
  exact absent

/-- The map of the run, with its keys in the order they came in, and what they were set to last. -/
structure Kept (host : Host α) (limit : Nat) (ops : List (Op α)) (l : LimitMap α) : Prop where
  follows : Follows (reached host limit ops) l
  capacity : l.limit = limit
  read : ∀ key ∈ l.keys, lastSet ops key = l.get key
  ordered : l.keys.Pairwise fun older younger => enteredAt host limit ops older < enteredAt host limit ops younger

theorem Kept.present (kept : Kept host limit ops l) : key ∈ (reached host limit ops).keys ↔ key ∈ l.keys := by
  rw [kept.follows.keys]

theorem kept_get (kept : Kept host limit ops l) (key : String) : Kept host limit (ops ++ [.get key]) l := by
  have same : reached host limit (ops ++ [.get key]) = reached host limit ops := reached_snoc host limit ops (.get key)
  refine ⟨same ▸ kept.follows, kept.capacity, fun k there => ?_, ?_⟩
  · rw [lastSet_get]
    exact kept.read k there
  · refine kept.ordered.imp_of_mem fun older younger before => ?_
    rw [enteredAt_stays (same ▸ kept.present.mpr older), enteredAt_stays (same ▸ kept.present.mpr younger)]
    exact before

theorem kept_set (kept : Kept host limit ops l) (plain : (Op.set key value).Plain) :
    Kept host limit (ops ++ [.set key value]) (l.set key value) := by
  have follows : Follows (reached host limit (ops ++ [.set key value])) (l.set key value) := by
    rw [reached_snoc]
    exact kept.follows.perform host plain
  have listed : ∀ k, k ∈ (reached host limit (ops ++ [.set key value])).keys ↔ k ∈ (l.set key value).keys := fun k => by
    rw [follows.keys]
  have stays : ∀ k ∈ (l.set key value).keys,
      enteredAt host limit (ops ++ [.set key value]) k = enteredAt host limit ops k := fun k there =>
    enteredAt_stays ((listed k).mpr there)
  refine ⟨follows, (LimitMap.limit_set l key value).trans kept.capacity, fun k there => ?_, ?_⟩
  · rw [lastSet_set]
    by_cases same : key = k
    · rw [if_pos same, ← same]
      exact (LimitMap.get_set_self l key value).symm
    · rw [if_neg same]
      obtain ⟨v, found⟩ := Obj.has_iff.mp (((l.set key value).keyed k).mp there)
      have before : l.get k = some v := LimitMap.get_of_get_set (Ne.symm same) found
      exact (kept.read k (LimitMap.mem_keys_of_get before)).trans (before.trans found.symm)
  · cases present : l.map.has key with
    | true =>
      have keys := LimitMap.keys_set_of_has value present
      rw [keys] at stays ⊢
      refine kept.ordered.imp_of_mem fun older younger before => ?_
      rw [stays _ older, stays _ younger]
      exact before
    | false =>
      have new : key ∉ l.keys := fun there => by
        rw [(l.keyed key).mp there] at present
        cases present
      have last := enteredAt_new (mt kept.present.mp new) ((listed key).mpr (mem_keys_apply_set l key value))
      have keys := LimitMap.keys_set_of_new value present
      rw [keys] at stays ⊢
      refine List.pairwise_append.mpr ⟨?_, List.pairwise_singleton _ _, fun k there only end_ => ?_⟩
      · refine (kept.ordered.sublist l.makeRoom_sublist).imp_of_mem fun older younger before => ?_
        rw [stays _ (List.mem_append_left _ older), stays _ (List.mem_append_left _ younger)]
        exact before
      · rw [List.mem_singleton.mp end_, last, stays k (List.mem_append_left _ there)]
        exact enteredAt_lt (kept.present.mpr (l.makeRoom_sublist.subset there))

theorem kept_run (host : Host α) (limit : Nat) (positive : 1 ≤ limit) (ops : List (Op α)) (plain : ∀ op ∈ ops, op.Plain) :
    ∃ l, Kept host limit ops l := by
  induction ops using List.reverseRecOn with
  | nil =>
    have given : limit ≠ 0 := by omega
    exact ⟨LimitMap.new limit, Follows.new limit, if_neg given, fun _ there => absurd there List.not_mem_nil, List.Pairwise.nil⟩
  | append_singleton past op ih =>
    obtain ⟨l, kept⟩ := ih fun other there => plain other (List.mem_append_left _ there)
    have last := plain op (List.mem_append_right _ List.mem_cons_self)
    cases op with
    | get key => exact ⟨l, kept_get kept key⟩
    | set key value => exact ⟨l.set key value, kept_set kept last⟩

theorem Kept.oldest (kept : Kept host limit ops l) {first : String} {rest : List String} (keys : l.keys = first :: rest) :
    Oldest host limit ops first := by
  have ordered := kept.ordered
  rw [keys] at ordered
  constructor
  · rw [kept.present, keys]
    exact List.mem_cons_self
  · intro other there different
    rw [kept.present, keys] at there
    exact (List.pairwise_cons.mp ordered).1 other ((List.mem_cons.mp there).resolve_left different)

/-- Whatever plain keys are set and got, the two structures stay as they should. -/
theorem limit_map_sound (host : Host α) (limit : Nat) (positive : 1 ≤ limit) (ops : List (Op α))
    (plain : ∀ op ∈ ops, op.Plain) : Sound host limit ops := by
  obtain ⟨l, kept⟩ := kept_run host limit positive ops plain
  obtain ⟨follows, same, read, -⟩ := kept
  constructor
  · rw [follows.keys]
    exact l.once
  · intro key
    rw [follows.keys, follows.own]
    exact l.keyed key
  · rw [follows.keys, ← same]
    exact l.bounded
  · intro key there
    rw [follows.keys] at there
    obtain ⟨value, found⟩ := Obj.has_iff.mp ((l.keyed key).mp there)
    exact ⟨value, (read key there).trans found, follows.get found⟩
  · rintro past key value later rfl
    obtain ⟨l', kept'⟩ := kept_run host limit positive past fun op there => plain op (List.mem_append_left _ there)
    have set : (Op.set key value).Plain := plain _ (List.mem_append_right _ List.mem_cons_self)
    exact (kept_set kept' set).present.mpr (mem_keys_apply_set l' key value)
  · rintro past op later rfl gone there dropped
    obtain ⟨l', kept'⟩ := kept_run host limit positive past fun op there => plain op (List.mem_append_left _ there)
    have set : op.Plain := plain op (List.mem_append_right _ List.mem_cons_self)
    have next := kept'.follows.perform host set
    rw [reached_snoc, next.keys] at dropped
    obtain ⟨key, value, rest, is, new, keys⟩ := gone_first (kept'.present.mp there) dropped
    exact ⟨key, value, is, mt kept'.present.mp new, kept'.oldest keys⟩

end

/-- Numbers are no objects and no functions. -/
def numbers : Host Nat := ⟨fun _ => none, fun _ => none⟩

theorem limit_map_sound_two : Sound numbers 1 [.set "a" 1, .set "b" 2] :=
  limit_map_sound numbers 1 (by decide) _ (by decide)

/-- What is assigned to `__proto__` is no property: the key is taken for a new one each time. -/
theorem proto_twice : ¬ Sound numbers 2 [.set "__proto__" 1, .set "__proto__" 1] := by
  intro sound
  exact absurd sound.once (by decide)

end Tinygame.LimitKeys
