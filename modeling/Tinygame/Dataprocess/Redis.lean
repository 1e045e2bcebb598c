import Tinygame.Base.Obj
import Tinygame.Base.Program

/-!
# The store

`redis_client.js` as the data handles use it: the session database and the master database, whose
values are kept as objects. Each command is carried out whole; any command may fail, and a failed
one changes nothing.
-/

namespace Tinygame.Redis

/-- `Const.REDIS_NAME`. -/
def redisName : List (String × String) :=
  [("baseinfo", "1"), ("roleinfo", "2"), ("map", "3"), ("player", "4"), ("hero", "5"), ("skill", "6"),
    ("equip", "7"), ("bag", "8"), ("hang", "9"), ("afk", "10"), ("namePool", "11"), ("mailID", "12"),
    ("mailHead", "13"), ("mailText", "14"), ("globalMailPool", "15"), ("mailPool", "16"),
    ("mailGetList", "17"), ("taskPool", "18"), ("taskDonePool", "19"), ("scheduleTask", "20"), ("node", "21")]

def shortName (name : String) : String := (redisName.lookup name).getD name

def redisKeyGen (area uuid name : String) : String :=
  shortName area ++ ":" ++ shortName uuid ++ ":" ++ shortName name

/-- The last letter tells the kinds of keys apart. -/
theorem redisKeyGen_last (area uuid name : String) {c : Char} (last : (shortName name).toList.getLast? = some c) :
    (redisKeyGen area uuid name).toList.getLast? = some c := by
  unfold redisKeyGen
  rw [String.toList_append, List.getLast?_append, last]
  rfl

theorem key_ne {area uuid name area' uuid' name' : String} (c d : Char)
    (last : (shortName name).toList.getLast? = some c) (last' : (shortName name').toList.getLast? = some d)
    (different : c ≠ d) : redisKeyGen area uuid name ≠ redisKeyGen area' uuid' name' := by
  intro same
  have both := (redisKeyGen_last area uuid name last).symm.trans
    (same ▸ redisKeyGen_last area' uuid' name' last')
  exact different (Option.some.inj both)

/-- The session record of a connected player, as far as the handles use it. -/
structure Session where
  area : String
  uuid : String
  deriving DecidableEq

inductive Read where
  | getSession (sid : String)
  | get (key : String)
  | hget (key field : String)
  | hgetall (key : String)
  | hmget (key : String) (fields : List String)
  deriving DecidableEq

inductive Write (V : Type) where
  | set (key : String) (value : V)
  | hset (key field : String) (value : V)
  | hmset (key : String) (values : List (String × V))

inductive Command (V : Type) where
  | read (command : Read)
  | write (command : Write V)

inductive Reply (V : Type) where
  | failed
  | ok
  | session (session : Session)
  | value (value : Option V)
  | hash (values : Option (Obj V))
  | values (values : List (Option V))

structure Store (V : Type) where
  sessions : Obj Session
  strings : Obj V
  hashes : Obj (Obj V)

namespace Store
variable {V : Type}

def hash (store : Store V) (key : String) : Obj V := (store.hashes.get? key).getD ∅

def hget (store : Store V) (key field : String) : Option V := (store.hash key).get? field

def hset (store : Store V) (key field : String) (value : V) : Store V :=
  { store with hashes := store.hashes.set key ((store.hash key).set field value) }

def put (store : Store V) : Write V → Store V
  | .set key value => { store with strings := store.strings.set key value }
  | .hset key field value => store.hset key field value
  | .hmset key values => values.foldl (fun store v => store.hset key v.1 v.2) store

/-- Redis refuses `HMSET` and `HMGET` without fields. -/
def answer (store : Store V) : Command V → Reply V
  | .read (.getSession sid) => match store.sessions.get? sid with
    | some session => .session session
    | none => .failed
  | .read (.get key) => .value (store.strings.get? key)
  | .read (.hget key field) => .value (store.hget key field)
  | .read (.hgetall key) => .hash (store.hashes.get? key)
  | .read (.hmget key fields) =>
    if fields = [] then .failed else .values (fields.map (store.hget key))
  | .write (.hmset _ []) => .failed
  | .write _ => .ok

/-- What a command that was answered so has done. -/
def apply (store : Store V) : Command V × Reply V → Store V
  | (.write command, .ok) => store.put command
  | _ => store

/-- Carry out a command, unless it fails. -/
def exec (store : Store V) (command : Command V) (fails : Bool) : Store V × Reply V :=
  let reply := if fails then .failed else store.answer command
  (store.apply (command, reply), reply)

theorem exec_shown (store : Store V) (command : Command V) (fails : Bool) :
    (store.exec command fails).1 = store.apply (command, (store.exec command fails).2) := rfl

@[simp] theorem apply_read (store : Store V) (command : Read) (reply : Reply V) :
    store.apply (.read command, reply) = store := rfl

@[simp] theorem apply_ok (store : Store V) (command : Write V) :
    store.apply (.write command, .ok) = store.put command := rfl

@[simp] theorem apply_failed (store : Store V) (command : Command V) :
    store.apply (command, .failed) = store := by
  cases command <;> rfl

@[simp] theorem exec_true (store : Store V) (command : Command V) :
    store.exec command true = (store, .failed) := by
  simp [exec]

theorem exec_read (store : Store V) (command : Read) :
    store.exec (.read command) false = (store, store.answer (.read command)) := by
  simp [exec]

@[simp] theorem exec_set (store : Store V) (key : String) (value : V) :
    store.exec (.write (.set key value)) false =
      ({ store with strings := store.strings.set key value }, .ok) := rfl

@[simp] theorem exec_hset (store : Store V) (key field : String) (value : V) :
    store.exec (.write (.hset key field value)) false = (store.hset key field value, .ok) := rfl

/-! ### Hashes -/

theorem hash_hset (store : Store V) (key other field : String) (value : V) :
    (store.hset key field value).hash other =
      if other = key then (store.hash key).set field value else store.hash other := by
  unfold hset hash
  rw [Obj.get?_set]
  split <;> rfl

theorem hget_hset (store : Store V) (key key' field field' : String) (value : V) :
    (store.hset key field value).hget key' field' =
      if key' = key ∧ field' = field then some value else store.hget key' field' := by
  unfold hget
  rw [hash_hset]
  by_cases same : key' = key
  · subst same
    simp [Obj.get?_set]
  · simp [same]

@[simp] theorem hset_strings (store : Store V) (key field : String) (value : V) :
    (store.hset key field value).strings = store.strings := rfl

@[simp] theorem hset_sessions (store : Store V) (key field : String) (value : V) :
    (store.hset key field value).sessions = store.sessions := rfl

end Store

/-! ### What programs have written -/

/-- The write a command made, when it was answered so. -/
def written? {V : Type} : Command V × Reply V → Option (Write V)
  | (.write command, .ok) => some command
  | _ => none

/-- The writes of a trace that were carried out, in order. -/
def writes {V : Type} (trace : List (Command V × Reply V)) : List (Write V) := trace.filterMap written?

variable {V : Type}

@[simp] theorem writes_nil : writes ([] : List (Command V × Reply V)) = [] := rfl

theorem writes_append (first second : List (Command V × Reply V)) :
    writes (first ++ second) = writes first ++ writes second := List.filterMap_append

@[simp] theorem writes_read (command : Read) (reply : Reply V) (rest : List (Command V × Reply V)) :
    writes ((.read command, reply) :: rest) = writes rest := by
  cases reply <;> rfl

@[simp] theorem writes_ok (command : Write V) (rest : List (Command V × Reply V)) :
    writes ((.write command, .ok) :: rest) = command :: writes rest := rfl

/-- The journal changes the store by the writes in it. -/
theorem foldl_apply (store : Store V) (trace : List (Command V × Reply V)) :
    trace.foldl Store.apply store = (writes trace).foldl Store.put store := by
  induction trace generalizing store with
  | nil => rfl
  | cons entry rest ih =>
    obtain ⟨command, reply⟩ := entry
    cases command with
    | read command =>
      rw [List.foldl_cons, writes_read]
      exact ih store
    | write command => cases reply <;> exact ih _

/-! ### Reads that writes replace -/

/-- The read whose answer a write changes. -/
def Write.replaces : Write V → Option Read
  | .set key _ => some (.get key)
  | .hset key field _ => some (.hget key field)
  | .hmset _ _ => none

/-- The latest answer to `read` in the trace. -/
def lastAnswer (trace : List (Command V × Reply V)) (read : Read) : Option (Reply V) :=
  trace.reverse.findSome? fun entry => match entry.1 with
    | .read command => if command = read then some entry.2 else none
    | .write _ => none

theorem lastAnswer_read (trace : List (Command V × Reply V)) (command read : Read) (reply : Reply V) :
    lastAnswer (trace ++ [(.read command, reply)]) read =
      if command = read then some reply else lastAnswer trace read := by
  unfold lastAnswer
  rw [List.reverse_append, List.reverse_singleton, List.singleton_append, List.findSome?_cons]
  dsimp only
  split <;> simp_all

theorem lastAnswer_write (trace : List (Command V × Reply V)) (command : Write V) (read : Read) (reply : Reply V) :
    lastAnswer (trace ++ [(.write command, reply)]) read = lastAnswer trace read := by
  unfold lastAnswer
  rw [List.reverse_append, List.reverse_singleton, List.singleton_append, List.findSome?_cons]

/-- The next step of program `i`, if it is a write, finds what it replaces as the program read it. -/
def Fresh {γ α : Type} (pool : Pool (Store V) (Command V) (Reply V) γ α) (i : Nat) : Prop :=
  ∀ write next read, pool.programs[i]? = some (.call (.write write) next) → write.replaces = some read →
    lastAnswer (pool.journalOf i) read = some (pool.store.answer (.read read))

end Tinygame.Redis
