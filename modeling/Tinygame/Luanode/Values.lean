import Mathlib

/-!
# Values between JavaScript and Lua

`values.cc`, the bridge that the server hands values to the scripts with. A stack of Lua is the list of its values
from the top down, a place in it counts from the top, and `none` is what goes wrong: nobody calls `lua_checkstack`,
and a push into a stack that is full writes past its end.
-/

namespace Tinygame.Luanode

/-- A property name as `GetPropertyNames` lists it. An array index is a number. -/
inductive Key where
  | number (n : Nat)
  | string (s : String)
deriving DecidableEq

/-- The members of an object are its own. -/
inductive JsValue where
  | undefined
  | null
  | boolean (b : Bool)
  | number (x : Rat)
  | string (s : String)
  | array (elements : List JsValue)
  | object (members : List (Key × JsValue))

inductive LuaKey where
  | number (n : Int)
  | string (s : String)
deriving DecidableEq

/-- The entries of a table stand in the order in which `lua_next` visits them. The numbers are those that
`lua_pushinteger` makes. -/
inductive Lua where
  | nil
  | boolean (b : Bool)
  | number (n : Int)
  | string (s : String)
  | table (entries : List (LuaKey × Lua))

/-! ### What the two engines do -/

/-- `(int)` of a double. What does not fit is the smallest number, as x86 has it. -/
def toInt (x : Rat) : Int :=
  let n := x.num.tdiv x.den
  if -2 ^ 31 ≤ n ∧ n < 2 ^ 31 then n else -2 ^ 31

/-- What `strcpy` copies. -/
def cString (s : String) : String := String.ofList (s.toList.takeWhile (· ≠ Char.ofNat 0))

/-- The property name that an integer is turned into. -/
def Key.ofNumber (n : Int) : Key := if 0 ≤ n ∧ n < 2 ^ 32 - 1 then .number n.toNat else .string (toString n)

def Key.ofValue : JsValue → Option Key
  | .number x => if x.den = 1 then some (ofNumber x.num) else none
  | .string s => some (.string s)
  | _ => none

/-- `obj->Set`. What is set as `__proto__` is the prototype, and no member. -/
def setMember (members : List (Key × JsValue)) (key : Key) (value : JsValue) : List (Key × JsValue) :=
  if key = .string "__proto__" then members
  else if key ∈ members.map Prod.fst then members.map fun member => if member.1 = key then (key, value) else member
  else members ++ [(key, value)]

def LuaKey.ofValue : Lua → Option LuaKey
  | .number n => some (.number n)
  | .string s => some (.string s)
  | _ => none

def Lua.isNil : Lua → Bool
  | .nil => true
  | _ => false

section
-- `arrange` is how a table orders its entries when one has been written
variable (room : Nat) (arrange : List (LuaKey × Lua) → List (LuaKey × Lua))

def setEntry (entries : List (LuaKey × Lua)) (key : LuaKey) (value : Lua) : List (LuaKey × Lua) :=
  let others := entries.filter (·.1 ≠ key)
  arrange (if value.isNil then others else others ++ [(key, value)])

/-- `lua_push..`, `lua_newtable` -/
def pushSlot (x : Lua) (stack : List Lua) : Option (List Lua) := if stack.length < room then some (x :: stack) else none

/-- `lua_settable(L, -3)` -/
def lua_settable : List Lua → Option (List Lua)
  | value :: key :: .table entries :: rest =>
    (LuaKey.ofValue key).map fun key => .table (setEntry arrange entries key value) :: rest
  | _ => none

/-- The entries after the key. -/
def entriesAfter (entries : List (LuaKey × Lua)) (key : Lua) : Option (List (LuaKey × Lua)) :=
  match key with
  | .nil => some entries
  | _ => (LuaKey.ofValue key).map fun key => (entries.dropWhile (·.1 ≠ key)).tail

def LuaKey.value : LuaKey → Lua
  | .number n => .number n
  | .string s => .string s

/-- `lua_next(L, -2)`, and whether there was another entry. -/
def lua_next : List Lua → Option (Bool × List Lua)
  | key :: .table entries :: rest => do
    match ← entriesAfter entries key with
    | [] => pure (false, .table entries :: rest)
    | (next, value) :: _ => do
      let stack ← pushSlot room value (next.value :: .table entries :: rest)
      pure (true, stack)
  | _ => none

/-! ### The bridge -/

/-- `push_js_value_to_lua` of a key. -/
def pushKey : Key → List Lua → Option (List Lua)
  | .number n => pushSlot room (.number (toInt n))
  | .string s => pushSlot room (.string (cString s))

mutual

def push_js_value_to_lua : JsValue → List Lua → Option (List Lua)
  | .string s, stack => pushSlot room (.string (cString s)) stack
  | .number x, stack => pushSlot room (.number (toInt x)) stack
  | .boolean b, stack => pushSlot room (.boolean b) stack
  | .array elements, stack => do
    let stack ← pushSlot room (.table []) stack
    pushElements 0 elements stack
  | .object members, stack => do
    let stack ← pushSlot room (.table []) stack
    pushMembers members stack
  | .undefined, stack | .null, stack => pushSlot room .nil stack

/-- The loop over an array, whose keys are counted from one. -/
def pushElements : Nat → List JsValue → List Lua → Option (List Lua)
  | _, [], stack => some stack
  | k, value :: rest, stack => do
    let stack ← pushKey room (.number (k + 1)) stack
    let stack ← push_js_value_to_lua value stack
    let stack ← lua_settable arrange stack
    pushElements (k + 1) rest stack

/-- The loop over an object. -/
def pushMembers : List (Key × JsValue) → List Lua → Option (List Lua)
  | [], stack => some stack
  | (key, value) :: rest, stack => do
    let stack ← pushKey room key stack
    let stack ← push_js_value_to_lua value stack
    let stack ← lua_settable arrange stack
    pushMembers rest stack

end

mutual

def lua_to_js_value : Nat → List Lua → Nat → Option (JsValue × List Lua)
  | 0, _, _ => none
  | fuel + 1, stack, i =>
    match stack[i - 1]? with
    | some (.boolean b) => some (.boolean b, stack)
    | some (.number n) => some (.number n, stack)
    | some (.string s) => some (.string s, stack)
    | some (.table _) => do
      let stack ← pushSlot room .nil stack
      tableToObject fuel [] stack
    | some .nil | none => some (.undefined, stack)

/-- The loop over a table. -/
def tableToObject : Nat → List (Key × JsValue) → List Lua → Option (JsValue × List Lua)
  | 0, _, _ => none
  | fuel + 1, members, stack => do
    let (more, stack) ← lua_next room stack
    if more then
      let (key, stack) ← lua_to_js_value fuel stack 2
      let (value, stack) ← lua_to_js_value fuel stack 1
      let name ← Key.ofValue key
      tableToObject fuel (setMember members name value) stack.tail
    else pure (.object members, stack)

end

end

end Tinygame.Luanode
