import Tinygame.Luanode.Bridge

/-!
# The bridge on the stack

A push leaves one value more on the stack, and a read leaves the stack as it was, as long as there is room.
-/

namespace Tinygame.Luanode
open JsValue
variable {room : Nat} {arrange : List (LuaKey × Lua) → List (LuaKey × Lua)}

/-! ### Pushing -/

theorem pushSlot_ran {x : Lua} {stack pushed : List Lua} (ran : pushSlot room x stack = some pushed) :
    pushed = x :: stack ∧ stack.length < room := by
  unfold pushSlot at ran
  split at ran
  · rename_i free
    exact ⟨(Option.some.inj ran).symm, free⟩
  · cases ran

theorem pushSlot_free {x : Lua} {stack : List Lua} (free : stack.length < room) : pushSlot room x stack = some (x :: stack) :=
  if_pos free

theorem pushKey_eq (key : Key) (stack : List Lua) : pushKey room key stack = pushSlot room (luaKey key).value stack := by
  cases key <;> rfl

@[simp] theorem ofValue_value (key : LuaKey) : LuaKey.ofValue key.value = some key := by
  cases key <;> rfl

theorem settable_eq (value : Lua) (key : LuaKey) (entries : List (LuaKey × Lua)) (rest : List Lua) :
    lua_settable arrange (value :: key.value :: .table entries :: rest) = some (.table (setEntry arrange entries key value) :: rest) := by
  show (LuaKey.ofValue key.value).map _ = _
  rw [ofValue_value]
  rfl

theorem pushElements_eq (k : Nat) (elements : List JsValue) (stack : List Lua) :
    pushElements room arrange k elements stack = pushMembers room arrange (numbered k elements) stack := by
  induction elements generalizing k stack with
  | nil => rw [pushElements, numbered, pushMembers]
  | cons value rest ih =>
    rw [pushElements, numbered, pushMembers]
    simp only [ih]

theorem push_tree {v : JsValue} {members : List (Key × JsValue)} (tree : v.entries? = some members) (stack : List Lua) :
    push_js_value_to_lua room arrange v stack =
      (pushSlot room (.table []) stack).bind (pushMembers room arrange members) := by
  cases v with
  | array elements =>
    obtain rfl := Option.some.inj tree
    rw [push_js_value_to_lua]
    simp only [pushElements_eq]
    rfl
  | object own =>
    obtain rfl := Option.some.inj tree
    rw [push_js_value_to_lua]
    rfl
  | _ => cases tree

theorem push_leaf {v : JsValue} (leaf : v.entries? = none) (stack : List Lua) :
    push_js_value_to_lua room arrange v stack = pushSlot room (toLua arrange v) stack := by
  cases v with
  | array elements => cases leaf
  | object members => cases leaf
  | _ => rw [push_js_value_to_lua, toLua]

/-- One round of the loop, and those that follow. -/
theorem pushMembers_ran {members : List (Key × JsValue)}
    (each : ∀ member ∈ members, ∀ stack pushed, push_js_value_to_lua room arrange member.2 stack = some pushed →
      pushed = toLua arrange member.2 :: stack) {entries : List (LuaKey × Lua)} {stack pushed : List Lua}
    (ran : pushMembers room arrange members (.table entries :: stack) = some pushed) :
    pushed = .table (memberEntries arrange members entries) :: stack ∧ ∀ member ∈ members, ∃ below : List Lua,
      below.length = stack.length + 2 ∧ (push_js_value_to_lua room arrange member.2 below).isSome := by
  induction members generalizing entries with
  | nil =>
    rw [pushMembers] at ran
    rw [memberEntries]
    exact ⟨(Option.some.inj ran).symm, fun _ there => absurd there List.not_mem_nil⟩
  | cons member rest ih =>
    rw [pushMembers] at ran
    obtain ⟨keyed, first, ran⟩ := Option.bind_eq_some_iff.mp ran
    obtain ⟨valued, second, ran⟩ := Option.bind_eq_some_iff.mp ran
    obtain ⟨set, third, ran⟩ := Option.bind_eq_some_iff.mp ran
    rw [pushKey_eq] at first
    obtain ⟨rfl, -⟩ := pushSlot_ran first
    obtain rfl := each member (List.mem_cons_self ..) _ _ second
    rw [settable_eq] at third
    obtain rfl := Option.some.inj third
    obtain ⟨is, later⟩ := ih (fun other there => each other (List.mem_cons_of_mem _ there)) ran
    rw [memberEntries]
    refine ⟨is, fun other there => ?_⟩
    rcases List.mem_cons.mp there with rfl | there
    · exact ⟨_, rfl, Option.isSome_iff_exists.mpr ⟨_, second⟩⟩
    · exact later other there

/-- A push that goes well leaves the value on top of the stack. -/
theorem push_ran (v : JsValue) {stack pushed : List Lua} (ran : push_js_value_to_lua room arrange v stack = some pushed) :
    pushed = toLua arrange v :: stack ∧ stack.length < room := by
  induction v using JsValue.induction generalizing stack pushed with
  | leaf v leaf =>
    rw [push_leaf leaf] at ran
    exact pushSlot_ran ran
  | tree v members tree ih =>
    rw [push_tree tree] at ran
    obtain ⟨table, made, ran⟩ := Option.bind_eq_some_iff.mp ran
    obtain ⟨rfl, free⟩ := pushSlot_ran made
    rw [toLua_tree tree]
    exact ⟨(pushMembers_ran (fun member there _ _ ran => (ih member there ran).1) ran).1, free⟩

theorem pushMembers_fits {n : Nat} {members : List (Key × JsValue)} {stack : List Lua} (free : stack.length + 2 + n ≤ room)
    (each : ∀ member ∈ members, ∀ below : List Lua, below.length = stack.length + 2 → 0 < n ∧
      push_js_value_to_lua room arrange member.2 below = some (toLua arrange member.2 :: below)) (entries : List (LuaKey × Lua)) :
    pushMembers room arrange members (.table entries :: stack) = some (.table (memberEntries arrange members entries) :: stack) := by
  induction members generalizing entries with
  | nil => rw [pushMembers, memberEntries]
  | cons member rest ih =>
    have keyed : pushKey room member.1 (.table entries :: stack) = some ((luaKey member.1).value :: .table entries :: stack) := by
      rw [pushKey_eq]
      apply pushSlot_free
      show stack.length + 1 < room
      omega
    have valued := (each member (List.mem_cons_self ..) ((luaKey member.1).value :: .table entries :: stack) rfl).2
    rw [pushMembers, keyed]
    show ((push_js_value_to_lua room arrange member.2 ((luaKey member.1).value :: .table entries :: stack)).bind _) = _
    rw [valued]
    show ((lua_settable arrange (toLua arrange member.2 :: (luaKey member.1).value :: .table entries :: stack)).bind _) = _
    rw [settable_eq, memberEntries]
    exact ih (fun other there => each other (List.mem_cons_of_mem _ there)) _

theorem Fits.pos {n : Nat} {v : JsValue} (fits : Fits n v) : 0 < n := by
  cases fits <;> exact Nat.succ_pos _

/-- With enough room a push goes well. -/
theorem push_fits {n : Nat} {v : JsValue} (fits : Fits n v) {stack : List Lua} (free : stack.length + n ≤ room) :
    push_js_value_to_lua room arrange v stack = some (toLua arrange v :: stack) := by
  induction fits generalizing stack with
  | leaf leaf =>
    rw [push_leaf leaf]
    exact pushSlot_free (by omega)
  | @tree n v members tree each ih =>
    rw [push_tree tree, pushSlot_free (by omega), toLua_tree tree]
    refine pushMembers_fits (n := n) (by omega) (fun member there below size => ?_) []
    exact ⟨(each member there).pos, ih member there (by omega)⟩

/-! ### Reading -/

/-- No key of a table is there twice. -/
inductive Sane : Lua → Prop
  | nil : Sane .nil
  | boolean (b : Bool) : Sane (.boolean b)
  | number (n : Int) : Sane (.number n)
  | string (s : String) : Sane (.string s)
  | table {entries : List (LuaKey × Lua)} (distinct : (entries.map Prod.fst).Nodup) (each : ∀ entry ∈ entries, Sane entry.2) :
      Sane (.table entries)

/-- The value is read within so many places of the stack. -/
inductive Reads : Nat → Lua → Prop
  | nil (n : Nat) : Reads (n + 1) .nil
  | boolean (n : Nat) (b : Bool) : Reads (n + 1) (.boolean b)
  | number (n : Nat) (x : Int) : Reads (n + 1) (.number x)
  | string (n : Nat) (s : String) : Reads (n + 1) (.string s)
  | table (n : Nat) {entries : List (LuaKey × Lua)} (each : ∀ entry ∈ entries, Reads n entry.2) : Reads (n + 2) (.table entries)

theorem entriesAfter_value {done rest : List (LuaKey × Lua)} {key : LuaKey} {value : Lua}
    (distinct : ((done ++ (key, value) :: rest).map Prod.fst).Nodup) :
    entriesAfter (done ++ (key, value) :: rest) key.value = some rest := by
  have others : done.dropWhile (·.1 ≠ key) = [] := by
    refine List.dropWhile_eq_nil_iff.mpr fun entry there => decide_eq_true fun same => ?_
    rw [List.map_append, List.nodup_append] at distinct
    exact distinct.2.2 entry.1 (List.mem_map_of_mem there) key (List.mem_cons_self ..) same
  have after : ((done ++ (key, value) :: rest).dropWhile (·.1 ≠ key)).tail = rest := by
    rw [List.dropWhile_append, others, if_pos List.isEmpty_nil, List.dropWhile_cons_of_neg (by simp)]
    rfl
  cases key <;> exact congrArg some after

theorem next_end {entries : List (LuaKey × Lua)} {key : Lua} {stack : List Lua} (over' : entriesAfter entries key = some []) :
    lua_next room (key :: .table entries :: stack) = some (false, .table entries :: stack) := by
  show (entriesAfter entries key >>= _) = _
  rw [over']
  rfl

theorem next_entry {entries rest : List (LuaKey × Lua)} {key : Lua} {entry : LuaKey × Lua} {stack : List Lua}
    (after : entriesAfter entries key = some (entry :: rest)) : lua_next room (key :: .table entries :: stack) =
      (pushSlot room entry.2 (entry.1.value :: .table entries :: stack)).map fun stack => (true, stack) := by
  show (entriesAfter entries key >>= _) = _
  rw [after]
  show (pushSlot room entry.2 (entry.1.value :: .table entries :: stack)).bind _ = _
  cases pushSlot room entry.2 (entry.1.value :: .table entries :: stack) <;> rfl

theorem read_key (room fuel : Nat) (key : LuaKey) (value : Lua) (stack : List Lua) :
    ∃ name, lua_to_js_value room (fuel + 1) (value :: key.value :: stack) 2 = some (name, value :: key.value :: stack) ∧
      Key.ofValue name = some (nameOf key) := by
  cases key with
  | number n =>
    refine ⟨.number n, by rw [lua_to_js_value]; rfl, ?_⟩
    show (if (n : Rat).den = 1 then some (Key.ofNumber (n : Rat).num) else none) = _
    rw [Rat.den_intCast, if_pos rfl, Rat.num_intCast]
    rfl
  | string s => exact ⟨.string s, by rw [lua_to_js_value]; rfl, rfl⟩

theorem read_end {fuel : Nat} {entries : List (LuaKey × Lua)} {key : Lua} (over' : entriesAfter entries key = some [])
    (members : List (Key × JsValue)) (stack : List Lua) :
    tableToObject room (fuel + 1) members (key :: .table entries :: stack) = some (.object members, .table entries :: stack) := by
  rw [tableToObject, next_end over']
  rfl

/-- One round of the loop over a table. -/
theorem read_entry {fuel : Nat} {entries rest : List (LuaKey × Lua)} {key : Lua} {entry : LuaKey × Lua}
    (after : entriesAfter entries key = some (entry :: rest)) (members : List (Key × JsValue)) (stack : List Lua) :
    tableToObject room (fuel + 2) members (key :: .table entries :: stack) =
      if stack.length + 2 < room then
        (lua_to_js_value room (fuel + 1) (entry.2 :: entry.1.value :: .table entries :: stack) 1).bind fun read =>
          tableToObject room (fuel + 1) (setMember members (nameOf entry.1) read.1) read.2.tail
      else none := by
  obtain ⟨name, named, is⟩ := read_key room fuel entry.1 entry.2 (.table entries :: stack)
  rw [tableToObject, next_entry after]
  unfold pushSlot
  split
  · rename_i free
    have free : stack.length + 2 < room := free
    rw [if_pos free]
    show ((lua_to_js_value room (fuel + 1) (entry.2 :: entry.1.value :: .table entries :: stack) 2).bind _) = _
    rw [named]
    show ((lua_to_js_value room (fuel + 1) (entry.2 :: entry.1.value :: .table entries :: stack) 1).bind _) = _
    congr 1
    funext read
    show ((Key.ofValue name).bind _) = _
    rw [is]
    rfl
  · rename_i full
    have full : ¬stack.length + 2 < room := full
    rw [if_neg full]
    rfl

theorem read_entry_short {entries rest : List (LuaKey × Lua)} {key : Lua} {entry : LuaKey × Lua}
    (after : entriesAfter entries key = some (entry :: rest)) (members : List (Key × JsValue)) (stack : List Lua) :
    tableToObject room 1 members (key :: .table entries :: stack) = none := by
  rw [tableToObject, next_entry after]
  cases pushSlot room entry.2 (entry.1.value :: .table entries :: stack) with
  | none => rfl
  | some stack =>
    have short : lua_to_js_value room 0 stack 2 = none := by rw [lua_to_js_value]
    simp [short]

/-- What is read without going wrong is the value on top, and it fits. -/
theorem read_ran (fuel : Nat) :
    (∀ (l : Lua) (stack : List Lua) (read : JsValue × List Lua), Sane l → stack.length < room →
      lua_to_js_value room fuel (l :: stack) 1 = some read → read = (ofLua l, l :: stack) ∧ Reads (room - stack.length) l) ∧
    ∀ (done rest : List (LuaKey × Lua)) (key : Lua) (members : List (Key × JsValue)) (stack : List Lua) (read : JsValue × List Lua),
      ((done ++ rest).map Prod.fst).Nodup → (∀ entry ∈ rest, Sane entry.2) → entriesAfter (done ++ rest) key = some rest →
      tableToObject room fuel members (key :: .table (done ++ rest) :: stack) = some read →
      read = (.object (ofEntries rest members), .table (done ++ rest) :: stack) ∧
        ∀ entry ∈ rest, Reads (room - (stack.length + 2)) entry.2 := by
  induction fuel with
  | zero =>
    refine ⟨fun l stack read _ _ ran => ?_, fun done rest key members stack read _ _ _ ran => ?_⟩
    · rw [lua_to_js_value] at ran
      cases ran
    · rw [tableToObject] at ran
      cases ran
  | succ fuel ih =>
    constructor
    · intro l stack read sane free ran
      have room' : room - stack.length = (room - stack.length - 1) + 1 := by omega
      rw [lua_to_js_value] at ran
      cases sane with
      | table distinct each =>
        rename_i entries
        obtain ⟨pushed, first, ran⟩ := Option.bind_eq_some_iff.mp ran
        obtain ⟨rfl, more⟩ := pushSlot_ran first
        have more : stack.length + 1 < room := more
        obtain ⟨is, reads⟩ := ih.2 [] entries .nil [] stack read distinct each rfl ran
        rw [ofLua, show room - stack.length = (room - (stack.length + 2)) + 2 by omega]
        exact ⟨is, .table _ reads⟩
      | nil =>
        rw [ofLua, room']
        exact ⟨(Option.some.inj ran).symm, .nil _⟩
      | boolean b =>
        rw [ofLua, room']
        exact ⟨(Option.some.inj ran).symm, .boolean _ b⟩
      | number n =>
        rw [ofLua, room']
        exact ⟨(Option.some.inj ran).symm, .number _ n⟩
      | string s =>
        rw [ofLua, room']
        exact ⟨(Option.some.inj ran).symm, .string _ s⟩
    · intro done rest key members stack read distinct each after ran
      cases rest with
      | nil =>
        rw [read_end after] at ran
        rw [ofEntries]
        exact ⟨(Option.some.inj ran).symm, fun _ there => absurd there List.not_mem_nil⟩
      | cons entry rest =>
        cases fuel with
        | zero =>
          rw [read_entry_short after] at ran
          cases ran
        | succ fuel =>
          rw [read_entry after] at ran
          split at ran
          · rename_i free
            obtain ⟨value, first, ran⟩ := Option.bind_eq_some_iff.mp ran
            obtain ⟨rfl, reads⟩ := ih.1 entry.2 (entry.1.value :: .table _ :: stack) value (each entry (List.mem_cons_self ..)) free first
            have whole : done ++ entry :: rest = (done ++ [entry]) ++ rest := by simp
            have after' : entriesAfter ((done ++ [entry]) ++ rest) entry.1.value = some rest := by
              rw [← whole]
              exact entriesAfter_value distinct
            rw [whole] at ran distinct
            obtain ⟨is, later⟩ := ih.2 (done ++ [entry]) rest entry.1.value _ stack read distinct
              (fun other there => each other (List.mem_cons_of_mem _ there)) after' ran
            rw [ofEntries, whole]
            exact ⟨is, List.forall_mem_cons.mpr ⟨reads, later⟩⟩
          · cases ran

theorem Reads.pos {n : Nat} {l : Lua} (reads : Reads n l) : 0 < n := by
  cases reads <;> omega

/-- The loop over the entries that are left. -/
theorem readLoop_fits {rest : List (LuaKey × Lua)} {stack : List Lua}
    (each : ∀ entry ∈ rest, stack.length + 2 < room ∧ ∀ below : List Lua, below.length = stack.length + 2 →
      ∃ enough, ∀ fuel ≥ enough, lua_to_js_value room fuel (entry.2 :: below) 1 = some (ofLua entry.2, entry.2 :: below))
    {done : List (LuaKey × Lua)} {key : Lua} (distinct : ((done ++ rest).map Prod.fst).Nodup)
    (after : entriesAfter (done ++ rest) key = some rest) (members : List (Key × JsValue)) :
    ∃ enough, ∀ fuel ≥ enough, tableToObject room fuel members (key :: .table (done ++ rest) :: stack) =
      some (.object (ofEntries rest members), .table (done ++ rest) :: stack) := by
  induction rest generalizing done key members with
  | nil =>
    refine ⟨1, fun fuel least => ?_⟩
    obtain ⟨fuel, rfl⟩ := Nat.exists_eq_add_of_le' least
    rw [read_end after, ofEntries]
  | cons entry rest ih =>
    obtain ⟨free, read⟩ := each entry (List.mem_cons_self ..)
    have whole : done ++ entry :: rest = (done ++ [entry]) ++ rest := by simp
    have after' : entriesAfter ((done ++ [entry]) ++ rest) entry.1.value = some rest := by
      rw [← whole]
      exact entriesAfter_value distinct
    obtain ⟨few, value⟩ := read (entry.1.value :: .table (done ++ entry :: rest) :: stack) rfl
    obtain ⟨more, later⟩ := ih (fun other there => each other (List.mem_cons_of_mem _ there)) (whole ▸ distinct) after'
      (setMember members (nameOf entry.1) (ofLua entry.2))
    refine ⟨max few more + 2, fun fuel least => ?_⟩
    obtain ⟨fuel, rfl⟩ := Nat.exists_eq_add_of_le' (show 2 ≤ fuel by omega)
    rw [read_entry after, if_pos free, value (fuel + 1) (by omega), ofEntries, whole]
    exact later (fuel + 1) (by omega)

theorem read_leaf {l : Lua} {stack : List Lua}
    (read : ∀ fuel, lua_to_js_value room (fuel + 1) (l :: stack) 1 = some (ofLua l, l :: stack)) :
    ∃ enough, ∀ fuel ≥ enough, lua_to_js_value room fuel (l :: stack) 1 = some (ofLua l, l :: stack) := by
  refine ⟨1, fun fuel least => ?_⟩
  obtain ⟨fuel, rfl⟩ := Nat.exists_eq_add_of_le' least
  exact read fuel

/-- With enough room and enough rounds the value on top is read. -/
theorem read_fits {n : Nat} {l : Lua} (reads : Reads n l) (sane : Sane l) {stack : List Lua} (free : stack.length + n ≤ room) :
    ∃ enough, ∀ fuel ≥ enough, lua_to_js_value room fuel (l :: stack) 1 = some (ofLua l, l :: stack) := by
  induction reads generalizing stack with
  | table n each ih =>
    cases sane with
    | table distinct sane =>
      rename_i entries
      have first : entriesAfter ([] ++ entries) .nil = some entries := rfl
      have distinct' : (([] ++ entries).map Prod.fst).Nodup := distinct
      have read (entry : LuaKey × Lua) (there : entry ∈ entries) : stack.length + 2 < room ∧
          ∀ below : List Lua, below.length = stack.length + 2 → ∃ enough, ∀ fuel ≥ enough,
            lua_to_js_value room fuel (entry.2 :: below) 1 = some (ofLua entry.2, entry.2 :: below) := by
        have some' := (each entry there).pos
        exact ⟨by omega, fun below size => ih entry there (sane entry there) (by omega)⟩
      obtain ⟨enough, looped⟩ := readLoop_fits read distinct' first []
      refine ⟨enough + 1, fun fuel least => ?_⟩
      obtain ⟨fuel, rfl⟩ := Nat.exists_eq_add_of_le' (show 1 ≤ fuel by omega)
      rw [lua_to_js_value]
      show (pushSlot room .nil (.table entries :: stack)).bind _ = _
      rw [pushSlot_free (by show stack.length + 1 < room; omega), ofLua]
      exact looped fuel (by omega)
  | _ =>
    apply read_leaf
    intro fuel
    rw [lua_to_js_value, ofLua]
    rfl

/-! ### There and back -/

section
variable (perm : ∀ entries, (arrange entries).Perm entries)
include perm

theorem toLua_sane {v : JsValue} (plain : Plain v) : Sane (toLua arrange v) := by
  induction v using JsValue.induction with
  | leaf v leaf =>
    cases plain with
    | null => rw [toLua]; exact .nil
    | boolean b => rw [toLua]; exact .boolean b
    | number x => rw [toLua]; exact .number _
    | string text => rw [toLua]; exact .string _
    | array => cases leaf
    | object => cases leaf
  | tree v members tree ih =>
    have row := plain.row tree
    rw [toLua_tree tree]
    refine .table (memberEntries_distinct perm members List.nodup_nil) fun entry there => ?_
    rcases mem_memberEntries perm row there with none' | ⟨member, listed, rfl⟩
    · cases none'
    · exact ih member (mem_solid.mp listed).1 (row.plain member (mem_solid.mp listed).1)

theorem reads_of_fits {n : Nat} {v : JsValue} (fits : Fits n v) (plain : Plain v) : Reads n (toLua arrange v) := by
  induction fits with
  | @leaf n v leaf =>
    cases plain with
    | null => rw [toLua]; exact .nil n
    | boolean b => rw [toLua]; exact .boolean n b
    | number x => rw [toLua]; exact .number n _
    | string text => rw [toLua]; exact .string n _
    | array => cases leaf
    | object => cases leaf
  | @tree n v members tree each ih =>
    have row := plain.row tree
    rw [toLua_tree tree]
    refine .table n fun entry there => ?_
    rcases mem_memberEntries perm row there with none' | ⟨member, listed, rfl⟩
    · cases none'
    · exact ih member (mem_solid.mp listed).1 (row.plain member (mem_solid.mp listed).1)

/-- What was pushed and can be read had enough room. -/
theorem fits_of_ran {v : JsValue} (plain : Plain v) (crosses : Crosses v) {stack pushed : List Lua}
    (ran : push_js_value_to_lua room arrange v stack = some pushed) (reads : Reads (room - stack.length) (toLua arrange v)) :
    Fits (room - stack.length) v := by
  induction v using JsValue.induction generalizing stack pushed with
  | leaf v leaf =>
    have free := (push_ran v ran).2
    rw [show room - stack.length = (room - stack.length - 1) + 1 by omega]
    exact .leaf leaf
  | tree v members tree ih =>
    have row := plain.row tree
    cases crosses with
    | tree tree' keys each =>
      obtain rfl := Option.some.inj (tree.symm.trans tree')
      rw [push_tree tree] at ran
      obtain ⟨table, made, ran⟩ := Option.bind_eq_some_iff.mp ran
      obtain ⟨rfl, free⟩ := pushSlot_ran made
      obtain ⟨-, pushes⟩ := pushMembers_ran (fun member there _ _ ran => (push_ran member.2 ran).1) ran
      rw [toLua_tree tree] at reads
      generalize size : room - stack.length = n at reads
      cases reads with
      | table n entries =>
        refine .tree tree fun member there => ?_
        obtain ⟨below, length, pushed'⟩ := pushes member there
        obtain ⟨above, ran'⟩ := Option.isSome_iff_exists.mp pushed'
        have left : n = room - below.length := by omega
        cases null : member.2.isNull with
        | true =>
          have free := (push_ran member.2 ran').2
          have leaf : member.2.entries? = none := by
            cases value : member.2 with
            | null => rfl
            | _ =>
              rw [value] at null
              cases null
          rw [show n = (n - 1) + 1 by omega]
          exact .leaf leaf
        | false =>
          have solid' := mem_solid.mpr ⟨there, null⟩
          have listed : (luaKey member.1, toLua arrange member.2) ∈ memberEntries arrange members [] := by
            rw [(memberEntries_perm perm row keys fun _ _ => List.not_mem_nil).mem_iff, List.nil_append]
            exact List.mem_map_of_mem solid'
          have read : Reads n (toLua arrange member.2) := entries _ listed
          rw [left] at read ⊢
          exact ih member there (row.plain member there) (each member solid') ran' read
    | _ => cases tree

end

/-- A push and a read that go well, leave the stack with one value more, and bring the same tree back. -/
def Bridged (room : Nat) (arrange : List (LuaKey × Lua) → List (LuaKey × Lua)) (v : JsValue) (stack : List Lua) : Prop :=
  ∃ pushed back, push_js_value_to_lua room arrange v stack = some pushed ∧ pushed.tail = stack ∧
    (∃ enough, ∀ fuel ≥ enough, lua_to_js_value room fuel pushed 1 = some (back, pushed)) ∧ Faithful v back

theorem Bridged.crosses (perm : ∀ entries, (arrange entries).Perm entries) {v : JsValue} (plain : Plain v) {stack : List Lua}
    (bridged : Bridged room arrange v stack) : Crosses v ∧ Fits (room - stack.length) v := by
  obtain ⟨pushed, back, pushes, -, ⟨enough, read⟩, faithful⟩ := bridged
  obtain ⟨rfl, free⟩ := push_ran v pushes
  obtain ⟨same, reads⟩ := (read_ran enough).1 _ stack _ (toLua_sane perm plain) free (read enough le_rfl)
  obtain ⟨rfl, -⟩ := Prod.mk.inj same
  have crosses := (faithful_iff perm v plain).mp faithful
  exact ⟨crosses, fits_of_ran perm plain crosses pushes reads⟩

/-- A value is bridged where its numbers and keys cross and the stack has room for it. -/
theorem bridge_faithful (perm : ∀ entries, (arrange entries).Perm entries) {v : JsValue} (plain : Plain v) (stack : List Lua) :
    Bridged room arrange v stack ↔ Crosses v ∧ Fits (room - stack.length) v := by
  refine ⟨Bridged.crosses perm plain, fun ⟨crosses, fits⟩ => ?_⟩
  have free : stack.length + (room - stack.length) ≤ room := by
    have some' := fits.pos
    omega
  have reads := reads_of_fits perm fits plain
  exact ⟨_, _, push_fits fits free, rfl, read_fits reads (toLua_sane perm plain) free, (faithful_iff perm v plain).mpr crosses⟩

theorem bridge_faithful_list : Bridged 40 id (.array [.number (7 : Int), .null]) [] := by
  refine (bridge_faithful (fun _ => .refl _) ?_ []).mpr ⟨?_, ?_⟩
  · refine .array (by decide) fun value there => ?_
    rcases List.mem_cons.mp there with rfl | there
    · exact .number _
    · exact List.mem_singleton.mp there ▸ .null
  · refine .tree rfl (fun member there => ?_) fun member there => ?_
    · obtain rfl := List.mem_singleton.mp there
      show 0 + 1 < 2 ^ 31
      omega
    · obtain rfl := List.mem_singleton.mp there
      exact .number 7 (by omega) (by omega)
  · refine .tree (n := 38) rfl fun member there => ?_
    rcases List.mem_cons.mp there with rfl | there
    · exact .leaf rfl
    · exact List.mem_singleton.mp there ▸ .leaf rfl

/-- A half comes back as nothing. -/
theorem half_lost : Plain (.object [(.string "rate", .number (1 / 2))]) ∧
    ∀ room, ¬ Bridged room id (.object [(.string "rate", .number (1 / 2))]) [] := by
  have plain : Plain (.object [(.string "rate", .number (1 / 2))]) := by
    refine .object (List.nodup_singleton _) (fun member there => ?_) fun member there => ?_
    · obtain rfl := List.mem_singleton.mp there
      show Char.ofNat 0 ∉ "rate".toList
      decide
    · obtain rfl := List.mem_singleton.mp there
      exact .number _
  refine ⟨plain, fun room bridged => ?_⟩
  obtain ⟨crosses, -⟩ := bridged.crosses (fun _ => .refl _) plain
  cases crosses with
  | tree tree keys each =>
    obtain rfl := Option.some.inj tree
    have half := each _ (List.mem_singleton_self _)
    generalize same : (1 / 2 : Rat) = x at half
    cases half with
    | number n =>
      have den := congrArg Rat.den same
      rw [Rat.den_intCast] at den
      exact absurd den (by decide +kernel)
    | tree tree => cases tree

end Tinygame.Luanode
