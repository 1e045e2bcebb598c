import Tinygame.Luanode.Values

/-!
# What the bridge makes of a value

What a value of JavaScript becomes in Lua, and what that becomes on the way back, without the stack. A tree comes
back as it was where its numbers fit into an `int` and its keys survive.
-/

namespace Tinygame.Luanode

/-! ### Trees -/

namespace JsValue

/-- The elements under the keys the bridge gives them. -/
def numbered (k : Nat) : List JsValue → List (Key × JsValue)
  | [] => []
  | value :: rest => (.number (k + 1), value) :: numbered (k + 1) rest

/-- What the bridge loops over. -/
def entries? : JsValue → Option (List (Key × JsValue))
  | .array elements => some (numbered 0 elements)
  | .object members => some members
  | _ => none

def isNull : JsValue → Bool
  | .null => true
  | _ => false

theorem sizeOf_numbered {k : Nat} {elements : List JsValue} {member : Key × JsValue} (there : member ∈ numbered k elements) :
    sizeOf member.2 < sizeOf elements := by
  induction elements generalizing k with
  | nil => cases there
  | cons value rest ih =>
    rcases List.mem_cons.mp there with rfl | there
    · show sizeOf value < 1 + sizeOf value + sizeOf rest
      omega
    · have smaller := ih there
      show sizeOf member.2 < 1 + sizeOf value + sizeOf rest
      omega

theorem sizeOf_entries {v : JsValue} {members : List (Key × JsValue)} (tree : v.entries? = some members) {member : Key × JsValue}
    (there : member ∈ members) : sizeOf member.2 < sizeOf v := by
  cases v with
  | array elements =>
    obtain rfl := Option.some.inj tree
    have smaller := sizeOf_numbered there
    rw [JsValue.array.sizeOf_spec]
    omega
  | object own =>
    obtain rfl := Option.some.inj tree
    have smaller := List.sizeOf_lt_of_mem there
    have part : sizeOf member = 1 + sizeOf member.1 + sizeOf member.2 := by cases member; rfl
    rw [JsValue.object.sizeOf_spec]
    omega
  | _ => cases tree

/-- What holds of a tree when it holds of its members, holds of every value. -/
theorem induction {P : JsValue → Prop} (leaf : ∀ v, v.entries? = none → P v)
    (tree : ∀ v members, v.entries? = some members → (∀ member ∈ members, P member.2) → P v) (v : JsValue) : P v := by
  cases entries : v.entries? with
  | none => exact leaf v entries
  | some members => exact tree v members entries fun member there => induction leaf tree member.2
termination_by sizeOf v
decreasing_by exact sizeOf_entries entries there

end JsValue

open JsValue

/-! ### There and back -/

def luaKey : Key → LuaKey
  | .number n => .number (toInt n)
  | .string s => .string (cString s)

def nameOf : LuaKey → Key
  | .number n => .ofNumber n
  | .string s => .string s

section
variable (arrange : List (LuaKey × Lua) → List (LuaKey × Lua))

mutual

def toLua : JsValue → Lua
  | .string s => .string (cString s)
  | .number x => .number (toInt x)
  | .boolean b => .boolean b
  | .array elements => .table (elementEntries 0 elements [])
  | .object members => .table (memberEntries members [])
  | .undefined | .null => .nil

def elementEntries : Nat → List JsValue → List (LuaKey × Lua) → List (LuaKey × Lua)
  | _, [], entries => entries
  | k, value :: rest, entries =>
    elementEntries (k + 1) rest (setEntry arrange entries (luaKey (.number (k + 1))) (toLua value))

def memberEntries : List (Key × JsValue) → List (LuaKey × Lua) → List (LuaKey × Lua)
  | [], entries => entries
  | (key, value) :: rest, entries => memberEntries rest (setEntry arrange entries (luaKey key) (toLua value))

end

mutual

def ofLua : Lua → JsValue
  | .nil => .undefined
  | .boolean b => .boolean b
  | .number n => .number n
  | .string s => .string s
  | .table entries => .object (ofEntries entries [])

def ofEntries : List (LuaKey × Lua) → List (Key × JsValue) → List (Key × JsValue)
  | [], members => members
  | (key, value) :: rest, members => ofEntries rest (setMember members (nameOf key) (ofLua value))

end

end

/-! ### What is asked of values -/

/-- Text without a NUL. -/
def Text (s : String) : Prop := Char.ofNat 0 ∉ s.toList

def Key.Plain : Key → Prop
  | .number n => n < 2 ^ 32 - 1
  | .string s => Text s

/-- The values that the bridge is for. -/
inductive Plain : JsValue → Prop
  | null : Plain .null
  | boolean (b : Bool) : Plain (.boolean b)
  | number (x : Rat) : Plain (.number x)
  | string {s : String} (text : Text s) : Plain (.string s)
  | array {elements : List JsValue} (short : elements.length < 2 ^ 32) (each : ∀ value ∈ elements, Plain value) :
      Plain (.array elements)
  | object {members : List (Key × JsValue)} (distinct : (members.map Prod.fst).Nodup)
      (keys : ∀ member ∈ members, member.1.Plain) (each : ∀ member ∈ members, Plain member.2) : Plain (.object members)

/-- The name under which a key comes back. That of the last element of the longest array is no array index. -/
def Key.shown : Key → Key
  | .number n => .ofNumber n
  | .string s => .string s

def solid (members : List (Key × JsValue)) : List (Key × JsValue) := members.filter fun member => !member.2.isNull

/-- The same tree. An array comes back as an object whose indices are counted from one, without the members that
are null. -/
inductive Faithful : JsValue → JsValue → Prop
  | null : Faithful .null .null
  | boolean (b : Bool) : Faithful (.boolean b) (.boolean b)
  | number (x : Rat) : Faithful (.number x) (.number x)
  | string (s : String) : Faithful (.string s) (.string s)
  | tree {v : JsValue} {members back : List (Key × JsValue)} (tree : v.entries? = some members)
      (keys : ((solid members).map fun member => member.1.shown).Perm (back.map Prod.fst))
      (each : ∀ member ∈ solid members, ∀ value, (member.1.shown, value) ∈ back → Faithful member.2 value) :
      Faithful v (.object back)

def Key.Crosses : Key → Prop
  | .number n => n < 2 ^ 31
  | .string s => s ≠ "__proto__"

/-- Numbers are whole and fit into an `int`, and what is not null stands under a key that does, or that is not the name
of the prototype. -/
inductive Crosses : JsValue → Prop
  | boolean (b : Bool) : Crosses (.boolean b)
  | number (n : Int) (low : -2 ^ 31 ≤ n) (high : n < 2 ^ 31) : Crosses (.number n)
  | string (s : String) : Crosses (.string s)
  | tree {v : JsValue} {members : List (Key × JsValue)} (tree : v.entries? = some members)
      (keys : ∀ member ∈ solid members, member.1.Crosses) (each : ∀ member ∈ solid members, Crosses member.2) : Crosses v

/-- The value is pushed and read within so many places of the stack. -/
inductive Fits : Nat → JsValue → Prop
  | leaf {n : Nat} {v : JsValue} (leaf : v.entries? = none) : Fits (n + 1) v
  | tree {n : Nat} {v : JsValue} {members : List (Key × JsValue)} (tree : v.entries? = some members)
      (each : ∀ member ∈ members, Fits n member.2) : Fits (n + 2) v

/-! ### Numbers and names -/

theorem toInt_int {n : Int} (low : -2 ^ 31 ≤ n) (high : n < 2 ^ 31) : toInt n = n := by
  unfold toInt
  rw [Rat.num_intCast, Rat.den_intCast, Nat.cast_one, Int.tdiv_one]
  exact if_pos ⟨low, high⟩

theorem toInt_nat {n : Nat} (high : n < 2 ^ 31) : toInt n = n := toInt_int (n := n) (by omega) (by omega)

theorem toInt_range (x : Rat) : -2 ^ 31 ≤ toInt x ∧ toInt x < 2 ^ 31 := by
  unfold toInt
  dsimp only
  split
  · assumption
  · omega

theorem cString_text {s : String} (text : Text s) : cString s = s := by
  have whole : s.toList.takeWhile (· ≠ Char.ofNat 0) = s.toList :=
    List.takeWhile_eq_self_iff.mpr fun c member => decide_eq_true fun same => text (same ▸ member)
  rw [cString, whole, String.ofList_toList]

theorem ofNumber_injective {m n : Int} (same : Key.ofNumber m = Key.ofNumber n) : m = n := by
  unfold Key.ofNumber at same
  split at same <;> split at same
  · have same := Key.number.inj same
    omega
  · cases same
  · cases same
  · exact Int.repr_injective (Key.string.inj same)

/-- An index that a key of Lua comes back as fits into an `int`. -/
theorem crosses_of_number {n m : Nat} (same : nameOf (luaKey (.number m)) = (Key.number n).shown) : n < 2 ^ 31 := by
  have same : Key.ofNumber (toInt m) = Key.ofNumber n := same
  have range := toInt_range m
  have is := ofNumber_injective same
  omega

theorem shown_number {n : Nat} (index : n < 2 ^ 32 - 1) : (Key.number n).shown = .number n := by
  show Key.ofNumber n = _
  unfold Key.ofNumber
  rw [if_pos (by omega), Int.toNat_natCast]

theorem luaKey_number {n : Nat} (crosses : n < 2 ^ 31) : luaKey (.number n) = .number n :=
  congrArg LuaKey.number (toInt_nat crosses)

theorem luaKey_string {s : String} (text : Text s) : luaKey (.string s) = .string s :=
  congrArg LuaKey.string (cString_text text)

/-- The strings among the keys are texts. -/
def Key.Worded : Key → Prop
  | .number _ => True
  | .string s => Text s

/-- A key that crosses is met by no other. -/
theorem luaKey_injective {key other : Key} (crosses : key.Crosses) (worded : key.Worded) (worded' : other.Worded)
    (same : luaKey other = luaKey key) : other = key := by
  cases key with
  | number n =>
    cases other with
    | number m =>
      rw [luaKey_number crosses] at same
      have same : toInt m = n := LuaKey.number.inj same
      unfold toInt at same
      rw [Rat.num_natCast, Rat.den_natCast, Nat.cast_one, Int.tdiv_one] at same
      dsimp only at same
      split at same
      · exact congrArg Key.number (Int.ofNat.inj same)
      · omega
    | string s => cases same
  | string s =>
    cases other with
    | number m => cases same
    | string t =>
      rw [luaKey_string worded, luaKey_string worded'] at same
      exact congrArg Key.string (LuaKey.string.inj same)

theorem nameOf_luaKey {key : Key} (crosses : key.Crosses) (worded : key.Worded) : nameOf (luaKey key) = key.shown := by
  cases key with
  | number n => rw [luaKey_number crosses]; rfl
  | string s => rw [luaKey_string worded]; rfl

/-! ### The members of a plain value -/

/-- What the bridge may rely on when it loops over a plain value. -/
structure Row (members : List (Key × JsValue)) : Prop where
  distinct : (members.map Prod.fst).Nodup
  worded : ∀ member ∈ members, member.1.Worded
  shown : (∀ member ∈ members, ∃ n, member.1 = .number n) ∨ ∀ member ∈ members, member.1.Plain
  plain : ∀ member ∈ members, Plain member.2

theorem mem_numbered {k : Nat} {elements : List JsValue} {member : Key × JsValue} (there : member ∈ numbered k elements) :
    member.2 ∈ elements ∧ ∃ n, member.1 = .number n ∧ k < n := by
  induction elements generalizing k with
  | nil => cases there
  | cons value rest ih =>
    rcases List.mem_cons.mp there with rfl | there
    · exact ⟨List.mem_cons_self .., k + 1, rfl, Nat.lt_succ_self k⟩
    · obtain ⟨member', n, is, later⟩ := ih there
      exact ⟨List.mem_cons_of_mem _ member', n, is, by omega⟩

theorem numbered_distinct (k : Nat) (elements : List JsValue) : ((numbered k elements).map Prod.fst).Nodup := by
  induction elements generalizing k with
  | nil => exact List.nodup_nil
  | cons value rest ih =>
    refine List.nodup_cons.mpr ⟨fun there => ?_, ih (k + 1)⟩
    obtain ⟨member, there, same⟩ := List.mem_map.mp there
    obtain ⟨-, n, is, later⟩ := mem_numbered there
    have equal := Key.number.inj (is.symm.trans same)
    omega

theorem Plain.row {v : JsValue} (plain : Plain v) {members : List (Key × JsValue)} (tree : v.entries? = some members) :
    Row members := by
  cases plain with
  | array short each =>
    obtain rfl := Option.some.inj tree
    refine ⟨numbered_distinct .., fun member there => ?_, .inl fun member there => ?_, fun member there => ?_⟩
    · obtain ⟨-, n, is, -⟩ := mem_numbered there
      exact is ▸ trivial
    · obtain ⟨-, n, is, -⟩ := mem_numbered there
      exact ⟨n, is⟩
    · exact each _ (mem_numbered there).1
  | object distinct keys each =>
    obtain rfl := Option.some.inj tree
    refine ⟨distinct, fun member there => ?_, .inr keys, each⟩
    obtain ⟨key, value⟩ := member
    cases key with
    | number n => exact trivial
    | string s => exact keys _ there
  | _ => cases tree

theorem Row.tail {member : Key × JsValue} {rest : List (Key × JsValue)} (row : Row (member :: rest)) : Row rest where
  distinct := (List.nodup_cons.mp row.distinct).2
  worded := fun member there => row.worded member (List.mem_cons_of_mem _ there)
  shown := row.shown.imp (fun each member there => each member (List.mem_cons_of_mem _ there))
    fun each member there => each member (List.mem_cons_of_mem _ there)
  plain := fun member there => row.plain member (List.mem_cons_of_mem _ there)

theorem mem_solid {members : List (Key × JsValue)} {member : Key × JsValue} :
    member ∈ solid members ↔ member ∈ members ∧ member.2.isNull = false := by
  rw [solid, List.mem_filter, Bool.not_eq_true']

/-! ### There -/

section
variable {arrange : List (LuaKey × Lua) → List (LuaKey × Lua)}

theorem elementEntries_eq (k : Nat) (elements : List JsValue) (entries : List (LuaKey × Lua)) :
    elementEntries arrange k elements entries = memberEntries arrange (numbered k elements) entries := by
  induction elements generalizing k entries with
  | nil => rw [elementEntries, numbered, memberEntries]
  | cons value rest ih => rw [elementEntries, numbered, memberEntries, ih]

theorem toLua_tree {v : JsValue} {members : List (Key × JsValue)} (tree : v.entries? = some members) :
    toLua arrange v = .table (memberEntries arrange members []) := by
  cases v with
  | array elements =>
    obtain rfl := Option.some.inj tree
    rw [toLua, elementEntries_eq]
  | object own =>
    obtain rfl := Option.some.inj tree
    rw [toLua]
  | _ => cases tree

theorem toLua_isNil {v : JsValue} (plain : Plain v) : (toLua arrange v).isNil = v.isNull := by
  cases plain <;> rw [toLua] <;> rfl

variable (perm : ∀ entries, (arrange entries).Perm entries)
include perm

theorem setEntry_nil {entries : List (LuaKey × Lua)} {key : LuaKey} {value : Lua} (null : value.isNil = true) :
    (setEntry arrange entries key value).Perm (entries.filter (·.1 ≠ key)) := by
  unfold setEntry
  dsimp only
  rw [if_pos null]
  exact perm _

theorem setEntry_solid {entries : List (LuaKey × Lua)} {key : LuaKey} {value : Lua} (solid : value.isNil = false) :
    (setEntry arrange entries key value).Perm (entries.filter (·.1 ≠ key) ++ [(key, value)]) := by
  unfold setEntry
  dsimp only
  rw [if_neg (by rw [solid]; nofun)]
  exact perm _

theorem setEntry_distinct {entries : List (LuaKey × Lua)} (distinct : (entries.map Prod.fst).Nodup) (key : LuaKey) (value : Lua) :
    ((setEntry arrange entries key value).map Prod.fst).Nodup := by
  have others : ((entries.filter (·.1 ≠ key)).map Prod.fst).Nodup := distinct.sublist (List.filter_sublist.map _)
  cases null : value.isNil with
  | true => exact ((setEntry_nil perm null).map Prod.fst).nodup_iff.mpr others
  | false =>
    refine ((setEntry_solid perm null).map Prod.fst).nodup_iff.mpr ?_
    rw [List.map_append, List.nodup_append]
    refine ⟨others, List.nodup_singleton _, fun other there new is => ?_⟩
    obtain rfl := List.mem_singleton.mp is
    obtain ⟨entry, listed, rfl⟩ := List.mem_map.mp there
    exact of_decide_eq_true (List.mem_filter.mp listed).2

theorem memberEntries_distinct (members : List (Key × JsValue)) {entries : List (LuaKey × Lua)}
    (distinct : (entries.map Prod.fst).Nodup) : ((memberEntries arrange members entries).map Prod.fst).Nodup := by
  induction members generalizing entries with
  | nil =>
    rw [memberEntries]
    exact distinct
  | cons member rest ih =>
    rw [memberEntries]
    exact ih (setEntry_distinct perm distinct _ _)

/-- An entry was there, or stands for a member that is not null. -/
theorem mem_memberEntries {members : List (Key × JsValue)} (row : Row members) {entries : List (LuaKey × Lua)} {entry : LuaKey × Lua}
    (there : entry ∈ memberEntries arrange members entries) :
    entry ∈ entries ∨ ∃ member ∈ solid members, entry = (luaKey member.1, toLua arrange member.2) := by
  induction members generalizing entries with
  | nil =>
    rw [memberEntries] at there
    exact .inl there
  | cons member rest ih =>
    rw [memberEntries] at there
    rcases ih row.tail there with there | ⟨member', there, is⟩
    · have null : (toLua arrange member.2).isNil = member.2.isNull := toLua_isNil (row.plain member (List.mem_cons_self ..))
      cases solid' : member.2.isNull with
      | true =>
        rw [(setEntry_nil perm (null.trans solid')).mem_iff] at there
        exact .inl (List.mem_filter.mp there).1
      | false =>
        rw [(setEntry_solid perm (null.trans solid')).mem_iff, List.mem_append, List.mem_singleton] at there
        refine there.imp (fun there => (List.mem_filter.mp there).1) fun is => ⟨member, ?_, is⟩
        exact mem_solid.mpr ⟨List.mem_cons_self .., solid'⟩
    · obtain ⟨listed, solid'⟩ := mem_solid.mp there
      exact .inr ⟨member', mem_solid.mpr ⟨List.mem_cons_of_mem _ listed, solid'⟩, is⟩

/-- Where the keys cross, no member is lost. -/
theorem memberEntries_perm {members : List (Key × JsValue)} (row : Row members) (crosses : ∀ member ∈ solid members, member.1.Crosses)
    {entries : List (LuaKey × Lua)} (apart : ∀ member ∈ members, luaKey member.1 ∉ entries.map Prod.fst) :
    (memberEntries arrange members entries).Perm
      (entries ++ (solid members).map fun member => (luaKey member.1, toLua arrange member.2)) := by
  induction members generalizing entries with
  | nil =>
    rw [memberEntries, solid, List.filter_nil, List.map_nil, List.append_nil]
  | cons member rest ih =>
    have null : (toLua arrange member.2).isNil = member.2.isNull := toLua_isNil (row.plain member (List.mem_cons_self ..))
    have crosses' (other : Key × JsValue) (there : other ∈ solid rest) : other.1.Crosses := by
      obtain ⟨listed, solid'⟩ := mem_solid.mp there
      exact crosses other (mem_solid.mpr ⟨List.mem_cons_of_mem _ listed, solid'⟩)
    have others : entries.filter (·.1 ≠ luaKey member.1) = entries :=
      List.filter_eq_self.mpr fun entry there => decide_eq_true fun same =>
        apart member (List.mem_cons_self ..) (List.mem_map.mpr ⟨entry, there, same⟩)
    rw [memberEntries]
    cases solid' : member.2.isNull with
    | true =>
      have set : (setEntry arrange entries (luaKey member.1) (toLua arrange member.2)).Perm entries :=
        (setEntry_nil perm (null.trans solid')).trans (List.Perm.of_eq others)
      have skipped : solid (member :: rest) = solid rest := List.filter_cons_of_neg (by simp [solid'])
      rw [skipped]
      refine (ih row.tail crosses' fun other there => ?_).trans (set.append_right _)
      rw [(set.map Prod.fst).mem_iff]
      exact apart other (List.mem_cons_of_mem _ there)
    | false =>
      have set : (setEntry arrange entries (luaKey member.1) (toLua arrange member.2)).Perm
          (entries ++ [(luaKey member.1, toLua arrange member.2)]) :=
        (setEntry_solid perm (null.trans solid')).trans ((List.Perm.of_eq others).append_right _)
      have kept : solid (member :: rest) = member :: solid rest := List.filter_cons_of_pos (by simp [solid'])
      rw [kept, List.map_cons, ← List.singleton_append, ← List.append_assoc]
      refine (ih row.tail crosses' fun other there => ?_).trans (set.append_right _)
      rw [(set.map Prod.fst).mem_iff, List.map_append, List.mem_append]
      rintro (there' | same)
      · exact apart other (List.mem_cons_of_mem _ there) there'
      · have equal := luaKey_injective (crosses member (mem_solid.mpr ⟨List.mem_cons_self .., solid'⟩))
          (row.worded member (List.mem_cons_self ..)) (row.worded other (List.mem_cons_of_mem _ there)) (List.mem_singleton.mp same)
        exact (List.nodup_cons.mp row.distinct).1 (List.mem_map.mpr ⟨other, there, equal⟩)

end

/-! ### And back -/

theorem setMember_keys {members : List (Key × JsValue)} {key other : Key} {value : JsValue}
    (there : other ∈ (setMember members key value).map Prod.fst) :
    other ∈ members.map Prod.fst ∨ other = key ∧ key ≠ .string "__proto__" := by
  unfold setMember at there
  split at there
  · exact .inl there
  · rename_i member
    split at there
    · obtain ⟨entry, listed, rfl⟩ := List.mem_map.mp there
      obtain ⟨was, before, rfl⟩ := List.mem_map.mp listed
      split
      · exact .inr ⟨rfl, member⟩
      · exact .inl (List.mem_map_of_mem before)
    · rw [List.map_append, List.mem_append] at there
      exact there.imp_right fun new => ⟨List.mem_singleton.mp new, member⟩

theorem ofEntries_keys {entries : List (LuaKey × Lua)} {members : List (Key × JsValue)} {key : Key}
    (there : key ∈ (ofEntries entries members).map Prod.fst) :
    key ∈ members.map Prod.fst ∨ key ≠ .string "__proto__" ∧ ∃ entry ∈ entries, nameOf entry.1 = key := by
  induction entries generalizing members with
  | nil =>
    rw [ofEntries] at there
    exact .inl there
  | cons entry rest ih =>
    rw [ofEntries] at there
    rcases ih there with there | ⟨member, other, listed, is⟩
    · exact (setMember_keys there).imp_right fun ⟨is, member⟩ => ⟨is ▸ member, entry, List.mem_cons_self .., is.symm⟩
    · exact .inr ⟨member, other, List.mem_cons_of_mem _ listed, is⟩

/-- Entries whose names are all different become members. -/
theorem ofEntries_append {entries : List (LuaKey × Lua)} {members : List (Key × JsValue)}
    (distinct : (entries.map fun entry => nameOf entry.1).Nodup)
    (fresh : ∀ entry ∈ entries, nameOf entry.1 ∉ members.map Prod.fst ∧ nameOf entry.1 ≠ .string "__proto__") :
    ofEntries entries members = members ++ entries.map fun entry => (nameOf entry.1, ofLua entry.2) := by
  induction entries generalizing members with
  | nil =>
    rw [ofEntries]
    exact (List.append_nil _).symm
  | cons entry rest ih =>
    obtain ⟨new, member⟩ := fresh entry (List.mem_cons_self ..)
    obtain ⟨apart, later⟩ := List.nodup_cons.mp distinct
    have set : setMember members (nameOf entry.1) (ofLua entry.2) = members ++ [(nameOf entry.1, ofLua entry.2)] := by
      unfold setMember
      rw [if_neg member, if_neg new]
    rw [ofEntries, set, ih later fun other there => ⟨?_, (fresh other (List.mem_cons_of_mem _ there)).2⟩, List.append_assoc]
    · rfl
    · rw [List.map_append, List.mem_append]
      rintro (there' | same)
      · exact (fresh other (List.mem_cons_of_mem _ there)).1 there'
      · exact apart (List.mem_map.mpr ⟨other, there, List.mem_singleton.mp same⟩)

/-! ### There and back -/

theorem Key.Crosses.shown {key : Key} (crosses : key.Crosses) : key.shown = key := by
  cases key with
  | number n =>
    have small : n < 2 ^ 31 := crosses
    exact shown_number (by omega)
  | string s => rfl

section
variable {arrange : List (LuaKey × Lua) → List (LuaKey × Lua)} (perm : ∀ entries, (arrange entries).Perm entries)
  {members : List (Key × JsValue)} (row : Row members)
include perm row

/-- What the members of a tree come back as, where their keys cross. -/
theorem ofEntries_perm (crosses : ∀ member ∈ solid members, member.1.Crosses) :
    (ofEntries (memberEntries arrange members []) []).Perm
      ((solid members).map fun member => (member.1, ofLua (toLua arrange member.2))) := by
  have whole : (memberEntries arrange members []).Perm
      ((solid members).map fun member => (luaKey member.1, toLua arrange member.2)) :=
    memberEntries_perm perm row crosses fun _ _ => List.not_mem_nil
  have names (member : Key × JsValue) (there : member ∈ solid members) : nameOf (luaKey member.1) = member.1 :=
    (nameOf_luaKey (crosses member there) (row.worded member (mem_solid.mp there).1)).trans (crosses member there).shown
  have listed : ((memberEntries arrange members []).map fun entry => nameOf entry.1).Perm ((solid members).map Prod.fst) := by
    refine (whole.map _).trans (List.Perm.of_eq ?_)
    rw [List.map_map]
    exact List.map_congr_left names
  have distinct : ((solid members).map Prod.fst).Nodup := row.distinct.sublist (List.filter_sublist.map _)
  have appended : ofEntries (memberEntries arrange members []) [] =
      [] ++ (memberEntries arrange members []).map fun entry => (nameOf entry.1, ofLua entry.2) := by
    refine ofEntries_append (listed.nodup_iff.mpr distinct) fun entry there => ⟨List.not_mem_nil, fun prototype => ?_⟩
    obtain ⟨member, there', is⟩ := List.mem_map.mp (listed.mem_iff.mp (List.mem_map_of_mem there))
    exact (is.trans prototype ▸ crosses member there' : (Key.string "__proto__").Crosses) rfl
  rw [appended, List.nil_append]
  refine (whole.map _).trans (List.Perm.of_eq ?_)
  rw [List.map_map]
  exact List.map_congr_left fun member there => congrArg (·, ofLua (toLua arrange member.2)) (names member there)

/-- Members that come back under their names had keys that cross. -/
theorem crosses_of_keys (keys : ((solid members).map fun member => member.1.shown).Perm
      ((ofEntries (memberEntries arrange members []) []).map Prod.fst)) : ∀ member ∈ solid members, member.1.Crosses := by
  intro member there
  have back := keys.mem_iff.mp (List.mem_map_of_mem there)
  rcases ofEntries_keys back with none' | ⟨proper, entry, listed, is⟩
  · cases none'
  rcases mem_memberEntries perm row listed with none' | ⟨other, there', rfl⟩
  · cases none'
  have own := (mem_solid.mp there).1
  have met := (mem_solid.mp there').1
  obtain ⟨key, value⟩ := member
  obtain ⟨key', value'⟩ := other
  cases key with
  | string s => exact fun prototype => proper (congrArg Key.string prototype)
  | number n =>
    cases key' with
    | number m => exact crosses_of_number is
    | string s =>
      rcases row.shown with numbers | plain
      · obtain ⟨m, is⟩ := numbers _ met
        cases is
      · have index : n < 2 ^ 32 - 1 := plain _ own
        rw [shown_number index] at is
        cases is

end

/-- A plain value comes back as it was exactly where it crosses. -/
theorem faithful_iff {arrange : List (LuaKey × Lua) → List (LuaKey × Lua)} (perm : ∀ entries, (arrange entries).Perm entries)
    (v : JsValue) (plain : Plain v) : Faithful v (ofLua (toLua arrange v)) ↔ Crosses v := by
  induction v using JsValue.induction with
  | leaf v leaf =>
    cases plain with
    | null =>
      rw [toLua, ofLua]
      exact ⟨nofun, fun crosses => by cases crosses; contradiction⟩
    | boolean b =>
      rw [toLua, ofLua]
      exact ⟨fun _ => .boolean b, fun _ => .boolean b⟩
    | number x =>
      rw [toLua, ofLua]
      constructor
      · intro faithful
        obtain ⟨low, high⟩ := toInt_range x
        have crosses := Crosses.number (toInt x) low high
        generalize ((toInt x : Int) : Rat) = y at faithful crosses
        cases faithful with
        | number => exact crosses
      · intro crosses
        cases crosses with
        | number n low high =>
          rw [toInt_int low high]
          exact .number n
        | tree tree => cases tree
    | string text =>
      rw [toLua, ofLua, cString_text text]
      exact ⟨fun _ => .string _, fun _ => .string _⟩
    | array => cases leaf
    | object => cases leaf
  | tree v members tree ih =>
    have row := plain.row tree
    have comes : ofLua (toLua arrange v) = .object (ofEntries (memberEntries arrange members []) []) := by
      rw [toLua_tree tree, ofLua]
    rw [comes]
    constructor
    · intro faithful
      cases faithful with
      | tree tree' keys each =>
        obtain rfl := Option.some.inj (tree.symm.trans tree')
        have crosses := crosses_of_keys perm row keys
        refine .tree tree crosses fun member there => ?_
        obtain ⟨listed, -⟩ := mem_solid.mp there
        apply (ih member listed (row.plain member listed)).mp
        apply each member there
        rw [(ofEntries_perm perm row crosses).mem_iff, (crosses member there).shown]
        exact List.mem_map_of_mem there
    · intro crosses
      cases crosses with
      | tree tree' keys each =>
        obtain rfl := Option.some.inj (tree.symm.trans tree')
        have back := ofEntries_perm perm row keys
        refine .tree tree ?_ fun member there value shown => ?_
        · refine List.Perm.trans (List.Perm.of_eq ?_) (back.map Prod.fst).symm
          rw [List.map_map]
          exact List.map_congr_left fun member there => (keys member there).shown
        · rw [back.mem_iff, (keys member there).shown] at shown
          obtain ⟨other, there', is⟩ := List.mem_map.mp shown
          obtain ⟨key, rfl⟩ := Prod.mk.inj is
          have listed := (mem_solid.mp there).1
          obtain rfl := List.inj_on_of_nodup_map row.distinct (mem_solid.mp there').1 listed key
          exact (ih other listed (row.plain other listed)).mpr (each other there)
      | _ => cases tree

end Tinygame.Luanode
