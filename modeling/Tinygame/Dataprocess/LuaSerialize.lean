import Mathlib.Data.List.Nodup
import Tinygame.Base.Lookup
import Tinygame.Dataprocess.Serialize

/-!
# The serializer of the client

`serialize` and `unserialize` of `serialize.lua`. Positions count from one, and what is `nil` is not there.
-/

namespace Tinygame.LuaSerialize

open Serialize (Error Elem)

inductive Key where
  | index (k : Nat)
  | name (key : String)
  deriving DecidableEq

inductive Lua where
  | nil
  | scalar (json : String)
  | table (entries : List (Key × Lua))

namespace Lua

/-- `t[key]`. -/
def get (t : Lua) (key : Key) : Except Error Lua :=
  match t with
  | .table entries => .ok ((entries.lookup key).getD .nil)
  | _ => .error .typeError

/-- `t[key] = x`. -/
def put (t : Lua) (key : Key) (x : Lua) : Except Error Lua :=
  match t, x with
  | .table entries, .nil => .ok (.table (entries.filter (·.1 ≠ key)))
  | .table entries, x => .ok (.table (entries.filter (·.1 ≠ key) ++ [(key, x)]))
  | _, _ => .error .typeError

def isNil : Lua → Bool
  | .nil => true
  | _ => false

/-- What `if` takes for true. -/
def truthy : Lua → Bool
  | .nil => false
  | .scalar json => json ≠ "false"
  | .table _ => true

/-- The values from position `k` on, up to the first that is not there. -/
def sequence (entries : List (Key × Lua)) : Nat → Nat → List Lua
  | 0, _ => []
  | n + 1, k => match entries.lookup (.index k) with
    | some x => x :: sequence entries n (k + 1)
    | none => []

def pairs : Lua → Except Error (List (Key × Lua))
  | .table entries => .ok entries
  | _ => .error .typeError

def ipairs : Lua → Except Error (List Lua)
  | .table entries => .ok (sequence entries entries.length 1)
  | _ => .error .typeError

end Lua

section
variable (SerialProto : String → Option (List Serialize.Field))

def assert (condition : Bool) (message : String) : Except Error Unit :=
  if condition then .ok () else .error (.thrown message)

/-- The loop with `pairs`. -/
def convertPairs (convert : Lua → Except Error Lua) (t : Lua) : Except Error Lua := do
  (← t.pairs).foldlM (fun out entry => do out.put entry.1 (← convert entry.2)) (.table [])

/-- The loop with `ipairs`. -/
def convertIpairs (convert : Lua → Except Error Lua) (t : Lua) : Except Error Lua := do
  ((← t.ipairs).zipIdx 1).foldlM (fun out item => do out.put (.index item.2) (← convert item.1)) (.table [])

/-- The branches of `unserialize`, for the field at `k`. -/
def unserializeField (unserialize : String → Lua → Except Error Lua) (object unserialObject : Lua) (k : Nat)
    (field : Serialize.Field) : Except Error Lua :=
  match field.type with
  | .string | .map .string | .vector .string => do unserialObject.put (.name field.value) (← object.get (.index k))
  | .map (.proto type2) => do
    let map ← object.get (.index k)
    assert (!map.isNil) ("unserialize " ++ type2 ++ " is null fail")
    unserialObject.put (.name field.value) (← convertPairs (unserialize type2) map)
  | .map2 .string | .vector2 .string => pure object
  | .map2 (.proto type2) => do
    assert (!object.isNil) ("unserialize " ++ type2 ++ " is null fail")
    convertPairs (unserialize type2) object
  | .vector (.proto type2) => do
    let vector ← object.get (.index k)
    assert (!vector.isNil) ("unserialize " ++ type2 ++ " is null fail")
    unserialObject.put (.name field.value) (← convertIpairs (unserialize type2) vector)
  | .vector2 (.proto type2) => do
    assert (!object.isNil) ("unserialize " ++ type2 ++ " is null fail")
    convertIpairs (unserialize type2) object
  | .struct type1 => do unserialObject.put (.name field.value) (← unserialize type1 (← object.get (.index k)))
  | .other type => .error (.thrown ("unserialize " ++ type ++ " " ++ type ++ " is not defined fail"))

/-- The branches of `serialize`. -/
def serializeField (serialize : String → Lua → Except Error Lua) (name : String) (object serialObject : Lua) (k : Nat)
    (field : Serialize.Field) : Except Error Lua :=
  match field.type with
  | .string | .map .string | .vector .string => do
    let value ← object.get (.name field.value)
    assert (!value.isNil) ("serialize " ++ name ++ " " ++ field.value ++ " is null fail")
    serialObject.put (.index k) value
  | .map (.proto type2) => do
    let map ← object.get (.name field.value)
    assert (!map.isNil) ("serialize " ++ name ++ " " ++ field.value ++ " is null fail")
    serialObject.put (.index k) (← if map.truthy then convertPairs (serialize type2) map else pure (.table []))
  | .map2 .string | .vector2 .string => pure object
  | .map2 (.proto type2) => convertPairs (serialize type2) object
  | .vector (.proto type2) => do
    let vector ← object.get (.name field.value)
    assert (!vector.isNil) ("serialize " ++ name ++ " " ++ field.value ++ " is null fail")
    serialObject.put (.index k) (← if vector.truthy then convertIpairs (serialize type2) vector else pure (.table []))
  | .vector2 (.proto type2) => convertIpairs (serialize type2) object
  | .struct type1 => do serialObject.put (.index k) (← serialize type1 (← object.get (.name field.value)))
  | .other _ => .error (.thrown ("serialize " ++ name ++ " is not defined fail"))

/-- `depth` bounds the nesting. -/
def unserialize (depth : Nat) (name : String) (object : Lua) : Except Error Lua :=
  match depth with
  | 0 => .error .depth
  | depth + 1 =>
    match SerialProto name with
    | none => .error (.thrown ("unserialize " ++ name ++ " is null fail"))
    | some data => (data.zipIdx 1).foldlM
      (fun unserialObject (field, k) => unserializeField (unserialize depth) object unserialObject k field) (.table [])

def serialize (depth : Nat) (name : String) (object : Lua) : Except Error Lua :=
  match depth with
  | 0 => .error .depth
  | depth + 1 =>
    match SerialProto name with
    | none => .error (.thrown ("serialize " ++ name ++ " is null fail"))
    | some data => (data.zipIdx 1).foldlM
      (fun serialObject (field, k) => serializeField (serialize depth) name object serialObject k field) (.table [])

end

/-! ### Tables -/

section
variable {key : Key} {entries acc base : List (Key × Lua)} {items : List Lua} {x : Lua}
  {convert : Lua → Except Error Lua} {result : Lua → Lua}

/-- A table with these values at its positions. -/
def ofItems (items : List Lua) : List (Key × Lua) := (items.zipIdx 1).map fun item => (.index item.2, item.1)

theorem put_fresh (fresh : key ∉ acc.map Prod.fst) (solid : x.isNil = false) :
    (Lua.table acc).put key x = .ok (.table (acc ++ [(key, x)])) := by
  have all : acc.filter (·.1 ≠ key) = acc :=
    List.filter_eq_self.mpr fun entry there =>
      decide_eq_true fun same => fresh (List.mem_map.mpr ⟨entry, there, same⟩)
  cases x with
  | nil => cases solid
  | scalar | table => rw [Lua.put, all]; simp

theorem mem_ofItems : (key, x) ∈ ofItems items ↔ ∃ k, key = .index (k + 1) ∧ items[k]? = some x := by
  unfold ofItems
  rw [List.mem_map]
  constructor
  · rintro ⟨⟨y, k⟩, there, same⟩
    obtain ⟨rfl, rfl⟩ : Key.index k = key ∧ y = x := by simpa using same
    obtain ⟨from1, found⟩ := List.mk_mem_zipIdx_iff_le_and_getElem?_sub.mp there
    exact ⟨k - 1, by rw [Nat.sub_add_cancel from1], found⟩
  · rintro ⟨k, rfl, found⟩
    exact ⟨(x, k + 1), List.mk_mem_zipIdx_iff_le_and_getElem?_sub.mpr ⟨by omega, found⟩, rfl⟩

theorem ofItems_distinct (items : List Lua) : ((ofItems items).map Prod.fst).Nodup := by
  have keys : (ofItems items).map Prod.fst = (List.range' 1 items.length).map Key.index := by
    rw [ofItems, List.map_map, ← List.zipIdx_map_snd 1 items, List.map_map]
    rfl
  rw [keys]
  exact List.Nodup.map (fun a b same => by injection same) List.nodup_range'

theorem lookup_ofItems (k : Nat) : (ofItems items).lookup (.index (k + 1)) = items[k]? := by
  cases found : items[k]? with
  | some x => exact lookup_eq_of_mem (ofItems_distinct items) (mem_ofItems.mpr ⟨k, rfl, found⟩)
  | none =>
    cases other : (ofItems items).lookup (.index (k + 1)) with
    | none => rfl
    | some x =>
      obtain ⟨k', same, found'⟩ := mem_ofItems.mp (mem_of_lookup_eq other)
      obtain rfl : k = k' := by injection same; omega
      cases found.symm.trans found'

theorem sequence_eq (found : ∀ k, entries.lookup (.index (k + 1)) = items[k]?) :
    ∀ n k, items.length ≤ k + n → Lua.sequence entries n (k + 1) = items.drop k
  | 0, k, all => (List.drop_eq_nil_of_le all).symm
  | n + 1, k, all => by
    rw [Lua.sequence, found]
    by_cases inside : k < items.length
    · rw [List.getElem?_eq_getElem inside, List.drop_eq_getElem_cons inside]
      exact congrArg (items[k] :: ·) (sequence_eq found n (k + 1) (by omega))
    · rw [List.getElem?_eq_none (by omega), List.drop_eq_nil_of_le (by omega)]

/-- `ipairs` goes over the positions, in whatever order the table keeps them. -/
theorem ipairs_items (same : entries.Perm (ofItems items)) : (Lua.table entries).ipairs = .ok items := by
  have size : entries.length = items.length := by
    rw [same.length_eq, ofItems, List.length_map, List.length_zipIdx]
  have found (k : Nat) : entries.lookup (.index (k + 1)) = items[k]? :=
    (lookup_perm (ofItems_distinct items) same).trans (lookup_ofItems k)
  exact congrArg Except.ok (sequence_eq found entries.length 0 (by omega))

/-! ### Loops -/

/-- What a call returns, `nil` if it fails. -/
def value (result : Except Error Lua) : Lua :=
  match result with
  | .ok x => x
  | .error _ => .nil

theorem value_spec {result : Except Error Lua} (solid : (value result).isNil = false) : result = .ok (value result) := by
  cases result with
  | ok x => rfl
  | error e => cases solid

theorem convertPairs_loop (convert : Lua → Except Error Lua) : ∀ (rest acc : List (Key × Lua)),
    (rest.map Prod.fst).Nodup → (∀ entry ∈ rest, entry.1 ∉ acc.map Prod.fst) →
    (∀ entry ∈ rest, (value (convert entry.2)).isNil = false) →
    rest.foldlM (fun out entry => do out.put entry.1 (← convert entry.2)) (Lua.table acc) =
      (.ok (.table (acc ++ rest.map fun entry => (entry.1, value (convert entry.2)))) : Except Error Lua)
  | [], acc, _, _, _ => by simp [pure, Except.pure]
  | entry :: rest, acc, distinct, fresh, solid => by
    obtain ⟨first, later⟩ := List.nodup_cons.mp distinct
    obtain ⟨solidFirst, solidLater⟩ := List.forall_mem_cons.mp solid
    have put := put_fresh (fresh entry List.mem_cons_self) solidFirst
    rw [List.foldlM_cons, value_spec solidFirst]
    refine (congrArg (· >>= _) put).trans ((convertPairs_loop convert rest _ later (fun other there => ?_) solidLater).trans ?_)
    · rw [List.map_append, List.mem_append]
      rintro (before | same)
      · exact fresh other (List.mem_cons_of_mem _ there) before
      · exact first (List.mem_map.mpr ⟨other, there, List.mem_singleton.mp same⟩)
    · rw [List.append_assoc]
      rfl

theorem convertPairs_table (distinct : (entries.map Prod.fst).Nodup)
    (solid : ∀ entry ∈ entries, (value (convert entry.2)).isNil = false) :
    convertPairs convert (.table entries) =
      .ok (.table (entries.map fun entry => (entry.1, value (convert entry.2)))) :=
  convertPairs_loop convert entries [] distinct (fun _ _ => List.not_mem_nil) solid

/-- `ipairs` is `pairs` over the positions. -/
theorem convertIpairs_items (same : entries.Perm (ofItems items))
    (solid : ∀ x ∈ items, (value (convert x)).isNil = false) :
    convertIpairs convert (.table entries) = .ok (.table (ofItems (items.map fun x => value (convert x)))) := by
  have inside : ∀ entry ∈ ofItems items, (value (convert entry.2)).isNil = false := by
    rintro ⟨key, x⟩ there
    obtain ⟨k, -, found⟩ := mem_ofItems.mp there
    exact solid x (List.mem_of_getElem? found)
  have loop := convertPairs_loop convert (ofItems items) [] (ofItems_distinct items) (fun _ _ => List.not_mem_nil) inside
  have mapped : (ofItems items).map (fun entry => (entry.1, value (convert entry.2))) =
      ofItems (items.map fun x => value (convert x)) := by
    simp only [ofItems, List.zipIdx_map, List.map_map]
    rfl
  rw [List.nil_append, mapped] at loop
  unfold convertIpairs
  rw [ipairs_items same]
  rw [ofItems, List.foldlM_map] at loop
  exact loop

/-! ### Fields -/

/-- How the value of a field is coded, either way. -/
def codec (code : String → Lua → Except Error Lua) : Serialize.Kind → Lua → Except Error Lua
  | .map (.proto type2), v | .map2 (.proto type2), v => convertPairs (code type2) v
  | .vector (.proto type2), v | .vector2 (.proto type2), v => convertIpairs (code type2) v
  | .struct type1, v => code type1 v
  | .other _, _ => .error .typeError
  | _, v => .ok v

variable {code : String → Lua → Except Error Lua} {name : String} {object : Lua} {field : Serialize.Field} {k : Nat} {y : Lua}

/-- What the loops take is a table. -/
theorem convertPairs_truthy (coded : convertPairs convert x = .ok y) : x.truthy = true := by
  cases x with
  | table => rfl
  | nil | scalar => cases coded

theorem convertIpairs_truthy (coded : convertIpairs convert x = .ok y) : x.truthy = true := by
  cases x with
  | table => rfl
  | nil | scalar => cases coded

theorem serializeField_part (whole : field.type.isWhole = false) (found : object.get (.name field.value) = .ok x)
    (solid : x.isNil = false) (coded : codec code field.type x = .ok y) (solid' : y.isNil = false)
    (fresh : Key.index k ∉ acc.map Prod.fst) :
    serializeField code name object (.table acc) k field = .ok (.table (acc ++ [(.index k, y)])) := by
  have put := put_fresh fresh solid'
  obtain ⟨value, type⟩ := field
  unfold serializeField
  dsimp only at whole found coded ⊢
  cases type with
  | string =>
    cases coded
    simpa [found, solid, assert, bind, Except.bind] using put
  | map type2 =>
    cases type2 with
    | string =>
      cases coded
      simpa [found, solid, assert, bind, Except.bind] using put
    | proto type2 =>
      have table := convertPairs_truthy coded
      dsimp only [codec] at coded
      simpa [found, solid, table, coded, assert, bind, Except.bind] using put
  | vector type2 =>
    cases type2 with
    | string =>
      cases coded
      simpa [found, solid, assert, bind, Except.bind] using put
    | proto type2 =>
      have table := convertIpairs_truthy coded
      dsimp only [codec] at coded
      simpa [found, solid, table, coded, assert, bind, Except.bind] using put
  | map2 | vector2 => cases whole
  | struct type1 =>
    dsimp only [codec] at coded
    simpa [found, coded, bind, Except.bind] using put
  | other => cases coded

theorem unserializeField_part (whole : field.type.isWhole = false) (found : object.get (.index k) = .ok x)
    (solid : x.isNil = false) (coded : codec code field.type x = .ok y) (solid' : y.isNil = false)
    (fresh : Key.name field.value ∉ acc.map Prod.fst) :
    unserializeField code object (.table acc) k field = .ok (.table (acc ++ [(.name field.value, y)])) := by
  have put := put_fresh fresh solid'
  obtain ⟨value, type⟩ := field
  unfold unserializeField
  dsimp only at whole coded put ⊢
  cases type with
  | string =>
    cases coded
    simpa [found, bind, Except.bind] using put
  | map type2 | vector type2 =>
    cases type2 with
    | string =>
      cases coded
      simpa [found, bind, Except.bind] using put
    | proto type2 =>
      dsimp only [codec] at coded
      simpa [found, solid, coded, assert, bind, Except.bind] using put
  | map2 | vector2 => cases whole
  | struct type1 =>
    dsimp only [codec] at coded
    simpa [found, coded, bind, Except.bind] using put
  | other => cases coded

/-- From the field at `k` on, the values come to stand at their positions. -/
theorem serializeField_loop (cell : Serialize.Field → Lua) : ∀ (fields : List Serialize.Field) (k : Nat) (acc : List (Key × Lua)),
    (∀ field ∈ fields, field.type.isWhole = false ∧ (cell field).isNil = false ∧
      ∃ x, object.get (.name field.value) = .ok x ∧ x.isNil = false ∧ codec code field.type x = .ok (cell field)) →
    (∀ j ≥ k, Key.index j ∉ acc.map Prod.fst) →
    (fields.zipIdx k).foldlM (fun serialObject (field, k) => serializeField code name object serialObject k field)
        (.table acc) =
      .ok (.table (acc ++ (fields.zipIdx k).map fun item => (.index item.2, cell item.1)))
  | [], k, acc, _, _ => by simp [pure, Except.pure]
  | field :: fields, k, acc, parts, fresh => by
    obtain ⟨⟨whole, solid', x, found, solid, coded⟩, later⟩ := List.forall_mem_cons.mp parts
    rw [List.zipIdx_cons, List.foldlM_cons]
    dsimp only
    rw [serializeField_part whole found solid coded solid' (fresh k (Nat.le_refl k))]
    refine (serializeField_loop cell fields (k + 1) _ later fun j after => ?_).trans ?_
    · rw [List.map_append, List.mem_append]
      rintro (before | same)
      · exact fresh j (by omega) before
      · obtain rfl : j = k := by simpa using same
        omega
    · rw [List.append_assoc]
      rfl

/-- The values at the positions become those of the fields. -/
theorem unserializeField_loop : ∀ (fields : List Serialize.Field) (items : List Lua) (k : Nat) (acc : List (Key × Lua)),
    items.length = fields.length → (∀ i x, items[i]? = some x → object.get (.index (k + i)) = .ok x) →
    (∀ part ∈ fields.zip items, part.1.type.isWhole = false ∧ part.2.isNil = false ∧
      (value (codec code part.1.type part.2)).isNil = false) →
    (fields.map Serialize.Field.value).Nodup → (∀ field ∈ fields, Key.name field.value ∉ acc.map Prod.fst) →
    (fields.zipIdx k).foldlM (fun unserialObject (field, k) => unserializeField code object unserialObject k field)
        (.table acc) =
      .ok (.table (acc ++ (fields.zip items).map fun part => (.name part.1.value, value (codec code part.1.type part.2))))
  | [], [], _, acc, _, _, _, _, _ => by simp [pure, Except.pure]
  | [], _ :: _, _, _, sizes, _, _, _, _ => absurd sizes (by simp)
  | _ :: _, [], _, _, sizes, _, _, _, _ => absurd sizes (by simp)
  | field :: fields, x :: items, k, acc, sizes, found, parts, distinct, fresh => by
    obtain ⟨⟨whole, solid, solid'⟩, laterParts⟩ := List.forall_mem_cons.mp parts
    obtain ⟨first, laterNames⟩ := List.nodup_cons.mp distinct
    rw [List.zipIdx_cons, List.foldlM_cons]
    dsimp only at solid' whole solid ⊢
    have here : object.get (.index k) = .ok x := found 0 x rfl
    rw [unserializeField_part whole here solid (value_spec solid') solid' (fresh field List.mem_cons_self)]
    refine (unserializeField_loop fields items (k + 1) _ (Nat.succ.inj sizes) (fun i y there => ?_) laterParts laterNames
      fun other there => ?_).trans ?_
    · have next := found (i + 1) y there
      rwa [show k + (i + 1) = k + 1 + i by omega] at next
    · rw [List.map_append, List.mem_append]
      rintro (before | same)
      · exact fresh other (List.mem_cons_of_mem _ there) before
      · refine first (List.mem_map.mpr ⟨other, there, ?_⟩)
        simpa using same
    · rw [List.append_assoc]
      rfl

end

section
variable {SerialProto : String → Option (List Serialize.Field)} {name value : String} {kind : Serialize.Kind} {m : Lua} {fuel : Nat}

theorem unserialize_whole (proto : SerialProto name = some [⟨value, kind⟩]) (whole : kind.isWhole = true)
    (solid : m.isNil = false) : unserialize SerialProto (fuel + 1) name m = codec (unserialize SerialProto fuel) kind m := by
  rw [unserialize, proto]
  dsimp only [List.zipIdx_cons, List.zipIdx_nil]
  rw [List.foldlM_cons]
  simp only [List.foldlM_nil, bind_pure]
  cases kind with
  | map2 type2 | vector2 type2 =>
    cases type2 with
    | string => rfl
    | proto type2 =>
      simp only [unserializeField, assert, solid]
      rfl
  | string | map | vector | struct | other => cases whole

theorem serialize_whole (proto : SerialProto name = some [⟨value, kind⟩]) (whole : kind.isWhole = true) :
    serialize SerialProto (fuel + 1) name m = codec (serialize SerialProto fuel) kind m := by
  rw [serialize, proto]
  dsimp only [List.zipIdx_cons, List.zipIdx_nil]
  rw [List.foldlM_cons]
  simp only [List.foldlM_nil, bind_pure]
  cases kind with
  | map2 type2 | vector2 type2 => cases type2 <;> rfl
  | string | map | vector | struct | other => cases whole

end
end Tinygame.LuaSerialize
