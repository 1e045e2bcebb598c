import Tinygame.Dataprocess.SameValue
import Tinygame.Dataprocess.SerializeRoundTrip

/-!
# The serializers of server and client

Encoders take what stands for one object to what stands for one serial form, and decoders back.
-/

namespace Tinygame.Codecs

open Serialize (Error Elem)
open LuaSerialize (Key Lua ofItems)

/-! ### Values of a kind -/

section
variable {below : Serialize.Value → Option Nat} {decode : String → Serialize.Value → Except Error Serialize.Value}
  {luaDecode luaEncode : String → Lua → Except Error Lua} {restrict wire : String → Serialize.Value → Serialize.Value}
  {conforms faithful : String → Serialize.Value → Prop} {kind : Serialize.Kind} {x v : Serialize.Value} {l m : Lua} {type2 : String}
  {members : List (String × Serialize.Value)} {elements : List Serialize.Value}

/-- Both decoders take the same value to the same value, which stands for `result`. -/
def Agree (decode : Serialize.Value → Except Error Serialize.Value) (luaDecode : Lua → Except Error Lua)
    (result v : Serialize.Value) (m : Lua) : Prop :=
  ∃ r l, decode v = .ok r ∧ luaDecode m = .ok l ∧ Same r l ∧ Same result l

/-- What a decoder returns, if anything. -/
def okValue (result : Except Error Serialize.Value) : Serialize.Value :=
  match result with
  | .ok x => x
  | .error _ => .undefined

theorem Agree.values {decode : Serialize.Value → Except Error Serialize.Value} {luaDecode : Lua → Except Error Lua}
    {result : Serialize.Value}
    (agree : Agree decode luaDecode result v m) :
    decode v = .ok (okValue (decode v)) ∧ (LuaSerialize.value (luaDecode m)).isNil = false ∧
      Same (okValue (decode v)) (LuaSerialize.value (luaDecode m)) ∧ Same result (LuaSerialize.value (luaDecode m)) := by
  obtain ⟨r, l, decoded, luaDecoded, same, same'⟩ := agree
  rw [decoded, luaDecoded]
  exact ⟨rfl, same.solid, same, same'⟩

theorem map_agree (hidden : "hasOwnProperty" ∉ members.map Prod.fst) (plain : "__proto__" ∉ members.map Prod.fst)
    (each : ∀ member ∈ members, ∀ v m, Same v m → Same (wire type2 member.2) m →
      Agree (decode type2) (luaDecode type2) (restrict type2 member.2) v m)
    (same : Same v m) (coded : Same (.object (members.map fun member => (member.1, wire type2 member.2))) m) :
    Agree (Serialize.convertMap (decode type2)) (LuaSerialize.convertPairs (luaDecode type2))
      (.object (members.map fun member => (member.1, restrict type2 member.2))) v m := by
  obtain ⟨entries, rfl⟩ := coded.table_of_object
  obtain ⟨pairs, distinct, rfl, placed, inside⟩ := coded.map_inv
  cases v with
  | array elements =>
    obtain ⟨items, rfl, placed', -⟩ := same.array_inv
    obtain ⟨none, rfl⟩ := ofItems_names (placed'.symm.trans placed)
    obtain rfl := List.map_eq_nil_iff.mp none
    obtain rfl := List.perm_nil.mp placed
    exact ⟨.object [], .table [], rfl, rfl, empty_object, empty_object⟩
  | object members' =>
    obtain ⟨pairs', distinct', rfl, placed', inside'⟩ := same.object_inv
    -- the members of both objects meet in the entries of the table
    have agree {pair pair' : (String × Serialize.Value) × Lua} (there : pair ∈ pairs) (there' : pair' ∈ pairs')
        (value : pair.2 = pair'.2) := (each pair.1 (List.mem_map.mpr ⟨pair, there, rfl⟩) pair'.1.2 pair'.2
          (inside' pair' there') (value ▸ inside pair there)).values
    have meets (pair' : (String × Serialize.Value) × Lua) (there : pair' ∈ pairs') :
        ∃ pair ∈ pairs, pair.1.1 = pair'.1.1 ∧ pair.2 = pair'.2 := by
      have entry := placed.mem_iff.mp (placed'.mem_iff.mpr (List.mem_map.mpr ⟨pair', there, rfl⟩))
      obtain ⟨pair, listed, same⟩ := List.mem_map.mp entry
      obtain ⟨name, value⟩ := Prod.mk.inj same
      exact ⟨pair, listed, by injection name, value⟩
    have met (pair : (String × Serialize.Value) × Lua) (there : pair ∈ pairs) : ∃ pair' ∈ pairs', pair'.2 = pair.2 := by
      have entry := placed'.mem_iff.mp (placed.mem_iff.mpr (List.mem_map.mpr ⟨pair, there, rfl⟩))
      obtain ⟨pair', listed, same⟩ := List.mem_map.mp entry
      exact ⟨pair', listed, (Prod.mk.inj same).2⟩
    have names (key : String) (there : key ∈ (pairs'.map Prod.fst).map Prod.fst) :
        key ∈ (pairs.map Prod.fst).map Prod.fst := by
      rw [List.map_map] at there ⊢
      obtain ⟨pair', listed, rfl⟩ := List.mem_map.mp there
      obtain ⟨pair, listed, name, -⟩ := meets pair' listed
      exact List.mem_map.mpr ⟨pair, listed, name⟩
    have values : ∀ entry ∈ entries, (LuaSerialize.value (luaDecode type2 entry.2)).isNil = false := by
      rintro entry there
      obtain ⟨pair', listed', rfl⟩ := List.mem_map.mp (placed'.mem_iff.mp there)
      obtain ⟨pair, listed, -, value⟩ := meets pair' listed'
      exact (agree listed listed' value).2.1
    have decoded : ∀ member ∈ pairs'.map Prod.fst, decode type2 member.2 = .ok (okValue (decode type2 member.2)) := by
      rintro member there
      obtain ⟨pair', listed', rfl⟩ := List.mem_map.mp there
      obtain ⟨pair, listed, -, value⟩ := meets pair' listed'
      exact (agree listed listed' value).1
    have made : Serialize.convertMap (decode type2) (.object (pairs'.map Prod.fst)) = .ok (.object
        ((pairs'.map Prod.fst).map fun member => (member.1, okValue (decode type2 member.2)))) :=
      @Serialize.convertMap_of_forall _ (decode type2) (fun x => okValue (decode type2 x)) distinct'
        (fun there => hidden (names _ there)) (fun there => plain (names _ there)) decoded
    refine ⟨_, _, made, LuaSerialize.convertPairs_table (placed_distinct distinct placed) values, ?_, ?_⟩
    · refine Same.map_of (fun x => okValue (decode type2 x)) (fun l => LuaSerialize.value (luaDecode type2 l)) distinct'
        placed' fun pair' there' => ?_
      obtain ⟨pair, there, -, value⟩ := meets pair' there'
      exact (agree there there' value).2.2.1
    · refine Same.map_of (restrict type2) (fun l => LuaSerialize.value (luaDecode type2 l)) distinct placed
        fun pair there => ?_
      obtain ⟨pair', there', value⟩ := met pair there
      have same := (agree there there' value.symm).2.2.2
      rwa [value] at same
  | undefined | null | scalar => cases same

/-- The loop of a decoder over a vector takes an object without members for an empty one. -/
theorem vector_agree
    (each : ∀ x ∈ elements, ∀ v m, Same v m → Same (wire type2 x) m →
      Agree (decode type2) (luaDecode type2) (restrict type2 x) v m)
    (same : Same v m) (coded : Same (.array (elements.map (wire type2))) m) :
    Agree (fun v => do Serialize.convertVector (decode type2) (← Serialize.length below v) v)
      (LuaSerialize.convertIpairs (luaDecode type2)) (.array (elements.map (restrict type2))) v m := by
  obtain ⟨entries, rfl⟩ := coded.table_of_array
  obtain ⟨pairs, rfl, placed, inside⟩ := coded.vector_inv
  cases v with
  | object members =>
    obtain ⟨pairs', -, rfl, placed', -⟩ := same.object_inv
    obtain ⟨none, rfl⟩ := ofItems_names (placed.symm.trans placed')
    obtain rfl := List.map_eq_nil_iff.mp none
    obtain rfl := List.perm_nil.mp placed
    exact ⟨.array [], .table [], rfl, rfl, empty_array, empty_array⟩
  | array elements' =>
    obtain ⟨pairs', rfl, placed', inside'⟩ := same.array_inv
    have items : pairs.map Prod.snd = pairs'.map Prod.snd := ofItems_injective (placed.symm.trans placed')
    have agree {pair pair' : Serialize.Value × Lua} (there : pair ∈ pairs) (there' : pair' ∈ pairs') (value : pair.2 = pair'.2) :=
      (each pair.1 (List.mem_map.mpr ⟨pair, there, rfl⟩) pair'.1 pair'.2 (inside' pair' there')
        (value ▸ inside pair there)).values
    have meets (pair' : Serialize.Value × Lua) (there : pair' ∈ pairs') : ∃ pair ∈ pairs, pair.2 = pair'.2 :=
      List.mem_map.mp (items ▸ List.mem_map.mpr ⟨pair', there, rfl⟩)
    have met (pair : Serialize.Value × Lua) (there : pair ∈ pairs) : ∃ pair' ∈ pairs', pair'.2 = pair.2 :=
      List.mem_map.mp (items ▸ List.mem_map.mpr ⟨pair, there, rfl⟩)
    have values : ∀ item ∈ pairs'.map Prod.snd, (LuaSerialize.value (luaDecode type2 item)).isNil = false := by
      rintro item there
      obtain ⟨pair', listed', rfl⟩ := List.mem_map.mp there
      obtain ⟨pair, listed, value⟩ := meets pair' listed'
      exact (agree listed listed' value).2.1
    have decoded : ∀ x ∈ pairs'.map Prod.fst, decode type2 x = .ok (okValue (decode type2 x)) := by
      rintro x there
      obtain ⟨pair', listed', rfl⟩ := List.mem_map.mp there
      obtain ⟨pair, listed, value⟩ := meets pair' listed'
      exact (agree listed listed' value).1
    have made : Serialize.convertVector (decode type2) (some (pairs'.map Prod.fst).length) (.array (pairs'.map Prod.fst)) =
        .ok (.array ((pairs'.map Prod.fst).map fun x => okValue (decode type2 x))) :=
      Serialize.convertVector_of_forall decoded
    refine ⟨_, _, made, LuaSerialize.convertIpairs_items placed' values, ?_, ?_⟩
    · rw [List.map_map, List.map_map]
      refine Same.array_of (List.Perm.refl _) fun pair' there' => ?_
      obtain ⟨pair, there, value⟩ := meets pair' there'
      exact (agree there there' value).2.2.1
    · rw [← items, List.map_map, List.map_map]
      refine Same.array_of (List.Perm.refl _) fun pair there => ?_
      obtain ⟨pair', there', value⟩ := met pair there
      have same := (agree there there' value.symm).2.2.2
      rwa [value] at same
  | undefined | null | scalar => cases same

theorem kind_agree (vectors : ∀ type2, kind ≠ .vector2 type2) (conforms' : kind.Conforms conforms x)
    (faithful' : kind.Faithful below wire faithful x)
    (each : ∀ name x, conforms name x → faithful name x → ∀ v m, Same v m → Same (wire name x) m →
      Agree (decode name) (luaDecode name) (restrict name x) v m)
    (same : Same v m) (coded : Same (kind.convert wire x) m) :
    Agree (kind.codec below decode) (LuaSerialize.codec luaDecode kind) (kind.convert restrict x) v m := by
  cases kind with
  | string => exact ⟨v, m, rfl, rfl, same, coded⟩
  | map type2 | map2 type2 =>
    cases type2 with
    | string => exact ⟨v, m, rfl, rfl, same, coded⟩
    | proto type2 =>
      obtain ⟨members, rfl, -, inside⟩ := conforms'
      obtain ⟨hidden, plain, inner⟩ := faithful'
      exact map_agree hidden plain
        (fun member there => each type2 member.2 (inside member there) (inner member there)) same coded
  | vector type2 =>
    cases type2 with
    | string => exact ⟨v, m, rfl, rfl, same, coded⟩
    | proto type2 =>
      obtain ⟨elements, rfl, inside⟩ := conforms'
      exact vector_agree
        (fun x there => each type2 x (inside x there) (faithful' elements rfl x there)) same coded
  | vector2 type2 => exact absurd rfl (vectors type2)
  | struct type1 => exact each type1 x conforms' faithful' v m same coded
  | other => exact conforms'.elim

theorem kind_encodes (conforms' : kind.Conforms conforms x)
    (each : ∀ name x, conforms name x → ∀ l, Same x l → ∃ m, luaEncode name l = .ok m ∧ Same (wire name x) m)
    (same : Same x l) : ∃ m, LuaSerialize.codec luaEncode kind l = .ok m ∧ Same (kind.convert wire x) m := by
  have encodes {name : String} {x : Serialize.Value} (conforms' : conforms name x) {l : Lua} (same : Same x l) :
      (LuaSerialize.value (luaEncode name l)).isNil = false ∧ Same (wire name x) (LuaSerialize.value (luaEncode name l)) := by
    obtain ⟨m, encoded, same⟩ := each name x conforms' l same
    rw [encoded]
    exact ⟨same.solid, same⟩
  cases kind with
  | string => exact ⟨l, rfl, same⟩
  | map type2 | map2 type2 =>
    cases type2 with
    | string => exact ⟨l, rfl, same⟩
    | proto type2 =>
      obtain ⟨members, rfl, -, inside⟩ := conforms'
      obtain ⟨entries, rfl⟩ := same.table_of_object
      obtain ⟨pairs, distinct, rfl, placed, each⟩ := same.object_inv
      have encodes (pair : (String × Serialize.Value) × Lua) (there : pair ∈ pairs) :=
        encodes (inside pair.1 (List.mem_map.mpr ⟨pair, there, rfl⟩)) (each pair there)
      have values : ∀ entry ∈ entries, (LuaSerialize.value (luaEncode type2 entry.2)).isNil = false := by
        rintro entry there
        obtain ⟨pair, listed, rfl⟩ := List.mem_map.mp (placed.mem_iff.mp there)
        exact (encodes pair listed).1
      exact ⟨_, LuaSerialize.convertPairs_table (placed_distinct distinct placed) values,
        Same.map_of (wire type2) (fun l => LuaSerialize.value (luaEncode type2 l)) distinct placed
          fun pair there => (encodes pair there).2⟩
  | vector type2 | vector2 type2 =>
    cases type2 with
    | string => exact ⟨l, rfl, same⟩
    | proto type2 =>
      obtain ⟨elements, rfl, inside⟩ := conforms'
      obtain ⟨entries, rfl⟩ := same.table_of_array
      obtain ⟨pairs, rfl, placed, each⟩ := same.array_inv
      have encodes (pair : Serialize.Value × Lua) (there : pair ∈ pairs) :=
        encodes (inside pair.1 (List.mem_map.mpr ⟨pair, there, rfl⟩)) (each pair there)
      have values : ∀ item ∈ pairs.map Prod.snd, (LuaSerialize.value (luaEncode type2 item)).isNil = false := by
        rintro item there
        obtain ⟨pair, listed, rfl⟩ := List.mem_map.mp there
        exact (encodes pair listed).1
      refine ⟨_, LuaSerialize.convertIpairs_items placed values, ?_⟩
      rw [Serialize.Kind.convert, List.map_map, List.map_map]
      exact Same.array_of (List.Perm.refl _) fun pair there => (encodes pair there).2
  | struct type1 => exact each type1 x conforms' l same
  | other => exact conforms'.elim

/-- What the server has sent itself and taken for the same went through faithfully. -/
theorem kind_faithful {encode : String → Serialize.Value → Except Error Serialize.Value} {w r : Serialize.Value}
    (vectors : ∀ type2, kind ≠ .vector2 type2)
    (conforms' : kind.Conforms conforms x)
    (each : ∀ name x, conforms name x → ∀ w r l, encode name x = .ok w → decode name w = .ok r → Same r l →
      Same (restrict name x) l → faithful name x)
    (encoded : kind.codec below encode x = .ok w) (decoded : kind.codec below decode w = .ok r) (same : Same r l)
    (same' : Same (kind.convert restrict x) l) : kind.Faithful below wire faithful x := by
  cases kind with
  | string => trivial
  | map type2 | map2 type2 =>
    cases type2 with
    | string => trivial
    | proto type2 =>
      obtain ⟨members, rfl, distinct, inside⟩ := conforms'
      dsimp only [Serialize.Kind.codec, Serialize.Kind.convert] at encoded decoded same'
      by_cases hidden : "hasOwnProperty" ∈ members.map Prod.fst
      · rw [Serialize.convertMap_hidden _ hidden] at encoded
        cases encoded
      rw [Serialize.convertMap_object _ distinct hidden] at encoded
      obtain ⟨ws, first, made⟩ := bind_ok.mp encoded
      obtain rfl := Except.ok.inj made
      have keys := Serialize.convertMembers_keys first
      have fewer : ((ws.filter (·.1 ≠ "__proto__")).map Prod.fst).Sublist (members.map Prod.fst) :=
        keys ▸ (List.filter_sublist).map Prod.fst
      rw [Serialize.convertMap_object _ (distinct.sublist fewer) fun there => hidden (fewer.subset there)] at decoded
      obtain ⟨out, second, made⟩ := bind_ok.mp decoded
      obtain rfl := Except.ok.inj made
      have meets (member : String × Serialize.Value) (there : member ∈ members) :=
        same.meet same' (List.mem_map.mpr ⟨member, there, rfl⟩)
      have plain : "__proto__" ∉ members.map Prod.fst := fun there => by
        obtain ⟨member, listed, named⟩ := List.mem_map.mp there
        obtain ⟨x, kept, -⟩ := meets member listed
        exact of_decide_eq_true (List.mem_filter.mp kept).2 named
      rw [Serialize.filter_plain (keys ▸ plain)] at second
      rw [Serialize.filter_plain (by rw [Serialize.convertMembers_keys second, keys]; exact plain)] at meets
      refine ⟨hidden, plain, fun member there => ?_⟩
      obtain ⟨y, listed, l, same, same'⟩ := meets member there
      obtain ⟨i, here⟩ := List.mem_iff_getElem?.mp there
      obtain ⟨w, coded, enc⟩ := mapM_at first here
      obtain ⟨z, back, dec⟩ := mapM_at second coded
      obtain ⟨named, enc⟩ := Serialize.convertMember_ok.mp enc
      obtain ⟨named', dec⟩ := Serialize.convertMember_ok.mp dec
      have one : z.2 = y := by
        have outKeys : (out.map Prod.fst).Nodup := by rw [Serialize.convertMembers_keys second, keys]; exact distinct
        have zThere : (member.1, z.2) ∈ out := named ▸ named' ▸ List.mem_of_getElem? back
        exact Option.some.inj ((lookup_eq_of_mem outKeys zThere).symm.trans (lookup_eq_of_mem outKeys listed))
      exact each type2 member.2 (inside member there) w.2 z.2 l enc dec (one ▸ same) same'
  | vector type2 =>
    cases type2 with
    | string => trivial
    | proto type2 =>
      obtain ⟨elements, rfl, inside⟩ := conforms'
      rintro elements' same'' x there
      obtain rfl : elements = elements' := by injection same''
      obtain ⟨ws, first, made⟩ := bind_ok.mp ((Serialize.convertVector_array _ _).symm.trans encoded)
      obtain rfl := Except.ok.inj made
      obtain ⟨out, second, made⟩ := bind_ok.mp ((Serialize.convertVector_array _ _).symm.trans decoded)
      obtain rfl := Except.ok.inj made
      obtain ⟨entries, rfl⟩ := same.table_of_array
      obtain ⟨pairs, rfl, placed, inPairs⟩ := same.array_inv
      obtain ⟨pairs', rfl, placed', inPairs'⟩ := same'.vector_inv
      have items : pairs.map Prod.snd = pairs'.map Prod.snd := ofItems_injective (placed.symm.trans placed')
      obtain ⟨i, here⟩ := List.mem_iff_getElem?.mp there
      obtain ⟨w, coded, enc⟩ := mapM_at first here
      obtain ⟨y, back, dec⟩ := mapM_at second coded
      rw [List.getElem?_map, Option.map_eq_some_iff] at here back
      obtain ⟨pair', listed', rfl⟩ := here
      obtain ⟨pair, listed, rfl⟩ := back
      have item : pair.2 = pair'.2 := by
        have both := congrArg (·[i]?) items
        simp only [List.getElem?_map, listed, listed'] at both
        exact Option.some.inj both
      exact each type2 pair'.1 (inside _ there) w pair.1 pair.2 enc dec (inPairs pair (List.mem_of_getElem? listed))
        (item ▸ inPairs' pair' (List.mem_of_getElem? listed'))
  | vector2 type2 => exact absurd rfl (vectors type2)
  | struct type1 => exact each type1 x conforms' w r l encoded decoded same same'
  | other => exact conforms'.elim

end

/-! ### Objects -/

section
variable {SerialProto : String → Option (List Serialize.Field)} {below : Serialize.Value → Option Nat} {name : String}
    {v x : Serialize.Value}
  {l m : Lua} {fields : List Serialize.Field} {members : List (String × Serialize.Value)} {lax : Bool} {depth fuel : Nat}

theorem fields_agree {wired restricted : Serialize.Field → Serialize.Value} (proto : SerialProto name = some fields)
    (parts : ∀ field ∈ fields, field.type.isWhole = false ∧ field.type.isOther = false)
    (distinct : (fields.map Serialize.Field.value).Nodup) (plain : "__proto__" ∉ fields.map Serialize.Field.value)
    (each : ∀ field ∈ fields, ∀ v m, Same v m → Same (wired field) m →
      Agree (field.type.codec below (Serialize.unserialize SerialProto below fuel))
        (LuaSerialize.codec (LuaSerialize.unserialize SerialProto fuel) field.type) (restricted field) v m)
    (same : Same v m) (coded : Same (.array (fields.map wired)) m) :
    Agree (Serialize.unserialize SerialProto below (fuel + 1) name) (LuaSerialize.unserialize SerialProto (fuel + 1) name)
      (.object (fields.map fun field => (field.value, restricted field))) v m := by
  obtain ⟨entries, rfl⟩ := coded.table_of_array
  obtain ⟨pairs, rfl, placed, inside⟩ := coded.vector_inv
  cases v with
  | object members =>
    obtain ⟨pairs', -, rfl, placed', -⟩ := same.object_inv
    obtain ⟨none, rfl⟩ := ofItems_names (placed.symm.trans placed')
    obtain rfl := List.map_eq_nil_iff.mp none
    refine ⟨.object [], .table [], ?_, ?_, empty_object, empty_object⟩
    · rw [Serialize.unserialize, proto]
      rfl
    · rw [LuaSerialize.unserialize, proto]
      rfl
  | array cells =>
    obtain ⟨pairs', rfl, placed', inside'⟩ := same.array_inv
    have items : pairs.map Prod.snd = pairs'.map Prod.snd := ofItems_injective (placed.symm.trans placed')
    have sizes : pairs.length = pairs'.length := length_of_map_eq items
    -- the fields, with their values on either side
    have aligned := zip_of_map_eq items
    have left : (pairs.zip pairs').map Prod.fst = pairs := List.map_fst_zip (Nat.le_of_eq sizes)
    have agree (t : (Serialize.Field × Lua) × Serialize.Value × Lua) (there : t ∈ pairs.zip pairs') := (each t.1.1
      (List.mem_map.mpr ⟨t.1, (List.of_mem_zip there).1, rfl⟩) t.2.1 t.1.2
      (aligned t there ▸ inside' t.2 (List.of_mem_zip there).2) (inside t.1 (List.of_mem_zip there).1)).values
    have names : (pairs.zip pairs').map (fun t => t.1.1.value) = (pairs.map Prod.fst).map Serialize.Field.value := by
      conv_rhs => rw [← left]
      simp only [List.map_map]
      rfl
    have made : Serialize.unserialize SerialProto below (fuel + 1) name (.array (pairs'.map Prod.fst)) =
        .ok (.object ((pairs.zip pairs').map fun t =>
          (t.1.1.value, okValue (t.1.1.type.codec below (Serialize.unserialize SerialProto below fuel) t.2.1)))) := by
      have cells : ((pairs.map Prod.fst).zip (pairs'.map Prod.fst)).mapM
          (Serialize.unserializeCell below (Serialize.unserialize SerialProto below fuel)) = .ok ((pairs.zip pairs').map fun t =>
          (t.1.1.value, okValue (t.1.1.type.codec below (Serialize.unserialize SerialProto below fuel) t.2.1))) := by
        rw [List.zip_map, List.mapM_map]
        exact mapM_of_forall fun t there => bind_ok.mpr ⟨_, (agree t there).1, rfl⟩
      rw [Serialize.unserialize_fields proto (by simp [sizes]) parts distinct, cells]
      refine congrArg (fun out => Except.ok (Serialize.Value.object out)) (Serialize.filter_plain ?_)
      rw [List.map_map]
      exact names ▸ plain
    have luaMade : LuaSerialize.unserialize SerialProto (fuel + 1) name (.table entries) =
        .ok (.table ((pairs.zip pairs').map fun t => (.name t.1.1.value,
          LuaSerialize.value (LuaSerialize.codec (LuaSerialize.unserialize SerialProto fuel) t.1.1.type t.1.2)))) := by
      have both : (pairs.map Prod.fst).zip (pairs.map Prod.snd) = (pairs.zip pairs').map Prod.fst := by
        rw [left, List.zip_map', List.map_id']
      have found (i : Nat) (x : Lua) (there : (pairs.map Prod.snd)[i]? = some x) :
          (Lua.table entries).get (.index (1 + i)) = .ok x := by
        rw [Nat.add_comm, Lua.get, lookup_perm (LuaSerialize.ofItems_distinct _) placed, LuaSerialize.lookup_ofItems, there]
        rfl
      have loop := @LuaSerialize.unserializeField_loop (LuaSerialize.unserialize SerialProto fuel) _ (pairs.map Prod.fst)
        (pairs.map Prod.snd) 1 [] (by simp) found (fun part there => ?_) distinct fun _ _ => List.not_mem_nil
      · rw [LuaSerialize.unserialize, proto]
        refine loop.trans ?_
        rw [both, List.map_map]
        rfl
      · rw [both] at there
        obtain ⟨t, listed, rfl⟩ := List.mem_map.mp there
        exact ⟨(parts _ (List.mem_map.mpr ⟨t.1, (List.of_mem_zip listed).1, rfl⟩)).1,
          (inside t.1 (List.of_mem_zip listed).1).solid, (agree t listed).2.1⟩
    refine ⟨_, _, made, luaMade, ?_, ?_⟩
    · exact Same.object_of (names ▸ distinct) (List.Perm.refl _) fun t there => (agree t there).2.2.1
    · have back : (pairs.map Prod.fst).map (fun field => (field.value, restricted field)) =
          (pairs.zip pairs').map fun t => (t.1.1.value, restricted t.1.1) := by
        conv_lhs => rw [← left]
        simp only [List.map_map]
        rfl
      rw [back]
      exact Same.object_of (names ▸ distinct) (List.Perm.refl _) fun t there => (agree t there).2.2.2
  | undefined | null | scalar => cases same

/-- No schema is a vector that is the whole object. -/
def NoVector2 (SerialProto : String → Option (List Serialize.Field)) : Prop :=
  ∀ name fields, SerialProto name = some fields → ∀ field ∈ fields, ∀ type2, field.type ≠ .vector2 type2

/-- **Decoders.** What stands for the serial form on both sides is decoded to what stands for the object. -/
theorem decoders_agree (vectors : NoVector2 SerialProto) (conforms : Serialize.Conforms SerialProto lax depth name x)
    (faithful : Serialize.Faithful SerialProto below depth name x) (enough : depth ≤ fuel) (same : Same v m)
    (coded : Same (Serialize.wire SerialProto depth name x) m) :
    Agree (Serialize.unserialize SerialProto below fuel name) (LuaSerialize.unserialize SerialProto fuel name)
      (Serialize.restrict SerialProto depth name x) v m := by
  induction depth generalizing fuel name x v m with
  | zero => exact conforms.elim
  | succ depth ih =>
    obtain ⟨fuel, rfl⟩ : ∃ n, fuel = n + 1 := ⟨fuel - 1, by omega⟩
    have inner (name : String) (x : Serialize.Value) (conforms : Serialize.Conforms SerialProto lax depth name x)
        (faithful : Serialize.Faithful SerialProto below depth name x) (v : Serialize.Value) (m : Lua) (same : Same v m)
        (coded : Same (Serialize.wire SerialProto depth name x) m) :=
      ih conforms faithful (Nat.le_of_succ_le_succ enough) same coded
    obtain ⟨fields, proto, shape⟩ := conforms
    replace faithful := faithful fields proto
    have noVector := vectors name fields proto
    rw [Serialize.wire, proto] at coded
    rw [Serialize.restrict, proto]
    dsimp only at coded ⊢
    cases whole : Serialize.whole? fields with
    | some kind =>
      rw [whole] at shape faithful coded
      dsimp only at shape faithful coded ⊢
      obtain ⟨value, listed, isWhole⟩ := Serialize.whole?_some whole
      have noVector : ∀ type2, kind ≠ .vector2 type2 := noVector ⟨value, kind⟩ (listed ▸ List.mem_singleton_self _)
      have decoder : kind.decoder below (Serialize.unserialize SerialProto below fuel) v =
          kind.codec below (Serialize.unserialize SerialProto below fuel) v := by
        cases kind with
        | vector2 type2 => exact absurd rfl (noVector type2)
        | _ => rfl
      have agree := kind_agree noVector shape faithful inner same coded
      unfold Agree at agree ⊢
      rw [Serialize.unserialize_whole proto whole, decoder,
        LuaSerialize.unserialize_whole (listed ▸ proto) isWhole same.solid]
      exact agree
    | none =>
      rw [whole] at shape faithful coded
      dsimp only at shape faithful coded ⊢
      obtain ⟨distinct, members, rfl, keys, parts⟩ := shape
      obtain ⟨plain, visible, faithful⟩ := faithful
      obtain ⟨declares, conforms⟩ := Serialize.conforms_fields parts
      exact fields_agree proto (fun field there => ⟨(declares field there).1, (declares field there).2.1⟩) distinct plain
        (fun field there v m same coded =>
          kind_agree (noVector field there) (conforms field there) (faithful field there) inner same coded) same coded

theorem fields_encode {wired : Serialize.Field → Serialize.Value} (proto : SerialProto name = some fields)
    (parts : ∀ field ∈ fields, field.type.isWhole = false)
    (found : ∀ field ∈ fields, ∃ x, members.lookup field.value = some x ∧ ∀ l, Same x l →
      ∃ m, LuaSerialize.codec (LuaSerialize.serialize SerialProto fuel) field.type l = .ok m ∧ Same (wired field) m)
    (same : Same (.object members) l) :
    ∃ m, LuaSerialize.serialize SerialProto (fuel + 1) name l = .ok m ∧ Same (.array (fields.map wired)) m := by
  obtain ⟨entries, rfl⟩ := same.table_of_object
  obtain ⟨pairs, distinct, rfl, placed, inside⟩ := same.object_inv
  let cell (field : Serialize.Field) : Lua := LuaSerialize.value
    ((Lua.table entries).get (.name field.value) >>= LuaSerialize.codec (LuaSerialize.serialize SerialProto fuel) field.type)
  have cells (field : Serialize.Field) (there : field ∈ fields) : Same (wired field) (cell field) ∧
      ∃ l, (Lua.table entries).get (.name field.value) = .ok l ∧ l.isNil = false ∧
        LuaSerialize.codec (LuaSerialize.serialize SerialProto fuel) field.type l = .ok (cell field) := by
    obtain ⟨x, member, codes⟩ := found field there
    obtain ⟨pair, listed, here⟩ := List.mem_map.mp (mem_of_lookup_eq member)
    have same : Same x pair.2 := by
      have same := inside pair listed
      rwa [here] at same
    have entry : (Key.name field.value, pair.2) ∈ entries := by
      refine placed.mem_iff.mpr (List.mem_map.mpr ⟨pair, listed, ?_⟩)
      rw [here]
    have read : (Lua.table entries).get (.name field.value) = .ok pair.2 := by
      rw [Lua.get, lookup_eq_of_mem (placed_distinct distinct placed) entry]
      rfl
    obtain ⟨m, coded, stands⟩ := codes pair.2 same
    have value : cell field = m := congrArg LuaSerialize.value (bind_ok.mpr ⟨pair.2, read, coded⟩)
    exact ⟨value ▸ stands, pair.2, read, same.solid, value ▸ coded⟩
  refine ⟨.table (ofItems (fields.map cell)), ?_, Same.array_of (List.Perm.refl _) fun field there => (cells field there).1⟩
  rw [LuaSerialize.serialize, proto]
  refine (LuaSerialize.serializeField_loop cell fields 1 [] (fun field there => ?_) fun _ _ => List.not_mem_nil).trans ?_
  · exact ⟨parts field there, (cells field there).1.solid, (cells field there).2⟩
  · rw [List.nil_append, ofItems, List.zipIdx_map, List.map_map]
    rfl

/-- **Encoders.** What stands for an object is encoded to what stands for its serial form. -/
theorem encoders_agree (conforms : Serialize.Conforms SerialProto false depth name x) (enough : depth ≤ fuel)
    (same : Same x l) :
    ∃ m, LuaSerialize.serialize SerialProto fuel name l = .ok m ∧ Same (Serialize.wire SerialProto depth name x) m := by
  induction depth generalizing fuel name x l with
  | zero => exact conforms.elim
  | succ depth ih =>
    obtain ⟨fuel, rfl⟩ : ∃ n, fuel = n + 1 := ⟨fuel - 1, by omega⟩
    have inner (name : String) (x : Serialize.Value) (conforms : Serialize.Conforms SerialProto false depth name x) (l : Lua)
        (same : Same x l) := ih conforms (Nat.le_of_succ_le_succ enough) same
    obtain ⟨fields, proto, shape⟩ := conforms
    rw [Serialize.wire, proto]
    dsimp only
    cases whole : Serialize.whole? fields with
    | some kind =>
      rw [whole] at shape
      dsimp only at shape ⊢
      obtain ⟨value, listed, isWhole⟩ := Serialize.whole?_some whole
      rw [LuaSerialize.serialize_whole (listed ▸ proto) isWhole]
      exact kind_encodes shape inner same
    | none =>
      rw [whole] at shape
      dsimp only at shape ⊢
      obtain ⟨distinct, members, rfl, keys, parts⟩ := shape
      refine fields_encode proto (fun field there => (parts field there).1) (fun field there => ?_) same
      obtain ⟨-, shape⟩ := parts field there
      cases found : members.lookup field.value with
      | none =>
        rw [found] at shape
        exact absurd shape.1 Bool.false_ne_true
      | some x =>
        rw [found] at shape
        have here : Serialize.part (.object members) field = x := by simp [Serialize.part, Serialize.Value.members, found]
        exact ⟨x, rfl, fun l same => here ▸ kind_encodes shape inner same⟩

/-- An object the server encodes and decodes to the same went through faithfully. -/
theorem faithful_of_same {e r : Serialize.Value} (vectors : NoVector2 SerialProto)
    (conforms : Serialize.Conforms SerialProto lax depth name x) (enough : depth ≤ fuel)
    (encoded : Serialize.serialize SerialProto below fuel name x = .ok e)
    (decoded : Serialize.unserialize SerialProto below fuel name e = .ok r) (same : Same r l)
    (same' : Same (Serialize.restrict SerialProto depth name x) l) : Serialize.Faithful SerialProto below depth name x := by
  induction depth generalizing fuel name x e r l with
  | zero => exact conforms.elim
  | succ depth ih =>
    obtain ⟨fuel, rfl⟩ : ∃ n, fuel = n + 1 := ⟨fuel - 1, by omega⟩
    have inner (name : String) (x : Serialize.Value) (conforms : Serialize.Conforms SerialProto lax depth name x) (w r : Serialize.Value)
        (l : Lua) (encoded : Serialize.serialize SerialProto below fuel name x = .ok w)
        (decoded : Serialize.unserialize SerialProto below fuel name w = .ok r) (same : Same r l)
        (same' : Same (Serialize.restrict SerialProto depth name x) l) :=
      ih conforms (Nat.le_of_succ_le_succ enough) encoded decoded same same'
    obtain ⟨fields, proto, shape⟩ := conforms
    have noVector := vectors name fields proto
    intro fields' proto'
    obtain rfl : fields = fields' := Option.some.inj (proto.symm.trans proto')
    rw [Serialize.restrict, proto] at same'
    dsimp only at same'
    cases whole : Serialize.whole? fields with
    | some kind =>
      rw [whole] at shape same'
      dsimp only at shape same' ⊢
      obtain ⟨value, listed, isWhole⟩ := Serialize.whole?_some whole
      have noVector : ∀ type2, kind ≠ .vector2 type2 := noVector ⟨value, kind⟩ (listed ▸ List.mem_singleton_self _)
      have decoder : kind.decoder below (Serialize.unserialize SerialProto below fuel) e =
          kind.codec below (Serialize.unserialize SerialProto below fuel) e := by
        cases kind with
        | vector2 type2 => exact absurd rfl (noVector type2)
        | _ => rfl
      rw [Serialize.serialize_whole proto whole] at encoded
      rw [Serialize.unserialize_whole proto whole, decoder] at decoded
      exact kind_faithful noVector shape inner encoded decoded same same'
    | none =>
      rw [whole] at shape same'
      dsimp only at shape same' ⊢
      obtain ⟨distinct, members, rfl, keys, parts⟩ := shape
      obtain ⟨declares, conforms⟩ := Serialize.conforms_fields parts
      rw [Serialize.serialize_fields proto declares] at encoded
      obtain ⟨cells, coded, made⟩ := bind_ok.mp encoded
      obtain rfl := Except.ok.inj made
      rw [Serialize.unserialize_fields proto (mapM_length coded) (fun field there => ⟨(declares field there).1,
        (declares field there).2.1⟩) distinct] at decoded
      obtain ⟨out, back, made⟩ := bind_ok.mp decoded
      obtain rfl := Except.ok.inj made
      have names := Serialize.unserializeCells_fields (mapM_length coded) back
      have meets (field : Serialize.Field) (there : field ∈ fields) :=
        same.meet same' (List.mem_map.mpr ⟨field, there, rfl⟩)
      have one (field : Serialize.Field) (there : field ∈ fields) : ∃ w, Serialize.serializeCell below
          (Serialize.serialize SerialProto below fuel) members field = .ok w ∧ ∃ y,
            field.type.codec below (Serialize.unserialize SerialProto below fuel) w = .ok y ∧ (field.value, y) ∈ out := by
        obtain ⟨i, here⟩ := List.mem_iff_getElem?.mp there
        obtain ⟨w, cell, enc⟩ := mapM_at coded here
        have zipped : (fields.zip cells)[i]? = some (field, w) := by
          rw [List.getElem?_zip_eq_some]
          exact ⟨here, cell⟩
        obtain ⟨y, member, dec⟩ := mapM_at back zipped
        obtain ⟨named, dec⟩ := Serialize.unserializeCell_name dec
        exact ⟨w, enc, y.2, dec, named ▸ List.mem_of_getElem? member⟩
      refine ⟨fun there => ?_, ?_, fun field there => ?_⟩
      · obtain ⟨field, listed, named⟩ := List.mem_map.mp there
        obtain ⟨x, kept, -⟩ := meets field listed
        exact of_decide_eq_true (List.mem_filter.mp kept).2 named
      · rintro ⟨field, there, asks⟩ hidden
        obtain ⟨w, enc, -⟩ := one field there
        rw [Serialize.serializeCell, if_pos ⟨asks, hidden⟩] at enc
        cases enc
      · obtain ⟨w, enc, y, dec, listed⟩ := one field there
        obtain ⟨z, kept, l, same, same'⟩ := meets field there
        have outKeys : (out.map Prod.fst).Nodup := names ▸ distinct
        have value : y = z := Option.some.inj ((lookup_eq_of_mem outKeys listed).symm.trans
          (lookup_eq_of_mem outKeys (List.mem_filter.mp kept).1))
        rw [Serialize.serializeCell] at enc
        split at enc
        · cases enc
        · exact kind_faithful (noVector field there) (conforms field there) inner enc dec (value ▸ same) same'

/-! ### Sending -/

/-- The client decodes what the server sends to the declared fields of the object. -/
def FromServer (SerialProto : String → Option (List Serialize.Field)) (below : Serialize.Value → Option Nat)
    (fuel depth : Nat) (name : String)
    (x : Serialize.Value) : Prop :=
  ∃ e, Serialize.serialize SerialProto below fuel name x = .ok e ∧ ∀ m, Same e m →
    ∃ l, LuaSerialize.unserialize SerialProto fuel name m = .ok l ∧ Same (Serialize.restrict SerialProto depth name x) l

/-- The client encodes as the server does, and the server decodes what the client sends. -/
def FromClient (SerialProto : String → Option (List Serialize.Field)) (below : Serialize.Value → Option Nat)
    (fuel depth : Nat) (name : String)
    (x : Serialize.Value) (l : Lua) : Prop :=
  ∃ e m, Serialize.serialize SerialProto below fuel name x = .ok e ∧ LuaSerialize.serialize SerialProto fuel name l = .ok m ∧
    Same e m ∧ ∀ v, Same v m → ∃ r, Serialize.unserialize SerialProto below fuel name v = .ok r ∧
      ∀ l, Same (Serialize.restrict SerialProto depth name x) l → Same r l

theorem fromServer_of_faithful (vectors : NoVector2 SerialProto)
    (conforms : Serialize.Conforms SerialProto lax depth name x) (enough : depth ≤ fuel)
    (faithful : Serialize.Faithful SerialProto below depth name x) : FromServer SerialProto below fuel depth name x := by
  refine ⟨_, Serialize.serialize_wire conforms faithful enough, fun m same => ?_⟩
  obtain ⟨r, l, -, decoded, -, same⟩ := decoders_agree vectors conforms faithful enough same same
  exact ⟨l, decoded, same⟩

theorem fromClient_of_faithful (vectors : NoVector2 SerialProto)
    (conforms : Serialize.Conforms SerialProto false depth name x) (enough : depth ≤ fuel)
    (faithful : Serialize.Faithful SerialProto below depth name x) (same : Same x l) :
    FromClient SerialProto below fuel depth name x l := by
  obtain ⟨m, encoded, coded⟩ := encoders_agree conforms enough same
  refine ⟨_, m, Serialize.serialize_wire conforms faithful enough, encoded, coded, fun v same => ?_⟩
  obtain ⟨r, l, decoded, -, same, same'⟩ := decoders_agree vectors conforms faithful enough same coded
  exact ⟨r, decoded, fun l' toOther => same.transfer same' toOther⟩

/-- **Codecs.** Server and client understand each other about an object exactly when it goes through
faithfully; maps and vectors of structs that the server lacks are empty on the client. -/
theorem codecs_agree (vectors : NoVector2 SerialProto) (conforms : Serialize.Conforms SerialProto lax depth name x)
    (enough : depth ≤ fuel) :
    (Serialize.Faithful SerialProto below depth name x → FromServer SerialProto below fuel depth name x) ∧
      (Serialize.Conforms SerialProto false depth name x → ∀ l, Same x l →
        (FromServer SerialProto below fuel depth name x ∧ FromClient SerialProto below fuel depth name x l ↔
          Serialize.Faithful SerialProto below depth name x)) := by
  refine ⟨fromServer_of_faithful vectors conforms enough, fun strict l same => ⟨?_, fun faithful =>
    ⟨fromServer_of_faithful vectors strict enough faithful, fromClient_of_faithful vectors strict enough faithful same⟩⟩⟩
  rintro ⟨⟨e, encoded, fromServer⟩, e', m, encoded', -, coded, fromClient⟩
  obtain rfl := Except.ok.inj (encoded.symm.trans encoded')
  obtain ⟨l, -, same⟩ := fromServer m coded
  obtain ⟨r, decoded, stands⟩ := fromClient e coded
  exact faithful_of_same vectors strict enough encoded decoded (stands l same) same

end

/-! ### A bag -/

/-- What a bag holds of each item. -/
def bagProto : String → Option (List Serialize.Field)
  | "ItemListValue" => some [⟨"num", .string⟩]
  | "BagItem" => some [⟨"itemList", .map (.proto "ItemListValue")⟩]
  | _ => none

theorem bagProto_vectors : NoVector2 bagProto := by
  intro name fields proto field there type2
  unfold bagProto at proto
  split at proto
  · obtain rfl := Option.some.inj proto
    obtain rfl := List.mem_singleton.mp there
    simp
  · obtain rfl := Option.some.inj proto
    obtain rfl := List.mem_singleton.mp there
    simp
  · cases proto

/-- One item, under this id. -/
def bag (id : String) : Serialize.Value := .object [("itemList", .object [(id, .object [("num", .scalar "1")])])]

def luaBag (id : String) : Lua :=
  .table [(.name "itemList", .table [(.name id, .table [(.name "num", .scalar "1")])])]

theorem single_same {key : String} {v : Serialize.Value} {l : Lua} (same : Same v l) :
    Same (.object [(key, v)]) (.table [(.name key, l)]) := by
  refine @Same.object [(key, v)] [l] _ (List.nodup_singleton _) rfl (List.Perm.refl _) fun pair there => ?_
  obtain rfl := List.mem_singleton.mp there
  exact same

theorem bag_same (id : String) : Same (bag id) (luaBag id) :=
  single_same (single_same (single_same (.scalar "1")))

theorem bag_conforms (id : String) : Serialize.Conforms bagProto false 2 "BagItem" (bag id) := by
  refine ⟨_, rfl, List.nodup_singleton _, _, rfl, List.nodup_singleton _, fun field there => ?_⟩
  obtain rfl := List.mem_singleton.mp there
  refine ⟨rfl, _, rfl, List.nodup_singleton _, fun member there => ?_⟩
  obtain rfl := List.mem_singleton.mp there
  refine ⟨_, rfl, List.nodup_singleton _, _, rfl, List.nodup_singleton _, fun field there => ?_⟩
  obtain rfl := List.mem_singleton.mp there
  exact ⟨rfl, trivial⟩

theorem potion_sent :
    FromServer bagProto (fun _ => none) 2 2 "BagItem" (bag "100001") ∧
      FromClient bagProto (fun _ => none) 2 2 "BagItem" (bag "100001") (luaBag "100001") := by
  have faithful : Serialize.Faithful bagProto (fun _ => none) 2 "BagItem" (bag "100001") := by
    intro fields proto
    obtain rfl := Option.some.inj proto
    refine ⟨by decide, fun _ => (by decide : "hasOwnProperty" ∉ ["itemList"]), fun field there => ?_⟩
    obtain rfl := List.mem_singleton.mp there
    refine ⟨(by decide : "hasOwnProperty" ∉ ["100001"]), (by decide : "__proto__" ∉ ["100001"]), fun member there => ?_⟩
    obtain rfl := List.mem_singleton.mp there
    intro fields proto
    obtain rfl := Option.some.inj proto
    refine ⟨by decide, fun _ => (by decide : "hasOwnProperty" ∉ ["num"]), fun field there => ?_⟩
    obtain rfl := List.mem_singleton.mp there
    trivial
  exact ((codecs_agree bagProto_vectors (bag_conforms "100001") (Nat.le_refl 2)).2 (bag_conforms "100001") _
    (bag_same "100001")).mpr faithful

/-- An item named like a function of every object stops the server. -/
theorem hasOwnProperty_not_sent :
    NoVector2 bagProto ∧ Serialize.Conforms bagProto false 2 "BagItem" (bag "hasOwnProperty") ∧
      Same (bag "hasOwnProperty") (luaBag "hasOwnProperty") ∧
      ∀ (below : Serialize.Value → Option Nat) (fuel : Nat), 2 ≤ fuel →
        ¬ FromServer bagProto below fuel 2 "BagItem" (bag "hasOwnProperty") := by
  refine ⟨bagProto_vectors, bag_conforms _, bag_same _, ?_⟩
  rintro below fuel enough ⟨e, encoded, -⟩
  obtain ⟨fuel, rfl⟩ : ∃ n, fuel = n + 2 := ⟨fuel - 2, by omega⟩
  have failed : Serialize.serialize bagProto below (fuel + 2) "BagItem" (bag "hasOwnProperty") = .error .typeError := rfl
  cases failed.symm.trans encoded

end Tinygame.Codecs
