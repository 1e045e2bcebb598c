import Tinygame.Base.Lookup
import Tinygame.Base.RoundTrip
import Tinygame.Dataprocess.Serialize

/-!
# The loops of the serializer

Each loop over members, elements or fields is a `mapM` over them, whatever it converts them with.
-/

namespace Tinygame.Serialize

/-! ### Members -/

section
variable {key : String} {members acc : List (String × Value)} {x : Value}

/-- An object without a member `hasOwnProperty` answers for its members. -/
theorem hasOwnProperty_object (key : String) (plain : "hasOwnProperty" ∉ members.map Prod.fst) :
    (Value.object members).hasOwnProperty key = .ok (members.lookup key).isSome := by
  have absent : ¬ (members.lookup "hasOwnProperty").isSome = true := fun some => plain (lookup_isSome.mp some)
  exact if_neg absent

theorem hasOwnProperty_hidden (key : String) (hidden : "hasOwnProperty" ∈ members.map Prod.fst) :
    (Value.object members).hasOwnProperty key = .error .typeError :=
  if_pos (lookup_isSome.mpr hidden)

/-- A new member goes to the end, but for `__proto__`. -/
theorem put_object (fresh : key ∉ acc.map Prod.fst) :
    (Value.object acc).put key x = .ok (.object (acc ++ [(key, x)].filter (·.1 ≠ "__proto__"))) := by
  have absent : ¬ (acc.lookup key).isSome = true := fun some => fresh (lookup_isSome.mp some)
  by_cases proto : key = "__proto__"
  · simp [Value.put, proto]
  · simp [Value.put, proto, if_neg absent]

/-- A name that comes once stays fresh. -/
theorem fresh_append {out : String × Value} (fresh : key ∉ acc.map Prod.fst) (different : key ≠ out.1) :
    key ∉ (acc ++ [out].filter (·.1 ≠ "__proto__")).map Prod.fst := by
  simp only [List.map_append, List.mem_append, not_or]
  refine ⟨fresh, fun listed => ?_⟩
  obtain ⟨pair, kept, same⟩ := List.mem_map.mp listed
  exact different (same.symm.trans (congrArg Prod.fst (List.mem_singleton.mp (List.mem_filter.mp kept).1)))

/-- The member with its value converted. -/
def convertMember (convert : Value → Except Error Value) (member : String × Value) : Except Error (String × Value) := do
  return (member.1, ← convert member.2)

theorem convertMember_ok {convert : Value → Except Error Value} {member out : String × Value} :
    convertMember convert member = .ok out ↔ out.1 = member.1 ∧ convert member.2 = .ok out.2 := by
  unfold convertMember
  rw [bind_ok]
  constructor
  · rintro ⟨x, converted, same⟩
    obtain rfl := Except.ok.inj same
    exact ⟨rfl, converted⟩
  · rintro ⟨same, converted⟩
    exact ⟨out.2, converted, congrArg Except.ok (Prod.ext same.symm rfl)⟩

theorem convertMembers_keys {convert : Value → Except Error Value} :
    ∀ {members out : List (String × Value)}, members.mapM (convertMember convert) = .ok out →
      out.map Prod.fst = members.map Prod.fst
  | [], _, converted => by rw [mapM_nil_ok.mp converted]
  | _ :: _, _, converted => by
    obtain ⟨y, rest, first, others, rfl⟩ := mapM_cons_ok.mp converted
    rw [List.map_cons, List.map_cons, (convertMember_ok.mp first).1, convertMembers_keys others]

theorem convertKey_object (convert : Value → Except Error Value) (plain : "hasOwnProperty" ∉ members.map Prod.fst)
    {member : String × Value} (own : member.1 ∈ members.map Prod.fst) (fresh : member.1 ∉ acc.map Prod.fst) :
    convertKey convert (.object members) (.object acc) member = (do
      let out ← convertMember convert member
      return .object (acc ++ [out].filter (·.1 ≠ "__proto__")) : Except Error Value) := by
  unfold convertKey convertMember
  rw [hasOwnProperty_object _ plain, lookup_isSome.mpr own]
  dsimp only [bind, Except.bind, if_true]
  cases convert member.2 with
  | error e => rfl
  | ok y => exact put_object fresh

/-- From any member on, the loop converts what is left. -/
theorem convertMap_loop (convert : Value → Except Error Value) (plain : "hasOwnProperty" ∉ members.map Prod.fst) :
    ∀ (rest acc : List (String × Value)), (∀ member ∈ rest, member.1 ∈ members.map Prod.fst) →
      (rest.map Prod.fst).Nodup → (∀ member ∈ rest, member.1 ∉ acc.map Prod.fst) →
      rest.foldlM (convertKey convert (.object members)) (.object acc) = (do
        let out ← rest.mapM (convertMember convert)
        return .object (acc ++ out.filter (·.1 ≠ "__proto__")) : Except Error Value)
  | [], acc, _, _, _ => by simp [pure, Except.pure, bind, Except.bind]
  | member :: rest, acc, within, distinct, fresh => by
    obtain ⟨first, later⟩ := List.nodup_cons.mp distinct
    rw [List.foldlM_cons, List.mapM_cons,
      convertKey_object convert plain (within member List.mem_cons_self) (fresh member List.mem_cons_self)]
    cases converted : convertMember convert member with
    | error e => rfl
    | ok out =>
      have kept : out.1 = member.1 := (convertMember_ok.mp converted).1
      refine (convertMap_loop convert plain rest (acc ++ [out].filter (·.1 ≠ "__proto__"))
        (fun other there => within other (List.mem_cons_of_mem _ there)) later fun other there => ?_).trans ?_
      · have different : other.1 ≠ out.1 := fun same => first (List.mem_map.mpr ⟨other, there, same.trans kept⟩)
        exact fresh_append (fresh other (List.mem_cons_of_mem _ there)) different
      · cases rest.mapM (convertMember convert) with
        | error e => rfl
        | ok outs =>
          refine congrArg (fun out => Except.ok (Value.object out)) ?_
          rw [List.append_assoc, ← List.filter_append, List.singleton_append]

/-- The loop over a map converts every member, but loses one named `__proto__`. -/
theorem convertMap_object (convert : Value → Except Error Value) (distinct : (members.map Prod.fst).Nodup)
    (plain : "hasOwnProperty" ∉ members.map Prod.fst) :
    convertMap convert (.object members) = (do
      let out ← members.mapM (convertMember convert)
      return .object (out.filter (·.1 ≠ "__proto__")) : Except Error Value) :=
  convertMap_loop convert plain members [] (fun member there => List.mem_map.mpr ⟨member, there, rfl⟩) distinct
    fun _ _ => List.not_mem_nil

theorem convertMap_hidden (convert : Value → Except Error Value) (hidden : "hasOwnProperty" ∈ members.map Prod.fst) :
    convertMap convert (.object members) = .error .typeError := by
  cases members with
  | nil => simp at hidden
  | cons member rest =>
    unfold convertMap
    rw [Value.members, List.foldlM_cons, convertKey, hasOwnProperty_hidden _ hidden]
    rfl

end

/-! ### Elements -/

/-- Up to its length the loop converts every element. -/
theorem convertVector_array (convert : Value → Except Error Value) (elements : List Value) :
    convertVector convert (some elements.length) (.array elements) = (do
      let out ← elements.mapM convert
      return .array out : Except Error Value) := by
  have reads : (List.range elements.length).map (fun k => elements[k]?.getD .undefined) = elements := by
    refine List.ext_getElem (by simp) fun k inside within => ?_
    simp [within]
  have loop : (List.range elements.length).mapM (fun k => do convert (← (Value.array elements).index k)) =
      elements.mapM convert := by
    conv_rhs => rw [← reads, List.mapM_map]
    rfl
  rw [convertVector, loop]

/-- A loop of the wrong length makes a vector of that length, if any. -/
theorem convertVector_length {convert : Value → Except Error Value} {bound : Option Nat} {v : Value}
    {out : List Value} (converted : convertVector convert bound v = .ok (.array out)) : bound = some out.length := by
  cases bound with
  | none => cases converted
  | some n =>
    obtain ⟨elements, all, same⟩ := bind_ok.mp converted
    obtain rfl : elements = out := by
      injection same with same
      injection same
    rw [mapM_length all, List.length_range]

/-! ### Fields -/

section
variable (below : Value → Option Nat)

/-- How the value of a field is coded, either way. -/
def Kind.codec (codec : String → Value → Except Error Value) : Kind → Value → Except Error Value
  | .map (.proto type2), v | .map2 (.proto type2), v => convertMap (codec type2) v
  | .vector (.proto type2), v | .vector2 (.proto type2), v => do
    convertVector (codec type2) (← length below v) v
  | .struct type1, v => codec type1 v
  | .other _, _ => .error .typeError
  | _, v => .ok v

/-- The value `serialize` keeps for a field. -/
def serializeCell (serialize : String → Value → Except Error Value) (members : List (String × Value)) (field : Field) :
    Except Error Value :=
  if field.type.asks = true ∧ "hasOwnProperty" ∈ members.map Prod.fst then .error .typeError
  else field.type.codec below serialize (part (.object members) field)

/-- The member `unserialize` makes of the value of a field. -/
def unserializeCell (unserialize : String → Value → Except Error Value) (cell : Field × Value) :
    Except Error (String × Value) := do
  return (cell.1.value, ← cell.1.type.codec below unserialize cell.2)

variable {below} {codec : String → Value → Except Error Value} {name : String} {members acc : List (String × Value)}
  {field : Field} {x : Value}

theorem store_end (elements : List Value) (x : Value) :
    (Value.array elements).store elements.length x = .ok (.array (elements ++ [x])) := by
  simp [Value.store]

theorem codec_absent (holds : field.type.holdsStructs = true) :
    field.type.codec below codec field.type.absent = .ok field.type.absent := by
  cases type : field.type with
  | map type2 | vector type2 =>
    cases type2 with
    | proto => rfl
    | string => rw [type] at holds; cases holds
  | _ => rw [type] at holds; cases holds

theorem serializeField_absent (elements : List Value) (holds : field.type.holdsStructs = true)
    (absent : members.lookup field.value = none) :
    serializeField below codec name (.object members) (.array elements) elements.length field = (do
      let cell ← serializeCell below codec members field
      return .array (elements ++ [cell]) : Except Error Value) := by
  have cell : part (.object members) field = field.type.absent := by
    simp [part, Value.members, absent]
  have coded : field.type.codec below codec field.type.absent = .ok field.type.absent := codec_absent holds
  obtain ⟨value, type⟩ := field
  unfold serializeField serializeCell
  rw [cell, coded]
  dsimp only at absent holds ⊢
  by_cases hidden : "hasOwnProperty" ∈ members.map Prod.fst
  · have asked := hasOwnProperty_hidden value hidden
    cases type with
    | map type2 | vector type2 =>
      cases type2 with
      | proto => simp [asked, hidden, Kind.asks, bind, Except.bind]
      | string => cases holds
    | _ => cases holds
  · have asked := hasOwnProperty_object value hidden
    rw [absent] at asked
    cases type with
    | map type2 | vector type2 =>
      cases type2 with
      | proto => simp [asked, hidden, Kind.absent, store_end, bind, Except.bind, pure, Except.pure]
      | string => cases holds
    | _ => cases holds

theorem serializeField_part (elements : List Value) (whole : field.type.isWhole = false) (known : field.type.isOther = false)
    (found : members.lookup field.value = some x) :
    serializeField below codec name (.object members) (.array elements) elements.length field = (do
      let cell ← serializeCell below codec members field
      return .array (elements ++ [cell]) : Except Error Value) := by
  have read : (Value.object members).get field.value = .ok x := by
    simp [Value.get, Value.members, found]
  have cell : part (.object members) field = x := by
    simp [part, Value.members, found]
  obtain ⟨value, type⟩ := field
  unfold serializeField serializeCell checkKey
  rw [cell]
  dsimp only at whole known found read ⊢
  by_cases hidden : "hasOwnProperty" ∈ members.map Prod.fst
  · have asked := hasOwnProperty_hidden value hidden
    cases type with
    | string => simp [asked, hidden, Kind.asks, bind, Except.bind]
    | map type2 | vector type2 =>
      cases type2 with
      | string => simp [read, Kind.asks, Kind.codec, store_end, bind, Except.bind, pure, Except.pure]
      | proto type2 => simp [asked, hidden, Kind.asks, bind, Except.bind]
    | map2 | vector2 => cases whole
    | struct type1 =>
      simp only [read, Kind.asks, Kind.codec, bind, Except.bind]
      cases codec type1 x <;> simp [store_end, pure, Except.pure]
    | other => cases known
  · have asked := hasOwnProperty_object value hidden
    rw [found] at asked
    cases type with
    | string => simp [asked, hidden, read, Value.push, Kind.codec, bind, Except.bind, pure, Except.pure]
    | map type2 =>
      cases type2 with
      | string => simp [read, Kind.asks, Kind.codec, store_end, bind, Except.bind, pure, Except.pure]
      | proto type2 =>
        simp only [asked, hidden, read, Kind.codec, bind, Except.bind, Option.isSome_some, if_true, and_false, if_false]
        cases convertMap (codec type2) x <;> simp [store_end, pure, Except.pure]
    | vector type2 =>
      cases type2 with
      | string => simp [read, Kind.asks, Kind.codec, store_end, bind, Except.bind, pure, Except.pure]
      | proto type2 =>
        simp only [asked, hidden, read, Kind.codec, bind, Except.bind, Option.isSome_some, if_true, and_false, if_false]
        cases length below x with
        | error e => rfl
        | ok bound =>
          dsimp only
          cases convertVector (codec type2) bound x <;> simp [store_end, pure, Except.pure]
    | map2 | vector2 => cases whole
    | struct type1 =>
      simp only [read, Kind.asks, Kind.codec, bind, Except.bind]
      cases codec type1 x <;> simp [store_end, pure, Except.pure]
    | other => cases known

theorem unserializeField_part {object : Value} {i : Nat} (whole : field.type.isWhole = false) (known : field.type.isOther = false)
    (read : object.index i = .ok x) (fresh : field.value ∉ acc.map Prod.fst) :
    unserializeField below codec name object (.object acc) i field = (do
      let out ← unserializeCell below codec (field, x)
      return .object (acc ++ [out].filter (·.1 ≠ "__proto__")) : Except Error Value) := by
  have kept (y : Value) := put_object (x := y) fresh
  obtain ⟨value, type⟩ := field
  unfold unserializeField unserializeCell
  dsimp only at whole known kept ⊢
  cases type with
  | string => rw [read]; exact kept x
  | map type2 =>
    cases type2 with
    | string => rw [read]; exact kept x
    | proto type2 =>
      rw [read]
      dsimp only [Kind.codec, bind, Except.bind]
      cases convertMap (codec type2) x with
      | error e => rfl
      | ok y => exact kept y
  | vector type2 =>
    cases type2 with
    | string => rw [read]; exact kept x
    | proto type2 =>
      rw [read]
      dsimp only [Kind.codec, bind, Except.bind]
      cases length below x with
      | error e => rfl
      | ok bound =>
        dsimp only
        cases convertVector (codec type2) bound x with
        | error e => rfl
        | ok y => exact kept y
  | map2 | vector2 => cases whole
  | struct type1 =>
    rw [read]
    dsimp only [Kind.codec, bind, Except.bind]
    cases codec type1 x with
    | error e => rfl
    | ok y => exact kept y
  | other => cases known

/-- The fields have their values in the object, or may be absent. -/
def Declares (fields : List Field) (members : List (String × Value)) : Prop :=
  ∀ field ∈ fields, field.type.isWhole = false ∧ field.type.isOther = false ∧
    ((members.lookup field.value).isSome = true ∨ field.type.holdsStructs = true)

/-- The values of the fields come to stand at their positions. -/
theorem serializeField_loop : ∀ (fields : List Field) (elements : List Value), Declares fields members →
    (fields.zipIdx elements.length).foldlM (fun serialObject (field, i) =>
        serializeField below codec name (.object members) serialObject i field) (.array elements) = (do
      let cells ← fields.mapM (serializeCell below codec members)
      return .array (elements ++ cells) : Except Error Value)
  | [], elements, _ => by simp [pure, Except.pure, bind, Except.bind]
  | field :: fields, elements, declares => by
    obtain ⟨⟨whole, known, there⟩, later⟩ := List.forall_mem_cons.mp declares
    have first : serializeField below codec name (.object members) (.array elements) elements.length field = (do
        let cell ← serializeCell below codec members field
        return .array (elements ++ [cell]) : Except Error Value) := by
      cases found : members.lookup field.value with
      | some x => exact serializeField_part elements whole known found
      | none =>
        rw [found] at there
        exact serializeField_absent elements (there.resolve_left Bool.false_ne_true) found
    rw [List.zipIdx_cons, List.foldlM_cons, List.mapM_cons]
    dsimp only
    rw [first]
    cases serializeCell below codec members field with
    | error e => rfl
    | ok cell =>
      have rest := serializeField_loop fields (elements ++ [cell]) later
      rw [List.length_append, List.length_singleton] at rest
      refine rest.trans ?_
      cases fields.mapM (serializeCell below codec members) with
      | error e => rfl
      | ok cells => exact congrArg (fun cells => Except.ok (Value.array cells)) (List.append_assoc elements [cell] cells)

theorem unserializeCell_name {cell : Field × Value} {out : String × Value}
    (made : unserializeCell below codec cell = .ok out) :
    out.1 = cell.1.value ∧ cell.1.type.codec below codec cell.2 = .ok out.2 := by
  obtain ⟨x, coded, same⟩ := bind_ok.mp made
  obtain rfl := Except.ok.inj same
  exact ⟨rfl, coded⟩

/-- The values at the positions become members, but for a field named `__proto__`. -/
theorem unserializeField_loop : ∀ (fields : List Field) (cells before : List Value) (acc : List (String × Value)),
    cells.length = fields.length → (∀ field ∈ fields, field.type.isWhole = false ∧ field.type.isOther = false) →
    (fields.map Field.value).Nodup → (∀ field ∈ fields, field.value ∉ acc.map Prod.fst) →
    (fields.zipIdx before.length).foldlM (fun unserialObject (field, i) =>
        unserializeField below codec name (.array (before ++ cells)) unserialObject i field) (.object acc) = (do
      let out ← (fields.zip cells).mapM (unserializeCell below codec)
      return .object (acc ++ out.filter (·.1 ≠ "__proto__")) : Except Error Value)
  | [], [], _, acc, _, _, _, _ => by simp [pure, Except.pure, bind, Except.bind]
  | [], _ :: _, _, _, sizes, _, _, _ => absurd sizes (by simp)
  | _ :: _, [], _, _, sizes, _, _, _ => absurd sizes (by simp)
  | field :: fields, cell :: cells, before, acc, sizes, parts, distinct, fresh => by
    obtain ⟨⟨whole, known⟩, laterParts⟩ := List.forall_mem_cons.mp parts
    obtain ⟨first, laterNames⟩ := List.nodup_cons.mp distinct
    have read : (Value.array (before ++ cell :: cells)).index before.length = .ok cell := by
      simp [Value.index]
    rw [List.zipIdx_cons, List.foldlM_cons, List.zip_cons_cons, List.mapM_cons]
    dsimp only
    rw [unserializeField_part whole known read (fresh field List.mem_cons_self)]
    cases made : unserializeCell below codec (field, cell) with
    | error e => rfl
    | ok out =>
      have named : out.1 = field.value := (unserializeCell_name made).1
      have rest := unserializeField_loop fields cells (before ++ [cell]) (acc ++ [out].filter (·.1 ≠ "__proto__"))
        (Nat.succ.inj sizes) laterParts laterNames fun other there => by
          have different : other.value ≠ out.1 := fun same => first (List.mem_map.mpr ⟨other, there, same.trans named⟩)
          exact fresh_append (fresh other (List.mem_cons_of_mem _ there)) different
      rw [List.length_append, List.length_singleton, List.append_assoc, List.singleton_append] at rest
      refine rest.trans ?_
      cases (fields.zip cells).mapM (unserializeCell below codec) with
      | error e => rfl
      | ok outs =>
        refine congrArg (fun out => Except.ok (Value.object out)) ?_
        rw [List.append_assoc, ← List.filter_append, List.singleton_append]

end
end Tinygame.Serialize
