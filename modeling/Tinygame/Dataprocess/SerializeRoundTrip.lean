import Tinygame.Dataprocess.SerializeLoops

/-!
# What goes through the serializer

`unserialize` undoes `serialize` on an object that conforms to its schema, provided no name on the way
hides what every object has, and no vector that is the whole object is of another length than the serial
form of its first element.
-/

namespace Tinygame.Serialize

section
variable {below : Value → Option Nat} {encode decode : String → Value → Except Error Value}
  {restrict wire : String → Value → Value} {conforms faithful : String → Value → Prop} {type2 : String}
  {members : List (String × Value)} {elements : List Value}

/-! ### Containers -/

theorem filter_plain {members : List (String × Value)} (plain : "__proto__" ∉ members.map Prod.fst) :
    members.filter (·.1 ≠ "__proto__") = members :=
  List.filter_eq_self.mpr fun member there =>
    decide_eq_true fun named => plain (List.mem_map.mpr ⟨member, there, named⟩)

theorem convertMap_of_forall {convert : Value → Except Error Value} {result : Value → Value}
    (distinct : (members.map Prod.fst).Nodup) (hidden : "hasOwnProperty" ∉ members.map Prod.fst)
    (plain : "__proto__" ∉ members.map Prod.fst) (each : ∀ member ∈ members, convert member.2 = .ok (result member.2)) :
    convertMap convert (.object members) = .ok (.object (members.map fun member => (member.1, result member.2))) := by
  have all : members.mapM (convertMember convert) = .ok (members.map fun member => (member.1, result member.2)) :=
    mapM_of_forall fun member there => convertMember_ok.mpr ⟨rfl, each member there⟩
  rw [convertMap_object _ distinct hidden, all]
  exact congrArg (fun out => Except.ok (Value.object out)) (filter_plain (convertMembers_keys all ▸ plain))

theorem convertVector_of_forall {convert : Value → Except Error Value} {result : Value → Value}
    (each : ∀ x ∈ elements, convert x = .ok (result x)) :
    convertVector convert (some elements.length) (.array elements) = .ok (.array (elements.map result)) :=
  (convertVector_array _ _).trans (bind_ok.mpr ⟨_, mapM_of_forall each, rfl⟩)

theorem map_roundTrips (distinct : (members.map Prod.fst).Nodup) :
    RoundTrips (convertMap (encode type2)) (convertMap (decode type2)) (.object members)
        (.object (members.map fun member => (member.1, restrict type2 member.2))) ↔
      "hasOwnProperty" ∉ members.map Prod.fst ∧ "__proto__" ∉ members.map Prod.fst ∧
        ∀ member ∈ members, RoundTrips (encode type2) (decode type2) member.2 (restrict type2 member.2) := by
  have each : (∀ member ∈ members, RoundTrips (convertMember (encode type2)) (convertMember (decode type2)) member
      (member.1, restrict type2 member.2)) ↔
      ∀ member ∈ members, RoundTrips (encode type2) (decode type2) member.2 (restrict type2 member.2) := by
    refine forall₂_congr fun member _ => ⟨?_, ?_⟩
    · rintro ⟨w, encoded, decoded⟩
      exact ⟨w.2, (convertMember_ok.mp encoded).2, (convertMember_ok.mp decoded).2⟩
    · rintro ⟨w, encoded, decoded⟩
      exact ⟨(member.1, w), convertMember_ok.mpr ⟨rfl, encoded⟩, convertMember_ok.mpr ⟨rfl, decoded⟩⟩
  rw [← each, ← mapM_roundTrips]
  constructor
  · rintro ⟨w, encoded, decoded⟩
    by_cases hidden : "hasOwnProperty" ∈ members.map Prod.fst
    · rw [convertMap_hidden _ hidden] at encoded
      cases encoded
    rw [convertMap_object _ distinct hidden] at encoded
    obtain ⟨ws, first, same⟩ := bind_ok.mp encoded
    obtain rfl := Except.ok.inj same
    have keys := convertMembers_keys first
    have fewer : ((ws.filter (·.1 ≠ "__proto__")).map Prod.fst).Sublist (members.map Prod.fst) :=
      keys ▸ (List.filter_sublist).map Prod.fst
    rw [convertMap_object _ (distinct.sublist fewer) fun there => hidden (fewer.subset there)] at decoded
    obtain ⟨out, second, same⟩ := bind_ok.mp decoded
    have kept : out.filter (·.1 ≠ "__proto__") = members.map fun member => (member.1, restrict type2 member.2) := by
      injection same with same
      injection same
    have plain : "__proto__" ∉ members.map Prod.fst := fun there => by
      obtain ⟨member, listed, named⟩ := List.mem_map.mp there
      have inOut : (member.1, restrict type2 member.2) ∈ out.filter (·.1 ≠ "__proto__") :=
        kept ▸ List.mem_map.mpr ⟨member, listed, rfl⟩
      exact of_decide_eq_true (List.mem_filter.mp inOut).2 named
    have all := filter_plain (keys ▸ plain)
    rw [all] at second
    rw [filter_plain (by rw [convertMembers_keys second, keys]; exact plain)] at kept
    exact ⟨hidden, plain, ws, first, kept ▸ second⟩
  · rintro ⟨hidden, plain, ws, first, second⟩
    have keys := convertMembers_keys first
    have keys' := convertMembers_keys second
    refine ⟨.object ws, ?_, ?_⟩
    · rw [convertMap_object _ distinct hidden, first]
      exact congrArg (fun out => Except.ok (Value.object out)) (filter_plain (keys ▸ plain))
    · rw [convertMap_object _ (keys ▸ distinct) (keys ▸ hidden), second]
      exact congrArg (fun out => Except.ok (Value.object out)) (filter_plain (keys' ▸ keys ▸ plain))

theorem vector_roundTrips :
    RoundTrips (fun v => do convertVector (encode type2) (← length below v) v)
        (fun v => do convertVector (decode type2) (← length below v) v) (.array elements)
        (.array (elements.map (restrict type2))) ↔
      ∀ x ∈ elements, RoundTrips (encode type2) (decode type2) x (restrict type2 x) := by
  rw [← mapM_roundTrips]
  constructor
  · rintro ⟨w, encoded, decoded⟩
    obtain ⟨ws, first, same⟩ := bind_ok.mp ((convertVector_array _ _).symm.trans encoded)
    obtain rfl := Except.ok.inj same
    obtain ⟨out, second, same⟩ := bind_ok.mp ((convertVector_array _ _).symm.trans decoded)
    injection same with same
    injection same with same
    exact ⟨ws, first, same ▸ second⟩
  · rintro ⟨ws, first, second⟩
    refine ⟨.array ws, ?_, ?_⟩
    · exact (convertVector_array _ _).trans (bind_ok.mpr ⟨ws, first, rfl⟩)
    · exact (convertVector_array _ _).trans (bind_ok.mpr ⟨_, second, rfl⟩)

/-- A vector that is the whole object is decoded as long as the serial form of its first element. -/
theorem vector2_roundTrips
    (wires : ∀ x ∈ elements, RoundTrips (encode type2) (decode type2) x (restrict type2 x) →
      encode type2 x = .ok (wire type2 x)) :
    RoundTrips (fun v => do convertVector (encode type2) (← length below v) v)
        (fun v => do convertVector (decode type2) (← length below (← v.index 0)) v) (.array elements)
        (.array (elements.map (restrict type2))) ↔
      (∃ first, elements.head? = some first ∧ length below (wire type2 first) = .ok (some elements.length)) ∧
        ∀ x ∈ elements, RoundTrips (encode type2) (decode type2) x (restrict type2 x) := by
  constructor
  · rintro ⟨w, encoded, decoded⟩
    obtain ⟨ws, coded, same⟩ := bind_ok.mp ((convertVector_array _ _).symm.trans encoded)
    obtain rfl := Except.ok.inj same
    obtain ⟨_, read, looped⟩ := bind_ok.mp decoded
    obtain rfl := Except.ok.inj read
    obtain ⟨bound, long, loop⟩ := bind_ok.mp looped
    have size := convertVector_length loop
    rw [List.length_map, ← mapM_length coded] at size
    rw [size, convertVector_array] at loop
    obtain ⟨out, second, same⟩ := bind_ok.mp loop
    have whole : RoundTrips (List.mapM (encode type2)) (List.mapM (decode type2)) elements
        (elements.map (restrict type2)) := by
      injection same with same
      injection same with same
      exact ⟨ws, coded, same ▸ second⟩
    have each := mapM_roundTrips.mp whole
    refine ⟨?_, each⟩
    cases elements with
    | nil =>
      obtain rfl := mapM_nil_ok.mp coded
      cases long
    | cons first rest =>
      obtain ⟨w, others, head, -, rfl⟩ := mapM_cons_ok.mp coded
      have same : wire type2 first = w :=
        Except.ok.inj ((wires first List.mem_cons_self (each first List.mem_cons_self)).symm.trans head)
      exact ⟨first, rfl, same ▸ long.trans (by rw [size, mapM_length coded])⟩
  · rintro ⟨⟨first, head, long⟩, each⟩
    obtain ⟨ws, coded, decoded⟩ := mapM_roundTrips.mpr each
    refine ⟨.array ws, (convertVector_array _ _).trans (bind_ok.mpr ⟨ws, coded, rfl⟩), ?_⟩
    have bound : length below (ws[0]?.getD .undefined) = .ok (some ws.length) := by
      cases elements with
      | nil => cases head
      | cons x rest =>
        obtain rfl := Option.some.inj head
        obtain ⟨w, others, head, -, rfl⟩ := mapM_cons_ok.mp coded
        have same := Except.ok.inj ((wires x List.mem_cons_self (each x List.mem_cons_self)).symm.trans head)
        rw [mapM_length coded, ← long, same]
        rfl
    refine bind_ok.mpr ⟨_, rfl, bind_ok.mpr ⟨some ws.length, bound, ?_⟩⟩
    exact (convertVector_array _ _).trans (bind_ok.mpr ⟨_, decoded, rfl⟩)

/-! ### Values of a kind -/

variable {kind : Kind} {v : Value}

theorem Kind.codec_wire (each : ∀ name v, conforms name v → faithful name v → encode name v = .ok (wire name v))
    (conforms' : kind.Conforms conforms v) (faithful' : kind.Faithful below wire faithful v) :
    kind.codec below encode v = .ok (kind.convert wire v) := by
  cases kind with
  | string => rfl
  | map type2 | map2 type2 =>
    cases type2 with
    | string => rfl
    | proto type2 =>
      obtain ⟨members, rfl, distinct, inside⟩ := conforms'
      obtain ⟨hidden, plain, inner⟩ := faithful'
      exact convertMap_of_forall distinct hidden plain fun member there => each _ _ (inside member there) (inner member there)
  | vector type2 =>
    cases type2 with
    | string => rfl
    | proto type2 =>
      obtain ⟨elements, rfl, inside⟩ := conforms'
      exact convertVector_of_forall fun x there => each _ _ (inside x there) (faithful' elements rfl x there)
  | vector2 type2 =>
    cases type2 with
    | string => rfl
    | proto type2 =>
      obtain ⟨elements, rfl, inside⟩ := conforms'
      exact convertVector_of_forall fun x there => each _ _ (inside x there) ((faithful' elements rfl).2 x there)
  | struct type1 => exact each type1 v conforms' faithful'
  | other => exact conforms'.elim

/-- The decoder of a value that is the whole object. -/
def Kind.decoder (below : Value → Option Nat) (decode : String → Value → Except Error Value) : Kind → Value → Except Error Value
  | .vector2 (.proto type2), v => do convertVector (decode type2) (← length below (← v.index 0)) v
  | kind, v => kind.codec below decode v

theorem Kind.roundTrips
    (wires : ∀ name v, conforms name v → faithful name v → encode name v = .ok (wire name v))
    (each : ∀ name v, conforms name v →
      (RoundTrips (encode name) (decode name) v (restrict name v) ↔ faithful name v))
    (conforms' : kind.Conforms conforms v) :
    RoundTrips (kind.codec below encode) (kind.decoder below decode) v (kind.convert restrict v) ↔
      kind.Faithful below wire faithful v := by
  cases kind with
  | string => exact ⟨fun _ => trivial, fun _ => ⟨v, rfl, rfl⟩⟩
  | map type2 | map2 type2 =>
    cases type2 with
    | string => exact ⟨fun _ => trivial, fun _ => ⟨v, rfl, rfl⟩⟩
    | proto type2 =>
      obtain ⟨members, rfl, distinct, inside⟩ := conforms'
      refine (map_roundTrips distinct).trans (and_congr_right fun _ => and_congr_right fun _ => ?_)
      exact forall₂_congr fun member there => each _ _ (inside member there)
  | vector type2 =>
    cases type2 with
    | string => exact ⟨fun _ => trivial, fun _ => ⟨v, rfl, rfl⟩⟩
    | proto type2 =>
      obtain ⟨elements, rfl, inside⟩ := conforms'
      refine vector_roundTrips.trans ?_
      constructor
      · rintro all elements' same x there
        obtain rfl : elements = elements' := by injection same
        exact (each _ _ (inside x there)).mp (all x there)
      · exact fun all x there => (each _ _ (inside x there)).mpr (all elements rfl x there)
  | vector2 type2 =>
    cases type2 with
    | string => exact ⟨fun _ => trivial, fun _ => ⟨v, rfl, rfl⟩⟩
    | proto type2 =>
      obtain ⟨elements, rfl, inside⟩ := conforms'
      refine (vector2_roundTrips fun x there round =>
        wires _ _ (inside x there) ((each _ _ (inside x there)).mp round)).trans ?_
      constructor
      · rintro ⟨long, all⟩ elements' same
        obtain rfl : elements = elements' := by injection same
        exact ⟨long, fun x there => (each _ _ (inside x there)).mp (all x there)⟩
      · intro all
        obtain ⟨long, all⟩ := all elements rfl
        exact ⟨long, fun x there => (each _ _ (inside x there)).mpr (all x there)⟩
  | struct type1 => exact each type1 v conforms'
  | other => exact conforms'.elim

/-! ### Objects with fields -/

variable {fields : List Field} {result : Field → Value}

/-- The names of the members are those of the fields. -/
theorem unserializeCells_names : ∀ {cells : List (Field × Value)} {out : List (String × Value)},
    cells.mapM (unserializeCell below decode) = .ok out → out.map Prod.fst = cells.map (·.1.value)
  | [], _, made => by rw [mapM_nil_ok.mp made]; rfl
  | _ :: _, _, made => by
    obtain ⟨y, rest, first, others, rfl⟩ := mapM_cons_ok.mp made
    rw [List.map_cons, List.map_cons, (unserializeCell_name first).1, unserializeCells_names others]

theorem unserializeCells_fields {cells : List Value} {out : List (String × Value)} (sizes : cells.length = fields.length)
    (made : (fields.zip cells).mapM (unserializeCell below decode) = .ok out) :
    out.map Prod.fst = fields.map Field.value := by
  rw [unserializeCells_names made, ← List.map_fst_zip (Nat.le_of_eq sizes.symm), List.map_map,
    List.map_fst_zip (Nat.le_of_eq sizes.symm)]
  rfl

theorem record_roundTrips :
    (∃ cells, fields.mapM (serializeCell below encode members) = .ok cells ∧
        ∃ out, (fields.zip cells).mapM (unserializeCell below decode) = .ok out ∧
          out.filter (·.1 ≠ "__proto__") = fields.map fun field => (field.value, result field)) ↔
      "__proto__" ∉ fields.map Field.value ∧
        ∀ field ∈ fields, RoundTrips (serializeCell below encode members) (field.type.codec below decode) field (result field) := by
  have each : (∀ field ∈ fields, RoundTrips (serializeCell below encode members)
        (fun w => unserializeCell below decode (field, w)) field (field.value, result field)) ↔
      ∀ field ∈ fields, RoundTrips (serializeCell below encode members) (field.type.codec below decode) field (result field) := by
    refine forall₂_congr fun field _ => ⟨?_, ?_⟩
    · rintro ⟨w, encoded, decoded⟩
      exact ⟨w, encoded, (unserializeCell_name decoded).2⟩
    · rintro ⟨w, encoded, decoded⟩
      exact ⟨w, encoded, bind_ok.mpr ⟨result field, decoded, rfl⟩⟩
  rw [← each, ← zip_roundTrips]
  constructor
  · rintro ⟨cells, coded, out, made, kept⟩
    have plain : "__proto__" ∉ fields.map Field.value := fun there => by
      obtain ⟨field, listed, named⟩ := List.mem_map.mp there
      have inOut : (field.value, result field) ∈ out.filter (·.1 ≠ "__proto__") :=
        kept ▸ List.mem_map.mpr ⟨field, listed, rfl⟩
      exact of_decide_eq_true (List.mem_filter.mp inOut).2 named
    rw [filter_plain (unserializeCells_fields (mapM_length coded) made ▸ plain)] at kept
    exact ⟨plain, cells, coded, kept ▸ made⟩
  · rintro ⟨plain, cells, coded, made⟩
    exact ⟨cells, coded, _, made, filter_plain (unserializeCells_fields (mapM_length coded) made ▸ plain)⟩

theorem serializeCell_roundTrips {field : Field} {decode' : Value → Except Error Value} {r : Value} :
    RoundTrips (serializeCell below encode members) decode' field r ↔
      (field.type.asks = true → "hasOwnProperty" ∉ members.map Prod.fst) ∧
        RoundTrips (field.type.codec below encode) decode' (part (.object members) field) r := by
  unfold RoundTrips serializeCell
  by_cases hidden : field.type.asks = true ∧ "hasOwnProperty" ∈ members.map Prod.fst
  · rw [if_pos hidden]
    constructor
    · rintro ⟨w, impossible, -⟩
      cases impossible
    · exact fun round => absurd hidden.2 (round.1 hidden.1)
  · rw [if_neg hidden]
    exact ⟨fun round => ⟨fun asks there => hidden ⟨asks, there⟩, round⟩, And.right⟩

end

/-! ### Objects -/

section
variable {SerialProto : String → Option (List Field)} {below : Value → Option Nat} {name : String} {v : Value}
  {fields : List Field} {kind : Kind} {members : List (String × Value)} {lax : Bool} {depth fuel : Nat}

theorem whole?_some (whole : whole? fields = some kind) : ∃ value, fields = [⟨value, kind⟩] ∧ kind.isWhole = true := by
  unfold whole? at whole
  split at whole
  · rename_i field
    split at whole
    · obtain rfl := Option.some.inj whole
      exact ⟨field.value, rfl, by assumption⟩
    · cases whole
  · cases whole

theorem serialize_whole (proto : SerialProto name = some fields) (whole : whole? fields = some kind) :
    serialize SerialProto below (fuel + 1) name v = kind.codec below (serialize SerialProto below fuel) v := by
  obtain ⟨value, rfl, whole⟩ := whole?_some whole
  rw [serialize, proto]
  dsimp only [List.zipIdx_cons, List.zipIdx_nil]
  rw [List.foldlM_cons]
  simp only [List.foldlM_nil, bind_pure]
  cases kind with
  | map2 type2 | vector2 type2 => cases type2 <;> rfl
  | string | map | vector | struct | other => cases whole

theorem unserialize_whole (proto : SerialProto name = some fields) (whole : whole? fields = some kind) :
    unserialize SerialProto below (fuel + 1) name v = kind.decoder below (unserialize SerialProto below fuel) v := by
  obtain ⟨value, rfl, whole⟩ := whole?_some whole
  rw [unserialize, proto]
  dsimp only [List.zipIdx_cons, List.zipIdx_nil]
  rw [List.foldlM_cons]
  simp only [List.foldlM_nil, bind_pure]
  cases kind with
  | map2 type2 | vector2 type2 => cases type2 <;> rfl
  | string | map | vector | struct | other => cases whole

theorem serialize_fields (proto : SerialProto name = some fields) (declares : Declares fields members) :
    serialize SerialProto below (fuel + 1) name (.object members) = (do
      let cells ← fields.mapM (serializeCell below (serialize SerialProto below fuel) members)
      return .array cells : Except Error Value) := by
  rw [serialize, proto]
  exact serializeField_loop fields [] declares

theorem unserialize_fields {cells : List Value} (proto : SerialProto name = some fields)
    (sizes : cells.length = fields.length) (parts : ∀ field ∈ fields, field.type.isWhole = false ∧ field.type.isOther = false)
    (distinct : (fields.map Field.value).Nodup) :
    unserialize SerialProto below (fuel + 1) name (.array cells) = (do
      let out ← (fields.zip cells).mapM (unserializeCell below (unserialize SerialProto below fuel))
      return .object (out.filter (·.1 ≠ "__proto__")) : Except Error Value) := by
  rw [unserialize, proto]
  exact unserializeField_loop fields cells [] [] sizes parts distinct fun _ _ => List.not_mem_nil

theorem Kind.Conforms.known {conforms : String → Value → Prop} (conforms' : kind.Conforms conforms v) : kind.isOther = false := by
  cases kind with
  | other => exact conforms'.elim
  | _ => rfl

theorem Kind.Conforms.absent {conforms : String → Value → Prop} (holds : kind.holdsStructs = true) :
    kind.Conforms conforms kind.absent := by
  cases kind with
  | map type2 =>
    cases type2 with
    | proto => exact ⟨[], rfl, List.nodup_nil, fun _ there => absurd there List.not_mem_nil⟩
    | string => cases holds
  | vector type2 =>
    cases type2 with
    | proto => exact ⟨[], rfl, fun _ there => absurd there List.not_mem_nil⟩
    | string => cases holds
  | _ => cases holds

/-- What `Conforms` says of an object with fields. -/
theorem conforms_fields {inner : String → Value → Prop} (parts : ∀ field ∈ fields, field.type.isWhole = false ∧
      match members.lookup field.value with
      | some x => field.type.Conforms inner x
      | none => lax = true ∧ field.type.holdsStructs = true) :
    Declares fields members ∧ ∀ field ∈ fields, field.type.Conforms inner (part (.object members) field) := by
  have one (field : Field) (there : field ∈ fields) :
      ((members.lookup field.value).isSome = true ∨ field.type.holdsStructs = true) ∧
        field.type.Conforms inner (part (.object members) field) := by
    obtain ⟨-, shape⟩ := parts field there
    cases found : members.lookup field.value with
    | some x =>
      rw [found] at shape
      have same : part (.object members) field = x := by simp [part, Value.members, found]
      exact ⟨.inl rfl, same ▸ shape⟩
    | none =>
      rw [found] at shape
      have same : part (.object members) field = field.type.absent := by simp [part, Value.members, found]
      exact ⟨.inr shape.2, same ▸ Kind.Conforms.absent shape.2⟩
  exact ⟨fun field there => ⟨(parts field there).1, (one field there).2.known, (one field there).1⟩,
    fun field there => (one field there).2⟩

/-- The encoder makes the serial form. -/
theorem serialize_wire (conforms : Conforms SerialProto lax depth name v) (faithful : Faithful SerialProto below depth name v)
    (enough : depth ≤ fuel) : serialize SerialProto below fuel name v = .ok (wire SerialProto depth name v) := by
  induction depth generalizing fuel name v with
  | zero => exact conforms.elim
  | succ depth ih =>
    obtain ⟨fuel, rfl⟩ : ∃ n, fuel = n + 1 := ⟨fuel - 1, by omega⟩
    have inner (name : String) (v : Value) (conforms : Conforms SerialProto lax depth name v)
        (faithful : Faithful SerialProto below depth name v) := ih conforms faithful (Nat.le_of_succ_le_succ enough)
    obtain ⟨fields, proto, shape⟩ := conforms
    replace faithful := faithful fields proto
    rw [wire, proto]
    dsimp only
    cases whole : whole? fields with
    | some kind =>
      rw [whole] at shape faithful
      dsimp only at shape faithful ⊢
      rw [serialize_whole proto whole]
      exact Kind.codec_wire inner shape faithful
    | none =>
      rw [whole] at shape faithful
      dsimp only at shape faithful ⊢
      obtain ⟨distinct, members, rfl, keys, parts⟩ := shape
      obtain ⟨plain, visible, faithful⟩ := faithful
      obtain ⟨declares, conforms⟩ := conforms_fields parts
      have cells : ∀ field ∈ fields, serializeCell below (serialize SerialProto below fuel) members field =
          .ok (field.type.convert (wire SerialProto depth) (part (.object members) field)) := fun field there => by
        rw [serializeCell, if_neg fun hidden => visible ⟨field, there, hidden.1⟩ hidden.2]
        exact Kind.codec_wire inner (conforms field there) (faithful field there)
      rw [serialize_fields proto declares, mapM_of_forall cells]
      rfl

/-- **Round trip.** An object that conforms comes back as what it declares exactly when it goes through
faithfully. -/
theorem round_trips (conforms : Conforms SerialProto lax depth name v) (enough : depth ≤ fuel) :
    RoundTrips (serialize SerialProto below fuel name) (unserialize SerialProto below fuel name) v
        (restrict SerialProto depth name v) ↔ Faithful SerialProto below depth name v := by
  induction depth generalizing fuel name v with
  | zero => exact conforms.elim
  | succ depth ih =>
    obtain ⟨fuel, rfl⟩ : ∃ n, fuel = n + 1 := ⟨fuel - 1, by omega⟩
    have enough := Nat.le_of_succ_le_succ enough
    have inner (name : String) (v : Value) (conforms : Conforms SerialProto lax depth name v) := ih conforms enough
    have wires (name : String) (v : Value) (conforms : Conforms SerialProto lax depth name v)
        (faithful : Faithful SerialProto below depth name v) := serialize_wire conforms faithful enough
    obtain ⟨fields, proto, shape⟩ := conforms
    have only {P : List Field → Prop} : (∀ fields', SerialProto name = some fields' → P fields') ↔ P fields := by
      refine ⟨fun all => all fields proto, fun holds fields' proto' => ?_⟩
      obtain rfl : fields = fields' := Option.some.inj (proto.symm.trans proto')
      exact holds
    rw [Faithful, only, restrict, proto]
    dsimp only
    cases whole : whole? fields with
    | some kind =>
      rw [whole] at shape
      dsimp only at shape ⊢
      unfold RoundTrips
      simp only [serialize_whole proto whole, unserialize_whole proto whole]
      exact Kind.roundTrips wires inner shape
    | none =>
      rw [whole] at shape
      dsimp only at shape ⊢
      obtain ⟨distinct, members, rfl, keys, parts⟩ := shape
      obtain ⟨declares, conforms⟩ := conforms_fields parts
      have decoder (field : Field) (there : field ∈ fields) :
          field.type.decoder below (unserialize SerialProto below fuel) =
            field.type.codec below (unserialize SerialProto below fuel) := by
        have part := (declares field there).1
        funext v
        cases type : field.type with
        | vector2 => rw [type] at part; cases part
        | _ => rfl
      have each : (∀ field ∈ fields, RoundTrips (serializeCell below (serialize SerialProto below fuel) members)
            (field.type.codec below (unserialize SerialProto below fuel)) field
            (field.type.convert (restrict SerialProto depth) (part (.object members) field))) ↔
          ((∃ field ∈ fields, field.type.asks = true) → "hasOwnProperty" ∉ members.map Prod.fst) ∧
            ∀ field ∈ fields, field.type.Faithful below (wire SerialProto depth) (Faithful SerialProto below depth)
              (part (.object members) field) := by
        have one (field : Field) (there : field ∈ fields) :=
          (decoder field there) ▸ Kind.roundTrips wires inner (conforms field there)
        constructor
        · intro all
          refine ⟨?_, fun field there => (one field there).mp (serializeCell_roundTrips.mp (all field there)).2⟩
          rintro ⟨field, there, asks⟩
          exact (serializeCell_roundTrips.mp (all field there)).1 asks
        · rintro ⟨visible, all⟩ field there
          exact serializeCell_roundTrips.mpr
            ⟨fun asks => visible ⟨field, there, asks⟩, (one field there).mpr (all field there)⟩
      refine Iff.trans ?_ ((@record_roundTrips below _ _ members fields fun field =>
        field.type.convert (restrict SerialProto depth) (part (.object members) field)).trans (and_congr_right fun _ => each))
      unfold RoundTrips
      rw [serialize_fields proto declares]
      constructor
      · rintro ⟨w, encoded, decoded⟩
        obtain ⟨cells, coded, same⟩ := bind_ok.mp encoded
        obtain rfl := Except.ok.inj same
        rw [unserialize_fields proto (mapM_length coded) (fun field there => ⟨(declares field there).1,
          (declares field there).2.1⟩) distinct] at decoded
        obtain ⟨out, made, same⟩ := bind_ok.mp decoded
        injection same with same
        injection same with same
        exact ⟨cells, coded, out, made, same⟩
      · rintro ⟨cells, coded, out, made, same⟩
        refine ⟨.array cells, bind_ok.mpr ⟨cells, coded, rfl⟩, ?_⟩
        rw [unserialize_fields proto (mapM_length coded) (fun field there => ⟨(declares field there).1,
          (declares field there).2.1⟩) distinct]
        exact bind_ok.mpr ⟨out, made, congrArg (fun out => Except.ok (Value.object out)) same⟩

end

/-! ### Paths -/

/-- A position, and a vector of them that is the whole object. -/
def pathProto : String → Option (List Field)
  | "PosInfo" => some [⟨"x", .string⟩, ⟨"y", .string⟩]
  | "vector<PosInfo>" => some [⟨"", .vector2 (.proto "PosInfo")⟩]
  | _ => none

def pos (x y : String) : Value := .object [("x", .scalar x), ("y", .scalar y)]

theorem pos_conforms (x y : String) : Conforms pathProto false 1 "PosInfo" (pos x y) := by
  refine ⟨_, rfl, by decide, _, rfl, (by decide : ["x", "y"].Nodup), fun field there => ?_⟩
  rcases List.mem_pair.mp there with rfl | rfl
  · exact ⟨rfl, trivial⟩
  · exact ⟨rfl, trivial⟩

theorem pos_faithful (below : Value → Option Nat) (x y : String) : Faithful pathProto below 1 "PosInfo" (pos x y) := by
  intro fields proto
  obtain rfl := Option.some.inj proto
  refine ⟨by decide, fun _ => (by decide : "hasOwnProperty" ∉ ["x", "y"]), fun field there => ?_⟩
  rcases List.mem_pair.mp there with rfl | rfl <;> trivial

/-- Two positions, of two fields each. -/
def twoPositions : Value := .array [pos "1" "2", pos "3" "4"]

theorem twoPositions_back :
    RoundTrips (serialize pathProto (fun _ => none) 2 "vector<PosInfo>")
      (unserialize pathProto (fun _ => none) 2 "vector<PosInfo>") twoPositions twoPositions := by
  have conforms : Conforms pathProto false 2 "vector<PosInfo>" twoPositions := by
    refine ⟨_, rfl, _, rfl, fun v there => ?_⟩
    rcases List.mem_pair.mp there with rfl | rfl <;> exact pos_conforms _ _
  have faithful : Faithful pathProto (fun _ => none) 2 "vector<PosInfo>" twoPositions := by
    intro fields proto
    obtain rfl := Option.some.inj proto
    rintro elements same
    obtain rfl : [pos "1" "2", pos "3" "4"] = elements := by injection same
    refine ⟨⟨_, rfl, rfl⟩, fun v there => ?_⟩
    rcases List.mem_pair.mp there with rfl | rfl <;> exact pos_faithful _ _ _
  exact (round_trips conforms (Nat.le_refl 2)).mpr faithful

/-- A single position is lost: the loop goes on to a second one. -/
theorem position_lost :
    Conforms pathProto false 2 "vector<PosInfo>" (.array [pos "1" "2"]) ∧
      ∀ (below : Value → Option Nat) (fuel : Nat), 2 ≤ fuel →
        ¬ RoundTrips (serialize pathProto below fuel "vector<PosInfo>") (unserialize pathProto below fuel "vector<PosInfo>")
          (.array [pos "1" "2"]) (restrict pathProto 2 "vector<PosInfo>" (.array [pos "1" "2"])) := by
  refine ⟨⟨_, rfl, _, rfl, fun v there => ?_⟩, ?_⟩
  · obtain rfl := List.mem_singleton.mp there
    exact pos_conforms "1" "2"
  · rintro below fuel enough ⟨w, encoded, decoded⟩
    obtain ⟨fuel, rfl⟩ : ∃ n, fuel = n + 2 := ⟨fuel - 2, by omega⟩
    have made : serialize pathProto below (fuel + 2) "vector<PosInfo>" (.array [pos "1" "2"]) =
        .ok (.array [.array [.scalar "1", .scalar "2"]]) := rfl
    obtain rfl := Except.ok.inj (made.symm.trans encoded)
    have failed : unserialize pathProto below (fuel + 2) "vector<PosInfo>" (.array [.array [.scalar "1", .scalar "2"]]) =
        .error .typeError := rfl
    cases failed.symm.trans decoded

end Tinygame.Serialize
