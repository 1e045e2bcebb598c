import Mathlib.Data.List.Basic

/-!
# The serializer

`serialize` and `unserialize` of `serialize.js`. `SerialProto` says of a name which fields its objects
have, and the serial form of an object has the fields at their positions.
-/

namespace Tinygame.Serialize

/-- A scalar is a number, a string or a truth value. The members of an object are its own, as
`for .. in` visits them. -/
inductive Value where
  | undefined
  | null
  | scalar (json : String)
  | array (elements : List Value)
  | object (members : List (String × Value))

inductive Error where
  | thrown (message : String)
  | typeError
  | endless
  | depth

/-- `type2`, with a name where it is not `"string"`. -/
inductive Elem where
  | string
  | proto (name : String)

/-- `type`; a map or a vector with `type1` `"map2"` or `"vector2"` is the whole object. -/
inductive Kind where
  | string
  | map (type2 : Elem)
  | map2 (type2 : Elem)
  | vector (type2 : Elem)
  | vector2 (type2 : Elem)
  | struct (type1 : String)
  | other (type : String)

structure Field where
  value : String
  type : Kind

/-! ### Objects -/

namespace Value

def members : Value → List (String × Value)
  | .object members => members
  | .array elements => elements.zipIdx.map fun (x, i) => (toString i, x)
  | _ => []

/-- `v[key]`. -/
def get (v : Value) (key : String) : Except Error Value :=
  match v with
  | .undefined | .null => .error .typeError
  | _ => .ok ((v.members.lookup key).getD .undefined)

/-- `v[i]`. -/
def index (v : Value) (i : Nat) : Except Error Value :=
  match v with
  | .array elements => .ok (elements[i]?.getD .undefined)
  | _ => v.get (toString i)

/-- A member named `hasOwnProperty` hides the function every object has. -/
def hasOwnProperty (v : Value) (key : String) : Except Error Bool :=
  match v with
  | .undefined | .null => .error .typeError
  | _ => if (v.members.lookup "hasOwnProperty").isSome then .error .typeError else .ok (v.members.lookup key).isSome

/-- `v[key] = x`. Writing to `__proto__` makes no member, and the named members of an array are not
kept here. -/
def put (v : Value) (key : String) (x : Value) : Except Error Value :=
  match v with
  | .undefined | .null => .error .typeError
  | .object members =>
    if key = "__proto__" then .ok v
    else if (members.lookup key).isSome then
      .ok (.object (members.map fun member => if member.1 = key then (key, x) else member))
    else .ok (.object (members ++ [(key, x)]))
  | _ => .ok v

/-- `v[i] = x`. -/
def store (v : Value) (i : Nat) (x : Value) : Except Error Value :=
  match v with
  | .array elements =>
    .ok (.array (elements.take i ++ List.replicate (i - elements.length) .undefined ++ x :: elements.drop (i + 1)))
  | _ => v.put (toString i) x

def push (v : Value) (x : Value) : Except Error Value :=
  match v with
  | .array elements => .ok (.array (elements ++ [x]))
  | _ => .error .typeError

end Value

section
-- `below` is how many numbers from zero up are `<` a value, `none` when all are
variable (SerialProto : String → Option (List Field)) (below : Value → Option Nat)

/-- How far a loop runs up to `v.length`. -/
def length (v : Value) : Except Error (Option Nat) :=
  match v with
  | .undefined | .null => .error .typeError
  | .array elements => .ok (some elements.length)
  | .object members => .ok (match members.lookup "length" with
    | none | some .undefined => some 0
    | some value => below value)
  | .scalar _ => .ok (some 0)

def convertKey (convert : Value → Except Error Value) (v out : Value) (member : String × Value) :
    Except Error Value := do
  if ← v.hasOwnProperty member.1 then out.put member.1 (← convert member.2) else return out

/-- The loop over a map. -/
def convertMap (convert : Value → Except Error Value) (v : Value) : Except Error Value :=
  v.members.foldlM (convertKey convert v) (.object [])

/-- The loop over a vector. -/
def convertVector (convert : Value → Except Error Value) (length : Option Nat) (v : Value) : Except Error Value :=
  match length with
  | none => .error .endless
  | some n => do
    let elements ← (List.range n).mapM fun k => do convert (← v.index k)
    return .array elements

def checkKey (object : Value) (key name : String) : Except Error Unit :=
  match object with
  | .undefined => .error (.thrown (key ++ " is not in object " ++ name))
  | _ => do
    if ← object.hasOwnProperty key then return ()
    else .error (.thrown (key ++ " is not in object " ++ name))

/-- The branches of `serialize`, for the field at `i`. -/
def serializeField (serialize : String → Value → Except Error Value) (name : String) (object serialObject : Value)
    (i : Nat) (field : Field) : Except Error Value :=
  match field.type with
  | .string => do
    checkKey object field.value name
    serialObject.push (← object.get field.value)
  | .map .string => do serialObject.store i (← object.get field.value)
  | .map (.proto type2) => do
    let map ← if ← object.hasOwnProperty field.value then do convertMap (serialize type2) (← object.get field.value)
      else pure (.object [])
    serialObject.store i map
  | .map2 .string => pure object
  | .map2 (.proto type2) => convertMap (serialize type2) object
  | .vector .string => do serialObject.store i (← object.get field.value)
  | .vector (.proto type2) => do
    let vector ← if ← object.hasOwnProperty field.value then do
        let vector ← object.get field.value
        convertVector (serialize type2) (← length below vector) vector
      else pure (.array [])
    serialObject.store i vector
  | .vector2 .string => pure object
  | .vector2 (.proto type2) => do convertVector (serialize type2) (← length below object) object
  | .struct type1 => do serialObject.store i (← serialize type1 (← object.get field.value))
  | .other _ => .error (.thrown (name ++ " is null in serialize proto"))

/-- The branches of `unserialize`. -/
def unserializeField (unserialize : String → Value → Except Error Value) (name : String) (object unserialObject : Value)
    (i : Nat) (field : Field) : Except Error Value :=
  match field.type with
  | .string | .map .string | .vector .string => do unserialObject.put field.value (← object.index i)
  | .map (.proto type2) => do unserialObject.put field.value (← convertMap (unserialize type2) (← object.index i))
  | .map2 .string | .vector2 .string => pure object
  | .map2 (.proto type2) => convertMap (unserialize type2) object
  | .vector (.proto type2) => do
    let vector ← object.index i
    unserialObject.put field.value (← convertVector (unserialize type2) (← length below vector) vector)
  | .vector2 (.proto type2) => do
    -- the loop runs up to the length of the element at `i`, not up to that of the vector
    convertVector (unserialize type2) (← length below (← object.index i)) object
  | .struct type1 => do unserialObject.put field.value (← unserialize type1 (← object.index i))
  | .other _ => .error (.thrown (name ++ " is null in unserialize proto"))

/-- `depth` bounds the nesting. -/
def serialize (depth : Nat) (name : String) (object : Value) : Except Error Value :=
  match depth with
  | 0 => .error .depth
  | depth + 1 =>
    match SerialProto name with
    | none => .error (.thrown (name ++ " is undefined in serialize proto"))
    | some data => data.zipIdx.foldlM
      (fun serialObject (field, i) => serializeField below (serialize depth) name object serialObject i field) (.array [])

def unserialize (depth : Nat) (name : String) (object : Value) : Except Error Value :=
  match depth with
  | 0 => .error .depth
  | depth + 1 =>
    match SerialProto name with
    | none => .error (.thrown (name ++ " is undefined in unserialize proto"))
    | some data => data.zipIdx.foldlM
      (fun unserialObject (field, i) => unserializeField below (unserialize depth) name object unserialObject i field)
      (.object [])

end

/-! ### Schemas and their objects -/

namespace Kind

def isWhole : Kind → Bool
  | .map2 _ | .vector2 _ => true
  | _ => false

def isOther : Kind → Bool
  | .other _ => true
  | _ => false

def holdsStructs : Kind → Bool
  | .map (.proto _) | .vector (.proto _) => true
  | _ => false

/-- What stands for a field that is not there. -/
def absent : Kind → Value
  | .map (.proto _) => .object []
  | .vector (.proto _) => .array []
  | _ => .undefined

/-- The branches that ask the object for the field. -/
def asks : Kind → Bool
  | .string | .map (.proto _) | .vector (.proto _) => true
  | _ => false

/-- A value of this kind; `inner` says it of the structs in it. -/
def Conforms (inner : String → Value → Prop) : Kind → Value → Prop
  | .string, _ => True
  | .map .string, v | .map2 .string, v => ∃ members, v = .object members
  | .map (.proto type2), v | .map2 (.proto type2), v =>
    ∃ members, v = .object members ∧ (members.map Prod.fst).Nodup ∧ ∀ member ∈ members, inner type2 member.2
  | .vector .string, v | .vector2 .string, v => ∃ elements, v = .array elements
  | .vector (.proto type2), v | .vector2 (.proto type2), v =>
    ∃ elements, v = .array elements ∧ ∀ x ∈ elements, inner type2 x
  | .struct type1, v => inner type1 v
  | .other _, _ => False

/-- A value with the structs in it converted. -/
def convert (inner : String → Value → Value) : Kind → Value → Value
  | .map (.proto type2), .object members | .map2 (.proto type2), .object members =>
    .object (members.map fun member => (member.1, inner type2 member.2))
  | .vector (.proto type2), .array elements | .vector2 (.proto type2), .array elements =>
    .array (elements.map (inner type2))
  | .struct type1, v => inner type1 v
  | _, v => v

end Kind

/-- The one entry that stands for the whole object. -/
def whole? : List Field → Option Kind
  | [field] => if field.type.isWhole then some field.type else none
  | _ => none

section
variable (SerialProto : String → Option (List Field)) (lax : Bool) (below : Value → Option Nat)

/-- `v` has the fields `name` declares, nested to this depth. When `lax`, it may lack maps and vectors of
structs. -/
def Conforms : Nat → String → Value → Prop
  | 0, _, _ => False
  | depth + 1, name, v => ∃ fields, SerialProto name = some fields ∧ match whole? fields with
    | some kind => kind.Conforms (Conforms depth) v
    | none => (fields.map Field.value).Nodup ∧ ∃ members, v = .object members ∧ (members.map Prod.fst).Nodup ∧
      ∀ field ∈ fields, field.type.isWhole = false ∧ match members.lookup field.value with
        | some x => field.type.Conforms (Conforms depth) x
        | none => lax = true ∧ field.type.holdsStructs = true

/-- The part of a value a field is about. -/
def part (v : Value) (field : Field) : Value := (v.members.lookup field.value).getD field.type.absent

/-- `v` restricted to the declared fields. -/
def restrict : Nat → String → Value → Value
  | 0, _, v => v
  | depth + 1, name, v => match SerialProto name with
    | none => v
    | some fields => match whole? fields with
      | some kind => kind.convert (restrict depth) v
      | none => .object (fields.map fun field => (field.value, field.type.convert (restrict depth) (part v field)))

/-- The serial form of `v`. -/
def wire : Nat → String → Value → Value
  | 0, _, v => v
  | depth + 1, name, v => match SerialProto name with
    | none => v
    | some fields => match whole? fields with
      | some kind => kind.convert (wire depth) v
      | none => .array (fields.map fun field => field.type.convert (wire depth) (part v field))

/-- No name on the way is one that every object has from elsewhere, and the loop over a vector that is
the whole object ends with the vector. -/
def Kind.Faithful (wire : String → Value → Value) (inner : String → Value → Prop) : Kind → Value → Prop
  | .map (.proto type2), v | .map2 (.proto type2), v =>
    "hasOwnProperty" ∉ v.members.map Prod.fst ∧ "__proto__" ∉ v.members.map Prod.fst ∧
      ∀ member ∈ v.members, inner type2 member.2
  | .vector (.proto type2), v => ∀ elements, v = .array elements → ∀ x ∈ elements, inner type2 x
  | .vector2 (.proto type2), v => ∀ elements, v = .array elements →
    (∃ first, elements.head? = some first ∧ length below (wire type2 first) = .ok (some elements.length)) ∧
      ∀ x ∈ elements, inner type2 x
  | .struct type1, v => inner type1 v
  | _, _ => True

def Faithful : Nat → String → Value → Prop
  | 0, _, _ => False
  | depth + 1, name, v => ∀ fields, SerialProto name = some fields → match whole? fields with
    | some kind => kind.Faithful below (wire SerialProto depth) (Faithful depth) v
    | none => "__proto__" ∉ fields.map Field.value ∧
      ((∃ field ∈ fields, field.type.asks = true) → "hasOwnProperty" ∉ v.members.map Prod.fst) ∧
      ∀ field ∈ fields, field.type.Faithful below (wire SerialProto depth) (Faithful depth) (part v field)

end
end Tinygame.Serialize
