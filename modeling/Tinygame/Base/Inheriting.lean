import Tinygame.Base.Obj

/-!
# Objects that inherit

A JavaScript object with what it inherits. A name of `Object.prototype` stands for something whatever has been
stored, an assignment to `__proto__` makes no property, and a property named `hasOwnProperty` is what a call of that
name reaches.
-/

namespace Tinygame
variable {α : Type}

/-- What a name stands for. -/
inductive Found (α : Type) where
  | undefined
  | builtin
  | value (v : α)
  deriving DecidableEq

def Found.isBuiltin : Found α → Bool
  | .builtin => true
  | _ => false

/-- What values are good for where a prototype or a function is looked for. -/
structure Host (α : Type) where
  /-- what an object gives as a prototype, with its own prototypes; nothing for what is no object -/
  prototype : α → Option (String → Found α)
  /-- what a function answers to a key in place of `hasOwnProperty`; nothing for what cannot be called -/
  call : α → Option (String → Bool)

/-- The names of `Object.prototype`. -/
def objectPrototype : List String :=
  ["__proto__", "hasOwnProperty", "constructor", "toString", "toLocaleString", "valueOf", "isPrototypeOf", "propertyIsEnumerable",
    "__defineGetter__", "__defineSetter__", "__lookupGetter__", "__lookupSetter__"]

structure Inheriting (α : Type) where
  own : Obj α := ∅
  inherits : String → Found α := fun name => if name ∈ objectPrototype then .builtin else .undefined

namespace Inheriting
variable (host : Host α)

/-- `o[name]`. -/
def find (o : Inheriting α) (name : String) : Found α :=
  match o.own.get? name with
  | some v => .value v
  | none => o.inherits name

/-- `o.hasOwnProperty(key)`, nothing for a TypeError. -/
def hasOwnProperty (o : Inheriting α) (key : String) : Option Bool :=
  match o.find "hasOwnProperty" with
  | .builtin => some (o.own.has key)
  | .value f => (host.call f).map (· key)
  | .undefined => none

/-- `o[name] = v`. -/
def assign (o : Inheriting α) (name : String) (v : α) : Inheriting α :=
  if name = "__proto__" ∧ (o.find name).isBuiltin then
    match host.prototype v with
    | some inherits => { o with inherits }
    | none => o
  else { o with own := o.own.set name v }

/-- `delete o[name]`. -/
def delete (o : Inheriting α) (name : String) : Inheriting α := { o with own := o.own.delete name }

/-- Nothing of its own and nothing it inherits stands in the way of `hasOwnProperty`. -/
structure Usual (o : Inheriting α) : Prop where
  own : o.own.has "hasOwnProperty" = false
  inherits : o.inherits "hasOwnProperty" = .builtin

variable {o : Inheriting α} {name : String}

theorem usual_empty : Usual ({} : Inheriting α) := ⟨rfl, rfl⟩

theorem Usual.hasOwnProperty_eq (usual : Usual o) (key : String) : o.hasOwnProperty host key = some (o.own.has key) := by
  have found : o.find "hasOwnProperty" = .builtin := by
    unfold find
    rw [Obj.has_eq_false.mp usual.own]
    exact usual.inherits
  unfold hasOwnProperty
  rw [found]

theorem assign_plain (o : Inheriting α) (plain : name ≠ "__proto__") (v : α) :
    o.assign host name v = { o with own := o.own.set name v } := if_neg fun both => plain both.1

theorem Usual.delete (usual : Usual o) (name : String) : Usual (o.delete name) := by
  refine ⟨?_, usual.inherits⟩
  show (o.own.delete name).has "hasOwnProperty" = false
  rw [Obj.has_delete, usual.own]
  exact Bool.and_false _

theorem Usual.set (usual : Usual o) (plain : name ≠ "hasOwnProperty") (v : α) : Usual { o with own := o.own.set name v } := by
  refine ⟨?_, usual.inherits⟩
  rw [Obj.has_set, usual.own]
  simp [plain.symm]

end Inheriting
end Tinygame
