import Tinygame.Base.Obj
import Tinygame.Client.Communicator
import Tinygame.Dataprocess.Codecs
import Tinygame.Net.Parse

/-!
# A call and its answer

Both sides read the servers and their functions from tables that one generator writes, each under its name and under its
number. What the client sends of a call is taken by the server for that call, and what the server packs of the answer is taken
by the client for that answer.
-/

namespace Tinygame.Wire

open Client (Data Arg Entry Registered DataCache FuncInterface)
open Codecs (Same NoVector2)
open LuaSerialize (Key Lua ofItems)
open Serialize (Elem)

/-! ### The tables -/

/-- Some functions have no arguments. -/
structure Func where
  funcName : String
  seq : String
  inArgs : Option String
  outArgs : String

structure Server where
  serverName : String
  seq : String
  funcs : List Func

/-- The JSON of a name, which has nothing to escape. -/
def quoted (name : String) : String := "\"" ++ name ++ "\""

def text (name : String) : Serialize.Value := .scalar (quoted name)

def Func.value (f : Func) : Serialize.Value :=
  .object ([("funcName", text f.funcName), ("outArgs", text f.outArgs), ("seq", text f.seq)] ++ f.inArgs.toList.map ("inArgs", text ·))

def Server.members (s : Server) : List (String × Serialize.Value) :=
  [("serverName", text s.serverName), ("seq", text s.seq)] ++ s.funcs.flatMap fun f => [(f.funcName, f.value), (f.seq, f.value)]

/-- The members of `interface`. -/
def interface (servers : List Server) : List (String × Serialize.Value) :=
  servers.flatMap fun s => [(s.seq, .object s.members), (s.serverName, .object s.members)]

/-- The tables and the serializers of the server. -/
def serialProto (SerialProto : String → Option (List Serialize.Field)) (below : Serialize.Value → Option Nat) (fuel : Nat)
    (key : Serialize.Value → String) (servers : List Server) : Parse.SerialProto :=
  ⟨.object (interface servers), key, Serialize.serialize SerialProto below fuel, Serialize.unserialize SerialProto below fuel⟩

/-- No name or number is given twice. -/
structure Distinct (servers : List Server) : Prop where
  names : ((interface servers).map Prod.fst).Nodup
  funcs : ∀ s ∈ servers, (s.members.map Prod.fst).Nodup

/-! ### What is sent -/

/-- The `data` of a call. -/
def callData (s : Server) (f : Func) (args : Lua) (funcId : Nat) : Lua :=
  .table (ofItems [.scalar (quoted s.seq), .scalar (quoted f.seq), args, .scalar (toString funcId), .scalar "0"])

section
variable {τ : Type} {servers : List Server} {s : Server} {f : Func} {v x : Serialize.Value} {m l : Lua} {items : List Lua} {entries : List (Key × Lua)}

/-- What stands for a table of items has what stands for each of them. -/
theorem same_items (same : Same v (.table (ofItems items))) (some_ : items ≠ []) :
    ∃ elements, v = .array elements ∧ elements.length = items.length ∧ ∀ pair ∈ elements.zip items, Same pair.1 pair.2 := by
  cases v with
  | object members =>
    obtain ⟨pairs, -, -, placed, -⟩ := same.object_inv
    exact absurd (Codecs.ofItems_names placed).1 some_
  | array elements =>
    obtain ⟨pairs, rfl, placed, each⟩ := same.array_inv
    obtain rfl := Codecs.ofItems_injective placed
    refine ⟨pairs.map Prod.fst, rfl, by simp, ?_⟩
    rw [List.zip_map']
    intro pair there
    obtain ⟨pair, listed, rfl⟩ := List.mem_map.mp there
    exact each pair listed
  | undefined | null | scalar => cases same

theorem same_scalar {json : String} (same : Same v (.scalar json)) : v = .scalar json := by
  cases same with
  | scalar => rfl

/-! ### Looking up -/

theorem interface_server (distinct : Distinct servers) (there : s ∈ servers) :
    (interface servers).lookup s.seq = some (.object s.members) ∧ (interface servers).lookup s.serverName = some (.object s.members) := by
  have listed : ∀ member ∈ [(s.seq, Serialize.Value.object s.members), (s.serverName, .object s.members)], member ∈ interface servers :=
    fun member inside => List.mem_flatMap.mpr ⟨s, there, inside⟩
  exact ⟨lookup_eq_of_mem distinct.names (listed _ (by simp)), lookup_eq_of_mem distinct.names (listed _ (by simp))⟩

theorem members_func (distinct : Distinct servers) (there : s ∈ servers) (known : f ∈ s.funcs) :
    s.members.lookup f.seq = some f.value ∧ s.members.lookup f.funcName = some f.value := by
  have listed : ∀ member ∈ [(f.funcName, f.value), (f.seq, f.value)], member ∈ s.members :=
    fun member inside => List.mem_append_right _ (List.mem_flatMap.mpr ⟨f, known, inside⟩)
  exact ⟨lookup_eq_of_mem (distinct.funcs s there) (listed _ (by simp)), lookup_eq_of_mem (distinct.funcs s there) (listed _ (by simp))⟩

variable {proto : Parse.SerialProto}

theorem interface_get (distinct : Distinct servers) (table : proto.table = .object (interface servers)) (there : s ∈ servers)
    (known : f ∈ s.funcs) {serverKey funcKey : Serialize.Value} (server : proto.key serverKey = s.seq ∨ proto.key serverKey = s.serverName)
    (func : proto.key funcKey = f.seq ∨ proto.key funcKey = f.funcName) :
    proto.table.get (proto.key serverKey) = .ok (.object s.members) ∧ proto.interface serverKey funcKey = .ok f.value := by
  obtain ⟨bySeq, byName⟩ := interface_server distinct there
  obtain ⟨ofSeq, ofName⟩ := members_func distinct there known
  have found : proto.table.get (proto.key serverKey) = .ok (.object s.members) := by
    rw [table]
    rcases server with same | same <;> rw [same]
    · show Except.ok ((interface servers).lookup s.seq |>.getD .undefined) = _
      rw [bySeq]
      rfl
    · show Except.ok ((interface servers).lookup s.serverName |>.getD .undefined) = _
      rw [byName]
      rfl
  refine ⟨found, ?_⟩
  unfold Parse.SerialProto.interface
  rw [found]
  show (Serialize.Value.object s.members).get (proto.key funcKey) = _
  rcases func with same | same <;> rw [same]
  · show Except.ok (s.members.lookup f.seq |>.getD .undefined) = _
    rw [ofSeq]
    rfl
  · show Except.ok (s.members.lookup f.funcName |>.getD .undefined) = _
    rw [ofName]
    rfl

/-! ### Arguments -/

theorem array_plain (elements : List Serialize.Value) : "hasOwnProperty" ∉ (Serialize.Value.array elements).members.map Prod.fst := by
  intro there
  obtain ⟨member, listed, same⟩ := List.mem_map.mp there
  obtain ⟨⟨x, i⟩, -, rfl⟩ := List.mem_map.mp listed
  have digits := toString_digits i 'h' (by
    rw [show toString i = "hasOwnProperty" from same]
    decide)
  exact absurd digits (by decide)

/-- An array, or an object that answers for its members, is empty when it has none. -/
theorem jsonIsEmpty_eq (solid : (∃ elements, v = .array elements) ∨ ∃ members, v = .object members)
    (plain : "hasOwnProperty" ∉ v.members.map Prod.fst) : Parse.jsonIsEmpty v = .ok v.members.isEmpty := by
  have answers {key : String} {value : Serialize.Value} {rest : List (String × Serialize.Value)} (first : v.members = (key, value) :: rest) :
      v.hasOwnProperty key = .ok true := by
    have unhidden : ¬ (v.members.lookup "hasOwnProperty").isSome = true := fun found => plain (lookup_isSome.mp found)
    have there : (v.members.lookup key).isSome = true := by
      rw [first, List.lookup_cons_self]
      rfl
    rcases solid with ⟨_, rfl⟩ | ⟨_, rfl⟩
    · show (if (Serialize.Value.members _).lookup "hasOwnProperty" |>.isSome then _ else _) = _
      rw [if_neg unhidden, there]
    · show (if (Serialize.Value.members _).lookup "hasOwnProperty" |>.isSome then _ else _) = _
      rw [if_neg unhidden, there]
  unfold Parse.jsonIsEmpty
  split
  · rcases solid with ⟨_, same⟩ | ⟨_, same⟩ <;> cases same
  cases members : v.members with
  | nil => rfl
  | cons member rest =>
    obtain ⟨key, value⟩ := member
    show (do return !(← v.hasOwnProperty key)) = _
    rw [answers members]
    rfl

variable {SerialProto : String → Option (List Serialize.Field)} {below : Serialize.Value → Option Nat} {lax : Bool} {fuel depth : Nat} {name : String}

/-- What is the whole object is an object still, or a vector. -/
theorem whole_convert {kind : Serialize.Kind} {inner : String → Serialize.Value → Prop} (isWhole : kind.isWhole = true)
    (shape : kind.Conforms inner x) (convert : String → Serialize.Value → Serialize.Value) :
    (∃ members, kind.convert convert x = .object members ∧ (members = [] ↔ x = .object [])) ∨
      ∃ elements type2, kind.convert convert x = .array elements ∧ kind = .vector2 type2 := by
  cases kind with
  | map2 type2 =>
    cases type2 with
    | string =>
      obtain ⟨members, rfl⟩ := shape
      exact .inl ⟨members, rfl, by simp⟩
    | proto type2 =>
      obtain ⟨members, rfl, -⟩ := shape
      exact .inl ⟨_, rfl, by simp⟩
  | vector2 type2 =>
    cases type2 with
    | string =>
      obtain ⟨elements, rfl⟩ := shape
      exact .inr ⟨elements, _, rfl, rfl⟩
    | proto type2 =>
      obtain ⟨elements, rfl, -⟩ := shape
      exact .inr ⟨_, _, rfl, rfl⟩
  | string | map | vector | struct | other => cases isWhole

/-- The serial form of an object and what stands for it: fields at their positions and under their names, or the whole. -/
theorem wire_restrict (vectors : NoVector2 SerialProto) (conforms : Serialize.Conforms SerialProto lax depth name x) :
    (∃ elements members, Serialize.wire SerialProto depth name x = .array elements ∧
        Serialize.restrict SerialProto depth name x = .object members ∧ elements.length = members.length) ∨
      ∃ members members', Serialize.wire SerialProto depth name x = .object members ∧
        Serialize.restrict SerialProto depth name x = .object members' ∧ (members = [] → members' = []) := by
  cases depth with
  | zero => exact conforms.elim
  | succ depth =>
    obtain ⟨fields, proto, shape⟩ := conforms
    rw [Serialize.wire, Serialize.restrict, proto]
    dsimp only
    cases whole : Serialize.whole? fields with
    | none => exact .inl ⟨_, _, rfl, rfl, by simp⟩
    | some kind =>
      rw [whole] at shape
      obtain ⟨value, listed, isWhole⟩ := Serialize.whole?_some whole
      have noVector (type2 : Elem) : kind ≠ .vector2 type2 :=
        vectors name fields proto ⟨value, kind⟩ (by rw [listed]; exact List.mem_singleton_self _) type2
      rcases whole_convert isWhole shape (Serialize.wire SerialProto depth) with ⟨members, wired, empty⟩ | ⟨_, type2, -, vector⟩
      · rcases whole_convert isWhole shape (Serialize.restrict SerialProto depth) with ⟨members', restricted, empty'⟩ | ⟨_, type2, -, vector⟩
        · exact .inr ⟨members, members', wired, restricted, fun none_ => empty'.mpr (empty.mp none_)⟩
        · exact absurd vector (noVector type2)
      · exact absurd vector (noVector type2)

theorem wire_solid (vectors : NoVector2 SerialProto) (conforms : Serialize.Conforms SerialProto lax depth name x)
    (coded : Same (Serialize.wire SerialProto depth name x) m) : ∃ entries, m = .table entries := by
  rcases wire_restrict vectors conforms with ⟨_, _, wired, -⟩ | ⟨_, _, wired, -⟩
  · exact (wired ▸ coded).table_of_array
  · exact (wired ▸ coded).table_of_object

theorem restrict_solid (vectors : NoVector2 SerialProto) (conforms : Serialize.Conforms SerialProto lax depth name x)
    (stands : Same (Serialize.restrict SerialProto depth name x) l) : ∃ entries, l = .table entries := by
  rcases wire_restrict vectors conforms with ⟨_, _, -, restricted, -⟩ | ⟨_, _, -, restricted, -⟩
  · exact (restricted ▸ stands).table_of_object
  · exact (restricted ▸ stands).table_of_object

/-- An object whose serial form is empty has no parts. -/
theorem restrict_empty (vectors : NoVector2 SerialProto) (conforms : Serialize.Conforms SerialProto lax depth name x)
    (empty : (Serialize.wire SerialProto depth name x).members = []) : Serialize.restrict SerialProto depth name x = .object [] := by
  rcases wire_restrict vectors conforms with ⟨elements, members, wired, restricted, sizes⟩ | ⟨members, members', wired, restricted, short⟩
  · rw [wired] at empty
    have none_ : elements.length = 0 := by
      have lengths := congrArg List.length empty
      simpa [Serialize.Value.members] using lengths
    rw [restricted, List.length_eq_zero_iff.mp (sizes.symm.trans none_)]
  · rw [wired] at empty
    rw [restricted, short empty]

/-- Names are the same on both sides. -/
theorem same_names {v w : Serialize.Value} (same : Same v m) (same' : Same w m) {key : String} (there : key ∈ v.members.map Prod.fst)
    (object : ∃ members, v = .object members) : key ∈ w.members.map Prod.fst := by
  obtain ⟨members, rfl⟩ := object
  obtain ⟨entries, rfl⟩ := same.table_of_object
  obtain ⟨pairs, -, rfl, placed, -⟩ := same.object_inv
  obtain ⟨pair, listed, rfl⟩ := List.mem_map.mp there
  obtain ⟨other, inside, rfl⟩ : ∃ other ∈ pairs, other.1 = pair := List.mem_map.mp listed
  have entry : ((.name other.1.1, other.2) : Key × Lua) ∈ entries := placed.mem_iff.mpr (List.mem_map.mpr ⟨other, inside, rfl⟩)
  cases w with
  | object members' =>
    obtain ⟨pairs', -, rfl, placed', -⟩ := same'.object_inv
    obtain ⟨pair', listed', equal⟩ := List.mem_map.mp (placed'.mem_iff.mp entry)
    obtain ⟨name, -⟩ := Prod.mk.inj equal
    rw [← Key.name.inj name]
    exact List.mem_map_of_mem (show pair'.1 ∈ pairs'.map Prod.fst from List.mem_map_of_mem listed')
  | array elements =>
    obtain ⟨pairs', rfl, placed', -⟩ := same'.array_inv
    obtain ⟨none_, rfl⟩ := Codecs.ofItems_names (placed'.symm.trans placed)
    exact absurd inside List.not_mem_nil
  | undefined | null | scalar => cases same'

theorem same_size (same : Same v (.table entries)) : v.members.length = entries.length ∧
    ((∃ elements, v = .array elements) ∨ ∃ members, v = .object members) := by
  cases v with
  | array elements =>
    obtain ⟨pairs, rfl, placed, -⟩ := same.array_inv
    exact ⟨by simp [Serialize.Value.members, placed.length_eq, ofItems], .inl ⟨_, rfl⟩⟩
  | object members =>
    obtain ⟨pairs, -, rfl, placed, -⟩ := same.object_inv
    exact ⟨by simp [Serialize.Value.members, placed.length_eq], .inr ⟨_, rfl⟩⟩
  | undefined | null | scalar => cases same

/-- What `unpack` makes of the arguments. -/
def argsOf (unserialize : Serialize.Value → Except Serialize.Error Serialize.Value) (args : Serialize.Value) :
    Except Serialize.Error Serialize.Value := do
  if ← Parse.jsonIsEmpty args then return .object [] else unserialize args

/-- What stands for the serial form of an object becomes what stands for the object. -/
theorem argsOf_eq (vectors : NoVector2 SerialProto) (conforms : Serialize.Conforms SerialProto lax depth name x)
    (faithful : Serialize.Faithful SerialProto below depth name x) (enough : depth ≤ fuel)
    (plain : "hasOwnProperty" ∉ (Serialize.wire SerialProto depth name x).members.map Prod.fst) (same : Same v m)
    (coded : Same (Serialize.wire SerialProto depth name x) m) :
    ∃ r, argsOf (Serialize.unserialize SerialProto below fuel name) v = .ok r ∧
      ∀ l, Same (Serialize.restrict SerialProto depth name x) l → Same r l := by
  obtain ⟨entries, rfl⟩ := wire_solid vectors conforms coded
  obtain ⟨size, solid⟩ := same_size same
  have empties := jsonIsEmpty_eq solid (by
    rcases solid with ⟨elements, rfl⟩ | object
    · exact array_plain elements
    · exact fun there => plain (same_names same coded there object))
  unfold argsOf
  rw [empties]
  cases none_ : v.members with
  | nil =>
    refine ⟨.object [], rfl, fun l stands => ?_⟩
    have short : (Serialize.wire SerialProto depth name x).members = [] := by
      rw [← List.length_eq_zero_iff, (same_size coded).1, ← size, none_]
      rfl
    rwa [restrict_empty vectors conforms short] at stands
  | cons member rest =>
    obtain ⟨r, l, decoded, -, stands, stands'⟩ := Codecs.decoders_agree vectors conforms faithful enough same coded
    exact ⟨r, decoded, fun l' toOther => stands.transfer stands' toOther⟩

/-! ### There and back -/

variable {κ : Type}

/-- The server takes the message for the call. -/
theorem callData_unpacked (distinct : Distinct servers) (there : s ∈ servers) (known : f ∈ s.funcs)
    (table : proto.table = .object (interface servers)) (key : ∀ name, proto.key (text name) = name) {args : Lua} {funcId : Nat}
    (same : Same v (callData s f args funcId)) :
    ∃ w, Same w args ∧ ∀ r, argsOf (fun w => do proto.unserialize (proto.key (← f.value.get "inArgs")) w) w = .ok r →
      Parse.unpack proto (some v) = some ⟨text s.serverName, text f.funcName, r, .scalar (toString funcId)⟩ := by
  obtain ⟨elements, rfl, length, each⟩ := same_items same (by simp)
  obtain ⟨server, func, w, id, retCode, rfl⟩ : ∃ server func w id retCode, elements = [server, func, w, id, retCode] := by
    match elements, length with
    | [server, func, w, id, retCode], _ => exact ⟨server, func, w, id, retCode, rfl⟩
  obtain rfl := same_scalar (each (server, .scalar (quoted s.seq)) (by simp))
  obtain rfl := same_scalar (each (func, .scalar (quoted f.seq)) (by simp))
  obtain rfl := same_scalar (each (id, .scalar (toString funcId)) (by simp))
  refine ⟨w, each (w, args) (by simp), fun r made => ?_⟩
  obtain ⟨found, func⟩ := interface_get distinct table there known (.inl (key s.seq)) (.inl (key f.seq))
  obtain ⟨-, func'⟩ := interface_get distinct table there known (.inr (key s.serverName)) (.inr (key f.funcName))
  have unpacked : Parse.unpackMessage proto (.array [text s.seq, text f.seq, w, .scalar (toString funcId), retCode]) =
      .ok ⟨text s.serverName, text f.funcName, r, .scalar (toString funcId)⟩ := by
    have named : (Serialize.Value.object s.members).get "serverName" = .ok (text s.serverName) := rfl
    have funcNamed : f.value.get "funcName" = .ok (text f.funcName) := rfl
    have start : Parse.unpackMessage proto (.array [text s.seq, text f.seq, w, .scalar (toString funcId), retCode]) = (do
        let serverName ← (← proto.table.get (proto.key (text s.seq))).get "serverName"
        let funcName ← (← proto.interface (text s.seq) (text f.seq)).get "funcName"
        if ← Parse.jsonIsEmpty w then return ⟨serverName, funcName, .object [], .scalar (toString funcId)⟩
        let inArgs ← (← proto.interface serverName funcName).get "inArgs"
        return ⟨serverName, funcName, ← proto.unserialize (proto.key inArgs) w, .scalar (toString funcId)⟩) := rfl
    rw [start, found]
    simp only [bind, Except.bind, named, func, funcNamed, func']
    unfold argsOf at made
    cases empty : Parse.jsonIsEmpty w with
    | error e =>
      rw [empty] at made
      cases made
    | ok isEmpty =>
      rw [empty] at made
      cases isEmpty with
      | true =>
        obtain rfl := Except.ok.inj made
        rfl
      | false =>
        replace made : (do proto.unserialize (proto.key (← f.value.get "inArgs")) w) = .ok r := made
        simp only [bind, Except.bind] at made ⊢
        cases typed : f.value.get "inArgs" with
        | error e =>
          rw [typed] at made
          cases made
        | ok inArgs =>
          rw [typed] at made
          dsimp only at made ⊢
          rw [made]
          rfl
  show (Parse.unpackMessage proto (.array [text s.seq, text f.seq, w, .scalar (toString funcId), retCode])).toOption = _
  rw [unpacked]
  rfl

/-- What the server packs for the answer. -/
theorem reply_packed (distinct : Distinct servers) (there : s ∈ servers) (known : f ∈ s.funcs)
    (table : proto.table = .object (interface servers)) (key : ∀ name, proto.key (text name) = name) {coded : Serialize.Value}
    (encoded : proto.serialize f.outArgs x = .ok coded) (funcId : Nat) :
    Parse.packReply proto ⟨.scalar (toString funcId), x, Parse.SUCCESS, text f.funcName, text s.serverName⟩ =
      .ok (.array [.scalar "0", text f.seq, coded, .scalar (toString funcId), .scalar "0"]) := by
  obtain ⟨-, func⟩ := interface_get distinct table there known (.inr (key s.serverName)) (.inr (key f.funcName))
  have numbered : f.value.get "seq" = .ok (text f.seq) := rfl
  have typed : f.value.get "outArgs" = .ok (text f.outArgs) := rfl
  unfold Parse.packReply
  simp only [bind, Except.bind, func, numbered, typed, key, encoded]
  rfl

/-- The five elements of a reply, each with what it became. -/
theorem five_pairs {α β : Type} {pairs : List (α × β)} {a b c d e : α} (listed : [a, b, c, d, e] = pairs.map Prod.fst) :
    ∃ first second third fourth fifth, pairs = [(a, first), (b, second), (c, third), (d, fourth), (e, fifth)] := by
  obtain ⟨⟨_, first⟩, after1, rfl, rfl, listed1⟩ := List.map_eq_cons_iff.mp listed.symm
  obtain ⟨⟨_, second⟩, after2, rfl, rfl, listed2⟩ := List.map_eq_cons_iff.mp listed1
  obtain ⟨⟨_, third⟩, after3, rfl, rfl, listed3⟩ := List.map_eq_cons_iff.mp listed2
  obtain ⟨⟨_, fourth⟩, after4, rfl, rfl, listed4⟩ := List.map_eq_cons_iff.mp listed3
  obtain ⟨⟨_, fifth⟩, after5, rfl, rfl, listed5⟩ := List.map_eq_cons_iff.mp listed4
  obtain rfl := List.map_eq_nil_iff.mp listed5
  exact ⟨first, second, third, fourth, fifth, rfl⟩

/-- The client takes what the server packs for the answer. -/
theorem reply_received (distinct : Distinct servers) (there : s ∈ servers) (known : f ∈ s.funcs)
    (table : proto.table = .object (interface servers)) (key : ∀ name, proto.key (text name) = name)
    (serializes : proto.serialize = Serialize.serialize SerialProto below fuel) (vectors : NoVector2 SerialProto)
    (conforms : Serialize.Conforms SerialProto lax depth f.outArgs x) (faithful : Serialize.Faithful SerialProto below depth f.outArgs x)
    (enough : depth ≤ fuel) (funcId : Nat) :
    ∃ packed, Parse.pack proto ⟨.scalar (toString funcId), x, Parse.SUCCESS, text f.funcName, text s.serverName⟩ = some packed ∧
      ∀ entries, Same packed (.table entries) →
        ∃ args, entries.Perm (ofItems [.scalar "0", .scalar (quoted f.seq), args, .scalar (toString funcId), .scalar "0"]) ∧
          ∀ (cbCache : DataCache (Entry κ)) (regCbTable : String → Option (Registered κ)) (callback : κ) (time : Int) (call : Nat),
            regCbTable f.seq = none → cbCache.dt funcId = some ⟨.func callback, f.outArgs, time, call⟩ →
            ∃ l value, Same (Serialize.restrict SerialProto depth f.outArgs x) l ∧ l.put (.name "retCode") (.scalar "0") = .ok value ∧
              Client.recvCallback (LuaSerialize.unserialize SerialProto fuel) cbCache regCbTable ⟨some f.seq, args, .number funcId, some 0⟩ =
                (cbCache.erase funcId, { invoked := [(callback, value)] }) := by
  have encoded : proto.serialize f.outArgs x = .ok (Serialize.wire SerialProto depth f.outArgs x) := by
    rw [serializes]
    exact Serialize.serialize_wire conforms faithful enough
  have packed := reply_packed distinct there known table key encoded funcId
  refine ⟨_, by rw [Parse.pack, packed]; rfl, fun entries same => ?_⟩
  obtain ⟨pairs, listed, placed, each⟩ := same.array_inv
  obtain ⟨zero, seq, args, id, code, rfl⟩ := five_pairs listed
  have read {json : String} {l : Lua} (same : Same (.scalar json) l) : l = .scalar json := by
    cases same with
    | scalar => rfl
  obtain rfl := read (each (.scalar "0", zero) (by simp))
  obtain rfl := read (each (text f.seq, seq) (by simp))
  obtain rfl := read (each (.scalar (toString funcId), id) (by simp))
  obtain rfl := read (each (.scalar "0", code) (by simp))
  have coded : Same (Serialize.wire SerialProto depth f.outArgs x) args := each (_, args) (by simp)
  refine ⟨args, placed, fun cbCache regCbTable callback time call unregistered cached => ?_⟩
  obtain ⟨-, l, -, decoded, -, stands⟩ := Codecs.decoders_agree vectors conforms faithful enough coded coded
  obtain ⟨value, put⟩ : ∃ value, l.put (.name "retCode") (.scalar "0") = .ok value := by
    obtain ⟨entries, rfl⟩ := restrict_solid vectors conforms stands
    exact ⟨_, rfl⟩
  refine ⟨l, value, stands, put, ?_⟩
  unfold Client.recvCallback
  simp only [Option.bind_some, unregistered]
  show (cbCache.erase funcId, Client.answerCallback _ _ (cbCache.dt funcId)) = _
  rw [cached]
  have unpacked : Client.unpacked (LuaSerialize.unserialize SerialProto fuel) f.outArgs args 0 = .ok value := by
    unfold Client.unpacked
    rw [decoded]
    exact put
  show (cbCache.erase funcId, Client.doCallbackFunc _ args 0 (some ⟨.func callback, f.outArgs, time, call⟩)) = _
  unfold Client.doCallbackFunc
  dsimp only
  rw [unpacked]
  rfl

end

/-! ### A bag -/

/-- The name between the quotes. -/
def unquoted : Serialize.Value → String
  | .scalar json => String.ofList (json.toList.drop 1).dropLast
  | _ => ""

theorem unquoted_text (name : String) : unquoted (text name) = name := by
  show String.ofList (((("\"" ++ name) ++ "\"").toList.drop 1).dropLast) = name
  rw [String.toList_append, String.toList_append]
  simp

def getBag : Func := ⟨"getBag", "71", none, "BagItem"⟩

def setBag : Func := ⟨"setBag", "72", some "BagItem", "BagItem"⟩

def bagServer : Server := ⟨"bag", "7", [getBag, setBag]⟩

theorem bag_faithful : Serialize.Faithful Codecs.bagProto (fun _ => none) 2 "BagItem" (Codecs.bag "100001") := by
  intro fields proto
  obtain rfl := Option.some.inj proto
  refine ⟨by decide, fun _ => (by decide : "hasOwnProperty" ∉ ["itemList"]), fun field there => ?_⟩
  obtain rfl := List.mem_singleton.mp there
  refine ⟨(by decide : "hasOwnProperty" ∉ ["100001"]), (by decide : "__proto__" ∉ ["100001"]), fun member there => ?_⟩
  obtain rfl := List.mem_singleton.mp there
  intro fields proto
  obtain rfl := Option.some.inj proto
  refine ⟨by decide, fun _ => (by decide : "hasOwnProperty" ∉ ["num"]), fun field there => ?_⟩
  obtain rfl := List.mem_singleton.mp there
  trivial

end Tinygame.Wire
