import PagedList.Decoding
import PagedList.Json.Writer

/-! Entities and records. An entity is anything with an identifier; a record is an entity that
keeps whatever fields came with its identifier. -/
namespace PagedList

/-- Something that a list can hold: all that counts is its identifier. -/
class Entity (ε : Type) where
  Id : Type
  [decEq : DecidableEq Id]
  [hashable : Hashable Id]
  id : ε → Id

instance {ε : Type} [Entity ε] : DecidableEq (Entity.Id ε) := Entity.decEq

instance {ε : Type} [Entity ε] : Hashable (Entity.Id ε) := Entity.hashable

inductive EntityId where
  | int (n : Int64)
  | str (s : String)
  deriving DecidableEq, Hashable, Inhabited

namespace EntityId

def text : EntityId → String
  | .int n => toString n.toInt
  | .str s => s

def toValue : EntityId → Value
  | .int n => .int n.toInt
  | .str s => .string s

def le : EntityId → EntityId → Bool
  | .int a, .int b => a ≤ b
  | .int _, .str _ => true
  | .str _, .int _ => false
  | .str a, .str b => !(decide (b < a))

def fits (n : Int) : Bool := Int64.minValue.toInt ≤ n && n ≤ Int64.maxValue.toInt

def decode : Value → Except DecodeError EntityId
  | .number (.integer n) =>
    if fits n then .ok (.int (Int64.ofInt n)) else .error (.noIdentifier)
  | .string s => .ok (.str s)
  | _ => .error (.noIdentifier)

end EntityId

structure Record where
  id : EntityId
  fields : KeyMap Value

instance : Entity Record where
  Id := EntityId
  id := Record.id

namespace Record

def new (id : EntityId) : Record := ⟨id, KeyMap.empty⟩

/-- Sets a field; a field may have any name, also that of the identifier. -/
def set (r : Record) (key : String) (value : Value) : Record :=
  { r with fields := r.fields.insert key value }

def get? (r : Record) (key : String) : Option Value := r.fields.get? key

def same (a b : Record) : Bool :=
  a.id == b.id && Value.sameFields a.fields.entries b.fields.entries

instance : BEq Record := ⟨same⟩

/-- The identifier and then the fields, as they are written. -/
def members (r : Record) : List (String × Value) := ("id", r.id.toValue) :: r.fields.entries

/-- The text of a record keeps every member. -/
def document (r : Record) : Value := .object r.members

/-- The value of a record, in which a field named like the identifier wins over it. -/
def toValue (r : Record) : Value := Value.ofFields r.members

def decode : Value → Except DecodeError Record
  | .object fields =>
    match KeyMap.lookup "id" fields with
    | none => .error (.missingField "id")
    | some v => do
      let id ← EntityId.decode v
      .ok ⟨id, (KeyMap.ofList fields).erase "id"⟩
  | v => .error (.wrongType v.found .record)

end Record
end PagedList
