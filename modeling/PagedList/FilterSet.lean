import PagedList.Decoding
import PagedList.Text.Lowercase

/-! Filters by field. A record passes if it has every filtered field with a fitting value. -/
namespace PagedList

structure FilterSet where
  entries : KeyMap Value

namespace FilterSet

def empty : FilterSet := ⟨KeyMap.empty⟩

instance : EmptyCollection FilterSet := ⟨empty⟩
instance : Inhabited FilterSet := ⟨empty⟩

/-- Sets a filter; a blank value removes it. -/
def set (f : FilterSet) (key : String) (value : Value) : FilterSet :=
  if value.isBlank then ⟨f.entries.erase key⟩ else ⟨f.entries.insert key value⟩

/-- Sets a filter whatever its value. -/
def insert (f : FilterSet) (key : String) (value : Value) : FilterSet :=
  ⟨f.entries.insert key value⟩

def erase (f : FilterSet) (key : String) : FilterSet := ⟨f.entries.erase key⟩

def get? (f : FilterSet) (key : String) : Option Value := f.entries.get? key

def ofList (pairs : List (String × Value)) : FilterSet :=
  pairs.foldl (fun f p => f.set p.1 p.2) empty

def isActive (f : FilterSet) : Bool := !f.entries.isEmpty

/-- Texts fit by containing what was asked for in any case, lists by having it as an item, and
everything else by being equal to it. -/
def fits : Value → Value → Bool
  | .string actual, .string expected =>
    Text.occursIn (Text.lower expected.toList) (Text.lower actual.toList)
  | .array items, expected => items.any (·.same expected)
  | actual, expected => actual.same expected

def admits (f : FilterSet) (fields : KeyMap Value) : Bool :=
  f.entries.entries.all fun (key, expected) =>
    match fields.get? key with
    | some actual => fits actual expected
    | none => false

def same (f g : FilterSet) : Bool := Value.sameFields f.entries.entries g.entries.entries

instance : BEq FilterSet := ⟨same⟩

def toValue (f : FilterSet) : Value := .ofMap f.entries

/-- Any object is read as it is, blank values included. -/
def decode : Value → Except DecodeError FilterSet
  | .object fields => .ok ⟨KeyMap.ofList fields⟩
  | v => .error (.wrongType v.found .map)

end FilterSet
end PagedList
