import PagedList.Value
import PagedList.Number.Decimal
import PagedList.Text.Quoted

/-! Reading values as something more definite, and the errors of that. -/
namespace PagedList

inductive Found where
  | null
  | boolean (b : Bool)
  | integer (n : Int)
  | float (x : Binary64)
  | string (s : String)
  | sequence
  | map
  deriving Repr

inductive Expected where
  /-- A count of entities. -/
  | size
  /-- A count of milliseconds. -/
  | milliseconds
  | truthValue
  | string
  | sequence
  | map
  | params
  | page
  /-- A page as the list of its two fields. -/
  | pageFields
  | record
  | listSettings
  | fewerItems
  | gameId
  | game
  deriving DecidableEq, Repr

inductive DecodeError where
  | wrongType (found : Found) (expected : Expected)
  | wrongValue (found : Found) (expected : Expected)
  | missingField (name : String)
  | duplicateField (name : String)
  | wrongLength (length : Nat) (expected : Expected)
  /-- Neither an integer of 64 bits nor a text stands for an identifier. -/
  | noIdentifier
  deriving Repr

def Found.text : Found → String
  | .null => "null"
  | .boolean b => "boolean \x60" ++ (if b then "true" else "false") ++ "\x60"
  | .integer n => "integer \x60" ++ toString n ++ "\x60"
  | .float x => "floating point \x60" ++ Decimal.json.write x ++ "\x60"
  | .string s => "string " ++ Text.quoted s
  | .sequence => "sequence"
  | .map => "map"

def Expected.text : Expected → String
  | .size => "usize"
  | .milliseconds => "u64"
  | .truthValue => "a boolean"
  | .string => "a string"
  | .sequence => "a sequence"
  | .map => "a map"
  | .params => "struct PageParams"
  | .page => "struct Page"
  | .pageFields => "struct Page with 2 elements"
  | .record => "struct Record"
  | .listSettings => "struct ListConfig"
  | .fewerItems => "fewer elements in array"
  | .gameId => "i64"
  | .game => "struct Game"

def DecodeError.message : DecodeError → String
  | .wrongType found expected => "invalid type: " ++ found.text ++ ", expected " ++ expected.text
  | .wrongValue found expected => "invalid value: " ++ found.text ++ ", expected " ++ expected.text
  | .missingField name => "missing field \x60" ++ name ++ "\x60"
  | .duplicateField name => "duplicate field \x60" ++ name ++ "\x60"
  | .wrongLength n expected => "invalid length " ++ toString n ++ ", expected " ++ expected.text
  | .noIdentifier => "data did not match any variant of untagged enum EntityId"

namespace Value

def found : Value → Found
  | .null => .null
  | .bool b => .boolean b
  | .number (.integer n) => .integer n
  | .number (.float x) => .float x
  | .string s => .string s
  | .array _ => .sequence
  | .object _ => .map

/-- One more than the largest count. -/
def countBound : Int := UInt64.size

def decodeCount (expected : Expected) : Value → Except DecodeError Nat
  | .number (.integer n) =>
    if n < 0 then .error (.wrongValue (.integer n) expected)
    else if n < countBound then .ok n.toNat
    else .error (.wrongType (.integer n) expected)
  | v => .error (.wrongType v.found expected)

def decodeBool : Value → Except DecodeError Bool
  | .bool b => .ok b
  | v => .error (.wrongType v.found .truthValue)

def decodeList {α : Type} (item : Value → Except DecodeError α) :
    Value → Except DecodeError (List α)
  | .array items => items.mapM item
  | v => .error (.wrongType v.found .sequence)

end Value
end PagedList
