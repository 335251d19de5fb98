import PagedList.KeyMap
import PagedList.Number.Binary64

/-! Schemaless values: what a field of a record or a filter may hold. -/
namespace PagedList

/-- A number is an integer or a float, and the two kinds are never equal. -/
inductive Number where
  | integer (n : Int)
  | float (x : Binary64)
  deriving DecidableEq, Repr, Inhabited

namespace Number

def maxInteger : Int := UInt64.size - 1

def minInteger : Int := Int64.minValue.toInt

/-- Numeric equality within a kind. -/
def same : Number → Number → Bool
  | .integer a, .integer b => a == b
  | .float x, .float y => x.same y
  | _, _ => false

def isZero : Number → Bool
  | .integer n => n == 0
  | .float x => x.isZero

end Number

/-- The fields of an object stand in increasing key order, each key once; `Value.ofFields`
brings any list of fields into that form. -/
inductive Value where
  | null
  | bool (b : Bool)
  | number (n : Number)
  | string (s : String)
  | array (items : List Value)
  | object (fields : List (String × Value))
  deriving Inhabited, Repr

namespace Value

/-- The object with these fields; a repeated key keeps its last value. -/
def ofFields (fields : List (String × Value)) : Value := .object (KeyMap.ofList fields).entries

def ofMap (m : KeyMap Value) : Value := .object m.entries

def int (n : Int) : Value := .number (.integer n)

def nat (n : Nat) : Value := .number (.integer n)

mutual
/-- Equality of values, with numbers compared within their kind. -/
def same : Value → Value → Bool
  | .null, .null => true
  | .bool a, .bool b => a == b
  | .number a, .number b => a.same b
  | .string a, .string b => a == b
  | .array a, .array b => sameItems a b
  | .object a, .object b => sameFields a b
  | _, _ => false

def sameItems : List Value → List Value → Bool
  | [], [] => true
  | a :: as, b :: bs => same a b && sameItems as bs
  | _, _ => false

def sameFields : List (String × Value) → List (String × Value) → Bool
  | [], [] => true
  | (k, a) :: as, (k', b) :: bs => k == k' && same a b && sameFields as bs
  | _, _ => false
end

instance : BEq Value := ⟨same⟩

/-- Values that mean "nothing asked for": null, false, the empty text and every zero. -/
def isBlank : Value → Bool
  | .null => true
  | .bool b => !b
  | .string s => s.isEmpty
  | .number n => n.isZero
  | .array _ | .object _ => false

end Value
end PagedList
