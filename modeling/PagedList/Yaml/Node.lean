import PagedList.Number.DecimalReader
import PagedList.Number.Integer
import PagedList.Value

/-! Nodes of YAML text, what scalars stand for, and the values of nodes. -/
namespace PagedList
namespace Yaml

inductive Scalar where
  | null
  | bool (b : Bool)
  | integer (n : Int)
  /-- A float, which keeps its text. -/
  | real (text : String)
  | string (s : String)
  /-- Text that does not fit the kind given to it, or a name for something unfinished. -/
  | misfit
  deriving DecidableEq, Repr

inductive Node where
  | scalar (s : Scalar)
  | sequence (items : List Node)
  | mapping (pairs : List (Node × Node))
  deriving Inhabited

def Node.null : Node := .scalar .null

def Node.misfit : Node := .scalar .misfit

def Node.isMisfit : Node → Bool
  | .scalar .misfit => true
  | _ => false

mutual
def Node.same : Node → Node → Bool
  | .scalar a, .scalar b => a == b
  | .sequence a, .sequence b => sameItems a b
  | .mapping a, .mapping b => samePairs a b
  | _, _ => false

def sameItems : List Node → List Node → Bool
  | [], [] => true
  | a :: as, b :: bs => a.same b && sameItems as bs
  | _, _ => false

def samePairs : List (Node × Node) → List (Node × Node) → Bool
  | [], [] => true
  | (j, a) :: as, (k, b) :: bs => j.same k && a.same b && samePairs as bs
  | _, _ => false
end

/-- The pairs of keys and values in turn, or nothing if a key occurs twice. A misfit is no key,
so that what follows it is the key, and a key with no value behind it is dropped. -/
def pairUp? (pairs : List (Node × Node)) : Option Node → List Node → Option (List (Node × Node))
  | _, [] => some pairs
  | none, n :: rest => pairUp? pairs (if n.isMisfit then none else some n) rest
  | some k, n :: rest =>
    if pairs.any fun p => p.1.same k then none else pairUp? (pairs ++ [(k, n)]) none rest

def Node.mapping? (nodes : List Node) : Option Node := (pairUp? [] none nodes).map .mapping

/-! Scalars -/

/-- An integer of 64 bits in a base that is a power of two, perhaps with a sign. -/
def ofBase? (base : Nat) (isDigit : Char → Bool) (text : List Char) : Option Int :=
  let (negative, digits) := Decimal.splitSign text
  if digits.isEmpty || !digits.all isDigit then none
  else
    let n : Int := Text.baseValue base digits
    let n := if negative then -n else n
    if Int64.minValue.toInt ≤ n ∧ n ≤ Int64.maxValue.toInt then some n else none

def isOctalDigit (c : Char) : Bool := '0' ≤ c && c ≤ '7'

def decimal? (text : List Char) : Option Int := (Integer.readSigned 63 text).toOption

/-- An integer in one of its notations. A sign may follow the mark of a notation, a plus sign
among them. -/
def integer? (text : List Char) : Option Int :=
  match text with
  | '0' :: 'x' :: rest => ofBase? 16 Text.isHexDigit rest
  | '0' :: 'o' :: rest => ofBase? 8 isOctalDigit rest
  | '+' :: rest => decimal? rest
  | _ => none

def specialReals : List String :=
  [".inf", ".Inf", ".INF", "+.inf", "+.Inf", "+.INF", "-.inf", "-.Inf", "-.INF",
    ".nan", ".NaN", ".NAN"]

def isReal (text : String) : Bool :=
  specialReals.contains text || (Decimal.read? text.toList).isSome

def words : List (String × Scalar) :=
  [("", .null), ("~", .null), ("null", .null), ("NULL", .null),
    ("true", .bool true), ("True", .bool true), ("TRUE", .bool true),
    ("false", .bool false), ("False", .bool false), ("FALSE", .bool false)]

def Scalar.ofPlain (text : String) : Scalar :=
  match integer? text.toList, words.lookup text, decimal? text.toList with
  | some n, _, _ => .integer n
  | none, some s, _ => s
  | none, none, some n => .integer n
  | none, none, none => if isReal text then .real text else .string text

def commonTags : String := "tag:yaml.org,2002:"

def Scalar.ofKind (kind text : String) : Scalar :=
  match kind with
  | "bool" =>
    if text = "true" then .bool true else if text = "false" then .bool false else .misfit
  | "int" => match decimal? text.toList with
    | some n => .integer n
    | none => .misfit
  | "float" => if isReal text then .real text else .misfit
  | "null" => if text = "~" ∨ text = "null" then .null else .misfit
  | _ => .string text

/-- A scalar with a tag, which counts only for unquoted ones. -/
def Scalar.ofText (isPlain : Bool) (tag : Option (String × String)) (text : String) : Scalar :=
  match isPlain, tag with
  | false, _ => .string text
  | true, none => .ofPlain text
  | true, some (handle, suffix) => if handle = commonTags then .ofKind suffix text else .string text

/-! Values -/

def Scalar.toValue? : Scalar → Option Value
  | .null | .misfit => some .null
  | .bool b => some (.bool b)
  | .integer n => some (.int n)
  | .real text => (Decimal.read? text.toList).map fun x => .number (.float x)
  | .string s => some (.string s)

def Scalar.key? : Scalar → Option String
  | .null | .misfit => none
  | .bool b => some (if b then "true" else "false")
  | .integer n => some (toString n)
  | .real text => some text
  | .string s => some s

def Node.key? : Node → Option String
  | .scalar s => s.key?
  | _ => none

mutual
/-- The value of a node. There is none for the spellings of infinity, nor for null or a collection
as a key. -/
def Node.toValue? : Node → Option Value
  | .scalar s => s.toValue?
  | .sequence items => (itemValues? items).map .array
  | .mapping pairs => (pairValues? pairs).map .ofFields

def itemValues? : List Node → Option (List Value)
  | [] => some []
  | n :: rest => do
    let v ← n.toValue?
    some (v :: (← itemValues? rest))

def pairValues? : List (Node × Node) → Option (List (String × Value))
  | [] => some []
  | (k, n) :: rest => do
    let key ← k.key?
    let v ← n.toValue?
    some ((key, v) :: (← pairValues? rest))
end

end Yaml
end PagedList
