import PagedList.Json5.Tree
import PagedList.Number.DecimalReader
import PagedList.Value

/-! What JSON5 text stands for. Numbers and escapes are worked out from left to right, and the
first that has no value is an error. Objects keep all their members, in order. -/
namespace PagedList
namespace Json5

open Text (isDigit isHexDigit decimalValue)

inductive Error where
  /-- The text breaks the grammar. -/
  | grammar (text : List Char) (attempts : Attempts)
  /-- An integer without 64 bits, or a sign before something that is no decimal number. -/
  | integer
  /-- Hexadecimal digits of more than 32 bits, or something else where such digits were needed. -/
  | hex
  | number
  /-- A number beyond the largest float. -/
  | tooLarge
  | missingTrailSurrogate
  | expectedTrailSurrogate
  | unexpectedTrailSurrogate

def hexNumberValue (ds : List Char) : Except Error Nat :=
  if ds.isEmpty || !ds.all isHexDigit then .error .hex
  else
    let n := Text.baseValue 16 ds
    if n < UInt32.size then .ok n else .error .hex

def escapedCharacter (c : Char) : Char :=
  if c = 'b' then '\x08'
  else if c = 'f' then '\x0c'
  else if c = 'n' then '\n'
  else if c = 'r' then '\r'
  else if c = 't' then '\t'
  else if c = 'v' then '\x0b'
  else c

def Piece.spelling : Piece → List Char
  | .literal c | .escaped c => [c]
  | .nul => ['0']
  | .hex ds | .unicode ds => ds

/-- A string from its elements. A high surrogate needs a low one in the next element, whatever
kind of element that is. -/
def stringValue : List Piece → Except Error (List Char)
  | [] => .ok []
  | .literal c :: rest => do .ok (c :: (← stringValue rest))
  | .escaped c :: rest => do .ok (escapedCharacter c :: (← stringValue rest))
  | .nul :: rest => do .ok ('\x00' :: (← stringValue rest))
  | .hex ds :: rest => do
    let n ← hexNumberValue ds
    .ok (Char.ofNat n :: (← stringValue rest))
  | .unicode ds :: rest => do
    let n ← hexNumberValue ds
    if 0xDC00 ≤ n ∧ n ≤ 0xDFFF then .error .unexpectedTrailSurrogate
    else if 0xD800 ≤ n ∧ n ≤ 0xDBFF then
      match rest with
      | [] => .error .missingTrailSurrogate
      | next :: rest => do
        let low ← hexNumberValue next.spelling
        if 0xDC00 ≤ low ∧ low ≤ 0xDFFF then
          .ok (Char.ofNat (0x10000 + (n - 0xD800) * 0x400 + (low - 0xDC00)) ::
            (← stringValue rest))
        else .error .expectedTrailSurrogate
    else .ok (Char.ofNat n :: (← stringValue rest))

def isHexLiteral : List Char → Bool
  | '0' :: x :: _ :: _ => x == 'x' || x == 'X'
  | _ => false

def integerValue (text : List Char) : Except Error Int :=
  let (negative, ds) := Decimal.splitSign text
  if ds.isEmpty || !ds.all isDigit then .error .integer
  else
    let n : Int := decimalValue ds
    let n := if negative then -n else n
    if Int64.minValue.toInt ≤ n ∧ n ≤ Int64.maxValue.toInt then .ok n else .error .integer

def floatValue (text : List Char) : Except Error Binary64 :=
  match Decimal.read? text with
  | none => .error .number
  | some x => if x.isFinite then .ok x else .error .tooLarge

/-- An integer if it has neither point nor exponent, else a float. -/
def numberValue (text : List Char) : Except Error Number :=
  let s := String.ofList text
  if s = "Infinity" then .ok (.float (.infinity false))
  else if s = "-Infinity" then .ok (.float (.infinity true))
  else if s = "NaN" ∨ s = "-NaN" then .ok (.float .nan)
  else if isHexLiteral text then do .ok (.integer (← hexNumberValue (text.drop 2)))
  else if text.any fun c => c == '.' || c == 'e' || c == 'E' then do
    .ok (.float (← floatValue text))
  else do .ok (.integer (← integerValue text))

mutual
def Tree.toValue : Tree → Except Error Value
  | .null => .ok .null
  | .bool b => .ok (.bool b)
  | .number text => do .ok (.number (← numberValue text))
  | .string pieces => do .ok (.string (String.ofList (← stringValue pieces)))
  | .array items => do .ok (.array (← itemValues items))
  | .object members => do .ok (.object (← memberValues members))

def itemValues : List Tree → Except Error (List Value)
  | [] => .ok []
  | t :: rest => do
    let v ← t.toValue
    .ok (v :: (← itemValues rest))

def memberValues : List (List Piece × Tree) → Except Error (List (String × Value))
  | [] => .ok []
  | (k, t) :: rest => do
    let key := String.ofList (← stringValue k)
    let v ← t.toValue
    .ok ((key, v) :: (← memberValues rest))
end

/-- The value of a text, objects with every member that they were given. -/
def parse (text : String) : Except Error Value :=
  match Tree.parse text.toList with
  | .ok tree => tree.toValue
  | .error attempts => .error (.grammar text.toList attempts)

end Json5
end PagedList
