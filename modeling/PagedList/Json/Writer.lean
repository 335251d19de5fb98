import PagedList.Value
import PagedList.Number.Decimal

/-! JSON text of values: compact, or with one member a line. -/
namespace PagedList
namespace Json

def hexDigit (n : Nat) : Char := Nat.digitChar n

/-- Quotes, backslashes and control characters are escaped, everything else stands for itself. -/
def escape (c : Char) : List Char :=
  if c = '"' then ['\\', '"']
  else if c = '\\' then ['\\', '\\']
  else if c = '\x08' then ['\\', 'b']
  else if c = '\x0c' then ['\\', 'f']
  else if c = '\n' then ['\\', 'n']
  else if c = '\r' then ['\\', 'r']
  else if c = '\t' then ['\\', 't']
  else if c.toNat < 32 then
    ['\\', 'u', '0', '0', hexDigit (c.toNat / 16), hexDigit (c.toNat % 16)]
  else [c]

def writeString (s : String) : List Char :=
  '"' :: (s.toList.flatMap escape ++ ['"'])

def writeInteger (n : Int) : List Char :=
  if n < 0 then '-' :: Nat.toDigits 10 n.natAbs else Nat.toDigits 10 n.natAbs

/-- Floats that are not finite have no text of their own. -/
def writeNumber : Number → List Char
  | .integer n => writeInteger n
  | .float x => if x.isFinite then (Decimal.json.write x).toList else "null".toList

mutual
/-- The text of a value without any blank. -/
def write : Value → List Char
  | .null => "null".toList
  | .bool b => if b then "true".toList else "false".toList
  | .number n => writeNumber n
  | .string s => writeString s
  | .array items => '[' :: (writeItems items ++ [']'])
  | .object fields => '\x7b' :: (writeFields fields ++ ['\x7d'])

def writeItems : List Value → List Char
  | [] => []
  | [v] => write v
  | v :: w :: rest => write v ++ ',' :: writeItems (w :: rest)

def writeFields : List (String × Value) → List Char
  | [] => []
  | [(k, v)] => writeString k ++ ':' :: write v
  | (k, v) :: e :: rest => writeString k ++ ':' :: (write v ++ ',' :: writeFields (e :: rest))
end

def newLine (level : Nat) : List Char := '\n' :: List.replicate (2 * level) ' '

mutual
/-- The text of a value with every item and member on a line of its own. -/
def writeIndented (level : Nat) : Value → List Char
  | .array [] => ['[', ']']
  | .array (v :: rest) =>
    '[' :: (newLine (level + 1) ++ writeIndented (level + 1) v ++
      writeIndentedItems (level + 1) rest ++ newLine level ++ [']'])
  | .object [] => ['\x7b', '\x7d']
  | .object ((k, v) :: rest) =>
    '\x7b' :: (newLine (level + 1) ++ writeString k ++ ':' :: ' ' ::
      (writeIndented (level + 1) v ++ writeIndentedFields (level + 1) rest ++
        newLine level ++ ['\x7d']))
  | .null => write .null
  | .bool b => write (.bool b)
  | .number n => writeNumber n
  | .string s => writeString s

def writeIndentedItems (level : Nat) : List Value → List Char
  | [] => []
  | v :: rest => ',' :: (newLine level ++ writeIndented level v ++ writeIndentedItems level rest)

def writeIndentedFields (level : Nat) : List (String × Value) → List Char
  | [] => []
  | (k, v) :: rest =>
    ',' :: (newLine level ++ writeString k ++ ':' :: ' ' ::
      (writeIndented level v ++ writeIndentedFields level rest))
end

def compact (v : Value) : String := String.ofList (write v)

def pretty (v : Value) : String := String.ofList (writeIndented 0 v)

end Json
end PagedList
