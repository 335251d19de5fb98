import PagedList.Text.Digit

/-! Integers written as text, within bounds. -/
namespace PagedList

inductive IntegerError where
  | empty
  | invalidDigit
  | tooLarge
  | tooSmall
  deriving DecidableEq, Repr

def IntegerError.message : IntegerError → String
  | .empty => "cannot parse integer from empty string"
  | .invalidDigit => "invalid digit found in string"
  | .tooLarge => "number too large to fit in target type"
  | .tooSmall => "number too small to fit in target type"

namespace Integer

open Text (isDigit digitValue)

/-- Takes digits up to a bound. The first fault counts: something that is no digit, or a digit
that leads beyond the bound. -/
def readDigits (bound : Nat) (beyond : IntegerError) : Nat → List Char → Except IntegerError Nat
  | n, [] => .ok n
  | n, c :: rest =>
    if !isDigit c then .error .invalidDigit
    else if bound < n * 10 + digitValue c then .error beyond
    else readDigits bound beyond (n * 10 + digitValue c) rest

def readCount (bound : Nat) : List Char → Except IntegerError Nat
  | [] => .error .empty
  | ['+'] => .error .invalidDigit
  | '+' :: rest => readDigits bound .tooLarge 0 rest
  | text => readDigits bound .tooLarge 0 text

/-- Decimal digits, perhaps behind a sign, for a number of so many bits and the sign. -/
def readSigned (bits : Nat) : List Char → Except IntegerError Int
  | ['-'] => .error .invalidDigit
  | '-' :: rest => do .ok (-((← readDigits (1 <<< bits) .tooSmall 0 rest) : Nat))
  | text => do .ok ((← readCount ((1 <<< bits) - 1) text) : Nat)

def maxCount : Nat := UInt64.size - 1

end Integer
end PagedList
