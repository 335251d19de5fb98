import PagedList.Number.Binary64
import PagedList.Text.Digit

/-! Reading floating-point numbers from decimal text. -/
namespace PagedList
namespace Decimal

open Text (isDigit decimalValue)

def splitSign : List Char → Bool × List Char
  | '-' :: rest => (true, rest)
  | '+' :: rest => (false, rest)
  | text => (false, text)

/-- The exponent at the end of a number, nothing standing for zero. -/
def readExponent? : List Char → Option Int
  | [] => some 0
  | c :: rest =>
    if c = 'e' ∨ c = 'E' then
      let (negative, digits) := splitSign rest
      if digits.isEmpty || !digits.all isDigit then none
      else some (if negative then -(decimalValue digits : Int) else decimalValue digits)
    else none

/-- The number nearest to what digits with at most one point and perhaps an exponent say; at
least one digit stands before the exponent. Beyond the largest number it is infinite. -/
def read? (text : List Char) : Option Binary64 :=
  let (negative, rest) := splitSign text
  let whole := rest.takeWhile isDigit
  let rest := rest.dropWhile isDigit
  let (fraction, rest) := match rest with
    | '.' :: rest => (rest.takeWhile isDigit, rest.dropWhile isDigit)
    | rest => ([], rest)
  if whole.isEmpty && fraction.isEmpty then none
  else (readExponent? rest).map fun e =>
    Binary64.ofDecimal negative (decimalValue (whole ++ fraction)) (e - fraction.length)

end Decimal
end PagedList
