/-! Binary floating-point numbers of 64 bits, in exact integer arithmetic.
A finite number is `± mantissa · 2 ^ exponent` with the mantissa below `2 ^ 53`; every operation
is the exact result rounded once, to the nearest such number and to the even mantissa on a tie. -/
namespace PagedList

inductive Binary64 where
  | nan
  | infinity (negative : Bool)
  | finite (negative : Bool) (mantissa : Nat) (exponent : Int)
  deriving DecidableEq, Repr, Inhabited

namespace Binary64

def minExponent : Int := -1074

def maxExponent : Int := 971

def mantissaBound : Nat := 1 <<< 53

def zero (negative : Bool) : Binary64 := .finite negative 0 minExponent

/-- The nearest integer to `n / d`; a half goes to the even neighbour. -/
def roundHalfEven (n d : Nat) : Nat :=
  let q := n / d
  let twice := 2 * (n % d)
  if twice < d then q else if d < twice then q + 1 else q + q % 2

/-- `n / (d · 2 ^ e)` as a quotient of natural numbers. -/
def scaleDown (n d : Nat) (e : Int) : Nat × Nat :=
  if e < 0 then (n <<< (-e).toNat, d) else (n, d <<< e.toNat)

/-- The number nearest to `n / d`. -/
def ofRatio (negative : Bool) (n d : Nat) : Binary64 :=
  if n = 0 then zero negative
  else
    let guess := max minExponent ((n.log2 : Int) - d.log2 - 53)
    let (a, b) := scaleDown n d guess
    let e := if a / b < mantissaBound then guess else guess + 1
    let (a, b) := scaleDown n d e
    let m := roundHalfEven a b
    let (m, e) := if m = mantissaBound then (m / 2, e + 1) else (m, e)
    if maxExponent < e then .infinity negative else .finite negative m e

def ofScaled (negative : Bool) (m : Nat) (e : Int) : Binary64 :=
  if e < 0 then ofRatio negative m (1 <<< (-e).toNat) else ofRatio negative (m <<< e.toNat) 1

def ofNat (n : Nat) : Binary64 := ofRatio false n 1

def ofInt (n : Int) : Binary64 := ofRatio (n < 0) n.natAbs 1

def decimalLength (n : Nat) : Nat := (Nat.toDigits 10 n).length

/-- The number nearest to `digits · 10 ^ e`. Far outside the range of finite numbers the answer
is known from the number of digits alone. -/
def ofDecimal (negative : Bool) (digits : Nat) (e : Int) : Binary64 :=
  if digits = 0 then zero negative
  else
    let magnitude := e + decimalLength digits
    if 310 < magnitude then .infinity negative
    else if magnitude < -330 then zero negative
    else if e < 0 then ofRatio negative digits (Nat.pow 10 (-e).toNat)
    else ofRatio negative (digits * Nat.pow 10 e.toNat) 1

def negate : Binary64 → Binary64
  | .nan => .nan
  | .infinity s => .infinity (!s)
  | .finite s m e => .finite (!s) m e

def isNegative : Binary64 → Bool
  | .nan => false
  | .infinity s => s
  | .finite s _ _ => s

def isZero : Binary64 → Bool
  | .finite _ m _ => m == 0
  | _ => false

def isFinite : Binary64 → Bool
  | .finite .. => true
  | _ => false

def isInfinite : Binary64 → Bool
  | .infinity _ => true
  | _ => false

def mul : Binary64 → Binary64 → Binary64
  | .finite s m e, .finite s' m' e' => ofScaled (s != s') (m * m') (e + e')
  | .nan, _ | _, .nan => .nan
  | x, y => if x.isZero || y.isZero then .nan else .infinity (x.isNegative != y.isNegative)

def div : Binary64 → Binary64 → Binary64
  | .finite s m e, .finite s' m' e' =>
    if m' = 0 then (if m = 0 then .nan else .infinity (s != s'))
    else
      let (n, d) := scaleDown m m' (e' - e)
      ofRatio (s != s') n d
  | .nan, _ | _, .nan => .nan
  | .infinity _, .infinity _ => .nan
  | .infinity s, .finite s' _ _ => .infinity (s != s')
  | .finite s _ _, .infinity s' => zero (s != s')

/-- Equality of numbers: the two zeros are equal and `nan` differs from everything. -/
def same : Binary64 → Binary64 → Bool
  | .finite s m e, .finite s' m' e' =>
    (m == 0 && m' == 0) || (s == s' && m == m' && e == e')
  | .infinity s, .infinity s' => s == s'
  | _, _ => false

/-- The nearest integer to a finite number, a half going away from zero. -/
def roundHalfAway (negative : Bool) (mantissa : Nat) (exponent : Int) : Int :=
  let magnitude :=
    if exponent < 0 then
      let d := 1 <<< (-exponent).toNat
      (2 * mantissa + d) / (2 * d)
    else mantissa <<< exponent.toNat
  if negative then -magnitude else magnitude

end Binary64
end PagedList
