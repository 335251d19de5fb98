import PagedList.Number.Binary64

/-! The decimal text of a binary floating-point number.
`shortest` gives the fewest digits that read back as the number, and of those the nearest;
a `Style` says how such digits are written. -/
namespace PagedList
namespace Decimal

open Binary64 (minExponent)

/-- The interval of reals that round to `m · 2 ^ e`, in quarters of its last place, and whether
its ends belong to it. Below a power of two the neighbour is half as far away. -/
structure Interval where
  low : Nat
  high : Nat
  closed : Bool

def interval (m : Nat) (e : Int) : Interval where
  low := if m = 1 <<< 52 ∧ minExponent < e then 4 * m - 1 else 4 * m - 2
  high := 4 * m + 2
  closed := m % 2 == 0

/-- `n / d` is a quarter of the last place of `m · 2 ^ e`, counted in steps of `10 ^ k`. -/
def quarterOnGrid (e k : Int) : Nat × Nat :=
  let q := e - 2
  (Nat.pow 10 (-k).toNat <<< q.toNat, Nat.pow 10 k.toNat <<< (-q).toNat)

/-- A point of the grid `10 ^ k` in the interval: one of the two neighbours of the number,
the nearer one if both are in it, the even one if they are equally near. -/
def gridPoint? (m : Nat) (e k : Int) : Option Nat :=
  let i := interval m e
  let (n, d) := quarterOnGrid e k
  let below := 4 * m * n / d
  let above := below + 1
  let belowIn := i.low * n < below * d || (i.closed && i.low * n == below * d)
  let aboveIn := above * d < i.high * n || (i.closed && above * d == i.high * n)
  let gap := 4 * m * n - below * d
  match belowIn && below != 0, aboveIn with
  | true, true =>
    if 2 * gap < d then some below else if d < 2 * gap then some above
    else some (below + below % 2)
  | true, false => some below
  | false, true => some above
  | false, false => none

/-- The first grid from `10 ^ k` downwards that has a point in the interval. -/
def scan (m : Nat) (e : Int) : Nat → Int → Nat × Int
  | 0, k => (m, k)
  | fuel + 1, k =>
    match gridPoint? m e k with
    | some n => (n, k)
    | none => scan m e fuel (k - 1)

/-- No number of a coarser grid than this can lie in the interval. -/
def coarsestGrid (m : Nat) (e : Int) : Int :=
  Int.fdiv (((m.log2 : Int) + e + 1) * 30103) 100000 + 1

def shortest (m : Nat) (e : Int) : Nat × Int :=
  scan m e 21 (coarsestGrid m e)

structure Style where
  /-- Whether a number with its point after this many digits is written without an exponent. -/
  positional : Int → Bool
  /-- What follows a number without fractional digits. -/
  wholeEnding : String
  /-- What stands before an exponent that is not negative. -/
  plusSign : String

def zeros (n : Nat) : List Char := List.replicate n '0'

def writePositional (style : Style) (digits : List Char) (point : Int) : List Char :=
  if point ≤ 0 then '0' :: '.' :: (zeros (-point).toNat ++ digits)
  else if (digits.length : Int) ≤ point then
    digits ++ zeros (point.toNat - digits.length) ++ style.wholeEnding.toList
  else digits.take point.toNat ++ '.' :: digits.drop point.toNat

/-- One digit, the other digits behind a point, and the exponent of ten. -/
def writeScientific (style : Style) (digits : List Char) (point : Int) : List Char :=
  let e := point - 1
  let sign := if e < 0 then ['-'] else style.plusSign.toList
  let fraction := match digits.drop 1 with
    | [] => []
    | rest => '.' :: rest
  digits.take 1 ++ fraction ++ 'e' :: (sign ++ Nat.toDigits 10 e.natAbs)

def writeFinite (style : Style) (m : Nat) (e : Int) : List Char :=
  if m = 0 then '0' :: style.wholeEnding.toList
  else
    let (n, k) := shortest m e
    let digits := Nat.toDigits 10 n
    let point := k + digits.length
    if style.positional point then writePositional style digits point
    else writeScientific style digits point

def Style.write (style : Style) : Binary64 → String
  | .nan => "NaN"
  | .infinity negative => if negative then "-inf" else "inf"
  | .finite negative m e =>
    String.ofList ((if negative then ['-'] else []) ++ writeFinite style m e)

/-- Floats in JSON text: no exponent from `1e-5` to below `1e16`, and always a sign that the
number is no integer. -/
def json : Style where
  positional point := -5 < point && point ≤ 16
  wholeEnding := ".0"
  plusSign := "+"

/-- Floats in messages: never an exponent. -/
def message : Style where
  positional _ := true
  wholeEnding := ".0"
  plusSign := ""

/-- Floats turned into text settings: never an exponent, and no ending for whole numbers. -/
def plain : Style where
  positional _ := true
  wholeEnding := ""
  plusSign := ""

end Decimal
end PagedList
