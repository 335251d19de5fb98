import PagedList.Number.DecimalReader
import PagedList.Number.Integer
import PagedList.Toml.Text
import PagedList.Value

/-! Words of TOML text: numbers, booleans, dates and times. -/
namespace PagedList
namespace Toml

open Text (isDigit isHexDigit)

/-- Digits of a base in which single underscores stand between digits, without them. -/
def digits? (isDigit : Char → Bool) : List Char → Option (List Char)
  | [] => none
  | [c] => if isDigit c then some [c] else none
  | c :: '_' :: rest => if isDigit c then (digits? isDigit rest).map (c :: ·) else none
  | c :: d :: rest => if isDigit c then (digits? isDigit (d :: rest)).map (c :: ·) else none

/-- Decimal digits that begin with zero only if it stands alone. -/
def decimalDigits? (text : List Char) : Option (List Char) :=
  match digits? isDigit text with
  | some ('0' :: _ :: _) => none
  | ds => ds

def ofBase? (base : Nat) (isDigit : Char → Bool) (text : List Char) : Option Value := do
  let n := Text.baseValue base (← digits? isDigit text)
  if n < 1 <<< 63 then some (.nat n) else none

def integer? (text : List Char) : Option Value :=
  match text with
  | '0' :: 'x' :: rest => ofBase? 16 isHexDigit rest
  | '0' :: 'o' :: rest => ofBase? 8 (fun c => '0' ≤ c && c ≤ '7') rest
  | '0' :: 'b' :: rest => ofBase? 2 (fun c => c == '0' || c == '1') rest
  | _ => do
    let (negative, rest) := Decimal.splitSign text
    let ds ← decimalDigits? rest
    let n ← (Integer.readSigned 63 ((if negative then ['-'] else []) ++ ds)).toOption
    some (.int n)

def isExponent (c : Char) : Bool := c == 'e' || c == 'E'

/-- The exponent of a float without underscores; nothing stands for none. -/
def exponent? (text : List Char) : Option (List Char) :=
  match text with
  | [] => some []
  | _ :: rest =>
    let (negative, rest) := Decimal.splitSign rest
    (digits? isDigit rest).map fun ds => 'e' :: ((if negative then ['-'] else []) ++ ds)

/-- The digits behind the point with the point; nothing stands for no point. -/
def fraction? (text : List Char) : Option (List Char) :=
  match text with
  | [] => some []
  | _ :: rest => (digits? isDigit rest).map ('.' :: ·)

/-- A float has a point or an exponent, digits before its point and behind it, and is not too
large. -/
def float? (text : List Char) : Option Value :=
  let (negative, rest) := Decimal.splitSign text
  match String.ofList rest with
  | "inf" => some (.number (.float (.infinity negative)))
  | "nan" => some (.number (.float .nan))
  | _ => do
    let whole := rest.takeWhile fun c => c != '.' && !isExponent c
    let fraction := (rest.dropWhile fun c => c != '.' && !isExponent c).takeWhile (!isExponent ·)
    let exponent := rest.dropWhile (!isExponent ·)
    if fraction.isEmpty && exponent.isEmpty then none
    let ds := (← decimalDigits? whole) ++ (← fraction? fraction) ++ (← exponent? exponent)
    let x ← Decimal.read? ((if negative then ['-'] else []) ++ ds)
    if x.isFinite then some (.number (.float x)) else none

/-! Dates and times, which are kept as text -/

def readField? (n low high : Nat) (text : List Char) : Option (Nat × List Char) :=
  let ds := text.take n
  let value := Text.decimalValue ds
  if ds.length = n ∧ ds.all isDigit ∧ low ≤ value ∧ value ≤ high then some (value, text.drop n)
  else none

def readChar? (p : Char → Bool) : List Char → Option (List Char)
  | c :: rest => if p c then some rest else none
  | [] => none

def daysOf (year month : Nat) : Nat :=
  if month = 2 then
    if year % 4 = 0 ∧ (year % 100 ≠ 0 ∨ year % 400 = 0) then 29 else 28
  else if month = 4 ∨ month = 6 ∨ month = 9 ∨ month = 11 then 30
  else 31

def readDate? (text : List Char) : Option (List Char × List Char) := do
  let (year, rest) ← readField? 4 0 9999 text
  let (month, rest) ← readField? 2 1 12 (← readChar? (· == '-') rest)
  let (_, rest) ← readField? 2 1 (daysOf year month) (← readChar? (· == '-') rest)
  some (text.take 10, rest)

/-- Digits of a second, at most nine of them, without zeros at the end but for the first digit. -/
def fractionText (ds : List Char) : List Char :=
  match ((ds.take 9).reverse.dropWhile (· == '0')).reverse with
  | [] => ['.', '0']
  | ds => '.' :: ds

def readSeconds? (text : List Char) : Option (List Char × List Char) :=
  match text with
  | ':' :: rest => do
    let (_, after) ← readField? 2 0 60 rest
    match after with
    | '.' :: rest' =>
      match rest'.takeWhile isDigit with
      | [] => none
      | ds => some (':' :: (rest.take 2 ++ fractionText ds), rest'.dropWhile isDigit)
    | _ => some (':' :: rest.take 2, after)
  | _ => some ([], text)

def readTime? (text : List Char) : Option (List Char × List Char) := do
  let (_, rest) ← readField? 2 0 23 text
  let (_, rest) ← readField? 2 0 59 (← readChar? (· == ':') rest)
  let (seconds, rest) ← readSeconds? rest
  some (text.take 5 ++ seconds, rest)

def twoDigits (n : Nat) : List Char :=
  if n < 10 then '0' :: Nat.toDigits 10 n else Nat.toDigits 10 n

/-- The distance from universal time, at most a day, if it is given. Its minutes may be more than
an hour; a distance of nothing has a plus sign. -/
def readOffset? (text : List Char) : Option (List Char × List Char) :=
  match text with
  | [] => some ([], [])
  | c :: rest =>
    if c = 'Z' ∨ c = 'z' then some (['Z'], rest)
    else if c = '+' ∨ c = '-' then do
      let (hours, after) ← readField? 2 0 24 rest
      let (minutes, after) ← readField? 2 0 99 (← readChar? (· == ':') after)
      let total := hours * 60 + minutes
      let sign := if total = 0 then '+' else c
      if total ≤ 24 * 60 then
        some (sign :: (twoDigits (total / 60) ++ ':' :: twoDigits (total % 60)), after)
      else none
    else none

def dateTime? (text : List Char) : Option Value := do
  let written ← match readDate? text with
    | none => do
      let (time, rest) ← readTime? text
      if rest.isEmpty then some time else none
    | some (date, []) => some date
    | some (date, rest) => do
      let rest ← readChar? (fun c => c == 'T' || c == 't' || c == ' ') rest
      let (time, rest) ← readTime? rest
      let (offset, rest) ← readOffset? rest
      if rest.isEmpty then some (date ++ 'T' :: (time ++ offset)) else none
  some (.string (String.ofList written))

def word? (text : List Char) : Option Value :=
  match String.ofList text with
  | "true" => some (.bool true)
  | "false" => some (.bool false)
  | _ => (integer? text <|> float? text) <|> dateTime? text

def isWordChar (c : Char) : Bool :=
  ('a' ≤ c && c ≤ 'z') || ('A' ≤ c && c ≤ 'Z') || isDigit c || c == '_' || c == '-' || c == '+' ||
    c == '.' || c == ':'

/-- Whether a blank between a date and a time continues the word. -/
def continuesDate (word rest : List Char) : Bool :=
  match readDate? word, rest with
  | some (_, []), ' ' :: a :: b :: ':' :: _ => isDigit a && isDigit b
  | _, _ => false

def readWord? (text : List Char) : Option (Value × List Char) := do
  let word := text.takeWhile isWordChar
  let rest := text.dropWhile isWordChar
  if continuesDate word rest then
    let time := (rest.drop 1).takeWhile isWordChar
    some (← word? (word ++ ' ' :: time), (rest.drop 1).dropWhile isWordChar)
  else some (← word? word, rest)

end Toml
end PagedList
