import PagedList.Json5.Document
import PagedList.Number.DecimalReader
import PagedList.Value

/-! JSON5 to the letter of its standard, as settings are written in it. It differs from what files
of records may hold in numbers, escapes and names. Readers answer what they read and what is left,
or nothing where the text is no JSON5. -/
namespace PagedList
namespace Json5
namespace Standard

open Text (isDigit isHexDigit)

def skip (text : List Char) : List Char := skipBlanks (text.length + 1) text

/-! Strings and names -/

def readUnit? (n : Nat) (text : List Char) : Option (Nat × List Char) :=
  let digits := text.take n
  if digits.length = n ∧ digits.all isHexDigit then
    some (Text.baseValue 16 digits, text.drop n)
  else none

/-- The character of four digits, or of two surrogates that each have an escape. -/
def readUnicode? (text : List Char) : Option (Char × List Char) := do
  let (n, rest) ← readUnit? 4 text
  if n.isValidChar then some (Char.ofNat n, rest)
  else if n < 0xDC00 then
    match rest with
    | '\\' :: 'u' :: rest => do
      let (low, rest) ← readUnit? 4 rest
      if 0xDC00 ≤ low ∧ low ≤ 0xDFFF then
        some (Char.ofNat (0x10000 + (n - 0xD800) * 0x400 + (low - 0xDC00)), rest)
      else none
    | _ => none
  else none

/-- What an escape stands for, behind its backslash: a character, or nothing for a line end. -/
def readEscape? (text : List Char) : Option (List Char × List Char) :=
  match text with
  | [] => none
  | '\r' :: '\n' :: rest => some ([], rest)
  | 'x' :: rest => (readUnit? 2 rest).map fun (n, rest) => ([Char.ofNat n], rest)
  | 'u' :: rest => (readUnicode? rest).map fun (c, rest) => ([c], rest)
  | '0' :: rest => if (rest.head?.map isDigit).getD false then none else some (['\x00'], rest)
  | c :: rest =>
    if isLineEnd c then some ([], rest)
    else if isDigit c then none
    else some ([escapedCharacter c], rest)

def readQuoted? (quote : Char) : Nat → List Char → Option (List Char × List Char)
  | 0, _ | _, [] => none
  | fuel + 1, c :: rest =>
    if c = quote then some ([], rest)
    else if c = '\\' then do
      let (cs, rest) ← readEscape? rest
      let (more, rest) ← readQuoted? quote fuel rest
      some (cs ++ more, rest)
    else if c = '\n' ∨ c = '\r' then none
    else do
      let (cs, rest) ← readQuoted? quote fuel rest
      some (c :: cs, rest)

def readString? (text : List Char) : Option (String × List Char) :=
  match text with
  | [] => none
  | c :: rest =>
    if c = '"' ∨ c = '\'' then
      (readQuoted? c (rest.length + 1) rest).map fun (s, rest) => (String.ofList s, rest)
    else none

def readNameChar? (p : Char → Bool) (text : List Char) : Option (Char × List Char) := do
  let (c, rest) ← match text with
    | '\\' :: 'u' :: rest => readUnicode? rest
    | '\\' :: _ | [] => none
    | c :: rest => some (c, rest)
  if p c then some (c, rest) else none

def readNameRest? : Nat → List Char → Option (List Char × List Char)
  | 0, text => some ([], text)
  | fuel + 1, text =>
    match readNameChar? (fun c => beginsName c || Text.isNamePart c) text with
    | some (c, rest) => (readNameRest? fuel rest).map fun (cs, rest) => (c :: cs, rest)
    | none => some ([], text)

def readName? (text : List Char) : Option (String × List Char) := do
  let (c, rest) ← readNameChar? beginsName text
  let (cs, rest) ← readNameRest? rest.length rest
  some (String.ofList (c :: cs), rest)

/-! Numbers -/

/-- An integer of at most 64 bits without its sign. If it is too small for 64 bits with a sign it
is a float; if it is too large for them there is none. -/
def integer? (negative : Bool) (n : Nat) : Option Number :=
  if negative then
    some (if n ≤ 1 <<< 63 then .integer (-n) else .float (Binary64.ofRatio true n 1))
  else if n < 1 <<< 63 then some (.integer n)
  else none

def decimal? (negative : Bool) (n : Nat) : Option Number :=
  if n < UInt64.size then integer? negative n else some (.float (Binary64.ofRatio negative n 1))

def hex? (negative : Bool) (n : Nat) : Option Number :=
  if n < UInt64.size then integer? negative n else none

def splitExponent (text : List Char) : List Char × List Char :=
  match text with
  | [] => ([], [])
  | c :: rest =>
    if c = 'e' ∨ c = 'E' then
      let (negative, digits) := Decimal.splitSign rest
      (c :: ((if negative then ['-'] else []) ++ digits.takeWhile isDigit),
        digits.dropWhile isDigit)
    else ([], c :: rest)

/-- A decimal number without its sign, which has no zero before its first digit. -/
def readDecimal? (negative : Bool) (text : List Char) : Option (Number × List Char) := do
  let whole := text.takeWhile isDigit
  let rest := text.dropWhile isDigit
  if whole.length ≠ 1 ∧ whole.head? = some '0' then none
  let (fraction, rest) := match rest with
    | '.' :: rest => ('.' :: rest.takeWhile isDigit, rest.dropWhile isDigit)
    | rest => ([], rest)
  let (exponent, rest) := splitExponent rest
  if fraction.isEmpty && exponent.isEmpty then
    if whole.isEmpty then none
    else some (← decimal? negative (Text.decimalValue whole), rest)
  else
    let x ← Decimal.read? (whole ++ fraction ++ exponent)
    some (.float (if negative then x.negate else x), rest)

def readNumber? (text : List Char) : Option (Number × List Char) :=
  let (negative, rest) := Decimal.splitSign text
  if "Infinity".toList.isPrefixOf rest then some (.float (.infinity negative), rest.drop 8)
  else if "NaN".toList.isPrefixOf rest then some (.float .nan, rest.drop 3)
  else
    match rest with
    | '0' :: 'x' :: rest | '0' :: 'X' :: rest =>
      let digits := rest.takeWhile isHexDigit
      if digits.isEmpty then none
      else (hex? negative (Text.baseValue 16 digits)).map fun n =>
        (n, rest.dropWhile isHexDigit)
    | rest => readDecimal? negative rest

/-! Values -/

def readWord? (text : List Char) : Option (Value × List Char) :=
  if "null".toList.isPrefixOf text then some (.null, text.drop 4)
  else if "true".toList.isPrefixOf text then some (.bool true, text.drop 4)
  else if "false".toList.isPrefixOf text then some (.bool false, text.drop 5)
  else (readNumber? text).map fun (n, rest) => (.number n, rest)

mutual
def readValue? : Nat → List Char → Option (Value × List Char)
  | 0, _ => none
  | fuel + 1, text =>
    match text with
    | '[' :: rest => (readItems? fuel (skip rest)).map fun (items, rest) => (.array items, rest)
    | '\x7b' :: rest =>
      (readMembers? fuel (skip rest)).map fun (members, rest) => (.object members, rest)
    | '"' :: _ | '\'' :: _ => (readString? text).map fun (s, rest) => (.string s, rest)
    | _ => readWord? text

/-- The items of an array up to its closing bracket; the last may have a comma behind it. -/
def readItems? : Nat → List Char → Option (List Value × List Char)
  | 0, _ => none
  | _ + 1, ']' :: rest => some ([], rest)
  | fuel + 1, text => do
    let (v, rest) ← readValue? fuel text
    let (vs, rest) ← match skip rest with
      | ',' :: rest => readItems? fuel (skip rest)
      | ']' :: rest => some ([], rest)
      | _ => none
    some (v :: vs, rest)

/-- The members of an object up to its closing brace; the last may have a comma behind it. -/
def readMembers? : Nat → List Char → Option (List (String × Value) × List Char)
  | 0, _ => none
  | _ + 1, '\x7d' :: rest => some ([], rest)
  | fuel + 1, text => do
    let (key, rest) ← readString? text <|> readName? text
    let rest ← match skip rest with
      | ':' :: rest => some (skip rest)
      | _ => none
    let (v, rest) ← readValue? fuel rest
    let (members, rest) ← match skip rest with
      | ',' :: rest => readMembers? fuel (skip rest)
      | '\x7d' :: rest => some ([], rest)
      | _ => none
    some ((key, v) :: members, rest)
end

/-- The value of a text, objects with every member that they were given. -/
def parse? (text : String) : Option Value := do
  let text := skip text.toList
  let (v, rest) ← readValue? (2 * text.length + 2) text
  if (skip rest).isEmpty then some v else none

end Standard
end Json5
end PagedList
