import PagedList.Text.Digit

/-! The parts of TOML text below values: blanks, comments, keys and strings. Readers answer what
they read and what is left, or nothing where the text is no TOML. -/
namespace PagedList
namespace Toml

open Text (isDigit isHexDigit)

def isSpace (c : Char) : Bool := c == ' ' || c == '\t'

def isPlain (c : Char) : Bool := c == '\t' || (' ' ≤ c && c ≠ '\x7f')

def skipSpaces (text : List Char) : List Char := text.dropWhile isSpace

def skipComment (text : List Char) : List Char :=
  match skipSpaces text with
  | '#' :: rest => rest.dropWhile isPlain
  | rest => rest

def endLine? : List Char → Option (List Char)
  | [] => some []
  | '\n' :: rest => some rest
  | '\r' :: '\n' :: rest => some rest
  | _ => none

def finishLine? (text : List Char) : Option (List Char) := endLine? (skipComment text)

def skipLines : Nat → List Char → List Char
  | 0, text => text
  | fuel + 1, text =>
    match skipComment text with
    | [] => []
    | rest =>
      match endLine? rest with
      | some rest => skipLines fuel rest
      | none => rest

/-! Strings -/

def readCode? (n : Nat) (text : List Char) : Option (Char × List Char) :=
  let digits := text.take n
  let code := Text.baseValue 16 digits
  if digits.length = n ∧ digits.all isHexDigit ∧ code.isValidChar then
    some (Char.ofNat code, text.drop n)
  else none

def readEscape? : List Char → Option (Char × List Char)
  | 'b' :: rest => some ('\x08', rest)
  | 't' :: rest => some ('\t', rest)
  | 'n' :: rest => some ('\n', rest)
  | 'f' :: rest => some ('\x0c', rest)
  | 'r' :: rest => some ('\r', rest)
  | 'e' :: rest => some ('\x1b', rest)
  | '"' :: rest => some ('"', rest)
  | '\\' :: rest => some ('\\', rest)
  | 'x' :: rest => readCode? 2 rest
  | 'u' :: rest => readCode? 4 rest
  | 'U' :: rest => readCode? 8 rest
  | _ => none

def readBasic? : Nat → List Char → Option (List Char × List Char)
  | 0, _ | _, [] => none
  | _ + 1, '"' :: rest => some ([], rest)
  | fuel + 1, '\\' :: rest => do
    let (c, rest) ← readEscape? rest
    let (cs, rest) ← readBasic? fuel rest
    some (c :: cs, rest)
  | fuel + 1, c :: rest =>
    if isPlain c then do
      let (cs, rest) ← readBasic? fuel rest
      some (c :: cs, rest)
    else none

def readLiteral? (text : List Char) : Option (List Char × List Char) :=
  match text.dropWhile fun c => isPlain c && c != '\'' with
  | '\'' :: rest => some (text.takeWhile fun c => isPlain c && c != '\'', rest)
  | _ => none

/-- What follows blanks that reach over at least one line end. -/
def skipFolded? (text : List Char) : Option (List Char) :=
  let rest := skipSpaces text
  match endLine? rest with
  | none => none
  | some [] => if rest.isEmpty then none else some []
  | some rest => some (skipBreaks rest.length rest)
where
  /-- Blanks and line ends in any order. -/
  skipBreaks : Nat → List Char → List Char
    | 0, text => text
    | fuel + 1, text =>
      match skipSpaces text with
      | [] => []
      | rest =>
        match endLine? rest with
        | some rest => skipBreaks fuel rest
        | none => rest

/-- The quotes at the end of a string of several lines: three close it, and up to two more
belong to the string. -/
def closeQuotes? (quote : Char) (text : List Char) : Option (List Char × List Char) :=
  let quotes := text.takeWhile (· == quote)
  if quotes.length < 3 then none
  else
    let own := min (quotes.length - 3) 2
    some (List.replicate own quote, text.drop (own + 3))

def readLines? (quote : Char) : Nat → List Char → Option (List Char × List Char)
  | 0, _ | _, [] => none
  | fuel + 1, c :: rest =>
    if c = quote then
      match closeQuotes? quote (c :: rest) with
      | some closed => some closed
      | none => do
        let (cs, rest) ← readLines? quote fuel rest
        some (c :: cs, rest)
    else if c = '\\' ∧ quote = '"' then
      match skipFolded? rest with
      | some rest => readLines? quote fuel rest
      | none => do
        let (c, rest) ← readEscape? rest
        let (cs, rest) ← readLines? quote fuel rest
        some (c :: cs, rest)
    else if isPlain c ∨ (endLine? (c :: rest)).isSome then do
      let (cs, rest) ← readLines? quote fuel rest
      some (c :: cs, rest)
    else none

/-- Drops the line end directly behind the opening quotes. -/
def dropFirstLineEnd (text : List Char) : List Char := (endLine? text).getD text

def readString? (text : List Char) : Option (List Char × List Char) :=
  match text with
  | '"' :: '"' :: '"' :: rest => readLines? '"' (rest.length + 1) (dropFirstLineEnd rest)
  | '\'' :: '\'' :: '\'' :: rest => readLines? '\'' (rest.length + 1) (dropFirstLineEnd rest)
  | '"' :: rest => readBasic? (rest.length + 1) rest
  | '\'' :: rest => readLiteral? rest
  | _ => none

/-! Keys -/

def isKeyChar (c : Char) : Bool :=
  ('a' ≤ c && c ≤ 'z') || ('A' ≤ c && c ≤ 'Z') || isDigit c || c == '_' || c == '-'

/-- One part of a key, bare or a string of one line. -/
def readKeyPart? (text : List Char) : Option (String × List Char) :=
  match text with
  | '"' :: rest => (readBasic? (rest.length + 1) rest).map fun (k, rest) => (String.ofList k, rest)
  | '\'' :: rest => (readLiteral? rest).map fun (k, rest) => (String.ofList k, rest)
  | text =>
    match text.takeWhile isKeyChar with
    | [] => none
    | k => some (String.ofList k, text.dropWhile isKeyChar)

/-- A key and the blanks behind it; points lead from table to table. -/
def readKey? : Nat → List Char → Option (List String × List Char)
  | 0, _ => none
  | fuel + 1, text => do
    let (part, rest) ← readKeyPart? (skipSpaces text)
    match skipSpaces rest with
    | '.' :: rest => do
      let (parts, rest) ← readKey? fuel rest
      some (part :: parts, rest)
    | rest => some ([part], rest)

end Toml
end PagedList
