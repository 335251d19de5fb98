import PagedList.Text.Digit
import PagedList.Value

/-! Reading JSON text, from left to right and up to the first fault.
A reader takes the characters that are left and answers what it read with the characters behind
it. Containers nest at most 127 deep. -/
namespace PagedList
namespace Json

open Text (isDigit digitValue decimalValue hexValue?)

inductive Fault where
  /-- The text breaks the grammar. -/
  | malformed
  /-- The text ends where more has to come. -/
  | endedEarly
  /-- The grammar is kept, but the value is not of the kind asked for. -/
  | wrongShape
  deriving DecidableEq, Repr

abbrev Scan := Except Fault

def isBlank (c : Char) : Bool := c == ' ' || c == '\n' || c == '\t' || c == '\r'

def skipBlanks (text : List Char) : List Char := text.dropWhile isBlank

/-- The fault of standing before this text: its end, or a character that does not belong. -/
def unexpected : List Char → Fault
  | [] => .endedEarly
  | _ :: _ => .malformed

def readWord : List Char → List Char → Scan (List Char)
  | [], text => .ok text
  | _ :: _, [] => .error .endedEarly
  | w :: word, c :: text => if w = c then readWord word text else .error .malformed

/-- Four hexadecimal digits. A text with fewer than four bytes left has ended early, whatever
stands in it. -/
def readHex4 (text : List Char) : Scan (Nat × List Char) :=
  match text with
  | a :: b :: c :: d :: rest =>
    match hexValue? a, hexValue? b, hexValue? c, hexValue? d with
    | some a, some b, some c, some d => .ok (((a * 16 + b) * 16 + c) * 16 + d, rest)
    | _, _, _, _ => .error .malformed
  | _ => if text.foldr (fun c n => c.utf8Size + n) 0 < 4 then .error .endedEarly else .error .malformed

def isHighSurrogate (n : Nat) : Bool := 0xD800 ≤ n && n ≤ 0xDBFF

def isLowSurrogate (n : Nat) : Bool := 0xDC00 ≤ n && n ≤ 0xDFFF

def ofSurrogates (high low : Nat) : Char :=
  Char.ofNat (0x10000 + (high - 0xD800) * 0x400 + (low - 0xDC00))

def readUnicodeEscape (text : List Char) : Scan (Char × List Char) := do
  let (n, rest) ← readHex4 text
  if isLowSurrogate n then .error .malformed
  else if isHighSurrogate n then
    match rest with
    | '\\' :: 'u' :: rest =>
      let (low, rest) ← readHex4 rest
      if isLowSurrogate low then .ok (ofSurrogates n low, rest) else .error .malformed
    | [] | ['\\'] => .error .endedEarly
    | _ => .error .malformed
  else .ok (Char.ofNat n, rest)

def shortEscape? (c : Char) : Option Char :=
  if c = '"' then some '"'
  else if c = '\\' then some '\\'
  else if c = '/' then some '/'
  else if c = 'b' then some '\x08'
  else if c = 'f' then some '\x0c'
  else if c = 'n' then some '\n'
  else if c = 'r' then some '\r'
  else if c = 't' then some '\t'
  else none

def readEscape : List Char → Scan (Char × List Char)
  | [] => .error .endedEarly
  | 'u' :: text => readUnicodeEscape text
  | c :: text =>
    match shortEscape? c with
    | some d => .ok (d, text)
    | none => .error .malformed

/-- The characters up to the closing quote; every step uses up at least one character. -/
def readChars : Nat → List Char → Scan ((List Char) × List Char)
  | 0, _ => .error .malformed
  | _ + 1, [] => .error .endedEarly
  | _ + 1, '"' :: text => .ok ([], text)
  | fuel + 1, '\\' :: text => do
    let (c, text) ← readEscape text
    let (cs, text) ← readChars fuel text
    .ok (c :: cs, text)
  | fuel + 1, c :: text =>
    if c.toNat < 32 then .error .malformed
    else do
      let (cs, text) ← readChars fuel text
      .ok (c :: cs, text)

def readString (text : List Char) : Scan (String × List Char) := do
  let (cs, rest) ← readChars (text.length + 1) text
  .ok (String.ofList cs, rest)

/-! Numbers -/

/-- The largest significand; further digits only count for the magnitude. -/
def significandLimit : Nat := UInt64.size - 1

/-- Appends digits to a significand as long as it stays within the limit. Answers also how many
digits were used. -/
def appendDigits (significand : Nat) : List Char → Nat × Nat
  | [] => (significand, 0)
  | c :: cs =>
    let next := significand * 10 + digitValue c
    if significandLimit < next then (significand, 0)
    else
      let (s, used) := appendDigits next cs
      (s, used + 1)

/-- `x · 10 ^ e` in at most three rounded steps, or nothing if that is too large. -/
def timesPowerOfTen : Nat → Binary64 → Int → Option Binary64
  | fuel, x, e =>
    if -308 ≤ e ∧ e ≤ 308 then
      let power := Binary64.ofDecimal false 1 e.natAbs
      if 0 ≤ e then
        let y := x.mul power
        if y.isInfinite then none else some y
      else some (x.div power)
    else if x.isZero then some x
    else if 0 ≤ e then none
    else
      match fuel with
      | 0 => some (Binary64.zero false)
      | fuel + 1 => timesPowerOfTen fuel (x.div (Binary64.ofDecimal false 1 308)) (e + 308)

def exponentLimit : Nat := (1 <<< 31) - 1

def floatOf (negative : Bool) (significand : Nat) (e : Int) : Scan Number :=
  match timesPowerOfTen 3 (Binary64.ofNat significand) e with
  | some x => .ok (.float (if negative then x.negate else x))
  | none => .error .malformed

def readExponent (text : List Char) : Scan ((Bool × List Char) × List Char) :=
  let (negative, text) := match text with
    | '+' :: text => (false, text)
    | '-' :: text => (true, text)
    | text => (false, text)
  match text.takeWhile isDigit with
  | [] => .error (unexpected text)
  | digits => .ok ((negative, digits), text.dropWhile isDigit)

/-- A float whose decimal exponent so far is `e`, with the exponent that may follow. -/
def readFloatEnd (negative : Bool) (significand : Nat) (e : Int) (text : List Char) :
    Scan (Number × List Char) := do
  match text with
  | c :: text' =>
    if c = 'e' ∨ c = 'E' then
      let ((expNegative, digits), rest) ← readExponent text'
      let size := decimalValue digits
      if exponentLimit < size then
        if significand ≠ 0 ∧ !expNegative then .error .malformed
        else .ok (.float (Binary64.zero negative), rest)
      else
        let x ← floatOf negative significand (if expNegative then e - size else e + size)
        .ok (x, rest)
    else
      let x ← floatOf negative significand e
      .ok (x, text)
  | [] =>
    let x ← floatOf negative significand e
    .ok (x, [])

/-- An integer is kept as one if it fits 64 bits, signed or not; the negative zero is a float. -/
def integerOrFloat (negative : Bool) (n : Nat) : Number :=
  if negative then
    if 0 < n ∧ n ≤ 1 <<< 63 then .integer (-(n : Int)) else .float (Binary64.ofNat n).negate
  else .integer n

def readNumber (negative : Bool) (text : List Char) : Scan (Number × List Char) :=
  match text with
  | [] => .error .endedEarly
  | first :: _ =>
    if !isDigit first then .error .malformed
    else
      let digits := text.takeWhile isDigit
      let rest := text.dropWhile isDigit
      if first = '0' ∧ digits.length ≠ 1 then .error .malformed
      else
        let (significand, used) := appendDigits 0 digits
        let dropped := digits.length - used
        match rest with
        | '.' :: rest =>
          let fraction := rest.takeWhile isDigit
          let rest := rest.dropWhile isDigit
          if fraction.isEmpty then .error (unexpected rest)
          else
            let (significand, used) := appendDigits significand fraction
            readFloatEnd negative significand ((dropped : Int) - used) rest
        | c :: _ =>
          if c = 'e' ∨ c = 'E' then readFloatEnd negative significand dropped rest
          else if dropped = 0 then .ok (integerOrFloat negative significand, rest)
          else readFloatEnd negative significand dropped rest
        | [] =>
          if dropped = 0 then .ok (integerOrFloat negative significand, rest)
          else readFloatEnd negative significand dropped rest

/-! Values -/

def readColon (text : List Char) : Scan (List Char) :=
  match skipBlanks text with
  | ':' :: text => .ok text
  | text => .error (unexpected text)

inductive Next where
  /-- The container is closed. -/
  | finished (rest : List Char)
  /-- Another item begins here. -/
  | item (rest : List Char)

/-- Looks for the closing bracket, or a comma and then no bracket; the first item has no comma. -/
def readNext (close : Char) (isFirst : Bool) (text : List Char) : Scan Next :=
  match skipBlanks text with
  | [] => .error .endedEarly
  | c :: rest =>
    if c = close then .ok (.finished rest)
    else if isFirst then .ok (.item (c :: rest))
    else if c = ',' then
      match skipBlanks rest with
      | [] => .error .endedEarly
      | d :: rest => if d = close then .error .malformed else .ok (.item (d :: rest))
    else .error .malformed

def readKey (text : List Char) : Scan (String × List Char) :=
  match text with
  | '"' :: text => do
    let (key, text) ← readString text
    let text ← readColon text
    .ok (key, text)
  | _ => .error .malformed

mutual
/-- A value; `depth` is one more than the number of levels it may still have. -/
def readValue : Nat → Nat → List Char → Scan (Value × List Char)
  | 0, _, _ => .error .malformed
  | fuel + 1, depth, text =>
    match skipBlanks text with
    | [] => .error .endedEarly
    | 'n' :: text => do .ok (.null, ← readWord ['u', 'l', 'l'] text)
    | 't' :: text => do .ok (.bool true, ← readWord ['r', 'u', 'e'] text)
    | 'f' :: text => do .ok (.bool false, ← readWord ['a', 'l', 's', 'e'] text)
    | '"' :: text => do
      let (s, text) ← readString text
      .ok (.string s, text)
    | '[' :: text =>
      if depth ≤ 1 then .error .malformed
      else do
        let (items, text) ← readItems fuel (depth - 1) true text
        .ok (.array items, text)
    | '\x7b' :: text =>
      if depth ≤ 1 then .error .malformed
      else do
        let (fields, text) ← readFields fuel (depth - 1) true text
        .ok (Value.ofFields fields, text)
    | '-' :: text => do
      let (n, text) ← readNumber true text
      .ok (.number n, text)
    | text => do
      let (n, text) ← readNumber false text
      .ok (.number n, text)

def readItems : Nat → Nat → Bool → List Char → Scan ((List Value) × List Char)
  | 0, _, _, _ => .error .malformed
  | fuel + 1, depth, isFirst, text => do
    match ← readNext ']' isFirst text with
    | .finished rest => .ok ([], rest)
    | .item rest =>
      let (v, rest) ← readValue fuel depth rest
      let (items, rest) ← readItems fuel depth false rest
      .ok (v :: items, rest)

def readFields : Nat → Nat → Bool → List Char → Scan ((List (String × Value)) × List Char)
  | 0, _, _, _ => .error .malformed
  | fuel + 1, depth, isFirst, text => do
    match ← readNext '\x7d' isFirst text with
    | .finished rest => .ok ([], rest)
    | .item rest =>
      let (key, rest) ← readKey rest
      let (v, rest) ← readValue fuel depth rest
      let (fields, rest) ← readFields fuel depth false rest
      .ok ((key, v) :: fields, rest)
end

/-- One more than the number of levels that containers may nest. -/
def depthLimit : Nat := 128

/-- Enough steps for any value in a text: every second step uses up a character. -/
def stepsFor (text : List Char) : Nat := 2 * text.length + 2

def readAt (depth : Nat) (text : List Char) : Scan (Value × List Char) :=
  readValue (stepsFor text) depth text

def finish {α : Type} : Scan (α × List Char) → Scan α
  | .error f => .error f
  | .ok (a, rest) => if (skipBlanks rest).isEmpty then .ok a else .error .malformed

def parse (text : String) : Scan Value := finish (readAt depthLimit text.toList)

end Json
end PagedList
