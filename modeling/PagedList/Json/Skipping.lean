import PagedList.Json.Reader

/-! Passing over JSON values that nobody asked for. Their brackets, words and digits are checked,
but they may nest to any depth, their numbers may be of any size, and their escapes need not
make up characters. -/
namespace PagedList
namespace Json

open Text (isDigit)

def skipDigits (text : List Char) : Scan (List Char) :=
  match text with
  | c :: rest => if isDigit c then .ok (rest.dropWhile isDigit) else .error .malformed
  | [] => .error .malformed

def skipExponent (text : List Char) : Scan (List Char) :=
  match text with
  | c :: rest =>
    if c = 'e' ∨ c = 'E' then
      match rest with
      | '+' :: rest => skipDigits rest
      | '-' :: rest => skipDigits rest
      | rest => skipDigits rest
    else .ok text
  | [] => .ok []

def skipNumber (text : List Char) : Scan (List Char) := do
  let rest ← match text with
    | '0' :: c :: _ => if isDigit c then .error .malformed else .ok (text.drop 1)
    | _ => skipDigits text
  match rest with
  | '.' :: rest => do skipExponent (← skipDigits rest)
  | rest => skipExponent rest

def skipString : Nat → List Char → Scan (List Char)
  | 0, _ => .error .malformed
  | _ + 1, [] => .error .endedEarly
  | _ + 1, '"' :: text => .ok text
  | _ + 1, ['\\'] => .error .endedEarly
  | fuel + 1, '\\' :: 'u' :: text => do
    let (_, text) ← readHex4 text
    skipString fuel text
  | fuel + 1, '\\' :: c :: text =>
    if (shortEscape? c).isSome then skipString fuel text else .error .malformed
  | fuel + 1, c :: text =>
    if c.toNat < 32 then .error .malformed else skipString fuel text

def skipKey (text : List Char) : Scan (List Char) :=
  match text with
  | '"' :: text => do readColon (← skipString (text.length + 1) text)
  | _ => .error .malformed

mutual
def skipValue : Nat → List Char → Scan (List Char)
  | 0, _ => .error .malformed
  | fuel + 1, text =>
    match skipBlanks text with
    | [] => .error .endedEarly
    | 'n' :: text => readWord ['u', 'l', 'l'] text
    | 't' :: text => readWord ['r', 'u', 'e'] text
    | 'f' :: text => readWord ['a', 'l', 's', 'e'] text
    | '"' :: text => skipString (text.length + 1) text
    | '[' :: text => skipItems fuel true text
    | '\x7b' :: text => skipFields fuel true text
    | '-' :: text => skipNumber text
    | text => skipNumber text

def skipItems : Nat → Bool → List Char → Scan (List Char)
  | 0, _, _ => .error .malformed
  | fuel + 1, isFirst, text => do
    match ← readNext ']' isFirst text with
    | .finished rest => .ok rest
    | .item rest =>
      let rest ← skipValue fuel rest
      skipItems fuel false rest

def skipFields : Nat → Bool → List Char → Scan (List Char)
  | 0, _, _ => .error .malformed
  | fuel + 1, isFirst, text => do
    match ← readNext '\x7d' isFirst text with
    | .finished rest => .ok rest
    | .item rest =>
      let rest ← skipKey rest
      let rest ← skipValue fuel rest
      skipFields fuel false rest
end

def skipAt (text : List Char) : Scan (List Char) := skipValue (stepsFor text) text

end Json
end PagedList
