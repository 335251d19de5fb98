import PagedList.Text.Alphanumeric
import PagedList.Text.Digit

/-! Patterns for the values of fields. Only their form counts here: what stands in brackets is
closed, there is something to repeat, and every escape has a meaning. Braces never close, since
they close the field around a pattern. -/
namespace PagedList
namespace LogFilter

open Text (isHexDigit)

inductive Escape where
  /-- A character that stands for itself or is named by a letter or a code. -/
  | char (c : Char)
  /-- The beginning or the end of a value. -/
  | edge

def readCode? (n : Nat) (text : List Char) : Option (Escape × List Char) :=
  let code := Text.baseValue 16 (text.take n)
  if (text.take n).length = n ∧ (text.take n).all isHexDigit ∧ code.isValidChar then
    some (.char (Char.ofNat code), text.drop n)
  else none

/-- The escape behind a backslash. Classes of characters, such as all digits, have no letter. -/
def readEscape? : List Char → Option (Escape × List Char)
  | [] => none
  | 'x' :: rest => readCode? 2 rest
  | 'u' :: rest => readCode? 4 rest
  | 'U' :: rest => readCode? 8 rest
  | 'A' :: rest | 'z' :: rest => some (.edge, rest)
  | 'a' :: rest => some (.char '\x07', rest)
  | 'f' :: rest => some (.char '\x0c', rest)
  | 't' :: rest => some (.char '\t', rest)
  | 'n' :: rest => some (.char '\n', rest)
  | 'r' :: rest => some (.char '\r', rest)
  | 'v' :: rest => some (.char '\x0b', rest)
  | c :: rest =>
    if c.toNat < 128 ∧ !c.isAlphanum ∧ c ≠ '<' ∧ c ≠ '>' then some (.char c, rest) else none

/-! Sets of characters -/

/-- What is left of a set behind the characters that stand for themselves only at its beginning. -/
def openSet (text : List Char) : List Char :=
  let text := match text with
    | '^' :: rest => rest
    | text => text
  match text with
  | '-' :: rest => rest.dropWhile (· == '-')
  | ']' :: rest => rest
  | text => text

def readMember? : List Char → Option (Char × List Char)
  | [] => none
  | '\\' :: rest =>
    match readEscape? rest with
    | some (.char c, rest) => some (c, rest)
    | _ => none
  | c :: rest => some (c, rest)

/-- What is left behind so many sets that stand within each other. A range goes upwards. -/
def skipSets? : Nat → Nat → List Char → Option (List Char)
  | 0, _, _ => none
  | _, 0, text => some text
  | fuel + 1, depth + 1, text =>
    match text with
    | '[' :: rest => skipSets? fuel (depth + 2) (openSet rest)
    | ']' :: rest => skipSets? fuel depth rest
    | '&' :: '&' :: rest | '-' :: '-' :: rest | '~' :: '~' :: rest =>
      skipSets? fuel (depth + 1) rest
    | text => do
      let (first, rest) ← readMember? text
      match rest with
      | '-' :: c :: more =>
        if c = ']' ∨ c = '-' then skipSets? fuel (depth + 1) rest
        else
          let (last, rest) ← readMember? (c :: more)
          if first ≤ last then skipSets? fuel (depth + 1) rest else none
      | rest => skipSets? fuel (depth + 1) rest

/-! Groups -/

def isGroupName : List Char → Bool
  | [] => false
  | c :: rest =>
    (c == '_' || (Text.isAlphanumeric c && !Text.isDigit c)) && rest.all fun c =>
      c == '_' || c == '.' || c == '[' || c == ']' || Text.isAlphanumeric c

/-- Whether letters may change how a pattern is read: each once, perhaps some behind one minus
sign. Reading without regard to case is not among them. -/
def areFlags (flags : List Char) : Bool :=
  flags.all "msUuRx-".toList.contains && flags.Nodup && flags.getLast? != some '-'

inductive Group where
  | opened
  /-- No group, but a change of how the rest is read. -/
  | change

def readGroup? (text : List Char) : Option (Group × List Char) :=
  let named (text : List Char) : Option (Group × List Char) :=
    match text.dropWhile (· != '>') with
    | _ :: rest => if isGroupName (text.takeWhile (· != '>')) then some (.opened, rest) else none
    | [] => none
  match text with
  | '?' :: 'P' :: '<' :: rest | '?' :: '<' :: rest => named rest
  | '?' :: rest =>
    let flags := rest.takeWhile fun c => c != ':' && c != ')'
    match rest.drop flags.length with
    | ':' :: rest => if areFlags flags then some (.opened, rest) else none
    | ')' :: rest => if areFlags flags ∧ flags ≠ [] then some (.change, rest) else none
    | _ => none
  | rest => some (.opened, rest)

/-- Whether a pattern goes on well where so many groups are open; `repeatable` says whether
something stands before that may be repeated. -/
def goesOn : Nat → Nat → Bool → List Char → Bool
  | 0, _, _, _ => false
  | _ + 1, groups, _, [] => groups == 0
  | fuel + 1, groups, repeatable, c :: rest =>
    match c with
    | '(' =>
      match readGroup? rest with
      | some (.opened, rest) => goesOn fuel (groups + 1) false rest
      | some (.change, rest) => goesOn fuel groups false rest
      | none => false
    | ')' => 0 < groups && goesOn fuel (groups - 1) true rest
    | '|' => goesOn fuel groups false rest
    | '*' | '+' | '?' =>
      repeatable && goesOn fuel groups true (match rest with
        | '?' :: rest => rest
        | rest => rest)
    | '\x7b' => false
    | '[' =>
      match skipSets? (rest.length + 1) 1 (openSet rest) with
      | some rest => goesOn fuel groups true rest
      | none => false
    | '\\' =>
      match readEscape? rest with
      | some (_, rest) => goesOn fuel groups true rest
      | none => false
    | _ => goesOn fuel groups true rest

def isPattern (text : List Char) : Bool := goesOn (text.length + 1) 0 false text

end LogFilter
end PagedList
