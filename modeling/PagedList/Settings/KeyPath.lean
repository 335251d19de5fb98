import PagedList.Number.Integer

/-! Names of settings that lead through tables and lists, such as list.limit or hosts[0]. -/
namespace PagedList
namespace Settings

inductive Step where
  | key (name : String)
  /-- A place in a list, counted from its end if it is negative. -/
  | index (i : Int)
  deriving DecidableEq, Repr

/-- A name in the outermost table, and the steps from what it stands for. -/
structure KeyPath where
  root : String
  steps : List Step
  deriving DecidableEq, Repr

namespace KeyPath

def isNameChar (c : Char) : Bool :=
  ('a' ≤ c && c ≤ 'z') || ('A' ≤ c && c ≤ 'Z') || Text.isDigit c || c == '_' || c == '-'

def isSpace (c : Char) : Bool := c == ' ' || c == '\t'

/-- The digits of an index with the sign before them, and what follows. -/
def splitIndex (text : List Char) : List Char × List Char :=
  match text with
  | '-' :: rest => ('-' :: rest.takeWhile Text.isDigit, rest.dropWhile Text.isDigit)
  | text => (text.takeWhile Text.isDigit, text.dropWhile Text.isDigit)

def readIndex? (text : List Char) : Option (Int × List Char) :=
  let (digits, rest) := splitIndex (text.dropWhile isSpace)
  match Integer.readSigned 63 digits, rest.dropWhile isSpace with
  | .ok i, ']' :: rest => some (i, rest)
  | _, _ => none

def readSteps? : Nat → List Char → Option (List Step)
  | _, [] => some []
  | 0, _ => none
  | fuel + 1, '.' :: text =>
    match text.takeWhile isNameChar with
    | [] => none
    | name => do
      some (.key (String.ofList name) :: (← readSteps? fuel (text.dropWhile isNameChar)))
  | fuel + 1, '[' :: text => do
    let (i, rest) ← readIndex? text
    some (.index i :: (← readSteps? fuel rest))
  | _, _ => none

def read? (name : String) : Option KeyPath :=
  let text := name.toList
  match text.takeWhile isNameChar with
  | [] => none
  | root => do some ⟨String.ofList root, ← readSteps? text.length (text.dropWhile isNameChar)⟩

/-- The path that a name spells; a name that spells none stands for itself. -/
def ofName (name : String) : KeyPath := (read? name).getD ⟨name, []⟩

end KeyPath
end Settings
end PagedList
