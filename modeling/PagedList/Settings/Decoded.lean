import PagedList.ListSettings
import PagedList.Settings.Tree
import PagedList.Text.Lowercase

/-! What settings mean. Numbers, truth values and texts are turned into each other where one of
them is asked for. -/
namespace PagedList

structure Settings where
  list : ListSettings
  /-- The file with the records, if none is given on the command line. -/
  fixture : Option String
  dataDir : String
  configDir : String

namespace Settings

inductive Found where
  | scalar (s : Scalar)
  | list
  | table
  /-- A count below zero. -/
  | negative (n : Int)
  deriving Repr

inductive Wanted where
  | integer
  | count
  | flag
  | text
  deriving DecidableEq, Repr

inductive Error where
  /-- A file that breaks its format, or holds no table. -/
  | unreadable (file : String)
  /-- A setting that does not turn into what it should be. -/
  | wrongType (found : Found) (wanted : Wanted) (key : String) (origin : Option Origin)
  /-- Something that is no table and no list stands for the settings of the list. -/
  | noList (found : Found)
  /-- Something that is no text stands for the path of a folder. -/
  | noPath (found : Found)
  | zeroLimit
  deriving Repr

def Scalar.describe : Scalar → String
  | .null => "unit value"
  | .bool b => "boolean \x60" ++ (if b then "true" else "false") ++ "\x60"
  | .number (.integer n) => "integer \x60" ++ toString n ++ "\x60"
  | .number (.float x) => "floating point \x60" ++ Decimal.message.write x ++ "\x60"
  | .string s => "string " ++ Text.quoted s

def Found.words : Found → String
  | .scalar s => s.describe
  | .list => "sequence"
  | .table => "map"
  | .negative n => "64-bit integer \x60" ++ toString n ++ "\x60"

def Wanted.words : Wanted → String
  | .integer => "an integer"
  | .count => "an unsigned 64 bit or less integer"
  | .flag => "a boolean"
  | .text => "a string"

def Error.message : Error → String
  | .unreadable file => file
  | .wrongType found wanted key origin =>
    "invalid type: " ++ found.words ++ ", expected " ++ wanted.words ++
      " for key \x60" ++ key ++ "\x60" ++
      (match origin with
        | some o => " in " ++ o.text
        | none => "")
  | .noList found =>
    "invalid type: " ++ found.words ++ ", expected struct ListConfig for key \x60list\x60"
  | .noPath found => "invalid type: " ++ found.words ++ ", expected path string"
  | .zeroLimit => "list.limit must be greater than zero"

def Tree.found : Tree → Found
  | .leaf s _ => .scalar s
  | .list .. => .list
  | .table .. => .table

def Tree.refuse {α : Type} (t : Tree) (wanted : Wanted) (key : String) : Except Error α :=
  .error (.wrongType t.found wanted key t.origin?)

/-- The nearest count to a float: a half goes up, and what is out of range to its nearest end. -/
def countOfFloat : Binary64 → Nat
  | .nan => 0
  | .infinity negative => if negative then 0 else Integer.maxCount
  | .finite negative m e => min (Binary64.roundHalfAway negative m e).toNat Integer.maxCount

/-- Words for yes and no, in lower case. -/
def truthWord? (s : String) : Option Bool :=
  if s = "true" ∨ s = "on" ∨ s = "yes" then some true
  else if s = "false" ∨ s = "off" ∨ s = "no" then some false
  else none

def Tree.count (key : String) (t : Tree) : Except Error Nat :=
  match t with
  | .leaf (.bool b) _ => .ok (if b then 1 else 0)
  | .leaf (.number (.integer n)) origin =>
    if n < 0 then
      .error (.wrongType (.negative n) .count key origin)
    else .ok n.toNat
  | .leaf (.number (.float x)) _ => .ok (countOfFloat x)
  | .leaf (.string s) _ =>
    match truthWord? (Text.lowercase s), Integer.readCount Integer.maxCount s.toList with
    | some b, _ => .ok (if b then 1 else 0)
    | none, .ok n => .ok n
    | none, .error _ => t.refuse .integer key
  | _ => t.refuse .integer key

/-- A truth value under a key. Text that is none is shown in lower case. -/
def Tree.flag (key : String) (t : Tree) : Except Error Bool :=
  match t with
  | .leaf (.bool b) _ => .ok b
  | .leaf (.number n) _ => .ok (!n.isZero)
  | .leaf (.string s) origin =>
    let s := Text.lowercase s
    match truthWord? s with
    | some b => .ok b
    | none =>
      if s = "1" then .ok true
      else if s = "0" then .ok false
      else (Tree.text s origin).refuse .flag key
  | _ => t.refuse .flag key

/-- A text under a key; null stands for none. -/
def Tree.text? (key : String) (t : Tree) : Except Error (Option String) :=
  match t with
  | .leaf .null _ => .ok none
  | .leaf (.bool b) _ => .ok (some (if b then "true" else "false"))
  | .leaf (.number (.integer n)) _ => .ok (some (toString n))
  | .leaf (.number (.float x)) _ => .ok (some (Decimal.plain.write x))
  | .leaf (.string s) _ => .ok (some s)
  | _ => t.refuse .text key

/-- The settings of the list, as a table or as a list of values in order. What is not given keeps
its standard, and more than that is passed over. -/
def Tree.listSettings (t : Tree) : Except Error ListSettings := do
  let given (limit debounceMs init : Option Tree) (name : Nat → String) :
      Except Error ListSettings := do
    let limit ← limit.mapM (Tree.count (name 0))
    let debounceMs ← debounceMs.mapM (Tree.count (name 1))
    let init ← init.mapM (Tree.flag (name 2))
    .ok {
      limit := limit.getD ListSettings.standard.limit
      debounceMs := debounceMs.getD ListSettings.standard.debounceMs
      initImmediately := init.getD ListSettings.standard.initImmediately }
  match t with
  | .table .. =>
    given (t.get? "limit") (t.get? "debounce_ms") (t.get? "init_immediately") fun
      | 0 => "list.limit"
      | 1 => "list.debounce_ms"
      | _ => "list.init_immediately"
  | .list items _ =>
    given items[0]? items[1]? items[2]? fun i => "list[" ++ toString i ++ "]"
  | _ => .error (.noList t.found)

def Tree.path (t : Tree) : Except Error String :=
  match t with
  | .leaf (.string s) _ => .ok s
  | _ => .error (.noPath t.found)

/-- The settings of a whole tree. The page size must not be zero. -/
def decode (t : Tree) : Except Error Settings := do
  let fixture ← (t.get? "fixture").mapM (Tree.text? "fixture")
  let list ← (t.get? "list").mapM Tree.listSettings
  let list := list.getD ListSettings.standard
  let configDir ← (t.get? "_config_dir").mapM Tree.path
  let dataDir ← (t.get? "_data_dir").mapM Tree.path
  if list.limit = 0 then .error .zeroLimit
  else .ok {
    list
    fixture := fixture.join
    dataDir := dataDir.getD ""
    configDir := configDir.getD "" }

end Settings
end PagedList
