import PagedList.Files
import PagedList.Json5.Report
import PagedList.Loader

/-! Records that are given in a file, and the files they are in. -/
namespace PagedList

namespace Value

mutual
/-- The value that a record keeps: objects in key order, and null for what is no finite number. -/
def normalize : Value → Value
  | .number (.float x) => if x.isFinite then .number (.float x) else .null
  | .array items => .array (normalizeItems items)
  | .object fields => ofFields (normalizeFields fields)
  | v => v

def normalizeItems : List Value → List Value
  | [] => []
  | v :: rest => v.normalize :: normalizeItems rest

def normalizeFields : List (String × Value) → List (String × Value)
  | [] => []
  | (k, v) :: rest => (k, v.normalize) :: normalizeFields rest
end

end Value

namespace Fixture

/-- The only value under a key, if the key occurs exactly once. -/
def only? (key : String) (members : List (String × Value)) : Option Value :=
  match members.filter (·.1 == key) with
  | [(_, v)] => some v
  | _ => none

/-- A record from an object that gives its identifier once. -/
def record? : Value → Option Record
  | .object members => do
    let id ← (EntityId.decode (← only? "id" members)).toOption
    let fields := members.filter (·.1 != "id")
    some ⟨id, KeyMap.ofList (Value.normalizeFields fields)⟩
  | _ => none

def records? : Value → Option (List Record)
  | .array items => items.mapM record?
  | .object members =>
    match only? "data" members with
    | some (.array items) => items.mapM record?
    | _ => none
  | _ => none

inductive Error where
  | text (error : Json5.Error)
  /-- Neither a list of records nor an object with such a list as its data. -/
  | shape

def Error.message : Error → String
  | .text e => e.message
  | .shape => "data did not match any variant of untagged enum FixtureFile"

def parse (text : String) : Except Error (List Record) :=
  match Json5.parse text with
  | .error e => .error (.text e)
  | .ok v =>
    match records? v with
    | some records => .ok records
    | none => .error .shape

inductive FileError where
  | unreadable (path : String) (cause : PathError)
  /-- Its bytes are no text. -/
  | notText (path : String)
  | invalid (path : String) (cause : Error)

def FileError.chain : FileError → List String
  | .unreadable path cause => ["failed to read fixture " ++ path, cause.message]
  | .notText path => ["failed to read fixture " ++ path, "stream did not contain valid UTF-8"]
  | .invalid path cause => ["invalid fixture " ++ path, cause.message]

def load (root : FileTree) (here : List String) (path : String) :
    Except FileError (List Record) :=
  match root.read here path with
  | .error e => .error (.unreadable path e)
  | .ok content =>
    match String.fromUTF8? content with
    | none => .error (.notText path)
    | some text => (parse text).mapError (.invalid path)

end Fixture
end PagedList
