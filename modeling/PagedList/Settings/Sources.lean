import PagedList.Files
import PagedList.Ini
import PagedList.Json.Reader
import PagedList.Json5.Standard
import PagedList.Settings.Decoded
import PagedList.Text.Utf8
import PagedList.Toml.Document
import PagedList.Yaml.Document

/-! Where settings are looked for: built in, in files of several formats, and in the environment,
later sources laid over earlier ones. -/
namespace PagedList
namespace Settings

inductive Format where
  | json5
  | json
  | yaml
  | toml
  | ini
  deriving DecidableEq, Repr

namespace Format

def all : List Format := [.json5, .json, .yaml, .toml, .ini]

def endings : Format → List String
  | .json5 => ["json5"]
  | .json => ["json"]
  | .yaml => ["yaml", "yml"]
  | .toml => ["toml"]
  | .ini => ["ini"]

def fileNames (f : Format) : List String :=
  let name := "config." ++ f.endings.headD ""
  name :: f.endings.map fun ending => name ++ "." ++ ending

end Format

mutual
/-- A value whose objects keep the last of several members with the same key. -/
def lastMembers : Value → Value
  | .array items => .array (lastMembersOfItems items)
  | .object fields => .ofFields (lastMembersOfFields fields)
  | v => v

def lastMembersOfItems : List Value → List Value
  | [] => []
  | v :: rest => lastMembers v :: lastMembersOfItems rest

def lastMembersOfFields : List (String × Value) → List (String × Value)
  | [] => []
  | (k, v) :: rest => (k, lastMembers v) :: lastMembersOfFields rest
end

def Format.parse? (f : Format) (text : String) : Option Value :=
  match f with
  | .json5 => (Json5.Standard.parse? text).map lastMembers
  | .json => (Json.parse text).toOption
  | .yaml => Yaml.parse? text
  | .toml => Toml.parse? text
  | .ini => (Ini.parse text).toOption

/-- Named settings of one source; a name may be a path. -/
abbrev Source := List (String × Tree)

def Source.ofText (file : String) (f : Format) (text : String) : Except Error Source :=
  match f.parse? text with
  | some (.object fields) => .ok (Tree.ofFields (some (.file file)) fields)
  | _ => .error (.unreadable file)

def Source.ofBytes (file : String) (f : Format) (bytes : ByteArray) : Except Error Source :=
  let text := Text.decodeLossy bytes
  Source.ofText file f (match text.toList with
    | '\uFEFF' :: rest => String.ofList rest
    | _ => text)

def firstFile? (root : FileTree) (here : List String) (folder : String) :
    List String → Option (String × ByteArray)
  | [] => none
  | name :: rest =>
    match root.read here (joinPath folder name) with
    | .ok bytes => some (name, bytes)
    | .error _ => firstFile? root here folder rest

/-- The settings in the file of a format; without such a file there are none. -/
def Source.ofFolder (root : FileTree) (here : List String) (folder : String) (f : Format) :
    Except Error Source :=
  match firstFile? root here folder f.fileNames with
  | some (name, bytes) => Source.ofBytes name f bytes
  | none => .ok []

/-- What the names of variables with settings begin with, in lower case. -/
def variableStart : String := "listkeeper_"

/-- A point for every two underscores, from left to right. -/
def pointed : List Char → List Char
  | '_' :: '_' :: rest => '.' :: pointed rest
  | c :: rest => c :: pointed rest
  | [] => []

/-- The name of the setting that a variable stands for, if it stands for one. Names of variables count
without regard to case, and two underscores lead into a table. -/
def settingName? (name : String) : Option String :=
  (variableStart.toList.isPrefixOf? (Text.lowercase name).toList).map fun rest =>
    String.ofList (pointed rest)

def Source.ofVariables (vars : List (String × String)) : Source :=
  vars.filterMap fun (name, value) =>
    (settingName? name).map fun key => (key, Tree.text value (some .environment))

def Source.builtIn (configDir dataDir : String) : Source :=
  [("_data_dir", .text dataDir none), ("_config_dir", .text configDir none),
    ("list", .table [("limit", .leaf (.number (.integer 10)) none),
      ("debounce_ms", .leaf (.number (.integer 300)) none),
      ("init_immediately", .leaf (.bool false) none)] none)]

/-- Sources laid over each other, the later ones on top. -/
def Tree.ofSources (sources : List Source) : Tree := sources.foldl Tree.layer (.table [] none)

/-- The settings from all places. The first file that cannot be read is an error, whatever comes
after it. -/
def load (root : FileTree) (here : List String) (configDir dataDir : String)
    (vars : List (String × String)) : Except Error Settings := do
  let files ← Format.all.mapM (Source.ofFolder root here configDir)
  decode (Tree.ofSources
    (Source.builtIn configDir dataDir :: files ++ [Source.ofVariables vars]))

end Settings
end PagedList
