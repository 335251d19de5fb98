/-! Folders with files in them, and what a path leads to. -/
namespace PagedList

/-- A file with its bytes, or a folder with what it holds under each name. -/
inductive FileTree where
  | file (content : ByteArray)
  | folder (entries : List (String × FileTree))
  deriving Inhabited

inductive PathError where
  | notFound
  | notFolder
  | isFolder
  | nameTooLong
  | nulInName
  | exists
  deriving DecidableEq, Repr

def PathError.message : PathError → String
  | .notFound => "No such file or directory (os error 2)"
  | .notFolder => "Not a directory (os error 20)"
  | .isFolder => "Is a directory (os error 21)"
  | .nameTooLong => "File name too long (os error 36)"
  | .nulInName => "file name contained an unexpected NUL byte"
  | .exists => "File exists (os error 17)"

/-- The path of a name in a folder; a name that begins at the top stands for itself. -/
def joinPath (folder name : String) : String :=
  if name.startsWith "/" || folder.isEmpty then name
  else if folder.endsWith "/" then folder ++ name
  else folder ++ "/" ++ name

namespace FileTree

def get? : FileTree → List String → Option FileTree
  | t, [] => some t
  | .file _, _ :: _ => none
  | .folder entries, name :: rest =>
    match entries.lookup name with
    | some t => t.get? rest
    | none => none

/-- Replaces the entry of a name, or adds one. -/
def putEntry (name : String) (t : FileTree) (entries : List (String × FileTree)) :
    List (String × FileTree) :=
  if (entries.lookup name).isSome then entries.map fun e => if e.1 == name then (name, t) else e
  else entries ++ [(name, t)]

def put (new : FileTree) : FileTree → List String → FileTree
  | _, [] => new
  | .file content, _ :: _ => .file content
  | .folder entries, name :: rest =>
    match rest, entries.lookup name with
    | [], _ => .folder (putEntry name new entries)
    | _, some t => .folder (putEntry name (put new t rest) entries)
    | _, none => .folder entries

def maxNameBytes : Nat := 255

def maxPathBytes : Nat := 4095

/-- Follows the parts of a path from the folder with this chain of names. -/
def follow (root : FileTree) : List String → List String → Except PathError (List String)
  | place, [] => .ok place
  | place, part :: rest =>
    match root.get? place with
    | some (.folder entries) =>
      if part = "" ∨ part = "." then follow root place rest
      else if part = ".." then follow root place.dropLast rest
      else if maxNameBytes < part.utf8ByteSize then .error .nameTooLong
      else if (entries.lookup part).isSome then follow root (place ++ [part]) rest
      else .error .notFound
    | _ => .error .notFolder

/-- Where a path starts: at the top, or in the folder one is in. -/
def origin (here : List String) (path : String) : List String :=
  if path.startsWith "/" then [] else here

/-- The chain of names that a path leads to, seen from the folder `here`. -/
def locate (root : FileTree) (here : List String) (path : String) :
    Except PathError (List String) :=
  if path.contains '\x00' then .error .nulInName
  else if path.isEmpty then .error .notFound
  else if maxPathBytes < path.utf8ByteSize then .error .nameTooLong
  else follow root (origin here path) ((path.toList.splitOn '/').map String.ofList)

def read (root : FileTree) (here : List String) (path : String) : Except PathError ByteArray := do
  let place ← root.locate here path
  match root.get? place with
  | some (.file content) => .ok content
  | some (.folder _) => .error .isFolder
  | none => .error .notFound

/-- Follows the parts of a path and makes the folders that are missing. -/
def makeFolders (root : FileTree) : List String → List String → Except PathError FileTree
  | place, [] =>
    match root.get? place with
    | some (.folder _) => .ok root
    | _ => .error .exists
  | place, part :: rest =>
    match root.get? place with
    | some (.folder entries) =>
      if part = "" ∨ part = "." then makeFolders root place rest
      else if part = ".." then makeFolders root place.dropLast rest
      else if maxNameBytes < part.utf8ByteSize then .error .nameTooLong
      else if (entries.lookup part).isSome then makeFolders root (place ++ [part]) rest
      else makeFolders (put (.folder []) root (place ++ [part])) (place ++ [part]) rest
    | _ => .error .notFolder

def createFolders (root : FileTree) (here : List String) (path : String) :
    Except PathError FileTree :=
  if path.contains '\x00' then .error .nulInName
  else if maxPathBytes < path.utf8ByteSize then .error .nameTooLong
  else makeFolders root (origin here path) ((path.toList.splitOn '/').map String.ofList)

/-- Writes a file whose folder is there, over a file that was there before. -/
def write (root : FileTree) (here : List String) (folder name : String) (content : ByteArray) :
    Except PathError FileTree := do
  if maxPathBytes < (joinPath folder name).utf8ByteSize then throw .nameTooLong
  let place ← if folder.isEmpty then .ok here else root.locate here folder
  match root.get? (place ++ [name]) with
  | some (.folder _) => .error .isFolder
  | _ => .ok (put (.file content) root (place ++ [name]))

end FileTree
end PagedList
