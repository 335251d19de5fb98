import PagedList.Settings.KeyPath
import PagedList.Value

/-! Settings as they are found, in tables within tables, each with the place it comes from. Later
settings are laid over earlier ones key by key. -/
namespace PagedList
namespace Settings

inductive Origin where
  | file (name : String)
  | environment
  deriving DecidableEq, Repr

def Origin.text : Origin → String
  | .file name => name
  | .environment => "the environment"

inductive Scalar where
  | null
  | bool (b : Bool)
  | number (n : Number)
  | string (s : String)
  deriving DecidableEq, Repr

inductive Tree where
  | leaf (value : Scalar) (origin : Option Origin)
  | list (items : List Tree) (origin : Option Origin)
  | table (entries : List (String × Tree)) (origin : Option Origin)
  deriving Inhabited

namespace Tree

def null : Tree := .leaf .null none

def text (s : String) (origin : Option Origin) : Tree := .leaf (.string s) origin

mutual
def ofValue (origin : Option Origin) : Value → Tree
  | .null => .leaf .null origin
  | .bool b => .leaf (.bool b) origin
  | .number n => .leaf (.number n) origin
  | .string s => .leaf (.string s) origin
  | .array items => .list (ofItems origin items) origin
  | .object fields => .table (ofFields origin fields) origin

def ofItems (origin : Option Origin) : List Value → List Tree
  | [] => []
  | v :: rest => ofValue origin v :: ofItems origin rest

def ofFields (origin : Option Origin) : List (String × Value) → List (String × Tree)
  | [] => []
  | (k, v) :: rest => (k, ofValue origin v) :: ofFields origin rest
end

def entries : Tree → List (String × Tree)
  | .table entries _ => entries
  | _ => []

def items : Tree → List Tree
  | .list items _ => items
  | _ => []

def origin? : Tree → Option Origin
  | .leaf _ origin | .list _ origin | .table _ origin => origin

/-- Where a table comes from; one that has to be made comes from nowhere. -/
def tableOrigin : Tree → Option Origin
  | .table _ origin => origin
  | _ => none

/-- Where a list comes from; one that has to be made comes from nowhere. -/
def listOrigin : Tree → Option Origin
  | .list _ origin => origin
  | _ => none

def get? (t : Tree) (key : String) : Option Tree := t.entries.lookup key

def alterEntry (key : String) (f : Tree → Tree) : List (String × Tree) → List (String × Tree)
  | [] => [(key, f null)]
  | (k, t) :: rest => if k = key then (k, f t) :: rest else (k, t) :: alterEntry key f rest

/-- Changes the item at a place, filling up with null as far as it is needed: behind the items,
or before them if the place counts from the end. -/
def alterItem (i : Int) (f : Tree → Tree) (items : List Tree) : List Tree :=
  if 0 ≤ i then
    let n := i.toNat
    let items := items ++ List.replicate (n + 1 - items.length) null
    items.modify n f
  else
    let fromEnd := (-i).toNat
    if fromEnd ≤ items.length then items.modify (items.length - fromEnd) f
    else (List.replicate (fromEnd - items.length) null ++ items).modify 0 f

/-- Changes what stands at the end of some steps. What is in the way gives place to the table or
list that the steps need. -/
def alter (f : Tree → Tree) : List Step → Tree → Tree
  | [], t => f t
  | .key k :: rest, t => .table (alterEntry k (alter f rest) t.entries) t.tableOrigin
  | .index i :: rest, t => .list (alterItem i (alter f rest) t.items) t.listOrigin

mutual
/-- Lays settings over others. Tables are joined key by key; anything else replaces what was
there. -/
def overlay : Tree → Tree → Tree
  | .table entries _, base => .table (overlayEntries entries base.entries) base.tableOrigin
  | t, _ => t

def overlayEntries : List (String × Tree) → List (String × Tree) → List (String × Tree)
  | [], base => base
  | (k, t) :: rest, base => overlayEntries rest (alterEntry k (overlay t) base)
end

def setAt (base : Tree) (path : KeyPath) (t : Tree) : Tree :=
  alter (overlay t) (.key path.root :: path.steps) base

/-- Lays the settings of a source over earlier ones; their names may be paths. -/
def layer (base : Tree) (source : List (String × Tree)) : Tree :=
  source.foldl (fun base e => base.setAt (KeyPath.ofName e.1) e.2) base

end Tree
end Settings
end PagedList
