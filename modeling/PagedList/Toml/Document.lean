import PagedList.Toml.Scalar

/-! Tables of TOML text: how headers and keys open them, what may not be defined twice, and the
value of a whole document. -/
namespace PagedList
namespace Toml

inductive Opening where
  /-- On the way to another table. -/
  | passed
  /-- By a header of its own. -/
  | header
  /-- By a key with points in it. -/
  | dotted
  deriving DecidableEq, Repr

inductive Item where
  | value (v : Value)
  | table (opening : Opening) (entries : List (String × Item))
  /-- Tables under headers in double brackets, the latest first. -/
  | tables (items : List (List (String × Item)))
  deriving Inhabited

abbrev Entries := List (String × Item)

mutual
def Item.toValue : Item → Value
  | .value v => v
  | .table _ entries => .ofFields (entryValues entries)
  | .tables items => .array (tableValues items).reverse

def entryValues : List (String × Item) → List (String × Value)
  | [] => []
  | (k, item) :: rest => (k, item.toValue) :: entryValues rest

def tableValues : List (List (String × Item)) → List Value
  | [] => []
  | entries :: rest => .ofFields (entryValues entries) :: tableValues rest
end

namespace Entries

def change (f : Option Item → Option Item) (key : String) : Entries → Option Entries
  | [] => (f none).map fun item => [(key, item)]
  | (k, item) :: rest =>
    if k = key then (f (some item)).map fun item => (k, item) :: rest
    else (change f key rest).map ((k, item) :: ·)

/-- Changes the entries that the first parts of a header lead to. Of tables under headers in
double brackets it is the latest. -/
def descend (f : Entries → Option Entries) : List String → Entries → Option Entries
  | [], entries => f entries
  | k :: path, entries => entries.change (fun
    | none => (descend f path []).map (.table .passed)
    | some (.table opening sub) => (descend f path sub).map (.table opening)
    | some (.tables (latest :: others)) =>
      (descend f path latest).map fun latest => .tables (latest :: others)
    | some _ => none) k

def openTable (key : String) (entries : Entries) : Option Entries :=
  entries.change (fun
    | none => some (.table .header [])
    | some (.table .passed sub) => some (.table .header sub)
    | some _ => none) key

/-- Opens one more table under a header in double brackets. -/
def pushTable (key : String) (entries : Entries) : Option Entries :=
  entries.change (fun
    | none => some (.tables [[]])
    | some (.tables items) => some (.tables ([] :: items))
    | some _ => none) key

/-- Gives a value to a key. Its points lead through tables that have no header, and it must end
in one that other keys with points have made. -/
def assign (v : Value) (here : Opening) : List String → Entries → Option Entries
  | [], _ => none
  | [k], entries =>
    if here = .passed then none
    else entries.change (fun
      | none => some (.value v)
      | some _ => none) k
  | k :: path, entries => entries.change (fun
    | none => (assign v .dotted path []).map (.table .dotted)
    | some (.table .header _) => none
    | some (.table opening sub) => (assign v opening path sub).map (.table opening)
    | some _ => none) k

end Entries

/-! Values -/

def maxDepth : Nat := 80

mutual
def readValue? : Nat → Nat → List Char → Option (Value × List Char)
  | 0, _, _ => none
  | fuel + 1, depth, text =>
    match text, depth with
    | '"' :: _, _ | '\'' :: _, _ =>
      (readString? text).map fun (s, rest) => (.string (String.ofList s), rest)
    | '[' :: rest, depth + 1 =>
      (readItems? fuel depth rest).map fun (items, rest) => (.array items, rest)
    | '\x7b' :: rest, depth + 1 => (readMembers? fuel depth [] rest).map fun (entries, rest) =>
      (.ofFields (entryValues entries), rest)
    | _, _ => readWord? text

/-- The items of an array up to its closing bracket; the last may have a comma behind it. -/
def readItems? : Nat → Nat → List Char → Option (List Value × List Char)
  | 0, _, _ => none
  | fuel + 1, depth, text =>
    match skipLines text.length text with
    | ']' :: rest => some ([], rest)
    | text => do
      let (v, rest) ← readValue? fuel depth text
      match skipLines rest.length rest with
      | ',' :: rest => do
        let (vs, rest) ← readItems? fuel depth rest
        some (v :: vs, rest)
      | ']' :: rest => some ([v], rest)
      | _ => none

/-- The members of a table in braces; the last may have a comma behind it. Lines may end anywhere
but within a key. -/
def readMembers? : Nat → Nat → Entries → List Char → Option (Entries × List Char)
  | 0, _, _, _ => none
  | fuel + 1, depth, entries, text =>
    match skipLines text.length text with
    | '\x7d' :: rest => some (entries, rest)
    | text => do
      let (key, rest) ← readKey? (text.length + 1) text
      let rest ← readChar? (· == '=') (skipLines rest.length rest)
      let (v, rest) ← readValue? fuel depth (skipLines rest.length rest)
      let entries ← entries.assign v .header key
      match skipLines rest.length rest with
      | ',' :: rest => readMembers? fuel depth entries rest
      | '\x7d' :: rest => some (entries, rest)
      | _ => none
end

/-! Documents -/

def readPair? (header : List String) (root : Entries) (text : List Char) :
    Option (Entries × List Char) := do
  let (key, rest) ← readKey? (text.length + 1) text
  let rest := skipSpaces (← readChar? (· == '=') rest)
  let (v, rest) ← readValue? (2 * rest.length + 2) maxDepth rest
  some (← root.descend (Entries.assign v .header key) header, rest)

/-- A header behind its opening bracket; `opening` says what it does to its last part. -/
def readHeader? (opening : String → Entries → Option Entries) (root : Entries)
    (text : List Char) : Option (List String × Entries × List Char) := do
  let (key, rest) ← readKey? (text.length + 1) text
  let rest ← readChar? (· == ']') rest
  let root ← root.descend (opening (key.getLastD "")) key.dropLast
  some (key, root, rest)

/-- Reads lines into the table with the latest header. -/
def readLinesInto? : Nat → List String → Entries → List Char → Option Entries
  | 0, _, _, _ => none
  | fuel + 1, header, root, text =>
    match skipLines text.length (skipSpaces text) with
    | [] => some root
    | '[' :: '[' :: rest => do
      let (header, root, rest) ← readHeader? Entries.pushTable root rest
      let rest ← readChar? (· == ']') rest
      readLinesInto? fuel header root (← finishLine? rest)
    | '[' :: rest => do
      let (header, root, rest) ← readHeader? Entries.openTable root rest
      readLinesInto? fuel header root (← finishLine? rest)
    | text => do
      let (root, rest) ← readPair? header root text
      readLinesInto? fuel header root (← finishLine? rest)

/-- The value of a document, if it is one. A byte order mark may stand before it. -/
def parse? (text : String) : Option Value := do
  let text := match text.toList with
    | '\uFEFF' :: rest => rest
    | text => text
  let entries ← readLinesInto? (text.length + 1) [] [] text
  some (.ofFields (entryValues entries))

end Toml
end PagedList
