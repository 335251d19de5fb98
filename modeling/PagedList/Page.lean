import PagedList.FilterSet
import PagedList.Record

/-! What is asked of a loader and what it answers. -/
namespace PagedList

def defaultLimit : Nat := 10

/-- How many entities to pass over, how many to load, and the filters to apply. -/
structure PageParams (F : Type) where
  skip : Nat
  limit : Nat
  filters : F
  deriving DecidableEq, Repr

namespace PageParams

/-- The cursor, and then the filters side by side with it, as they are written. -/
def members (p : PageParams FilterSet) : List (String × Value) :=
  ("skip", .nat p.skip) :: ("limit", .nat p.limit) :: p.filters.entries.entries

def document (p : PageParams FilterSet) : Value := .object p.members

/-- The value of the parameters, in which a filter named like the cursor wins over it. -/
def toValue (p : PageParams FilterSet) : Value := Value.ofFields p.members

def decode : Value → Except DecodeError (PageParams FilterSet)
  | .object fields => do
    let limit ← (KeyMap.lookup "limit" fields).mapM (Value.decodeCount .size)
    let skip ← (KeyMap.lookup "skip" fields).mapM (Value.decodeCount .size)
    match skip, limit with
    | none, _ => .error (.missingField "skip")
    | some _, none => .error (.missingField "limit")
    | some skip, some limit =>
      .ok ⟨skip, limit, ⟨((KeyMap.ofList fields).erase "skip").erase "limit"⟩⟩
  | v => .error (.wrongType v.found .params)

end PageParams

structure Page (ε : Type) where
  items : List ε
  total : Nat
  deriving DecidableEq, Repr

namespace Page

def toValue (p : Page Record) : Value :=
  .object [("items", .array (p.items.map Record.document)), ("total", .nat p.total)]

def decodeItems {ε : Type} (item : Value → Except DecodeError ε) :
    Value → Except DecodeError (List ε) :=
  Value.decodeList item

/-- The items may be called data; fields stand in key order, so that name comes first. -/
def decodeFields {ε : Type} (item : Value → Except DecodeError ε)
    (fields : List (String × Value)) : Except DecodeError (Page ε) := do
  let data ← (KeyMap.lookup "data" fields).mapM (decodeItems item)
  let items ← match data, KeyMap.lookup "items" fields with
    | some _, some _ => .error (.duplicateField "items")
    | some items, none => .ok (some items)
    | none, v => v.mapM (decodeItems item)
  let total ← (KeyMap.lookup "total" fields).mapM (Value.decodeCount .size)
  match items, total with
  | none, _ => .error (.missingField "items")
  | some _, none => .error (.missingField "total")
  | some items, some total => .ok ⟨items, total⟩

/-- A page may also be given as the list of its two fields. -/
def decodeSequence {ε : Type} (item : Value → Except DecodeError ε) :
    List Value → Except DecodeError (Page ε)
  | [] => .error (.wrongLength 0 .pageFields)
  | items :: rest => do
    let items ← decodeItems item items
    match rest with
    | [] => .error (.wrongLength 1 .pageFields)
    | total :: rest =>
      let total ← total.decodeCount .size
      if rest.isEmpty then .ok ⟨items, total⟩
      else .error (.wrongLength (rest.length + 2) .fewerItems)

def decode {ε : Type} (item : Value → Except DecodeError ε) :
    Value → Except DecodeError (Page ε)
  | .object fields => decodeFields item fields
  | .array values => decodeSequence item values
  | v => .error (.wrongType v.found .page)

end Page
end PagedList
