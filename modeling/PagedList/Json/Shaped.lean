import PagedList.Json.Skipping
import PagedList.ListSettings

/-! Reading JSON text that has to be of a certain shape. The first fault met from left to right
counts, whether the text is broken there or only of another shape. -/
namespace PagedList
namespace Json

/-- The fault of finding this text where something else was asked for: a bracket shows the wrong
shape at once, and any other value once it has been read. -/
def mismatch {α : Type} (depth : Nat) (text : List Char) : Scan α :=
  match skipBlanks text with
  | '[' :: _ | '\x7b' :: _ => .error .wrongShape
  | text =>
    match readAt depth text with
    | .error f => .error f
    | .ok _ => .error .wrongShape

def readDecoded {α : Type} (decode : Value → Except DecodeError α) (depth : Nat)
    (text : List Char) : Scan (α × List Char) := do
  let (v, rest) ← readAt depth text
  match decode v with
  | .ok a => .ok (a, rest)
  | .error _ => .error .wrongShape

/-- A number or boolean that has to decode; brackets are not looked into. -/
def readScalar {α : Type} (decode : Value → Except DecodeError α) (depth : Nat)
    (text : List Char) : Scan (α × List Char) :=
  match skipBlanks text with
  | '[' :: _ | '\x7b' :: _ => .error .wrongShape
  | text => readDecoded decode depth text

/-- Goes through the members of an object, from its first one on. -/
def foldMembers {σ : Type} (step : σ → String → List Char → Scan (σ × List Char)) :
    Nat → Bool → σ → List Char → Scan (σ × List Char)
  | 0, _, _, _ => .error .malformed
  | fuel + 1, isFirst, state, text => do
    match ← readNext '\x7d' isFirst text with
    | .finished rest => .ok (state, rest)
    | .item ('"' :: rest) =>
      let (key, rest) ← readString rest
      let (state, rest) ← step state key rest
      foldMembers step fuel false state rest
    | .item _ => .error .malformed

/-- An object whose members are taken in by `step`, which stands before the colon. -/
def readObject {σ : Type} (step : Nat → σ → String → List Char → Scan (σ × List Char))
    (start : σ) (depth : Nat) (text : List Char) : Scan (σ × List Char) :=
  match skipBlanks text with
  | '\x7b' :: rest =>
    if depth ≤ 1 then .error .malformed
    else foldMembers (step (depth - 1)) (stepsFor rest) true start rest
  | text => mismatch depth text

/-- A member whose value is read by `read`, unless there was such a member before. -/
def readOnce {α : Type} (read : List Char → Scan (α × List Char)) (old : Option α)
    (text : List Char) : Scan (Option α × List Char) :=
  match old with
  | some _ => .error .wrongShape
  | none => do
    let (a, rest) ← read (← readColon text)
    .ok (some a, rest)

def readMember (depth : Nat) (text : List Char) : Scan (Value × List Char) := do
  readAt depth (← readColon text)

def skipMember (text : List Char) : Scan (List Char) := do skipAt (← readColon text)

structure RecordDraft where
  id : Option EntityId
  fields : List (String × Value)

def readRecord (depth : Nat) (text : List Char) : Scan (Record × List Char) := do
  let step (depth : Nat) (draft : RecordDraft) (key : String) (text : List Char) :
      Scan (RecordDraft × List Char) := do
    if key = "id" then
      let (id, rest) ← readOnce (readDecoded EntityId.decode depth) draft.id text
      .ok ({ draft with id := id }, rest)
    else
      let (v, rest) ← readMember depth text
      .ok ({ draft with fields := draft.fields ++ [(key, v)] }, rest)
  let (draft, rest) ← readObject step ⟨none, []⟩ depth text
  match draft.id with
  | none => .error .wrongShape
  | some id => .ok (⟨id, KeyMap.ofList draft.fields⟩, rest)

structure ParamsDraft where
  skip : Option Nat
  limit : Option Nat
  filters : List (String × Value)

def readParams (depth : Nat) (text : List Char) : Scan (PageParams FilterSet × List Char) := do
  let count := readScalar (Value.decodeCount .size)
  let step (depth : Nat) (draft : ParamsDraft) (key : String) (text : List Char) :
      Scan (ParamsDraft × List Char) := do
    if key = "skip" then
      let (n, rest) ← readOnce (count depth) draft.skip text
      .ok ({ draft with skip := n }, rest)
    else if key = "limit" then
      let (n, rest) ← readOnce (count depth) draft.limit text
      .ok ({ draft with limit := n }, rest)
    else
      let (v, rest) ← readMember depth text
      .ok ({ draft with filters := draft.filters ++ [(key, v)] }, rest)
  let (draft, rest) ← readObject step ⟨none, none, []⟩ depth text
  match draft.skip, draft.limit with
  | some skip, some limit => .ok (⟨skip, limit, ⟨KeyMap.ofList draft.filters⟩⟩, rest)
  | _, _ => .error .wrongShape

def readFilters (depth : Nat) (text : List Char) : Scan (FilterSet × List Char) := do
  let step (depth : Nat) (fields : List (String × Value)) (key : String) (text : List Char) :
      Scan (List (String × Value) × List Char) := do
    let (v, rest) ← readMember depth text
    .ok (fields ++ [(key, v)], rest)
  let (fields, rest) ← readObject step [] depth text
  .ok (⟨KeyMap.ofList fields⟩, rest)

def readRecords (depth : Nat) : Nat → Bool → List Char → Scan (List Record × List Char)
  | 0, _, _ => .error .malformed
  | fuel + 1, isFirst, text => do
    match ← readNext ']' isFirst text with
    | .finished rest => .ok ([], rest)
    | .item rest =>
      let (r, rest) ← readRecord depth rest
      let (rs, rest) ← readRecords depth fuel false rest
      .ok (r :: rs, rest)

def readRecordList (depth : Nat) (text : List Char) : Scan (List Record × List Char) :=
  match skipBlanks text with
  | '[' :: rest =>
    if depth ≤ 1 then .error .malformed else readRecords (depth - 1) (stepsFor rest) true rest
  | text => mismatch depth text

def readEntry {α : Type} (read : List Char → Scan (α × List Char)) (isFirst : Bool)
    (text : List Char) : Scan (Option α × List Char) := do
  match ← readNext ']' isFirst text with
  | .finished _ => .ok (none, text)
  | .item rest =>
    let (a, rest) ← read rest
    .ok (some a, rest)

def readListEnd (text : List Char) : Scan (List Char) :=
  match skipBlanks text with
  | ']' :: rest => .ok rest
  | text => .error (unexpected text)

structure PageDraft where
  items : Option (List Record)
  total : Option Nat

def pageOf (draft : PageDraft) : Scan (Page Record) :=
  match draft.items, draft.total with
  | some items, some total => .ok ⟨items, total⟩
  | _, _ => .error .wrongShape

def readPage (depth : Nat) (text : List Char) : Scan (Page Record × List Char) := do
  let count := readScalar (Value.decodeCount .size)
  match skipBlanks text with
  | '[' :: rest =>
    if depth ≤ 1 then .error .malformed
    else
      let (items, rest) ← readEntry (readRecordList (depth - 1)) true rest
      if items.isNone then .error .wrongShape
      else
        let (total, rest) ← readEntry (count (depth - 1)) false rest
        let page ← pageOf ⟨items, total⟩
        .ok (page, ← readListEnd rest)
  | text =>
    let step (depth : Nat) (draft : PageDraft) (key : String) (text : List Char) :
        Scan (PageDraft × List Char) := do
      if key = "items" ∨ key = "data" then
        let (items, rest) ← readOnce (readRecordList depth) draft.items text
        .ok ({ draft with items := items }, rest)
      else if key = "total" then
        let (total, rest) ← readOnce (count depth) draft.total text
        .ok ({ draft with total := total }, rest)
      else .ok (draft, ← skipMember text)
    let (draft, rest) ← readObject step ⟨none, none⟩ depth text
    .ok (← pageOf draft, rest)

structure SettingsDraft where
  limit : Option Nat
  debounceMs : Option Nat
  initImmediately : Option Bool

def settingsOf (draft : SettingsDraft) : ListSettings where
  limit := draft.limit.getD ListSettings.standard.limit
  debounceMs := draft.debounceMs.getD ListSettings.standard.debounceMs
  initImmediately := draft.initImmediately.getD ListSettings.standard.initImmediately

def readSettings (depth : Nat) (text : List Char) : Scan (ListSettings × List Char) := do
  let limit := readScalar (Value.decodeCount .size)
  let debounce := readScalar (Value.decodeCount .milliseconds)
  let init := readScalar Value.decodeBool
  match skipBlanks text with
  | '[' :: rest =>
    if depth ≤ 1 then .error .malformed
    else
      let (a, rest) ← readEntry (limit (depth - 1)) true rest
      let (b, rest) ←
        if a.isNone then .ok (none, rest) else readEntry (debounce (depth - 1)) false rest
      let (c, rest) ←
        if b.isNone then .ok (none, rest) else readEntry (init (depth - 1)) false rest
      .ok (settingsOf ⟨a, b, c⟩, ← readListEnd rest)
  | text =>
    let step (depth : Nat) (draft : SettingsDraft) (key : String) (text : List Char) :
        Scan (SettingsDraft × List Char) := do
      if key = "limit" then
        let (n, rest) ← readOnce (limit depth) draft.limit text
        .ok ({ draft with limit := n }, rest)
      else if key = "debounce_ms" then
        let (n, rest) ← readOnce (debounce depth) draft.debounceMs text
        .ok ({ draft with debounceMs := n }, rest)
      else if key = "init_immediately" then
        let (b, rest) ← readOnce (init depth) draft.initImmediately text
        .ok ({ draft with initImmediately := b }, rest)
      else .ok (draft, ← skipMember text)
    let (draft, rest) ← readObject step ⟨none, none, none⟩ depth text
    .ok (settingsOf draft, rest)

def parseShaped {α : Type} (read : Nat → List Char → Scan (α × List Char)) (text : String) :
    Scan α :=
  finish (read depthLimit text.toList)

end Json
end PagedList
