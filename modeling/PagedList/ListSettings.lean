import PagedList.Page

/-! The settings of one list. -/
namespace PagedList

structure ListSettings where
  /-- The page size. -/
  limit : Nat
  /-- How many milliseconds a debounced change of filters waits. -/
  debounceMs : Nat
  /-- Whether the first page is asked for at once. -/
  initImmediately : Bool
  deriving DecidableEq, Repr

namespace ListSettings

def standard : ListSettings where
  limit := defaultLimit
  debounceMs := 300
  initImmediately := false

def debounceParts (s : ListSettings) : Nat × Nat := (s.debounceMs / 1000, s.debounceMs % 1000)

/-- Fields in key order; a missing one keeps the standard, and others are passed over. -/
def decodeFields (fields : List (String × Value)) : Except DecodeError ListSettings := do
  let debounce ← (KeyMap.lookup "debounce_ms" fields).mapM (Value.decodeCount .milliseconds)
  let init ← (KeyMap.lookup "init_immediately" fields).mapM Value.decodeBool
  let limit ← (KeyMap.lookup "limit" fields).mapM (Value.decodeCount .size)
  .ok {
    limit := limit.getD standard.limit
    debounceMs := debounce.getD standard.debounceMs
    initImmediately := init.getD standard.initImmediately }

/-- Settings given as the list of their fields, of which the last may be missing. -/
def decodeSequence (values : List Value) : Except DecodeError ListSettings := do
  let limit ← (values[0]?).mapM (Value.decodeCount .size)
  let debounce ← (values[1]?).mapM (Value.decodeCount .milliseconds)
  let init ← (values[2]?).mapM Value.decodeBool
  if 3 < values.length then .error (.wrongLength values.length .fewerItems)
  else .ok {
    limit := limit.getD standard.limit
    debounceMs := debounce.getD standard.debounceMs
    initImmediately := init.getD standard.initImmediately }

def decode : Value → Except DecodeError ListSettings
  | .object fields => decodeFields fields
  | .array values => decodeSequence values
  | v => .error (.wrongType v.found .listSettings)

end ListSettings
end PagedList
