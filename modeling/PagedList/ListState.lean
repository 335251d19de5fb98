import PagedList.EntitySet
import PagedList.Error
import PagedList.Pagination

/-! The state of a list that is loaded page by page.
`update` is the only way on; what has to be done in the world comes back as a command. Every
reset begins a new generation, and the answer to a load counts only in the generation that
asked for it. -/
namespace PagedList

/-- A mark for the time between two resets. -/
structure Generation where
  number : UInt64
  deriving DecidableEq, Repr

namespace Generation

def first : Generation := ⟨0⟩

def next (g : Generation) : Generation := ⟨g.number + 1⟩

def text (g : Generation) : String := "#" ++ toString g.number.toNat

end Generation

/-- What can happen to a list. -/
inductive Message (ε F : Type) where
  /-- Load from the first page, perhaps with other filters. -/
  | initRequested (filters : Option F)
  | paginateRequested
  | filtersChanged (filters : F)
  | filtersCleared
  /-- The filters shall change once no other such change comes for a while. -/
  | filtersDebounced (filters : F)
  /-- The waiting time of the change with this ticket is over. -/
  | debounceElapsed (ticket : Nat)
  | entityEdited (entity : ε)
  | pageLoaded (generation : Generation) (kind : LoadKind) (result : Except LoadError (Page ε))
  | tornDown

def Message.name {ε F : Type} : Message ε F → String
  | .initRequested _ => "InitRequested"
  | .paginateRequested => "PaginateRequested"
  | .filtersChanged _ => "FiltersChanged"
  | .filtersCleared => "FiltersCleared"
  | .filtersDebounced _ => "FiltersDebounced"
  | .debounceElapsed _ => "DebounceElapsed"
  | .entityEdited _ => "EntityEdited"
  | .pageLoaded .. => "PageLoaded"
  | .tornDown => "TornDown"

/-- What is to be done after an update. -/
inductive Command (F : Type) where
  /-- Load a page; the answer belongs to this generation and kind. -/
  | loadPage (generation : Generation) (kind : LoadKind) (params : PageParams F)
  /-- Report this ticket after the waiting time. -/
  | scheduleDebounce (ticket : Nat)
  /-- Give up every load and every waiting time. -/
  | cancelAll
  | none
  deriving DecidableEq, Repr

namespace Command

def isNone {F : Type} : Command F → Bool
  | .none => true
  | _ => false

def name {F : Type} : Command F → String
  | .loadPage _ .initial _ => "LoadFirstPage"
  | .loadPage _ .more _ => "LoadNextPage"
  | .scheduleDebounce _ => "ScheduleDebounce"
  | .cancelAll => "CancelAll"
  | .none => "None"

end Command

structure Snapshot (ε : Type) where
  list : List ε
  total : Option Nat
  isInitialLoading : Bool
  isPaginating : Bool
  hasMore : Bool
  /-- A load has told that there is nothing, or the first page failed. -/
  hasNoData : Bool
  /-- The error of the latest load, until a load succeeds or the list is reset. -/
  lastError : Option LoadError

def Snapshot.blank {ε : Type} : Snapshot ε where
  list := []
  total := none
  isInitialLoading := false
  isPaginating := false
  hasMore := true
  hasNoData := false
  lastError := none

structure ListState (ε F : Type) [Entity ε] where
  entities : EntitySet ε
  pagination : Pagination
  filters : F
  generation : Generation
  /-- Filters that wait for their ticket. -/
  pending : Option (Nat × F)
  /-- How many changes have waited. It counts without a bound and stands for a counter of 64 bits, as
  long as fewer than `2 ^ 64` changes wait one after the other. -/
  lastTicket : Nat
  lastError : Option LoadError
  /-- Changes whenever the snapshot does. -/
  revision : UInt64

namespace ListState

variable {ε F : Type} [Entity ε]

def withFilters (limit : Nat) (filters : F) : ListState ε F where
  entities := ∅
  pagination := Pagination.new limit
  filters := filters
  generation := Generation.first
  pending := none
  lastTicket := 0
  lastError := none
  revision := 0

def new [EmptyCollection F] (limit : Nat) : ListState ε F := withFilters limit ∅

def list (s : ListState ε F) : List ε := s.entities.toList

def total (s : ListState ε F) : Option Nat := s.pagination.total

def skip (s : ListState ε F) : Nat := s.pagination.skip

def limit (s : ListState ε F) : Nat := s.pagination.limit

def hasMore (s : ListState ε F) : Bool := s.pagination.hasMore

def isInitialLoading (s : ListState ε F) : Bool := s.pagination.isInitialLoading

def isPaginating (s : ListState ε F) : Bool := s.pagination.isPaginating

def isLoading (s : ListState ε F) : Bool := s.pagination.isLoading

def hasNoData (s : ListState ε F) : Bool := s.pagination.total == some 0

/-- The filters that the list will end up with. -/
def requestedFilters (s : ListState ε F) : F :=
  match s.pending with
  | some (_, filters) => filters
  | none => s.filters

def hasPendingDebounce (s : ListState ε F) : Bool := s.pending.isSome

def snapshot (s : ListState ε F) : Snapshot ε where
  list := s.list
  total := s.total
  isInitialLoading := s.isInitialLoading
  isPaginating := s.isPaginating
  hasMore := s.hasMore
  hasNoData := s.hasNoData
  lastError := s.lastError

def touch (s : ListState ε F) : ListState ε F := { s with revision := s.revision + 1 }

/-- Other filters, which also drop those that wait. -/
def replaceFilters (s : ListState ε F) (filters : F) : ListState ε F :=
  { s with filters := filters, pending := none }

/-- Begins a new generation and asks for its first page. -/
def restart (s : ListState ε F) : ListState ε F × Command F :=
  let s := { s with
    generation := s.generation.next
    entities := s.entities.clear
    lastError := none
    pagination := s.pagination.update .resetStarted }
  let s := s.touch
  (s, .loadPage s.generation .initial (s.pagination.params .initial s.filters))

/-- Asks for the next page unless a load is under way or everything is loaded. -/
def paginate (s : ListState ε F) : ListState ε F × Command F :=
  if s.pagination.canPaginate then
    let s := { s with pagination := s.pagination.update .loadingMoreStarted }.touch
    (s, .loadPage s.generation .more (s.pagination.params .more s.filters))
  else (s, .none)

/-- Takes over filters that have waited, if it is their ticket. -/
def elapse (s : ListState ε F) (ticket : Nat) : ListState ε F × Command F :=
  match s.pending with
  | some (pending, filters) =>
    if pending = ticket then { s with filters := filters, pending := none }.restart
    else (s, .none)
  | none => (s, .none)

def edit (s : ListState ε F) (entity : ε) : ListState ε F :=
  match s.entities.replace entity with
  | (entities, true) => { s with entities := entities }.touch
  | (_, false) => s

/-- Takes in the answer to a load, if it is the one that is awaited. -/
def applyPage (s : ListState ε F) (generation : Generation) (kind : LoadKind)
    (result : Except LoadError (Page ε)) : ListState ε F :=
  if generation ≠ s.generation then s
  else if !s.pagination.isLoadingKind kind then s
  else
    match result with
    | .ok page =>
      let entities := (s.entities.merge page.items).1
      { s with
        entities := entities
        pagination := s.pagination.update (.pageReceived kind entities.size page.total)
        lastError := none }.touch
    | .error e =>
      { s with
        entities := if kind = LoadKind.initial then s.entities.clear else s.entities
        pagination := s.pagination.update (.pageFailed kind)
        lastError := some e }.touch

def tearDown (s : ListState ε F) : ListState ε F :=
  { s with
    generation := s.generation.next
    entities := s.entities.clear
    pagination := s.pagination.update .discarded
    pending := none
    lastError := none }.touch

def update [EmptyCollection F] (s : ListState ε F) :
    Message ε F → ListState ε F × Command F
  | .initRequested filters =>
    match filters with
    | some filters => (s.replaceFilters filters).restart
    | none => s.restart
  | .paginateRequested => s.paginate
  | .filtersChanged filters => (s.replaceFilters filters).restart
  | .filtersCleared => (s.replaceFilters ∅).restart
  | .filtersDebounced filters =>
    let ticket := s.lastTicket + 1
    ({ s with lastTicket := ticket, pending := some (ticket, filters) }, .scheduleDebounce ticket)
  | .debounceElapsed ticket => s.elapse ticket
  | .entityEdited entity => (s.edit entity, .none)
  | .pageLoaded generation kind result => (s.applyPage generation kind result, .none)
  | .tornDown => (s.tearDown, .cancelAll)

end ListState
end PagedList
