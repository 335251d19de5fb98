import PagedList.Page

/-! The cursor of a list that is loaded page by page. It knows how far the list is loaded and
which load is under way, but nothing of the entities. -/
namespace PagedList

inductive LoadKind where
  /-- The first page. -/
  | initial
  /-- The page after those already there. -/
  | more
  deriving DecidableEq, Repr

structure Pagination where
  limit : Nat
  skip : Nat
  /-- How many entities there are in all, once a load has told. -/
  total : Option Nat
  hasMore : Bool
  isInitialLoading : Bool
  isPaginating : Bool
  deriving DecidableEq, Repr

namespace Pagination

inductive Event where
  /-- The list was cleared and its first page asked for. -/
  | resetStarted
  /-- The next page was asked for. -/
  | loadingMoreStarted
  /-- A page arrived, after which so many entities are loaded. -/
  | pageReceived (kind : LoadKind) (loaded total : Nat)
  | pageFailed (kind : LoadKind)
  /-- The list was thrown away. -/
  | discarded
  deriving DecidableEq, Repr

/-- Nothing loaded yet. At least one entity is asked for at a time. -/
def new (limit : Nat) : Pagination where
  limit := max limit 1
  skip := 0
  total := none
  hasMore := true
  isInitialLoading := false
  isPaginating := false

def isLoading (p : Pagination) : Bool := p.isInitialLoading || p.isPaginating

def isLoadingKind (p : Pagination) : LoadKind → Bool
  | .initial => p.isInitialLoading
  | .more => p.isPaginating

def canPaginate (p : Pagination) : Bool := !p.isLoading && p.hasMore

def params {F : Type} (p : Pagination) (kind : LoadKind) (filters : F) : PageParams F where
  skip := match kind with
    | .initial => 0
    | .more => p.skip
  limit := p.limit
  filters := filters

def finish (p : Pagination) : LoadKind → Pagination
  | .initial => { p with isInitialLoading := false }
  | .more => { p with isPaginating := false }

/-- The cursor after an event. A failed first page reads as an empty list; a failed later page
leaves the cursor where it was. -/
def update (p : Pagination) : Event → Pagination
  | .resetStarted =>
    { p with
      skip := 0, total := none, hasMore := true, isInitialLoading := true, isPaginating := false }
  | .loadingMoreStarted => { p with isPaginating := true }
  | .pageReceived kind loaded total =>
    { p with skip := loaded, total := some total, hasMore := loaded < total }.finish kind
  | .pageFailed .initial =>
    { p with skip := 0, total := some 0, hasMore := false }.finish .initial
  | .pageFailed .more => p.finish .more
  | .discarded => new p.limit

end Pagination
end PagedList
