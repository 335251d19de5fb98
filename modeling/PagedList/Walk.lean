import PagedList.Session

/-! Going through a list of records page by page, from the first page to the last. -/
namespace PagedList

/-- A list at work and how many of its pages were asked for. -/
structure Walk where
  session : Session Record FilterSet
  pages : Nat

namespace Walk

def store (w : Walk) : Store Record FilterSet := w.session.store

def state (w : Walk) : ListState Record FilterSet := w.store.state

def settled (s : Session Record FilterSet)
    (f : Store Record FilterSet → Store Record FilterSet) : Session Record FilterSet :=
  (s.onStore f).settle.1

def start (loader : Loader Record FilterSet) (settings : ListSettings) (filters : FilterSet) :
    Walk :=
  ⟨settled (Session.start (Store.new loader settings)) (·.init (some filters)), 1⟩

def goesOn (maxPages : Option Nat) (w : Walk) : Bool :=
  w.state.hasMore && w.state.lastError.isNone && !maxPages.any (· ≤ w.pages)

def step (w : Walk) : Walk := ⟨settled w.session (·.paginate), w.pages + 1⟩

/-- The walk after every page, as far as it goes on and at most `fuel` pages further. -/
def pagesFrom (maxPages : Option Nat) : Nat → Walk → List Walk
  | 0, w => [w]
  | fuel + 1, w => if w.goesOn maxPages then w :: pagesFrom maxPages fuel w.step else [w]

/-! What is printed -/

/-- A count with a comma before every three digits from the end. -/
def withCommas (n : Nat) : String :=
  let rec group : List Char → List Char
    | a :: b :: c :: d :: rest => a :: b :: c :: ',' :: group (d :: rest)
    | digits => digits
  String.ofList (group (Nat.toDigits 10 n).reverse).reverse

def pageLine (w : Walk) : String :=
  "page " ++ toString w.pages ++ ": " ++ withCommas w.state.list.length ++ " of " ++
    withCommas (w.state.total.getD 0) ++ " loaded"

def endLine? (w : Walk) : Option String :=
  if w.state.hasNoData then some "no matching records"
  else if w.state.hasMore then
    some ("stopped after " ++ toString w.pages ++ " pages; more records available")
  else none

end Walk
end PagedList
