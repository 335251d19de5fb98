import PagedList.Store

/-! Creating, editing and deleting entities of a list. After a creation or deletion every offset
may have shifted, so the list is loaded anew; an edited entity takes the place of the old one. -/
namespace PagedList

/-- What can be asked of those who keep the entities; `C` describes a new entity and `E` a change. -/
structure CrudApi (ε C E : Type) [Entity ε] where
  create : C → Except CrudError ε
  edit : Entity.Id ε → E → Except CrudError ε
  delete : Entity.Id ε → Except CrudError Unit

def CrudApi.readOnly {ε C E : Type} [Entity ε] : CrudApi ε C E where
  create _ := .error (.unsupported "create")
  edit _ _ := .error (.unsupported "edit")
  delete _ := .error (.unsupported "delete")

def CrudApi.answering {ε C E : Type} [Entity ε] (outcome : Except CrudError ε) :
    CrudApi ε C E where
  create _ := outcome
  edit _ _ := outcome
  delete _ := outcome.map fun _ => ()

structure Service (ε F C E : Type) [Entity ε] where
  store : Store ε F
  api : CrudApi ε C E

namespace Service

variable {ε F C E : Type} [Entity ε] [EmptyCollection F]

/-- The first page is asked for even where the settings do not say so. -/
def new (loader : Loader ε F) (api : CrudApi ε C E) (settings : ListSettings) :
    Service ε F C E :=
  let store := Store.new loader settings
  ⟨if settings.initImmediately then store else store.init none, api⟩

def listData (s : Service ε F C E) : Snapshot ε := s.store.published

def filters (s : Service ε F C E) : F := s.store.state.requestedFilters

def paginate (s : Service ε F C E) : Service ε F C E := { s with store := s.store.paginate }

def setFilters (s : Service ε F C E) (filters : F) : Service ε F C E :=
  { s with store := s.store.setFiltersDebounced filters }

def clearFilters (s : Service ε F C E) : Service ε F C E :=
  { s with store := s.store.clearFilters }

/-- One more filter beside those that were asked for last. -/
def setFilter (s : Service ε FilterSet C E) (key : String) (value : Value) :
    Service ε FilterSet C E :=
  s.setFilters (s.filters.set key value)

def create (s : Service ε F C E) (params : C) : Service ε F C E × Except CrudError ε :=
  match s.api.create params with
  | .ok entity => ({ s with store := s.store.reset }, .ok entity)
  | .error e => (s, .error e)

def edit (s : Service ε F C E) (id : Entity.Id ε) (params : E) :
    Service ε F C E × Except CrudError ε :=
  match s.api.edit id params with
  | .ok entity => ({ s with store := s.store.editEntity entity }, .ok entity)
  | .error e => (s, .error e)

def delete (s : Service ε F C E) (id : Entity.Id ε) : Service ε F C E × Except CrudError Unit :=
  match s.api.delete id with
  | .ok () => ({ s with store := s.store.reset }, .ok ())
  | .error e => (s, .error e)

end Service
end PagedList
