import PagedList.ListSettings
import PagedList.ListState
import PagedList.Loader

/-! A list at work: the state, the tasks that were started for it, and the messages on their way.
Tasks only put messages into the queue; the state changes when a message is taken out of it or
an operation is called, so everything happens one after the other. -/
namespace PagedList

inductive Work (ε : Type) where
  /-- Waits for the answer to a call of the loader; `reply` is the answer and its time once both
  are known. -/
  | load (call : Nat) (generation : Generation) (kind : LoadKind) (reply : Option (Nat × Outcome ε))
  /-- Waits until a debounced change may take effect. -/
  | debounce (ticket : Nat) (due : Nat)

/-- A task that is neither done nor given up. -/
structure Task (ε : Type) where
  handle : Nat
  work : Work ε

namespace Work

variable {ε : Type}

def due : Work ε → Option Nat
  | .load _ _ _ reply => reply.map (·.1)
  | .debounce _ due => some due

def message? {F : Type} (now : Nat) : Work ε → Option (Message ε F)
  | .load _ generation kind (some (due, outcome)) =>
    if due ≤ now then some (.pageLoaded generation kind outcome.result) else none
  | .load _ _ _ none => none
  | .debounce ticket due => if due ≤ now then some (.debounceElapsed ticket) else none

def isLoad : Work ε → Bool
  | .load .. => true
  | .debounce .. => false

/-- Whether this is the load that waits for the answer to a call. -/
def awaits (call : Nat) : Work ε → Bool
  | .load c _ _ none => c == call
  | _ => false

end Work

structure Store (ε F : Type) [Entity ε] where
  state : ListState ε F
  loader : Loader ε F
  debounceMs : Nat
  /-- Milliseconds since the beginning. -/
  now : Nat
  queue : List (Message ε F)
  tasks : List (Task ε)
  nextHandle : Nat
  /-- The task of the latest load. -/
  inFlight : Option Nat
  /-- The task of the latest debounced change. -/
  debounceTimer : Option Nat
  /-- The snapshot that viewers see, and how often it was put out. -/
  published : Snapshot ε
  version : Nat
  /-- Whether the store was told to stop, perhaps from outside. -/
  cancelled : Bool
  tornDown : Bool
  /-- What the loader was asked for so far. -/
  calls : List (PageParams F)

namespace Store

variable {ε F : Type} [Entity ε]

def spawn (s : Store ε F) (work : Work ε) : Store ε F × Nat :=
  ({ s with tasks := s.tasks ++ [⟨s.nextHandle, work⟩], nextHandle := s.nextHandle + 1 },
    s.nextHandle)

/-- Gives up a task at once. That is so for a task at rest; one that is polled just then goes on to the
end of the poll, which `Hosted` follows. -/
def abort (s : Store ε F) : Option Nat → Store ε F
  | some handle => { s with tasks := s.tasks.filter (·.handle != handle) }
  | none => s

/-- Calls the loader at once and waits for the answer in a task, in place of the latest one. -/
def load (s : Store ε F) (generation : Generation) (kind : LoadKind) (params : PageParams F) :
    Store ε F :=
  let call := s.calls.length
  let reply := match s.loader.reply call params with
    | .after ms outcome => some (s.now + ms, outcome)
    | .awaited => none
  let previous := s.inFlight
  let (s, handle) := { s with calls := s.calls ++ [params] }.spawn (.load call generation kind reply)
  { s with inFlight := some handle }.abort previous

/-- Starts the waiting time of a ticket, in place of the latest one. -/
def schedule (s : Store ε F) (ticket : Nat) : Store ε F :=
  let previous := s.debounceTimer
  let (s, handle) := s.spawn (.debounce ticket (s.now + s.debounceMs))
  { s with debounceTimer := some handle }.abort previous

def execute (s : Store ε F) : Command F → Store ε F
  | .loadPage generation kind params => s.load generation kind params
  | .scheduleDebounce ticket => s.schedule ticket
  | .cancelAll =>
    { (s.abort s.inFlight).abort s.debounceTimer with inFlight := none, debounceTimer := none }
  | .none => s

variable [EmptyCollection F]

/-- Updates the state, does what the update asks for, and puts out a snapshot if the state says
that it changed. -/
def apply (s : Store ε F) (message : Message ε F) : Store ε F :=
  let (state, command) := s.state.update message
  let after := { s with state := state }.execute command
  if state.revision = s.state.revision then after
  else { after with published := state.snapshot, version := after.version + 1 }

/-- Stops everything, once and for all. -/
def tearDown (s : Store ε F) : Store ε F :=
  if s.tornDown then s
  else { { s with tornDown := true }.apply .tornDown with cancelled := true }

def isTornDown (s : Store ε F) : Bool := s.tornDown || s.cancelled

/-- Applies a message, unless the store is to stop. -/
def dispatch (s : Store ε F) (message : Message ε F) : Store ε F :=
  if s.isTornDown then s.tearDown else s.apply message

def init (s : Store ε F) (filters : Option F) : Store ε F := s.dispatch (.initRequested filters)

def reset (s : Store ε F) : Store ε F := s.init none

def paginate (s : Store ε F) : Store ε F := s.dispatch .paginateRequested

def setFilters (s : Store ε F) (filters : F) : Store ε F := s.dispatch (.filtersChanged filters)

/-- Sets the filters once no other such change has come for the waiting time. -/
def setFiltersDebounced (s : Store ε F) (filters : F) : Store ε F :=
  s.dispatch (.filtersDebounced filters)

def clearFilters (s : Store ε F) : Store ε F := s.dispatch .filtersCleared

def editEntity (s : Store ε F) (entity : ε) : Store ε F := s.dispatch (.entityEdited entity)

/-- Tells the store to stop; the state follows with the next operation or event. -/
def cancel (s : Store ε F) : Store ε F := { s with cancelled := true }

def new (loader : Loader ε F) (settings : ListSettings) : Store ε F :=
  let state := ListState.new settings.limit
  let s : Store ε F :=
    { state := state
      loader := loader
      debounceMs := settings.debounceMs
      now := 0
      queue := []
      tasks := []
      nextHandle := 0
      inFlight := none
      debounceTimer := none
      published := state.snapshot
      version := 0
      cancelled := false
      tornDown := false
      calls := [] }
  if settings.initImmediately then s.init none else s

def isBusy (s : Store ε F) : Bool :=
  s.state.isLoading || s.state.hasPendingDebounce || !s.queue.isEmpty

/-- Answers a call from outside; tells whether anyone waits for it. -/
def respond (s : Store ε F) (call : Nat) (outcome : Outcome ε) : Store ε F × Bool :=
  if s.tasks.any (·.work.awaits call) then
    let answered (t : Task ε) : Task ε :=
      match t.work with
      | .load c generation kind none =>
        if c = call then { t with work := .load c generation kind (some (s.now, outcome)) } else t
      | _ => t
    ({ s with tasks := s.tasks.map answered }, true)
  else (s, false)

/-- Lets every task go on as far as it can: loads end when the store is told to stop, and tasks
that are done put their messages into the queue. -/
def runTasks (s : Store ε F) : Store ε F :=
  let alive := s.tasks.filter fun t => !(s.cancelled && t.work.isLoad)
  { s with
    queue := s.queue ++ alive.filterMap fun t => t.work.message? s.now
    tasks := alive.filter fun t => (t.work.message? (F := F) s.now).isNone }

/-- Takes the next message out of the queue and applies it, or stops if told to; nothing happens
while there is no message. Tells whether the store goes on. -/
def receive? (s : Store ε F) : Option (Store ε F × Bool) :=
  if s.isTornDown then some (s.tearDown, false)
  else
    match s.queue with
    | message :: rest => some ({ s with queue := rest }.dispatch message, true)
    | [] => none

def nextDue (s : Store ε F) : Option Nat := (s.tasks.filterMap (·.work.due)).min?

def drop (s : Store ε F) : Store ε F :=
  { s with cancelled := true, tasks := [], inFlight := none, debounceTimer := none }

/-- Whether the snapshot that viewers see agrees with the state. -/
def isConsistent [BEq ε] (s : Store ε F) : Bool :=
  let a := s.published
  let b := s.state.snapshot
  a.list == b.list && a.total == b.total && a.isInitialLoading == b.isInitialLoading &&
    a.isPaginating == b.isPaginating && a.hasMore == b.hasMore && a.hasNoData == b.hasNoData &&
    a.lastError == b.lastError

end Store
end PagedList
