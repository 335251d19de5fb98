import PagedList.Store

/-! A store with the world around it: a clock, things that will happen from outside, and those
who watch its snapshots. Time passes only while waiting, and then jumps to the next thing that
happens. -/
namespace PagedList

inductive Action (ε : Type) where
  | respond (call : Nat) (outcome : Outcome ε)
  | cancel

structure Session (ε F : Type) [Entity ε] where
  store : Store ε F
  /-- Whether the store is gone. -/
  dropped : Bool
  /-- What will happen from outside, and when. -/
  agenda : List (Nat × Action ε)
  /-- For each watcher, how often the snapshot had been put out when it last looked. -/
  watchers : List Nat

inductive Waited where
  /-- With an answer, after so many milliseconds. -/
  | ended (more : Bool) (ms : Nat)
  /-- Never: nothing is left that could happen. -/
  | stuck

namespace Session

variable {ε F : Type} [Entity ε] [EmptyCollection F]

def now (s : Session ε F) : Nat := s.store.now

def perform (store : Store ε F) : Action ε → Store ε F
  | .respond call outcome => (store.respond call outcome).1
  | .cancel => store.cancel

/-- Everything that is due happens: first from outside, then in the tasks. -/
def runDue (s : Session ε F) : Session ε F :=
  let (due, later) := s.agenda.partition fun e => e.1 ≤ s.now
  let store := due.foldl (fun store e => perform store e.2) s.store
  { s with store := store.runTasks, agenda := later }

def start (store : Store ε F) : Session ε F :=
  { store := store, dropped := false, agenda := [], watchers := [] : Session ε F }.runDue

def nextDue (s : Session ε F) : Option Nat :=
  (s.agenda.map (·.1) ++ s.store.nextDue.toList).min?

def setNow (s : Session ε F) (now : Nat) : Session ε F :=
  { s with store := { s.store with now := now } }

def outstanding (s : Session ε F) : Nat := s.agenda.length + s.store.tasks.length

/-- Lets time pass until `deadline`, with everything that happens up to then. -/
def passTime : Nat → Session ε F → Nat → Session ε F
  | 0, s, deadline => (s.setNow deadline).runDue
  | fuel + 1, s, deadline =>
    match s.nextDue with
    | some due =>
      if due ≤ deadline then passTime fuel (s.setNow (max due s.now)).runDue deadline
      else s.setNow deadline
    | none => s.setNow deadline

def advance (s : Session ε F) (ms : Nat) : Session ε F :=
  passTime (s.outstanding + 1) s (s.now + ms)

/-- Waits for the next message and applies it. Nothing is answered if no message can come. -/
def awaitMessage : Nat → Session ε F → Session ε F × Option Bool
  | 0, s => (s, none)
  | fuel + 1, s =>
    match s.store.receive? with
    | some (store, more) => ({ s with store := store }, some more)
    | none =>
      match s.nextDue with
      | some due => awaitMessage fuel (s.setNow (max due s.now)).runDue
      | none => (s, none)

/-- Tasks go on before a message is awaited only if there is none yet. -/
def awaitNext (s : Session ε F) : Session ε F × Option Bool :=
  if s.store.queue.isEmpty then
    let s := s.runDue
    awaitMessage (s.outstanding + 1) s
  else awaitMessage 1 s

/-- Applies messages as long as `wanted` holds of the store and the store goes on. -/
def drive (wanted : Store ε F → Bool) (began : Nat) : Nat → Session ε F → Session ε F × Waited
  | 0, s => (s, .stuck)
  | fuel + 1, s =>
    if wanted s.store then
      match s.awaitNext with
      | (s, some true) => drive wanted began fuel s
      | (s, some false) => (s, .ended false (s.now - began))
      | (s, none) => (s, .stuck)
    else (s, .ended true (s.now - began))

/-- More messages than can still be applied: those in the queue, one from each task, one from the
load that a debounced change may begin, and the end. -/
def messageBound (s : Session ε F) : Nat := s.store.queue.length + s.store.tasks.length + 3

def nextEvent (s : Session ε F) : Session ε F × Waited :=
  match s.awaitNext with
  | (after, some more) => (after.runDue, .ended more (after.now - s.now))
  | (after, none) => (after, .stuck)

def settle (s : Session ε F) : Session ε F × Waited :=
  let (s, waited) := drive Store.isBusy s.now s.messageBound s
  (s.runDue, waited)

def runToEnd (s : Session ε F) : Session ε F × Waited :=
  let (s, waited) := drive (fun _ => true) s.now s.messageBound s
  (s.runDue, waited)

/-- An operation on the store, and whatever the tasks do after it. -/
def onStore (s : Session ε F) (f : Store ε F → Store ε F) : Session ε F :=
  { s with store := f s.store }.runDue

def schedule (s : Session ε F) (afterMs : Nat) (action : Action ε) : Session ε F :=
  { s with agenda := s.agenda ++ [(s.now + afterMs, action)] }.runDue

def respond (s : Session ε F) (call : Nat) (outcome : Outcome ε) : Session ε F × Bool :=
  let (store, taken) := s.store.respond call outcome
  ({ s with store := store }.runDue, taken)

/-- A new watcher has seen the snapshot that is out. -/
def subscribe (s : Session ε F) : Session ε F :=
  { s with watchers := s.watchers ++ [s.store.version] }

/-- What a watcher sees when it looks; nothing is new to it then. -/
def observe (s : Session ε F) (watcher : Nat) : Session ε F × Snapshot ε :=
  ({ s with watchers := s.watchers.set watcher s.store.version }, s.store.published)

/-- For each watcher whether there is a new snapshot, which nobody can tell without the store. -/
def changed (s : Session ε F) : List (Option Bool) :=
  s.watchers.map fun seen => if s.dropped then none else some (seen != s.store.version)

def drop (s : Session ε F) : Session ε F :=
  { s with store := s.store.drop, dropped := true }

end Session
end PagedList
