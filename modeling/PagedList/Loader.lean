import PagedList.Error
import PagedList.Page

/-! Loaders of pages, seen from the one who calls them: a call is answered after some time, or
from outside, or never. -/
namespace PagedList

inductive Outcome (ε : Type) where
  | answer (result : Except LoadError (Page ε))
  /-- The loader broke down. -/
  | broken

/-- A loader that breaks down counts as a failure of the network. -/
def Outcome.result {ε : Type} : Outcome ε → Except LoadError (Page ε)
  | .answer result => result
  | .broken => .error (.transport "page loader panicked")

inductive Reply (ε : Type) where
  /-- After so many milliseconds. -/
  | after (ms : Nat) (outcome : Outcome ε)
  /-- Whenever someone else answers it. -/
  | awaited

/-- The reply to each call, by the number of the call and what it asks for. -/
structure Loader (ε F : Type) where
  reply : Nat → PageParams F → Reply ε

namespace Loader

variable {ε F : Type}

/-- Every call waits to be answered from outside. -/
def scripted : Loader ε F := ⟨fun _ _ => .awaited⟩

/-- Answers with these outcomes one after the other, and then gives up. -/
def answering (results : List (Except LoadError (Page ε))) : Loader ε F :=
  ⟨fun call _ => .after 0 (.answer (results[call]?.getD (.error .cancelled)))⟩

end Loader

/-- The part of some records that a request asks for: those that pass its filters, from `skip`
on and at most `limit` of them, with the number of all that pass. -/
def Page.ofRecords (records : List Record) (params : PageParams FilterSet) : Page Record :=
  let passing := records.filter fun r => params.filters.admits r.fields
  ⟨(passing.drop params.skip).take params.limit, passing.length⟩

/-- Serves records from memory, every page after the same time. -/
def Loader.ofRecords (records : List Record) (latencyMs : Nat) : Loader Record FilterSet :=
  ⟨fun _ params => .after latencyMs (.answer (.ok (Page.ofRecords records params)))⟩

end PagedList
