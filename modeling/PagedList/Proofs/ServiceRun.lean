import PagedList.Game
import PagedList.Proofs.Draining
import PagedList.Proofs.RequestedFilters

/-! Runs of a service: filters that are asked for in between everything else that is done with a list
or happens to it. A filter is set beside those that were asked for last, whether these still wait, have
just taken effect or were replaced, so that nothing that was asked for is lost. -/
namespace PagedList

def Event.filters? {ε F : Type} [EmptyCollection F] : Event ε F → Option F
  | .perform operation => operation.message.filters?
  | _ => none

namespace Store

variable {ε F : Type} [Entity ε] [EmptyCollection F]

/-- What is left of a request in a store: nothing, or one operation that sets no filters. -/
def Serves (s t : Store ε F) : Prop :=
  t = s ∨ ∃ operation : Operation ε F, operation.message.filters? = none ∧ t = s.perform operation

/-- A store that goes on and whose list will end up with these filters. -/
structure Follows (s : Store ε F) (asked : F) : Prop where
  running : s.isTornDown = false
  live : s.Live
  requested : s.state.requestedFilters = asked

theorem Live.requestedFilters_happen {s : Store ε F} (hs : s.Live) (hrunning : s.isTornDown = false)
    {e : Event ε F} (he : e ≠ .tearDown) :
    (s.happen e).state.requestedFilters = e.filters?.getD s.state.requestedFilters := by
  cases e with
  | perform operation =>
    simp only [Store.happen, perform_eq_dispatch, dispatch_eq_apply hrunning, apply_state]
    exact (s.state.step_update operation.message).requestedFilters_eq operation.message_ne_tornDown
  | tearDown => exact absurd rfl he
  | take =>
    cases hq : s.queue with
    | nil => simp [Store.happen, Store.take, hq, Event.filters?]
    | cons m rest =>
      have hreport := hs.reports m (hq ▸ List.mem_cons_self)
      have hm : m ≠ .tornDown := fun h => by simp [h, Message.isReport] at hreport
      have hnone : m.filters? = none := by cases m <;> first | rfl | cases hreport
      simp only [Store.happen, take_eq_apply hrunning hq, apply_state]
      rw [(s.state.step_update m).requestedFilters_eq hm, hnone]
      rfl
  | cancel | wait | respond | finish | abandon =>
    rw [state_happen_of_isOutside s rfl]
    rfl

theorem Follows.happen {s : Store ε F} {asked : F} (hs : s.Follows asked) (e : Event ε F)
    (ht : e ≠ .tearDown) (hc : e ≠ .cancel) : (s.happen e).Follows (e.filters?.getD asked) := by
  have hrunning := (s.isTornDown_happen_eq ht hc).trans hs.running
  refine ⟨hrunning, hs.live.happen e hrunning, ?_⟩
  rw [hs.live.requestedFilters_happen hs.running ht, hs.requested]

theorem Follows.serves {s t : Store ε F} {asked : F} (hs : s.Follows asked) (h : s.Serves t) :
    t.Follows asked := by
  rcases h with rfl | ⟨operation, hnone, rfl⟩
  · exact hs
  · have hfollows := hs.happen (.perform operation) (fun h => nomatch h) fun h => nomatch h
    rwa [Event.filters?, hnone, Option.getD_none] at hfollows

theorem follows_new (loader : Loader ε F) (settings : ListSettings) :
    (new loader settings : Store ε F).Follows ∅ := by
  refine ⟨isTornDown_new loader settings, live_new loader settings, ?_⟩
  cases hi : settings.initImmediately <;> simp only [new, hi] <;> rfl

end Store

namespace Service

section Requests

variable {ε F C E : Type} [Entity ε] [EmptyCollection F] (s : Service ε F C E)

theorem serves_create (params : C) : s.store.Serves (s.create params).1.store := by
  unfold create
  split
  · exact .inr ⟨.init none, rfl, rfl⟩
  · exact .inl rfl

theorem serves_edit (id : Entity.Id ε) (params : E) :
    s.store.Serves (s.edit id params).1.store := by
  unfold edit
  split
  · exact .inr ⟨.editEntity _, rfl, rfl⟩
  · exact .inl rfl

theorem serves_delete (id : Entity.Id ε) : s.store.Serves (s.delete id).1.store := by
  unfold delete
  split
  · exact .inr ⟨.init none, rfl, rfl⟩
  · exact .inl rfl

end Requests

/-- What can be done with a service and what can happen meanwhile, short of its end. -/
inductive Move (ε C E : Type) [Entity ε] where
  | setFilter (key : String) (value : Value)
  | setFilters (filters : FilterSet)
  | clearFilters
  | paginate
  | reset
  | create (params : C)
  | edit (id : Entity.Id ε) (params : E)
  | delete (id : Entity.Id ε)
  /-- Those who keep the entities answer otherwise from now on. -/
  | turn (api : CrudApi ε C E)
  | wait (ms : Nat)
  | respond (call : Nat) (outcome : Outcome ε)
  | finish (place : Nat)
  | take

variable {ε C E : Type} [Entity ε]

/-- The filters that are asked for after a move, if it were only for the calls that set filters. -/
def Move.asks (asked : FilterSet) : Move ε C E → FilterSet
  | .setFilter key value => asked.set key value
  | .setFilters filters => filters
  | .clearFilters => ∅
  | _ => asked

def move (s : Service ε FilterSet C E) : Move ε C E → Service ε FilterSet C E
  | .setFilter key value => s.setFilter key value
  | .setFilters filters => s.setFilters filters
  | .clearFilters => s.clearFilters
  | .paginate => s.paginate
  | .reset => { s with store := s.store.reset }
  | .create params => (s.create params).1
  | .edit id params => (s.edit id params).1
  | .delete id => (s.delete id).1
  | .turn api => { s with api := api }
  | .wait ms => { s with store := s.store.happen (.wait ms) }
  | .respond call outcome => { s with store := s.store.happen (.respond call outcome) }
  | .finish place => { s with store := s.store.happen (.finish place) }
  | .take => { s with store := s.store.take }

def run (s : Service ε FilterSet C E) (ms : List (Move ε C E)) : Service ε FilterSet C E :=
  ms.foldl move s

/-- Each move is at most one event of the store, and of the events only the calls set filters. -/
theorem follows_move {s : Service ε FilterSet C E} {asked : FilterSet} (hs : s.store.Follows asked)
    (m : Move ε C E) : (s.move m).store.Follows (m.asks asked) := by
  have hperform : ∀ operation : Operation ε FilterSet,
      (s.store.perform operation).Follows (operation.message.filters?.getD asked) :=
    fun operation => hs.happen (.perform operation) (fun h => nomatch h) fun h => nomatch h
  cases m with
  | setFilter key value =>
    have hfilters : s.filters = asked := hs.requested
    simp only [move, setFilter, hfilters]
    exact hperform (.setFiltersDebounced (asked.set key value))
  | setFilters filters => exact hperform (.setFiltersDebounced filters)
  | clearFilters => exact hperform .clearFilters
  | paginate => exact hperform .paginate
  | reset => exact hperform (.init none)
  | create params => exact hs.serves (s.serves_create params)
  | edit id params => exact hs.serves (s.serves_edit id params)
  | delete id => exact hs.serves (s.serves_delete id)
  | turn api => exact hs
  | wait ms => exact hs.happen (.wait ms) (fun h => nomatch h) fun h => nomatch h
  | respond call outcome =>
    exact hs.happen (.respond call outcome) (fun h => nomatch h) fun h => nomatch h
  | finish place => exact hs.happen (.finish place) (fun h => nomatch h) fun h => nomatch h
  | take => exact hs.happen .take (fun h => nomatch h) fun h => nomatch h

theorem follows_run {s : Service ε FilterSet C E} {asked : FilterSet} (hs : s.store.Follows asked)
    (ms : List (Move ε C E)) : (s.run ms).store.Follows (ms.foldl Move.asks asked) := by
  induction ms generalizing s asked with
  | nil => exact hs
  | cons m ms ih => exact ih (follows_move hs m)

theorem follows_new (loader : Loader ε FilterSet) (api : CrudApi ε C E) (settings : ListSettings) :
    (new loader api settings).store.Follows ∅ := by
  have hstore := Store.follows_new loader settings
  simp only [new]
  split
  · exact hstore
  · exact hstore.happen (.perform (.init none)) (fun h => nomatch h) fun h => nomatch h

/-- Whatever else is done with a service and happens to it, its filters are those that the calls that
set filters ask for one after the other, and unless filters wait these are in effect. -/
theorem filters_follow_calls (loader : Loader ε FilterSet) (api : CrudApi ε C E)
    (settings : ListSettings) (ms : List (Move ε C E)) :
    let s := (new loader api settings).run ms
    let asked := ms.foldl Move.asks ∅
    s.filters = asked ∧
      (s.store.state.hasPendingDebounce = false → s.store.state.filters = asked) := by
  intro s asked
  have hfilters : s.filters = asked := (follows_run (follows_new loader api settings) ms).requested
  refine ⟨hfilters, fun hnone => ?_⟩
  have hpending : s.store.state.pending = none := by
    simpa [ListState.hasPendingDebounce] using hnone
  rw [← hfilters, filters, ListState.requestedFilters, hpending]

/-- The waiting time of a first filter is over when a second one is set. -/
theorem filter_set_beside_the_first :
    let ms : List (Move Game String String) :=
      [.setFilter "category" (.string "RTS"), .wait 3, .finish 1, .setFilter "year" (.int 1998),
        .take, .wait 3, .finish 1, .take]
    let s := (new .scripted (Game.api []) ⟨2, 3, true⟩).run ms
    s.store.state.hasPendingDebounce = false ∧
      s.store.state.filters =
        (FilterSet.empty.set "category" (.string "RTS")).set "year" (.int 1998) := by
  intro ms s
  have hnone : s.store.state.hasPendingDebounce = false := by decide
  have hfilters := (filters_follow_calls .scripted (Game.api []) ⟨2, 3, true⟩ ms).2 hnone
  exact ⟨hnone, hfilters⟩

end Service
end PagedList
