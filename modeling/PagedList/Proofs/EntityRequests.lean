import PagedList.Proofs.Publishing
import PagedList.Proofs.ServiceRun

/-! Requests to create, edit and delete entities, in whatever state the list of the service is. One
that fails leaves everything as it is. After one that succeeds the list is loaded anew, or the edited
entity takes the place of the old one, unless the list was told to stop. -/
namespace PagedList

namespace ListState

variable {ε F : Type} [Entity ε]

theorem list_edit {s : ListState ε F} (hi : s.entities.Indexed) (entity : ε) :
    (s.edit entity).list = LinearSearch.overwrite entity s.list := by
  unfold edit
  split
  · rename_i entities h
    have hlist := EntitySet.toList_replace hi entity
    rw [h] at hlist
    exact hlist
  · rename_i h
    have hnone : s.entities.contains (Entity.id entity) = false := by
      rw [← EntitySet.replace_snd, h]
    exact (EntitySet.overwrite_of_contains_eq_false hi hnone).symm

theorem edit_eq (s : ListState ε F) (entity : ε) :
    s.edit entity =
      { s with entities := (s.edit entity).entities, revision := (s.edit entity).revision } := by
  unfold edit
  split <;> rfl

end ListState

namespace Store

variable {ε F : Type} [Entity ε]

/-- The list is empty and its first page is asked for in a new generation, under the filters in
effect. This load takes the place of the one before it; filters that wait go on waiting. -/
structure StartsOver (s t : Store ε F) : Prop where
  list_eq : t.state.list = []
  generation_eq : t.state.generation = s.state.generation.next
  generation_ne : t.state.generation ≠ s.state.generation
  calls_eq : t.calls = s.calls ++ [⟨0, s.state.limit, s.state.filters⟩]
  tasks_eq : t.tasks =
    (s.tasks.filter fun task => !task.work.isLoad) ++
      [⟨s.nextHandle, .load s.calls.length t.state.generation .initial
        (s.nextReply ⟨0, s.state.limit, s.state.filters⟩)⟩]
  filters_eq : t.state.filters = s.state.filters
  pending_eq : t.state.pending = s.state.pending
  queue_eq : t.queue = s.queue

/-- The entity takes the place of the one with its identifier, if there is one, and nothing else
happens but that viewers are told. -/
structure TakesOver (entity : ε) (s t : Store ε F) : Prop where
  nodup_ids : (s.state.list.map Entity.id).Nodup
  list_eq : t.state.list =
    s.state.list.map fun x => if Entity.id x = Entity.id entity then entity else x
  calls_eq : t.calls = s.calls
  rest_eq : t =
    { s with
      state := { s.state with entities := t.state.entities, revision := t.state.revision }
      published := t.published
      version := t.version }

variable [EmptyCollection F]

/-- What becomes of a store: a certain change while it goes on, and nothing once it is torn down. A
store that was only told to stop is torn down instead. -/
structure UnlessStopped (change : Store ε F → Store ε F → Prop) (s t : Store ε F) : Prop where
  running : s.isTornDown = false → change s t
  tornDown : s.tornDown = true → t = s
  cancelled : s.tornDown = false → s.cancelled = true → t = s.tearDown

/-- It is enough to look at what the message does to a store that goes on. -/
theorem unlessStopped_dispatch {change : Store ε F → Store ε F → Prop} {s : Store ε F}
    {m : Message ε F} (h : s.isTornDown = false → change s (s.apply m)) :
    s.UnlessStopped change (s.dispatch m) where
  running hs := by
    rw [dispatch_eq_apply hs]
    exact h hs
  tornDown hs := by simp [dispatch, isTornDown, tearDown, hs]
  cancelled _ hs := by simp [dispatch, isTornDown, hs]

theorem Wired.startsOver {s : Store ε F} (hs : s.Wired) :
    s.StartsOver (s.apply (.initRequested none)) := by
  have hload : (s.state.update (.initRequested none)).2 =
      .loadPage s.state.generation.next .initial ⟨0, s.state.limit, s.state.filters⟩ := rfl
  have hstate : (s.apply (.initRequested none)).state = s.state.restart.1 := s.apply_state _
  have hnext : (s.apply (.initRequested none)).state.generation = s.state.generation.next :=
    congrArg ListState.generation hstate
  obtain ⟨htasks, hcalls⟩ := hs.apply_of_loadPage hload
  exact {
    list_eq := congrArg ListState.list hstate
    generation_eq := hnext
    generation_ne := hnext ▸ s.state.generation.next_ne
    calls_eq := hcalls
    tasks_eq := by
      rw [hnext]
      exact htasks
    filters_eq := by
      rw [hstate]
      rfl
    pending_eq := by
      rw [hstate]
      rfl
    queue_eq := s.apply_queue _ }

theorem takesOver_apply {s : Store ε F} (hi : s.state.entities.Indexed) (entity : ε) :
    s.TakesOver entity (s.apply (.entityEdited entity)) where
  nodup_ids := hi.nodup_ids
  list_eq := by
    rw [apply_state]
    exact (ListState.list_edit hi entity).trans (LinearSearch.overwrite_eq_map hi.nodup_ids)
  calls_eq := (apply_of_none rfl).2
  rest_eq := by
    have hstate : (s.apply (.entityEdited entity)).state = s.state.edit entity := s.apply_state _
    rw [hstate, ← ListState.edit_eq]
    exact s.apply_eq (.entityEdited entity)

end Store

namespace Service

variable {ε F C E : Type} [Entity ε] [EmptyCollection F]

/-- The states that a service can come to, in whatever way it is used and whatever its store does
meanwhile. Every call of a service that is not listed performs an operation of the store. -/
inductive Reachable (loader : Loader ε F) (settings : ListSettings) : Service ε F C E → Prop
  | new (api : CrudApi ε C E) : Reachable loader settings (new loader api settings)
  | happen {s : Service ε F C E} (e : Event ε F) (h : Reachable loader settings s) :
    Reachable loader settings { s with store := s.store.happen e }
  | create {s : Service ε F C E} (params : C) (h : Reachable loader settings s) :
    Reachable loader settings (s.create params).1
  | edit {s : Service ε F C E} (id : Entity.Id ε) (params : E) (h : Reachable loader settings s) :
    Reachable loader settings (s.edit id params).1
  | delete {s : Service ε F C E} (id : Entity.Id ε) (h : Reachable loader settings s) :
    Reachable loader settings (s.delete id).1
  /-- Those who keep the entities answer otherwise from now on. -/
  | turn {s : Service ε F C E} (api : CrudApi ε C E) (h : Reachable loader settings s) :
    Reachable loader settings { s with api := api }

namespace Reachable

variable {loader : Loader ε F} {settings : ListSettings} {s : Service ε F C E}

theorem run (h : Reachable loader settings s) (es : List (Event ε F)) :
    Reachable loader settings { s with store := s.store.run es } := by
  induction es generalizing s with
  | nil => exact h
  | cons e es ih => exact ih (h.happen e)

/-- Whatever is done with a service, its store has only got events. -/
theorem exists_run (h : Reachable loader settings s) :
    ∃ es, s.store = (Store.new loader settings).run es := by
  have hserves : ∀ {s t : Store ε F}, (∃ es, s = (Store.new loader settings).run es) →
      s.Serves t → ∃ es, t = (Store.new loader settings).run es := by
    rintro s t ⟨es, rfl⟩ (rfl | ⟨operation, -, rfl⟩)
    · exact ⟨es, rfl⟩
    · exact ⟨es ++ [.perform operation], by simp [Store.happen]⟩
  induction h with
  | new api =>
    unfold Service.new
    split
    · exact ⟨[], rfl⟩
    · exact ⟨[.perform (.init none)], rfl⟩
  | @happen s e h ih =>
    obtain ⟨es, hes⟩ := ih
    exact ⟨es ++ [e], by simp [hes]⟩
  | @create s params h ih => exact hserves ih (s.serves_create params)
  | @edit s id params h ih => exact hserves ih (s.serves_edit id params)
  | @delete s id h ih => exact hserves ih (s.serves_delete id)
  | turn api h ih => exact ih

end Reachable

/-- A request to those who keep the entities: what they answer is returned, a failure changes
nothing, and after a success the store changes unless it was told to stop. Whatever happens to the
store while the answer is awaited has happened before. -/
def Conveys {α : Type} (s : Service ε F C E) (answer : Except CrudError α)
    (change : α → Store ε F → Store ε F → Prop)
    (result : Service ε F C E × Except CrudError α) : Prop :=
  match answer with
  | .error e => result = (s, .error e)
  | .ok a => ∃ t, result = ({ s with store := t }, .ok a) ∧ s.store.UnlessStopped (change a) t

/-- In whatever state a service is, requests return what those answer who keep the entities. If that
is a failure nothing changes. Otherwise a list that goes on is loaded anew, or only the edited entity
is put in the place of the old one; a list that is torn down stays as it is. -/
theorem requests_convey_answers {loader : Loader ε F} {settings : ListSettings}
    {s : Service ε F C E} (h : s.Reachable loader settings) :
    (∀ params, s.Conveys (s.api.create params) (fun _ => Store.StartsOver) (s.create params)) ∧
    (∀ id params, s.Conveys (s.api.edit id params) Store.TakesOver (s.edit id params)) ∧
    ∀ id, s.Conveys (s.api.delete id) (fun _ => Store.StartsOver) (s.delete id) := by
  obtain ⟨es, hes⟩ := h.exists_run
  have hreset : s.store.UnlessStopped Store.StartsOver s.store.reset := by
    refine Store.unlessStopped_dispatch fun hrunning => ?_
    rw [hes] at hrunning ⊢
    exact (Store.live_run_new loader settings es hrunning).wired.startsOver
  have hedit : ∀ entity,
      s.store.UnlessStopped (Store.TakesOver entity) (s.store.editEntity entity) := by
    refine fun entity => Store.unlessStopped_dispatch fun _ => Store.takesOver_apply ?_ entity
    rw [hes]
    exact Store.indexed_run_new loader settings es
  refine ⟨fun params => ?_, fun id params => ?_, fun id => ?_⟩
  · unfold Conveys create
    cases s.api.create params with
    | error e => rfl
    | ok entity => exact ⟨_, rfl, hreset⟩
  · unfold Conveys edit
    cases s.api.edit id params with
    | error e => rfl
    | ok entity => exact ⟨_, rfl, hedit entity⟩
  · unfold Conveys delete
    cases s.api.delete id with
    | error e => rfl
    | ok u => exact ⟨_, rfl, hreset⟩

/-- A game is created while the next page and other filters are awaited, another one without a name
is not, and a third one is edited. -/
theorem games_requested_while_loading :
    let filters := FilterSet.empty.insert "category" (.string "RTS")
    let page : Page Game := ⟨[⟨7, "Doom"⟩, ⟨1, "Quake"⟩], 4⟩
    let start : Service Game FilterSet String String := new .scripted (Game.api []) ⟨2, 3, true⟩
    let es : List (Event Game FilterSet) :=
      [.respond 0 (.answer (.ok page)), .finish 0, .take, .perform .paginate,
        .perform (.setFiltersDebounced filters)]
    let s : Service Game FilterSet String String := { start with store := start.store.run es }
    s.Reachable .scripted ⟨2, 3, true⟩ ∧ s.store.isTornDown = false ∧
      s.create "" = (s, .error (.rejected "name is required")) ∧
      (∃ t, s.create "Doom" = ({ s with store := t }, .ok ⟨1000, "Doom"⟩) ∧ s.store.StartsOver t) ∧
      ∃ t, s.edit (1 : Int64) "Quake II" = ({ s with store := t }, .ok ⟨1, "Quake II"⟩) ∧
        s.store.TakesOver ⟨1, "Quake II"⟩ t := by
  intro filters page start es s
  have hreachable : s.Reachable .scripted ⟨2, 3, true⟩ := (Reachable.new (Game.api [])).run es
  have hrunning : s.store.isTornDown = false := by cbv
  obtain ⟨hcreate, hedit, -⟩ := requests_convey_answers hreachable
  obtain ⟨t, ht, hstarts⟩ := hcreate "Doom"
  obtain ⟨u, hu, htakes⟩ := hedit (1 : Int64) "Quake II"
  exact ⟨hreachable, hrunning, hcreate "", ⟨t, ht, hstarts.running hrunning⟩,
    u, hu, htakes.running hrunning⟩

end Service
end PagedList
