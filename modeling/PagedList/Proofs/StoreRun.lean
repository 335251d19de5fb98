import PagedList.Proofs.ListRun
import PagedList.Store

/-! Runs of a store: operations, answers from outside, tasks that end and messages that are taken out
of the queue, in any order. Whatever happens to the state in such a run is a run of the list. -/
namespace PagedList

/-- What the owner of a store can ask it for while it goes on. -/
inductive Operation (ε F : Type) where
  | init (filters : Option F)
  | paginate
  | setFilters (filters : F)
  | setFiltersDebounced (filters : F)
  | clearFilters
  | editEntity (entity : ε)

def Operation.message {ε F : Type} : Operation ε F → Message ε F
  | .init filters => .initRequested filters
  | .paginate => .paginateRequested
  | .setFilters filters => .filtersChanged filters
  | .setFiltersDebounced filters => .filtersDebounced filters
  | .clearFilters => .filtersCleared
  | .editEntity entity => .entityEdited entity

theorem Operation.message_ne_tornDown {ε F : Type} (operation : Operation ε F) :
    operation.message ≠ .tornDown := by
  cases operation <;> simp [message]

inductive Event (ε F : Type) where
  | perform (operation : Operation ε F)
  | tearDown
  | cancel
  | wait (ms : Nat)
  | respond (call : Nat) (outcome : Outcome ε)
  /-- The task at this place puts its message into the queue, if it is done. -/
  | finish (place : Nat)
  /-- The task at this place ends without a message, if it is a load of a store told to stop. -/
  | abandon (place : Nat)
  /-- The next message is taken out of the queue. -/
  | take

/-- Whether an event comes from the world or from the tasks and not from the owner of the store. -/
def Event.isOutside {ε F : Type} : Event ε F → Bool
  | .perform _ | .tearDown | .take => false
  | .cancel | .wait _ | .respond .. | .finish _ | .abandon _ => true

namespace Store

variable {ε F : Type} [Entity ε]

def finish (s : Store ε F) (place : Nat) : Store ε F :=
  match (s.tasks[place]?).bind (·.work.message? s.now) with
  | some message =>
    { s with queue := s.queue ++ [message], tasks := s.tasks.eraseIdx place }
  | none => s

def abandon (s : Store ε F) (place : Nat) : Store ε F :=
  if s.cancelled && (s.tasks[place]?).any (·.work.isLoad) then
    { s with tasks := s.tasks.eraseIdx place }
  else s

variable [EmptyCollection F]

def perform (s : Store ε F) : Operation ε F → Store ε F
  | .init filters => s.init filters
  | .paginate => s.paginate
  | .setFilters filters => s.setFilters filters
  | .setFiltersDebounced filters => s.setFiltersDebounced filters
  | .clearFilters => s.clearFilters
  | .editEntity entity => s.editEntity entity

def take (s : Store ε F) : Store ε F :=
  match s.queue with
  | message :: rest => { s with queue := rest }.dispatch message
  | [] => s

def happen (s : Store ε F) : Event ε F → Store ε F
  | .perform operation => s.perform operation
  | .tearDown => s.tearDown
  | .cancel => s.cancel
  | .wait ms => { s with now := s.now + ms }
  | .respond call outcome => (s.respond call outcome).1
  | .finish place => s.finish place
  | .abandon place => s.abandon place
  | .take => s.take

def run (s : Store ε F) (es : List (Event ε F)) : Store ε F := es.foldl happen s

@[simp] theorem run_nil (s : Store ε F) : s.run [] = s := rfl

@[simp] theorem run_cons (s : Store ε F) (e : Event ε F) (es : List (Event ε F)) :
    s.run (e :: es) = (s.happen e).run es := rfl

@[simp] theorem run_append (s : Store ε F) (es fs : List (Event ε F)) :
    s.run (es ++ fs) = (s.run es).run fs := List.foldl_append

theorem run_induction {P : Store ε F → Prop} (h : ∀ s e, P s → P (s.happen e)) {s : Store ε F}
    (hs : P s) (es : List (Event ε F)) : P (s.run es) := by
  induction es generalizing s with
  | nil => exact hs
  | cons e es ih => exact ih (h s e hs)

theorem perform_eq_dispatch (s : Store ε F) (operation : Operation ε F) :
    s.perform operation = s.dispatch operation.message := by
  cases operation <;> rfl

theorem new_of_initImmediately (loader : Loader ε F) {settings : ListSettings}
    (h : settings.initImmediately = true) :
    new loader settings =
      (new loader { settings with initImmediately := false } : Store ε F).happen
        (.perform (.init none)) := by
  simp only [new, h]
  rfl

/-- What holds before the first call holds of every new store, if it is kept with the first load. -/
theorem new_induction {P : Store ε F → Prop} {loader : Loader ε F} {settings : ListSettings}
    (h : P (new loader { settings with initImmediately := false }))
    (hinit : P ((new loader { settings with initImmediately := false }).happen
      (.perform (.init none)))) : P (new loader settings) := by
  cases hi : settings.initImmediately with
  | false =>
    rw [← hi] at h
    exact h
  | true =>
    rw [new_of_initImmediately loader hi]
    exact hinit

theorem receive?_of_queue {s : Store ε F} (ht : s.isTornDown = false) (hq : s.queue ≠ []) :
    s.receive? = some (s.take, true) := by
  obtain ⟨m, rest, hqueue⟩ := List.exists_cons_of_ne_nil hq
  simp [receive?, ht, hqueue, take]

theorem receive?_eq_true {s t : Store ε F} (h : s.receive? = some (t, true)) :
    s.queue ≠ [] ∧ t = s.take := by
  unfold receive? at h
  split at h
  · cases h
  · split at h
    · rename_i m rest hq
      cases h
      exact ⟨by simp [hq], by simp [take, hq]⟩
    · cases h

theorem receive?_eq_false {s t : Store ε F} (h : s.receive? = some (t, false)) :
    s.isTornDown = true ∧ t = s.tearDown := by
  unfold receive? at h
  split at h
  · rename_i hstop
    cases h
    exact ⟨hstop, rfl⟩
  · split at h <;> cases h

/-- What happens outside changes the time, the queue, the tasks, and whether to stop. -/
theorem happen_eq_of_isOutside (s : Store ε F) {e : Event ε F} (he : e.isOutside = true) :
    s.happen e =
      { s with
        now := (s.happen e).now
        queue := (s.happen e).queue
        tasks := (s.happen e).tasks
        cancelled := (s.happen e).cancelled } := by
  cases e with
  | perform | tearDown | take => cases he
  | cancel | wait => rfl
  | respond call outcome =>
    simp only [happen, respond]
    split <;> rfl
  | finish place =>
    simp only [happen, finish]
    split <;> rfl
  | abandon place =>
    simp only [happen, abandon]
    split <;> rfl

/-- Whether one store can become another one while its owner does nothing. -/
inductive Drifts : Store ε F → Store ε F → Prop
  | refl (s : Store ε F) : Drifts s s
  | step {s t : Store ε F} (e : Event ε F) (he : e.isOutside = true) (h : Drifts (s.happen e) t) :
    Drifts s t

theorem Drifts.trans {s t u : Store ε F} (h : s.Drifts t) (h' : t.Drifts u) : s.Drifts u := by
  induction h with
  | refl => exact h'
  | step e he _ ih => exact .step e he (ih h')

theorem Drifts.induction {P : Store ε F → Prop}
    (hP : ∀ s e, Event.isOutside e = true → P s → P (s.happen e)) {s t : Store ε F}
    (h : s.Drifts t) (hs : P s) : P t := by
  induction h with
  | refl => exact hs
  | step e he _ ih => exact ih (hP _ e he hs)

theorem Drifts.eq {s t : Store ε F} (h : s.Drifts t) :
    t = { s with now := t.now, queue := t.queue, tasks := t.tasks, cancelled := t.cancelled } := by
  induction h with
  | refl => rfl
  | step e he _ ih => rwa [happen_eq_of_isOutside _ he] at ih

/-- The tasks at the end of the list go on one after the other, each as an event. -/
theorem drifts_tasks {s : Store ε F} {kept rest : List (Task ε)} (h : s.tasks = kept ++ rest) :
    let alive := rest.filter fun t => !(s.cancelled && t.work.isLoad)
    s.Drifts { s with
      queue := s.queue ++ alive.filterMap fun t => t.work.message? s.now
      tasks := kept ++ alive.filter fun t => (t.work.message? (F := F) s.now).isNone } := by
  induction rest generalizing s kept with
  | nil =>
    rw [List.append_nil] at h
    simpa [← h] using Drifts.refl s
  | cons t rest ih =>
    have hplace : s.tasks[kept.length]? = some t := by simp [h]
    have hrest : s.tasks.eraseIdx kept.length = kept ++ rest := by
      rw [h, List.eraseIdx_append_of_length_le (Nat.le_refl _)]
      simp
    cases hdead : s.cancelled && t.work.isLoad with
    | true =>
      have halive : (!s.cancelled || !t.work.isLoad) = false := by rw [← Bool.not_and, hdead]; rfl
      have hnext : (s.abandon kept.length).tasks = kept ++ rest := by
        simp [abandon, hplace, hdead, hrest]
      refine .step (.abandon kept.length) rfl ?_
      simpa [happen, abandon, hplace, hdead, halive] using ih hnext
    | false =>
      have halive : (!s.cancelled || !t.work.isLoad) = true := by rw [← Bool.not_and, hdead]; rfl
      cases hm : t.work.message? (F := F) s.now with
      | some m =>
        have hnext : (s.finish kept.length).tasks = kept ++ rest := by
          simp [finish, hplace, hm, hrest]
        refine .step (.finish kept.length) rfl ?_
        simpa [happen, finish, hplace, hm, halive] using ih hnext
      | none =>
        have hnext : s.tasks = (kept ++ [t]) ++ rest := by simp [h]
        simpa [hm, halive] using ih hnext

theorem drifts_runTasks (s : Store ε F) : s.Drifts s.runTasks :=
  drifts_tasks (List.nil_append s.tasks).symm

omit [EmptyCollection F] in
theorem execute_eq (s : Store ε F) (c : Command F) :
    s.execute c =
      { s with
        tasks := (s.execute c).tasks
        nextHandle := (s.execute c).nextHandle
        inFlight := (s.execute c).inFlight
        debounceTimer := (s.execute c).debounceTimer
        calls := (s.execute c).calls } := by
  have habort : ∀ (t : Store ε F) (handle : Option Nat),
      t.abort handle = { t with tasks := (t.abort handle).tasks } := fun t handle => by
    cases handle <;> rfl
  cases c with
  | loadPage generation kind params =>
    simp only [execute, load, spawn]
    rw [habort]
  | scheduleDebounce ticket =>
    simp only [execute, schedule, spawn]
    rw [habort]
  | cancelAll =>
    simp only [execute]
    rw [habort, habort]
  | none => rfl

/-- A message changes the state, and beside it only what is done for the command and what is
published. -/
theorem apply_eq (s : Store ε F) (m : Message ε F) :
    s.apply m =
      { { s with state := (s.state.update m).1 }.execute (s.state.update m).2 with
        published := (s.apply m).published
        version := (s.apply m).version } := by
  by_cases h : (s.state.update m).1.revision = s.state.revision <;> simp only [apply, h] <;> rfl

@[simp] theorem apply_state (s : Store ε F) (m : Message ε F) :
    (s.apply m).state = (s.state.update m).1 := by
  rw [apply_eq, execute_eq]

@[simp] theorem apply_queue (s : Store ε F) (m : Message ε F) : (s.apply m).queue = s.queue := by
  rw [apply_eq, execute_eq]

@[simp] theorem apply_now (s : Store ε F) (m : Message ε F) : (s.apply m).now = s.now := by
  rw [apply_eq, execute_eq]

@[simp] theorem apply_loader (s : Store ε F) (m : Message ε F) : (s.apply m).loader = s.loader := by
  rw [apply_eq, execute_eq]

@[simp] theorem apply_debounceMs (s : Store ε F) (m : Message ε F) :
    (s.apply m).debounceMs = s.debounceMs := by
  rw [apply_eq, execute_eq]

@[simp] theorem apply_cancelled (s : Store ε F) (m : Message ε F) :
    (s.apply m).cancelled = s.cancelled := by
  rw [apply_eq, execute_eq]

@[simp] theorem apply_tornDown (s : Store ε F) (m : Message ε F) :
    (s.apply m).tornDown = s.tornDown := by
  rw [apply_eq, execute_eq]

@[simp] theorem isTornDown_apply (s : Store ε F) (m : Message ε F) :
    (s.apply m).isTornDown = s.isTornDown := by
  rw [isTornDown, apply_tornDown, apply_cancelled, isTornDown]

theorem apply_of_none {s : Store ε F} {m : Message ε F} (h : (s.state.update m).2 = .none) :
    (s.apply m).tasks = s.tasks ∧ (s.apply m).calls = s.calls := by
  rw [apply_eq, h]
  exact ⟨rfl, rfl⟩

theorem apply_eq_of_ignores {s : Store ε F} {m : Message ε F} (h : s.state.ignores m = true) :
    s.apply m = s := by
  simp only [apply, ListState.update_eq_of_ignores h, execute, if_pos]

theorem dispatch_eq_apply {s : Store ε F} (h : s.isTornDown = false) (m : Message ε F) :
    s.dispatch m = s.apply m := by
  simp [dispatch, h]

theorem take_eq_apply {s : Store ε F} (h : s.isTornDown = false) {m : Message ε F}
    {rest : List (Message ε F)} (hq : s.queue = m :: rest) :
    s.take = { s with queue := rest }.apply m := by
  have hrest : { s with queue := rest }.isTornDown = false := h
  rw [← dispatch_eq_apply hrest]
  simp [take, hq]

theorem isTornDown_tearDown (s : Store ε F) : s.tearDown.isTornDown = true := by
  unfold tearDown
  split
  · rename_i h
    simp [isTornDown, h]
  · simp [isTornDown]

/-- The messages that reach the state when one is dispatched. -/
def dispatched (s : Store ε F) (m : Message ε F) : List (Message ε F) :=
  if s.isTornDown then if s.tornDown then [] else [.tornDown] else [m]

/-- The messages that reach the state with an event. -/
def applied (s : Store ε F) : Event ε F → List (Message ε F)
  | .perform operation => s.dispatched operation.message
  | .tearDown => if s.tornDown then [] else [.tornDown]
  | .take => (s.queue.head?).elim [] s.dispatched
  | _ => []

omit [EmptyCollection F] in
theorem mem_dispatched {s : Store ε F} {m n : Message ε F} (h : m ∈ s.dispatched n) :
    m = .tornDown ∨ s.isTornDown = false ∧ m = n := by
  unfold dispatched at h
  split at h
  · split at h
    · cases h
    · exact .inl (List.mem_singleton.1 h)
  · rename_i hstop
    exact .inr ⟨Bool.not_eq_true _ ▸ hstop, List.mem_singleton.1 h⟩

omit [EmptyCollection F] in
theorem mem_applied {s : Store ε F} {e : Event ε F} {m : Message ε F} (h : m ∈ s.applied e) :
    m = .tornDown ∨ s.isTornDown = false ∧
      ((∃ operation, e = .perform operation ∧ m = operation.message) ∨
        e = .take ∧ ∃ rest, s.queue = m :: rest) := by
  cases e with
  | perform operation =>
    exact (mem_dispatched h).imp_right fun ⟨hs, hm⟩ => ⟨hs, .inl ⟨operation, rfl, hm⟩⟩
  | tearDown =>
    simp only [applied] at h
    split at h
    · cases h
    · exact .inl (List.mem_singleton.1 h)
  | take =>
    cases hq : s.queue with
    | nil => simp [applied, hq] at h
    | cons n rest =>
      simp only [applied, hq, List.head?_cons, Option.elim_some] at h
      exact (mem_dispatched h).imp_right fun ⟨hs, hm⟩ => ⟨hs, .inr ⟨rfl, rest, hm ▸ rfl⟩⟩
  | cancel | wait | respond | finish | abandon => cases h

/-- The messages that reach the state in a run. -/
def messages (s : Store ε F) : List (Event ε F) → List (Message ε F)
  | [] => []
  | e :: es => s.applied e ++ (s.happen e).messages es

theorem tearDown_state (s : Store ε F) :
    s.tearDown.state = s.state.run (if s.tornDown then [] else [.tornDown]) := by
  unfold tearDown
  split
  · rfl
  · exact apply_state _ _

theorem dispatch_state (s : Store ε F) (m : Message ε F) :
    (s.dispatch m).state = s.state.run (s.dispatched m) := by
  unfold dispatch dispatched
  split
  · exact tearDown_state s
  · exact apply_state s m

theorem happen_state (s : Store ε F) (e : Event ε F) :
    (s.happen e).state = s.state.run (s.applied e) := by
  cases e with
  | perform operation =>
    show (s.perform operation).state = _
    rw [perform_eq_dispatch]
    exact dispatch_state s operation.message
  | tearDown => exact tearDown_state s
  | take =>
    show s.take.state = s.state.run ((s.queue.head?).elim [] s.dispatched)
    unfold take
    split
    · rename_i m rest hq
      rw [hq, dispatch_state]
      rfl
    · rename_i hq
      rw [hq]
      rfl
  | cancel | wait | respond | finish | abandon =>
    rw [happen_eq_of_isOutside s rfl]
    rfl

theorem run_state (s : Store ε F) (es : List (Event ε F)) :
    (s.run es).state = s.state.run (s.messages es) := by
  induction es generalizing s with
  | nil => rfl
  | cons e es ih =>
    rw [run_cons, ih, happen_state, messages, ListState.run_append]

end Store
end PagedList
