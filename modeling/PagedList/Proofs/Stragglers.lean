import PagedList.Proofs.EventLoop
import PagedList.Proofs.Tasks

/-! Tasks that are given up while they are polled. A task is gone at once only if it rests; otherwise
it goes on to the end of the poll, and if it is done by then its message still comes. On a single
thread, where one poll is made at a time, the owner of a store finds all its tasks at rest. -/
namespace PagedList

/-- A store with the tasks that were given up during a poll which is not over. -/
structure Hosted (ε F : Type) [Entity ε] where
  store : Store ε F
  stragglers : List (Work ε)

inductive HostedEvent (ε F : Type) where
  /-- Something happens to the store while the tasks with some handles are polled. -/
  | event (e : Event ε F) (polled : List Nat)
  /-- A straggler puts its message into the queue. -/
  | late (place : Nat)
  /-- The poll of a straggler is over. -/
  | gone (place : Nat)

def HostedEvent.isOutside {ε F : Type} : HostedEvent ε F → Bool
  | .event e _ => e.isOutside
  | .late _ | .gone _ => true

/-- One poll at a time, as on a single thread: no task is polled while the owner of the store does
something. -/
def OneAtATime {ε F : Type} (es : List (HostedEvent ε F)) : Prop :=
  ∀ e polled, .event e polled ∈ es → polled = []

namespace Store

variable {ε F : Type} [Entity ε] [EmptyCollection F]

/-- What the owner gives up by an event although it is polled. -/
def interrupted (s : Store ε F) (e : Event ε F) (polled : List Nat) : List (Work ε) :=
  if e.isOutside then []
  else
    (s.tasks.filter fun t => polled.contains t.handle &&
      !(s.happen e).tasks.any (·.handle == t.handle)).map (·.work)

@[simp] theorem interrupted_nil (s : Store ε F) (e : Event ε F) : s.interrupted e [] = [] := by
  simp [interrupted]

/-- What is given up is among the tasks that an event may take away. -/
theorem length_interrupted_le {s : Store ε F} {e : Event ε F} {p : Task ε → Bool}
    (h : ∀ t ∈ s.tasks, p t = false → t ∈ (s.happen e).tasks) (polled : List Nat) :
    (s.interrupted e polled).length ≤ (s.tasks.filter p).length := by
  unfold interrupted
  split
  · exact Nat.zero_le _
  · rw [List.length_map, ← List.countP_eq_length_filter, ← List.countP_eq_length_filter]
    refine List.countP_mono_left fun t ht hgone => ?_
    cases hp : p t with
    | true => rfl
    | false =>
      have hstays : (s.happen e).tasks.any (·.handle == t.handle) = true :=
        List.any_eq_true.2 ⟨t, h t ht hp, beq_self_eq_true _⟩
      simp [hstays] at hgone

theorem interrupted_eq_nil {s : Store ε F} {e : Event ε F} (h : (s.happen e).tasks = s.tasks)
    (polled : List Nat) : s.interrupted e polled = [] := by
  have hlength : (s.interrupted e polled).length ≤ (s.tasks.filter fun _ => false).length :=
    length_interrupted_le (fun t ht _ => h.symm ▸ ht) polled
  simpa using hlength

theorem interrupted_of_isOutside (s : Store ε F) {e : Event ε F} (he : e.isOutside = true)
    (polled : List Nat) : s.interrupted e polled = [] := by
  simp [interrupted, he]

end Store

namespace Hosted

variable {ε F : Type} [Entity ε]

/-- The stragglers after an event, which may answer the calls that they wait for. -/
def answered (h : Hosted ε F) : Event ε F → List (Work ε)
  | .respond call outcome => h.stragglers.map (·.answered call (h.store.now, outcome))
  | _ => h.stragglers

@[simp] theorem length_answered (h : Hosted ε F) (e : Event ε F) :
    (h.answered e).length = h.stragglers.length := by
  cases e <;> simp [answered]

def late (h : Hosted ε F) (place : Nat) : Hosted ε F :=
  match (h.stragglers[place]?).bind (·.message? h.store.now) with
  | some message =>
    ⟨{ h.store with queue := h.store.queue ++ [message] }, h.stragglers.eraseIdx place⟩
  | none => h

theorem store_late (h : Hosted ε F) (place : Nat) :
    (h.late place).store = { h.store with queue := (h.late place).store.queue } := by
  unfold late
  split <;> rfl

variable [EmptyCollection F]

def new (loader : Loader ε F) (settings : ListSettings) : Hosted ε F := ⟨.new loader settings, []⟩

def happen (h : Hosted ε F) : HostedEvent ε F → Hosted ε F
  | .event e polled => ⟨h.store.happen e, h.answered e ++ h.store.interrupted e polled⟩
  | .late place => h.late place
  | .gone place => { h with stragglers := h.stragglers.eraseIdx place }

def run (h : Hosted ε F) (es : List (HostedEvent ε F)) : Hosted ε F := es.foldl happen h

theorem run_induction {P : Hosted ε F → Prop} (hP : ∀ h e, P h → P (h.happen e)) {h : Hosted ε F}
    (hs : P h) (es : List (HostedEvent ε F)) : P (h.run es) := by
  induction es generalizing h with
  | nil => exact hs
  | cons e es ih => exact ih (hP h e hs)

theorem stragglers_run_of_oneAtATime {h : Hosted ε F} (hs : h.stragglers = [])
    {es : List (HostedEvent ε F)} (hes : OneAtATime es) : (h.run es).stragglers = [] := by
  induction es generalizing h with
  | nil => exact hs
  | cons e es ih =>
    refine ih ?_ fun e' polled he' => hes e' polled (List.mem_cons_of_mem _ he')
    cases e with
    | event e polled =>
      have hpolled : polled = [] := hes e polled List.mem_cons_self
      have hanswered : h.answered e = [] := List.length_eq_zero_iff.1 (by simp [hs])
      simp [happen, hanswered, hpolled]
    | late place => simp [happen, late, hs]
    | gone place => simp [happen, hs]

theorem isTornDown_of_happen {h : Hosted ε F} {e : HostedEvent ε F}
    (ht : (h.happen e).store.isTornDown = false) : h.store.isTornDown = false := by
  cases e with
  | event e polled => exact Store.isTornDown_of_happen ht
  | late place =>
    simp only [happen, late] at ht
    split at ht <;> exact ht
  | gone place => exact ht

theorem store_happen_of_isOutside (h : Hosted ε F) {e : HostedEvent ε F} (he : e.isOutside = true) :
    (h.happen e).store.state = h.store.state ∧ (h.happen e).store.calls = h.store.calls := by
  cases e with
  | event e polled =>
    show (h.store.happen e).state = _ ∧ (h.store.happen e).calls = _
    rw [Store.happen_eq_of_isOutside h.store he]
    exact ⟨rfl, rfl⟩
  | late place =>
    show (h.late place).store.state = _ ∧ (h.late place).store.calls = _
    rw [h.store_late place]
    exact ⟨rfl, rfl⟩
  | gone place => exact ⟨rfl, rfl⟩

/-- How the waiting may go with stragglers. `n` counts the messages that are applied. -/
inductive Settles : Nat → Hosted ε F → Hosted ε F → Prop
  | idle {h} (hb : h.store.isBusy = false) : Settles 0 h h
  | meanwhile {n h t} (e : HostedEvent ε F) (he : e.isOutside = true)
    (hs : Settles n (h.happen e) t) : Settles n h t
  | taken {n h t} (polled : List Nat) (hq : h.store.queue ≠ [])
    (hs : Settles n (h.happen (.event .take polled)) t) : Settles (n + 1) h t
  | stopped {h} (polled : List Nat) (hb : h.store.isBusy = true)
    (ht : h.store.isTornDown = true) : Settles 0 h (h.happen (.event .tearDown polled))

namespace Settles

variable {n : Nat} {h t : Hosted ε F}

theorem isTornDown_of_end (hs : h.Settles n t) (ht : t.store.isTornDown = false) :
    h.store.isTornDown = false := by
  induction hs with
  | idle => exact ht
  | meanwhile e _ _ ih => exact isTornDown_of_happen (ih ht)
  | taken polled _ _ ih => exact isTornDown_of_happen (ih ht)
  | stopped => simp [happen, Store.happen, Store.isTornDown_tearDown] at ht

theorem isBusy_eq_false (hs : h.Settles n t) (ht : t.store.isTornDown = false) :
    t.store.isBusy = false := by
  induction hs with
  | idle hb => exact hb
  | meanwhile _ _ _ ih | taken _ _ _ ih => exact ih ht
  | stopped => simp [happen, Store.happen, Store.isTornDown_tearDown] at ht

end Settles

end Hosted

/-- The ways in which a store may settle are there with stragglers too, which need not be heard of. -/
theorem Store.Settles.hosted {ε F : Type} [Entity ε] [EmptyCollection F] {n : Nat}
    {s t : Store ε F} (hs : s.Settles n t) (stragglers : List (Work ε)) :
    ∃ rest, Hosted.Settles n ⟨s, stragglers⟩ ⟨t, rest⟩ := by
  induction hs generalizing stragglers with
  | idle hb => exact ⟨stragglers, .idle hb⟩
  | meanwhile e he _ ih =>
    obtain ⟨rest, hrest⟩ := ih _
    exact ⟨rest, .meanwhile (.event e []) he hrest⟩
  | taken hq _ ih =>
    obtain ⟨rest, hrest⟩ := ih _
    exact ⟨rest, .taken [] hq hrest⟩
  | stopped hb ht => exact ⟨_, .stopped [] hb ht⟩

end PagedList
