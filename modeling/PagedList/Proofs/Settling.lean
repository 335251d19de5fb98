import PagedList.Proofs.Outstanding
import PagedList.Session

/-! Waiting for a page. When a list that is left to itself asks for a page and its loader answers on
its own, then waiting until nothing is outstanding comes to an end, with the page taken in. -/
namespace PagedList

theorem Pagination.isLoading_of_isLoadingKind {p : Pagination} {kind : LoadKind}
    (h : p.isLoadingKind kind = true) : p.isLoading = true := by
  cases kind with
  | initial => exact Bool.or_eq_true_iff.2 (.inl h)
  | more => exact Bool.or_eq_true_iff.2 (.inr h)

theorem ListState.pending_applyPage {ε F : Type} [Entity ε] (s : ListState ε F) (g : Generation)
    (k : LoadKind) (result : Except LoadError (Page ε)) :
    (s.applyPage g k result).pending = s.pending := by
  unfold applyPage
  split
  · rfl
  · split
    · rfl
    · cases result <;> rfl

namespace Store

variable {ε F : Type} [Entity ε] {s : Store ε F}

theorem runTasks_of_nil (h : s.tasks = []) : s.runTasks = s := by
  cases s
  simp_all [runTasks]

theorem runTasks_of_lt (hc : s.cancelled = false) {handle call due : Nat} {g : Generation}
    {k : LoadKind} {outcome : Outcome ε}
    (h : s.tasks = [⟨handle, .load call g k (some (due, outcome))⟩]) (hlt : s.now < due) :
    s.runTasks = s := by
  have hdue : ¬due ≤ s.now := Nat.not_le.2 hlt
  cases s
  simp_all [runTasks, Work.message?]

theorem runTasks_of_le (hc : s.cancelled = false) {handle call due : Nat} {g : Generation}
    {k : LoadKind} {outcome : Outcome ε}
    (h : s.tasks = [⟨handle, .load call g k (some (due, outcome))⟩]) (hle : due ≤ s.now) :
    s.runTasks =
      { s with queue := s.queue ++ [.pageLoaded g k outcome.result], tasks := [] } := by
  simp [runTasks, h, hc, Work.message?, hle]

end Store

namespace Session

variable {ε F : Type} [Entity ε] [EmptyCollection F]

omit [EmptyCollection F] in
theorem runDue_of_nil {s : Session ε F} (h : s.agenda = []) :
    s.runDue = { s with store := s.store.runTasks } := by
  simp [runDue, h]

omit [EmptyCollection F] in
theorem runDue_eq_self {s : Session ε F} (h : s.agenda = []) (ht : s.store.runTasks = s.store) :
    s.runDue = s := by
  rw [runDue_of_nil h, ht]

/-- A list left to itself: nothing comes from outside, no filters wait, and all tasks are loads. -/
structure Alone (s : Session ε F) : Prop where
  agenda : s.agenda = []
  running : s.store.isTornDown = false
  pending : s.store.state.pending = none
  wired : s.store.Wired
  coherent : s.store.state.Coherent
  loads : ∀ t ∈ s.store.tasks, t.work.isLoad = true

/-- A list that waits for one page, whose answer is the last message in the queue or will be put
there by the only task; of the messages before it none is of interest. -/
structure Awaiting (s : Session ε F) (g : Generation) (k : LoadKind) (outcome : Outcome ε)
    (before : List (Message ε F)) : Prop extends Alone s where
  awaited : s.store.state.awaits g k = true
  ignored : ∀ m ∈ before, s.store.state.ignores m = true
  coming : (s.store.queue = before ++ [.pageLoaded g k outcome.result] ∧ s.store.tasks = []) ∨
    s.store.queue = before ∧ ∃ handle call due, s.now < due ∧
      s.store.tasks = [⟨handle, .load call g k (some (due, outcome))⟩]

/-- The session when the last message has been taken in at some time. -/
def atRest (s : Session ε F) (now : Nat) (m : Message ε F) : Session ε F :=
  { s with store := { s.store with now := now, queue := [], tasks := [] }.apply m }

theorem awaitNext_of_queue {s : Session ε F} (hr : s.store.isTornDown = false) {m : Message ε F}
    {rest : List (Message ε F)} (hq : s.store.queue = m :: rest) :
    s.awaitNext = ({ s with store := { s.store with queue := rest }.apply m }, some true) := by
  have hreceive := Store.receive?_of_queue hr (by simp [hq])
  rw [Store.take_eq_apply hr hq] at hreceive
  simp [awaitNext, hq, awaitMessage, hreceive]

/-- Time passes until the only load is answered, and then the answer is taken in. -/
theorem awaitNext_of_load {s : Session ε F} (ha : s.agenda = []) (hr : s.store.isTornDown = false)
    (hq : s.store.queue = []) {handle call due : Nat} {g : Generation} {k : LoadKind}
    {outcome : Outcome ε} (ht : s.store.tasks = [⟨handle, .load call g k (some (due, outcome))⟩])
    (hlt : s.now < due) :
    s.awaitNext = (s.atRest due (.pageLoaded g k outcome.result), some true) := by
  have hc : s.store.cancelled = false := (Bool.or_eq_false_iff.1 hr).2
  have hself : s.runDue = s := runDue_eq_self ha (Store.runTasks_of_lt hc ht hlt)
  have hdue : s.nextDue = some due := by
    simp [nextDue, Store.nextDue, ha, ht, Work.due]
  have hfuel : s.outstanding + 1 = 1 + 1 := by simp [outstanding, ha, ht]
  have hnone : s.store.receive? = none := by simp [Store.receive?, hr, hq]
  -- at the time of the answer the queue holds it and nothing else
  let ready : Session ε F :=
    { s with store := { s.store with
        now := due
        queue := [.pageLoaded g k outcome.result]
        tasks := [] } }
  have hready : (s.setNow (max due s.now)).runDue = ready := by
    have hran := Store.runTasks_of_le (s := { s.store with now := due }) hc ht (Nat.le_refl due)
    rw [Nat.max_eq_left (Nat.le_of_lt hlt), runDue_of_nil (by exact ha), setNow, hran]
    simp only [hq, List.nil_append, ready]
  have hrest : (s.atRest due (.pageLoaded g k outcome.result)).store =
      ({ ready.store with queue := [] } : Store ε F).apply (.pageLoaded g k outcome.result) := rfl
  have hreceive : ready.store.receive? =
      some ((s.atRest due (.pageLoaded g k outcome.result)).store, true) := by
    have hrunning : ready.store.isTornDown = false := hr
    have hemptied : ({ ready.store with queue := [] } : Store ε F).isTornDown = false := hr
    rw [hrest, ← Store.dispatch_eq_apply hemptied]
    simp [Store.receive?, hrunning, ready]
  calc
    s.awaitNext = awaitMessage (1 + 1) s := by
      simp only [awaitNext, hq, List.isEmpty_nil, if_true, hself, hfuel]
    _ = awaitMessage 1 ready := by
      simp only [awaitMessage, hnone, hdue, hready]
    _ = _ := by
      simp only [awaitMessage, hreceive]
      rfl

theorem drive_of_next {wanted : Store ε F → Bool} {began fuel : Nat} {s t : Session ε F}
    (hw : wanted s.store = true) (h : s.awaitNext = (t, some true)) :
    drive wanted began (fuel + 1) s = drive wanted began fuel t := by
  simp [drive, hw, h]

namespace Awaiting

variable {s : Session ε F} {g : Generation} {k : LoadKind} {outcome : Outcome ε}
  {before : List (Message ε F)}

omit [EmptyCollection F] in
theorem isBusy (h : s.Awaiting g k outcome before) : s.store.isBusy = true := by
  have hl := Pagination.isLoading_of_isLoadingKind (ListState.isLoadingKind_of_awaits h.awaited)
  have hl' : s.store.state.isLoading = true := hl
  simp [Store.isBusy, hl']

theorem isBusy_atRest (h : s.Awaiting g k outcome before) (now : Nat) :
    (s.atRest now (.pageLoaded g k outcome.result)).store.isBusy = false := by
  have hloading := h.coherent.isLoading_of_awaits h.awaited outcome.result
  have hpending : (s.store.state.update (.pageLoaded g k outcome.result)).1.pending = none :=
    (s.store.state.pending_applyPage g k outcome.result).trans h.pending
  simp [Store.isBusy, atRest, hloading, ListState.hasPendingDebounce, hpending]

theorem drive_eq (h : s.Awaiting g k outcome before) (began fuel : Nat) :
    ∃ now ms, drive Store.isBusy began (fuel + before.length + 2) s =
      (s.atRest now (.pageLoaded g k outcome.result), .ended true ms) := by
  induction before generalizing s with
  | nil =>
    have hnext : ∃ now, s.awaitNext =
        (s.atRest now (.pageLoaded g k outcome.result), some true) := by
      rcases h.coming with ⟨hq, ht⟩ | ⟨hq, handle, call, due, hlt, ht⟩
      · refine ⟨s.now, ?_⟩
        rw [awaitNext_of_queue h.running hq]
        simp [atRest, ← ht, now]
      · exact ⟨due, awaitNext_of_load h.agenda h.running hq ht hlt⟩
    obtain ⟨now, hnext⟩ := hnext
    rw [List.length_nil, Nat.add_zero, drive_of_next h.isBusy hnext]
    exact ⟨now, _, by simp [drive, h.isBusy_atRest now]; rfl⟩
  | cons m rest ih =>
    -- the message in front is of no interest, so without it the session waits for the same page
    have hskipped : ∀ queue, ({ s.store with queue := queue } : Store ε F).apply m =
        { s.store with queue := queue } := fun queue =>
      Store.apply_eq_of_ignores (h.ignored m List.mem_cons_self)
    have hrest : ∃ queue, s.store.queue = m :: queue ∧
        ({ s with store := { s.store with queue := queue } } : Session ε F).Awaiting g k outcome
          rest := by
      have hignored : ∀ m ∈ rest, s.store.state.ignores m = true := fun m hm =>
        h.ignored m (List.mem_cons_of_mem _ hm)
      rcases h.coming with ⟨hq, ht⟩ | ⟨hq, hload⟩
      · exact ⟨_, hq, ⟨h.toAlone.agenda, h.running, h.pending, h.wired.of_eq rfl rfl rfl rfl,
          h.coherent, h.loads⟩, h.awaited, hignored, .inl ⟨rfl, ht⟩⟩
      · exact ⟨_, hq, ⟨h.toAlone.agenda, h.running, h.pending, h.wired.of_eq rfl rfl rfl rfl,
          h.coherent, h.loads⟩, h.awaited, hignored, .inr ⟨rfl, hload⟩⟩
    obtain ⟨queue, hq, hrest⟩ := hrest
    obtain ⟨now, ms, hdrive⟩ := ih hrest
    have hnext := awaitNext_of_queue h.running hq
    rw [hskipped] at hnext
    refine ⟨now, ms, ?_⟩
    rw [List.length_cons, ← Nat.add_assoc, Nat.add_right_comm _ 1,
      drive_of_next h.isBusy hnext, hdrive]
    rfl

theorem alone_atRest (h : s.Awaiting g k outcome before) (now : Nat) :
    let t := s.atRest now (.pageLoaded g k outcome.result)
    t.Alone ∧ t.store.queue = [] ∧ t.store.tasks = [] ∧ t.store.calls = s.store.calls := by
  let answer : Message ε F := .pageLoaded g k outcome.result
  let idle : Store ε F := { s.store with now := now, queue := [], tasks := [] }
  have hidle : idle.Wired := h.wired.of_tasks rfl rfl rfl fun t ht => nomatch ht
  obtain ⟨htasks, hcalls⟩ :
      (idle.apply answer).tasks = [] ∧ (idle.apply answer).calls = idle.calls :=
    Store.apply_of_none rfl
  have hstate : (idle.apply answer).state = (s.store.state.update answer).1 :=
    Store.apply_state idle answer
  have hrunning : (idle.apply answer).isTornDown = false :=
    (Store.isTornDown_apply idle answer).trans h.running
  have hwired : (idle.apply answer).Wired := (hidle.apply answer).1
  have hcoherent : (idle.apply answer).state.Coherent :=
    hstate ▸ (s.store.state.step_update answer).coherent h.coherent
  have hpending : (idle.apply answer).state.pending = none :=
    hstate ▸ (s.store.state.pending_applyPage g k outcome.result).trans h.pending
  exact ⟨⟨h.agenda, hrunning, hpending, hwired, hcoherent, fun t ht => nomatch htasks ▸ ht⟩,
    Store.apply_queue idle answer, htasks, hcalls⟩

theorem settle_eq (h : s.Awaiting g k outcome before) :
    ∃ now ms, s.settle = (s.atRest now (.pageLoaded g k outcome.result), .ended true ms) := by
  have hbound : ∃ fuel, s.messageBound = fuel + before.length + 2 := by
    rcases h.coming with ⟨hq, ht⟩ | ⟨hq, -⟩
    · exact ⟨2, by simp [messageBound, hq, ht]; omega⟩
    · exact ⟨s.store.tasks.length + 1, by simp [messageBound, hq]; omega⟩
  obtain ⟨fuel, hbound⟩ := hbound
  obtain ⟨now, ms, hdrive⟩ := h.drive_eq s.now fuel
  have hself : (s.atRest now (.pageLoaded g k outcome.result)).runDue =
      s.atRest now (.pageLoaded g k outcome.result) :=
    runDue_eq_self h.agenda (Store.runTasks_of_nil (h.alone_atRest now).2.2.1)
  exact ⟨now, ms, by simp only [settle, hbound, hdrive, hself]⟩

end Awaiting

namespace Alone

variable {s : Session ε F} {m : Message ε F} {g : Generation} {k : LoadKind}
  {params : PageParams F} {ms : Nat} {outcome : Outcome ε}

theorem awaiting_onStore (h : s.Alone) (hm : (s.store.state.update m).2 = .loadPage g k params)
    (hp : (s.store.state.update m).1.pending = none)
    (hq : ∀ a ∈ s.store.queue, (s.store.state.update m).1.ignores a = true)
    (hr : s.store.loader.reply s.store.calls.length params = .after ms outcome) :
    let t := s.onStore (·.dispatch m)
    t.Awaiting g k outcome s.store.queue ∧ t.store.state = (s.store.state.update m).1 ∧
      t.store.calls = s.store.calls ++ [params] ∧ t.store.loader = s.store.loader := by
  have hstep := s.store.state.step_update m
  obtain ⟨htasks, hcalls⟩ := h.wired.apply_load h.loads hm hr
  have hstate : (s.store.apply m).state = (s.store.state.update m).1 := Store.apply_state _ _
  have hrunning : (s.store.apply m).isTornDown = false :=
    (Store.isTornDown_apply s.store m).trans h.running
  have hcancelled : (s.store.apply m).cancelled = false := (Bool.or_eq_false_iff.1 hrunning).2
  have hwired := (h.wired.apply m).1
  have hcoherent : (s.store.apply m).state.Coherent := hstate ▸ hstep.coherent h.coherent
  have hpending : (s.store.apply m).state.pending = none := hstate ▸ hp
  have hawaits : (s.store.apply m).state.awaits g k = true := by
    rw [hm] at hstep
    exact hstate ▸ hstep.awaits_of_loadPage
  have hignored : ∀ a ∈ s.store.queue, (s.store.apply m).state.ignores a = true := hstate ▸ hq
  have hqueue : (s.store.apply m).queue = s.store.queue := Store.apply_queue _ _
  intro t
  have ht : t = { s with store := (s.store.apply m).runTasks } := by
    show ({ s with store := s.store.dispatch m } : Session ε F).runDue = _
    rw [Store.dispatch_eq_apply h.running, runDue_of_nil (by exact h.agenda)]
  -- either the answer is in the queue at once, or the load goes on waiting
  by_cases hms : ms = 0
  · have hran := Store.runTasks_of_le hcancelled htasks (by simp [hms])
    rw [hran, hqueue] at ht
    rw [ht]
    refine ⟨⟨⟨h.agenda, hrunning, hpending, ?_, hcoherent, fun _ ha => nomatch ha⟩, hawaits,
      hignored, .inl ⟨rfl, rfl⟩⟩, hstate, hcalls, Store.apply_loader _ _⟩
    exact hwired.of_tasks rfl rfl rfl fun _ ha => nomatch ha
  · have hlt : (s.store.apply m).now < s.store.now + ms := by
      rw [Store.apply_now]
      omega
    have hran := Store.runTasks_of_lt hcancelled htasks hlt
    rw [hran] at ht
    rw [ht]
    refine ⟨⟨⟨h.agenda, hrunning, hpending, hwired, hcoherent, ?_⟩, hawaits, hignored,
      .inr ⟨hqueue, _, _, _, hlt, htasks⟩⟩, hstate, hcalls, Store.apply_loader _ _⟩
    intro a ha
    rw [htasks, List.mem_singleton] at ha
    rw [ha]
    rfl

/-- A list that asks for a page and waits ends up with that page taken in. -/
theorem settle_onStore (h : s.Alone) (hm : (s.store.state.update m).2 = .loadPage g k params)
    (hp : (s.store.state.update m).1.pending = none)
    (hq : ∀ a ∈ s.store.queue, (s.store.state.update m).1.ignores a = true)
    (hr : s.store.loader.reply s.store.calls.length params = .after ms outcome) :
    ∃ t waited, (s.onStore (·.dispatch m)).settle = (t, .ended true waited) ∧ t.Alone ∧
      t.store.queue = [] ∧
      t.store.state = (s.store.state.update m).1.applyPage g k outcome.result ∧
      t.store.calls = s.store.calls ++ [params] ∧ t.store.loader = s.store.loader := by
  obtain ⟨hawaiting, hstate, hcalls, hloader⟩ := h.awaiting_onStore hm hp hq hr
  obtain ⟨now, waited, hsettle⟩ := hawaiting.settle_eq
  obtain ⟨halone, hqueue, -, hcalls'⟩ := hawaiting.alone_atRest now
  refine ⟨_, waited, hsettle, halone, hqueue, ?_, hcalls'.trans hcalls, ?_⟩
  · rw [← hstate]
    exact Store.apply_state _ _
  · rw [← hloader]
    exact Store.apply_loader _ _

end Alone

/-! How a list begins -/

def fresh (loader : Loader ε F) (settings : ListSettings) : Session ε F where
  store := Store.new loader { settings with initImmediately := false }
  dropped := false
  agenda := []
  watchers := []

theorem alone_fresh (loader : Loader ε F) (settings : ListSettings) :
    (fresh loader settings).Alone where
  agenda := rfl
  running := rfl
  pending := rfl
  wired := (Store.sound_new loader { settings with initImmediately := false }).wired
  coherent := (Store.sound_new loader { settings with initImmediately := false }).coherent
  loads _ ht := nomatch ht

theorem start_new (loader : Loader ε F) (settings : ListSettings) :
    start (Store.new loader settings) =
      if settings.initImmediately then
        (fresh loader settings).onStore (·.dispatch (.initRequested none))
      else fresh loader settings := by
  cases hi : settings.initImmediately <;> simp only [start, fresh, Store.new, hi] <;> rfl

/-- A new list with a loader that answers on its own is left to itself, and whatever is in its queue
is of no interest after a reset. -/
theorem alone_start (loader : Loader ε F) (settings : ListSettings)
    (hr : ∀ call params, ∃ ms outcome, loader.reply call params = .after ms outcome) :
    let s := start (Store.new loader settings)
    s.Alone ∧ s.store.loader = loader ∧ s.store.state.limit = max settings.limit 1 ∧
      s.store.calls =
        (if settings.initImmediately then [⟨0, max settings.limit 1, ∅⟩] else []) ∧
      ∀ a ∈ s.store.queue, ∀ t : ListState ε F,
        t.generation = s.store.state.generation.next → t.ignores a = true := by
  intro s
  have hs := start_new loader settings
  cases hi : settings.initImmediately with
  | false =>
    rw [hi] at hs
    have hs : s = fresh loader settings := hs
    rw [hs]
    exact ⟨alone_fresh loader settings, rfl, rfl, rfl, fun a ha => nomatch ha⟩
  | true =>
    rw [hi] at hs
    have hs : s = (fresh loader settings).onStore (·.dispatch (.initRequested none)) := hs
    obtain ⟨ms, outcome, hreply⟩ := hr 0 ⟨0, max settings.limit 1, ∅⟩
    obtain ⟨hawaiting, hstate, hcalls, hloader⟩ :=
      (alone_fresh loader settings).awaiting_onStore (m := .initRequested none) rfl rfl
        (fun a ha => nomatch ha) hreply
    rw [← hs] at hawaiting hstate hcalls hloader
    refine ⟨hawaiting.toAlone, hloader, hstate ▸ rfl, hcalls, fun a ha t ht => ?_⟩
    -- only the answer to the first load can be in the queue
    rcases hawaiting.coming with ⟨hq, -⟩ | ⟨hq, -⟩
    · rw [hq, List.mem_append, List.mem_singleton] at ha
      obtain ha | rfl := ha
      · cases ha
      · have hg := ListState.generation_eq_of_awaits hawaiting.awaited
        have hne := (Generation.next_ne s.store.state.generation).symm
        rw [hg, ListState.ignores, ListState.awaits, ht, decide_eq_false hne]
        rfl
    · rw [hq] at ha
      cases ha

end Session
end PagedList
