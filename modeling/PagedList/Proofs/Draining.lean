import PagedList.Proofs.Outstanding
import PagedList.Proofs.Stragglers

/-! How long the waiting can take. Every message that is applied lowers what is left to do: messages
in the queue, tasks, stragglers, and filters that wait and will begin one more load. As long as
something is outstanding there is a message in the queue or a task that will put one there. Unlike the
exact count of awaited answers, all of this holds however often the list was reset. -/
namespace PagedList

/-- Whether a message comes from a task and not from the owner of the store. -/
def Message.isReport {ε F : Type} : Message ε F → Bool
  | .pageLoaded .. | .debounceElapsed _ => true
  | _ => false

theorem Work.isReport_of_message? {ε F : Type} {now : Nat} {w : Work ε} {m : Message ε F}
    (h : w.message? now = some m) : m.isReport = true := by
  rcases message?_cases h with ⟨_, _, _, _, _, -, -, rfl⟩ | ⟨_, _, -, -, rfl⟩ <;> rfl

namespace ListState

variable {ε F : Type} [Entity ε]

/-- The page that will be asked for when the filters that wait take effect. -/
def renewals (s : ListState ε F) : List (PageParams F) :=
  (s.pending.map fun p => ⟨0, s.limit, p.2⟩).toList

/-- A list that is loading awaits one of the answers that are still to come. -/
def Expects (s : ListState ε F) (tags : List Tag) : Prop :=
  s.isLoading = true → ∃ r ∈ tags, s.awaits r.generation r.kind = true

theorem Expects.perm {s : ListState ε F} {tags rest : List Tag} (hs : s.Expects tags)
    (h : tags.Perm rest) : s.Expects rest := fun hl => by
  obtain ⟨r, hr, ha⟩ := hs hl
  exact ⟨r, h.mem_iff.1 hr, ha⟩

theorem length_renewals_le (s : ListState ε F) : s.renewals.length ≤ 1 := by
  cases h : s.pending <;> simp [renewals, h]

variable [EmptyCollection F]

namespace Step

variable {s t : ListState ε F} {m : Message ε F} {c : Command F}

/-- An answer that is awaited is to come after every step that leaves the list loading. -/
theorem expects {loads answers : List Tag} (h : s.Step m t c) (hc : s.Coherent)
    (hs : s.Expects (m.tag?.toList ++ (loads ++ answers))) :
    t.Expects (c.loads loads ++ answers) := by
  cases h with
  | renewed | asked =>
    exact fun _ => ⟨_, List.mem_cons_self, Bool.and_eq_true_iff.2 ⟨decide_eq_true rfl, rfl⟩⟩
  | debounced | edited => exact hs
  | @loaded g k page ha =>
    have hl := hc.cursor.isLoading_pageReceived (isLoadingKind_of_awaits ha)
      (s.entities.merge page.items).1.size page.total
    exact fun ht => by simp [isLoading, hl] at ht
  | @failed g k e ha =>
    have hl := hc.cursor.isLoading_pageFailed (isLoadingKind_of_awaits ha)
    exact fun ht => by simp [isLoading, hl] at ht
  | tornDown => exact fun ht => by cases ht
  | ignored h =>
    intro ht
    obtain ⟨r, hr, ha⟩ := hs ht
    rcases List.mem_append.1 hr with hr | hr
    · -- an answer that is ignored is not the awaited one
      cases m with
      | pageLoaded g k result =>
        obtain rfl := List.mem_singleton.1 hr
        simp [ignores, ha] at h
      | _ => cases hr
    · exact ⟨r, hr, ha⟩

/-- A report asks for nothing, and no load is awaited after it that was not awaited before; or it asks
for the page of the filters that have waited. -/
theorem of_report (h : s.Step m t c) (hm : m.isReport = true) (hl : 1 ≤ s.limit) :
    (c = .none ∧ t.pending = s.pending ∧ t.limit = s.limit ∧
      ∀ g k, t.awaits g k = true → s.awaits g k = true) ∨
      ∃ g ticket filters, c = .loadPage g .initial ⟨0, s.limit, filters⟩ ∧
        s.pending = some (ticket, filters) ∧ t.pending = none := by
  have hlimit := h.limit_eq hl
  cases h with
  | @renewed m filters pending h =>
    cases m with
    | debounceElapsed ticket =>
      obtain ⟨p, hp, hpair⟩ := Option.map_eq_some_iff.1 h
      cases hpair
      exact .inr ⟨_, p.1, p.2, rfl, (Option.filter_eq_some_iff.1 hp).1, rfl⟩
    | pageLoaded => cases h
    | _ => cases hm
  | asked | debounced | edited | tornDown => cases hm
  | @loaded g k _ ha | @failed g k _ ha =>
    refine .inl ⟨rfl, rfl, hlimit, fun g' k' h => ?_⟩
    cases k <;> cases k' <;>
      simp_all [awaits, Pagination.isLoadingKind, Pagination.update, Pagination.finish]
  | ignored => exact .inl ⟨rfl, rfl, rfl, fun _ _ h => h⟩

end Step
end ListState

namespace Store

variable {ε F : Type} [Entity ε]

/-- What keeps the waiting of a store going, as long as it is not told to stop. -/
structure Live (s : Store ε F) : Prop where
  wired : s.Wired
  coherent : s.state.Coherent
  expects : s.state.Expects (s.loads ++ s.answers)
  timed : s.state.Timed s.timers s.queue
  reports : ∀ m ∈ s.queue, m.isReport = true
  loads_le : s.loads.length ≤ 1
  timers_le : s.timers.length ≤ 1

/-- How many messages are left at most before nothing is outstanding. -/
def workload (s : Store ε F) : Nat := s.queue.length + s.tasks.length + s.state.renewals.length

theorem length_tasks (s : Store ε F) : s.tasks.length = s.loads.length + s.timers.length := by
  unfold loads timers
  induction s.tasks with
  | nil => rfl
  | cons t ts ih => cases h : t.work <;> simp [h, Work.tag?, Work.ticket?, ih] <;> omega

namespace Live

variable {s : Store ε F}

theorem workload_le (hs : s.Live) : s.workload ≤ s.queue.length + 3 := by
  have htasks := s.length_tasks
  have hloads := hs.loads_le
  have htimers := hs.timers_le
  have hrenewals := s.state.length_renewals_le
  unfold workload
  omega

theorem exists_timer (hs : s.Live) (hq : s.queue = []) {ticket : Nat} {filters : F}
    (hp : s.state.pending = some (ticket, filters)) :
    ∃ t ∈ s.tasks, ∃ due, t.work = .debounce ticket due := by
  obtain ⟨-, hmem⟩ := hs.timed ticket filters hp
  have htimer : ticket ∈ s.timers := hmem.resolve_right fun h => by simp [hq] at h
  obtain ⟨t, ht, hticket⟩ := List.mem_filterMap.1 htimer
  cases hw : t.work with
  | load => simp [hw, Work.ticket?] at hticket
  | debounce ticket' due =>
    obtain rfl : ticket' = ticket := by simpa [hw, Work.ticket?] using hticket
    exact ⟨t, ht, due, hw⟩

theorem exists_load (hs : s.Live) (hq : s.queue = []) (hl : s.state.isLoading = true) :
    ∃ t ∈ s.tasks, ∃ call g k reply, t.work = .load call g k reply ∧ s.state.awaits g k = true := by
  obtain ⟨r, hr, ha⟩ := hs.expects hl
  have hload : r ∈ s.loads := by simpa [answers, hq] using hr
  obtain ⟨t, ht, htag⟩ := List.mem_filterMap.1 hload
  cases hw : t.work with
  | debounce => simp [hw, Work.tag?] at htag
  | load call g k reply =>
    obtain rfl : ⟨g, k⟩ = r := by simpa [hw, Work.tag?] using htag
    exact ⟨t, ht, call, g, k, reply, hw, ha⟩

/-- As long as something is outstanding, a message is in the queue or a task will put one there: the
load whose answer is awaited, or the waiting time of the filters that wait. -/
theorem exists_task (hs : s.Live) (hb : s.isBusy = true) :
    s.queue ≠ [] ∨ ∃ t ∈ s.tasks,
      (∃ call g k reply, t.work = .load call g k reply ∧ s.state.awaits g k = true) ∨
      ∃ ticket due filters, t.work = .debounce ticket due ∧
        s.state.pending = some (ticket, filters) := by
  by_cases hq : s.queue = []
  · refine .inr ?_
    cases hp : s.state.pending with
    | some p =>
      obtain ⟨t, ht, due, hw⟩ := hs.exists_timer hq hp
      exact ⟨t, ht, .inr ⟨p.1, due, p.2, hw, rfl⟩⟩
    | none =>
      have hl : s.state.isLoading = true := by
        simpa [isBusy, ListState.hasPendingDebounce, hp, hq] using hb
      obtain ⟨t, ht, hload⟩ := hs.exists_load hq hl
      exact ⟨t, ht, .inl hload⟩
  · exact .inl hq

theorem finish (hs : s.Live) (place : Nat) : (s.finish place).Live where
  wired := hs.wired.finish place
  coherent := s.finish_state place ▸ hs.coherent
  expects := s.finish_state place ▸ hs.expects.perm (s.perm_tags_finish place)
  timed := timed_finish hs.timed place
  reports := by
    unfold Store.finish
    split
    · rename_i m h
      obtain ⟨t, -, hm⟩ := Option.bind_eq_some_iff.1 h
      have hreport : m.isReport = true := Work.isReport_of_message? hm
      exact List.forall_mem_append.2 ⟨hs.reports, List.forall_mem_singleton.2 hreport⟩
    · exact hs.reports
  loads_le := Nat.le_trans ((s.finish_tasks place).filterMap _).length_le hs.loads_le
  timers_le := Nat.le_trans ((s.finish_tasks place).filterMap _).length_le hs.timers_le

theorem send (hs : s.Live) {m : Message ε F} (hm : m.isReport = true) :
    ({ s with queue := s.queue ++ [m] } : Store ε F).Live where
  wired := hs.wired.of_eq rfl rfl rfl rfl
  coherent := hs.coherent
  expects hl := by
    obtain ⟨r, hr, ha⟩ := hs.expects hl
    refine ⟨r, ?_, ha⟩
    show r ∈ s.loads ++ (s.queue ++ [m]).filterMap Message.tag?
    rw [answers_concat, ← List.append_assoc]
    exact List.mem_append_left _ hr
  timed := hs.timed.mono fun _ ha => List.mem_append_left _ ha
  reports := List.forall_mem_append.2 ⟨hs.reports, List.forall_mem_singleton.2 hm⟩
  loads_le := hs.loads_le
  timers_le := hs.timers_le

theorem respond (hs : s.Live) (call : Nat) (outcome : Outcome ε) :
    (s.respond call outcome).1.Live := by
  have hstate := s.respond_state call outcome
  have hqueue := s.respond_queue call outcome
  have hloads := s.loads_respond call outcome
  have htimers := s.timers_respond call outcome
  refine ⟨hs.wired.respond call outcome, hstate ▸ hs.coherent, ?_, ?_, ?_, ?_, ?_⟩
  · rw [hloads, answers, hqueue, hstate]
    exact hs.expects
  · rw [htimers, hqueue, hstate]
    exact hs.timed
  · rw [hqueue]
    exact hs.reports
  · rw [hloads]
    exact hs.loads_le
  · rw [htimers]
    exact hs.timers_le

end Live

variable [EmptyCollection F]

/-- A store stays alive with a message that until then still counts as on its way. -/
theorem live_apply {s : Store ε F} {m : Message ε F} (hw : s.Wired) (hc : s.state.Coherent)
    (he : s.state.Expects (m.tag?.toList ++ (s.loads ++ s.answers)))
    (hd : s.state.Timed s.timers (m :: s.queue)) (hr : ∀ a ∈ s.queue, a.isReport = true)
    (hl : s.loads.length ≤ 1) (ht : s.timers.length ≤ 1) : (s.apply m).Live := by
  have hstep := s.state.step_update m
  obtain ⟨hwired, hloads, htimers⟩ := hw.apply m
  refine ⟨hwired, ?_, ?_, ?_, ?_, ?_, ?_⟩
  · rw [apply_state]
    exact hstep.coherent hc
  · rw [apply_state, hloads, answers, apply_queue]
    exact hstep.expects hc he
  · rw [apply_state, htimers, apply_queue]
    exact hstep.timed hd
  · rw [apply_queue]
    exact hr
  · rw [hloads]
    cases (s.state.update m).2 <;> simp [Command.loads, hl]
  · rw [htimers]
    cases (s.state.update m).2 <;> simp [Command.timers, ht]

namespace Live

variable {s : Store ε F}

theorem perform (hs : s.Live) (ht : s.isTornDown = false) (operation : Operation ε F) :
    (s.perform operation).Live := by
  rw [perform_eq_dispatch, dispatch_eq_apply ht]
  have htag : operation.message.tag? = (none : Option Tag) := by cases operation <;> rfl
  refine live_apply hs.wired hs.coherent ?_ ?_ hs.reports hs.loads_le hs.timers_le
  · rw [htag]
    exact hs.expects
  · exact hs.timed.mono fun m hm => List.mem_cons_of_mem _ hm

theorem take (hs : s.Live) (ht : s.isTornDown = false) : s.take.Live := by
  cases hq : s.queue with
  | nil => simpa [Store.take, hq] using hs
  | cons m rest =>
    rw [take_eq_apply ht hq]
    refine live_apply (hs.wired.of_eq rfl rfl rfl rfl) hs.coherent ?_ ?_ ?_ hs.loads_le hs.timers_le
    · exact hs.expects.perm (perm_tags_take hq)
    · exact hs.timed.mono fun m hm => hq ▸ hm
    · exact fun a ha => hs.reports a (hq ▸ List.mem_cons_of_mem _ ha)

theorem happen (hs : s.Live) (e : Event ε F) (ht : (s.happen e).isTornDown = false) :
    (s.happen e).Live := by
  have hs' : s.isTornDown = false := isTornDown_of_happen ht
  cases e with
  | perform operation => exact hs.perform hs' operation
  | tearDown => simp [Store.happen, isTornDown_tearDown] at ht
  | cancel => simp [Store.happen, cancel, isTornDown] at ht
  | wait ms =>
    exact ⟨hs.wired.of_eq rfl rfl rfl rfl, hs.coherent, hs.expects, hs.timed, hs.reports,
      hs.loads_le, hs.timers_le⟩
  | respond call outcome => exact hs.respond call outcome
  | finish place => exact hs.finish place
  | abandon place =>
    have hcancelled : s.cancelled = false := (Bool.or_eq_false_iff.1 hs').2
    simpa [Store.happen, abandon, hcancelled] using hs
  | take => exact hs.take hs'

end Live

theorem live_new (loader : Loader ε F) (settings : ListSettings) :
    (new loader settings : Store ε F).Live := by
  have hfresh : (new loader { settings with initImmediately := false } : Store ε F).Live := by
    have hsound := sound_new (ε := ε) loader { settings with initImmediately := false }
    refine ⟨hsound.wired, hsound.coherent, ?_, hsound.timed, ?_, Nat.zero_le 1, Nat.zero_le 1⟩
    · exact fun hl => by cases hl
    · exact fun _ hm => nomatch hm
  exact new_induction hfresh (hfresh.happen _ rfl)

theorem live_run_new (loader : Loader ε F) (settings : ListSettings) (es : List (Event ε F))
    (ht : ((new loader settings : Store ε F).run es).isTornDown = false) :
    ((new loader settings : Store ε F).run es).Live :=
  run_induction (P := fun s => s.isTornDown = false → s.Live)
    (fun _ e hs ht => (hs (isTornDown_of_happen ht)).happen e ht)
    (fun _ => live_new loader settings) es ht

theorem workload_happen_of_isOutside (s : Store ε F) {e : Event ε F} (he : e.isOutside = true) :
    (s.happen e).workload ≤ s.workload := by
  have hstate := s.state_happen_of_isOutside he
  have hwaiting : (s.happen e).queue.length + (s.happen e).tasks.length ≤
      s.queue.length + s.tasks.length := by
    cases e with
    | perform | tearDown | take => cases he
    | cancel | wait => exact Nat.le_refl _
    | respond call outcome => simp [happen, respond_eq]
    | finish place =>
      show (s.finish place).queue.length + (s.finish place).tasks.length ≤ _
      unfold finish
      split
      · rename_i m h
        obtain ⟨t, ht, -⟩ := Option.bind_eq_some_iff.1 h
        have hplace : place < s.tasks.length := (List.getElem?_eq_some_iff.1 ht).1
        simp only [List.length_append, List.length_singleton, List.length_eraseIdx_of_lt hplace]
        omega
      · exact Nat.le_refl _
    | abandon place =>
      show (s.abandon place).queue.length + (s.abandon place).tasks.length ≤ _
      unfold abandon
      split
      · exact Nat.add_le_add_left (List.eraseIdx_sublist _ _).length_le _
      · exact Nat.le_refl _
  unfold workload
  rw [hstate]
  omega

theorem Drifts.workload_le {s t : Store ε F} (h : s.Drifts t) : t.workload ≤ s.workload := by
  induction h with
  | refl => exact Nat.le_refl _
  | step e he _ ih => exact Nat.le_trans ih (workload_happen_of_isOutside _ he)

theorem Live.drifts {s t : Store ε F} (hs : s.Live) (h : s.Drifts t) (ht : t.isTornDown = false) :
    t.Live :=
  h.induction (P := fun u => u.isTornDown = false → u.Live)
    (fun _ e _ hu hrunning => (hu (isTornDown_of_happen hrunning)).happen e hrunning) (fun _ => hs) ht

theorem take_frame {s : Store ε F} (ht : s.isTornDown = false) :
    s.take.queue = s.queue.tail ∧ s.take.loader = s.loader ∧ s.take.now = s.now := by
  cases hq : s.queue with
  | nil => simp [take, hq]
  | cons m rest =>
    rw [take_eq_apply ht hq]
    exact ⟨apply_queue _ m, apply_loader _ m, apply_now _ m⟩

theorem Live.take_cases {s : Store ε F} (hs : s.Live) (ht : s.isTornDown = false)
    (hq : s.queue ≠ []) :
    (s.take.tasks = s.tasks ∧ s.take.calls = s.calls ∧ s.take.state.pending = s.state.pending ∧
      s.take.state.limit = s.state.limit ∧
      ∀ g k, s.take.state.awaits g k = true → s.state.awaits g k = true) ∨
    ∃ g ticket filters, s.state.pending = some (ticket, filters) ∧ s.take.state.pending = none ∧
      s.take.tasks = (s.tasks.filter fun t => !t.work.isLoad) ++
        [⟨s.nextHandle, .load s.calls.length g .initial
          (s.nextReply ⟨0, s.state.limit, filters⟩)⟩] ∧
      s.take.calls = s.calls ++ [⟨0, s.state.limit, filters⟩] := by
  obtain ⟨m, rest, hqueue⟩ := List.exists_cons_of_ne_nil hq
  let s' : Store ε F := { s with queue := rest }
  have hw : s'.Wired := hs.wired.of_eq rfl rfl rfl rfl
  have hreport : m.isReport = true := hs.reports m (hqueue ▸ List.mem_cons_self)
  rw [take_eq_apply ht hqueue, apply_state]
  rcases (s.state.step_update m).of_report hreport hs.coherent.cursor.limit_pos with
    ⟨hnone, hstate⟩ | ⟨g, ticket, filters, hload, hpending, hnext⟩
  · obtain ⟨htasks, hcalls⟩ := apply_of_none (s := s') hnone
    exact .inl ⟨htasks, hcalls, hstate⟩
  · obtain ⟨htasks, hcalls⟩ := hw.apply_of_loadPage hload
    exact .inr ⟨g, ticket, filters, hpending, hnext, htasks, hcalls⟩

/-- A message that is applied leaves less to do, with what it gives up counted as still to come. The
page that it asks for, if any, is the one that was still to be asked for. -/
theorem Live.workload_take {s : Store ε F} (hs : s.Live) (ht : s.isTornDown = false)
    (hq : s.queue ≠ []) (polled : List Nat) :
    s.take.workload + (s.interrupted .take polled).length < s.workload ∧
      s.take.calls ++ s.take.state.renewals = s.calls ++ s.state.renewals := by
  have hqueue : s.take.queue.length + 1 = s.queue.length := by
    rw [(take_frame ht).1, List.length_tail]
    exact Nat.sub_add_cancel (List.length_pos_iff.2 hq)
  rcases hs.take_cases ht hq with ⟨htasks, hcalls, hpending, hlimit, -⟩ |
    ⟨g, ticket, filters, hpending, hnext, htasks, hcalls⟩
  · have hnone : s.interrupted .take polled = [] := interrupted_eq_nil (e := .take) htasks polled
    simp only [workload, ListState.renewals, htasks, hcalls, hpending, hlimit, hnone, and_true,
      List.length_nil]
    omega
  · -- only the load before the new one is given up
    have hgiven : (s.interrupted .take polled).length ≤ (s.tasks.filter (·.work.isLoad)).length := by
      refine length_interrupted_le (fun t h hload => ?_) polled
      show t ∈ s.take.tasks
      simp [htasks, h, hload]
    have hsplit := List.length_eq_length_filter_add (l := s.tasks) (·.work.isLoad)
    simp only [workload, ListState.renewals, htasks, hcalls, hpending, hnext, Option.map_some,
      Option.map_none, Option.toList_some, Option.toList_none, List.append_nil, and_true,
      List.length_append, List.length_singleton, List.length_nil]
    omega

end Store

namespace Hosted

variable {ε F : Type} [Entity ε]

/-- How many messages are left at most, those of stragglers included. -/
def workload (h : Hosted ε F) : Nat := h.store.workload + h.stragglers.length

theorem workload_late_le (h : Hosted ε F) (place : Nat) :
    (h.late place).workload ≤ h.workload := by
  unfold late
  split
  · rename_i m hm
    obtain ⟨w, hw, -⟩ := Option.bind_eq_some_iff.1 hm
    have hplace : place < h.stragglers.length := (List.getElem?_eq_some_iff.1 hw).1
    simp only [workload, Store.workload, List.length_append, List.length_singleton,
      List.length_eraseIdx_of_lt hplace]
    omega
  · exact Nat.le_refl _

variable [EmptyCollection F] {h t : Hosted ε F}

theorem live_happen (hs : h.store.Live) (e : HostedEvent ε F)
    (ht : (h.happen e).store.isTornDown = false) : (h.happen e).store.Live := by
  cases e with
  | event e polled => exact hs.happen e ht
  | late place =>
    show (h.late place).store.Live
    unfold late
    split
    · rename_i m hm
      obtain ⟨w, -, hm⟩ := Option.bind_eq_some_iff.1 hm
      exact hs.send (Work.isReport_of_message? hm)
    · exact hs
  | gone place => exact hs

theorem live_run_new (loader : Loader ε F) (settings : ListSettings)
    (es : List (HostedEvent ε F))
    (ht : ((new loader settings : Hosted ε F).run es).store.isTornDown = false) :
    ((new loader settings : Hosted ε F).run es).store.Live :=
  run_induction (P := fun h => h.store.isTornDown = false → h.store.Live)
    (fun _ e hs ht => live_happen (hs (isTornDown_of_happen ht)) e ht)
    (fun _ => Store.live_new loader settings) es ht

theorem workload_happen_of_isOutside (h : Hosted ε F) {e : HostedEvent ε F}
    (he : e.isOutside = true) : (h.happen e).workload ≤ h.workload := by
  cases e with
  | event e polled =>
    have hstore := h.store.workload_happen_of_isOutside he
    simp only [workload, happen, Store.interrupted_of_isOutside h.store he, List.append_nil,
      length_answered]
    omega
  | late place => exact h.workload_late_le place
  | gone place => exact Nat.add_le_add_left (List.eraseIdx_sublist _ _).length_le _

/-- However the waiting goes, it takes no more messages than there are left, and of the pages that
are asked for then and later none is another one than that of the filters that wait. -/
theorem Settles.le_workload {n : Nat} (hsettles : h.Settles n t) (hs : h.store.Live)
    (ht : t.store.isTornDown = false) :
    n ≤ h.workload ∧ t.store.calls ++ t.store.state.renewals =
      h.store.calls ++ h.store.state.renewals := by
  induction hsettles with
  | idle => exact ⟨Nat.zero_le _, rfl⟩
  | @meanwhile n h t e he hsettles ih =>
    have hrunning := hsettles.isTornDown_of_end ht
    obtain ⟨hle, hcalls⟩ := ih (live_happen hs e hrunning) ht
    obtain ⟨hstate, hsame⟩ := h.store_happen_of_isOutside he
    rw [hstate, hsame] at hcalls
    exact ⟨Nat.le_trans hle (h.workload_happen_of_isOutside he), hcalls⟩
  | @taken n h t polled hq hsettles ih =>
    have hnext := hsettles.isTornDown_of_end ht
    have hrunning : h.store.isTornDown = false := isTornDown_of_happen hnext
    obtain ⟨hle, hcalls⟩ := ih (live_happen hs _ hnext) ht
    obtain ⟨hlt, hcalls'⟩ := hs.workload_take hrunning hq polled
    refine ⟨?_, hcalls.trans hcalls'⟩
    simp only [workload, happen, List.length_append, length_answered] at hle ⊢
    change n ≤ h.store.take.workload + _ at hle
    omega
  | stopped => simp [happen, Store.happen, Store.isTornDown_tearDown] at ht

end Hosted
end PagedList
