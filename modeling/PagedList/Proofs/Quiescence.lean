import PagedList.Game
import PagedList.Proofs.Draining
import PagedList.Proofs.Jumps

/-! Waiting until nothing is outstanding comes to an end. If all answers that a list waits for come at
some time and nobody stops it, then time passes from one thing that happens to the next one until
there is a message, and every message leaves less to do. -/
namespace PagedList
namespace Session

variable {ε F : Type} [Entity ε]

/-- All that a list waits for comes: nobody stops it, and each load whose answer it awaits is answered
at some time. So is the load that the filters that wait will begin, either by the loader on its own
or later than it is begun. -/
structure Attended (s : Session ε F) : Prop where
  uncancelled : ∀ time, (time, .cancel) ∉ s.agenda
  underway : ∀ t ∈ s.store.tasks, ∀ call g k, t.work = .load call g k none →
    s.store.state.awaits g k = true → ∃ time outcome, (time, .respond call outcome) ∈ s.agenda
  renewal : ∀ ticket filters, s.store.state.pending = some (ticket, filters) →
    (∃ ms outcome, s.store.loader.reply s.store.calls.length ⟨0, s.store.state.limit, filters⟩ =
      .after ms outcome) ∨
    ∃ time outcome, (time, .respond s.store.calls.length outcome) ∈ s.agenda ∧
      ∀ t ∈ s.store.tasks, ∀ due, t.work = .debounce ticket due → max due s.now < time

theorem Attended.setNow {s : Session ε F} (hs : s.Attended) {now : Nat}
    (h : ∀ t ∈ s.store.tasks, ∀ due, t.work.due = some due → now ≤ max due s.now) :
    (s.setNow now).Attended where
  uncancelled := hs.uncancelled
  underway := hs.underway
  renewal ticket filters hp := by
    refine (hs.renewal ticket filters hp).imp_right ?_
    rintro ⟨time, outcome, he, hlater⟩
    refine ⟨time, outcome, he, fun t ht due hw => ?_⟩
    have hnow := h t ht due (by rw [hw]; rfl)
    have hbefore := hlater t ht due hw
    have hsame : (s.setNow now).now = now := rfl
    omega

variable [EmptyCollection F]

namespace Attended

variable {s : Session ε F}

theorem runDue (hs : s.Attended) (hlive : s.store.Live) (hq : s.store.queue = []) :
    s.runDue.Attended := by
  have hstore := s.drifts_runDue.eq
  have hstate : s.runDue.store.state = s.store.state := by rw [hstore]
  have hcalls : s.runDue.store.calls = s.store.calls := by rw [hstore]
  have hloader : s.runDue.store.loader = s.store.loader := by rw [hstore]
  refine ⟨fun time h => hs.uncancelled time (mem_agenda_runDue.1 h).1, ?_, ?_⟩
  · intro t ht call g k hw ha
    rw [hstate] at ha
    obtain ⟨hmem, hopen⟩ := mem_tasks_of_runDue ht (by rw [hw]; rfl)
    obtain ⟨time, outcome, he⟩ := hs.underway t hmem call g k hw ha
    refine ⟨time, outcome, mem_agenda_runDue.2 ⟨he, Nat.lt_of_not_le fun hle => ?_⟩⟩
    -- an answer that was due would have reached the load
    have hawaits := hopen time call outcome he hle
    simp [hw, Work.awaits] at hawaits
  · intro ticket filters hp
    rw [hstate] at hp
    rw [hstate, hcalls, hloader]
    refine (hs.renewal ticket filters hp).imp_right ?_
    rintro ⟨time, outcome, he, hlater⟩
    -- the time of the filters runs, so the answer is not due yet
    obtain ⟨t, ht, due, hw⟩ := hlive.exists_timer hq hp
    have hnow := hlater t ht due hw
    refine ⟨time, outcome, mem_agenda_runDue.2 ⟨he, by simp only; omega⟩, ?_⟩
    intro t ht due hw
    rw [now_runDue]
    exact hlater t (mem_tasks_of_runDue ht (by rw [hw]; rfl)).1 due hw

/-- A message may be applied: if it asks for a page, then for that of the filters that have waited. -/
theorem take (hs : s.Attended) (hlive : s.store.Live) (ht : s.store.isTornDown = false)
    (hq : s.store.queue ≠ []) : ({ s with store := s.store.take } : Session ε F).Attended := by
  obtain ⟨-, hloader, hnow⟩ := Store.take_frame ht
  rcases hlive.take_cases ht hq with ⟨htasks, hcalls, hpending, hlimit, hawaits⟩ |
    ⟨g, ticket, filters, hpending, hnext, htasks, hcalls⟩
  · refine ⟨hs.uncancelled, fun t ht call g k hw ha => ?_, fun ticket filters hp => ?_⟩
    · exact hs.underway t (htasks ▸ ht) call g k hw (hawaits g k ha)
    · have hsame := hs.renewal ticket filters (hpending ▸ hp)
      simpa only [hloader, hcalls, hlimit, htasks, now, hnow] using hsame
  · refine ⟨hs.uncancelled, fun t ht call g k hw _ => ?_, fun _ _ hp => ?_⟩
    · -- the only load is the new one
      simp only [htasks, List.mem_append, List.mem_filter, List.mem_singleton] at ht
      rcases ht with ⟨-, ht⟩ | rfl
      · simp [hw, Work.isLoad] at ht
      · simp only [Work.load.injEq] at hw
        obtain ⟨rfl, -, -, hreply⟩ := hw
        rcases hs.renewal ticket filters hpending with ⟨ms, outcome, hafter⟩ |
          ⟨time, outcome, he, -⟩
        · simp [Store.nextReply, hafter] at hreply
        · exact ⟨time, outcome, he⟩
    · simp [hnext] at hp

end Attended

/-- A store that goes on, in a session in which all comes that it waits for. -/
structure Going (s : Session ε F) : Prop extends Attended s where
  running : s.store.isTornDown = false
  live : s.store.Live

namespace Going

variable {s : Session ε F}

theorem runDue (hs : s.Going) (hq : s.store.queue = []) : s.runDue.Going := by
  have hdrifts := s.drifts_runDue
  have htornDown : s.runDue.store.tornDown = s.store.tornDown := by rw [hdrifts.eq]
  have hrunning : s.runDue.store.isTornDown = false := by
    rw [Store.isTornDown, htornDown, cancelled_runDue hs.uncancelled]
    exact hs.running
  exact ⟨hs.toAttended.runDue hs.live hq, hrunning, hs.live.drifts hdrifts hrunning⟩

theorem setNow (hs : s.Going) {due : Nat} (h : s.nextDue = some due) :
    (s.setNow (max due s.now)).Going := by
  have hrunning : (s.setNow (max due s.now)).store.isTornDown = false := hs.running
  refine ⟨hs.toAttended.setNow fun t ht time htime => ?_, hrunning, ?_⟩
  · have hle := nextDue_le h ht htime
    omega
  · exact hs.live.drifts (s.drifts_setNow (Nat.le_max_right due s.now)) hrunning

theorem take (hs : s.Going) (hq : s.store.queue ≠ []) :
    ({ s with store := s.store.take } : Session ε F).Going := by
  have hrunning : s.store.take.isTornDown = false :=
    (s.store.isTornDown_happen_eq (e := .take) (by simp) (by simp)).trans hs.running
  exact ⟨hs.toAttended.take hs.live hs.running hq, hrunning, hs.live.take hs.running⟩

omit [EmptyCollection F] in
theorem exists_nextDue (hs : s.Going) (hb : s.store.isBusy = true) (hq : s.store.queue = []) :
    ∃ due, s.nextDue = some due := by
  refine Session.exists_nextDue ?_
  obtain ⟨t, ht, hwork⟩ := (hs.live.exists_task hb).resolve_left (by simp [hq])
  rcases hwork with ⟨call, g, k, reply, hw, ha⟩ | ⟨ticket, due, filters, hw, -⟩
  · cases reply with
    | none =>
      obtain ⟨time, outcome, he⟩ := hs.underway t ht call g k hw ha
      exact .inl ⟨_, he⟩
    | some reply => exact .inr ⟨t, ht, reply.1, by rw [hw]; rfl⟩
  · exact .inr ⟨t, ht, due, by rw [hw]; rfl⟩

/-- Fewer and fewer things are still to happen until there is a message. -/
theorem awaitMessage_eq (hs : s.Going) (hb : s.store.isBusy = true) {fuel : Nat}
    (hfuel : s.outstanding < fuel) : ∃ t, awaitMessage fuel s = (t, some true) ∧ t.Going := by
  induction fuel generalizing s with
  | zero => exact absurd hfuel (Nat.not_lt_zero _)
  | succ fuel ih =>
    by_cases hq : s.store.queue = []
    · have hnone : s.store.receive? = none := by simp [Store.receive?, hs.running, hq]
      obtain ⟨due, hdue⟩ := hs.exists_nextDue hb hq
      let next := (s.setNow (max due s.now)).runDue
      have hdrifts : s.store.Drifts next.store :=
        s.drifts_setNow_runDue (Nat.le_max_right due s.now)
      have hless : next.outstanding < s.outstanding := outstanding_lt hdue
      obtain ⟨t, ht, hgoing⟩ := ih ((hs.setNow hdue).runDue hq) (hdrifts.isBusy hb)
        (Nat.lt_of_lt_of_le hless (Nat.le_of_lt_succ hfuel))
      exact ⟨t, by simp only [awaitMessage, hnone, hdue]; exact ht, hgoing⟩
    · have hreceive := Store.receive?_of_queue hs.running hq
      exact ⟨_, by simp only [awaitMessage, hreceive], hs.take hq⟩

theorem awaitNext_eq (hs : s.Going) (hb : s.store.isBusy = true) :
    ∃ t, s.awaitNext = (t, some true) ∧ t.Going ∧ t.store.workload < s.store.workload := by
  obtain ⟨t, hnext, hgoing⟩ : ∃ t, s.awaitNext = (t, some true) ∧ t.Going := by
    by_cases hq : s.store.queue = []
    · have hbusy := s.drifts_runDue.isBusy hb
      simp only [awaitNext, hq, List.isEmpty_nil, if_true]
      exact (hs.runDue hq).awaitMessage_eq hbusy (Nat.lt_succ_self _)
    · have hreceive := Store.receive?_of_queue hs.running hq
      exact ⟨_, by simp [awaitNext, hq, awaitMessage, hreceive], hs.take hq⟩
  obtain ⟨u, hdrifts, hreceive⟩ := drifts_of_awaitNext hnext
  obtain ⟨hq, htake⟩ := Store.receive?_eq_true hreceive
  have hrunning : u.isTornDown = false := by
    refine Store.isTornDown_of_happen (e := .take) ?_
    show u.take.isTornDown = false
    rw [← htake]
    exact hgoing.running
  have hlt := ((hs.live.drifts hdrifts hrunning).workload_take hrunning hq []).1
  rw [← htake, Store.interrupted_nil] at hlt
  exact ⟨t, hnext, hgoing, Nat.lt_of_lt_of_le hlt hdrifts.workload_le⟩

theorem drive_eq (hs : s.Going) (began : Nat) {fuel : Nat} (hfuel : s.store.workload < fuel) :
    ∃ t, drive Store.isBusy began fuel s = (t, .ended true (t.now - began)) ∧ t.Going := by
  induction fuel generalizing s with
  | zero => exact absurd hfuel (Nat.not_lt_zero _)
  | succ fuel ih =>
    cases hb : s.store.isBusy with
    | false => exact ⟨s, by simp [drive, hb], hs⟩
    | true =>
      obtain ⟨next, hnext, hgoing, hlt⟩ := hs.awaitNext_eq hb
      obtain ⟨t, ht, hgoing'⟩ := ih hgoing (by omega)
      exact ⟨t, by simp only [drive, hb, hnext, if_true]; exact ht, hgoing'⟩

theorem settle_eq (hs : s.Going) :
    ∃ (t : Session ε F) (n : Nat), s.settle = (t.runDue, .ended true (t.now - s.now)) ∧
      s.store.Settles n t.store ∧ t.store.isTornDown = false := by
  have hfuel : s.store.workload < s.messageBound := by
    have hrenewals := s.store.state.length_renewals_le
    simp only [Store.workload, messageBound]
    omega
  obtain ⟨t, hdrive, hgoing⟩ := hs.drive_eq s.now hfuel
  obtain ⟨n, -, hsettles⟩ := settles_of_drive hdrive
  exact ⟨t, n, by simp only [settle, hdrive], hsettles, hgoing.running⟩

end Going

/-- From whatever a store has come to, unless it was told to stop: as long as anything is outstanding,
there is a message in the queue or a task for what is awaited. In whatever order things come, at most
three messages beyond those in the queue and those of stragglers are applied until nothing is
outstanding, and there are no stragglers where one poll is made at a time; then no load is awaited, no
filters wait, the queue is empty, and the loader was asked for nothing but the first page for the
filters that waited. And if all comes that is waited for, then the waiting ends. -/
theorem settles_if_attended (loader : Loader ε F) (settings : ListSettings)
    (es : List (HostedEvent ε F)) :
    let h : Hosted ε F := (Hosted.new loader settings).run es
    let s := h.store
    s.isTornDown = false →
      (s.isBusy = true → s.queue ≠ [] ∨ ∃ t ∈ s.tasks,
        (∃ call g k reply, t.work = .load call g k reply ∧ s.state.awaits g k = true) ∨
        ∃ ticket due filters, t.work = .debounce ticket due ∧
          s.state.pending = some (ticket, filters)) ∧
      (∀ n t, h.Settles n t → t.store.isTornDown = false →
        n ≤ s.queue.length + h.stragglers.length + 3 ∧
          (OneAtATime es → n ≤ s.queue.length + 3) ∧
          t.store.state.isLoading = false ∧ t.store.state.pending = none ∧ t.store.queue = [] ∧
          t.store.calls =
            s.calls ++ (s.state.pending.map fun p => ⟨0, s.state.limit, p.2⟩).toList) ∧
      ∀ session : Session ε F, session.store = s → session.Attended →
        ∃ (t : Session ε F) (n : Nat) (rest : List (Work ε)),
          session.settle = (t.runDue, .ended true (t.now - s.now)) ∧
            h.Settles n ⟨t.store, rest⟩ ∧ t.store.isTornDown = false := by
  intro h s ht
  have hlive : s.Live := Hosted.live_run_new loader settings es ht
  refine ⟨hlive.exists_task, fun n t hsettles hrunning => ?_, fun session hstore hs => ?_⟩
  · obtain ⟨hle, hcalls⟩ := hsettles.le_workload hlive hrunning
    obtain ⟨hloading, hpending, hqueue⟩ :=
      Store.isBusy_eq_false_iff.1 (hsettles.isBusy_eq_false hrunning)
    have hbound : n ≤ s.queue.length + h.stragglers.length + 3 := by
      have hworkload : h.store.workload ≤ s.queue.length + 3 := hlive.workload_le
      unfold Hosted.workload at hle
      omega
    refine ⟨hbound, fun hes => ?_, hloading, hpending, hqueue, ?_⟩
    · have hnone : h.stragglers = [] := Hosted.stragglers_run_of_oneAtATime rfl hes
      simpa [hnone] using hbound
    · have hrenewals : t.store.state.renewals = [] := by simp [ListState.renewals, hpending]
      rwa [hrenewals, List.append_nil] at hcalls
  · have hgoing : session.Going := ⟨hs, hstore ▸ ht, hstore ▸ hlive⟩
    have hnow : session.now = s.now := congrArg Store.now hstore
    obtain ⟨t, n, hsettle, hsettles, hrunning⟩ := hgoing.settle_eq
    obtain ⟨rest, hhosted⟩ := hsettles.hosted h.stragglers
    rw [hstore] at hhosted
    exact ⟨t, n, rest, hnow ▸ hsettle, hhosted, hrunning⟩

/-- A load is given up while other filters wait, perhaps during a poll. The first page of the load
after it is answered soon, and that for the filters later. -/
theorem settles_with_renewal :
    let filters := FilterSet.empty.insert "category" (.string "RTS")
    let page : Outcome Game := .answer (.ok ⟨[⟨1, "StarCraft"⟩], 1⟩)
    let es (polled : List Nat) : List (HostedEvent Game FilterSet) :=
      [.event (.perform (.setFiltersDebounced filters)) [], .event (.perform (.init none)) polled]
    let h (polled : List Nat) := (Hosted.new .scripted ⟨2, 300, true⟩).run (es polled)
    let session : Session Game FilterSet :=
      ⟨(h []).store, false, [(100, .respond 1 page), (400, .respond 2 page)], []⟩
    (h []).store.isTornDown = false ∧ OneAtATime (es []) ∧ session.Attended ∧
      (∃ (t : Session Game FilterSet) (n : Nat) (rest : List (Work Game)),
        session.settle = (t.runDue, .ended true t.now) ∧ (h []).Settles n ⟨t.store, rest⟩ ∧
          t.store.isTornDown = false ∧ n ≤ 0 + 3 ∧ t.store.queue = [] ∧
          t.store.calls = [⟨0, 2, .empty⟩, ⟨0, 2, .empty⟩, ⟨0, 2, filters⟩]) ∧
      (h [0]).stragglers.length = 1 ∧
      ∀ n t, (h [0]).Settles n t → t.store.isTornDown = false → n ≤ 0 + 1 + 3 := by
  intro filters page es h session
  have ht : (h []).store.isTornDown = false := by decide
  have hes : OneAtATime (es []) := by
    intro e polled he
    simp only [es, List.mem_cons, HostedEvent.event.injEq, List.not_mem_nil, or_false] at he
    rcases he with ⟨-, rfl⟩ | ⟨-, rfl⟩ <;> rfl
  have htasks : session.store.tasks =
      [⟨1, .debounce 1 300⟩, ⟨2, .load 1 ⟨2⟩ .initial none⟩] := rfl
  have hs : session.Attended := by
    refine ⟨fun time h => ?_, fun t ht call g k hw _ => ?_, fun ticket filters hp => ?_⟩
    · simp [session] at h
    · rw [htasks] at ht
      obtain rfl | rfl : t = _ ∨ t = _ := by simpa using ht
      · cases hw
      · cases hw
        exact ⟨100, page, List.mem_cons_self⟩
    · refine .inr ⟨400, page, List.mem_cons_of_mem _ List.mem_cons_self, fun t ht due hw => ?_⟩
      rw [htasks] at ht
      obtain rfl | rfl : t = _ ∨ t = _ := by simpa using ht
      · cases hw
        decide
      · cases hw
  obtain ⟨-, hall, hends⟩ := settles_if_attended .scripted ⟨2, 300, true⟩ (es []) ht
  obtain ⟨t, n, rest, hsettle, hsettles, hrunning⟩ := hends session rfl hs
  obtain ⟨-, hle, -, -, hqueue, hcalls⟩ := hall n _ hsettles hrunning
  refine ⟨ht, hes, hs, ⟨t, n, rest, hsettle, hsettles, hrunning, hle hes, hqueue, hcalls⟩, rfl, ?_⟩
  intro n t hsettles hrunning
  exact ((settles_if_attended .scripted ⟨2, 300, true⟩ (es [0]) ht).2.1 n t hsettles hrunning).1

end Session
end PagedList
