import PagedList.Proofs.Draining
import PagedList.Proofs.RequestedFilters

/-! Filters that are put off. Those that wait are the latest of them, and the waiting for them is not
over before its time, however tasks, queue and clock go on. The message about earlier ones may be on its
way already; but its ticket is not the one that is waited for. -/
namespace PagedList

def Event.isDebounced {ε F : Type} : Event ε F → Bool
  | .perform (.setFiltersDebounced _) => true
  | _ => false

namespace Store

variable {ε F : Type} [Entity ε]

/-- The time at which the waiting for a ticket is over. It is over now if the message about it is
already on its way. -/
inductive Ends (s : Store ε F) (ticket : Nat) : Nat → Prop
  | running {t due} (ht : t ∈ s.tasks) (hw : t.work = .debounce ticket due) : s.Ends ticket due
  | elapsed (hm : .debounceElapsed ticket ∈ s.queue) : s.Ends ticket s.now

theorem debounce_mem_execute {s : Store ε F} {c : Command F} {t : Task ε} {ticket due : Nat}
    (ht : t ∈ (s.execute c).tasks) (hw : t.work = .debounce ticket due) :
    t ∈ s.tasks ∨ c = .scheduleDebounce ticket ∧ due = s.now + s.debounceMs := by
  cases c with
  | loadPage g k params =>
    simp only [execute, load, spawn, abort_tasks, List.mem_filter, List.mem_append,
      List.mem_singleton] at ht
    rcases ht.1 with ht | rfl
    · exact .inl ht
    · cases hw
  | scheduleDebounce scheduled =>
    simp only [execute, schedule, spawn, abort_tasks, List.mem_filter, List.mem_append,
      List.mem_singleton] at ht
    rcases ht.1 with ht | rfl
    · exact .inl ht
    · cases hw
      exact .inr ⟨rfl, rfl⟩
  | cancelAll =>
    simp only [execute, abort_tasks, List.mem_filter] at ht
    exact .inl ht.1.1
  | none => exact .inl ht

variable [EmptyCollection F]

theorem Ends.of_isOutside {s : Store ε F} {e : Event ε F} (he : e.isOutside = true)
    {ticket time : Nat} (h : (s.happen e).Ends ticket time) :
    ∃ earlier ≤ time, s.Ends ticket earlier := by
  cases e with
  | perform | tearDown | take => cases he
  | cancel =>
    cases h with
    | running ht hw => exact ⟨_, Nat.le_refl _, .running ht hw⟩
    | elapsed hm => exact ⟨_, Nat.le_refl _, .elapsed hm⟩
  | wait ms =>
    cases h with
    | running ht hw => exact ⟨_, Nat.le_refl _, .running ht hw⟩
    | elapsed hm => exact ⟨_, Nat.le_add_right _ ms, .elapsed hm⟩
  | respond call outcome =>
    simp only [happen, respond_eq] at h
    cases h with
    | running ht hw =>
      obtain ⟨b, hb, rfl⟩ := List.mem_map.1 ht
      exact ⟨_, Nat.le_refl _, .running hb (Work.eq_debounce_of_answered hw)⟩
    | elapsed hm => exact ⟨_, Nat.le_refl _, .elapsed hm⟩
  | finish place =>
    simp only [happen, finish] at h
    split at h
    · rename_i m hfinish
      obtain ⟨t, ht, hmessage⟩ := Option.bind_eq_some_iff.1 hfinish
      cases h with
      | running ht hw => exact ⟨_, Nat.le_refl _, .running (List.mem_of_mem_eraseIdx ht) hw⟩
      | elapsed hm =>
        rcases List.mem_append.1 hm with hm | hm
        · exact ⟨_, Nat.le_refl _, .elapsed hm⟩
        · -- the task was done at its own time, which has come by now
          obtain rfl := List.mem_singleton.1 hm
          rcases Work.message?_cases hmessage with ⟨_, _, _, _, _, -, -, hload⟩ |
            ⟨ended, due, hw, hdue, helapsed⟩
          · cases hload
          · cases helapsed
            exact ⟨due, hdue, .running (List.mem_of_getElem? ht) hw⟩
    · exact ⟨time, Nat.le_refl _, h⟩
  | abandon place =>
    simp only [happen, abandon] at h
    split at h
    · cases h with
      | running ht hw => exact ⟨_, Nat.le_refl _, .running (List.mem_of_mem_eraseIdx ht) hw⟩
      | elapsed hm => exact ⟨_, Nat.le_refl _, .elapsed hm⟩
    · exact ⟨time, Nat.le_refl _, h⟩

/-- With a message the waiting for a ticket begins if filters are put off with it. -/
theorem Ends.of_apply {s : Store ε F} {m : Message ε F} {ticket time : Nat}
    (h : (s.apply m).Ends ticket time) :
    s.Ends ticket time ∨ (∃ filters, m = .filtersDebounced filters) ∧
      ticket = s.state.lastTicket + 1 ∧ time = s.now + s.debounceMs := by
  cases h with
  | running ht hw =>
    rw [apply_eq] at ht
    rcases debounce_mem_execute ht hw with ht | ⟨hc, hdue⟩
    · exact .inl (.running ht hw)
    · obtain ⟨hput, hticket⟩ := (hc ▸ s.state.step_update m).eq_of_scheduleDebounce
      exact .inr ⟨hput, hticket, hdue⟩
  | elapsed hm =>
    rw [apply_queue] at hm
    rw [apply_now]
    exact .inl (.elapsed hm)

structure Deferral (F : Type) where
  since : Nat
  ticket : Nat
  filters : F

def deferral (s : Store ε F) (last : Option (Deferral F)) : Event ε F → Option (Deferral F)
  | .perform (.setFiltersDebounced filters) => some ⟨s.now, s.state.lastTicket + 1, filters⟩
  | _ => last

omit [EmptyCollection F] in
theorem deferral_of_isDebounced (s : Store ε F) (last : Option (Deferral F)) {e : Event ε F}
    (h : e.isDebounced = true) : ∃ filters,
      e = .perform (.setFiltersDebounced filters) ∧
        s.deferral last e = some ⟨s.now, s.state.lastTicket + 1, filters⟩ := by
  unfold Event.isDebounced at h
  split at h
  · exact ⟨_, rfl, rfl⟩
  · cases h

omit [EmptyCollection F] in
theorem deferral_of_not_isDebounced {s : Store ε F} {last : Option (Deferral F)} {e : Event ε F}
    (h : e.isDebounced = false) : s.deferral last e = last := by
  unfold deferral
  split
  · cases h
  · rfl

/-- What was put off last, after a run. -/
def lastDeferral (s : Store ε F) (last : Option (Deferral F)) :
    List (Event ε F) → Option (Deferral F)
  | [] => last
  | e :: es => (s.happen e).lastDeferral (s.deferral last e) es

/-- The filters that were put off last in a run, or else before it. -/
theorem lastDeferral_eq_some {s : Store ε F} {last : Option (Deferral F)} {es : List (Event ε F)}
    {p : Deferral F} (h : s.lastDeferral last es = some p) :
    (∃ before after, es = before ++ .perform (.setFiltersDebounced p.filters) :: after ∧
      (s.run before).now = p.since ∧ (s.run before).state.lastTicket + 1 = p.ticket ∧
      ∀ e ∈ after, e.isDebounced = false) ∨
    last = some p ∧ ∀ e ∈ es, e.isDebounced = false := by
  induction es generalizing s last with
  | nil => exact .inr ⟨h, fun _ he => nomatch he⟩
  | cons e es ih =>
    rcases ih h with ⟨before, after, rfl, hnow, hticket, hafter⟩ | ⟨hlast, hes⟩
    · exact .inl ⟨e :: before, after, rfl, hnow, hticket, hafter⟩
    · cases he : e.isDebounced with
      | true =>
        obtain ⟨given, rfl, hput⟩ := s.deferral_of_isDebounced last he
        obtain rfl := Option.some.inj (hput.symm.trans hlast)
        exact .inl ⟨[], es, rfl, rfl, rfl, hes⟩
      | false =>
        rw [deferral_of_not_isDebounced he] at hlast
        exact .inr ⟨hlast, List.forall_mem_cons.2 ⟨he, hes⟩⟩

/-- The filters that wait were put off last, and the waiting for them is not over before its time. -/
structure Punctual (s : Store ε F) (waiting : Nat) (last : Option (Deferral F)) : Prop where
  waiting_eq : s.debounceMs = waiting
  given : ∀ ticket time, s.Ends ticket time → ticket ≤ s.state.lastTicket
  late : ∀ ticket filters, s.state.pending = some (ticket, filters) →
    ∃ since, last = some ⟨since, ticket, filters⟩ ∧
      ∀ time, s.Ends ticket time → since + waiting ≤ time

namespace Punctual

variable {s : Store ε F} {waiting : Nat} {last : Option (Deferral F)}

theorem outside (hs : s.Punctual waiting last) {e : Event ε F} (he : e.isOutside = true) :
    (s.happen e).Punctual waiting last := by
  have hframe := s.happen_eq_of_isOutside he
  have hstate : (s.happen e).state = s.state := s.state_happen_of_isOutside he
  refine ⟨?_, fun ticket time h => ?_, fun ticket filters hp => ?_⟩
  · rw [hframe]
    exact hs.waiting_eq
  · obtain ⟨earlier, -, h⟩ := h.of_isOutside he
    exact hstate ▸ hs.given ticket earlier h
  · obtain ⟨since, hlast, hlate⟩ := hs.late ticket filters (hstate ▸ hp)
    refine ⟨since, hlast, fun time h => ?_⟩
    obtain ⟨earlier, hle, h⟩ := h.of_isOutside he
    exact Nat.le_trans (hlate earlier h) hle

omit [EmptyCollection F] in
theorem rest (hs : s.Punctual waiting last) {m : Message ε F} {rest : List (Message ε F)}
    (hq : s.queue = m :: rest) : ({ s with queue := rest } : Store ε F).Punctual waiting last := by
  have hends : ∀ ticket time, ({ s with queue := rest } : Store ε F).Ends ticket time →
      s.Ends ticket time := fun ticket time h => by
    cases h with
    | running ht hw => exact .running ht hw
    | elapsed hm => exact .elapsed (hq ▸ List.mem_cons_of_mem m hm)
  refine ⟨hs.waiting_eq, fun ticket time h => hs.given ticket time (hends _ _ h), ?_⟩
  intro ticket filters hp
  obtain ⟨since, hlast, hlate⟩ := hs.late ticket filters hp
  exact ⟨since, hlast, fun time h => hlate time (hends _ _ h)⟩

theorem apply (hs : s.Punctual waiting last) {m : Message ε F} {last' : Option (Deferral F)}
    (hput : ∀ filters, m = .filtersDebounced filters →
      last' = some ⟨s.now, s.state.lastTicket + 1, filters⟩)
    (hkept : m.filters? = none → last' = last) : (s.apply m).Punctual waiting last' := by
  have hstep := s.state.step_update m
  refine ⟨?_, fun ticket time h => ?_, fun ticket filters hp => ?_⟩
  · rw [apply_debounceMs]
    exact hs.waiting_eq
  · rw [apply_state]
    rcases h.of_apply with h | ⟨⟨filters, rfl⟩, rfl, -⟩
    · exact Nat.le_trans (hs.given ticket time h) hstep.lastTicket_le
    · exact Nat.le_refl _
  · rw [apply_state] at hp
    rcases ListState.pending_of_update hp with ⟨rfl, rfl⟩ | ⟨hset, -, hp⟩
    · refine ⟨s.now, hput filters rfl, fun time h => ?_⟩
      -- nothing was under way for the new ticket
      rcases h.of_apply with h | ⟨-, -, rfl⟩
      · exact absurd (hs.given _ time h) (Nat.not_succ_le_self _)
      · exact Nat.le_of_eq (by rw [hs.waiting_eq])
    · obtain ⟨since, hlast, hlate⟩ := hs.late ticket filters hp
      refine ⟨since, (hkept hset).trans hlast, fun time h => ?_⟩
      rcases h.of_apply with h | ⟨⟨given, rfl⟩, -⟩
      · exact hlate time h
      · cases hset

end Punctual

/-- A store that goes on, with the filters that were put off last. -/
structure Prompt (s : Store ε F) (waiting : Nat) (last : Option (Deferral F)) : Prop extends
  Live s, Punctual s waiting last

theorem Prompt.happen {s : Store ε F} {waiting : Nat} {last : Option (Deferral F)}
    (hs : s.Prompt waiting last) (e : Event ε F) (ht : (s.happen e).isTornDown = false) :
    (s.happen e).Prompt waiting (s.deferral last e) := by
  have hrunning : s.isTornDown = false := isTornDown_of_happen ht
  refine ⟨hs.toLive.happen e ht, ?_⟩
  cases e with
  | perform operation =>
    simp only [Store.happen, perform_eq_dispatch, dispatch_eq_apply hrunning]
    refine hs.toPunctual.apply (fun filters hm => ?_) fun hset => ?_
    · cases operation <;> cases hm
      rfl
    · cases operation <;> first | rfl | cases hset
  | take =>
    cases hq : s.queue with
    | nil =>
      have hsame : s.take = s := by simp [take, hq]
      show s.take.Punctual waiting last
      rw [hsame]
      exact hs.toPunctual
    | cons m rest =>
      simp only [Store.happen, take_eq_apply hrunning hq]
      have hreport : m.isReport = true := hs.reports m (hq ▸ List.mem_cons_self)
      refine (hs.toPunctual.rest hq).apply (fun filters hm => ?_) fun _ => rfl
      rw [hm] at hreport
      cases hreport
  | tearDown => simp [Store.happen, isTornDown_tearDown] at ht
  | cancel | wait | respond | finish | abandon => exact hs.toPunctual.outside rfl

theorem prompt_new (loader : Loader ε F) (settings : ListSettings) :
    (new loader settings : Store ε F).Prompt settings.debounceMs none := by
  have hfresh : (new loader { settings with initImmediately := false } : Store ε F).Prompt
      settings.debounceMs none := by
    refine ⟨live_new loader _, rfl, fun ticket time h => ?_, fun _ _ hp => nomatch hp⟩
    cases h with
    | running ht => cases ht
    | elapsed hm => cases hm
  exact new_induction (P := fun s => s.Prompt settings.debounceMs none) hfresh
    (hfresh.happen (.perform (.init none)) rfl)

theorem prompt_run {s : Store ε F} {waiting : Nat} {last : Option (Deferral F)}
    (hs : s.isTornDown = false → s.Prompt waiting last) (es : List (Event ε F))
    (ht : (s.run es).isTornDown = false) : (s.run es).Prompt waiting (s.lastDeferral last es) := by
  induction es generalizing s last with
  | nil => exact hs ht
  | cons e es ih => exact ih (fun h => (hs (isTornDown_of_happen h)).happen e h) ht

end Store
end PagedList
