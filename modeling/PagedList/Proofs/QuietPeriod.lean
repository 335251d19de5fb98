import PagedList.Proofs.Deferral

/-! When filters that were put off take effect: once they were left alone for the waiting time, and not
before. So the list is loaded anew for them at most as often as they were left alone for so long. -/
namespace PagedList

section Events

variable {ε F : Type}

def Event.duration : Event ε F → Nat
  | .wait ms => ms
  | _ => 0

/-- How much time passes before filters are put off. -/
def quietTime : List (Event ε F) → Nat
  | [] => 0
  | e :: es => if e.isDebounced then 0 else e.duration + quietTime es

/-- How often filters were put off and then left alone for the waiting time. -/
def quietCalls (waiting : Nat) : List (Event ε F) → Nat
  | [] => 0
  | e :: es =>
    (if e.isDebounced ∧ waiting ≤ quietTime es then 1 else 0) + quietCalls waiting es

end Events

namespace Store

variable {ε F : Type} [Entity ε] [EmptyCollection F]

theorem now_dispatch (s : Store ε F) (m : Message ε F) : (s.dispatch m).now = s.now := by
  unfold dispatch
  split <;> simp

theorem now_happen (s : Store ε F) (e : Event ε F) : (s.happen e).now = s.now + e.duration := by
  cases e with
  | perform operation =>
    simp only [happen, perform_eq_dispatch]
    exact s.now_dispatch _
  | tearDown => exact s.now_tearDown
  | take =>
    simp only [happen, take]
    split
    · exact now_dispatch _ _
    · rfl
  | cancel | wait => rfl
  | respond call outcome =>
    simp only [happen, respond_eq]
    rfl
  | finish place =>
    simp only [happen, finish]
    split <;> rfl
  | abandon place =>
    simp only [happen, abandon]
    split <;> rfl

/-- Whether the list is loaded anew with an event because a waiting time is over. -/
def Reloads (s : Store ε F) (e : Event ε F) (ticket : Nat) : Prop :=
  .debounceElapsed ticket ∈ s.applied e ∧ s.state.Heeds ticket

def reloadsWith (s : Store ε F) (e : Event ε F) : Bool :=
  (s.applied e).any fun
    | .debounceElapsed ticket => decide (s.state.Heeds ticket)
    | _ => false

theorem reloadsWith_iff {s : Store ε F} {e : Event ε F} :
    s.reloadsWith e = true ↔ ∃ ticket, s.Reloads e ticket := by
  simp only [reloadsWith, List.any_eq_true, Reloads]
  constructor
  · rintro ⟨m, hm, hheeds⟩
    cases m with
    | debounceElapsed ticket => exact ⟨ticket, hm, of_decide_eq_true hheeds⟩
    | _ => cases hheeds
  · rintro ⟨ticket, hm, hheeds⟩
    exact ⟨_, hm, decide_eq_true hheeds⟩

/-- How often the list is loaded anew in a run because a waiting time is over. -/
def reloads (s : Store ε F) : List (Event ε F) → Nat
  | [] => 0
  | e :: es => (if s.reloadsWith e then 1 else 0) + (s.happen e).reloads es

theorem Reloads.queue_eq {s : Store ε F} {e : Event ε F} {ticket : Nat} (h : s.Reloads e ticket) :
    e = .take ∧ s.isTornDown = false ∧ ∃ rest, s.queue = .debounceElapsed ticket :: rest := by
  rcases mem_applied h.1 with hm | ⟨hrunning, ⟨operation, -, hm⟩ | ⟨he, hq⟩⟩
  · cases hm
  · cases operation <;> cases hm
  · exact ⟨he, hrunning, hq⟩

theorem reloads_of_isTornDown {s : Store ε F} (h : s.isTornDown = true) (es : List (Event ε F)) :
    s.reloads es = 0 := by
  induction es generalizing s with
  | nil => rfl
  | cons e es ih =>
    have hnone : s.reloadsWith e = false := by
      refine Bool.eq_false_iff.2 fun hreloads => ?_
      obtain ⟨ticket, hreloads⟩ := reloadsWith_iff.1 hreloads
      simp [hreloads.queue_eq.2.1] at h
    rw [reloads, hnone, ih (isTornDown_happen h e)]
    rfl

/-- What comes of the end of a waiting time: the filters that were put off last, the waiting time ago
or earlier, are taken over, the loader is asked for their first page, and the ticket is spent. -/
theorem Prompt.of_reloads {s : Store ε F} {waiting : Nat} {last : Option (Deferral F)}
    (hs : s.Prompt waiting last) {e : Event ε F} {ticket : Nat} (h : s.Reloads e ticket) :
    ∃ since filters, last = some ⟨since, ticket, filters⟩ ∧ since + waiting ≤ s.now ∧
      s.state.pending = some (ticket, filters) ∧
      (s.state.update (.debounceElapsed ticket)).2 =
        .loadPage s.state.generation.next .initial ⟨0, s.state.limit, filters⟩ ∧
      (s.happen e).calls = s.calls ++ [⟨0, s.state.limit, filters⟩] ∧
      (s.happen e).state.filters = filters ∧ (s.happen e).state.pending = none ∧
      (s.happen e).state.Spent ticket := by
  obtain ⟨rfl, hrunning, rest, hq⟩ := h.queue_eq
  obtain ⟨filters, hp⟩ := ListState.heeds_iff.1 h.2
  obtain ⟨since, hlast, hlate⟩ := hs.late ticket filters hp
  have hover : s.Ends ticket s.now := .elapsed (hq ▸ List.mem_cons_self)
  have hupdate := ListState.update_debounceElapsed hp
  have hload : (s.state.update (.debounceElapsed ticket)).2 =
      .loadPage s.state.generation.next .initial ⟨0, s.state.limit, filters⟩ := by
    rw [hupdate]
    rfl
  have hstate : (s.happen .take).state = (s.state.update (.debounceElapsed ticket)).1 := by
    simp only [Store.happen, take_eq_apply hrunning hq, apply_state]
  have hwired : ({ s with queue := rest } : Store ε F).Wired := hs.wired.of_eq rfl rfl rfl rfl
  have hcalls : (s.happen .take).calls = s.calls ++ [⟨0, s.state.limit, filters⟩] := by
    simp only [Store.happen, take_eq_apply hrunning hq]
    exact (hwired.apply_of_loadPage hload).2
  have hspent : (s.happen .take).state.Spent ticket := by
    rw [hstate]
    exact ListState.spent_update (hs.given ticket s.now hover) (.inr (.inr rfl))
  refine ⟨since, filters, hlast, hlate s.now hover, hp, hload, hcalls, ?_, ?_, hspent⟩
  · rw [hstate, hupdate]
    rfl
  · rw [hstate, hupdate]
    rfl

theorem Live.pending_of_happen {s : Store ε F} (hs : s.Live) {e : Event ε F}
    (he : e.isDebounced = false) {ticket : Nat} {filters : F}
    (hp : (s.happen e).state.pending = some (ticket, filters)) :
    s.state.pending = some (ticket, filters) := by
  rw [Store.happen_state] at hp
  refine ListState.pending_of_run (fun m hm given h => ?_) hp
  subst h
  rcases mem_applied hm with h | ⟨-, ⟨operation, rfl, h⟩ | ⟨-, rest, hq⟩⟩
  · cases h
  · cases operation with
    | setFiltersDebounced => cases he
    | _ => cases h
  · have hreport := hs.reports _ (hq ▸ List.mem_cons_self)
    cases hreport

/-- How often the filters that wait can still take effect if this happens: once if they are left alone
for long enough. -/
def remaining (s : Store ε F) (waiting : Nat) (last : Option (Deferral F)) (es : List (Event ε F)) :
    Nat :=
  last.elim 0 fun p =>
    if s.state.hasPendingDebounce ∧ p.since + waiting ≤ s.now + quietTime es then 1 else 0

omit [EmptyCollection F] in
theorem remaining_le_one (s : Store ε F) (waiting : Nat) (last : Option (Deferral F))
    (es : List (Event ε F)) : s.remaining waiting last es ≤ 1 := by
  cases last with
  | none => exact Nat.zero_le 1
  | some p =>
    simp only [remaining, Option.elim_some]
    split <;> decide

omit [EmptyCollection F] in
theorem remaining_eq_one {s : Store ε F} {waiting : Nat} {p : Deferral F} {es : List (Event ε F)}
    {q : Nat × F} (hq : s.state.pending = some q)
    (hle : p.since + waiting ≤ s.now + quietTime es) : s.remaining waiting (some p) es = 1 := by
  simp [remaining, ListState.hasPendingDebounce, hq, hle]

theorem Prompt.remaining_happen {s : Store ε F} {waiting : Nat} {last : Option (Deferral F)}
    (hs : s.Prompt waiting last) (e : Event ε F) (es : List (Event ε F)) :
    (if s.reloadsWith e then 1 else 0) + (s.happen e).remaining waiting (s.deferral last e) es ≤
      (if e.isDebounced ∧ waiting ≤ quietTime es then 1 else 0) +
        s.remaining waiting last (e :: es) := by
  have hnow := s.now_happen e
  cases hreloads : s.reloadsWith e with
  | true =>
    obtain ⟨ticket, h⟩ := reloadsWith_iff.1 hreloads
    obtain ⟨since, filters, rfl, hle, hp, -, -, -, hnone, -⟩ := hs.of_reloads h
    have hbefore : s.remaining waiting (some ⟨since, ticket, filters⟩) (e :: es) = 1 :=
      remaining_eq_one hp (Nat.le_trans hle (Nat.le_add_right _ _))
    have hafter : ∀ last', (s.happen e).remaining waiting last' es = 0 := fun last' => by
      cases last' <;> simp [remaining, ListState.hasPendingDebounce, hnone]
    simp only [if_pos, hbefore, hafter]
    omega
  | false =>
    simp only [Bool.false_eq_true, if_false, Nat.zero_add]
    have hone := (s.happen e).remaining_le_one waiting (s.deferral last e) es
    cases he : e.isDebounced with
    | true =>
      obtain ⟨filters, rfl, hput⟩ := s.deferral_of_isDebounced last he
      by_cases hquiet : waiting ≤ quietTime es
      · simp only [hquiet, and_self, if_true]
        omega
      · have hnone : ¬s.now + waiting ≤ s.now + quietTime es := by omega
        simp [remaining, hput, hnow, Event.duration, hnone]
    | false =>
      rw [deferral_of_not_isDebounced he] at hone ⊢
      cases last with
      | none => exact Nat.zero_le _
      | some p =>
        have htime : quietTime (e :: es) = e.duration + quietTime es := by simp [quietTime, he]
        by_cases hafter : (s.happen e).state.hasPendingDebounce = true ∧
            p.since + waiting ≤ (s.happen e).now + quietTime es
        · obtain ⟨hp, hle⟩ := hafter
          obtain ⟨⟨ticket, filters⟩, hp⟩ := Option.isSome_iff_exists.1 hp
          have hbefore : s.remaining waiting (some p) (e :: es) = 1 :=
            remaining_eq_one (hs.pending_of_happen he hp) (by omega)
          omega
        · simp [remaining, hafter]

/-- Whatever happens, the list is loaded anew at most once for the filters that wait, and once for each
time that filters are put off and then left alone. -/
theorem reloads_le {s : Store ε F} {waiting : Nat} {last : Option (Deferral F)}
    (hs : s.isTornDown = false → s.Prompt waiting last) (es : List (Event ε F)) :
    s.reloads es ≤ quietCalls waiting es + s.remaining waiting last es := by
  induction es generalizing s last with
  | nil => exact Nat.zero_le _
  | cons e es ih =>
    by_cases ht : s.isTornDown = true
    · rw [reloads_of_isTornDown ht]
      exact Nat.zero_le _
    · have hprompt := hs (Bool.not_eq_true _ ▸ ht)
      have hfirst := hprompt.remaining_happen e es
      have hrest := ih fun h => hprompt.happen e h
      simp only [reloads, quietCalls]
      omega

/-- Whatever happens to a store, if its list is loaded anew because a waiting time is over, then with
the filters that were put off last, at least that time ago; the loader is called once for it, for the
first page, and the ticket never counts again. So the list is loaded anew at most as often as filters
were put off and then left alone for the waiting time. -/
theorem reloads_after_quiet_period (loader : Loader ε F) (settings : ListSettings)
    (es : List (Event ε F)) :
    let start : Store ε F := new loader settings
    let s := start.run es
    (∀ e ticket, s.Reloads e ticket →
      ∃ before filters after, es = before ++ .perform (.setFiltersDebounced filters) :: after ∧
        (∀ a ∈ after, a.isDebounced = false) ∧
        ((start.run before).state.update (.filtersDebounced filters)).2 =
          .scheduleDebounce ticket ∧
        (start.run before).now + settings.debounceMs ≤ s.now ∧
        (s.state.update (.debounceElapsed ticket)).2 =
          .loadPage s.state.generation.next .initial ⟨0, s.state.limit, filters⟩ ∧
        (s.happen e).calls = s.calls ++ [⟨0, s.state.limit, filters⟩] ∧
        (s.happen e).state.filters = filters ∧
        ∀ fs later, ¬((s.happen e).run fs).Reloads later ticket) ∧
      start.reloads es ≤ quietCalls settings.debounceMs es := by
  intro start s
  have hstart : start.Prompt settings.debounceMs none := prompt_new loader settings
  refine ⟨fun e ticket h => ?_, reloads_le (fun _ => hstart) es⟩
  have hs : s.Prompt settings.debounceMs (start.lastDeferral none es) :=
    prompt_run (fun _ => hstart) es h.queue_eq.2.1
  obtain ⟨since, filters, hlast, hle, -, hload, hcalls, hfilters, -, hspent⟩ := hs.of_reloads h
  rcases lastDeferral_eq_some hlast with ⟨before, after, hes, hsince, hticket, hafter⟩ | ⟨hnone, -⟩
  · refine ⟨before, filters, after, hes, hafter, ?_, ?_, hload, hcalls, hfilters, ?_⟩
    · exact congrArg Command.scheduleDebounce hticket
    · exact hsince ▸ hle
    · intro fs later hlater
      refine (hspent.run ((s.happen e).messages fs)).not_heeds ?_
      rw [← run_state]
      exact hlater.2
  · cases hnone

/-- Filters are put off twice. The first time is still running when the others are put off, so only the
second one counts. -/
theorem quiet_period_under_way :
    let es : List (Event Game FilterSet) :=
      [.perform (.setFiltersDebounced ∅), .wait 2,
        .perform (.setFiltersDebounced (FilterSet.empty.insert "category" (.string "RTS"))),
        .wait 3, .finish 1]
    let s : Store Game FilterSet := (new .scripted ⟨2, 3, true⟩).run es
    s.Reloads .take 2 ∧ (∀ fs later, ¬((s.happen .take).run fs).Reloads later 2) ∧
      (new .scripted ⟨2, 3, true⟩ : Store Game FilterSet).reloads (es ++ [.take]) ≤ 1 := by
  intro es s
  have hqueue : s.queue = [.debounceElapsed 2] := rfl
  have hrunning : s.isTornDown = false := rfl
  have happlied : .debounceElapsed 2 ∈ s.applied .take := by
    simp [applied, dispatched, hqueue, hrunning]
  have hreloads : s.Reloads .take 2 := ⟨happlied, ListState.heeds_iff.2 ⟨_, rfl⟩⟩
  obtain ⟨-, -, -, -, -, -, -, -, -, -, hnever⟩ :=
    (reloads_after_quiet_period .scripted ⟨2, 3, true⟩ es).1 .take 2 hreloads
  have hquiet : quietCalls 3 (es ++ [.take]) = 1 := rfl
  have hle := (reloads_after_quiet_period (ε := Game) .scripted ⟨2, 3, true⟩ (es ++ [.take])).2
  exact ⟨hreloads, hnever, hquiet ▸ hle⟩

end Store
end PagedList
