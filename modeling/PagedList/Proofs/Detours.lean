import PagedList.Game
import PagedList.Proofs.RequestedFilters
import PagedList.Proofs.SingleLoad

/-! Two ways of a list that end in the same state. The one goes over a load of the next page that fails
in the end: but for the error, the list is what it would be without, and it can ask for the page again.
The other goes over filters that wait: once their waiting time is over, the list is what it would be if
they had been changed only then. Both follow from a state that runs along beside the list. -/
namespace PagedList

/-- Whether a message changes a list without any load: an edit, or filters that are put off. -/
def Message.isLocal {ε F : Type} : Message ε F → Bool
  | .entityEdited _ | .filtersDebounced _ => true
  | _ => false

namespace Pagination

theorem pageFailed_loadingMoreStarted {p : Pagination} (h : p.canPaginate = true) :
    (p.update .loadingMoreStarted).update (.pageFailed .more) = p := by
  have hp : p.isPaginating = false := isLoadingKind_of_canPaginate h .more
  simp only [update, finish]
  rw [← hp]

end Pagination

namespace ListState

variable {ε F : Type} [Entity ε]

def asking (s : ListState ε F) : ListState ε F :=
  { s with pagination := s.pagination.update .loadingMoreStarted, revision := s.revision + 1 }

structure SamePage (s t : ListState ε F) : Prop where
  pagination_eq : t.pagination = s.pagination
  generation_eq : t.generation = s.generation
  filters_eq : t.filters = s.filters

theorem SamePage.refl (s : ListState ε F) : s.SamePage s := ⟨rfl, rfl, rfl⟩

theorem SamePage.trans {s t u : ListState ε F} (h : s.SamePage t) (h' : t.SamePage u) :
    s.SamePage u where
  pagination_eq := h'.pagination_eq.trans h.pagination_eq
  generation_eq := h'.generation_eq.trans h.generation_eq
  filters_eq := h'.filters_eq.trans h.filters_eq

/-- Messages that have no say in a load of the next page that is under way. -/
inductive Aside (s : ListState ε F) : Message ε F → Prop
  | edited (entity : ε) : Aside s (.entityEdited entity)
  | debounced (filters : F) : Aside s (.filtersDebounced filters)
  | paginate : Aside s .paginateRequested
  /-- A waiting time is over that no filters wait for. -/
  | elapsed {ticket : Nat} (h : ∀ filters, s.pending ≠ some (ticket, filters)) :
      Aside s (.debounceElapsed ticket)
  /-- A page comes that is discarded. -/
  | discarded {generation kind result} (h : s.awaits generation kind = false) :
      Aside s (.pageLoaded generation kind result)

/-- What is no edit and puts off no filters does nothing while the next page is under way. -/
theorem Aside.ignores {s : ListState ε F} {m : Message ε F} (h : s.asking.Aside m)
    (hm : m.isLocal = false) : s.asking.ignores m = true := by
  cases h with
  | edited | debounced => cases hm
  | paginate =>
    have hloading : s.asking.pagination.isLoading = true := by
      simp [asking, Pagination.isLoading, Pagination.update]
    simp [ListState.ignores, Pagination.canPaginate, hloading]
  | @elapsed ticket h =>
    cases hi : s.asking.ignores (.debounceElapsed ticket) with
    | true => rfl
    | false =>
      obtain ⟨filters, hp⟩ := ignores_debounceElapsed.1 hi
      exact absurd hp (h filters)
  | discarded h => simp [ListState.ignores, h]

variable [EmptyCollection F]

def AllAside (s : ListState ε F) : List (Message ε F) → Prop
  | [] => True
  | m :: ms => s.Aside m ∧ (s.update m).1.AllAside ms

theorem update_paginateRequested {s : ListState ε F} (h : s.pagination.canPaginate = true) :
    (s.update .paginateRequested).1 = s.asking := by
  simp only [update, paginate, if_pos h]
  rfl

theorem update_asking (s : ListState ε F) {m : Message ε F} (hm : m.isLocal = true) :
    (s.asking.update m).1 = (s.update m).1.asking ∧ s.SamePage (s.update m).1 := by
  cases m with
  | filtersDebounced filters => exact ⟨rfl, rfl, rfl, rfl⟩
  | entityEdited entity =>
    simp only [update, edit, asking]
    split <;> exact ⟨rfl, rfl, rfl, rfl⟩
  | _ => cases hm

/-- While the next page is under way, the list is what the edits and the filters that are put off
make of it, and beside that it awaits the page. -/
theorem run_asking (s : ListState ε F) {ms : List (Message ε F)} (h : s.asking.AllAside ms) :
    let t := s.run (ms.filter Message.isLocal)
    s.asking.run ms = t.asking ∧ s.SamePage t := by
  induction ms generalizing s with
  | nil => exact ⟨rfl, .refl s⟩
  | cons m ms ih =>
    obtain ⟨hm, hms⟩ := h
    cases hlocal : m.isLocal with
    | true =>
      obtain ⟨hasking, hsame⟩ := s.update_asking hlocal
      rw [hasking] at hms
      obtain ⟨hrun, hsame'⟩ := ih _ hms
      rw [List.filter_cons_of_pos hlocal, run_cons, run_cons, hasking]
      exact ⟨hrun, hsame.trans hsame'⟩
    | false =>
      have hignored := update_eq_of_ignores (hm.ignores hlocal)
      rw [hignored] at hms
      rw [List.filter_cons_of_neg (by simp [hlocal]), run_cons, hignored]
      exact ih s hms

theorem update_asking_of_failed {s : ListState ε F} (h : s.pagination.canPaginate = true)
    (e : LoadError) :
    (s.asking.update (.pageLoaded s.generation .more (.error e))).1 =
      { s with lastError := some e, revision := s.revision + 2 } := by
  have hawaits : ¬(!s.asking.pagination.isLoadingKind .more) = true := by
    simp [asking, Pagination.update, Pagination.isLoadingKind]
  have hcursor : s.asking.pagination.update (.pageFailed .more) = s.pagination :=
    Pagination.pageFailed_loadingMoreStarted h
  have hrevision : s.revision + 1 + 1 = s.revision + 2 := UInt64.add_assoc _ _ _
  simp only [update, applyPage, if_neg hawaits, hcursor]
  simp [asking, touch, hrevision]

theorem SamePage.command_eq {s t : ListState ε F} (h : s.SamePage t)
    (hs : s.pagination.canPaginate = true) :
    (t.update .paginateRequested).2 = (s.update .paginateRequested).2 := by
  have ht : t.pagination.canPaginate = true := by rw [h.pagination_eq, hs]
  rw [command_of_canPaginate hs, command_of_canPaginate ht, skip, limit, h.pagination_eq,
    h.generation_eq, h.filters_eq]
  rfl

/-- Whatever is edited and put off while the next page is under way, and whatever else comes that the
list ignores: if the page fails then, the list is what the edits and the filters that were put off
alone make of it, but for the error and the revision. If the next page is requested again, the same
load is asked for. -/
theorem failed_page_is_asked_for_again (s : ListState ε F) {g : Generation} {k : LoadKind}
    {params : PageParams F} (h : (s.update .paginateRequested).2 = .loadPage g k params)
    {ms : List (Message ε F)} (hms : (s.update .paginateRequested).1.AllAside ms) (e : LoadError) :
    let t := s.run (.paginateRequested :: (ms ++ [.pageLoaded g .more (.error e)]))
    let u := s.run (ms.filter Message.isLocal)
    t = { u with lastError := some e, revision := u.revision + 2 } ∧
      (t.update .paginateRequested).2 = .loadPage g k params := by
  intro t u
  have hcan : s.pagination.canPaginate = true :=
    (h ▸ s.step_update .paginateRequested).canPaginate_of_loadPage rfl
  rw [update_paginateRequested hcan] at hms
  obtain ⟨hrun, hsame⟩ := s.run_asking hms
  have hg : g = u.generation := by
    rw [command_of_canPaginate hcan] at h
    exact (Command.loadPage.inj h).1.symm.trans hsame.generation_eq.symm
  have hcan' : u.pagination.canPaginate = true := by rw [hsame.pagination_eq, hcan]
  have ht : t = { u with lastError := some e, revision := u.revision + 2 } := by
    calc
      t = ((s.asking.run ms).update (.pageLoaded g .more (.error e))).1 := by
        simp [t, update_paginateRequested hcan]
      _ = (u.asking.update (.pageLoaded u.generation .more (.error e))).1 := by rw [hrun, hg]
      _ = { u with lastError := some e, revision := u.revision + 2 } :=
        update_asking_of_failed hcan' e
  have hsame' : s.SamePage t := ht ▸ hsame.trans ⟨rfl, rfl, rfl⟩
  exact ⟨ht, (hsame'.command_eq hcan).trans h⟩

/-- While the second page is under way, an entity is edited, filters are put off, the next page is
requested once more and two pages come that nobody waits for; then the page fails. -/
theorem second_page_is_asked_for_again :
    let filters := FilterSet.empty.insert "category" (.string "RTS")
    let s : ListState Game FilterSet := (withFilters 2 ∅).run
      [.initRequested none, .pageLoaded ⟨1⟩ .initial (.ok ⟨[⟨7, "Doom"⟩, ⟨1, "Quake"⟩], 4⟩)]
    let ms : List (Message Game FilterSet) :=
      [.paginateRequested, .entityEdited ⟨7, "Doom II"⟩, .filtersDebounced filters,
        .debounceElapsed 7, .pageLoaded ⟨0⟩ .more (.ok ⟨[⟨4, "Myst"⟩], 9⟩),
        .pageLoaded ⟨1⟩ .initial (.error .cancelled)]
    let t := s.run (.paginateRequested :: (ms ++ [.pageLoaded ⟨1⟩ .more (.error .cancelled)]))
    (s.update .paginateRequested).2 = .loadPage ⟨1⟩ .more ⟨2, 2, ∅⟩ ∧
      (s.update .paginateRequested).1.AllAside ms ∧
      t.list = [⟨7, "Doom II"⟩, ⟨1, "Quake"⟩] ∧ t.pending = some (1, filters) ∧
      t.lastError = some .cancelled ∧
      (t.update .paginateRequested).2 = .loadPage ⟨1⟩ .more ⟨2, 2, ∅⟩ := by
  intro filters s ms t
  have h : (s.update .paginateRequested).2 = .loadPage ⟨1⟩ .more ⟨2, 2, ∅⟩ := by
    rw [command_of_canPaginate (by cbv)]
    cbv
  have hpending : ((s.update .paginateRequested).1.run (ms.take 3)).pending = some (1, filters) := by
    cbv
  have hms : (s.update .paginateRequested).1.AllAside ms := by
    refine ⟨.paginate, .edited _, .debounced _, .elapsed fun given hp => ?_, .discarded (by cbv),
      .discarded (by cbv), trivial⟩
    cases hpending.symm.trans hp
  obtain ⟨ht, hagain⟩ := failed_page_is_asked_for_again s h hms .cancelled
  let u := s.run (ms.filter Message.isLocal)
  have ht : t = { u with lastError := some .cancelled, revision := u.revision + 2 } := ht
  have hlist : u.list = [⟨7, "Doom II"⟩, ⟨1, "Quake"⟩] := by cbv
  have hwaits : u.pending = some (1, filters) := by cbv
  refine ⟨h, hms, ?_, ?_, ?_, hagain⟩
  · rw [ht]
    exact hlist
  · rw [ht]
    exact hwaits
  · rw [ht]

/-- A message that leaves the filters waiting that wait for a ticket. -/
structure Leaves (ticket : Nat) (m : Message ε F) : Prop where
  sets_none : m.filters? = none
  ne_tornDown : m ≠ .tornDown
  ne_debounceElapsed : m ≠ .debounceElapsed ticket

/-- The list beside which these filters wait for this ticket. -/
def puttingOff (s : ListState ε F) (ticket : Nat) (filters : F) : ListState ε F :=
  { s with pending := some (ticket, filters), lastTicket := ticket }

/-- A message that leaves the waiting filters does the same with and without them. -/
theorem update_puttingOff {s : ListState ε F} (hs : s.pending = none) {ticket : Nat} (filters : F)
    {m : Message ε F} (hm : Leaves ticket m) :
    (s.puttingOff ticket filters).update m =
        ((s.update m).1.puttingOff ticket filters, (s.update m).2) ∧
      (s.update m).1.pending = none := by
  have hset := hm.sets_none
  cases m with
  | initRequested given =>
    cases given with
    | none => exact ⟨rfl, hs⟩
    | some given => cases hset
  | paginateRequested =>
    by_cases hcan : s.pagination.canPaginate = true
    · simp [update, paginate, puttingOff, touch, hcan, hs]
    · simp [update, paginate, puttingOff, hcan, hs]
  | debounceElapsed ended =>
    have hne : ticket ≠ ended := fun he => hm.ne_debounceElapsed (he ▸ rfl)
    simp [update, elapse, puttingOff, hs, hne]
  | entityEdited entity =>
    simp only [update, edit, puttingOff]
    cases s.entities.replace entity with
    | mk entities found => cases found <;> exact ⟨rfl, hs⟩
  | pageLoaded generation kind result =>
    by_cases hg : generation = s.generation
    · cases hk : s.pagination.isLoadingKind kind with
      | false => simp [update, applyPage, puttingOff, hg, hk, hs]
      | true => cases result <;> simp [update, applyPage, puttingOff, touch, hg, hk, hs]
    · simp [update, applyPage, puttingOff, hg, hs]
  | filtersChanged | filtersCleared | filtersDebounced => cases hset
  | tornDown => exact absurd rfl hm.ne_tornDown

theorem run_puttingOff {s : ListState ε F} (hs : s.pending = none) {ticket : Nat} (filters : F)
    {ms : List (Message ε F)} (hms : ∀ m ∈ ms, Leaves ticket m) :
    (s.puttingOff ticket filters).run ms = (s.run ms).puttingOff ticket filters := by
  induction ms generalizing s with
  | nil => rfl
  | cons m ms ih =>
    obtain ⟨hm, hrest⟩ := List.forall_mem_cons.1 hms
    obtain ⟨hupdate, hpending⟩ := update_puttingOff hs filters hm
    rw [run_cons, run_cons, hupdate, ih hpending hrest]

theorem command_of_filtersChanged (s : ListState ε F) (filters : F) :
    (s.update (.filtersChanged filters)).2 =
      .loadPage s.generation.next .initial ⟨0, s.limit, filters⟩ := rfl

/-- Filters that are put off and take effect at the end of their waiting time lead to the same list
and the same load as if they were changed only then, whatever pages, edits, requests and plain resets
come in between, as long as nothing waited before. Only the tickets tell the difference. -/
theorem put_off_agrees_with_changed {s : ListState ε F} (hs : s.pending = none) (filters : F)
    {ticket : Nat} (hticket : (s.update (.filtersDebounced filters)).2 = .scheduleDebounce ticket)
    {ms : List (Message ε F)} (hms : ∀ m ∈ ms, Leaves ticket m) :
    let changed := (s.run ms).update (.filtersChanged filters)
    (s.run (.filtersDebounced filters :: ms)).update (.debounceElapsed ticket) =
      ({ changed.1 with lastTicket := ticket }, changed.2) := by
  intro changed
  obtain rfl : s.lastTicket + 1 = ticket := Command.scheduleDebounce.inj hticket
  have hput : s.run (.filtersDebounced filters :: ms) =
      (s.run ms).puttingOff (s.lastTicket + 1) filters := run_puttingOff hs filters hms
  rw [hput, update_debounceElapsed rfl]
  rfl

/-- Pages come, an entity is edited, an earlier waiting time ends and the list is reset while the
filters wait. -/
theorem put_off_over_reset :
    let filters := FilterSet.empty.insert "category" (.string "RTS")
    let s : ListState Game FilterSet := (withFilters 2 ∅).run
      [.initRequested none, .filtersDebounced filters, .filtersChanged ∅]
    let ms : List (Message Game FilterSet) :=
      [.pageLoaded ⟨2⟩ .initial (.ok ⟨[⟨7, "Doom"⟩, ⟨1, "Quake"⟩], 4⟩), .paginateRequested,
        .entityEdited ⟨7, "Doom II"⟩, .debounceElapsed 1, .pageLoaded ⟨2⟩ .more (.error .cancelled),
        .initRequested none]
    let changed := (s.run ms).update (.filtersChanged filters)
    s.pending = none ∧ (s.update (.filtersDebounced filters)).2 = .scheduleDebounce 2 ∧
      (∀ m ∈ ms, Leaves 2 m) ∧ changed.2 = .loadPage ⟨4⟩ .initial ⟨0, 2, filters⟩ ∧
      (s.run (.filtersDebounced filters :: ms)).update (.debounceElapsed 2) =
        ({ changed.1 with lastTicket := 2 }, changed.2) := by
  intro filters s ms changed
  have hticket : (s.update (.filtersDebounced filters)).2 = .scheduleDebounce 2 := rfl
  have hms : ∀ m ∈ ms, Leaves 2 m := by
    intro m hm
    simp only [ms, List.mem_cons, List.not_mem_nil, or_false] at hm
    rcases hm with rfl | rfl | rfl | rfl | rfl | rfl <;> exact ⟨rfl, nofun, nofun⟩
  have hgeneration : (s.run ms).generation.next = ⟨4⟩ := by cbv
  have hlimit : (s.run ms).limit = 2 := by cbv
  have hload : changed.2 = .loadPage ⟨4⟩ .initial ⟨0, 2, filters⟩ := by
    rw [command_of_filtersChanged, hgeneration, hlimit]
  exact ⟨rfl, hticket, hms, hload, put_off_agrees_with_changed rfl filters hticket hms⟩

end ListState
end PagedList
