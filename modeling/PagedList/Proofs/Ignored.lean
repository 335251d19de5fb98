import PagedList.Game
import PagedList.Proofs.EntitySetRun
import PagedList.Proofs.Replay

/-! Messages that nothing comes of. An update that asks for nothing and leaves the revision as it was
leaves everything else too, above all the filters that wait, though the end of a waiting time looks at
them first. Which messages these are can be told from the list before the update. -/
namespace PagedList
namespace ListState

variable {ε F : Type} [Entity ε]

inductive Useless (s : ListState ε F) : Message ε F → Prop
  /-- The next page is asked for while a page is under way. -/
  | loading (h : s.isLoading = true) : Useless s .paginateRequested
  /-- The next page is asked for, and there is none. -/
  | complete (h : s.hasMore = false) : Useless s .paginateRequested
  /-- A waiting time is over, and no filters wait. -/
  | nothingWaits {ticket} (h : s.pending = none) : Useless s (.debounceElapsed ticket)
  /-- A waiting time is over that the filters do not wait for. -/
  | otherTicket {ticket waiting filters} (h : s.pending = some (waiting, filters))
      (hne : waiting ≠ ticket) : Useless s (.debounceElapsed ticket)
  /-- An entity is edited that is not loaded. -/
  | notLoaded {entity} (h : s.entities.contains (Entity.id entity) = false) :
      Useless s (.entityEdited entity)
  /-- A page comes that was asked for before the last reset. -/
  | otherGeneration {generation kind result} (h : generation ≠ s.generation) :
      Useless s (.pageLoaded generation kind result)
  /-- A page comes that nobody waits for. -/
  | notAwaited {generation kind result} (h : s.pagination.isLoadingKind kind = false) :
      Useless s (.pageLoaded generation kind result)

theorem useless_iff_ignores {s : ListState ε F} {m : Message ε F} :
    s.Useless m ↔ s.ignores m = true := by
  constructor
  · intro h
    cases h with
    | loading h => simp_all [ignores, Pagination.canPaginate, isLoading]
    | complete h => simp_all [ignores, Pagination.canPaginate, hasMore]
    | nothingWaits h => simp [ignores, h]
    | otherTicket h hne => simp [ignores, h, hne]
    | notLoaded h => simp [ignores, h]
    | otherGeneration h => simp [ignores, awaits, h]
    | notAwaited h => simp [ignores, awaits, h]
  · intro h
    cases m with
    | paginateRequested =>
      cases hl : s.isLoading with
      | true => exact .loading hl
      | false =>
        have hmore : s.pagination.hasMore = false := by
          simpa [ignores, Pagination.canPaginate, show s.pagination.isLoading = false from hl] using h
        exact .complete hmore
    | debounceElapsed ticket =>
      cases hp : s.pending with
      | none => exact .nothingWaits hp
      | some p =>
        obtain ⟨waiting, filters⟩ := p
        exact .otherTicket hp (by simpa [ignores, hp] using h)
    | entityEdited entity => exact .notLoaded (by simpa [ignores] using h)
    | pageLoaded generation kind result =>
      by_cases hg : generation = s.generation
      · exact .notAwaited (by simpa [ignores, awaits, hg] using h)
      · exact .otherGeneration hg
    | initRequested | filtersChanged | filtersCleared | filtersDebounced | tornDown => cases h

variable [EmptyCollection F]

/-- Whatever is done to a list either asks for something or changes the revision. -/
theorem Step.ignores_of_quiet {s t : ListState ε F} {m : Message ε F} {c : Command F}
    (h : s.Step m t c) (hc : c = .none) (hr : t.revision = s.revision) : s.ignores m = true := by
  have hnext : s.revision + 1 ≠ s.revision := by simp
  cases h with
  | renewed | asked | debounced | tornDown => cases hc
  | edited | loaded | failed => exact absurd hr hnext
  | ignored h => exact h

/-- For every list and every message: if the update gives no command and leaves the revision as it
was, then it leaves the whole list as it was, and that is so exactly for the messages that the list
has no use for. An edit counts as one of them if no entity of the list has the identifier, provided
that the index is right, as it is in every list that messages lead to. -/
theorem quiet_update_changes_nothing (s : ListState ε F) (m : Message ε F) :
    ((s.update m).2 = .none ∧ (s.update m).1.revision = s.revision → (s.update m).1 = s) ∧
    (s.Useless m ↔ (s.update m).2 = .none ∧ (s.update m).1.revision = s.revision) ∧
    (s.entities.Indexed → ∀ entity, s.Useless (.entityEdited entity) ↔
      ∀ e ∈ s.list, Entity.id e ≠ Entity.id entity) := by
  have hsilent : (s.update m).2 = .none ∧ (s.update m).1.revision = s.revision →
      s.ignores m = true := fun ⟨hc, hr⟩ => (s.step_update m).ignores_of_quiet hc hr
  refine ⟨fun h => by rw [update_eq_of_ignores (hsilent h)], ?_, fun hi entity => ?_⟩
  · rw [useless_iff_ignores]
    refine ⟨fun h => ?_, hsilent⟩
    rw [update_eq_of_ignores h]
    exact ⟨rfl, rfl⟩
  · have hcontains := hi.contains_eq (Entity.id entity)
    rw [useless_iff_ignores, ignores, hcontains]
    simp [LinearSearch.contains, list]

/-- The end of an earlier waiting time leaves the filters waiting, and a page that comes twice and an
edit of an entity that is gone leave the list. -/
theorem list_stays_while_filters_wait :
    let filters := FilterSet.empty.insert "category" (.string "RTS")
    let s : ListState Game FilterSet := (withFilters 2 ∅).run
      [.initRequested none, .pageLoaded ⟨1⟩ .initial (.ok ⟨[⟨7, "Doom"⟩], 9⟩),
        .filtersDebounced ∅, .filtersDebounced filters]
    s.entities.Indexed ∧ s.pending = some (2, filters) ∧
      ∀ m ∈ [.debounceElapsed 1, .pageLoaded ⟨1⟩ .initial (.ok ⟨[⟨4, "Myst"⟩], 1⟩),
        .entityEdited ⟨4, "Myst"⟩], (s.update m).1 = s := by
  intro filters s
  have hi : s.entities.Indexed := indexed_run 2 ∅ _
  have hp : s.pending = some (2, filters) := by cbv
  have hlist : s.list = [⟨7, "Doom"⟩] := by cbv
  have hedit : s.Useless (.entityEdited ⟨4, "Myst"⟩) :=
    ((quiet_update_changes_nothing s .paginateRequested).2.2 hi ⟨4, "Myst"⟩).2 (by
      rw [hlist]
      decide)
  have hquiet : ∀ m, s.Useless m → (s.update m).1 = s := fun m hm =>
    (quiet_update_changes_nothing s m).1 ((quiet_update_changes_nothing s m).2.1.1 hm)
  refine ⟨hi, hp, fun m hm => ?_⟩
  simp only [List.mem_cons, List.not_mem_nil, or_false] at hm
  rcases hm with rfl | rfl | rfl
  · exact hquiet _ (.otherTicket hp (by decide))
  · exact hquiet _ (.notAwaited (by cbv))
  · exact hquiet _ hedit

end ListState
end PagedList
