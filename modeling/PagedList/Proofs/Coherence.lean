import PagedList.Proofs.LinearSearch
import PagedList.Proofs.ListRun

/-! The cursor, the flags and the collection of a list agree with each other in every state that
messages lead to, whatever the messages are. -/
namespace PagedList
namespace Pagination

/-- A cursor that is right for so many loaded entities. The parts hold only together: a failed
first page may put the position back to zero because nothing is loaded while it is awaited. -/
structure Right (p : Pagination) (loaded : Nat) : Prop where
  skip_eq : p.skip = loaded
  hasMore_eq : p.hasMore = p.total.all (loaded < ·)
  exclusive : p.isInitialLoading = true → p.isPaginating = false
  blank : p.isInitialLoading = true → loaded = 0 ∧ p.total = none
  limit_pos : 1 ≤ p.limit

theorem isLoading_of_canPaginate {p : Pagination} (h : p.canPaginate = true) :
    p.isLoading = false := by
  simp only [canPaginate, Bool.and_eq_true, Bool.not_eq_true'] at h
  exact h.1

theorem isLoadingKind_of_canPaginate {p : Pagination} (h : p.canPaginate = true) (kind : LoadKind) :
    p.isLoadingKind kind = false := by
  have hl := Bool.or_eq_false_iff.1 (isLoading_of_canPaginate h)
  cases kind with
  | initial => exact hl.1
  | more => exact hl.2

theorem right_new (limit : Nat) : (new limit).Right 0 where
  skip_eq := rfl
  hasMore_eq := rfl
  exclusive h := by simp [new] at h
  blank h := by simp [new] at h
  limit_pos := Nat.le_max_right limit 1

namespace Right

variable {p : Pagination} {n : Nat}

theorem isInitialLoading_eq_false (h : p.Right n) (hp : p.isPaginating = true) :
    p.isInitialLoading = false := by
  cases hi : p.isInitialLoading with
  | false => rfl
  | true => simp [h.exclusive hi] at hp

theorem resetStarted (h : p.Right n) : (p.update .resetStarted).Right 0 where
  skip_eq := rfl
  hasMore_eq := rfl
  exclusive _ := rfl
  blank _ := ⟨rfl, rfl⟩
  limit_pos := h.limit_pos

theorem loadingMoreStarted (h : p.Right n) (hp : p.canPaginate = true) :
    (p.update .loadingMoreStarted).Right n := by
  have hi : p.isInitialLoading = false := isLoadingKind_of_canPaginate hp .initial
  exact ⟨h.skip_eq, h.hasMore_eq, fun ht => by simp [update, hi] at ht, h.blank, h.limit_pos⟩

theorem pageReceived (h : p.Right n) {kind : LoadKind} (hk : p.isLoadingKind kind = true)
    (loaded total : Nat) : (p.update (.pageReceived kind loaded total)).Right loaded := by
  have hi : (p.update (.pageReceived kind loaded total)).isInitialLoading = false := by
    cases kind with
    | initial => rfl
    | more => exact h.isInitialLoading_eq_false hk
  refine ⟨?_, ?_, fun ht => by simp [hi] at ht, fun ht => by simp [hi] at ht, ?_⟩
  all_goals cases kind
  all_goals first | rfl | exact h.limit_pos

theorem pageFailed_initial (h : p.Right n) : (p.update (.pageFailed .initial)).Right 0 where
  skip_eq := rfl
  hasMore_eq := rfl
  exclusive ht := by simp [update, finish] at ht
  blank ht := by simp [update, finish] at ht
  limit_pos := h.limit_pos

theorem pageFailed_more (h : p.Right n) : (p.update (.pageFailed .more)).Right n :=
  ⟨h.skip_eq, h.hasMore_eq, fun _ => rfl, h.blank, h.limit_pos⟩

/-- An answer that is awaited ends the loading, as only one kind of load is under way. -/
theorem isLoading_pageReceived (h : p.Right n) {kind : LoadKind} (hk : p.isLoadingKind kind = true)
    (loaded total : Nat) : (p.update (.pageReceived kind loaded total)).isLoading = false := by
  cases kind with
  | initial =>
    have hp : p.isPaginating = false := h.exclusive hk
    simp [isLoading, update, finish, hp]
  | more =>
    have hi := h.isInitialLoading_eq_false hk
    simp [isLoading, update, finish, hi]

theorem isLoading_pageFailed (h : p.Right n) {kind : LoadKind} (hk : p.isLoadingKind kind = true) :
    (p.update (.pageFailed kind)).isLoading = false := by
  cases kind with
  | initial =>
    have hp : p.isPaginating = false := h.exclusive hk
    simp [isLoading, update, finish, hp]
  | more =>
    have hi := h.isInitialLoading_eq_false hk
    simp [isLoading, update, finish, hi]

end Right
end Pagination

namespace ListState

variable {ε F : Type} [Entity ε]

/-- The cursor is right for the list, and there is no error while the first page is awaited. -/
structure Coherent (s : ListState ε F) : Prop where
  cursor : s.pagination.Right s.list.length
  noError : s.isInitialLoading = true → s.lastError = none

theorem coherent_withFilters (limit : Nat) (filters : F) :
    (withFilters limit filters : ListState ε F).Coherent :=
  ⟨Pagination.right_new limit, fun _ => rfl⟩

theorem Coherent.list_eq_nil {s : ListState ε F} (hs : s.Coherent)
    (h : s.isInitialLoading = true) : s.list = [] :=
  List.eq_nil_of_length_eq_zero (hs.cursor.blank h).1

theorem isLoadingKind_of_awaits {s : ListState ε F} {g : Generation} {k : LoadKind}
    (h : s.awaits g k = true) : s.pagination.isLoadingKind k = true :=
  (Bool.and_eq_true_iff.1 h).2

theorem generation_eq_of_awaits {s : ListState ε F} {g : Generation} {k : LoadKind}
    (h : s.awaits g k = true) : g = s.generation :=
  of_decide_eq_true (Bool.and_eq_true_iff.1 h).1

variable [EmptyCollection F]

theorem Step.coherent {s t : ListState ε F} {m : Message ε F} {c : Command F} (h : s.Step m t c)
    (hs : s.Coherent) : t.Coherent := by
  cases h with
  | renewed h => exact ⟨hs.cursor.resetStarted, fun _ => rfl⟩
  | asked h => exact ⟨hs.cursor.loadingMoreStarted h, hs.noError⟩
  | debounced filters => exact ⟨hs.cursor, hs.noError⟩
  | @edited entity h =>
    have hlen : (s.entities.replace entity).1.toList.length = s.list.length :=
      EntitySet.size_replace s.entities entity
    exact ⟨hlen ▸ hs.cursor, hs.noError⟩
  | loaded page h => exact ⟨hs.cursor.pageReceived (isLoadingKind_of_awaits h) _ _, fun _ => rfl⟩
  | @failed generation kind e h =>
    cases kind with
    | initial => exact ⟨hs.cursor.pageFailed_initial, fun ht => by
        simp [isInitialLoading, Pagination.update, Pagination.finish] at ht⟩
    | more =>
      have hi := hs.cursor.isInitialLoading_eq_false (isLoadingKind_of_awaits h)
      exact ⟨hs.cursor.pageFailed_more, fun ht => by
        simp [isInitialLoading, Pagination.update, Pagination.finish, hi] at ht⟩
  | tornDown => exact ⟨Pagination.right_new s.limit, fun _ => rfl⟩
  | ignored h => exact hs

theorem Coherent.isLoading_of_awaits {s : ListState ε F} (hs : s.Coherent) {g : Generation}
    {k : LoadKind} (h : s.awaits g k = true) (result : Except LoadError (Page ε)) :
    (s.update (.pageLoaded g k result)).1.isLoading = false := by
  obtain ⟨hg, hk⟩ := Bool.and_eq_true_iff.1 h
  cases result with
  | ok page =>
    have hl := hs.cursor.isLoading_pageReceived hk (s.entities.merge page.items).1.size page.total
    simpa [update, applyPage, of_decide_eq_true hg, hk, touch, isLoading] using hl
  | error e =>
    have hl := hs.cursor.isLoading_pageFailed hk
    simpa [update, applyPage, of_decide_eq_true hg, hk, touch, isLoading] using hl

theorem Step.limit_eq {s t : ListState ε F} {m : Message ε F} {c : Command F} (h : s.Step m t c)
    (hs : 1 ≤ s.limit) : t.limit = s.limit := by
  cases h with
  | @loaded generation kind page h => cases kind <;> rfl
  | @failed generation kind e h => cases kind <;> rfl
  | tornDown => exact Nat.max_eq_left hs
  | _ => rfl

theorem coherent_run (limit : Nat) (filters : F) (ms : List (Message ε F)) :
    ((withFilters limit filters : ListState ε F).run ms).Coherent :=
  run_induction (fun s m hs => (s.step_update m).coherent hs) (coherent_withFilters limit filters) ms

theorem limit_run (limit : Nat) (filters : F) (ms : List (Message ε F)) :
    ((withFilters limit filters : ListState ε F).run ms).limit = max 1 limit := by
  let start : ListState ε F := withFilters limit filters
  have hlimit : (start.run ms).limit = start.limit ∧ 1 ≤ (start.run ms).limit :=
    run_induction (P := fun t => t.limit = start.limit ∧ 1 ≤ t.limit)
      (fun t m ht => by rwa [(t.step_update m).limit_eq ht.2]) ⟨rfl, Nat.le_max_right limit 1⟩ ms
  exact hlimit.1.trans (Nat.max_comm limit 1)

/-- Whatever messages a new list gets, its cursor stands behind the last entity, more is to come
exactly while the total is unknown or not reached, at most one kind of load is under way, a first
page is awaited only by a list that shows nothing, and the page size is the one it was made with. -/
theorem cursor_agrees_with_list (limit : Nat) (filters : F) (ms : List (Message ε F)) :
    let s : ListState ε F := (withFilters limit filters).run ms
    s.skip = s.list.length ∧
    s.hasMore = (match s.total with
      | none => true
      | some total => decide (s.list.length < total)) ∧
    ¬(s.isInitialLoading = true ∧ s.isPaginating = true) ∧
    (s.isInitialLoading = true → s.list = [] ∧ s.total = none ∧ s.lastError = none) ∧
    (s.hasMore = false → s.total.isSome = true) ∧
    s.limit = max 1 limit := by
  intro s
  have hs : s.Coherent := coherent_run limit filters ms
  have hmore := hs.cursor.hasMore_eq
  refine ⟨hs.cursor.skip_eq, ?_, fun h => ?_, fun h => ?_, fun h => ?_, ?_⟩
  · change s.hasMore = s.total.all _ at hmore
    rw [hmore]
    cases s.total <;> rfl
  · simpa [h.2] using (hs.cursor.exclusive h.1).symm.trans h.2
  · exact ⟨hs.list_eq_nil h, (hs.cursor.blank h).2, hs.noError h⟩
  · cases ht : s.total with
    | some total => rfl
    | none =>
      rw [show s.pagination.total = none from ht] at hmore
      exact absurd (h.symm.trans hmore) (by simp)
  · exact limit_run limit filters ms

end ListState
end PagedList
