import PagedList.Game
import PagedList.Proofs.Coherence

/-! The loads that a list asks for. Each of them fits the list that asks for it, and as long as it
is unanswered no other page is asked for, however often the next one is requested. -/
namespace PagedList
namespace ListState

variable {ε F : Type} [Entity ε]

/-- A load that fits the list: it asks for what comes next under the filters in effect, and of the
two kinds of loads only its own is under way. -/
structure Fits (s : ListState ε F) (generation : Generation) (kind : LoadKind)
    (params : PageParams F) : Prop where
  generation_eq : generation = s.generation
  skip_eq : params.skip = match kind with
    | .initial => 0
    | .more => s.list.length
  limit_eq : params.limit = s.limit
  filters_eq : params.filters = s.filters
  isInitialLoading_iff : s.isInitialLoading = true ↔ kind = .initial
  isPaginating_iff : s.isPaginating = true ↔ kind = .more

theorem Coherent.kind_eq {s : ListState ε F} (hs : s.Coherent) {j k : LoadKind}
    (hj : s.pagination.isLoadingKind j = true) (hk : s.pagination.isLoadingKind k = true) :
    j = k := by
  have hexclusive : s.pagination.isInitialLoading = true → s.pagination.isPaginating ≠ true :=
    fun h => by simp [hs.cursor.exclusive h]
  cases j with
  | initial =>
    cases k with
    | initial => rfl
    | more => exact absurd hk (hexclusive hj)
  | more =>
    cases k with
    | initial => exact absurd hj (hexclusive hk)
    | more => rfl

theorem canPaginate_of_awaits {s : ListState ε F} {g : Generation} {k : LoadKind}
    (h : s.awaits g k = true) : s.pagination.canPaginate = false := by
  cases hp : s.pagination.canPaginate with
  | false => rfl
  | true =>
    have hk := isLoadingKind_of_awaits h
    rw [Pagination.isLoadingKind_of_canPaginate hp k] at hk
    cases hk

variable [EmptyCollection F]

namespace Step

variable {s t : ListState ε F} {m : Message ε F} {c : Command F}

theorem fits (hc : s.Coherent) {g : Generation} {k : LoadKind} {params : PageParams F}
    (h : s.Step m t (.loadPage g k params)) : t.Fits g k params := by
  cases h with
  | renewed h => exact ⟨rfl, rfl, rfl, rfl, iff_of_true rfl rfl, iff_of_false nofun nofun⟩
  | asked h =>
    have hi : s.pagination.isInitialLoading = false :=
      Pagination.isLoadingKind_of_canPaginate h .initial
    have hi' : ¬s.pagination.isInitialLoading = true := by simp [hi]
    exact ⟨rfl, hc.cursor.skip_eq, rfl, rfl, iff_of_false hi' nofun, iff_of_true rfl rfl⟩

theorem canPaginate_of_loadPage {g : Generation} {k : LoadKind} {params : PageParams F}
    (h : s.Step m t (.loadPage g k params)) (hr : s.isReset m = false) :
    s.pagination.canPaginate = true := by
  cases h with
  | renewed h => simp [isReset_of_renewal? h] at hr
  | asked h => exact h

theorem keeps_awaiting (h : s.Step m t c) (hc : s.Coherent) {g : Generation} {k : LoadKind}
    (ha : s.awaits g k = true) (hr : s.isReset m = false)
    (hm : ∀ result, m ≠ .pageLoaded g k result) : t.awaits g k = true := by
  -- another answer that is accepted would be awaited beside this one
  have hother : ∀ {g' k'}, s.awaits g' k' = true → g' = g ∧ k' = k := fun {g' k'} ha' => by
    have hg : g' = g := (generation_eq_of_awaits ha').trans (generation_eq_of_awaits ha).symm
    exact ⟨hg, hc.kind_eq (isLoadingKind_of_awaits ha') (isLoadingKind_of_awaits ha)⟩
  cases h with
  | renewed h => simp [isReset_of_renewal? h] at hr
  | asked h => simp [canPaginate_of_awaits ha] at h
  | loaded page h =>
    obtain ⟨rfl, rfl⟩ := hother h
    exact absurd rfl (hm (.ok page))
  | failed e h =>
    obtain ⟨rfl, rfl⟩ := hother h
    exact absurd rfl (hm (.error e))
  | tornDown => cases hr
  | debounced | edited | ignored => exact ha

end Step

/-- Whether some messages bring an answer to a load of this generation and kind that is accepted. -/
def Answered (s : ListState ε F) (ms : List (Message ε F)) (generation : Generation)
    (kind : LoadKind) : Prop :=
  ∃ before result after, ms = before ++ .pageLoaded generation kind result :: after ∧
    ((s.run before).update (.pageLoaded generation kind result)).1 ≠ s.run before

theorem awaits_run {s : ListState ε F} (hc : s.Coherent) {g : Generation} {k : LoadKind}
    (ha : s.awaits g k = true) {ms : List (Message ε F)} (hr : s.resets ms = 0)
    (hn : ¬s.Answered ms g k) : (s.run ms).awaits g k = true := by
  induction ms generalizing s with
  | nil => exact ha
  | cons m ms ih =>
    have hstep := s.step_update m
    rw [resets, Nat.add_eq_zero_iff] at hr
    have hreset : s.isReset m = false := by simpa using hr.1
    have hm : ∀ result, m ≠ .pageLoaded g k result := by
      rintro result rfl
      exact hn ⟨[], result, ms, rfl, update_pageLoaded_ne_iff.2 ha⟩
    refine ih (hstep.coherent hc) (hstep.keeps_awaiting hc ha hreset hm) hr.2 ?_
    rintro ⟨before, result, after, rfl, hne⟩
    exact hn ⟨m :: before, result, after, rfl, hne⟩

/-- Without a reset, the next load is asked for only once the last one is answered. -/
theorem answered_of_loadPage {s : ListState ε F} (hc : s.Coherent) {g : Generation} {k : LoadKind}
    (ha : s.awaits g k = true) {ms : List (Message ε F)} {m : Message ε F}
    (hr : s.resets (ms ++ [m]) = 0) {g' : Generation} {k' : LoadKind} {params : PageParams F}
    (h : ((s.run ms).update m).2 = .loadPage g' k' params) : s.Answered ms g k := by
  rw [resets_append, Nat.add_eq_zero_iff] at hr
  have hreset : (s.run ms).isReset m = false := by simpa [resets] using hr.2
  have hstep := (s.run ms).step_update m
  rw [h] at hstep
  have hfree := hstep.canPaginate_of_loadPage hreset
  refine Classical.byContradiction fun hn => ?_
  simp [canPaginate_of_awaits (awaits_run hc ha hr.1 hn)] at hfree

theorem command_of_canPaginate {s : ListState ε F} (h : s.pagination.canPaginate = true) :
    (s.update .paginateRequested).2 =
      .loadPage s.generation .more ⟨s.skip, s.limit, s.filters⟩ := by
  simp only [update, paginate, if_pos h]
  rfl

/-- Every load fits the list that asks for it, and its answer would be accepted next. Until it is
answered or the list is reset, no request for the next page does anything; so if any other page of
the same generation is asked for later, this load was answered in between. -/
theorem loads_one_page_at_a_time (limit : Nat) (filters : F) (before : List (Message ε F))
    (m : Message ε F) {g : Generation} {k : LoadKind} {params : PageParams F}
    (h : (((withFilters limit filters : ListState ε F).run before).update m).2 =
      .loadPage g k params) :
    let start : ListState ε F := withFilters limit filters
    let s := start.run (before ++ [m])
    (s.Fits g k params ∧ params.limit = max 1 limit ∧
      ∀ result, (s.update (.pageLoaded g k result)).1 ≠ s) ∧
    (∀ between, s.resets between = 0 → ¬s.Answered between g k →
      (s.run between).update .paginateRequested = (s.run between, .none)) ∧
    ∀ between n k' params', start.resets (before ++ m :: (between ++ [n])) < UInt64.size →
      ((s.run between).update n).2 = .loadPage g k' params' → s.Answered between g k := by
  intro start s
  have hrun : s = ((start.run before).update m).1 := by simp [s]
  have hstep := (start.run before).step_update m
  rw [h, ← hrun] at hstep
  have hc : s.Coherent := coherent_run limit filters (before ++ [m])
  have hfits : s.Fits g k params := hstep.fits (coherent_run limit filters before)
  have ha : s.awaits g k = true := hstep.awaits_of_loadPage
  refine ⟨⟨hfits, ?_, fun result => update_pageLoaded_ne_iff.2 ha⟩, fun between hr hn => ?_,
    fun between n k' params' hsize hload => ?_⟩
  · exact hfits.limit_eq.trans (limit_run limit filters (before ++ [m]))
  · have hawaits := awaits_run hc ha hr hn
    exact update_eq_of_ignores (by simp [ignores, canPaginate_of_awaits hawaits])
  · -- the later load carries the generation of its own time, so no reset has come before it
    have hnext := (s.run between).step_update n
    rw [hload] at hnext
    have hg : (start.run ((before ++ [m]) ++ (between ++ [n]))).generation = s.generation := by
      rw [run_append, ← hfits.generation_eq, generation_eq_of_awaits hnext.awaits_of_loadPage]
      simp [s, start]
    have hr : s.resets (between ++ [n]) = 0 :=
      resets_eq_zero_of_generation_eq limit filters (before ++ [m]) (between ++ [n])
        (by simpa using hsize) hg
    exact answered_of_loadPage hc ha hr hload

/-- The second page is asked for, fails and is asked for again. -/
theorem second_page_after_failure :
    let start : ListState Game FilterSet := withFilters 2 ∅
    let filters := FilterSet.empty.insert "category" (.string "RTS")
    let before : List (Message Game FilterSet) :=
      [.filtersChanged filters,
        .pageLoaded ⟨1⟩ .initial (.ok ⟨[⟨1, "StarCraft"⟩, ⟨4, "Total Annihilation"⟩], 3⟩)]
    let s := start.run (before ++ [.paginateRequested])
    let between : List (Message Game FilterSet) :=
      [.paginateRequested, .pageLoaded ⟨0⟩ .more (.ok ⟨[⟨7, "Doom"⟩], 9⟩),
        .pageLoaded ⟨1⟩ .more (.error .cancelled)]
    ((start.run before).update .paginateRequested).2 = .loadPage ⟨1⟩ .more ⟨2, 2, filters⟩ ∧
      s.Fits ⟨1⟩ .more ⟨2, 2, filters⟩ ∧
      start.resets (before ++ .paginateRequested :: (between ++ [.paginateRequested])) <
        UInt64.size ∧
      ((s.run between).update .paginateRequested).2 = .loadPage ⟨1⟩ .more ⟨2, 2, filters⟩ ∧
      s.Answered between ⟨1⟩ .more := by
  intro start filters before s between
  have hn : start.resets (before ++ .paginateRequested :: (between ++ [.paginateRequested])) <
      UInt64.size := by decide
  have h : ((start.run before).update .paginateRequested).2 =
      .loadPage ⟨1⟩ .more ⟨2, 2, filters⟩ := by
    rw [command_of_canPaginate (by cbv)]
    cbv
  have hagain : (((start.run (before ++ [.paginateRequested])).run between).update
      .paginateRequested).2 = .loadPage ⟨1⟩ .more ⟨2, 2, filters⟩ := by
    rw [command_of_canPaginate (by cbv)]
    cbv
  obtain ⟨⟨hfits, -, -⟩, -, hanswered⟩ :=
    loads_one_page_at_a_time 2 ∅ before .paginateRequested h
  exact ⟨h, hfits, hn, hagain, hanswered between _ _ _ hn hagain⟩

end ListState
end PagedList
