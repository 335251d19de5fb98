import PagedList.ListState
import PagedList.Proofs.LinearSearch

/-! Runs of a list: messages one after the other, the resets among them, and what a single message
can do. Proofs about all runs go through `step_update`, which lists what can happen to a state. -/
namespace PagedList

theorem Generation.toNat_next {g : Generation} (h : g.number.toNat + 1 < UInt64.size) :
    g.next.number.toNat = g.number.toNat + 1 := by
  simp only [Generation.next, UInt64.toNat_add, UInt64.toNat_one]
  exact Nat.mod_eq_of_lt h

theorem Generation.next_ne (g : Generation) : g.next ≠ g := fun h => by
  have hnumber : g.number + 1 = g.number := congrArg Generation.number h
  simp at hnumber

theorem Generation.ne_next_of_le {g h : Generation} (hle : g.number.toNat ≤ h.number.toNat)
    (hn : h.number.toNat + 1 < UInt64.size) :
    g ≠ h.next ∧ g.number.toNat ≤ h.next.number.toNat := by
  have hnext := Generation.toNat_next hn
  refine ⟨?_, by omega⟩
  rintro rfl
  omega

namespace ListState

variable {ε F : Type} [Entity ε]

/-- Whether the answer to a load of this generation and kind is awaited. -/
def awaits (s : ListState ε F) (generation : Generation) (kind : LoadKind) : Bool :=
  generation = s.generation && s.pagination.isLoadingKind kind

variable [EmptyCollection F]

def run (s : ListState ε F) (ms : List (Message ε F)) : ListState ε F :=
  ms.foldl (fun s m => (s.update m).1) s

@[simp] theorem run_nil (s : ListState ε F) : s.run [] = s := rfl

@[simp] theorem run_cons (s : ListState ε F) (m : Message ε F) (ms : List (Message ε F)) :
    s.run (m :: ms) = (s.update m).1.run ms := rfl

@[simp] theorem run_append (s : ListState ε F) (ms ns : List (Message ε F)) :
    s.run (ms ++ ns) = (s.run ms).run ns := List.foldl_append

theorem run_induction {P : ListState ε F → Prop} (h : ∀ s m, P s → P (s.update m).1)
    {s : ListState ε F} (hs : P s) (ms : List (Message ε F)) : P (s.run ms) := by
  induction ms generalizing s with
  | nil => exact hs
  | cons m ms ih => exact ih (h s m hs)

def isReset (s : ListState ε F) : Message ε F → Bool
  | .initRequested _ | .filtersChanged _ | .filtersCleared | .tornDown => true
  | .debounceElapsed ticket => s.pending.any (·.1 == ticket)
  | _ => false

def resets (s : ListState ε F) : List (Message ε F) → Nat
  | [] => 0
  | m :: ms => (if s.isReset m then 1 else 0) + (s.update m).1.resets ms

theorem resets_append (s : ListState ε F) (ms ns : List (Message ε F)) :
    s.resets (ms ++ ns) = s.resets ms + (s.run ms).resets ns := by
  induction ms generalizing s with
  | nil => simp [resets]
  | cons m ms ih => simp [resets, ih, Nat.add_assoc]

/-- The filters and the waiting filters with which a message has the first page loaded, if it
does. -/
def renewal? (s : ListState ε F) : Message ε F → Option (F × Option (Nat × F))
  | .initRequested none => some (s.filters, s.pending)
  | .initRequested (some filters) | .filtersChanged filters => some (filters, none)
  | .filtersCleared => some (∅, none)
  | .debounceElapsed ticket => (s.pending.filter (·.1 == ticket)).map fun p => (p.2, none)
  | _ => none

/-- Whether nothing comes of a message. -/
def ignores (s : ListState ε F) : Message ε F → Bool
  | .paginateRequested => !s.pagination.canPaginate
  | .debounceElapsed ticket => !s.pending.any (·.1 == ticket)
  | .entityEdited entity => !s.entities.contains (Entity.id entity)
  | .pageLoaded generation kind _ => !s.awaits generation kind
  | _ => false

/-- What a message can do to a state, and the command that comes of it. -/
inductive Step (s : ListState ε F) : Message ε F → ListState ε F → Command F → Prop
  | renewed {m filters pending} (h : s.renewal? m = some (filters, pending)) :
    Step s m
      { s with
        filters := filters
        pending := pending
        generation := s.generation.next
        entities := ∅
        lastError := none
        pagination := s.pagination.update .resetStarted
        revision := s.revision + 1 }
      (.loadPage s.generation.next .initial ⟨0, s.limit, filters⟩)
  | asked (h : s.pagination.canPaginate = true) :
    Step s .paginateRequested
      { s with
        pagination := s.pagination.update .loadingMoreStarted
        revision := s.revision + 1 }
      (.loadPage s.generation .more ⟨s.skip, s.limit, s.filters⟩)
  | debounced (filters : F) :
    Step s (.filtersDebounced filters)
      { s with lastTicket := s.lastTicket + 1, pending := some (s.lastTicket + 1, filters) }
      (.scheduleDebounce (s.lastTicket + 1))
  | edited {entity} (h : s.entities.contains (Entity.id entity) = true) :
    Step s (.entityEdited entity)
      { s with entities := (s.entities.replace entity).1, revision := s.revision + 1 } .none
  | loaded {generation kind} (page : Page ε) (h : s.awaits generation kind = true) :
    Step s (.pageLoaded generation kind (.ok page))
      { s with
        entities := (s.entities.merge page.items).1
        pagination := s.pagination.update
          (.pageReceived kind (s.entities.merge page.items).1.size page.total)
        lastError := none
        revision := s.revision + 1 } .none
  | failed {generation kind} (e : LoadError) (h : s.awaits generation kind = true) :
    Step s (.pageLoaded generation kind (.error e))
      { s with
        entities := if kind = LoadKind.initial then ∅ else s.entities
        pagination := s.pagination.update (.pageFailed kind)
        lastError := some e
        revision := s.revision + 1 } .none
  | tornDown :
    Step s .tornDown
      { s with
        generation := s.generation.next
        entities := ∅
        pagination := Pagination.new s.limit
        pending := none
        lastError := none
        revision := s.revision + 1 } .cancelAll
  | ignored {m} (h : s.ignores m = true) : Step s m s .none

theorem step_elapse (s : ListState ε F) (ticket : Nat) :
    s.Step (.debounceElapsed ticket) (s.elapse ticket).1 (s.elapse ticket).2 := by
  unfold elapse
  split
  · rename_i hp
    split
    · rename_i ht
      exact .renewed (by simp [renewal?, hp, ht])
    · rename_i ht
      exact .ignored (by simp [ignores, hp, ht])
  · rename_i hp
    exact .ignored (by simp [ignores, hp])

theorem step_edit (s : ListState ε F) (entity : ε) :
    s.Step (.entityEdited entity) (s.edit entity) .none := by
  have hc := (s.entities.replace_snd entity).symm
  unfold edit
  split
  · rename_i entities hr
    have h := (Step.edited (by rw [hc, hr]) : s.Step (.entityEdited entity) _ _)
    rwa [hr] at h
  · rename_i hr
    exact .ignored (by simp [ignores, hc, hr])

theorem step_applyPage (s : ListState ε F) (generation : Generation) (kind : LoadKind)
    (result : Except LoadError (Page ε)) :
    s.Step (.pageLoaded generation kind result) (s.applyPage generation kind result) .none := by
  unfold applyPage
  split
  · rename_i hg
    exact .ignored (by simp [ignores, awaits, hg])
  · rename_i hg
    split
    · rename_i hk
      exact .ignored (by simp [ignores, awaits, hk])
    · rename_i hk
      have ha : s.awaits generation kind = true := by simp_all [awaits]
      cases result with
      | ok page => exact .loaded page ha
      | error e => exact .failed e ha

/-- An answer changes the state exactly if it is awaited; otherwise it is discarded. -/
theorem update_pageLoaded_ne_iff {s : ListState ε F} {generation : Generation} {kind : LoadKind}
    {result : Except LoadError (Page ε)} :
    (s.update (.pageLoaded generation kind result)).1 ≠ s ↔ s.awaits generation kind = true := by
  simp only [update, applyPage, awaits]
  by_cases hg : generation = s.generation
  · cases hk : s.pagination.isLoadingKind kind with
    | false => simp [hg]
    | true =>
      have hrevision : s.revision + 1 ≠ s.revision := by simp
      cases result <;> simp [hg, touch] <;> exact fun h => hrevision (congrArg revision h)
  · simp [hg]

theorem step_update (s : ListState ε F) (m : Message ε F) :
    s.Step m (s.update m).1 (s.update m).2 := by
  cases m with
  | initRequested filters => cases filters <;> exact .renewed rfl
  | paginateRequested =>
    simp only [update, paginate]
    split
    · rename_i h
      exact .asked h
    · rename_i h
      exact .ignored (by simp [ignores, h])
  | filtersChanged filters => exact .renewed rfl
  | filtersCleared => exact .renewed rfl
  | filtersDebounced filters => exact .debounced filters
  | debounceElapsed ticket => exact s.step_elapse ticket
  | entityEdited entity => exact s.step_edit entity
  | pageLoaded generation kind result => exact s.step_applyPage generation kind result
  | tornDown => exact .tornDown

omit [EmptyCollection F] in
theorem isReset_of_ignores {s : ListState ε F} {m : Message ε F} (h : s.ignores m = true) :
    s.isReset m = false := by
  cases m <;> simp_all [ignores, isReset]

theorem isReset_of_renewal? {s : ListState ε F} {m : Message ε F} {r : F × Option (Nat × F)}
    (h : s.renewal? m = some r) : s.isReset m = true := by
  cases m with
  | debounceElapsed ticket =>
    obtain ⟨p, hp, -⟩ := Option.map_eq_some_iff.1 h
    obtain ⟨hp, ht⟩ := Option.filter_eq_some_iff.1 hp
    simpa [isReset, hp] using ht
  | initRequested | filtersChanged | filtersCleared | tornDown => rfl
  | paginateRequested | filtersDebounced | entityEdited | pageLoaded => simp [renewal?] at h

namespace Step

variable {s t : ListState ε F} {m : Message ε F} {c : Command F}

theorem generation_eq (h : s.Step m t c) :
    t.generation = if s.isReset m then s.generation.next else s.generation := by
  cases h with
  | renewed h => simp [isReset_of_renewal? h]
  | ignored h => simp [isReset_of_ignores h]
  | _ => rfl

theorem awaits_of_loadPage {g : Generation} {k : LoadKind} {params : PageParams F}
    (h : s.Step m t (.loadPage g k params)) : t.awaits g k = true := by
  cases h <;> exact Bool.and_eq_true_iff.2 ⟨decide_eq_true rfl, rfl⟩

theorem eq_of_ignores (h : s.Step m t c) (hm : s.ignores m = true) : t = s ∧ c = .none := by
  cases h with
  | renewed h =>
    have hr := isReset_of_renewal? h
    simp [isReset_of_ignores hm] at hr
  | asked h => simp [ignores, h] at hm
  | debounced => cases hm
  | edited h => simp [ignores, h] at hm
  | loaded _ h | failed _ h => simp [ignores, h] at hm
  | tornDown => cases hm
  | ignored => exact ⟨rfl, rfl⟩

end Step

theorem update_eq_of_ignores {s : ListState ε F} {m : Message ε F} (h : s.ignores m = true) :
    s.update m = (s, .none) :=
  Prod.ext_iff.2 ((s.step_update m).eq_of_ignores h)

/-- Before the numbers run out, the generation counts the resets. -/
theorem toNat_generation_run (s : ListState ε F) (ms : List (Message ε F))
    (h : s.generation.number.toNat + s.resets ms < UInt64.size) :
    (s.run ms).generation.number.toNat = s.generation.number.toNat + s.resets ms := by
  induction ms generalizing s with
  | nil => rfl
  | cons m ms ih =>
    have hg := (s.step_update m).generation_eq
    rw [resets] at h ⊢
    rw [run_cons]
    by_cases hr : s.isReset m = true
    · rw [if_pos hr] at h hg ⊢
      have hn : (s.update m).1.generation.number.toNat = s.generation.number.toNat + 1 := by
        rw [hg]
        exact Generation.toNat_next (by omega)
      rw [ih _ (by omega), hn]
      omega
    · rw [if_neg hr] at h hg ⊢
      rw [ih _ (by rw [hg]; omega), hg]
      omega

theorem toNat_generation_run_withFilters (limit : Nat) (filters : F) (ms : List (Message ε F))
    (h : (withFilters limit filters : ListState ε F).resets ms < UInt64.size) :
    ((withFilters limit filters).run ms).generation.number.toNat =
      (withFilters limit filters : ListState ε F).resets ms := by
  have hrun := toNat_generation_run (withFilters limit filters : ListState ε F) ms
  simpa [withFilters, Generation.first] using hrun (by simpa [withFilters, Generation.first])

/-- Before the numbers run out, no generation comes back: where it is the same before and after some
messages, none of them was a reset. -/
theorem resets_eq_zero_of_generation_eq (limit : Nat) (filters : F) (before ms : List (Message ε F))
    (hn : (withFilters limit filters : ListState ε F).resets (before ++ ms) < UInt64.size)
    (hg : ((withFilters limit filters).run (before ++ ms)).generation =
      ((withFilters limit filters : ListState ε F).run before).generation) :
    ((withFilters limit filters : ListState ε F).run before).resets ms = 0 := by
  have hend := toNat_generation_run_withFilters limit filters (before ++ ms) hn
  rw [resets_append] at hn hend
  have hbefore := toNat_generation_run_withFilters limit filters before (by omega)
  rw [hg, hbefore] at hend
  omega

end ListState
end PagedList
