import PagedList.Proofs.Coherence
import PagedList.Store

/-! What a list waits for: the answers that are still to come to it, of which one is awaited exactly
while the list is loading, and the end of the waiting time of its latest filters. -/
namespace PagedList

/-- By which an answer is recognised. -/
structure Tag where
  generation : Generation
  kind : LoadKind
  deriving DecidableEq

section Views

variable {ε F : Type}

def Work.tag? : Work ε → Option Tag
  | .load _ generation kind _ => some ⟨generation, kind⟩
  | .debounce .. => none

def Work.ticket? : Work ε → Option Nat
  | .load .. => none
  | .debounce ticket _ => some ticket

def Message.tag? : Message ε F → Option Tag
  | .pageLoaded generation kind _ => some ⟨generation, kind⟩
  | _ => none

def Command.loads (loads : List Tag) : Command F → List Tag
  | .loadPage generation kind _ => [⟨generation, kind⟩]
  | .cancelAll => []
  | .scheduleDebounce _ | .none => loads

def Command.timers (timers : List Nat) : Command F → List Nat
  | .scheduleDebounce ticket => [ticket]
  | .cancelAll => []
  | .loadPage .. | .none => timers

theorem Work.message?_cases {now : Nat} {w : Work ε} {m : Message ε F}
    (h : w.message? now = some m) :
    (∃ call g k due outcome, w = .load call g k (some (due, outcome)) ∧ due ≤ now ∧
      m = .pageLoaded g k outcome.result) ∨
    ∃ ticket due, w = .debounce ticket due ∧ due ≤ now ∧ m = .debounceElapsed ticket := by
  unfold message? at h
  split at h
  · split at h
    · rename_i hdue
      cases h
      exact .inl ⟨_, _, _, _, _, rfl, hdue, rfl⟩
    · cases h
  · cases h
  · split at h
    · rename_i hdue
      cases h
      exact .inr ⟨_, _, rfl, hdue, rfl⟩
    · cases h

theorem Work.tag?_of_message? {now : Nat} {w : Work ε} {m : Message ε F}
    (h : w.message? now = some m) : m.tag? = w.tag? := by
  rcases message?_cases h with ⟨_, _, _, _, _, rfl, -, rfl⟩ | ⟨_, _, rfl, -, rfl⟩ <;> rfl

theorem Work.eq_debounceElapsed {now ticket : Nat} {w : Work ε} {m : Message ε F}
    (h : w.message? now = some m) (ht : w.ticket? = some ticket) : m = .debounceElapsed ticket := by
  rcases message?_cases h with ⟨_, _, _, _, _, rfl, -, -⟩ | ⟨_, _, rfl, -, rfl⟩
  · cases ht
  · cases ht
    rfl

end Views

namespace ListState

variable {ε F : Type} [Entity ε]

/-- These are the answers that are still to come: those of the current generation are awaited, and
there is one exactly while the list is loading. -/
structure Tracks (s : ListState ε F) (tags : List Tag) : Prop where
  awaited : ∀ r ∈ tags, r.generation = s.generation → s.pagination.isLoadingKind r.kind = true
  count : tags.countP (fun r => r.generation = s.generation) = s.isLoading.toNat
  old : ∀ r ∈ tags, r.generation.number.toNat ≤ s.generation.number.toNat

/-- The filters that wait do so for the last ticket, whose time runs or is over. -/
def Timed (s : ListState ε F) (timers : List Nat) (queue : List (Message ε F)) : Prop :=
  ∀ ticket filters, s.pending = some (ticket, filters) →
    ticket = s.lastTicket ∧ (ticket ∈ timers ∨ .debounceElapsed ticket ∈ queue)

namespace Tracks

variable {s t : ListState ε F} {tags rest : List Tag}

theorem perm (hs : s.Tracks tags) (h : tags.Perm rest) : s.Tracks rest where
  awaited r hr := hs.awaited r (h.mem_iff.2 hr)
  count := (h.countP_eq _).symm.trans hs.count
  old r hr := hs.old r (h.mem_iff.2 hr)

theorem congr (hs : s.Tracks tags) (hg : t.generation = s.generation)
    (hp : t.pagination = s.pagination) : t.Tracks tags := by
  obtain ⟨hawaited, hcount, hold⟩ := hs
  rw [← hg, ← hp] at hawaited
  refine ⟨hawaited, ?_, ?_⟩
  · rw [isLoading, hg, hp]
    exact hcount
  · rw [hg]
    exact hold

theorem ne_generation (hs : s.Tracks tags) (h : s.isLoading = false) :
    ∀ r ∈ tags, r.generation ≠ s.generation := by
  have hcount := hs.count
  rw [h, Bool.toNat_false, List.countP_eq_zero] at hcount
  exact fun r hr he => hcount r hr (decide_eq_true he)

theorem ne_next (hs : s.Tracks tags) (hn : s.generation.number.toNat + 1 < UInt64.size) :
    ∀ r ∈ tags, r.generation ≠ s.generation.next ∧
      r.generation.number.toNat ≤ s.generation.next.number.toNat :=
  fun r hr => Generation.ne_next_of_le (hs.old r hr) hn

theorem of_ne (h : s.isLoading = false) (hne : ∀ r ∈ tags, r.generation ≠ s.generation)
    (hold : ∀ r ∈ tags, r.generation.number.toNat ≤ s.generation.number.toNat) : s.Tracks tags where
  awaited r hr hg := absurd hg (hne r hr)
  count := by
    rw [h, Bool.toNat_false, List.countP_eq_zero]
    exact fun r hr hd => hne r hr (of_decide_eq_true hd)
  old := hold

theorem cons {r : Tag} (hne : ∀ q ∈ tags, q.generation ≠ s.generation)
    (hold : ∀ q ∈ tags, q.generation.number.toNat ≤ s.generation.number.toNat)
    (hg : r.generation = s.generation) (hk : s.pagination.isLoadingKind r.kind = true)
    (hl : s.isLoading = true) : s.Tracks (r :: tags) where
  awaited q hq he := by
    rcases List.mem_cons.1 hq with rfl | hq
    · exact hk
    · exact absurd he (hne q hq)
  count := by
    have hzero : tags.countP (fun q => q.generation = s.generation) = 0 :=
      List.countP_eq_zero.2 fun q hq hd => hne q hq (of_decide_eq_true hd)
    rw [List.countP_cons, hzero, hl]
    simp [hg]
  old q hq := by
    rcases List.mem_cons.1 hq with rfl | hq
    · exact Nat.le_of_eq (by rw [hg])
    · exact hold q hq

theorem tail {r : Tag} (hs : s.Tracks (r :: tags)) (ha : s.awaits r.generation r.kind = true) :
    ∀ q ∈ tags, q.generation ≠ s.generation := by
  have hg : r.generation = s.generation := generation_eq_of_awaits ha
  have hcount := hs.count
  rw [List.countP_cons, if_pos (decide_eq_true hg)] at hcount
  have hle : s.isLoading.toNat ≤ 1 := Bool.toNat_le _
  have hzero : tags.countP (fun q => q.generation = s.generation) = 0 := by omega
  exact fun q hq he => List.countP_eq_zero.1 hzero q hq (decide_eq_true he)

theorem of_cons {r : Tag} (hs : s.Tracks (r :: tags)) (ha : s.awaits r.generation r.kind = false) :
    s.Tracks tags where
  awaited q hq := hs.awaited q (List.mem_cons_of_mem _ hq)
  count := by
    have hne : r.generation ≠ s.generation := fun hg => by
      simp [awaits, hg, hs.awaited r List.mem_cons_self hg] at ha
    rw [← hs.count, List.countP_cons_of_neg (by simpa using hne)]
  old q hq := hs.old q (List.mem_cons_of_mem _ hq)

end Tracks

theorem Timed.mono {s : ListState ε F} {timers : List Nat} {queue queue' : List (Message ε F)}
    (hs : s.Timed timers queue) (h : ∀ m ∈ queue, m ∈ queue') : s.Timed timers queue' := by
  intro ticket filters hp
  obtain ⟨hlast, hm⟩ := hs ticket filters hp
  exact ⟨hlast, hm.imp_right (h _)⟩

variable [EmptyCollection F]

namespace Step

variable {s t : ListState ε F} {m : Message ε F} {c : Command F}

/-- A step takes the message out of what is still to come and puts in what it asks for. -/
theorem tracks {loads answers : List Tag} (h : s.Step m t c) (hc : s.Coherent)
    (hn : s.isReset m = true → s.generation.number.toNat + 1 < UInt64.size)
    (hs : s.Tracks (m.tag?.toList ++ (loads ++ answers))) : t.Tracks (c.loads loads ++ answers) := by
  cases h with
  | renewed h =>
    -- whatever was to come is of an older generation now
    have hnext := hs.ne_next (hn (isReset_of_renewal? h))
    have hmem : ∀ r ∈ answers, r ∈ m.tag?.toList ++ (loads ++ answers) := by simp_all
    exact .cons (fun r hr => (hnext r (hmem r hr)).1) (fun r hr => (hnext r (hmem r hr)).2) rfl rfl rfl
  | asked h =>
    -- more is asked for only while nothing is loading, so the new answer is the only one to come
    have hne := hs.ne_generation (Pagination.isLoading_of_canPaginate h)
    have hmem : ∀ r ∈ answers, r ∈ loads ++ answers := by simp_all
    exact .cons (fun r hr => hne r (hmem r hr)) (fun r hr => hs.old r (hmem r hr)) rfl rfl (by
      simp [isLoading, Pagination.isLoading, Pagination.update])
  | debounced filters => exact hs.congr rfl rfl
  | edited h => exact hs.congr rfl rfl
  | @loaded g k page ha =>
    have hl := hc.cursor.isLoading_pageReceived (isLoadingKind_of_awaits ha)
      (s.entities.merge page.items).1.size page.total
    exact .of_ne hl (hs.tail ha) fun r hr => hs.old r (List.mem_cons_of_mem _ hr)
  | @failed g k e ha =>
    have hl := hc.cursor.isLoading_pageFailed (isLoadingKind_of_awaits ha)
    exact .of_ne hl (hs.tail ha) fun r hr => hs.old r (List.mem_cons_of_mem _ hr)
  | tornDown =>
    have hnext := hs.ne_next (hn rfl)
    have hmem : ∀ r ∈ answers, r ∈ loads ++ answers := by simp_all
    exact .of_ne rfl (fun r hr => (hnext r (hmem r hr)).1) fun r hr => (hnext r (hmem r hr)).2
  | ignored h =>
    cases m with
    | pageLoaded g k result => exact hs.of_cons (by simpa [ignores] using h)
    | _ => exact hs

/-- Loads under way are of the current generation, as a new generation begins with a new load. -/
theorem current_loads {loads : List Tag} (h : s.Step m t c)
    (hs : ∀ r ∈ loads, r.generation = s.generation) :
    ∀ r ∈ c.loads loads, r.generation = t.generation := by
  cases h with
  | renewed | asked =>
    intro r hr
    rw [List.mem_singleton.1 hr]
  | tornDown => exact fun r hr => nomatch hr
  | debounced | edited | loaded | failed | ignored => exact hs

theorem timed {timers : List Nat} {queue : List (Message ε F)} (h : s.Step m t c)
    (hs : s.Timed timers (m :: queue)) : t.Timed (c.timers timers) queue := by
  have hrest : ∀ ticket filters, s.pending = some (ticket, filters) →
      .debounceElapsed ticket ≠ m →
      ticket = s.lastTicket ∧ (ticket ∈ timers ∨ .debounceElapsed ticket ∈ queue) := by
    intro ticket filters hp hm
    obtain ⟨hlast, hmem⟩ := hs ticket filters hp
    exact ⟨hlast, hmem.imp_right fun hmem => (List.mem_cons.1 hmem).resolve_left hm⟩
  cases h with
  | renewed h =>
    intro ticket filters hp
    cases m with
    | initRequested given =>
      cases given with
      | none =>
        cases h
        exact hrest ticket filters hp (by simp)
      | some given =>
        cases h
        cases hp
    | filtersChanged | filtersCleared =>
      cases h
      cases hp
    | debounceElapsed =>
      obtain ⟨p, -, hpair⟩ := Option.map_eq_some_iff.1 h
      cases hpair
      cases hp
    | paginateRequested | filtersDebounced | entityEdited | pageLoaded | tornDown => cases h
  | debounced filters =>
    intro ticket filters hp
    cases hp
    exact ⟨rfl, .inl (List.mem_singleton.2 rfl)⟩
  | tornDown =>
    intro ticket filters hp
    cases hp
  | ignored h =>
    intro ticket filters hp
    refine hrest ticket filters hp ?_
    rintro rfl
    simp [ignores, hp] at h
  | asked | edited | loaded | failed =>
    exact fun ticket filters hp => hrest ticket filters hp (by simp)

end Step
end ListState

end PagedList
