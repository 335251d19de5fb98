import PagedList.Proofs.Coherence

/-! What a list shows is what comes of the messages since its last reset, told one after the other
to a plain list that is searched from the front. -/
namespace PagedList

open LinearSearch

namespace Message

variable {ε F : Type}

def response? : Message ε F → Option (Except LoadError (Page ε))
  | .pageLoaded _ _ result => some result
  | _ => none

/-- The total that a message tells: that of its page, or zero where the first page failed. -/
def total? : Message ε F → Option Nat
  | .pageLoaded _ _ (.ok page) => some page.total
  | .pageLoaded _ .initial (.error _) => some 0
  | _ => none

end Message

section Plain

variable {ε F : Type}

def replayTotal (ms : List (Message ε F)) : Option Nat := (ms.filterMap Message.total?).getLast?

def replayError (ms : List (Message ε F)) : Option LoadError :=
  match (ms.filterMap Message.response?).getLast? with
  | some (.error e) => some e
  | _ => none

theorem replayTotal_concat (ms : List (Message ε F)) (m : Message ε F) :
    replayTotal (ms ++ [m]) = m.total?.or (replayTotal ms) := by
  cases h : m.total? <;> simp [replayTotal, List.filterMap_append, h]

theorem replayError_concat (ms : List (Message ε F)) (m : Message ε F) :
    replayError (ms ++ [m]) = match m.response? with
      | some (.error e) => some e
      | some (.ok _) => none
      | none => replayError ms := by
  cases h : m.response? with
  | none => simp [replayError, List.filterMap_append, h]
  | some result => cases result <;> simp [replayError, List.filterMap_append, h]

variable [Entity ε]

/-- A plain list after a message: pages are put in, edited entities overwritten. -/
def replayMessage (l : List ε) : Message ε F → List ε
  | .pageLoaded _ _ (.ok page) => putAll page.items l
  | .entityEdited entity => overwrite entity l
  | _ => l

/-- What a plain list comes to that is empty at first. -/
def replayList (ms : List (Message ε F)) : List ε := ms.foldl replayMessage []

theorem replayList_concat (ms : List (Message ε F)) (m : Message ε F) :
    replayList (ms ++ [m]) = replayMessage (replayList ms) m := by
  simp [replayList]

end Plain

namespace ListState

variable {ε F : Type} [Entity ε]

/-- Whether a message is an answer that nobody awaits. -/
def discards (s : ListState ε F) : Message ε F → Bool
  | .pageLoaded generation kind _ => !s.awaits generation kind
  | _ => false

/-- What is remembered of the messages so far once another one comes: nothing from before a reset,
and no answer that nobody awaits. -/
def hear (s : ListState ε F) (before : List (Message ε F)) (m : Message ε F) :
    List (Message ε F) :=
  if s.isReset m then [] else if s.discards m then before else before ++ [m]

/-- What a list shows is what comes of some messages. -/
structure Shows (s : ListState ε F) (ms : List (Message ε F)) : Prop where
  list_eq : s.list = replayList ms
  total_eq : s.total = replayTotal ms
  lastError_eq : s.lastError = replayError ms

theorem Shows.of_quiet {s t : ListState ε F} {ms : List (Message ε F)} {m : Message ε F}
    (hs : s.Shows ms) (hl : t.list = replayMessage s.list m) (ht : t.total = s.total)
    (he : t.lastError = s.lastError) (hm : m.response? = none) : t.Shows (ms ++ [m]) where
  list_eq := by rw [hl, hs.list_eq, replayList_concat]
  total_eq := by
    have hn : m.total? = none := by cases m <;> first | rfl | cases hm
    rw [ht, hs.total_eq, replayTotal_concat, hn, Option.none_or]
  lastError_eq := by rw [he, hs.lastError_eq, replayError_concat, hm]

variable [EmptyCollection F]

/-- The messages since the last reset, of the answers only those that were accepted; `before` are
those that came before `s`. -/
def heard (s : ListState ε F) (before : List (Message ε F)) :
    List (Message ε F) → List (Message ε F)
  | [] => before
  | m :: ms => (s.update m).1.heard (s.hear before m) ms

theorem Step.indexed {s t : ListState ε F} {m : Message ε F} {c : Command F} (h : s.Step m t c)
    (hs : s.entities.Indexed) : t.entities.Indexed := by
  cases h with
  | renewed | tornDown => exact EntitySet.indexed_empty
  | @edited entity h => exact EntitySet.indexed_replace hs entity
  | loaded page h => exact EntitySet.indexed_merge hs page.items
  | @failed generation kind e h =>
    change (if kind = LoadKind.initial then ∅ else s.entities).Indexed
    split
    · exact EntitySet.indexed_empty
    · exact hs
  | _ => exact hs

theorem indexed_run (limit : Nat) (filters : F) (ms : List (Message ε F)) :
    ((withFilters limit filters : ListState ε F).run ms).entities.Indexed :=
  run_induction (P := fun t => t.entities.Indexed) (fun t m ht => (t.step_update m).indexed ht)
    EntitySet.indexed_empty ms

theorem Step.shows {s t : ListState ε F} {m : Message ε F} {c : Command F} {ms : List (Message ε F)}
    (h : s.Step m t c) (hc : s.Coherent) (hi : s.entities.Indexed) (hs : s.Shows ms) :
    t.Shows (s.hear ms m) := by
  cases h with
  | renewed h =>
    rw [hear, if_pos (isReset_of_renewal? h)]
    exact ⟨rfl, rfl, rfl⟩
  | tornDown => exact ⟨rfl, rfl, rfl⟩
  | asked h => exact hs.of_quiet rfl rfl rfl rfl
  | debounced filters => exact hs.of_quiet rfl rfl rfl rfl
  | @edited entity h => exact hs.of_quiet (EntitySet.toList_replace hi entity) rfl rfl rfl
  | @loaded g k page h =>
    have heq : s.hear ms (.pageLoaded g k (.ok page)) = ms ++ [.pageLoaded g k (.ok page)] := by
      simp [hear, isReset, discards, h]
    rw [heq]
    refine ⟨?_, ?_, ?_⟩
    · show (s.entities.merge page.items).1.toList = _
      rw [EntitySet.toList_merge hi, replayList_concat, ← hs.list_eq]
      rfl
    · rw [replayTotal_concat]
      cases k <;> rfl
    · rw [replayError_concat]
      rfl
  | @failed g k e h =>
    have heq : s.hear ms (.pageLoaded g k (.error e)) = ms ++ [.pageLoaded g k (.error e)] := by
      simp [hear, isReset, discards, h]
    rw [heq]
    refine ⟨?_, ?_, ?_⟩
    · rw [replayList_concat]
      show (if k = LoadKind.initial then ∅ else s.entities).toList = replayList ms
      split
      · -- nothing is loaded while the first page is awaited
        rename_i hk
        subst hk
        exact (hc.list_eq_nil (isLoadingKind_of_awaits h)).symm.trans hs.list_eq
      · exact hs.list_eq
    · rw [replayTotal_concat]
      cases k with
      | initial => rfl
      | more => exact hs.total_eq
    · rw [replayError_concat]
      rfl
  | ignored h =>
    rw [hear, if_neg (by simp [isReset_of_ignores h])]
    cases m with
    | pageLoaded g k result =>
      have hd : s.discards (.pageLoaded g k result) = true := h
      rw [if_pos hd]
      exact hs
    | entityEdited entity =>
      refine hs.of_quiet ?_ rfl rfl rfl
      exact (EntitySet.overwrite_of_contains_eq_false hi (by simpa [ignores] using h)).symm
    | _ => exact hs.of_quiet rfl rfl rfl rfl

theorem shows_run {s : ListState ε F} {before : List (Message ε F)} (hc : s.Coherent)
    (hi : s.entities.Indexed) (hs : s.Shows before) (ms : List (Message ε F)) :
    (s.run ms).Shows (s.heard before ms) := by
  induction ms generalizing s before with
  | nil => exact hs
  | cons m ms ih =>
    have h := s.step_update m
    exact ih (h.coherent hc) (h.indexed hi) (h.shows hc hi hs)

/-- After any messages a new list shows what a plain list comes to that is told those since the
last reset: accepted pages are put in entity by entity and edited entities overwritten, the total
is the last one told, and the error that of the last accepted answer. -/
theorem run_shows_replay (limit : Nat) (filters : F) (ms : List (Message ε F)) :
    let s : ListState ε F := withFilters limit filters
    (s.run ms).list = replayList (s.heard [] ms) ∧
    (s.run ms).total = replayTotal (s.heard [] ms) ∧
    (s.run ms).lastError = replayError (s.heard [] ms) := by
  have h := shows_run (coherent_withFilters limit filters) EntitySet.indexed_empty
    (⟨rfl, rfl, rfl⟩ : Shows (withFilters limit filters : ListState ε F) []) ms
  exact ⟨h.list_eq, h.total_eq, h.lastError_eq⟩

end ListState
end PagedList
