import Mathlib.Data.Finset.Card
import PagedList.Game
import PagedList.Proofs.Replay

/-! When a list is complete. As long as entities are only added upstream, a list that says there is
no more shows every entity that the last page counted, however the pages overlap. -/
namespace PagedList

open LinearSearch

def Message.page? {ε F : Type} : Message ε F → Option (Page ε)
  | .pageLoaded _ _ (.ok page) => some page
  | _ => none

section Plain

variable {ε F : Type}

theorem replayTotal_eq_getLast? {ms : List (Message ε F)}
    (h : ∀ g e, .pageLoaded g .initial (.error e) ∉ ms) :
    replayTotal ms = (ms.filterMap Message.page?).getLast?.map Page.total := by
  have htotal : ms.filterMap Message.total? = (ms.filterMap Message.page?).map Page.total := by
    rw [List.map_filterMap]
    refine List.filterMap_congr fun m hm => ?_
    cases m with
    | pageLoaded g k result =>
      cases result with
      | ok page => rfl
      | error e =>
        cases k with
        | initial => exact absurd hm (h g e)
        | more => rfl
    | _ => rfl
  rw [replayTotal, htotal, List.getLast?_map]

variable [Entity ε]

theorem nodup_ids_replayMessage {l : List ε} (h : (l.map Entity.id).Nodup) (m : Message ε F) :
    ((replayMessage l m).map Entity.id).Nodup := by
  cases m with
  | pageLoaded g k result =>
    cases result with
    | ok page => exact nodup_ids_putAll h page.items
    | error e => exact h
  | entityEdited entity =>
    show ((overwrite entity l).map Entity.id).Nodup
    rw [ids_overwrite]
    exact h
  | _ => exact h

theorem nodup_ids_replayList (ms : List (Message ε F)) : ((replayList ms).map Entity.id).Nodup := by
  induction ms using List.reverseRecOn with
  | nil => exact List.nodup_nil
  | append_singleton ms m ih =>
    rw [replayList_concat]
    exact nodup_ids_replayMessage ih m

theorem mem_ids_replayMessage {l : List ε} {m : Message ε F} {id : Entity.Id ε} :
    id ∈ (replayMessage l m).map Entity.id ↔
      id ∈ l.map Entity.id ∨ ∃ page ∈ m.page?, id ∈ page.items.map Entity.id := by
  cases m with
  | pageLoaded g k result =>
    cases result with
    | ok page =>
      show id ∈ (putAll page.items l).map Entity.id ↔ _
      simp only [mem_ids_putAll, Message.page?, Option.mem_some_iff, exists_eq_left']
    | error e => simp [Message.page?, replayMessage]
  | entityEdited entity =>
    show id ∈ (overwrite entity l).map Entity.id ↔ _
    simp [ids_overwrite, Message.page?]
  | _ => simp [Message.page?, replayMessage]

theorem mem_ids_replayList {ms : List (Message ε F)} {id : Entity.Id ε} :
    id ∈ (replayList ms).map Entity.id ↔
      ∃ page ∈ ms.filterMap Message.page?, id ∈ page.items.map Entity.id := by
  induction ms using List.reverseRecOn with
  | nil => simp [replayList]
  | append_singleton ms m ih =>
    rw [replayList_concat, mem_ids_replayMessage, ih, List.filterMap_append]
    cases h : m.page? <;> simp [h, or_and_right, exists_or]

end Plain

/-- What there is upstream only grows from page to page: each page shows some of the identifiers
that there are when it is made, and counts them all. -/
structure Grows {ε : Type} [Entity ε] (pages : List (Page ε))
    (upstream : List (Finset (Entity.Id ε))) : Prop where
  shown : List.Forall₂ (fun page ids => ∀ e ∈ page.items, Entity.id e ∈ ids) pages upstream
  counted : pages.map Page.total = upstream.map Finset.card
  growing : upstream.IsChain (· ⊆ ·)

namespace Grows

variable {ε : Type} [Entity ε] {pages : List (Page ε)} {upstream : List (Finset (Entity.Id ε))}
  {last : Finset (Entity.Id ε)}

theorem subset_last (h : Grows pages upstream) (hlast : upstream.getLast? = some last) :
    ∀ ids ∈ upstream, ids ⊆ last := by
  obtain ⟨before, rfl⟩ := List.getLast?_eq_some_iff.1 hlast
  intro ids hids
  rcases List.mem_append.1 hids with hids | hids
  · exact (List.pairwise_append.1 (List.isChain_iff_pairwise.1 h.growing)).2.2 ids hids last
      (List.mem_singleton.2 rfl)
  · exact (List.mem_singleton.1 hids).subset

/-- Whatever a page shows is still there when the last one is made. -/
theorem mem_last (h : Grows pages upstream) (hlast : upstream.getLast? = some last)
    {page : Page ε} (hpage : page ∈ pages) {id : Entity.Id ε}
    (hid : id ∈ page.items.map Entity.id) : id ∈ last := by
  obtain ⟨e, he, rfl⟩ := List.mem_map.1 hid
  obtain ⟨i, hi, rfl⟩ := List.mem_iff_getElem.1 hpage
  have hi' : i < upstream.length := h.shown.length_eq ▸ hi
  exact h.subset_last hlast _ (List.getElem_mem hi') (h.shown.get hi hi' e he)

theorem total_last (h : Grows pages upstream) (hlast : upstream.getLast? = some last) :
    pages.getLast?.map Page.total = some last.card := by
  rw [← List.getLast?_map, h.counted, List.getLast?_map, hlast, Option.map_some]

end Grows

namespace ListState

variable {ε F : Type} [Entity ε] [EmptyCollection F]

/-- If entities are only added upstream and no first page failed, then a list says there is no more
exactly when it shows each entity of the last page's count, and each of them once. -/
theorem hasMore_eq_false_iff_complete (limit : Nat) (filters : F) (ms : List (Message ε F))
    {upstream : List (Finset (Entity.Id ε))} {last : Finset (Entity.Id ε)} :
    let start : ListState ε F := withFilters limit filters
    let told := start.heard [] ms
    let shown := (start.run ms).list.map Entity.id
    (∀ g e, .pageLoaded g .initial (.error e) ∉ told) →
    Grows (told.filterMap Message.page?) upstream → upstream.getLast? = some last →
    ((start.run ms).hasMore = false ↔ shown.Nodup ∧ ∀ id, id ∈ shown ↔ id ∈ last) := by
  intro start told shown hfirst hgrows hlast
  have hshows : (start.run ms).Shows told :=
    shows_run (coherent_withFilters limit filters) EntitySet.indexed_empty ⟨rfl, rfl, rfl⟩ ms
  have hcoherent : (start.run ms).Coherent := coherent_run limit filters ms
  have hshown : shown = (replayList told).map Entity.id := by rw [← hshows.list_eq]
  have hnodup : shown.Nodup := hshown ▸ nodup_ids_replayList told
  have hsubset : shown.toFinset ⊆ last := by
    intro id hid
    rw [List.mem_toFinset, hshown] at hid
    obtain ⟨page, hpage, hid⟩ := mem_ids_replayList.1 hid
    exact hgrows.mem_last hlast hpage hid
  have htotal : (start.run ms).total = some last.card := by
    rw [hshows.total_eq, replayTotal_eq_getLast? hfirst, hgrows.total_last hlast]
  have hcard : shown.toFinset.card = (start.run ms).list.length := by
    rw [List.toFinset_card_of_nodup hnodup, List.length_map]
  have hmore : (start.run ms).hasMore = decide (shown.toFinset.card < last.card) := by
    have h := hcoherent.cursor.hasMore_eq
    rw [show (start.run ms).pagination.total = some last.card from htotal] at h
    rw [hcard]
    exact h
  rw [hmore, decide_eq_false_iff_not, Nat.not_lt]
  constructor
  · -- distinct entities among so many, and as many of them: none is missing
    intro hle
    have heq : shown.toFinset = last := Finset.eq_of_subset_of_card_le hsubset hle
    exact ⟨hnodup, fun id => by rw [← heq, List.mem_toFinset]⟩
  · rintro ⟨-, hall⟩
    have heq : shown.toFinset = last := Finset.ext fun id => by rw [List.mem_toFinset, hall]
    rw [heq]

/-- Pages that overlap, with one more game upstream from one to the next, a page that failed between
them, and an edited game. -/
theorem complete_after_overlapping_pages :
    let start : ListState Game FilterSet := withFilters 2 ∅
    let first : Page Game := ⟨[⟨7, "Doom"⟩, ⟨1, "Quake"⟩], 3⟩
    let second : Page Game := ⟨[⟨1, "Quake"⟩, ⟨4, "Myst"⟩], 4⟩
    let third : Page Game := ⟨[⟨3, "Tetris"⟩], 4⟩
    let told : List (Message Game FilterSet) :=
      [.pageLoaded ⟨1⟩ .initial (.ok first), .entityEdited ⟨7, "Doom II"⟩, .paginateRequested,
        .pageLoaded ⟨1⟩ .more (.error .cancelled), .paginateRequested,
        .pageLoaded ⟨1⟩ .more (.ok second), .paginateRequested, .pageLoaded ⟨1⟩ .more (.ok third)]
    let ms : List (Message Game FilterSet) :=
      .initRequested none :: .pageLoaded ⟨0⟩ .initial (.ok second) :: told
    let upstream : List (Finset Int64) := [{1, 7, 4}, {1, 7, 4, 3}, {1, 7, 4, 3}]
    start.heard [] ms = told ∧ (∀ g e, .pageLoaded g .initial (.error e) ∉ told) ∧
      Grows (told.filterMap Message.page?) upstream ∧
      upstream.getLast? = some {1, 7, 4, 3} ∧ (start.run ms).hasMore = false ∧
      ∀ id : Int64, id ∈ (start.run ms).list.map Entity.id ↔ id ∈ ({1, 7, 4, 3} : Finset Int64) := by
  intro start first second third told ms upstream
  have htold : start.heard [] ms = told := by cbv
  have hfirst : ∀ g e, .pageLoaded g .initial (.error e) ∉ told := by simp [told]
  have hgrows : Grows [first, second, third] upstream :=
    ⟨.cons (by decide) (.cons (by decide) (.cons (by decide) .nil)), by decide, by decide⟩
  have hlast : upstream.getLast? = some {1, 7, 4, 3} := rfl
  have hmore : (start.run ms).hasMore = false := by cbv
  have h := hasMore_eq_false_iff_complete 2 ∅ ms (htold ▸ hfirst) (htold ▸ hgrows) hlast
  exact ⟨htold, hfirst, hgrows, hlast, hmore, (h.1 hmore).2⟩

end ListState
end PagedList
