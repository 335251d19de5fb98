import PagedList.Game
import PagedList.Proofs.Replay

/-! What becomes of the entities of a list within a generation. More are appended and some take the
place of others, but none moves and none goes away before the next reset. -/
namespace PagedList

namespace LinearSearch

variable {ε : Type} [Entity ε]

theorem ids_prefix_put (e : ε) (l : List ε) :
    l.map Entity.id <+: (put e l).map Entity.id := by
  rw [ids_put]
  split
  · exact List.prefix_refl _
  · exact List.prefix_append _ _

theorem ids_prefix_putAll (es l : List ε) :
    l.map Entity.id <+: (putAll es l).map Entity.id := by
  induction es generalizing l with
  | nil => exact List.prefix_refl _
  | cons e es ih => exact (ids_prefix_put e l).trans (ih (put e l))

end LinearSearch

namespace ListState

open LinearSearch

variable {ε F : Type} [Entity ε]

/-- A list that another one goes on: its entities stand at the beginning, in the same order, and the
filters are the same. -/
structure Extends (s t : ListState ε F) : Prop where
  ids_prefix : s.list.map Entity.id <+: t.list.map Entity.id
  filters_eq : t.filters = s.filters

theorem Extends.refl (s : ListState ε F) : s.Extends s := ⟨List.prefix_refl _, rfl⟩

theorem Extends.trans {s t u : ListState ε F} (h : s.Extends t) (h' : t.Extends u) : s.Extends u :=
  ⟨h.ids_prefix.trans h'.ids_prefix, h'.filters_eq.trans h.filters_eq⟩

variable [EmptyCollection F]

theorem Step.extended {s t : ListState ε F} {m : Message ε F} {c : Command F} (h : s.Step m t c)
    (hc : s.Coherent) (hi : s.entities.Indexed) (hr : s.isReset m = false) : s.Extends t := by
  cases h with
  | renewed h => simp [isReset_of_renewal? h] at hr
  | tornDown => cases hr
  | asked | debounced | ignored => exact ⟨List.prefix_refl _, rfl⟩
  | @edited entity h =>
    have hids : (s.entities.replace entity).1.toList.map Entity.id = s.list.map Entity.id := by
      rw [EntitySet.toList_replace hi, ids_overwrite]
      rfl
    exact ⟨hids.symm ▸ List.prefix_refl _, rfl⟩
  | loaded page h =>
    refine ⟨?_, rfl⟩
    show _ <+: (s.entities.merge page.items).1.toList.map Entity.id
    rw [EntitySet.toList_merge hi]
    exact ids_prefix_putAll page.items s.list
  | @failed g k e h =>
    refine ⟨?_, rfl⟩
    cases k with
    | initial =>
      -- the list is cleared, but nothing is loaded while the first page is awaited
      rw [hc.list_eq_nil (isLoadingKind_of_awaits h)]
      exact List.nil_prefix
    | more => exact List.prefix_refl _

theorem extends_run {s : ListState ε F} (hc : s.Coherent) (hi : s.entities.Indexed)
    {ms : List (Message ε F)} (hr : s.resets ms = 0) : s.Extends (s.run ms) := by
  induction ms generalizing s with
  | nil => exact .refl s
  | cons m ms ih =>
    have hstep := s.step_update m
    rw [resets, Nat.add_eq_zero_iff] at hr
    have hreset : s.isReset m = false := by simpa using hr.1
    exact (hstep.extended hc hi hreset).trans (ih (hstep.coherent hc) (hstep.indexed hi) hr.2)

theorem list_update_of_failed {s : ListState ε F} (hc : s.Coherent) (g : Generation)
    (e : LoadError) : (s.update (.pageLoaded g .initial (.error e))).1.list = s.list := by
  have hstep := s.step_update (.pageLoaded g .initial (.error e))
  generalize (s.update (.pageLoaded g .initial (.error e))).1 = t at hstep
  generalize (s.update (.pageLoaded g .initial (.error e))).2 = c at hstep
  cases hstep with
  | renewed h => cases h
  | failed _ h => exact (hc.list_eq_nil (isLoadingKind_of_awaits h)).symm
  | ignored => rfl

/-- As long as a list is of the same generation, whatever messages it gets, its entities keep their
places at the beginning and its filters stay the same. Above all no first page that fails takes away
what is shown. -/
theorem entities_stay_within_generation (limit : Nat) (filters : F)
    (before ms : List (Message ε F)) :
    let start : ListState ε F := withFilters limit filters
    let s := start.run before
    let t := start.run (before ++ ms)
    (start.resets (before ++ ms) < UInt64.size → t.generation = s.generation →
      s.list.map Entity.id <+: t.list.map Entity.id ∧ t.filters = s.filters) ∧
    ∀ g e, (s.update (.pageLoaded g .initial (.error e))).1.list = s.list := by
  intro start s t
  have hc : s.Coherent := coherent_run limit filters before
  have hi : s.entities.Indexed := indexed_run limit filters before
  refine ⟨fun hn hg => ?_, list_update_of_failed hc⟩
  have hr : s.resets ms = 0 := resets_eq_zero_of_generation_eq limit filters before ms hn hg
  have hextends := extends_run hc hi hr
  rw [← run_append] at hextends
  exact ⟨hextends.ids_prefix, hextends.filters_eq⟩

/-- A later page overlaps the first one, an entity is edited, and another page fails. -/
theorem entities_stay_over_pages :
    let start : ListState Game FilterSet := withFilters 2 ∅
    let before : List (Message Game FilterSet) :=
      [.initRequested none, .pageLoaded ⟨1⟩ .initial (.ok ⟨[⟨7, "Doom"⟩, ⟨1, "Quake"⟩], 4⟩)]
    let ms : List (Message Game FilterSet) :=
      [.paginateRequested, .pageLoaded ⟨1⟩ .more (.ok ⟨[⟨1, "Quake II"⟩, ⟨4, "Myst"⟩], 4⟩),
        .entityEdited ⟨7, "Doom II"⟩, .paginateRequested,
        .pageLoaded ⟨1⟩ .more (.error .cancelled)]
    let s := start.run before
    let t := start.run (before ++ ms)
    start.resets (before ++ ms) < UInt64.size ∧ t.generation = s.generation ∧
      s.list = [⟨7, "Doom"⟩, ⟨1, "Quake"⟩] ∧
      t.list = [⟨7, "Doom II"⟩, ⟨1, "Quake II"⟩, ⟨4, "Myst"⟩] ∧
      s.list.map Entity.id <+: t.list.map Entity.id := by
  intro start before ms s t
  have hn : start.resets (before ++ ms) < UInt64.size := by decide
  have hbefore : (start.run before).generation = ⟨1⟩ := by cbv
  have hafter : (start.run (before ++ ms)).generation = ⟨1⟩ := by cbv
  have hg : t.generation = s.generation := hafter.trans hbefore.symm
  have hs : s.list = [⟨7, "Doom"⟩, ⟨1, "Quake"⟩] := by cbv
  have ht : (start.run (before ++ ms)).list =
      [⟨7, "Doom II"⟩, ⟨1, "Quake II"⟩, ⟨4, "Myst"⟩] := by cbv
  have hprefix := ((entities_stay_within_generation 2 ∅ before ms).1 hn hg).1
  exact ⟨hn, hg, hs, ht, hprefix⟩

end ListState
end PagedList
