import Mathlib.Data.Finset.Card
import Mathlib.Data.Finset.SDiff
import Mathlib.Data.List.Induction
import PagedList.Proofs.EntitySetRun

/-! Entities merged into a set, one page after the other. The first entity with an identifier decides
where it stands, and the last one what stands there. -/
namespace PagedList

theorem eraseDups_of_nodup {α : Type} [DecidableEq α] {l : List α} (h : l.Nodup) :
    l.eraseDups = l := by
  induction l with
  | nil => rfl
  | cons x xs ih =>
    obtain ⟨hx, hxs⟩ := List.nodup_cons.1 h
    have hkept : xs.filter (fun y => !y == x) = xs := List.filter_eq_self.2 fun y hy => by
      simpa using fun hyx : y = x => hx (hyx ▸ hy)
    rw [List.eraseDups_cons, hkept, ih hxs]

theorem eraseDups_append_cons_of_mem {α : Type} [DecidableEq α] {a : α} {l : List α} (h : a ∈ l)
    (r : List α) : (l ++ a :: r).eraseDups = (l ++ r).eraseDups := by
  have hgone : (a :: r).removeAll l = r.removeAll l :=
    List.filter_cons_of_neg (by simpa using h)
  rw [List.eraseDups_append, List.eraseDups_append, hgone]

namespace LinearSearch

variable {ε : Type} [Entity ε]

theorem get?_put (id : Entity.Id ε) (e : ε) (l : List ε) :
    get? id (put e l) = if Entity.id e = id then some e else get? id l := by
  unfold get?
  induction l with
  | nil => by_cases he : Entity.id e = id <;> simp [put, he]
  | cons x xs ih =>
    by_cases hx : Entity.id x = Entity.id e
    · by_cases he : Entity.id e = id <;> simp [put, hx, he]
    · by_cases hid : Entity.id x = id
      · have he : Entity.id e ≠ id := fun he => hx (hid.trans he.symm)
        rw [put, if_neg hx, if_neg he]
        simp [hid]
      · simp [put, hx, hid, ih]

/-- The last entity with an identifier is found, or what was there if none came. -/
theorem get?_putAll (id : Entity.Id ε) (es l : List ε) :
    get? id (putAll es l) = (es.findRev? fun e => Entity.id e = id).or (get? id l) := by
  induction es using List.reverseRecOn with
  | nil => rfl
  | append_singleton es e ih =>
    have hput : putAll (es ++ [e]) l = put e (putAll es l) := List.foldl_concat ..
    rw [hput, get?_put, ih, List.findRev?_eq_find?_reverse, List.findRev?_eq_find?_reverse,
      List.reverse_concat, List.find?_cons]
    by_cases he : Entity.id e = id <;> simp [he]

theorem ids_putAll {l : List ε} (h : (l.map Entity.id).Nodup) (es : List ε) :
    (putAll es l).map Entity.id = (l.map Entity.id ++ es.map Entity.id).eraseDups := by
  induction es generalizing l with
  | nil => simpa [putAll] using (eraseDups_of_nodup h).symm
  | cons e es ih =>
    show (putAll es (put e l)).map Entity.id = _
    rw [ih (nodup_ids_put h e), ids_put, List.map_cons]
    split
    · rename_i he
      exact (eraseDups_append_cons_of_mem he _).symm
    · rw [List.append_assoc, List.singleton_append]

/-- A list without repeated identifiers is known by their order and by what is found for each. -/
theorem ext_get? {l l' : List ε} (h : (l.map Entity.id).Nodup)
    (hids : l.map Entity.id = l'.map Entity.id) (hget : ∀ id, get? id l = get? id l') : l = l' := by
  induction l generalizing l' with
  | nil => exact (List.map_eq_nil_iff.1 hids.symm).symm
  | cons x xs ih =>
    obtain ⟨y, ys, rfl⟩ : ∃ y ys, l' = y :: ys := List.exists_cons_of_ne_nil (by rintro rfl; simp at hids)
    rw [List.map_cons, List.map_cons, List.cons.injEq] at hids
    obtain ⟨hxy, hids⟩ := hids
    obtain ⟨hx, hxs⟩ := List.nodup_cons.1 h
    have hhead : x = y := by simpa [get?, hxy] using hget (Entity.id x)
    refine congrArg₂ List.cons hhead (ih hxs hids fun id => ?_)
    by_cases hid : Entity.id x = id
    · -- The identifier of the first entity does not come again on either side.
      have hgone : ∀ zs : List ε, id ∉ zs.map Entity.id → get? id zs = none := fun zs hzs => by
        simpa [get?] using hzs
      rw [hgone xs (hid ▸ hx), hgone ys (hids ▸ hid ▸ hx)]
    · simpa [get?, hid, hxy ▸ hid] using hget id

theorem putAll_putAll {l : List ε} (h : (l.map Entity.id).Nodup) (es : List ε) :
    putAll es (putAll es l) = putAll es l := by
  have hnodup := nodup_ids_putAll h es
  refine (ext_get? hnodup ?_ fun id => ?_).symm
  · have hagain : ((es.map Entity.id).removeAll ((putAll es l).map Entity.id)) = [] := by
      simpa [List.removeAll] using fun e he => mem_ids_putAll.2 (Or.inr (List.mem_map_of_mem he))
    rw [ids_putAll hnodup, List.eraseDups_append, hagain, eraseDups_of_nodup hnodup,
      List.eraseDups_nil, List.append_nil]
  · rw [get?_putAll id es (putAll es l), get?_putAll]
    cases es.findRev? fun e => Entity.id e = id <;> rfl

end LinearSearch

namespace EntitySet

open LinearSearch

variable {ε : Type} [Entity ε] {s : EntitySet ε}

theorem size_eq_length_ids (s : EntitySet ε) : s.size = s.ids.length := by
  simp [size, ids, toList]

theorem merge_append (s : EntitySet ε) (a b : List ε) :
    s.merge (a ++ b) =
      (((s.merge a).1.merge b).1, (s.merge a).2 + ((s.merge a).1.merge b).2) := by
  induction a generalizing s with
  | nil => simp [merge]
  | cons e a ih =>
    simp only [List.cons_append, merge, ih]
    cases (s.upsert e).2 with
    | inserted i => exact Prod.ext rfl (Nat.add_right_comm ..)
    | updated i => rfl

theorem size_merge (s : EntitySet ε) (a : List ε) : (s.merge a).1.size = s.size + (s.merge a).2 := by
  induction a generalizing s with
  | nil => rfl
  | cons e a ih =>
    have hrest := ih (s.upsert e).1
    simp only [merge]
    cases hi : s.positions[Entity.id e]? <;> simp [upsert, hi, size] at hrest ⊢ <;> omega

theorem positions_merge {a : List ε} (h : ∀ e ∈ a, s.contains (Entity.id e) = true) :
    (s.merge a).1.positions = s.positions ∧ (s.merge a).2 = 0 := by
  induction a generalizing s with
  | nil => exact ⟨rfl, rfl⟩
  | cons e a ih =>
    obtain ⟨i, hi⟩ : ∃ i, s.positions[Entity.id e]? = some i := by
      have he := h e List.mem_cons_self
      rwa [contains_eq_isSome, position?, Option.isSome_iff_exists] at he
    have hupsert : s.upsert e =
        ({ s with entities := s.entities.setIfInBounds i e }, .updated i) := by
      simp only [upsert, hi]
    obtain ⟨hpositions, hcount⟩ :=
      ih (s := { s with entities := s.entities.setIfInBounds i e }) fun e' he' =>
        h e' (List.mem_cons_of_mem _ he')
    simp only [merge, hupsert]
    exact ⟨hpositions, hcount⟩

namespace Indexed

theorem ids_merge (h : s.Indexed) (a : List ε) :
    (s.merge a).1.ids = (s.ids ++ a.map Entity.id).eraseDups := by
  have hlist : (s.merge a).1.ids = (putAll a s.toList).map Entity.id :=
    congrArg (List.map Entity.id) (toList_merge h a)
  rw [hlist, ids_putAll h.nodup_ids]
  rfl

theorem ids_merge_eq_append (h : s.Indexed) (a : List ε) :
    (s.merge a).1.ids = s.ids ++ ((a.map Entity.id).filter (· ∉ s.ids)).eraseDups := by
  rw [h.ids_merge, List.eraseDups_append, eraseDups_of_nodup h.nodup_ids, List.removeAll]
  simp

theorem get?_merge (h : s.Indexed) (a : List ε) (id : Entity.Id ε) :
    (s.merge a).1.get? id = (a.findRev? fun e => Entity.id e = id).or (s.get? id) := by
  rw [(indexed_merge h a).get?_eq, toList_merge h, get?_putAll, h.get?_eq]

theorem count_merge (h : s.Indexed) (a : List ε) :
    (s.merge a).2 = ((a.map Entity.id).toFinset \ s.ids.toFinset).card := by
  let new := ((a.map Entity.id).filter (· ∉ s.ids)).eraseDups
  have hids : (s.merge a).1.ids = s.ids ++ new := h.ids_merge_eq_append a
  have hnodup : new.Nodup := by
    have hall := (indexed_merge h a).nodup_ids
    rw [hids] at hall
    exact (List.nodup_append.1 hall).2.1
  have hset : new.toFinset = (a.map Entity.id).toFinset \ s.ids.toFinset := by
    ext id
    simp [new, List.mem_eraseDups]
  have hsize := size_merge s a
  rw [size_eq_length_ids, size_eq_length_ids, hids, List.length_append] at hsize
  rw [← hset, List.toFinset_card_of_nodup hnodup]
  omega

theorem merge_merge (h : s.Indexed) (a : List ε) :
    (s.merge a).1.merge a = ((s.merge a).1, 0) := by
  have hmerged := indexed_merge h a
  have hcontains : ∀ e ∈ a, (s.merge a).1.contains (Entity.id e) = true := fun e he => by
    have hmem : Entity.id e ∈ (putAll a s.toList).map Entity.id :=
      mem_ids_putAll.2 (Or.inr (List.mem_map_of_mem he))
    rw [hmerged.contains_eq, toList_merge h]
    simpa [LinearSearch.contains] using hmem
  obtain ⟨hpositions, hcount⟩ := positions_merge hcontains
  have hlist : ((s.merge a).1.merge a).1.toList = (s.merge a).1.toList := by
    rw [toList_merge hmerged, toList_merge h, putAll_putAll h.nodup_ids]
  exact Prod.ext (congrArg₂ EntitySet.mk (Array.toList_inj.1 hlist) hpositions) hcount

end Indexed

/-- Entities merged into a set that came about in any way: the count is how much the set grows, and the
number of identifiers that are new to it. Two lists may be merged one after the other or as one, and the
same list merged again changes nothing. Each identifier gives the last entity that came with it, or the
one it gave before, and new identifiers follow the old ones in the order in which they came first. -/
theorem merge_laws (cs : List (Change ε)) (a b : List ε) :
    let s := ((∅ : EntitySet ε).run cs).1
    let merged := (s.merge a).1
    (merged.size = s.size + (s.merge a).2 ∧
      (s.merge a).2 = ((a.map Entity.id).toFinset \ s.ids.toFinset).card) ∧
    s.merge (a ++ b) = ((merged.merge b).1, (s.merge a).2 + (merged.merge b).2) ∧
    merged.merge a = (merged, 0) ∧
    (∀ id, merged.get? id = (a.findRev? fun e => Entity.id e = id).or (s.get? id)) ∧
    merged.ids = s.ids ++ ((a.map Entity.id).filter (· ∉ s.ids)).eraseDups := by
  intro s merged
  have h : s.Indexed := ((represents_empty (ε := ε)).run cs).1.indexed
  exact ⟨⟨size_merge s a, h.count_merge a⟩, merge_append s a b, h.merge_merge a, h.get?_merge a,
    h.ids_merge_eq_append a⟩

end EntitySet
end PagedList
