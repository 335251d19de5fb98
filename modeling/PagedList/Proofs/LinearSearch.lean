import PagedList.EntitySet

/-! Entity sets beside plain lists that are searched from the front.
The index of a set holds exactly the positions of its identifiers, and so every operation does to
the entities what the search does to the list. -/
namespace PagedList

theorem getElem?_concat_eq_some_iff {α : Type} {l : List α} {a b : α} {i : Nat} :
    (l ++ [a])[i]? = some b ↔ l[i]? = some b ∨ i = l.length ∧ a = b := by
  grind

namespace LinearSearch

variable {ε : Type} [Entity ε]

/-- Puts an entity in the place of the first one with its identifier, or at the end. -/
def put (e : ε) : List ε → List ε
  | [] => [e]
  | x :: xs => if Entity.id x = Entity.id e then e :: xs else x :: put e xs

/-- Puts an entity in the place of the first one with its identifier, if there is one. -/
def overwrite (e : ε) : List ε → List ε
  | [] => []
  | x :: xs => if Entity.id x = Entity.id e then e :: xs else x :: overwrite e xs

def putAll (es l : List ε) : List ε := es.foldl (fun l e => put e l) l

theorem put_of_notMem {e : ε} {l : List ε} (h : Entity.id e ∉ l.map Entity.id) :
    put e l = l ++ [e] := by
  induction l with
  | nil => rfl
  | cons x xs ih =>
    simp only [List.map_cons, List.mem_cons, not_or] at h
    simp [put, Ne.symm h.1, ih h.2]

theorem overwrite_of_notMem {e : ε} {l : List ε} (h : Entity.id e ∉ l.map Entity.id) :
    overwrite e l = l := by
  induction l with
  | nil => rfl
  | cons x xs ih =>
    simp only [List.map_cons, List.mem_cons, not_or] at h
    simp [overwrite, Ne.symm h.1, ih h.2]

theorem overwrite_of_mem {e : ε} {l : List ε} (h : Entity.id e ∈ l.map Entity.id) :
    overwrite e l = put e l := by
  induction l with
  | nil => simp at h
  | cons x xs ih =>
    by_cases hx : Entity.id x = Entity.id e
    · simp [put, overwrite, hx]
    · have hm : Entity.id e ∈ xs.map Entity.id := by
        simpa [Ne.symm hx] using h
      simp [put, overwrite, hx, ih hm]

theorem put_eq_set {e : ε} {l : List ε} {i : Nat}
    (h : ∀ j, (l.map Entity.id)[j]? = some (Entity.id e) ↔ j = i) : put e l = l.set i e := by
  induction l generalizing i with
  | nil => simpa using (h i).2 rfl
  | cons x xs ih =>
    cases i with
    | zero =>
      have hx : Entity.id x = Entity.id e := by simpa using (h 0).2 rfl
      simp [put, hx]
    | succ i =>
      have hx : Entity.id x ≠ Entity.id e := fun hx => by
        simpa using (h 0).1 (by simp [hx])
      have hs : ∀ j, (xs.map Entity.id)[j]? = some (Entity.id e) ↔ j = i := fun j => by
        simpa using h (j + 1)
      simp [put, hx, ih hs]

theorem ids_overwrite (e : ε) (l : List ε) : (overwrite e l).map Entity.id = l.map Entity.id := by
  induction l with
  | nil => rfl
  | cons x xs ih =>
    by_cases hx : Entity.id x = Entity.id e
    · simp [overwrite, hx]
    · simp [overwrite, hx, ih]

theorem overwrite_eq_map {e : ε} {l : List ε} (h : (l.map Entity.id).Nodup) :
    overwrite e l = l.map fun x => if Entity.id x = Entity.id e then e else x := by
  induction l with
  | nil => rfl
  | cons x xs ih =>
    rw [List.map_cons, List.nodup_cons] at h
    by_cases hx : Entity.id x = Entity.id e
    · have hxs : ∀ y ∈ xs, (if Entity.id y = Entity.id e then e else y) = id y := fun y hy =>
        if_neg fun hye : Entity.id y = Entity.id e =>
          h.1 (hx.trans hye.symm ▸ List.mem_map_of_mem hy)
      rw [overwrite, if_pos hx, List.map_cons, if_pos hx, List.map_congr_left hxs, List.map_id]
    · rw [overwrite, if_neg hx, List.map_cons, if_neg hx, ih h.2]

theorem ids_put (e : ε) (l : List ε) :
    (put e l).map Entity.id =
      if Entity.id e ∈ l.map Entity.id then l.map Entity.id
      else l.map Entity.id ++ [Entity.id e] := by
  by_cases h : Entity.id e ∈ l.map Entity.id
  · rw [if_pos h, ← overwrite_of_mem h, ids_overwrite]
  · rw [if_neg h, put_of_notMem h, List.map_append, List.map_singleton]

theorem mem_ids_put {e : ε} {l : List ε} {id : Entity.Id ε} :
    id ∈ (put e l).map Entity.id ↔ id ∈ l.map Entity.id ∨ id = Entity.id e := by
  rw [ids_put]
  split
  · rename_i h
    exact ⟨.inl, fun hid => hid.elim (fun hid => hid) fun he => he ▸ h⟩
  · rw [List.mem_append, List.mem_singleton]

theorem nodup_ids_put {l : List ε} (h : (l.map Entity.id).Nodup) (e : ε) :
    ((put e l).map Entity.id).Nodup := by
  rw [ids_put]
  split
  · exact h
  · rename_i he
    refine List.nodup_append.2 ⟨h, List.pairwise_singleton _ _, ?_⟩
    rintro a ha b hb rfl
    exact he (List.mem_singleton.1 hb ▸ ha)

theorem mem_ids_putAll {es l : List ε} {id : Entity.Id ε} :
    id ∈ (putAll es l).map Entity.id ↔ id ∈ l.map Entity.id ∨ id ∈ es.map Entity.id := by
  induction es generalizing l with
  | nil => simp [putAll]
  | cons e es ih =>
    show id ∈ (putAll es (put e l)).map Entity.id ↔ _
    rw [ih, mem_ids_put, List.map_cons, List.mem_cons, or_assoc]

theorem nodup_ids_putAll {l : List ε} (h : (l.map Entity.id).Nodup) (es : List ε) :
    ((putAll es l).map Entity.id).Nodup := by
  induction es generalizing l with
  | nil => exact h
  | cons e es ih => exact ih (nodup_ids_put h e)

theorem putAll_of_nodup {es l : List ε} (h : ((l ++ es).map Entity.id).Nodup) :
    putAll es l = l ++ es := by
  induction es generalizing l with
  | nil => exact (List.append_nil l).symm
  | cons e es ih =>
    have hput : put e l = l ++ [e] := by
      refine put_of_notMem fun he => ?_
      rw [List.map_append, List.map_cons, List.nodup_append] at h
      exact h.2.2 _ he _ List.mem_cons_self rfl
    show putAll es (put e l) = _
    rw [hput, ih (by simpa using h), List.append_assoc, List.singleton_append]

end LinearSearch

namespace EntitySet

open LinearSearch

variable {ε : Type} [Entity ε]

/-- The index holds the position of every identifier and nothing else. -/
def Indexed (s : EntitySet ε) : Prop :=
  ∀ (id : Entity.Id ε) (i : Nat), s.positions[id]? = some i ↔ s.ids[i]? = some id

theorem indexed_empty : (∅ : EntitySet ε).Indexed := fun id i => by
  change (∅ : Std.HashMap (Entity.Id ε) Nat)[id]? = some i ↔ ([] : List (Entity.Id ε))[i]? = some id
  simp

namespace Indexed

variable {s : EntitySet ε}

theorem getElem?_eq_some_iff (h : s.Indexed) {id : Entity.Id ε} {i : Nat}
    (hi : s.positions[id]? = some i) (j : Nat) : s.ids[j]? = some id ↔ j = i := by
  rw [← h id j, hi, Option.some.injEq, eq_comm]

theorem notMem_ids (h : s.Indexed) {id : Entity.Id ε} (hi : s.positions[id]? = none) :
    id ∉ s.ids := fun hm => by
  obtain ⟨i, hi'⟩ := List.mem_iff_getElem?.1 hm
  simp [(h id i).2 hi'] at hi

theorem mem_ids (h : s.Indexed) {id : Entity.Id ε} {i : Nat} (hi : s.positions[id]? = some i) :
    id ∈ s.ids :=
  List.mem_of_getElem? ((h id i).1 hi)

/-- No identifier stands at two positions, as the index holds only one of them. -/
theorem nodup_ids (h : s.Indexed) : s.ids.Nodup := by
  refine List.pairwise_iff_getElem.2 fun i j hi hj hij heq => ?_
  have hpos : s.positions[s.ids[i]]? = some i := (h _ i).2 (List.getElem?_eq_getElem hi)
  have hj' : s.ids[j]? = some s.ids[i] := heq ▸ List.getElem?_eq_getElem hj
  exact Nat.ne_of_gt hij ((h.getElem?_eq_some_iff hpos j).1 hj')

theorem set (h : s.Indexed) {e : ε} {i : Nat} (hi : s.positions[Entity.id e]? = some i) :
    ({ s with entities := s.entities.setIfInBounds i e } : EntitySet ε).Indexed := by
  have hids : ({ s with entities := s.entities.setIfInBounds i e } : EntitySet ε).ids = s.ids := by
    obtain ⟨hl, hv⟩ := List.getElem?_eq_some_iff.1 ((h _ i).1 hi)
    calc
      _ = s.ids.set i (Entity.id e) := by
        simp only [ids, toList, Array.toList_setIfInBounds, List.map_set]
      _ = s.ids := by rw [← hv, List.set_getElem_self]
  intro id j
  rw [hids]
  exact h id j

theorem push (h : s.Indexed) {e : ε} (he : s.positions[Entity.id e]? = none) :
    (⟨s.entities.push e, s.positions.insert (Entity.id e) s.entities.size⟩ : EntitySet ε).Indexed := by
  intro id j
  have hids : ids ⟨s.entities.push e, s.positions.insert (Entity.id e) s.entities.size⟩ =
      s.ids ++ [Entity.id e] := by simp [ids, toList]
  have hlen : s.entities.size = s.ids.length := by simp [ids, toList]
  rw [hids, hlen, Std.HashMap.getElem?_insert, getElem?_concat_eq_some_iff]
  by_cases hid : Entity.id e = id
  · subst hid
    have hnew : s.ids[j]? ≠ some (Entity.id e) := fun hj =>
      h.notMem_ids he (List.mem_of_getElem? hj)
    simp [hnew, eq_comm]
  · simp [hid, h id j]

end Indexed

theorem indexed_upsert {s : EntitySet ε} (h : s.Indexed) (e : ε) : (s.upsert e).1.Indexed := by
  unfold upsert
  split
  · rename_i hi
    exact h.set hi
  · rename_i hi
    exact h.push hi

theorem toList_upsert {s : EntitySet ε} (h : s.Indexed) (e : ε) :
    (s.upsert e).1.toList = put e s.toList := by
  unfold upsert
  split
  · rename_i i hi
    rw [put_eq_set (h.getElem?_eq_some_iff hi)]
    simp [toList]
  · rename_i hi
    rw [put_of_notMem (h.notMem_ids hi)]
    simp [toList]

theorem indexed_replace {s : EntitySet ε} (h : s.Indexed) (e : ε) : (s.replace e).1.Indexed := by
  unfold replace
  split
  · rename_i hi
    exact h.set hi
  · exact h

theorem toList_replace {s : EntitySet ε} (h : s.Indexed) (e : ε) :
    (s.replace e).1.toList = overwrite e s.toList := by
  unfold replace
  split
  · rename_i i hi
    rw [overwrite_of_mem (h.mem_ids hi), put_eq_set (h.getElem?_eq_some_iff hi)]
    simp [toList]
  · rename_i hi
    exact (overwrite_of_notMem (h.notMem_ids hi)).symm

theorem contains_eq_isSome (s : EntitySet ε) (id : Entity.Id ε) :
    s.contains id = (s.position? id).isSome :=
  Std.HashMap.contains_eq_isSome_getElem?

theorem replace_snd (s : EntitySet ε) (e : ε) : (s.replace e).2 = s.contains (Entity.id e) := by
  rw [contains_eq_isSome, position?]
  unfold replace
  split <;> rename_i hi <;> simp [hi]

theorem overwrite_of_contains_eq_false {s : EntitySet ε} (h : s.Indexed) {e : ε}
    (he : s.contains (Entity.id e) = false) : overwrite e s.toList = s.toList := by
  have hnone : s.positions[Entity.id e]? = none := by simpa [contains] using he
  exact overwrite_of_notMem (h.notMem_ids hnone)

theorem size_replace (s : EntitySet ε) (e : ε) : (s.replace e).1.size = s.size := by
  unfold replace
  split <;> simp [size]

theorem merge_cons (s : EntitySet ε) (e : ε) (es : List ε) :
    (s.merge (e :: es)).1 = ((s.upsert e).1.merge es).1 := by
  simp only [merge]
  split <;> rfl

theorem indexed_merge {s : EntitySet ε} (h : s.Indexed) (es : List ε) :
    (s.merge es).1.Indexed := by
  induction es generalizing s with
  | nil => exact h
  | cons e es ih =>
    rw [merge_cons]
    exact ih (indexed_upsert h e)

theorem toList_merge {s : EntitySet ε} (h : s.Indexed) (es : List ε) :
    (s.merge es).1.toList = putAll es s.toList := by
  induction es generalizing s with
  | nil => rfl
  | cons e es ih =>
    rw [merge_cons, ih (indexed_upsert h e), toList_upsert h]
    rfl

end EntitySet
end PagedList
