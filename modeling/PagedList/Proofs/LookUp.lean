import Mathlib.Data.List.Perm.Basic
import Mathlib.Data.List.Induction
import PagedList.KeyMap

/-! Maps by what they have under each key. Two maps that look the same under every key are equal; a
list of entries leaves the last value given for each key, and the entries of a map give that map
again. -/
namespace PagedList
namespace KeyMap

variable {α β : Type}

/-- The value that is given last for a key. -/
def last? (key : String) (l : List (String × α)) : Option α :=
  (l.filter (·.1 = key)).getLast?.map (·.2)

theorem last?_append (key : String) (l l' : List (String × α)) :
    last? key (l ++ l') = (last? key l').or (last? key l) := by
  rw [last?, List.filter_append, List.getLast?_append, Option.map_or]
  rfl

theorem last?_singleton (key : String) (e : String × α) :
    last? key [e] = if e.1 = key then some e.2 else none := by
  by_cases h : e.1 = key <;> simp [last?, h]

theorem last?_cons (key : String) (e : String × α) (l : List (String × α)) :
    last? key (e :: l) = (last? key l).or (if e.1 = key then some e.2 else none) := by
  rw [← last?_singleton, ← last?_append]
  rfl

theorem mem_of_last?_eq_some {key : String} {v : α} {l : List (String × α)}
    (h : last? key l = some v) : (key, v) ∈ l := by
  obtain ⟨⟨k, a⟩, hlast, rfl⟩ := Option.map_eq_some_iff.1 h
  obtain ⟨hmem, hkey⟩ := List.mem_filter.1 (List.mem_of_getLast? hlast)
  obtain rfl : k = key := by simpa using hkey
  exact hmem

theorem ofList_concat (l : List (String × α)) (e : String × α) :
    ofList (l ++ [e]) = (ofList l).insert e.1 e.2 := by
  simp [ofList]

theorem get?_ofList (l : List (String × α)) (key : String) :
    (ofList l).get? key = last? key l := by
  -- From the end, as the last entry is the one that is put in last.
  induction l using List.reverseRecOn with
  | nil => rfl
  | append_singleton l e ih =>
    rw [ofList_concat, get?_insert, last?_append, last?_singleton, ih]
    by_cases h : e.1 = key <;> simp [h]

theorem lookup_eq_some_iff {l : List (String × α)} (h : l.Pairwise fun a b => a.1 < b.1)
    {key : String} {v : α} : lookup key l = some v ↔ (key, v) ∈ l := by
  induction l with
  | nil => simp [lookup]
  | cons e rest ih =>
    obtain ⟨k, a⟩ := e
    obtain ⟨hk, hrest⟩ := List.pairwise_cons.1 h
    by_cases he : k = key
    · subst he
      have hrepeated : (k, v) ∉ rest := fun hv => String.lt_irrefl k (hk _ hv)
      simp [lookup, hrepeated, eq_comm]
    · simp [lookup, he, Ne.symm he, ih hrest]

theorem get?_eq_some_iff {m : KeyMap α} {key : String} {v : α} :
    m.get? key = some v ↔ (key, v) ∈ m.entries := lookup_eq_some_iff m.sorted

theorem nodup_entries (m : KeyMap α) : m.entries.Nodup := by
  refine m.sorted.imp ?_
  rintro a b hlt rfl
  exact String.lt_irrefl _ hlt

theorem ext_get? {m m' : KeyMap α} (h : ∀ key, m.get? key = m'.get? key) : m = m' := by
  have hmem : ∀ e, e ∈ m.entries ↔ e ∈ m'.entries := fun ⟨key, v⟩ => by
    rw [← get?_eq_some_iff, h, get?_eq_some_iff]
  have hperm : m.entries.Perm m'.entries :=
    (List.perm_ext_iff_of_nodup m.nodup_entries m'.nodup_entries).2 hmem
  refine KeyMap.ext (hperm.eq_of_pairwise (fun a b _ _ hab hba => ?_) m.sorted m'.sorted)
  exact absurd (String.lt_trans hab hba) (String.lt_irrefl _)

theorem last?_eq_lookup {l : List (String × α)} (h : l.Pairwise fun a b => a.1 < b.1)
    (key : String) : last? key l = lookup key l := by
  induction l with
  | nil => rfl
  | cons e rest ih =>
    obtain ⟨k, a⟩ := e
    obtain ⟨hk, hrest⟩ := List.pairwise_cons.1 h
    rw [last?_cons, ih hrest, lookup]
    by_cases he : k = key
    · subst he
      have hgone : lookup k rest = none := Option.eq_none_iff_forall_ne_some.2 fun v hv =>
        String.lt_irrefl k (hk _ ((lookup_eq_some_iff hrest).1 hv))
      simp [hgone]
    · simp [he]

theorem last?_entries (m : KeyMap α) (key : String) : last? key m.entries = m.get? key :=
  last?_eq_lookup m.sorted key

theorem ofList_entries (m : KeyMap α) : ofList m.entries = m :=
  ext_get? fun key => by rw [get?_ofList, last?_entries]

theorem get?_ofList_append_entries (l : List (String × α)) (m : KeyMap α) (key : String) :
    (ofList (l ++ m.entries)).get? key = (m.get? key).or (last? key l) := by
  rw [get?_ofList, last?_append, last?_entries]

theorem erase_comm (m : KeyMap α) (key key' : String) :
    (m.erase key).erase key' = (m.erase key').erase key := by
  refine ext_get? fun k => ?_
  simp only [get?_erase]
  split <;> simp

theorem erase_of_get?_eq_none {m : KeyMap α} {key : String} (h : m.get? key = none) :
    m.erase key = m := by
  refine ext_get? fun k => ?_
  rw [get?_erase]
  split
  · rename_i hk
    rw [← hk, h]
  · rfl

theorem erase_ofList_cons (key : String) (v : α) (l : List (String × α)) :
    (ofList ((key, v) :: l)).erase key = (ofList l).erase key := by
  refine ext_get? fun k => ?_
  simp only [get?_erase, get?_ofList, last?_cons]
  split <;> simp

theorem ofList_cons_erase {m : KeyMap α} {key : String} {v : α} (h : m.get? key = some v) :
    ofList ((key, v) :: (m.erase key).entries) = m := by
  refine ext_get? fun k => ?_
  rw [get?_ofList, last?_cons, last?_entries, get?_erase]
  by_cases hk : key = k
  · subst hk
    simp [h]
  · simp [hk]

/-- The map with every value changed. -/
def map (f : α → β) (m : KeyMap α) : KeyMap β where
  entries := m.entries.map fun e => (e.1, f e.2)
  sorted := List.pairwise_map.2 m.sorted

theorem get?_map (f : α → β) (m : KeyMap α) (key : String) :
    (m.map f).get? key = (m.get? key).map f := by
  obtain ⟨l, hl⟩ := m
  change lookup key (l.map fun e => (e.1, f e.2)) = (lookup key l).map f
  clear hl
  induction l with
  | nil => rfl
  | cons e rest ih =>
    by_cases h : e.1 = key <;> simp [lookup, h, ih]

end KeyMap
end PagedList
