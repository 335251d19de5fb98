/-! Finite maps from text keys, kept as entries in strictly increasing key order.
Keys are ordered by code points, which is also the order of their encoded bytes; two maps are
equal exactly when they hold the same entries. -/
namespace PagedList

/-- A map from strings to `α`; the entries are its one normal form. -/
@[ext] structure KeyMap (α : Type) where
  entries : List (String × α)
  sorted : entries.Pairwise fun a b => a.1 < b.1

namespace KeyMap

variable {α : Type}

/-- One pass that puts an entry in its place, over an entry of the same key if there is one. -/
def insertEntry (key : String) (value : α) : List (String × α) → List (String × α)
  | [] => [(key, value)]
  | (k, v) :: rest =>
    if key < k then (key, value) :: (k, v) :: rest
    else if key = k then (key, value) :: rest
    else (k, v) :: insertEntry key value rest

theorem mem_insertEntry {key : String} {value : α} {a : String × α} {l : List (String × α)}
    (h : a ∈ insertEntry key value l) : a = (key, value) ∨ a ∈ l := by
  induction l with
  | nil => simpa [insertEntry] using h
  | cons head rest ih =>
    obtain ⟨k, v⟩ := head
    rw [insertEntry] at h
    split at h
    · simpa using h
    · split at h
      · rcases List.mem_cons.1 h with h | h
        · exact Or.inl h
        · exact Or.inr (List.mem_cons_of_mem _ h)
      · rcases List.mem_cons.1 h with h | h
        · exact Or.inr (h ▸ List.mem_cons_self)
        · exact (ih h).imp id (List.mem_cons_of_mem _)

theorem sorted_insertEntry (key : String) (value : α) {l : List (String × α)}
    (h : l.Pairwise fun a b => a.1 < b.1) :
    (insertEntry key value l).Pairwise fun a b => a.1 < b.1 := by
  induction l with
  | nil => simp [insertEntry]
  | cons head rest ih =>
    obtain ⟨k, v⟩ := head
    have hk := List.pairwise_cons.1 h
    rw [insertEntry]
    split
    · rename_i hlt
      refine List.pairwise_cons.2 ⟨fun a ha => ?_, h⟩
      rcases List.mem_cons.1 ha with rfl | ha
      · exact hlt
      · exact String.lt_trans hlt (hk.1 a ha)
    · split
      · rename_i he
        subst he
        exact List.pairwise_cons.2 ⟨hk.1, hk.2⟩
      · rename_i hge hne
        refine List.pairwise_cons.2 ⟨fun a ha => ?_, ih hk.2⟩
        rcases mem_insertEntry ha with rfl | ha
        · by_cases hlt : k < key
          · exact hlt
          · exact absurd (String.le_antisymm (String.not_lt.1 hlt) (String.not_lt.1 hge)) hne
        · exact hk.1 a ha

def eraseEntry (key : String) (l : List (String × α)) : List (String × α) :=
  l.filter fun e => e.1 != key

theorem sorted_eraseEntry (key : String) {l : List (String × α)}
    (h : l.Pairwise fun a b => a.1 < b.1) :
    (eraseEntry key l).Pairwise fun a b => a.1 < b.1 :=
  h.filter _

def empty : KeyMap α := ⟨[], List.Pairwise.nil⟩

instance : EmptyCollection (KeyMap α) := ⟨empty⟩
instance : Inhabited (KeyMap α) := ⟨empty⟩

def insert (m : KeyMap α) (key : String) (value : α) : KeyMap α :=
  ⟨insertEntry key value m.entries, sorted_insertEntry key value m.sorted⟩

def erase (m : KeyMap α) (key : String) : KeyMap α :=
  ⟨eraseEntry key m.entries, sorted_eraseEntry key m.sorted⟩

def lookup (key : String) : List (String × α) → Option α
  | [] => none
  | (k, v) :: rest => if k = key then some v else lookup key rest

def get? (m : KeyMap α) (key : String) : Option α := lookup key m.entries

def contains (m : KeyMap α) (key : String) : Bool := (m.get? key).isSome

def isEmpty (m : KeyMap α) : Bool := m.entries.isEmpty

def keys (m : KeyMap α) : List String := m.entries.map (·.1)

/-- Entries given one after the other; a repeated key keeps its last value. -/
def ofList (l : List (String × α)) : KeyMap α :=
  l.foldl (fun m e => m.insert e.1 e.2) empty

theorem lookup_insertEntry (key key' : String) (value : α) (l : List (String × α)) :
    lookup key' (insertEntry key value l) =
      if key = key' then some value else lookup key' l := by
  induction l with
  | nil => simp [insertEntry, lookup]
  | cons head rest ih =>
    obtain ⟨k, v⟩ := head
    rw [insertEntry]
    split
    · simp [lookup]
    · split
      · rename_i he
        subst he
        by_cases h : key = key' <;> simp [lookup, h]
      · rename_i hne
        by_cases h : k = key'
        · subst h
          simp [lookup, hne]
        · simp [lookup, h, ih]

theorem get?_insert (m : KeyMap α) (key key' : String) (value : α) :
    (m.insert key value).get? key' = if key = key' then some value else m.get? key' :=
  lookup_insertEntry key key' value m.entries

theorem lookup_eraseEntry (key key' : String) (l : List (String × α)) :
    lookup key' (eraseEntry key l) = if key = key' then none else lookup key' l := by
  induction l with
  | nil => simp [eraseEntry, lookup]
  | cons head rest ih =>
    obtain ⟨k, v⟩ := head
    unfold eraseEntry at ih ⊢
    by_cases hk : k = key
    · subst hk
      by_cases h : k = key' <;> simp_all [lookup]
    · by_cases h : k = key'
      · subst h
        simp [hk, lookup, Ne.symm hk]
      · simp [hk, lookup, h, ih]

theorem get?_erase (m : KeyMap α) (key key' : String) :
    (m.erase key).get? key' = if key = key' then none else m.get? key' :=
  lookup_eraseEntry key key' m.entries

@[simp] theorem get?_empty (key : String) : (empty : KeyMap α).get? key = none := rfl

end KeyMap
end PagedList
