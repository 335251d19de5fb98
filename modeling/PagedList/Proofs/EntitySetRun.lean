import PagedList.Proofs.LinearSearch

/-! Changes of an entity set, one after the other, beside the same changes of a plain list that is
searched from the front. The set represents the list all along, and both give the same answers. -/
namespace PagedList

inductive Change (ε : Type) where
  | upsert (e : ε)
  | merge (es : List ε)
  | extend (es : List ε)
  | replace (e : ε)
  | clear
  /-- A new set takes the place of the old one. -/
  | collect (es : List ε)

inductive Change.Answer where
  | upserted (outcome : Upsert)
  | merged (count : Nat)
  | replaced (found : Bool)
  | silent
  deriving DecidableEq, Repr

namespace LinearSearch

variable {ε : Type} [Entity ε]

def position? (id : Entity.Id ε) (l : List ε) : Option Nat :=
  l.findIdx? fun x => Entity.id x = id

def get? (id : Entity.Id ε) (l : List ε) : Option ε := l.find? fun x => Entity.id x = id

def contains (id : Entity.Id ε) (l : List ε) : Bool := l.any fun x => Entity.id x = id

def outcome (e : ε) (l : List ε) : Upsert :=
  match position? (Entity.id e) l with
  | some i => .updated i
  | none => .inserted l.length

/-- How many of the entities are new when they are put in one after the other. -/
def countNew : List ε → List ε → Nat
  | [], _ => 0
  | e :: es, l => (if contains (Entity.id e) l then 0 else 1) + countNew es (put e l)

def change (l : List ε) : Change ε → List ε × Change.Answer
  | .upsert e => (put e l, .upserted (outcome e l))
  | .merge es => (putAll es l, .merged (countNew es l))
  | .extend es => (putAll es l, .silent)
  | .replace e => (overwrite e l, .replaced (contains (Entity.id e) l))
  | .clear => ([], .silent)
  | .collect es => (putAll es [], .silent)

def run (l : List ε) : List (Change ε) → List ε × List Change.Answer
  | [] => (l, [])
  | c :: cs =>
    let (l, answer) := change l c
    let (l, answers) := run l cs
    (l, answer :: answers)

end LinearSearch

namespace EntitySet

open LinearSearch

variable {ε : Type} [Entity ε]

def change (s : EntitySet ε) : Change ε → EntitySet ε × Change.Answer
  | .upsert e =>
    let (s, outcome) := s.upsert e
    (s, .upserted outcome)
  | .merge es =>
    let (s, count) := s.merge es
    (s, .merged count)
  | .extend es => (s.extend es, .silent)
  | .replace e =>
    let (s, found) := s.replace e
    (s, .replaced found)
  | .clear => (s.clear, .silent)
  | .collect es => (ofList es, .silent)

def run (s : EntitySet ε) : List (Change ε) → EntitySet ε × List Change.Answer
  | [] => (s, [])
  | c :: cs =>
    let (s, answer) := s.change c
    let (s, answers) := s.run cs
    (s, answer :: answers)

namespace Indexed

variable {s : EntitySet ε}

theorem lt_size (h : s.Indexed) {id : Entity.Id ε} {i : Nat} (hi : s.positions[id]? = some i) :
    i < s.entities.size := by
  obtain ⟨hlt, -⟩ := List.getElem?_eq_some_iff.1 ((h id i).1 hi)
  simpa [ids, toList] using hlt

theorem position?_eq (h : s.Indexed) (id : Entity.Id ε) :
    s.position? id = LinearSearch.position? id s.toList := by
  unfold EntitySet.position? LinearSearch.position?
  cases hi : s.positions[id]? with
  | none =>
    refine (List.findIdx?_eq_none_iff.2 fun x hx => decide_eq_false fun hid => ?_).symm
    exact h.notMem_ids hi (hid ▸ List.mem_map_of_mem hx)
  | some i =>
    have hfirst := h.getElem?_eq_some_iff hi
    obtain ⟨hlt, hid⟩ := List.getElem?_eq_some_iff.1 ((hfirst i).2 rfl)
    have hlen : s.ids.length = s.toList.length := List.length_map _
    refine (List.findIdx?_eq_some_iff_getElem.2 ⟨hlen ▸ hlt, ?_, fun j hj hid' => ?_⟩).symm
    · simpa [ids] using hid
    · have hjs : s.ids[j]? = some id := by
        simpa [ids, List.getElem?_eq_getElem (show j < s.toList.length by omega)] using hid'
      exact Nat.ne_of_lt hj ((hfirst j).1 hjs)

theorem contains_eq (h : s.Indexed) (id : Entity.Id ε) :
    s.contains id = LinearSearch.contains id s.toList :=
  calc
    s.contains id = (s.position? id).isSome := s.contains_eq_isSome id
    _ = (LinearSearch.position? id s.toList).isSome := by rw [h.position?_eq]
    _ = LinearSearch.contains id s.toList := List.findIdx?_isSome

theorem get?_eq (h : s.Indexed) (id : Entity.Id ε) :
    s.get? id = LinearSearch.get? id s.toList :=
  calc
    s.get? id = (s.position? id).bind (s.toList[·]?) := by
      unfold EntitySet.get? EntitySet.position? toList
      cases s.positions[id]? <;> simp
    _ = (LinearSearch.position? id s.toList).bind (s.toList[·]?) := by rw [h.position?_eq]
    _ = LinearSearch.get? id s.toList := List.find?_eq_bind_findIdx?_getElem?.symm

theorem outcome_eq (h : s.Indexed) (e : ε) : (s.upsert e).2 = outcome e s.toList := by
  unfold upsert outcome
  rw [← h.position?_eq, EntitySet.position?]
  cases s.positions[Entity.id e]? <;> simp [toList]

theorem replaced_eq (h : s.Indexed) (e : ε) :
    (s.replace e).2 = LinearSearch.contains (Entity.id e) s.toList :=
  (s.replace_snd e).trans (h.contains_eq (Entity.id e))

theorem merge_snd_cons (h : s.Indexed) (e : ε) (es : List ε) :
    (s.merge (e :: es)).2 =
      (if LinearSearch.contains (Entity.id e) s.toList then 0 else 1) +
        ((s.upsert e).1.merge es).2 := by
  rw [← h.contains_eq, contains_eq_isSome, EntitySet.position?]
  simp only [merge]
  cases hi : s.positions[Entity.id e]? <;> simp [upsert, hi, Nat.add_comm]

theorem merged_eq (h : s.Indexed) (es : List ε) : (s.merge es).2 = countNew es s.toList := by
  induction es generalizing s with
  | nil => rfl
  | cons e es ih =>
    rw [h.merge_snd_cons, ih (indexed_upsert h e), toList_upsert h]
    rfl

end Indexed

theorem extend_eq_merge (s : EntitySet ε) (es : List ε) : s.extend es = (s.merge es).1 := by
  induction es generalizing s with
  | nil => rfl
  | cons e es ih =>
    rw [merge_cons, ← ih]
    rfl

theorem indexed_extend {s : EntitySet ε} (h : s.Indexed) (es : List ε) : (s.extend es).Indexed := by
  rw [extend_eq_merge]
  exact indexed_merge h es

theorem toList_extend {s : EntitySet ε} (h : s.Indexed) (es : List ε) :
    (s.extend es).toList = putAll es s.toList := by
  rw [extend_eq_merge, toList_merge h]

/-- A set stands for the list of its entities if its index is right. -/
structure Represents (s : EntitySet ε) (l : List ε) : Prop where
  indexed : s.Indexed
  toList_eq : s.toList = l

theorem represents_empty : (∅ : EntitySet ε).Represents [] := ⟨indexed_empty, rfl⟩

namespace Represents

variable {s : EntitySet ε} {l : List ε}

/-- Every change does to the set what it does to the list. -/
theorem change (h : s.Represents l) (c : Change ε) :
    (s.change c).1.Represents (LinearSearch.change l c).1 ∧
      (s.change c).2 = (LinearSearch.change l c).2 := by
  obtain ⟨hs, rfl⟩ := h
  cases c with
  | upsert e =>
    exact ⟨⟨indexed_upsert hs e, toList_upsert hs e⟩,
      congrArg Change.Answer.upserted (hs.outcome_eq e)⟩
  | merge es =>
    exact ⟨⟨indexed_merge hs es, toList_merge hs es⟩,
      congrArg Change.Answer.merged (hs.merged_eq es)⟩
  | extend es => exact ⟨⟨indexed_extend hs es, toList_extend hs es⟩, rfl⟩
  | replace e =>
    exact ⟨⟨indexed_replace hs e, toList_replace hs e⟩,
      congrArg Change.Answer.replaced (hs.replaced_eq e)⟩
  | clear => exact ⟨represents_empty, rfl⟩
  | collect es => exact ⟨⟨indexed_extend indexed_empty es, toList_extend indexed_empty es⟩, rfl⟩

theorem run (h : s.Represents l) (cs : List (Change ε)) :
    (s.run cs).1.Represents (LinearSearch.run l cs).1 ∧
      (s.run cs).2 = (LinearSearch.run l cs).2 := by
  induction cs generalizing s l with
  | nil => exact ⟨h, rfl⟩
  | cons c cs ih =>
    obtain ⟨hrepresents, hanswer⟩ := h.change c
    obtain ⟨hrepresents, hanswers⟩ := ih hrepresents
    refine ⟨hrepresents, ?_⟩
    show (s.change c).2 :: ((s.change c).1.run cs).2 = _
    rw [hanswer, hanswers]
    rfl

end Represents

/-- Whatever is done to a new set, it does what a plain list does that is searched from the front:
its entities, the answers and all that can be looked up are the same. No identifier comes twice, and
the index holds the position of each and nothing else. So no position that it gives is out of bounds,
not even while several entities are put in one after the other. -/
theorem changes_agree_with_linear_search (cs : List (Change ε)) :
    let s := ((∅ : EntitySet ε).run cs).1
    let l := (LinearSearch.run ([] : List ε) cs).1
    (s.toList = l ∧ ((∅ : EntitySet ε).run cs).2 = (LinearSearch.run ([] : List ε) cs).2) ∧
    (∀ id, s.contains id = LinearSearch.contains id l ∧
      s.position? id = LinearSearch.position? id l ∧ s.get? id = LinearSearch.get? id l) ∧
    s.ids.Nodup ∧
    (∀ (id : Entity.Id ε) (i : Nat), s.positions[id]? = some i ↔ s.ids[i]? = some id) ∧
    ∀ (es : List ε) (id : Entity.Id ε) (i : Nat),
      (s.extend es).positions[id]? = some i → i < (s.extend es).entities.size := by
  intro s l
  obtain ⟨⟨hindexed, hlist⟩, hanswers⟩ := (represents_empty (ε := ε)).run cs
  refine ⟨⟨hlist, hanswers⟩, fun id => ?_, hindexed.nodup_ids, hindexed, fun es id i => ?_⟩
  · have hs : s.toList = l := hlist
    rw [← hs]
    exact ⟨hindexed.contains_eq id, hindexed.position?_eq id, hindexed.get?_eq id⟩
  · exact (indexed_extend hindexed es).lt_size

end EntitySet
end PagedList
