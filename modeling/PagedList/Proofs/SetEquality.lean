import Mathlib.Data.List.Forall2
import PagedList.Proofs.EntitySetRun
import PagedList.Proofs.ValueEquality

/-! Equality of entity sets. It compares the indexes as well as the entities, but the index of a set
that came about by its operations follows from the identifiers in their order. So two such sets are
equal just if their entities are, one by one and with their identifiers, and nothing else of how they
came about can be told. -/
namespace PagedList

theorem forall₂_beq_and_iff {α β : Type} [BEq α] {f : α → β} {l l' : List α} :
    List.Forall₂ (fun a b => (a == b) = true ∧ f a = f b) l l' ↔
      (l == l') = true ∧ l.map f = l'.map f := by
  induction l generalizing l' with
  | nil => cases l' <;> simp
  | cons a l ih =>
    cases l' with
    | nil => simp
    | cons b l' =>
      rw [List.forall₂_cons, ih, List.cons_beq_cons, Bool.and_eq_true, List.map_cons,
        List.map_cons, List.cons.injEq]
      exact and_and_and_comm

namespace Record

theorem id_eq_of_same {a b : Record} (h : (a == b) = true) : a.id = b.id := by
  have h : (a.id == b.id && Value.sameFields a.fields.entries b.fields.entries) = true := h
  rw [Bool.and_eq_true] at h
  exact eq_of_beq h.1

theorem same_self {r : Record} (h : Value.allFiniteFields r.fields.entries = true) :
    (r == r) = true := by
  show (r.id == r.id && Value.sameFields r.fields.entries r.fields.entries) = true
  rw [Value.sameFields_self h, beq_self_eq_true, Bool.and_self]

end Record

namespace EntitySet

variable {ε : Type} [Entity ε] {s t : EntitySet ε}

namespace Indexed

theorem mem_positions_iff (h : s.Indexed) (id : Entity.Id ε) : id ∈ s.positions ↔ id ∈ s.ids := by
  rw [Std.HashMap.mem_iff_isSome_getElem?, Option.isSome_iff_exists, List.mem_iff_getElem?]
  exact exists_congr (h id)

theorem size_positions (h : s.Indexed) : s.positions.size = s.ids.length := by
  have hperm : s.positions.keys.Perm s.ids :=
    (List.perm_ext_iff_of_nodup Std.HashMap.nodup_keys h.nodup_ids).2 fun id => by
      rw [Std.HashMap.mem_keys, h.mem_positions_iff]
  rw [← Std.HashMap.length_keys, hperm.length_eq]

theorem positions_eq (hs : s.Indexed) (ht : t.Indexed) (h : s.ids = t.ids) (id : Entity.Id ε) :
    s.positions[id]? = t.positions[id]? :=
  Option.ext fun i => by rw [hs id i, ht id i, h]

/-- Another index holds all that an index holds just if the other set goes on from its identifiers. -/
theorem all_positions_iff (hs : s.Indexed) (ht : t.Indexed) :
    (s.positions.toList.all fun e => t.positions[e.1]? == some e.2) = true ↔ s.ids <+: t.ids := by
  rw [List.all_eq_true, List.prefix_iff_getElem?]
  constructor
  · intro h i hi
    have hpos : s.positions[s.ids[i]]? = some i := (hs _ i).2 (List.getElem?_eq_getElem hi)
    have hmem := Std.HashMap.mem_toList_iff_getElem?_eq_some.2 hpos
    exact (ht _ i).1 (eq_of_beq (h _ hmem))
  · rintro h ⟨id, i⟩ hmem
    have hpos := Std.HashMap.mem_toList_iff_getElem?_eq_some.1 hmem
    obtain ⟨hi, hid⟩ := List.getElem?_eq_some_iff.1 ((hs id i).1 hpos)
    exact beq_iff_eq.2 ((ht id i).2 (hid ▸ h i hi))

/-- The index is a function of the identifiers, and they can be read off it. -/
theorem samePositions_iff (hs : s.Indexed) (ht : t.Indexed) :
    samePositions s.positions t.positions = true ↔ s.ids = t.ids := by
  show (s.positions.size == t.positions.size &&
    s.positions.toList.all fun e => t.positions[e.1]? == some e.2) = true ↔ _
  rw [Bool.and_eq_true, beq_iff_eq, hs.all_positions_iff ht, hs.size_positions, ht.size_positions]
  constructor
  · rintro ⟨hlength, hprefix⟩
    exact hprefix.eq_of_length hlength
  · intro h
    exact ⟨congrArg List.length h, h ▸ List.prefix_rfl⟩

theorem same_iff [BEq ε] (hs : s.Indexed) (ht : t.Indexed) :
    (s == t) = true ↔
      List.Forall₂ (fun a b => (a == b) = true ∧ Entity.id a = Entity.id b) s.toList t.toList := by
  show (s.entities == t.entities && samePositions s.positions t.positions) = true ↔ _
  rw [Bool.and_eq_true, hs.samePositions_iff ht, ← Array.beq_toList]
  exact forall₂_beq_and_iff.symm

end Indexed

theorem toList_ofList_toList (h : s.Indexed) : (ofList s.toList).toList = s.toList :=
  (toList_extend indexed_empty s.toList).trans (LinearSearch.putAll_of_nodup h.nodup_ids)

theorem represents_singleton (e : ε) :
    ((∅ : EntitySet ε).run [.upsert e]).1.Represents [e] :=
  ((represents_empty (ε := ε)).run [.upsert e]).1

theorem same_singletons_iff [BEq ε] (a b : ε) :
    (((∅ : EntitySet ε).run [.upsert a]).1 == ((∅ : EntitySet ε).run [.upsert b]).1) = true ↔
      (a == b) = true ∧ Entity.id a = Entity.id b := by
  obtain ⟨ha, hlist⟩ := represents_singleton a
  obtain ⟨hb, hlist'⟩ := represents_singleton b
  rw [ha.same_iff hb, hlist, hlist', List.forall₂_cons]
  simp

/-- Two sets that came about in any way, each by changes of its own, are equal just if their entities
are, one by one and with their identifiers. Where equal entities have the same identifier, as records
do, that is just if their entities are equal one by one. A set collected from the entities of another
has the same entities at the same positions, and is equal to it just if every entity is equal to
itself, as every record is that can be written. -/
theorem same_iff_entities_same [BEq ε] (cs cs' : List (Change ε)) :
    let s := ((∅ : EntitySet ε).run cs).1
    let t := ((∅ : EntitySet ε).run cs').1
    let collected := ofList s.toList
    ((s == t) = true ↔
      List.Forall₂ (fun a b => (a == b) = true ∧ Entity.id a = Entity.id b) s.toList t.toList) ∧
    ((∀ a b : ε, (a == b) = true → Entity.id a = Entity.id b) →
      ((s == t) = true ↔ List.Forall₂ (fun a b => (a == b) = true) s.toList t.toList)) ∧
    (collected.toList = s.toList ∧ ∀ id, collected.position? id = s.position? id) ∧
    ((collected == s) = true ↔ ∀ e ∈ s.toList, (e == e) = true) := by
  intro s t collected
  have hs : s.Indexed := ((represents_empty (ε := ε)).run cs).1.indexed
  have ht : t.Indexed := ((represents_empty (ε := ε)).run cs').1.indexed
  have hcollected : collected.Indexed := indexed_extend indexed_empty s.toList
  have hlist : collected.toList = s.toList := toList_ofList_toList hs
  refine ⟨hs.same_iff ht, fun hid => ?_, ⟨hlist, hcollected.positions_eq hs ?_⟩, ?_⟩
  · have hsame : ∀ a b : ε, ((a == b) = true ∧ Entity.id a = Entity.id b) ↔ (a == b) = true :=
      fun a b => and_iff_left_of_imp (hid a b)
    rw [hs.same_iff ht]
    simp only [hsame]
  · exact congrArg (List.map Entity.id) hlist
  · rw [hcollected.same_iff hs, hlist, List.forall₂_same]
    simp

/-- Two records in a set that was cleared and refilled, one of them only later with its name. -/
theorem same_after_clearing :
    let plain := Record.new (.int 1)
    let named := plain.set "name" (.string "Quake")
    let other := Record.new (.str "1")
    let s := ((∅ : EntitySet Record).run
      [.upsert other, .clear, .merge [plain, other], .replace named]).1
    let t := ((∅ : EntitySet Record).run [.collect [named, other]]).1
    (∀ a b : Record, (a == b) = true → Entity.id a = Entity.id b) ∧
      (s == t) = true ∧ (ofList s.toList == s) = true := by
  intro plain named other s t
  have hid : ∀ a b : Record, (a == b) = true → Entity.id a = Entity.id b :=
    fun _ _ => Record.id_eq_of_same
  have hs : s.toList = [named, other] := ((represents_empty (ε := Record)).run _).1.toList_eq
  have ht : t.toList = [named, other] := ((represents_empty (ε := Record)).run _).1.toList_eq
  have hnamed : (named == named) = true := Record.same_self rfl
  have hother : (other == other) = true := Record.same_self rfl
  obtain ⟨-, hsame, -, hcollected⟩ := same_iff_entities_same (ε := Record)
    [.upsert other, .clear, .merge [plain, other], .replace named] [.collect [named, other]]
  refine ⟨hid, (hsame hid).2 ?_, hcollected.2 ?_⟩
  · show List.Forall₂ _ s.toList t.toList
    rw [hs, ht]
    exact .cons hnamed (.cons hother .nil)
  · show ∀ e ∈ s.toList, (e == e) = true
    rw [hs]
    simp [hnamed, hother]

end EntitySet

/-- A title that somebody gave, equal to the same title from anybody else. -/
structure Title where
  author : Nat
  text : String

instance : Entity Title where
  Id := Nat
  id := Title.author

instance : BEq Title := ⟨fun a b => a.text == b.text⟩

structure Reading where
  instrument : Nat
  value : Binary64

instance : Entity Reading where
  Id := Nat
  id := Reading.instrument

instance : BEq Reading := ⟨fun a b => a.instrument == b.instrument && a.value.same b.value⟩

namespace EntitySet

/-- Sets need not be equal when their entities are, one by one, if equality overlooks identifiers. A
set need not be equal to the one that is collected from it, if an entity is not equal to itself. And
equal sets need not be the same: one record may hold the zero and the other the negative zero. -/
theorem same_unlike_entities :
    (let s := ((∅ : EntitySet Title).run [.upsert ⟨1, "Quake"⟩]).1
     let t := ((∅ : EntitySet Title).run [.upsert ⟨2, "Quake"⟩]).1
     List.Forall₂ (fun a b => (a == b) = true) s.toList t.toList ∧ (s == t) = false) ∧
    (let s := ((∅ : EntitySet Reading).run [.upsert ⟨1, .nan⟩]).1
     (ofList s.toList == s) = false) ∧
    let zero (negative : Bool) : Record :=
      (Record.new (.int 1)).set "x" (.number (.float (.zero negative)))
    let s := ((∅ : EntitySet Record).run [.upsert (zero false)]).1
    let t := ((∅ : EntitySet Record).run [.upsert (zero true)]).1
    (s == t) = true ∧ s.toList ≠ t.toList := by
  refine ⟨?_, ?_, ?_⟩
  · intro s t
    refine ⟨?_, Bool.eq_false_iff.2 fun hsame => ?_⟩
    · rw [(represents_singleton _).toList_eq, (represents_singleton _).toList_eq]
      exact .cons (beq_self_eq_true "Quake") .nil
    · exact absurd ((same_singletons_iff _ _).1 hsame).2 (by decide)
  · intro s
    refine Bool.eq_false_iff.2 fun hsame => ?_
    rw [(represents_singleton _).toList_eq] at hsame
    exact absurd ((same_singletons_iff _ _).1 hsame).1 (by decide)
  · intro zero s t
    refine ⟨(same_singletons_iff _ _).2 ⟨rfl, rfl⟩, fun h => ?_⟩
    rw [(represents_singleton _).toList_eq, (represents_singleton _).toList_eq] at h
    have hget : (zero false).get? "x" = (zero true).get? "x" :=
      congrArg (·.get? "x") (List.singleton_inj.1 h)
    simp [zero, Record.get?, Record.set, KeyMap.get?_insert, Binary64.zero] at hget

end EntitySet
end PagedList
