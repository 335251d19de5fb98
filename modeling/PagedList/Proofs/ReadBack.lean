import PagedList.Page
import PagedList.Proofs.LookUp

/-! Reading back what was written. The cursor of a request stands side by side with its filters and
the identifier of a record with its fields, so a filter or a field of such a name takes their place.
Without one, the value of a request, a record or a page gives back what it was made of. -/
namespace PagedList

theorem Value.decodeCount_eq_ok_iff {expected : Expected} {v : Value} {n : Nat} :
    v.decodeCount expected = .ok n ↔ v = .nat n ∧ n < UInt64.size := by
  constructor
  · intro h
    cases v with
    | number number =>
      cases number with
      | integer i =>
        by_cases hneg : i < 0
        · simp [decodeCount, hneg] at h
        · by_cases hlt : i < countBound
          · have hn : i.toNat = n := by simpa [decodeCount, hneg, hlt] using h
            have hi : i = n := by omega
            rw [hi, countBound] at hlt
            exact ⟨by rw [nat, hi], by omega⟩
          · simp [decodeCount, hneg, hlt] at h
      | float x => cases h
    | _ => cases h
  · rintro ⟨rfl, hn⟩
    have hneg : ¬(n : Int) < 0 := by omega
    have hlt : (n : Int) < countBound := Int.ofNat_lt.2 hn
    simp [nat, decodeCount, hneg, hlt]

theorem Value.ofFields_eq (fields : List (String × Value)) :
    ofFields fields = ofMap (KeyMap.ofList fields) := rfl

namespace EntityId

theorem fits_iff {n : Int} : fits n = true ↔ (Int64.ofInt n).toInt = n := by
  constructor
  · intro h
    simp only [fits, Bool.and_eq_true, decide_eq_true_eq, Int64.toInt_minValue,
      Int64.toInt_maxValue] at h
    exact Int64.toInt_ofInt_of_le (by omega) (by omega)
  · intro h
    rw [← h, fits, Bool.and_eq_true]
    exact ⟨decide_eq_true (Int64.minValue_le_toInt _), decide_eq_true (Int64.toInt_le _)⟩

theorem decode_eq_ok_iff {v : Value} {i : EntityId} : decode v = .ok i ↔ v = i.toValue := by
  constructor
  · intro h
    cases v with
    | number number =>
      cases number with
      | integer n =>
        by_cases hn : fits n = true
        · have hi : EntityId.int (Int64.ofInt n) = i := by simpa [decode, hn] using h
          rw [← hi, toValue, fits_iff.1 hn]
          rfl
        · simp [decode, hn] at h
      | float x => cases h
    | string s =>
      cases h
      rfl
    | _ => cases h
  · rintro rfl
    cases i with
    | int n =>
      have hn : fits n.toInt = true := fits_iff.2 (by rw [Int64.ofInt_toInt])
      simp [toValue, Value.int, decode, hn]
    | str s => rfl

end EntityId

namespace Record

theorem decode_object_eq_ok_iff {fields : List (String × Value)} {r : Record} :
    decode (.object fields) = .ok r ↔ KeyMap.lookup "id" fields = some r.id.toValue ∧
      r.fields = (KeyMap.ofList fields).erase "id" := by
  cases hid : KeyMap.lookup "id" fields with
  | none => simp [decode, hid]
  | some v =>
    obtain ⟨id, rest⟩ := r
    cases hi : EntityId.decode v with
    | error e =>
      have hv : v ≠ id.toValue := fun hv => by
        rw [EntityId.decode_eq_ok_iff.2 hv] at hi
        cases hi
      simp [decode, hid, hi, hv, bind, Except.bind]
    | ok i =>
      have hv : v = id.toValue ↔ i = id := by
        rw [← EntityId.decode_eq_ok_iff, hi, Except.ok.injEq]
      simp [decode, hid, hi, hv, bind, Except.bind, eq_comm]

theorem decode_ofMap_eq_ok_iff {m : KeyMap Value} {r : Record} :
    decode (.ofMap m) = .ok r ↔
      m.get? "id" = some r.id.toValue ∧ r.fields = m.erase "id" := by
  rw [Value.ofMap, decode_object_eq_ok_iff, KeyMap.ofList_entries]
  rfl

theorem get?_id_of_decode {v : Value} {r : Record} (h : decode v = .ok r) :
    r.fields.get? "id" = none := by
  cases v with
  | object fields =>
    rw [(decode_object_eq_ok_iff.1 h).2, KeyMap.get?_erase, if_pos rfl]
  | _ => cases h

theorem get?_members (r : Record) (key : String) :
    (KeyMap.ofList r.members).get? key =
      (r.fields.get? key).or (if "id" = key then some r.id.toValue else none) := by
  rw [members, ← List.singleton_append, KeyMap.get?_ofList_append_entries, KeyMap.last?_singleton]

theorem erase_id_members {r : Record} (h : r.fields.get? "id" = none) :
    (KeyMap.ofList r.members).erase "id" = r.fields := by
  rw [members, KeyMap.erase_ofList_cons, KeyMap.ofList_entries, KeyMap.erase_of_get?_eq_none h]

/-- The value of a record is read back unless a field has taken the place of its identifier. -/
theorem decode_toValue_eq_ok_iff {r : Record} :
    decode r.toValue = .ok r ↔ r.fields.get? "id" = none := by
  refine ⟨get?_id_of_decode, fun h => ?_⟩
  rw [toValue, Value.ofFields_eq, decode_ofMap_eq_ok_iff, get?_members, h]
  exact ⟨rfl, (erase_id_members h).symm⟩

theorem decode_document_eq_ok_iff {r : Record} :
    decode r.document = .ok r ↔ r.fields.get? "id" = none := by
  refine ⟨get?_id_of_decode, fun h => ?_⟩
  rw [document, decode_object_eq_ok_iff]
  exact ⟨rfl, (erase_id_members h).symm⟩

theorem toValue_of_decode {m : KeyMap Value} {r : Record} (h : decode (.ofMap m) = .ok r) :
    r.toValue = .ofMap m := by
  obtain ⟨hid, hfields⟩ := decode_ofMap_eq_ok_iff.1 h
  rw [toValue, Value.ofFields_eq, members, hfields, KeyMap.ofList_cons_erase hid]

end Record

namespace Page

variable {ε : Type}

/-- The object of a page, with a name for the items and the values of the items. -/
def written (name : String) (item : ε → Value) (p : Page ε) : Value :=
  .object [(name, .array (p.items.map item)), ("total", .nat p.total)]

theorem mapM_map_eq_ok_iff {item : ε → Value} {read : Value → Except DecodeError ε}
    {l : List ε} : (l.map item).mapM read = .ok l ↔ ∀ e ∈ l, read (item e) = .ok e := by
  induction l with
  | nil => simp [pure, Except.pure]
  | cons e rest ih =>
    rw [List.map_cons, List.mapM_cons, List.forall_mem_cons, ← ih]
    cases read (item e) with
    | error err => simp [bind, Except.bind]
    | ok e' =>
      cases (rest.map item).mapM read with
      | error err => simp [bind, Except.bind]
      | ok rest' => simp [bind, Except.bind, pure, Except.pure]

theorem decodeFields_eq {name : String} (hname : name = "items" ∨ name = "data")
    (read : Value → Except DecodeError ε) (v : Value) {w : Value} {n : Nat}
    (hw : w.decodeCount .size = .ok n) :
    decodeFields read [(name, v), ("total", w)] =
      (decodeItems read v).map fun items => ⟨items, n⟩ := by
  rcases hname with rfl | rfl <;> cases h : decodeItems read v <;>
    simp [decodeFields, KeyMap.lookup, h, hw, bind, Except.bind, pure, Except.pure,
      Functor.map, Except.map]

theorem decode_written_eq_ok_iff {name : String} (hname : name = "items" ∨ name = "data")
    {item : ε → Value} {read : Value → Except DecodeError ε} {p : Page ε}
    (htotal : p.total < UInt64.size) :
    decode read (p.written name item) = .ok p ↔ ∀ e ∈ p.items, read (item e) = .ok e := by
  obtain ⟨items, total⟩ := p
  have hread : Value.decodeCount .size (.nat total) = .ok total :=
    Value.decodeCount_eq_ok_iff.2 ⟨rfl, htotal⟩
  rw [written, decode, decodeFields_eq hname read _ hread, decodeItems, Value.decodeList,
    ← mapM_map_eq_ok_iff]
  cases (items.map item).mapM read <;> simp [Except.map]

theorem toValue_eq_written (p : Page Record) : p.toValue = p.written "items" Record.document := rfl

/-- Records are read back just if no field is named like the identifier, which is so for all records
that were read; and a page is read back just if its records are, whether its items are called items
or data. -/
theorem records_read_back_iff :
    (∀ r : Record, Record.decode r.toValue = .ok r ↔ r.fields.get? "id" = none) ∧
    (∀ v r, Record.decode v = .ok r → r.fields.get? "id" = none) ∧
    (∀ (m : KeyMap Value) r, Record.decode (.ofMap m) = .ok r → r.toValue = .ofMap m) ∧
    ∀ (items : List Record) (total : UInt64),
      let p : Page Record := ⟨items, total.toNat⟩
      (∀ name ∈ ["items", "data"], decode Record.decode (p.written name Record.toValue) = .ok p ↔
        ∀ r ∈ items, r.fields.get? "id" = none) ∧
      (decode Record.decode p.toValue = .ok p ↔ ∀ r ∈ items, r.fields.get? "id" = none) := by
  refine ⟨fun _ => Record.decode_toValue_eq_ok_iff, fun _ _ => Record.get?_id_of_decode,
    fun _ _ => Record.toValue_of_decode, fun items total => ?_⟩
  have htotal : total.toNat < UInt64.size := total.toNat_lt
  refine ⟨fun name hname => ?_, ?_⟩
  · rw [decode_written_eq_ok_iff (by simpa using hname) htotal]
    simp only [Record.decode_toValue_eq_ok_iff]
  · rw [toValue_eq_written, decode_written_eq_ok_iff (Or.inl rfl) htotal]
    simp only [Record.decode_document_eq_ok_iff]

/-- The identifier of this record is not in its value. -/
example : ((Record.new (.int 3)).set "id" (.string "x")).toValue =
    .object [("id", .string "x")] := rfl

end Page

namespace PageParams

theorem mapM_decodeCount_eq_ok_some_iff (expected : Expected) {o : Option Value} {n : Nat} :
    o.mapM (Value.decodeCount expected) = .ok (some n) ↔ o = some (.nat n) ∧ n < UInt64.size := by
  cases o with
  | none => simp [pure, Except.pure]
  | some v =>
    rw [Option.some.injEq, ← @Value.decodeCount_eq_ok_iff expected]
    cases h : v.decodeCount expected <;> simp [h, Functor.map, Except.map]

theorem decode_ofMap_eq_ok_iff {m : KeyMap Value} {p : PageParams FilterSet} :
    decode (.ofMap m) = .ok p ↔
      (m.get? "skip" = some (.nat p.skip) ∧ p.skip < UInt64.size) ∧
      (m.get? "limit" = some (.nat p.limit) ∧ p.limit < UInt64.size) ∧
      p.filters.entries = (m.erase "skip").erase "limit" := by
  obtain ⟨skip, limit, ⟨filters⟩⟩ := p
  simp only [← mapM_decodeCount_eq_ok_some_iff .size, KeyMap.get?]
  rw [Value.ofMap, decode, KeyMap.ofList_entries]
  generalize (KeyMap.lookup "limit" m.entries).mapM (Value.decodeCount .size) = readLimit
  generalize (KeyMap.lookup "skip" m.entries).mapM (Value.decodeCount .size) = readSkip
  rcases readLimit with _ | _ | readLimit <;> rcases readSkip with _ | _ | readSkip <;>
    simp [bind, Except.bind, eq_comm]

theorem get?_members (p : PageParams FilterSet) (key : String) :
    (KeyMap.ofList p.members).get? key =
      (p.filters.get? key).or ((if "limit" = key then some (.nat p.limit) else none).or
        (if "skip" = key then some (.nat p.skip) else none)) := by
  let cursor : List (String × Value) := [("skip", .nat p.skip), ("limit", .nat p.limit)]
  calc
    (KeyMap.ofList p.members).get? key
      = (p.filters.get? key).or (KeyMap.last? key cursor) :=
        KeyMap.get?_ofList_append_entries cursor p.filters.entries key
    _ = _ := by rw [KeyMap.last?_cons, KeyMap.last?_singleton]

theorem erase_cursor_members {p : PageParams FilterSet} (hskip : p.filters.get? "skip" = none)
    (hlimit : p.filters.get? "limit" = none) :
    ((KeyMap.ofList p.members).erase "skip").erase "limit" = p.filters.entries := by
  rw [members, KeyMap.erase_ofList_cons, KeyMap.erase_comm, KeyMap.erase_ofList_cons,
    KeyMap.ofList_entries, KeyMap.erase_of_get?_eq_none hlimit, KeyMap.erase_of_get?_eq_none hskip]

theorem get?_of_decode_toValue {p q : PageParams FilterSet} (h : decode p.toValue = .ok q)
    (key : String) : q.filters.get? key =
      if key = "skip" ∨ key = "limit" then none else p.filters.get? key := by
  rw [toValue, Value.ofFields_eq, decode_ofMap_eq_ok_iff] at h
  rw [FilterSet.get?, h.2.2, KeyMap.get?_erase, KeyMap.get?_erase, get?_members]
  by_cases hl : "limit" = key
  · simp [hl]
  · by_cases hs : "skip" = key
    · simp [hs]
    · simp [hl, hs, Ne.symm hl, Ne.symm hs]

/-- The value of a request is read back unless a filter has taken the place of its cursor. -/
theorem decode_toValue_eq_ok_iff {p : PageParams FilterSet} (hskip : p.skip < UInt64.size)
    (hlimit : p.limit < UInt64.size) :
    decode p.toValue = .ok p ↔ p.filters.get? "skip" = none ∧ p.filters.get? "limit" = none := by
  constructor
  · intro h
    have hkept := get?_of_decode_toValue h
    exact ⟨by simpa using hkept "skip", by simpa using hkept "limit"⟩
  · rintro ⟨hs, hl⟩
    rw [toValue, Value.ofFields_eq, decode_ofMap_eq_ok_iff, get?_members, get?_members, hs, hl,
      erase_cursor_members hs hl]
    simp [hskip, hlimit]

/-- The value of a request has the cursor, the filters and nothing else, and a filter named like the
cursor stands in its place. What is read back has every filter but these, so it is the request itself
just if there are none of them. -/
theorem read_back_iff (skip limit : UInt64) (filters : FilterSet) :
    let p : PageParams FilterSet := ⟨skip.toNat, limit.toNat, filters⟩
    (decode p.toValue = .ok p ↔ filters.get? "skip" = none ∧ filters.get? "limit" = none) ∧
    (∀ q, decode p.toValue = .ok q → ∀ key, q.filters.get? key =
      if key = "skip" ∨ key = "limit" then none else filters.get? key) ∧
    ∃ m, p.toValue = .ofMap m ∧
      m.get? "skip" = some ((filters.get? "skip").getD (.nat p.skip)) ∧
      m.get? "limit" = some ((filters.get? "limit").getD (.nat p.limit)) ∧
      ∀ key, key ≠ "skip" → key ≠ "limit" → m.get? key = filters.get? key := by
  intro p
  refine ⟨decode_toValue_eq_ok_iff skip.toNat_lt limit.toNat_lt,
    fun q hq => get?_of_decode_toValue hq, KeyMap.ofList p.members, rfl, ?_, ?_, ?_⟩
  · rw [get?_members]
    cases filters.get? "skip" <;> simp [p]
  · rw [get?_members]
    cases filters.get? "limit" <;> simp [p]
  · intro key hs hl
    simp [get?_members, Ne.symm hs, Ne.symm hl, p]

/-- This request cannot be read back. -/
example : toValue ⟨20, 10, FilterSet.empty.set "skip" (.string "all")⟩ =
    .object [("limit", .nat 10), ("skip", .string "all")] := rfl

end PageParams
end PagedList
