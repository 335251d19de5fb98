import PagedList.CommandLine
import PagedList.Proofs.LookUp
import PagedList.Proofs.ValueEquality

/-! Filters given one after the other, and filters read as they are. Of the values given for a key the
last one counts, and it sets no filter if it is blank. A set that is read from an object keeps its blank
values, so it asks for fields that are not asked for by the set built from the same members. -/
namespace PagedList

namespace FilterSet

theorem ext_get? {f g : FilterSet} (h : ∀ key, f.get? key = g.get? key) : f = g := by
  obtain ⟨m⟩ := f
  obtain ⟨m'⟩ := g
  exact congrArg FilterSet.mk (KeyMap.ext_get? h)

theorem set_of_isBlank {v : Value} (h : v.isBlank = true) (f : FilterSet) (key : String) :
    f.set key v = f.erase key := by
  rw [set, if_pos h, erase]

theorem get?_set (f : FilterSet) (key key' : String) (v : Value) :
    (f.set key v).get? key' =
      if key = key' then (some v).filter (fun v => !v.isBlank) else f.get? key' := by
  rw [set, Option.filter_some]
  cases hblank : v.isBlank with
  | true => exact f.entries.get?_erase key key'
  | false => exact f.entries.get?_insert key key' v

theorem ofList_concat (pairs : List (String × Value)) (p : String × Value) :
    ofList (pairs ++ [p]) = (ofList pairs).set p.1 p.2 := by
  simp [ofList]

theorem get?_ofList (pairs : List (String × Value)) (key : String) :
    (ofList pairs).get? key = (KeyMap.last? key pairs).filter fun v => !v.isBlank := by
  induction pairs using List.reverseRecOn with
  | nil => rfl
  | append_singleton pairs p ih =>
    rw [ofList_concat, get?_set, KeyMap.last?_append, KeyMap.last?_singleton, ih]
    by_cases hkey : p.1 = key <;> simp [hkey]

theorem isBlank_of_get?_ofList {pairs : List (String × Value)} {key : String} {v : Value}
    (h : (ofList pairs).get? key = some v) : v.isBlank = false := by
  rw [get?_ofList] at h
  simpa using (Option.filter_eq_some_iff.1 h).2

theorem ofList_eq_of_filter_eq {pairs pairs' : List (String × Value)}
    (h : ∀ key, pairs'.filter (·.1 = key) = pairs.filter (·.1 = key)) :
    ofList pairs' = ofList pairs :=
  ext_get? fun key => by rw [get?_ofList, get?_ofList, KeyMap.last?, h, ← KeyMap.last?]

theorem ofList_entries {f : FilterSet} (h : ∀ key v, f.get? key = some v → v.isBlank = false) :
    ofList f.entries.entries = f := by
  refine ext_get? fun key => ?_
  rw [get?_ofList, KeyMap.last?_entries]
  change (f.get? key).filter _ = f.get? key
  cases hv : f.get? key with
  | none => rfl
  | some v => simp [h key v hv]

/-- A set built from pairs of a key and a value, as those of a command line, has for each key the value
of the last pair with that key, or nothing if that value is null, false, the empty text or a number
equal to zero. So no blank value is in it, a blank value removes the filter there was, only the order of
pairs with the same key counts, and its own filters give the same set. -/
theorem last_value_counts (pairs : List (String × Value)) :
    (∀ key, (ofList pairs).get? key = (KeyMap.last? key pairs).filter fun v => !v.isBlank) ∧
    (∀ v : Value, v.isBlank = true ↔ v = .null ∨ v = .bool false ∨ v = .string "" ∨
      ∃ n, v = .number n ∧ n.nearest.same (.zero false) = true) ∧
    ofList pairs = pairs.foldl (fun f p => f.set p.1 p.2) ∅ ∧
    (∀ a : CommandLine.Arguments, a.filters = pairs → a.filterSet = ofList pairs) ∧
    (∀ key v, (ofList pairs).get? key = some v → v.isBlank = false) ∧
    (∀ key v, v.isBlank = true → ofList (pairs ++ [(key, v)]) = (ofList pairs).erase key) ∧
    (∀ pairs', (∀ key, pairs'.filter (·.1 = key) = pairs.filter (·.1 = key)) →
      ofList pairs' = ofList pairs) ∧
    ofList (ofList pairs).entries.entries = ofList pairs := by
  refine ⟨get?_ofList pairs, fun _ => Value.isBlank_iff, rfl, ?_, fun _ _ => isBlank_of_get?_ofList,
    ?_, fun _ => ofList_eq_of_filter_eq, ofList_entries fun _ _ => isBlank_of_get?_ofList⟩
  · rintro a rfl
    rfl
  · intro key v hblank
    rw [ofList_concat, set_of_isBlank hblank]

/-! ### Filters read as they are -/

theorem admits_iff {f : FilterSet} {fields : KeyMap Value} : f.admits fields = true ↔
    ∀ key v, f.get? key = some v →
      ∃ actual, fields.get? key = some actual ∧ fits actual v = true := by
  rw [admits, List.all_eq_true]
  constructor
  · intro h key v hv
    have hfits := h (key, v) (KeyMap.get?_eq_some_iff.1 hv)
    cases hactual : fields.get? key with
    | none => simp [hactual] at hfits
    | some actual => exact ⟨actual, rfl, by simpa [hactual] using hfits⟩
  · rintro h ⟨key, v⟩ hmem
    obtain ⟨actual, hactual, hfits⟩ := h key v (KeyMap.get?_eq_some_iff.2 hmem)
    simpa [hactual] using hfits

/-- The fields that hold lists of just what is asked for. -/
def sample (f : FilterSet) : KeyMap Value := f.entries.map fun v => .array [v]

theorem get?_sample (f : FilterSet) (key : String) :
    f.sample.get? key = (f.get? key).map fun v => .array [v] :=
  KeyMap.get?_map _ f.entries key

theorem admits_sample {f : FilterSet} (h : ∀ key v, f.get? key = some v → v.same v = true) :
    f.admits f.sample = true := by
  refine admits_iff.2 fun key v hv => ⟨.array [v], ?_, ?_⟩
  · rw [get?_sample, hv, Option.map_some]
  · simpa [fits] using h key v hv

section Decode

variable {members : List (String × Value)} {f : FilterSet}

theorem get?_of_decode (h : decode (.object members) = .ok f) (key : String) :
    f.get? key = KeyMap.last? key members := by
  cases h
  exact KeyMap.get?_ofList members key

theorem get?_ofList_of_decode (h : decode (.object members) = .ok f) (key : String) :
    (ofList members).get? key = (f.get? key).filter fun v => !v.isBlank := by
  rw [get?_ofList, get?_of_decode h]

theorem admits_iff_of_decode (h : decode (.object members) = .ok f) {fields : KeyMap Value} :
    f.admits fields = true ↔ (ofList members).admits fields = true ∧
      ∀ key v, f.get? key = some v → v.isBlank = true →
        ∃ actual, fields.get? key = some actual ∧ fits actual v = true := by
  simp only [admits_iff, get?_ofList_of_decode h, Option.filter_eq_some_iff]
  constructor
  · exact fun h => ⟨fun key v hv => h key v hv.1, fun key v hv _ => h key v hv⟩
  · rintro ⟨hset, hblank⟩ key v hv
    cases hv' : v.isBlank with
    | true => exact hblank key v hv hv'
    | false => exact hset key v ⟨hv, by simp [hv']⟩

/-- The sample of the set built from the members has no field for a blank one. -/
theorem not_admits_sample_of_decode (h : decode (.object members) = .ok f) {key : String} {v : Value}
    (hv : f.get? key = some v) (hblank : v.isBlank = true) :
    f.admits (ofList members).sample = false := by
  rw [Bool.eq_false_iff]
  intro hread
  obtain ⟨actual, hactual, -⟩ := admits_iff.1 hread key v hv
  rw [get?_sample, get?_ofList_of_decode h, hv, Option.filter_some] at hactual
  simp [hblank] at hactual

end Decode

/-- A set that is read from an object keeps the blank members, and a record has to have fitting fields
for these too. So it passes the same records as the set built from the members just if it has no blank
value. -/
theorem read_agrees_with_built_iff (members : List (String × Value)) :
    ∃ f, decode (.object members) = .ok f ∧
      (∀ fields, f.admits fields = true ↔ (ofList members).admits fields = true ∧
        ∀ key v, f.get? key = some v → v.isBlank = true →
          ∃ actual, fields.get? key = some actual ∧ fits actual v = true) ∧
      ((∀ e ∈ members, e.2.isFinite = true) →
        ((∀ fields, f.admits fields = (ofList members).admits fields) ↔
          ∀ key v, f.get? key = some v → v.isBlank = false)) := by
  obtain ⟨f, hf⟩ : ∃ f, decode (.object members) = .ok f := ⟨_, rfl⟩
  refine ⟨f, hf, fun _ => admits_iff_of_decode hf, fun hfinite =>
    ⟨fun h key v hv => ?_, fun h fields => ?_⟩⟩
  · have hsame : ∀ key v, (ofList members).get? key = some v → v.same v = true := by
      intro key v hv
      rw [get?_ofList, Option.filter_eq_some_iff] at hv
      exact Value.same_self (hfinite _ (KeyMap.mem_of_last?_eq_some hv.1))
    -- The sample of the built set tells the two apart.
    have hread := (h (ofList members).sample).trans (admits_sample hsame)
    cases hblank : v.isBlank with
    | true => exact absurd hread (by simp [not_admits_sample_of_decode hf hv hblank])
    | false => rfl
  · rw [Bool.eq_iff_iff, admits_iff_of_decode hf]
    refine and_iff_left fun key v hv hblank => ?_
    rw [h key v hv] at hblank
    cases hblank

/-- A record without a category is passed over for an empty category that was read, and not for one that
was set. -/
theorem empty_category_asks_for_a_category :
    let members := [("category", Value.string "")]
    ∃ f, decode (.object members) = .ok f ∧ f.admits ∅ = false ∧
      (ofList members).admits ∅ = true :=
  ⟨_, rfl, rfl, rfl⟩

end FilterSet
end PagedList
