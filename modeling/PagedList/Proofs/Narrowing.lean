import PagedList.Loader
import PagedList.Proofs.FilterCalls

/-! One more filter. A set of filters asks for each of its keys on its own, so that a filter given for a
key leaves no trace of the one that was there before, and a filter for a new key only takes records
away. -/
namespace PagedList
namespace FilterSet

variable {f g : FilterSet} {key : String} {v : Value} {fields : KeyMap Value}

/-- A filter for a key adds to what the other keys ask for. -/
theorem admits_set_iff : (f.set key v).admits fields = true ↔
    (f.erase key).admits fields = true ∧
      (v.isBlank = true ∨ ∃ actual, fields.get? key = some actual ∧ fits actual v = true) := by
  have herase : ∀ key', (f.erase key).get? key' = if key = key' then none else f.get? key' :=
    f.entries.get?_erase key
  simp only [admits_iff, get?_set, herase]
  constructor
  · intro h
    refine ⟨fun key' v' hv' => ?_, ?_⟩
    · by_cases hkey : key = key'
      · simp [hkey] at hv'
      · exact h key' v' (by simpa [hkey] using hv')
    · cases hblank : v.isBlank with
      | true => exact Or.inl rfl
      | false => exact Or.inr (h key v (by simp [hblank]))
  · rintro ⟨hothers, hown⟩ key' v' hv'
    by_cases hkey : key = key'
    · subst hkey
      rw [if_pos rfl, Option.filter_eq_some_iff, Option.some.injEq] at hv'
      obtain ⟨rfl, hasked⟩ := hv'
      exact hown.resolve_left (by simpa using hasked)
    · exact hothers key' v' (by simpa [hkey] using hv')

theorem admits_erase_iff : (f.erase key).admits fields = true ↔
    ∀ e ∈ f.entries.entries, e.1 ≠ key →
      ∃ actual, fields.get? e.1 = some actual ∧ fits actual e.2 = true := by
  rw [admits_iff]
  constructor
  · rintro h ⟨key', v'⟩ hmem hkey
    refine h key' v' ?_
    rw [erase, get?, KeyMap.get?_erase, if_neg (Ne.symm hkey)]
    exact KeyMap.get?_eq_some_iff.2 hmem
  · intro h key' v' hv'
    rw [erase, get?, KeyMap.get?_erase] at hv'
    split at hv'
    · cases hv'
    · rename_i hkey
      exact h (key', v') (KeyMap.get?_eq_some_iff.1 hv') (Ne.symm hkey)

theorem erase_of_get?_eq_none (h : f.get? key = none) : f.erase key = f :=
  congrArg FilterSet.mk (KeyMap.erase_of_get?_eq_none h)

theorem admits_of_admits_set (h : f.get? key = none) (hset : (f.set key v).admits fields = true) :
    f.admits fields = true := by
  have hothers := (admits_set_iff.1 hset).1
  rwa [erase_of_get?_eq_none h] at hothers

/-- Filters that let fewer fields pass leave fewer records, in the same order. -/
theorem sublist_of_admits (h : ∀ fields, f.admits fields = true → g.admits fields = true)
    (records : List Record) :
    (records.filter fun r => f.admits r.fields).Sublist
      (records.filter fun r => g.admits r.fields) :=
  List.monotone_filter_right records fun r => h r.fields

end FilterSet

theorem Page.items_ofRecords {records : List Record} {limit : Nat} (h : records.length ≤ limit)
    (f : FilterSet) :
    (Page.ofRecords records ⟨0, limit, f⟩).items = records.filter fun r => f.admits r.fields :=
  List.take_of_length_le (Nat.le_trans (List.length_filter_le _ _) h)

namespace FilterSet

/-- Fields pass a set in which a filter was given for a key just if they have a fitting one for every
entry with another key, and one that fits the value given, if it is not blank. So what the set had under
that key does not count any more. A filter for a key that the set did not have leaves a part of the
records that passed before, in the same order, and their number does not grow. -/
theorem given_filter_narrows (f : FilterSet) (key : String) (v : Value) :
    (∀ fields : KeyMap Value, (f.set key v).admits fields = true ↔
      (∀ e ∈ f.entries.entries, e.1 ≠ key →
        ∃ actual, fields.get? e.1 = some actual ∧ fits actual e.2 = true) ∧
      (v.isBlank = true ∨ ∃ actual, fields.get? key = some actual ∧ fits actual v = true)) ∧
    (f.get? key = none → ∀ records : List Record,
      (records.filter fun r => (f.set key v).admits r.fields).Sublist
        (records.filter fun r => f.admits r.fields) ∧
      (∀ limit, records.length ≤ limit →
        (Page.ofRecords records ⟨0, limit, f.set key v⟩).items.Sublist
          (Page.ofRecords records ⟨0, limit, f⟩).items) ∧
      ∀ skip limit, (Page.ofRecords records ⟨skip, limit, f.set key v⟩).total ≤
        (Page.ofRecords records ⟨skip, limit, f⟩).total) := by
  refine ⟨fun fields => ?_, fun hnew records => ?_⟩
  · rw [admits_set_iff, admits_erase_iff]
  · have hpart := sublist_of_admits (fun _ => admits_of_admits_set (v := v) hnew) records
    refine ⟨hpart, fun limit hlimit => ?_, fun skip limit => hpart.length_le⟩
    rw [Page.items_ofRecords hlimit, Page.items_ofRecords hlimit]
    exact hpart

/-- Of three games a category leaves two, and an age asked for as well leaves one of these. -/
theorem age_narrows_category :
    let f := (∅ : FilterSet).set "category" (.string "rts")
    let game (id : Int64) (category : String) (age : Int) : Record :=
      ⟨.int id, KeyMap.ofList [("category", .string category), ("age", .int age)]⟩
    let records := [game 1 "RTS" 12, game 2 "FPS" 12, game 3 "RTS" 16]
    let before := Page.ofRecords records ⟨0, 5, f⟩
    let after := Page.ofRecords records ⟨0, 5, f.set "age" (.int 12)⟩
    f.get? "age" = none ∧ records.length ≤ 5 ∧ before.total = 2 ∧ after.total = 1 ∧
      after.items.Sublist before.items ∧ after.total ≤ before.total := by
  intro f game records before after
  have hnew : f.get? "age" = none := by decide
  have hlength : records.length ≤ 5 := by decide
  obtain ⟨-, hpages, htotals⟩ := (given_filter_narrows f "age" (.int 12)).2 hnew records
  exact ⟨hnew, hlength, by decide, by decide, hpages 5 hlength, htotals 0 5⟩

end FilterSet
end PagedList
