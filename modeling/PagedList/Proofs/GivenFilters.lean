import Mathlib.Data.List.TakeWhile
import PagedList.Proofs.CompactText
import PagedList.Proofs.FilterCalls

/-! Filters written on the command line. Each entry of a set is given as its key, an equals sign and the
compact text of its value, and what is read from these is the set again. -/
namespace PagedList

/-! ### Blanks at the ends of a text -/

namespace Text

variable {text : List Char}

theorem dropWhile_isBlank_eq_self (h : ∀ c ∈ text.head?, isBlank c = false) :
    text.dropWhile isBlank = text := by
  cases text with
  | nil => rfl
  | cons c text => exact List.dropWhile_cons_of_neg (by simp [h c rfl])

theorem trim_eq_self (hfirst : ∀ c ∈ text.head?, isBlank c = false)
    (hlast : ∀ c ∈ text.getLast?, isBlank c = false) : trim text = text := by
  have hreverse : text.reverse.dropWhile isBlank = text.reverse :=
    dropWhile_isBlank_eq_self (by rwa [List.head?_reverse])
  rw [trim, dropWhile_isBlank_eq_self hfirst, trimEnd, hreverse, List.reverse_reverse]

theorem trim_eq_nil_iff : trim text = [] ↔ ∀ c ∈ text, isBlank c = true := by
  have hend : ∀ text, trimEnd text = [] ↔ ∀ c ∈ text, isBlank c = true := fun text => by
    rw [trimEnd, List.reverse_eq_nil_iff, List.dropWhile_eq_nil_iff]
    simp
  rw [trim, hend]
  constructor
  · intro h
    -- What is left begins with a character that is not blank, if it is not empty.
    cases hleft : text.dropWhile isBlank with
    | nil => exact List.dropWhile_eq_nil_iff.1 hleft
    | cons c rest =>
      have hblank := h c (hleft ▸ List.mem_cons_self)
      have hc := List.head?_dropWhile_not isBlank text
      simp [hleft, hblank] at hc
  · exact fun h c hc => h c (List.dropWhile_sublist _ |>.subset hc)

end Text

namespace KeyMap

variable {α : Type}

/-- In any order, entries of a map have one with each key at most. -/
theorem filter_eq_of_perm {m : KeyMap α} {l : List (String × α)} (h : l.Perm m.entries)
    (key : String) : l.filter (·.1 = key) = m.entries.filter (·.1 = key) := by
  have hperm := h.filter fun e => decide (e.1 = key)
  have hsorted : (m.entries.filter (·.1 = key)).Pairwise fun a b => a.1 < b.1 := m.sorted.filter _
  have hkey : ∀ e ∈ m.entries.filter (·.1 = key), e.1 = key := fun e he => by
    simpa using (List.mem_filter.1 he).2
  generalize m.entries.filter (·.1 = key) = found at hperm hsorted hkey ⊢
  match found with
  | [] => exact List.perm_nil.1 hperm
  | [e] => exact List.perm_singleton.1 hperm
  | a :: b :: rest =>
    have hab : a.1 < b.1 := (List.pairwise_cons.1 hsorted).1 b List.mem_cons_self
    rw [hkey a List.mem_cons_self, hkey b (List.mem_cons_of_mem _ List.mem_cons_self)] at hab
    exact absurd hab (String.lt_irrefl key)

end KeyMap

namespace CommandLine

/-- A key that can stand before an equals sign: it is not empty, has no blanks at its ends and no equals
sign in it. -/
structure PlainKey (key : String) : Prop where
  ne_empty : key ≠ ""
  head : ∀ c ∈ key.toList.head?, Text.isBlank c = false
  last : ∀ c ∈ key.toList.getLast?, Text.isBlank c = false
  noEquals : '=' ∉ key.toList

def argument (e : String × Value) : String := e.1 ++ "=" ++ Json.compact e.2

theorem splitPair_append {key : List Char} (h : '=' ∉ key) (value : List Char) :
    splitPair (key ++ '=' :: value) = some (key, value) := by
  have hkey : ∀ c ∈ key, (c != '=') = true := fun c hc => by
    simpa using fun hceq : c = '=' => h (hceq ▸ hc)
  rw [splitPair, List.dropWhile_append_of_pos hkey, List.takeWhile_append_of_pos hkey]
  simp

theorem splitPair_eq_none_iff {text : List Char} : splitPair text = none ↔ '=' ∉ text := by
  have hrest : text.dropWhile (· != '=') = [] ↔ '=' ∉ text := by
    rw [List.dropWhile_eq_nil_iff]
    constructor
    · intro h hmem
      simpa using h '=' hmem
    · intro h c hc
      simpa using fun hceq : c = '=' => h (hceq ▸ hc)
  rw [← hrest, splitPair]
  cases text.dropWhile (· != '=') <;> simp

theorem splitPair_fst {text key value : List Char} (h : splitPair text = some (key, value)) :
    key = text.takeWhile (· != '=') := by
  unfold splitPair at h
  cases hrest : text.dropWhile (· != '=') with
  | nil => simp [hrest] at h
  | cons c rest =>
    rw [hrest] at h
    cases h
    rfl

theorem parseFilter_eq_error_iff {raw : String} : (∃ e, parseFilter raw = .error e) ↔
    '=' ∉ raw.toList ∨ ∀ c ∈ raw.toList.takeWhile (· != '='), Text.isBlank c = true := by
  unfold parseFilter
  cases hsplit : splitPair raw.toList with
  | none => simp [splitPair_eq_none_iff.1 hsplit]
  | some pair =>
    obtain ⟨key, value⟩ := pair
    have hequals : '=' ∈ raw.toList := by
      by_contra h
      simp [splitPair_eq_none_iff.2 h] at hsplit
    rw [← splitPair_fst hsplit, ← Text.trim_eq_nil_iff]
    simp only
    cases Text.trim key <;> simp [hequals]

theorem parseFilter_argument {e : String × Value} (hkey : PlainKey e.1) (hv : e.2.Exact)
    (hdepth : e.2.depth ≤ 127) : parseFilter (argument e) = .ok e := by
  have hsplit : splitPair (argument e).toList = some (e.1.toList, (Json.compact e.2).toList) := by
    simpa [argument] using splitPair_append hkey.noEquals (Json.compact e.2).toList
  have hvalue : filterValue (Json.compact e.2).toList = e.2 := by
    rw [filterValue, String.ofList_toList, Json.parse_compact hv hdepth]
  obtain ⟨c, cs, hcons⟩ := List.exists_cons_of_ne_nil
    fun hnil : e.1.toList = [] => hkey.ne_empty (String.toList_eq_nil_iff.1 hnil)
  have htrim : Text.trim e.1.toList = c :: cs := (Text.trim_eq_self hkey.head hkey.last).trans hcons
  have hkeyText : String.ofList (c :: cs) = e.1 := hcons ▸ String.ofList_toList
  simp only [parseFilter, hsplit, htrim, hvalue, hkeyText]

theorem classify_filter (raw : String) :
    classify ("--filter=" ++ raw) = .long "filter" (some raw) := by
  have hword : ("--filter=" ++ raw).toList = "--filter=".toList ++ raw.toList :=
    String.toList_append
  have hlong : classify ("--filter=" ++ raw) =
      .long "filter" (some (String.ofList raw.toList)) := by
    simp only [classify, hword]
    rfl
  rw [hlong, String.ofList_toList]

theorem step_filter (a : Arguments) {raw : String} {e : String × Value}
    (h : parseFilter raw = .ok e) :
    Scan.step ⟨a, none, false⟩ ("--filter=" ++ raw) =
      .ok ⟨{ a with filters := a.filters ++ [e] }, none, false⟩ := by
  have hset : a.set .filter raw = .ok { a with filters := a.filters ++ [e] } := by
    rw [Arguments.set, h]
    rfl
  have hgive : Scan.give a .filter raw = .ok { a with filters := a.filters ++ [e] } := by
    rw [Scan.give, hset]
    rfl
  rw [Scan.step, classify_filter]
  show (Scan.give a .filter raw).bind _ = _
  rw [hgive]
  rfl

theorem foldlM_step_filters (a : Arguments) {pairs : List (String × Value)}
    (h : ∀ e ∈ pairs, parseFilter (argument e) = .ok e) :
    (pairs.map fun e => "--filter=" ++ argument e).foldlM Scan.step ⟨a, none, false⟩ =
      .ok ⟨{ a with filters := a.filters ++ pairs }, none, false⟩ := by
  induction pairs generalizing a with
  | nil =>
    rw [List.append_nil]
    rfl
  | cons e rest ih =>
    rw [List.map_cons, List.foldlM_cons, step_filter a (h e List.mem_cons_self)]
    refine (ih _ fun e' he' => h e' (List.mem_cons_of_mem _ he')).trans ?_
    rw [List.append_assoc, List.singleton_append]

theorem parse_filters {pairs : List (String × Value)}
    (h : ∀ e ∈ pairs, parseFilter (argument e) = .ok e) :
    parse (pairs.map fun e => "--filter=" ++ argument e) =
      .ok { Arguments.blank with filters := pairs } := by
  rw [parse, Scan.start, foldlM_step_filters Arguments.blank h]
  rfl

theorem filterSet_of_perm {f : FilterSet}
    (hblank : ∀ e ∈ f.entries.entries, e.2.isBlank = false) {a : Arguments}
    (h : a.filters.Perm f.entries.entries) : a.filterSet = f :=
  calc
    a.filterSet = FilterSet.ofList f.entries.entries :=
      FilterSet.ofList_eq_of_filter_eq (KeyMap.filter_eq_of_perm h)
    _ = f := FilterSet.ofList_entries fun key v hv => hblank (key, v) (KeyMap.get?_eq_some_iff.1 hv)

/-- Every set of filters can be given on the command line, with its entries in any order, if its values
are not blank, hold no floats and nest at most 127 deep, and its keys can stand before an equals sign:
each entry is read from how it is written, and together they make up the set. An argument is refused just
if it has no equals sign, or nothing but blanks before the first. -/
theorem every_filter_set_can_be_given :
    (∀ (f : FilterSet) (pairs : List (String × Value)), pairs.Perm f.entries.entries →
      (∀ e ∈ f.entries.entries, e.2.isBlank = false) →
      (∀ e ∈ f.entries.entries, PlainKey e.1) →
      (∀ e ∈ f.entries.entries, e.2.Exact ∧ e.2.depth ≤ 127) →
      (∀ e ∈ pairs, parseFilter (e.1 ++ "=" ++ Json.compact e.2) = .ok e) ∧
      (∀ a : Arguments, a.filters = pairs → a.filterSet = f) ∧
      ∃ a, parse (pairs.map fun e => "--filter=" ++ (e.1 ++ "=" ++ Json.compact e.2)) = .ok a ∧
        a.filterSet = f) ∧
    ∀ raw : String, (∃ e, parseFilter raw = .error e) ↔
      '=' ∉ raw.toList ∨ ∀ c ∈ raw.toList.takeWhile (· != '='), Text.isBlank c = true := by
  refine ⟨fun f pairs hperm hblank hkeys hvalues => ?_, fun raw => parseFilter_eq_error_iff⟩
  have hread : ∀ e ∈ pairs, parseFilter (argument e) = .ok e := fun e he => by
    have hmem := hperm.mem_iff.1 he
    exact parseFilter_argument (hkeys e hmem) (hvalues e hmem).1 (hvalues e hmem).2
  refine ⟨hread, ?_, _, parse_filters hread, filterSet_of_perm hblank hperm⟩
  rintro a rfl
  exact filterSet_of_perm hblank hperm

/-- A name with an equals sign in it and a list of a text and a number, the later key first. -/
theorem name_and_tags_can_be_given :
    let name := ("name", Value.string "a=b")
    let tags := ("tags", Value.array [.string " \"x\"\n", .int (-5)])
    let f := (FilterSet.empty.set name.1 name.2).set tags.1 tags.2
    [tags, name].map argument = ["tags=[\" \\\"x\\\"\\n\",-5]", "name=\"a=b\""] ∧
      [tags, name].Perm f.entries.entries ∧
      (∀ e ∈ f.entries.entries, e.2.isBlank = false) ∧
      (∀ e ∈ f.entries.entries, PlainKey e.1) ∧
      (∀ e ∈ f.entries.entries, e.2.Exact ∧ e.2.depth ≤ 127) ∧
      (∀ e ∈ [tags, name], parseFilter (e.1 ++ "=" ++ Json.compact e.2) = .ok e) ∧
      ∀ a : Arguments, a.filters = [tags, name] → a.filterSet = f := by
  intro name tags f
  have horder : ¬"tags" < "name" := by decide
  have hentries : f.entries.entries = [name, tags] := by
    simp [f, name, tags, FilterSet.set, FilterSet.empty, Value.isBlank, KeyMap.insert, KeyMap.empty,
      KeyMap.insertEntry, horder]
  have hperm : [tags, name].Perm f.entries.entries := hentries ▸ List.Perm.swap name tags []
  have hall : ∀ {p : String × Value → Prop}, p name → p tags → ∀ e ∈ f.entries.entries, p e :=
    fun hname htags => hentries ▸ List.forall_mem_cons.2 ⟨hname, List.forall_mem_singleton.2 htags⟩
  have hblank : ∀ e ∈ f.entries.entries, e.2.isBlank = false := hall rfl rfl
  have hname : PlainKey "name" := by
    refine ⟨by decide, ?_, ?_, by decide⟩ <;>
      · rintro c ⟨⟩
        rfl
  have htags : PlainKey "tags" := by
    refine ⟨by decide, ?_, ?_, by decide⟩ <;>
      · rintro c ⟨⟩
        rfl
  have hkeys : ∀ e ∈ f.entries.entries, PlainKey e.1 := hall hname htags
  have hitems : ∀ v ∈ [Value.string " \"x\"\n", .int (-5)], v.Exact :=
    List.forall_mem_cons.2 ⟨.string _, List.forall_mem_singleton.2 (.int (by decide))⟩
  have hvalues : ∀ e ∈ f.entries.entries, e.2.Exact ∧ e.2.depth ≤ 127 :=
    hall ⟨.string _, by decide⟩ ⟨.array hitems, by decide⟩
  obtain ⟨hread, hset, -⟩ :=
    every_filter_set_can_be_given.1 f [tags, name] hperm hblank hkeys hvalues
  exact ⟨by decide, hperm, hblank, hkeys, hvalues, hread, hset⟩

end CommandLine
end PagedList
