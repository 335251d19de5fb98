import PagedList.FilterSet

/-! Which texts are found in the records that hold them. A text is lowercased as a whole, and a capital
sigma becomes one letter where it ends a word and another elsewhere, so a sigma may end a word in the
text that is looked for and not in the record. Apart from such sigmas a record is found by every part of
its text. -/
namespace PagedList
namespace Text

/-- Whether a capital sigma ends a word between two texts, the first given from its end. -/
def endsWord (before after : List Char) : Bool := casedNext before && !casedNext after

def lowerAt (before : List Char) (c : Char) (after : List Char) : List Char :=
  if c = 'Σ' then if endsWord before after then ['ς'] else ['σ'] else lowerChar c

/-- Lowercase of a text between two others, the first given from its end. -/
def lowerWithin (before : List Char) : List Char → List Char → List Char
  | [], _ => []
  | c :: rest, after => lowerAt before c (rest ++ after) ++ lowerWithin (c :: before) rest after

/-- The sigmas that end a word in the text by itself are those that do so with `before` and `after`
around it. -/
def EndsKept (before text after : List Char) : Prop :=
  ∀ x y, text = x ++ 'Σ' :: y →
    endsWord x.reverse y = endsWord (x.reverse ++ before.reverse) (y ++ after)

/-- What is around a sigma tells whether it ends a word, whatever comes before and after. It does not
if a word leads up to the sigma with nothing but passed over characters behind, or if no word goes on
behind it with nothing but such characters before. -/
def Settled (before after : List Char) : Prop :=
  ¬(casedNext before = true ∧ after.all isCaseIgnorable = true) ∧
    ¬(before.all isCaseIgnorable = true ∧ casedNext after = false)

theorem lowerFrom_eq_lowerWithin (before text : List Char) :
    lowerFrom before text = lowerWithin before text [] := by
  induction text generalizing before with
  | nil => rfl
  | cons c rest ih => simp [lowerFrom, lowerWithin, lowerAt, endsWord, ih]

theorem lower_eq_lowerWithin (text : List Char) : lower text = lowerWithin [] text [] :=
  lowerFrom_eq_lowerWithin [] text

theorem lowerWithin_append (before x y after : List Char) :
    lowerWithin before (x ++ y) after =
      lowerWithin before x (y ++ after) ++ lowerWithin (x.reverse ++ before) y after := by
  induction x generalizing before with
  | nil => rfl
  | cons c x ih => simp [lowerWithin, ih]

theorem lowerAt_sigma_eq_iff {before after before' after' : List Char} :
    lowerAt before 'Σ' after = lowerAt before' 'Σ' after' ↔
      endsWord before after = endsWord before' after' := by
  cases h : endsWord before after <;> cases h' : endsWord before' after' <;> simp [lowerAt, h, h']

theorem lowerAt_of_ne {c : Char} (h : c ≠ 'Σ') (before after : List Char) :
    lowerAt before c after = lowerChar c := if_neg h

theorem length_lowerAt (before after before' after' : List Char) (c : Char) :
    (lowerAt before c after).length = (lowerAt before' c after').length := by
  by_cases hc : c = 'Σ'
  · subst hc
    cases h : endsWord before after <;> cases h' : endsWord before' after' <;> simp [lowerAt, h, h']
  · rw [lowerAt_of_ne hc, lowerAt_of_ne hc]

theorem length_lowerWithin (before after before' after' text : List Char) :
    (lowerWithin before text after).length = (lowerWithin before' text after').length := by
  induction text generalizing before before' with
  | nil => rfl
  | cons c rest ih =>
    have hc := length_lowerAt before (rest ++ after) before' (rest ++ after') c
    simp [lowerWithin, hc, ih (c :: before) (c :: before')]

/-- Two places give a text the same lowercase just if the same sigmas end a word there. -/
theorem lowerWithin_eq_iff {before after before' after' text : List Char} :
    lowerWithin before text after = lowerWithin before' text after' ↔
      ∀ x y, text = x ++ 'Σ' :: y →
        endsWord (x.reverse ++ before) (y ++ after) =
          endsWord (x.reverse ++ before') (y ++ after') := by
  induction text generalizing before before' with
  | nil => simp [lowerWithin]
  | cons c rest ih =>
    have hlength := length_lowerAt before (rest ++ after) before' (rest ++ after') c
    constructor
    · intro h
      obtain ⟨hc, hrest⟩ := List.append_inj h hlength
      intro x y hxy
      cases x with
      | nil =>
        obtain ⟨rfl, rfl⟩ := List.cons.inj hxy
        exact lowerAt_sigma_eq_iff.1 hc
      | cons d x =>
        obtain ⟨rfl, hrest'⟩ := List.cons.inj hxy
        simpa using ih.1 hrest x y hrest'
    · intro h
      have hc : lowerAt before c (rest ++ after) = lowerAt before' c (rest ++ after') := by
        by_cases hc : c = 'Σ'
        · subst hc
          exact lowerAt_sigma_eq_iff.2 (h [] rest rfl)
        · rw [lowerAt_of_ne hc, lowerAt_of_ne hc]
      have hrest : lowerWithin (c :: before) rest after = lowerWithin (c :: before') rest after' :=
        ih.2 fun x y hxy => by simpa using h (c :: x) y (by rw [hxy]; rfl)
      rw [lowerWithin, lowerWithin, hc, hrest]

theorem lowerWithin_eq_lower_iff {before text after : List Char} :
    lowerWithin before.reverse text after = lower text ↔ EndsKept before text after := by
  rw [lower_eq_lowerWithin, eq_comm, lowerWithin_eq_iff]
  simp [EndsKept]

/-- Lowercase between two texts is as long as by itself, so the one is part of the other only if they
are equal. -/
theorem endsKept_of_lower_infix {before text after : List Char}
    (h : lower text <:+: lowerWithin before.reverse text after) : EndsKept before text after := by
  have hlength : (lower text).length = (lowerWithin before.reverse text after).length := by
    rw [lower_eq_lowerWithin]
    exact length_lowerWithin ..
  exact lowerWithin_eq_lower_iff.1 (h.eq_of_length hlength).symm

theorem occursIn_iff {part text : List Char} : occursIn part text = true ↔ part <:+: text := by
  induction text with
  | nil => simp [occursIn]
  | cons c rest ih => simp [occursIn, List.infix_cons_iff, ih]

theorem EndsKept.lower_infix {before text after : List Char} (h : EndsKept before text after) :
    lower text <:+: lower (before ++ text ++ after) := by
  have hwhole : lower (before ++ text ++ after) = lowerWithin [] before (text ++ after) ++
      lower text ++ lowerWithin (text.reverse ++ before.reverse) after [] := by
    rw [← lowerWithin_eq_lower_iff.2 h, lower_eq_lowerWithin, List.append_assoc before,
      lowerWithin_append, lowerWithin_append]
    simp
  rw [hwhole]
  exact List.infix_append _ _ _

/-! ### Sigmas whose word is settled -/

theorem casedNext_append (x y : List Char) :
    casedNext (x ++ y) = if x.all isCaseIgnorable then casedNext y else casedNext x := by
  induction x with
  | nil => simp
  | cons c x ih => cases hc : isCaseIgnorable c <;> simp_all [casedNext]

theorem casedNext_eq_false_of_all {x : List Char} (h : x.all isCaseIgnorable = true) :
    casedNext x = false := by
  have hx := casedNext_append x []
  rw [if_pos h, List.append_nil] at hx
  exact hx

/-- Where it is settled whether a sigma ends a word, nothing around it changes that. -/
theorem Settled.endsWord_eq {before after : List Char} (h : Settled before after)
    (p q : List Char) : endsWord (before ++ p) (after ++ q) = endsWord before after := by
  obtain ⟨hend, hstart⟩ := h
  rw [endsWord, endsWord, casedNext_append, casedNext_append]
  cases hbefore : before.all isCaseIgnorable <;> cases hafter : after.all isCaseIgnorable
  · rfl
  · have hnoWord : casedNext before = false := by simpa [hafter] using hend
    simp [hnoWord]
  · have hword : casedNext after = true := by simpa [hbefore] using hstart
    simp [hword]
  · exact absurd ⟨hbefore, casedNext_eq_false_of_all hafter⟩ hstart

/-- A letter that is its own lowercase. -/
structure PlainLetter (c : Char) : Prop where
  ne_sigma : c ≠ 'Σ'
  cased : isCased c = true
  not_ignorable : isCaseIgnorable c = false
  lowerChar_eq : lowerChar c = [c]

theorem exists_plainLetter_ne (d : Option Char) : ∃ c, PlainLetter c ∧ some c ≠ d := by
  by_cases hd : d = some 'a'
  · exact ⟨'b', ⟨by decide, by decide, by decide +kernel, by decide⟩, by rw [hd]; decide⟩
  · exact ⟨'a', ⟨by decide, by decide, by decide +kernel, by decide⟩, Ne.symm hd⟩

theorem PlainLetter.casedNext_cons {c : Char} (h : PlainLetter c) (x : List Char) :
    casedNext (c :: x) = true := by
  simp [casedNext, h.not_ignorable, h.cased]

/-- Behind a text that ends with another letter, a letter is no part of what is found. -/
theorem PlainLetter.lower_infix_concat {c : Char} (h : PlainLetter c) {text : List Char}
    (hc : some c ≠ (lower text).getLast?) (hin : lower text <:+: lower (text ++ [c])) :
    EndsKept [] text [c] := by
  have hlower : lower (text ++ [c]) = lowerWithin [] text [c] ++ [c] := by
    rw [lower_eq_lowerWithin, lowerWithin_append]
    simp [lowerWithin, lowerAt_of_ne h.ne_sigma, h.lowerChar_eq]
  rw [hlower, List.infix_concat_iff] at hin
  rcases hin with hin | hin
  · rcases List.suffix_concat_iff.1 hin with hnil | ⟨t, ht, -⟩
    · exact endsKept_of_lower_infix (hnil ▸ List.nil_infix)
    · exact absurd (by simp [ht]) hc
  · exact endsKept_of_lower_infix hin

theorem PlainLetter.lower_infix_cons {c : Char} (h : PlainLetter c) {text : List Char}
    (hc : some c ≠ (lower text).head?) (hin : lower text <:+: lower (c :: text)) :
    EndsKept [c] text [] := by
  have hlower : lower (c :: text) = c :: lowerWithin [c] text [] := by
    rw [lower_eq_lowerWithin]
    simp [lowerWithin, lowerAt_of_ne h.ne_sigma, h.lowerChar_eq]
  rw [hlower, List.infix_cons_iff] at hin
  rcases hin with hin | hin
  · rcases List.prefix_cons_iff.1 hin with hnil | ⟨t, ht, -⟩
    · exact endsKept_of_lower_infix (hnil ▸ List.nil_infix)
    · exact absurd (by simp [ht]) hc
  · exact endsKept_of_lower_infix hin

/-- A text is a part in lowercase of every text that it stands in just if each of its sigmas is
settled. -/
theorem forall_lower_infix_iff {text : List Char} :
    (∀ whole, text <:+: whole → lower text <:+: lower whole) ↔
      ∀ x y, text = x ++ 'Σ' :: y → Settled x.reverse y := by
  constructor
  · intro h x y hxy
    refine ⟨fun ⟨hword, hignorable⟩ => ?_, fun ⟨hignorable, hnoWord⟩ => ?_⟩
    · -- A letter behind the text: the word goes on.
      obtain ⟨c, hletter, hc⟩ := exists_plainLetter_ne (lower text).getLast?
      have hkept := hletter.lower_infix_concat hc (h _ ⟨[], [c], rfl⟩) x y hxy
      have hgoesOn : casedNext (y ++ [c]) = true := by
        rw [casedNext_append, if_pos hignorable, hletter.casedNext_cons]
      simp [endsWord, hword, hgoesOn, casedNext_eq_false_of_all hignorable] at hkept
    · -- A letter before the text: there is a word that the sigma ends.
      obtain ⟨c, hletter, hc⟩ := exists_plainLetter_ne (lower text).head?
      have hkept := hletter.lower_infix_cons hc (h _ ⟨[c], [], by simp⟩) x y hxy
      have hleadsUp : casedNext (x.reverse ++ [c]) = true := by
        rw [casedNext_append, if_pos hignorable, hletter.casedNext_cons]
      simp [endsWord, hnoWord, hleadsUp, casedNext_eq_false_of_all hignorable] at hkept
  · rintro h _ ⟨p, q, rfl⟩
    exact EndsKept.lower_infix fun x y hxy => ((h x y hxy).endsWord_eq _ _).symm

end Text

namespace FilterSet

/-- A record whose field `key` is the text `a` passes the filter for the text `e` on that field, set
or inserted. -/
def Finds (key e a : String) : Prop :=
  ∀ fields : KeyMap Value, fields.get? key = some (.string a) →
    (empty.set key (.string e)).admits fields = true ∧
      (empty.insert key (.string e)).admits fields = true

theorem admits_insert_empty {key : String} {fields : KeyMap Value} {actual : Value}
    (h : fields.get? key = some actual) (expected : Value) :
    (empty.insert key expected).admits fields = fits actual expected := by
  simp [admits, insert, empty, KeyMap.insert, KeyMap.insertEntry, KeyMap.empty, h]

theorem finds_iff {key e a : String} :
    Finds key e a ↔ Text.lower e.toList <:+: Text.lower a.toList := by
  have hfits : fits (.string a) (.string e) = true ↔
      Text.lower e.toList <:+: Text.lower a.toList := by
    rw [fits, Text.occursIn_iff]
  constructor
  · intro h
    have hfield := KeyMap.get?_insert KeyMap.empty key key (Value.string a)
    rw [if_pos rfl] at hfield
    rw [← hfits, ← admits_insert_empty hfield]
    exact (h _ hfield).2
  · intro h fields hfield
    have hinsert : (empty.insert key (.string e)).admits fields = true := by
      rw [admits_insert_empty hfield, hfits]
      exact h
    refine ⟨?_, hinsert⟩
    rw [set]
    split
    · rfl
    · exact hinsert

/-- A record is found by every part of its text whose sigmas end a word just where they do by
themselves. So the texts that are found wherever they stand are those in which it is settled for each
sigma whether it ends a word, such as all texts without a capital sigma. -/
theorem found_wherever_it_stands_iff (key e : String) :
    (∀ a p q, a.toList = p ++ e.toList ++ q → Text.EndsKept p e.toList q → Finds key e a) ∧
    ((∀ a : String, e.toList <:+: a.toList → Finds key e a) ↔
      ∀ x y, e.toList = x ++ 'Σ' :: y → Text.Settled x.reverse y) := by
  refine ⟨fun a p q ha hkept => ?_, ?_⟩
  · rw [finds_iff, ha]
    exact hkept.lower_infix
  · rw [← Text.forall_lower_infix_iff]
    refine ⟨fun h whole hwhole => ?_, fun h a ha => finds_iff.2 (h _ ha)⟩
    simpa using finds_iff.1 (h (String.ofList whole) (by simpa using hwhole))

/-- The last sigma ends the word that is looked for and goes on in the word of the record. -/
theorem stem_not_found_in_its_word :
    let fields := KeyMap.empty.insert "name" (Value.string "ΟΔΥΣΣΕΥΣ")
    "ΟΔΥΣ".toList <:+: "ΟΔΥΣΣΕΥΣ".toList ∧ fields.get? "name" = some (.string "ΟΔΥΣΣΕΥΣ") ∧
      (empty.set "name" (.string "ΟΔΥΣ")).admits fields = false := by
  intro fields
  have hpart : "ΟΔΥΣ".toList <:+: "ΟΔΥΣΣΕΥΣ".toList := ⟨[], "ΣΕΥΣ".toList, rfl⟩
  have hfield : fields.get? "name" = some (.string "ΟΔΥΣΣΕΥΣ") := rfl
  have hmissed : (empty.set "name" (.string "ΟΔΥΣ")).admits fields = false := by decide +kernel
  exact ⟨hpart, hfield, hmissed⟩

end FilterSet
end PagedList
