import Mathlib.Data.List.Basic
import PagedList.Json.Reader
import PagedList.Json.Writer
import PagedList.Proofs.LookUp

/-! Compact JSON text and the value that it is read as. Values without floats that nest no deeper than
containers may are read from their text as they were, whatever stands behind it that does not go on a
number. -/
namespace PagedList

namespace Value

inductive PartOf (w : Value) : Value → Prop where
  | self : PartOf w w
  | item {v : Value} {items : List Value} (hv : v ∈ items) (h : PartOf w v) :
    PartOf w (.array items)
  | member {key : String} {v : Value} {fields : List (String × Value)} (hv : (key, v) ∈ fields)
    (h : PartOf w v) : PartOf w (.object fields)

/-- A value as it is held, in which no float stands: integers fit 64 bits with or without a sign, and
the fields of objects are in key order. -/
structure Exact (v : Value) : Prop where
  noFloat : ∀ x, ¬(Value.number (.float x)).PartOf v
  integers : ∀ n, (Value.number (.integer n)).PartOf v →
    Number.minInteger ≤ n ∧ n ≤ Number.maxInteger
  sorted : ∀ fields, (Value.object fields).PartOf v → fields.Pairwise fun a b => a.1 < b.1

namespace Exact

theorem item {items : List Value} (h : (Value.array items).Exact) {v : Value} (hv : v ∈ items) :
    v.Exact :=
  ⟨fun x hx => h.noFloat x (.item hv hx), fun n hn => h.integers n (.item hv hn),
    fun fields hf => h.sorted fields (.item hv hf)⟩

theorem member {fields : List (String × Value)} (h : (Value.object fields).Exact) {key : String}
    {v : Value} (hv : (key, v) ∈ fields) : v.Exact :=
  ⟨fun x hx => h.noFloat x (.member hv hx), fun n hn => h.integers n (.member hv hn),
    fun fields hf => h.sorted fields (.member hv hf)⟩

theorem string (s : String) : (Value.string s).Exact where
  noFloat := nofun
  integers := nofun
  sorted := nofun

theorem int {n : Int} (h : Number.minInteger ≤ n ∧ n ≤ Number.maxInteger) : (Value.int n).Exact where
  noFloat := nofun
  integers m hm := by
    cases hm
    exact h
  sorted := nofun

theorem array {items : List Value} (h : ∀ v ∈ items, v.Exact) : (Value.array items).Exact where
  noFloat x hx := by
    cases hx with
    | item hv hx => exact (h _ hv).noFloat x hx
  integers n hn := by
    cases hn with
    | item hv hn => exact (h _ hv).integers n hn
  sorted fields hf := by
    cases hf with
    | item hv hf => exact (h _ hv).sorted fields hf

theorem ofFields_eq {fields : List (String × Value)} (h : (Value.object fields).Exact) :
    Value.ofFields fields = .object fields :=
  congrArg (fun m : KeyMap Value => Value.object m.entries)
    (KeyMap.ofList_entries ⟨fields, h.sorted fields .self⟩)

end Exact

mutual
def depth : Value → Nat
  | .array items => depthOfItems items + 1
  | .object fields => depthOfFields fields + 1
  | _ => 0

def depthOfItems : List Value → Nat
  | [] => 0
  | v :: rest => max (depth v) (depthOfItems rest)

def depthOfFields : List (String × Value) → Nat
  | [] => 0
  | (_, v) :: rest => max (depth v) (depthOfFields rest)
end

end Value

namespace Json

open Text (isDigit digitValue decimalValue hexValue?)

/-! ### Numbers -/

theorem isDigit_eq (c : Char) : isDigit c = c.isDigit := by
  simp [isDigit, Char.isDigit, Char.le_def]

theorem isDigit_of_mem_toDigits {n : Nat} {c : Char} (h : c ∈ Nat.toDigits 10 n) :
    isDigit c = true := by
  rw [isDigit_eq]
  exact Nat.isDigit_of_mem_toDigits (by decide) (by decide) h

theorem decimalValue_toDigits (n : Nat) : decimalValue (Nat.toDigits 10 n) = n := by
  have hvalue : Nat.ofDigitChars 10 (Nat.toDigits 10 n) 0 = n := Nat.ofDigitChars_ten_toDigits
  rw [Nat.ofDigitChars_eq_foldl] at hvalue
  simpa [decimalValue, digitValue, Nat.mul_comm] using hvalue

theorem eq_zero_of_head?_toDigits {n : Nat} (h : (Nat.toDigits 10 n).head? = some '0') : n = 0 := by
  induction n using Nat.strongRecOn with
  | ind n ih =>
    by_cases hn : n < 10
    · have hdigits : ∀ n < 10, Nat.digitChar n = '0' → n = 0 := by decide
      rw [Nat.toDigits_of_lt_base hn] at h
      exact hdigits n hn (by simpa using h)
    · have hhead : (Nat.toDigits 10 (n / 10)).head? = some '0' := by
        rw [Nat.toDigits_eq_if (by decide), if_neg hn] at h
        rwa [List.head?_append_of_ne_nil _ Nat.toDigits_ne_nil] at h
      have hquotient := ih (n / 10) (by omega) hhead
      omega

theorem le_foldl_digits (n : Nat) (digits : List Char) :
    n ≤ digits.foldl (fun n c => n * 10 + digitValue c) n := by
  induction digits generalizing n with
  | nil => exact Nat.le_refl n
  | cons c digits ih =>
    have hrest := ih (n * 10 + digitValue c)
    rw [List.foldl_cons]
    omega

theorem appendDigits_eq {n : Nat} {digits : List Char}
    (h : digits.foldl (fun n c => n * 10 + digitValue c) n ≤ significandLimit) :
    appendDigits n digits =
      (digits.foldl (fun n c => n * 10 + digitValue c) n, digits.length) := by
  induction digits generalizing n with
  | nil => rfl
  | cons c digits ih =>
    have hnext : ¬significandLimit < n * 10 + digitValue c :=
      Nat.not_lt.2 (Nat.le_trans (le_foldl_digits _ digits) h)
    rw [appendDigits, if_neg hnext, ih h]
    rfl

/-- What follows does not go on a number. -/
def EndsNumber (rest : List Char) : Prop :=
  ∀ c ∈ rest.head?, isDigit c = false ∧ c ≠ '.' ∧ c ≠ 'e' ∧ c ≠ 'E'

theorem endsNumber_cons {c : Char} (h : isDigit c = false ∧ c ≠ '.' ∧ c ≠ 'e' ∧ c ≠ 'E')
    {rest : List Char} : EndsNumber (c :: rest) := by
  rintro d ⟨⟩
  exact h

theorem readNumber_toDigits (negative : Bool) {n : Nat} (hn : n ≤ significandLimit)
    {rest : List Char} (hrest : EndsNumber rest) :
    readNumber negative (Nat.toDigits 10 n ++ rest) = .ok (integerOrFloat negative n, rest) := by
  obtain ⟨first, digits, hdigits⟩ := List.exists_cons_of_ne_nil (Nat.toDigits_ne_nil (n := n) (b := 10))
  have hall : ∀ c ∈ first :: digits, isDigit c = true := fun c hc =>
    isDigit_of_mem_toDigits (hdigits ▸ hc)
  have htake : (first :: digits ++ rest).takeWhile isDigit = first :: digits := by
    rw [List.takeWhile_append_of_pos hall]
    cases rest with
    | nil => simp
    | cons c rest => simp [(hrest c rfl).1]
  have hdrop : (first :: digits ++ rest).dropWhile isDigit = rest := by
    rw [List.dropWhile_append_of_pos hall]
    cases rest with
    | nil => rfl
    | cons c rest => simp [(hrest c rfl).1]
  have hzero : ¬(first = '0' ∧ (first :: digits).length ≠ 1) := by
    rintro ⟨rfl, hlength⟩
    obtain rfl := eq_zero_of_head?_toDigits (n := n) (by rw [hdigits]; rfl)
    rw [← hdigits] at hlength
    exact hlength rfl
  have hvalue : (first :: digits).foldl (fun n c => n * 10 + digitValue c) 0 = n :=
    hdigits ▸ decimalValue_toDigits n
  have hused : appendDigits 0 (first :: digits) = (n, (first :: digits).length) := by
    rw [appendDigits_eq (by rwa [hvalue]), hvalue]
  rw [hdigits]
  simp only [List.cons_append] at htake hdrop ⊢
  rw [readNumber]
  simp only [hall first List.mem_cons_self, htake, hdrop, hused, if_neg hzero, Nat.sub_self]
  cases rest with
  | nil => rfl
  | cons c rest =>
    obtain ⟨-, hpoint, he, hE⟩ := hrest c rfl
    simp [he, hE]

/-! ### Strings -/

theorem hexValue?_hexDigit : ∀ n < 16, hexValue? (hexDigit n) = some n := by decide

theorem readEscape_control {c : Char} (h : c.toNat < 32) (text : List Char) :
    readEscape ('u' :: '0' :: '0' :: hexDigit (c.toNat / 16) :: hexDigit (c.toNat % 16) :: text) =
      .ok (c, text) := by
  have hzero : hexValue? '0' = some 0 := rfl
  have hhigh := hexValue?_hexDigit (c.toNat / 16) (by omega)
  have hlow := hexValue?_hexDigit (c.toNat % 16) (by omega)
  have hcode : ((0 * 16 + 0) * 16 + c.toNat / 16) * 16 + c.toNat % 16 = c.toNat := by omega
  have hhex : readHex4 ('0' :: '0' :: hexDigit (c.toNat / 16) :: hexDigit (c.toNat % 16) :: text) =
      .ok (c.toNat, text) := by
    simp only [readHex4, hzero, hhigh, hlow, hcode]
  have hnotLow : isLowSurrogate c.toNat = false := by
    simp [isLowSurrogate]
    omega
  have hnotHigh : isHighSurrogate c.toNat = false := by
    simp [isHighSurrogate]
    omega
  simp [readEscape, readUnicodeEscape, hhex, hnotLow, hnotHigh, bind, Except.bind]

theorem readChars_escape (c : Char) {fuel : Nat} {text cs rest : List Char}
    (h : readChars fuel text = .ok (cs, rest)) :
    readChars (fuel + 1) (escape c ++ text) = .ok (c :: cs, rest) := by
  have hescaped : ∀ letters, readEscape (letters ++ text) = .ok (c, text) →
      readChars (fuel + 1) ('\\' :: letters ++ text) = .ok (c :: cs, rest) := by
    intro letters hletters
    simp [readChars, hletters, h, bind, Except.bind]
  unfold escape
  split
  · exact hescaped ['"'] (by subst c; rfl)
  split
  · exact hescaped ['\\'] (by subst c; rfl)
  split
  · exact hescaped ['b'] (by subst c; rfl)
  split
  · exact hescaped ['f'] (by subst c; rfl)
  split
  · exact hescaped ['n'] (by subst c; rfl)
  split
  · exact hescaped ['r'] (by subst c; rfl)
  split
  · exact hescaped ['t'] (by subst c; rfl)
  split
  · rename_i hcontrol
    exact hescaped _ (readEscape_control hcontrol text)
  · rename_i hquote hbackslash _ _ _ _ _ hcontrol
    rw [List.singleton_append, readChars]
    · simp [hcontrol, h, bind, Except.bind]
    · exact hquote
    · exact hbackslash

theorem readChars_flatMap_escape (cs rest : List Char) {fuel : Nat} (h : cs.length < fuel) :
    readChars fuel (cs.flatMap escape ++ '"' :: rest) = .ok (cs, rest) := by
  induction cs generalizing fuel with
  | nil =>
    obtain ⟨fuel, rfl⟩ := Nat.exists_eq_add_one_of_ne_zero (Nat.ne_of_gt h)
    rfl
  | cons c cs ih =>
    obtain ⟨fuel, rfl⟩ := Nat.exists_eq_add_one_of_ne_zero (Nat.ne_of_gt (Nat.zero_lt_of_lt h))
    rw [List.flatMap_cons, List.append_assoc]
    exact readChars_escape c (ih (Nat.lt_of_succ_lt_succ h))

theorem length_le_flatMap_escape (cs : List Char) : cs.length ≤ (cs.flatMap escape).length := by
  induction cs with
  | nil => exact Nat.le_refl 0
  | cons c cs ih =>
    have hone : 0 < (escape c).length := by
      unfold escape
      split_ifs <;> simp
    rw [List.flatMap_cons, List.length_append, List.length_cons]
    omega

theorem readString_writeString (s : String) (rest : List Char) :
    readString (s.toList.flatMap escape ++ '"' :: rest) = .ok (s, rest) := by
  have hlength := length_le_flatMap_escape s.toList
  have hchars : readChars ((s.toList.flatMap escape ++ '"' :: rest).length + 1)
      (s.toList.flatMap escape ++ '"' :: rest) = .ok (s.toList, rest) := by
    refine readChars_flatMap_escape s.toList rest ?_
    rw [List.length_append]
    omega
  rw [readString, hchars]
  exact congrArg (fun s => Except.ok (s, rest)) String.ofList_toList

/-! ### Containers -/

def joined : Bool → List (List Char) → List Char
  | _, [] => []
  | isFirst, t :: rest => (if isFirst then t else ',' :: t) ++ joined false rest

def writeMember (e : String × Value) : List Char := writeString e.1 ++ ':' :: write e.2

theorem writeItems_eq_joined (items : List Value) :
    writeItems items = joined true (items.map write) := by
  induction items with
  | nil => rfl
  | cons v rest ih =>
    cases rest with
    | nil => simp [writeItems, joined]
    | cons w rest => simp [writeItems, ih, joined]

theorem writeFields_eq_joined (fields : List (String × Value)) :
    writeFields fields = joined true (fields.map writeMember) := by
  induction fields with
  | nil => rfl
  | cons e rest ih =>
    cases rest with
    | nil => simp [writeFields, joined, writeMember]
    | cons e' rest => simp [writeFields, ih, joined, writeMember]

/-- A text that begins neither with a blank nor with the bracket that closes its container. -/
def Begins (close : Char) (text : List Char) : Prop :=
  ∃ c cs, text = c :: cs ∧ isBlank c = false ∧ c ≠ close

theorem skipBlanks_of_isBlank_eq_false {c : Char} (h : isBlank c = false) (text : List Char) :
    skipBlanks (c :: text) = c :: text :=
  List.dropWhile_cons_of_neg (by simp [h])

theorem readNext_close {close : Char} (h : isBlank close = false) (isFirst : Bool)
    (rest : List Char) : readNext close isFirst (close :: rest) = .ok (.finished rest) := by
  rw [readNext, skipBlanks_of_isBlank_eq_false h]
  exact if_pos rfl

theorem readNext_item {close : Char} (hclose : close ≠ ',') {t : List Char} (ht : Begins close t)
    (isFirst : Bool) (rest : List Char) :
    readNext close isFirst ((if isFirst then t else ',' :: t) ++ rest) = .ok (.item (t ++ rest)) := by
  obtain ⟨c, cs, rfl, hblank, hc⟩ := ht
  have hskip : ∀ text, skipBlanks (c :: text) = c :: text := skipBlanks_of_isBlank_eq_false hblank
  have hcomma : ∀ text, skipBlanks (',' :: text) = ',' :: text :=
    skipBlanks_of_isBlank_eq_false rfl
  cases isFirst with
  | true => simp [readNext, hskip, hc]
  | false => simp [readNext, hcomma, hskip, hc, Ne.symm hclose]

theorem endsNumber_joined (texts : List (List Char)) {close : Char} {rest : List Char}
    (h : EndsNumber (close :: rest)) : EndsNumber (joined false texts ++ close :: rest) := by
  cases texts with
  | nil => exact h
  | cons t texts => exact endsNumber_cons (by decide)

/-! ### Values -/

theorem readWord_append (word rest : List Char) : readWord word (word ++ rest) = .ok rest := by
  induction word with
  | nil => cases rest <;> rfl
  | cons w word ih => simpa [readWord] using ih

theorem ne_of_isDigit {c d : Char} (h : isDigit c = true) (hd : isDigit d = false) : c ≠ d := by
  rintro rfl
  rw [h] at hd
  cases hd

theorem isBlank_of_isDigit {c : Char} (h : isDigit c = true) : isBlank c = false := by
  have hne : ∀ d, isDigit d = false → c ≠ d := fun _ => ne_of_isDigit h
  simp [isBlank, hne ' ' rfl, hne '\n' rfl, hne '\t' rfl, hne '\r' rfl]

theorem readValue_digit {c : Char} (h : isDigit c = true) (fuel depth : Nat) (text : List Char) :
    readValue (fuel + 1) depth (c :: text) =
      (readNumber false (c :: text)).map fun r => (.number r.1, r.2) := by
  have hne : ∀ d, isDigit d = false → c ≠ d := fun _ => ne_of_isDigit h
  rw [readValue, skipBlanks_of_isBlank_eq_false (isBlank_of_isDigit h)]
  simp [hne 'n' rfl, hne 't' rfl, hne 'f' rfl, hne '"' rfl, hne '[' rfl, hne '\x7b' rfl,
    hne '-' rfl]
  cases readNumber false (c :: text) <;> rfl

theorem readValue_integer {n : Int} (h : Number.minInteger ≤ n ∧ n ≤ Number.maxInteger)
    (fuel depth : Nat) {rest : List Char} (hrest : EndsNumber rest) :
    readValue (fuel + 1) depth (writeInteger n ++ rest) = .ok (.number (.integer n), rest) := by
  have hmin : Number.minInteger = -2 ^ 63 := rfl
  have hmax : Number.maxInteger = 2 ^ 64 - 1 := rfl
  have hlimit : significandLimit = 2 ^ 64 - 1 := rfl
  rw [hmin, hmax] at h
  have hread := fun negative => readNumber_toDigits negative (n := n.natAbs) (by omega) hrest
  by_cases hn : n < 0
  · have hvalue : integerOrFloat true n.natAbs = .integer n := by
      have hfits : 0 < n.natAbs ∧ n.natAbs ≤ 1 <<< 63 := by omega
      rw [integerOrFloat, if_pos rfl, if_pos hfits]
      exact congrArg Number.integer (by omega)
    rw [writeInteger, if_pos hn, List.cons_append, readValue]
    rw [skipBlanks_of_isBlank_eq_false rfl]
    simp [hread, hvalue, bind, Except.bind]
  · have hvalue : integerOrFloat false n.natAbs = .integer n :=
      congrArg Number.integer (Int.natAbs_of_nonneg (Int.not_lt.1 hn))
    obtain ⟨c, cs, hdigits⟩ :=
      List.exists_cons_of_ne_nil (Nat.toDigits_ne_nil (n := n.natAbs) (b := 10))
    have hc : isDigit c = true := isDigit_of_mem_toDigits (hdigits ▸ List.mem_cons_self)
    have hnumber := hread false
    rw [writeInteger, if_neg hn]
    rw [hdigits] at hnumber ⊢
    rw [List.cons_append] at hnumber ⊢
    rw [readValue_digit hc, hnumber, hvalue]
    rfl

theorem begins_writeInteger (n : Int) {close : Char} (hclose : isDigit close = false)
    (hminus : close ≠ '-') : Begins close (writeInteger n) := by
  unfold writeInteger
  split
  · exact ⟨_, _, rfl, rfl, hminus.symm⟩
  · obtain ⟨c, cs, hdigits⟩ :=
      List.exists_cons_of_ne_nil (Nat.toDigits_ne_nil (n := n.natAbs) (b := 10))
    have hc : isDigit c = true := isDigit_of_mem_toDigits (hdigits ▸ List.mem_cons_self)
    exact ⟨c, cs, hdigits, isBlank_of_isDigit hc, ne_of_isDigit hc hclose⟩

theorem begins_write {v : Value} (h : v.Exact) : Begins ']' (write v) := by
  cases v with
  | null => exact ⟨_, _, rfl, rfl, by decide⟩
  | bool b => cases b <;> exact ⟨_, _, rfl, rfl, by decide⟩
  | number n =>
    cases n with
    | integer n => exact begins_writeInteger n rfl (by decide)
    | float x => exact absurd .self (h.noFloat x)
  | string s => exact ⟨_, _, rfl, rfl, by decide⟩
  | array items => exact ⟨_, _, rfl, rfl, by decide⟩
  | object fields => exact ⟨_, _, rfl, rfl, by decide⟩

theorem readValue_null (fuel depth : Nat) (rest : List Char) :
    readValue (fuel + 1) depth (write .null ++ rest) = .ok (.null, rest) := by
  have htext : write .null = 'n' :: ['u', 'l', 'l'] := rfl
  rw [htext, List.cons_append, readValue, skipBlanks_of_isBlank_eq_false rfl]
  simp only [readWord_append]
  rfl

theorem readValue_bool (fuel depth : Nat) (b : Bool) (rest : List Char) :
    readValue (fuel + 1) depth (write (.bool b) ++ rest) = .ok (.bool b, rest) := by
  cases b with
  | false =>
    have htext : write (.bool false) = 'f' :: ['a', 'l', 's', 'e'] := rfl
    rw [htext, List.cons_append, readValue, skipBlanks_of_isBlank_eq_false rfl]
    simp only [readWord_append]
    rfl
  | true =>
    have htext : write (.bool true) = 't' :: ['r', 'u', 'e'] := rfl
    rw [htext, List.cons_append, readValue, skipBlanks_of_isBlank_eq_false rfl]
    simp only [readWord_append]
    rfl

theorem readValue_string (fuel depth : Nat) (s : String) (rest : List Char) :
    readValue (fuel + 1) depth (writeString s ++ rest) = .ok (.string s, rest) := by
  have hstring := readString_writeString s rest
  rw [writeString, List.cons_append, List.append_assoc, List.singleton_append, readValue,
    skipBlanks_of_isBlank_eq_false rfl]
  simp [hstring, bind, Except.bind]

section Step

variable {fuel depth : Nat} {text more rest : List Char}

theorem readValue_array {items : List Value} (hdepth : 0 < depth)
    (h : readItems fuel depth true text = .ok (items, rest)) :
    readValue (fuel + 1) (depth + 1) ('[' :: text) = .ok (.array items, rest) := by
  have hdepth : ¬depth + 1 ≤ 1 := by omega
  rw [readValue, skipBlanks_of_isBlank_eq_false rfl]
  simp only [if_neg hdepth, Nat.add_sub_cancel, h]
  rfl

theorem readValue_object {fields : List (String × Value)} (hdepth : 0 < depth)
    (h : readFields fuel depth true text = .ok (fields, rest)) :
    readValue (fuel + 1) (depth + 1) ('\x7b' :: text) = .ok (Value.ofFields fields, rest) := by
  have hdepth : ¬depth + 1 ≤ 1 := by omega
  rw [readValue, skipBlanks_of_isBlank_eq_false rfl]
  simp only [if_neg hdepth, Nat.add_sub_cancel, h]
  rfl

theorem readItems_cons {v : Value} {items : List Value} (isFirst : Bool)
    (hbegins : Begins ']' (write v))
    (hv : readValue fuel depth (write v ++ more) = .ok (v, more))
    (hitems : readItems fuel depth false more = .ok (items, rest)) :
    readItems (fuel + 1) depth isFirst ((if isFirst then write v else ',' :: write v) ++ more) =
      .ok (v :: items, rest) := by
  rw [readItems, readNext_item (by decide) hbegins]
  simp [hv, hitems, bind, Except.bind]

theorem readKey_writeString (key : String) :
    readKey (writeString key ++ ':' :: text) = .ok (key, text) := by
  have hstring := readString_writeString key (':' :: text)
  rw [writeString, List.cons_append, List.append_assoc, List.singleton_append, readKey, hstring]
  rfl

theorem readFields_cons {e : String × Value} {fields : List (String × Value)} (isFirst : Bool)
    (hv : readValue fuel depth (write e.2 ++ more) = .ok (e.2, more))
    (hfields : readFields fuel depth false more = .ok (fields, rest)) :
    readFields (fuel + 1) depth isFirst
      ((if isFirst then writeMember e else ',' :: writeMember e) ++ more) =
      .ok (e :: fields, rest) := by
  have hbegins : Begins '\x7d' (writeMember e) := ⟨_, _, rfl, rfl, by decide⟩
  have hkey : readKey (writeMember e ++ more) = .ok (e.1, write e.2 ++ more) := by
    rw [writeMember, List.append_assoc]
    exact readKey_writeString e.1
  rw [readFields, readNext_item (by decide) hbegins]
  simp [hkey, hv, hfields, bind, Except.bind]

end Step

mutual
/-- A value is read from its text, given two steps for each character. -/
theorem readValue_write : ∀ {v : Value}, v.Exact → ∀ {fuel depth : Nat},
    2 * (write v).length ≤ fuel → v.depth < depth → ∀ {rest : List Char}, EndsNumber rest →
    readValue fuel depth (write v ++ rest) = .ok (v, rest)
  | v, h, 0, _, hfuel, _, _, _ => by
    obtain ⟨c, cs, hcons, -, -⟩ := begins_write h
    rw [hcons] at hfuel
    cases hfuel
  | .null, _, fuel + 1, depth, _, _, rest, _ => readValue_null fuel depth rest
  | .bool b, _, fuel + 1, depth, _, _, rest, _ => readValue_bool fuel depth b rest
  | .number (.integer n), h, fuel + 1, depth, _, _, rest, hrest =>
    readValue_integer (h.integers n .self) fuel depth hrest
  | .number (.float x), h, _ + 1, _, _, _, _, _ => absurd .self (h.noFloat x)
  | .string s, _, fuel + 1, depth, _, _, rest, _ => readValue_string fuel depth s rest
  | .array items, h, fuel + 1, 0, _, hdepth, _, _ => absurd hdepth (Nat.not_lt_zero _)
  | .array items, h, fuel + 1, depth + 1, hfuel, hdepth, rest, _ => by
    rw [write, writeItems_eq_joined] at hfuel ⊢
    rw [List.cons_append, List.append_assoc, List.singleton_append]
    simp only [List.length_cons, List.length_append, List.length_nil] at hfuel
    have hitems : Value.depthOfItems items < depth := Nat.lt_of_succ_lt_succ hdepth
    exact readValue_array (Nat.zero_lt_of_lt hitems)
      (readItems_joined (fun v hv => h.item hv) true (by omega) hitems)
  | .object fields, h, fuel + 1, 0, _, hdepth, _, _ => absurd hdepth (Nat.not_lt_zero _)
  | .object fields, h, fuel + 1, depth + 1, hfuel, hdepth, rest, _ => by
    rw [write, writeFields_eq_joined] at hfuel ⊢
    rw [List.cons_append, List.append_assoc, List.singleton_append]
    simp only [List.length_cons, List.length_append, List.length_nil] at hfuel
    have hfields : Value.depthOfFields fields < depth := Nat.lt_of_succ_lt_succ hdepth
    rw [readValue_object (Nat.zero_lt_of_lt hfields)
      (readFields_joined (fun hv => h.member hv) true (by omega) hfields), h.ofFields_eq]

theorem readItems_joined : ∀ {items : List Value}, (∀ v ∈ items, v.Exact) →
    ∀ {fuel depth : Nat} (isFirst : Bool),
    2 * (joined isFirst (items.map write)).length < fuel → Value.depthOfItems items < depth →
    ∀ {rest : List Char},
    readItems fuel depth isFirst (joined isFirst (items.map write) ++ ']' :: rest) =
      .ok (items, rest)
  | _, _, 0, _, _, hfuel, _, _ => absurd hfuel (Nat.not_lt_zero _)
  | [], _, fuel + 1, depth, isFirst, _, _, rest => by
    rw [List.map_nil, joined, List.nil_append, readItems, readNext_close rfl]
    rfl
  | v :: items, h, fuel + 1, depth, isFirst, hfuel, hdepth, rest => by
    have hv : v.Exact := h v List.mem_cons_self
    obtain ⟨c, cs, hcons, -, -⟩ := begins_write hv
    have hpos : 0 < (write v).length := by simp [hcons]
    obtain ⟨hdepth, hdepths⟩ := Nat.max_lt.1 hdepth
    rw [List.map_cons, joined, List.append_assoc]
    rw [List.map_cons, joined, List.length_append] at hfuel
    have hlength : (write v).length ≤ (if isFirst then write v else ',' :: write v).length := by
      cases isFirst <;> simp
    refine readItems_cons isFirst (begins_write hv) (readValue_write hv (by omega) hdepth ?_)
      (readItems_joined (fun w hw => h w (List.mem_cons_of_mem _ hw)) false (by omega) hdepths)
    exact endsNumber_joined _ (endsNumber_cons (by decide))

theorem readFields_joined : ∀ {fields : List (String × Value)},
    (∀ {key v}, (key, v) ∈ fields → v.Exact) → ∀ {fuel depth : Nat} (isFirst : Bool),
    2 * (joined isFirst (fields.map writeMember)).length < fuel →
    Value.depthOfFields fields < depth → ∀ {rest : List Char},
    readFields fuel depth isFirst (joined isFirst (fields.map writeMember) ++ '\x7d' :: rest) =
      .ok (fields, rest)
  | _, _, 0, _, _, hfuel, _, _ => absurd hfuel (Nat.not_lt_zero _)
  | [], _, fuel + 1, depth, isFirst, _, _, rest => by
    rw [List.map_nil, joined, List.nil_append, readFields, readNext_close rfl]
    rfl
  | (key, v) :: fields, h, fuel + 1, depth, isFirst, hfuel, hdepth, rest => by
    have hv : v.Exact := h List.mem_cons_self
    obtain ⟨hdepth, hdepths⟩ := Nat.max_lt.1 hdepth
    rw [List.map_cons, joined, List.append_assoc]
    rw [List.map_cons, joined, List.length_append] at hfuel
    have hlength : (write v).length <
        (if isFirst then writeMember (key, v) else ',' :: writeMember (key, v)).length := by
      cases isFirst <;> simp [writeMember] <;> omega
    refine readFields_cons (e := (key, v)) isFirst (readValue_write hv (by omega) hdepth ?_)
      (readFields_joined (fun hw => h (List.mem_cons_of_mem _ hw)) false (by omega) hdepths)
    exact endsNumber_joined _ (endsNumber_cons (by decide))
end

/-- The text of a value is read as the value. -/
theorem parse_compact {v : Value} (h : v.Exact) (hdepth : v.depth ≤ 127) :
    parse (compact v) = .ok v := by
  have hends : EndsNumber [] := fun c hc => nomatch hc
  have hread : readValue (stepsFor (write v)) depthLimit (write v ++ []) = .ok (v, []) :=
    readValue_write h (Nat.le_add_right _ 2) (Nat.lt_succ_of_le hdepth) hends
  rw [List.append_nil] at hread
  rw [parse, compact, String.toList_ofList, readAt, hread]
  rfl

end Json
end PagedList
