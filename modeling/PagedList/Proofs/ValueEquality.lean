import PagedList.Value

/-! Equality of values. A number is equal to zero as a float just if it is zero, so a value is blank
if it is null, false, the empty text or a number that equals zero. Every value without floats that are
no numbers is equal to itself. -/
namespace PagedList

namespace Binary64

theorem roundHalfEven_pos {n d : Nat} (hd : 0 < d) (h : d ≤ n) : 0 < roundHalfEven n d := by
  have hq : 0 < n / d := Nat.div_pos h hd
  simp only [roundHalfEven]
  split
  · exact hq
  · split <;> omega

theorem roundHalfEven_scaleDown_pos {n : Nat} (hn : n ≠ 0) {e : Int} (he : e ≤ n.log2) :
    0 < roundHalfEven (scaleDown n 1 e).1 (scaleDown n 1 e).2 := by
  unfold scaleDown
  split
  · refine roundHalfEven_pos Nat.one_pos ?_
    rw [Nat.shiftLeft_eq]
    exact Nat.mul_pos (Nat.pos_of_ne_zero hn) (Nat.two_pow_pos _)
  · have hle : 2 ^ e.toNat ≤ n :=
      Nat.le_trans (Nat.pow_le_pow_right Nat.two_pos (by omega)) (Nat.log2_self_le hn)
    have hshift : 1 <<< e.toNat = 2 ^ e.toNat := by rw [Nat.shiftLeft_eq, Nat.one_mul]
    exact roundHalfEven_pos (hshift ▸ Nat.two_pow_pos _) (hshift ▸ hle)

theorem isZero_ofRatio_one (negative : Bool) (n : Nat) :
    (ofRatio negative n 1).isZero = (n == 0) := by
  by_cases hn : n = 0
  · simp [ofRatio, hn, zero, isZero]
  · have hn' : (n == 0) = false := by simpa using hn
    rw [ofRatio, if_neg hn, hn']
    extract_lets guess
    have hguess : guess + 1 ≤ n.log2 := by
      have hone : Nat.log2 1 = 0 := rfl
      simp only [guess, minExponent, hone]
      omega
    dsimp only
    generalize he : (if (scaleDown n 1 guess).1 / (scaleDown n 1 guess).2 < mantissaBound
      then guess else guess + 1) = e
    have hle : e ≤ n.log2 := by
      rw [← he]
      split <;> omega
    have hm := roundHalfEven_scaleDown_pos hn hle
    generalize roundHalfEven (scaleDown n 1 e).1 (scaleDown n 1 e).2 = m at hm ⊢
    -- The mantissa stays positive when it is carried into the exponent.
    have hcarried : (if m = mantissaBound then (m / 2, e + 1) else (m, e)).1 ≠ 0 := by
      split
      · rename_i hbound
        rw [hbound]
        change mantissaBound / 2 ≠ 0
        decide
      · exact Nat.ne_of_gt hm
    generalize (if m = mantissaBound then (m / 2, e + 1) else (m, e)) = carried at hcarried ⊢
    split
    · rfl
    · simpa [isZero] using hcarried

theorem same_zero (x : Binary64) : x.same (zero false) = x.isZero := by
  cases x with
  | finite s m e => by_cases hm : m = 0 <;> simp [same, zero, isZero, hm]
  | _ => rfl

end Binary64

namespace Number

def nearest : Number → Binary64
  | .integer n => .ofInt n
  | .float x => x

theorem isZero_eq_same_nearest (n : Number) : n.isZero = n.nearest.same (.zero false) := by
  rw [Binary64.same_zero]
  cases n with
  | integer n =>
    rw [nearest, Binary64.ofInt, Binary64.isZero_ofRatio_one, isZero, Bool.eq_iff_iff]
    simp
  | float x => rfl

end Number

namespace Value

theorem isBlank_iff {v : Value} : v.isBlank = true ↔
    v = .null ∨ v = .bool false ∨ v = .string "" ∨
      ∃ n, v = .number n ∧ n.nearest.same (.zero false) = true := by
  cases v <;> simp [isBlank, Number.isZero_eq_same_nearest]

/-- The negative zero is a zero. -/
example : isBlank (.number (.float (.zero true))) = true := rfl

mutual
/-- Whether every float in a value is a finite number, as in all that can be written as JSON. -/
def isFinite : Value → Bool
  | .number (.float x) => x.isFinite
  | .array items => allFinite items
  | .object fields => allFiniteFields fields
  | _ => true

def allFinite : List Value → Bool
  | [] => true
  | v :: rest => isFinite v && allFinite rest

def allFiniteFields : List (String × Value) → Bool
  | [] => true
  | (_, v) :: rest => isFinite v && allFiniteFields rest
end

mutual
theorem same_self : ∀ {v : Value}, v.isFinite = true → v.same v = true
  | .null, _ => rfl
  | .bool b, _ => by simp [same]
  | .number (.integer n), _ => by simp [same, Number.same]
  | .number (.float x), h => by
    cases x <;> simp_all [same, Number.same, Binary64.same, isFinite, Binary64.isFinite]
  | .string s, _ => by simp [same]
  | .array items, h => by
    rw [same]
    exact sameItems_self (by simpa [isFinite] using h)
  | .object fields, h => by
    rw [same]
    exact sameFields_self (by simpa [isFinite] using h)

theorem sameItems_self : ∀ {items : List Value}, allFinite items = true →
    sameItems items items = true
  | [], _ => rfl
  | v :: rest, h => by
    rw [allFinite, Bool.and_eq_true] at h
    rw [sameItems, same_self h.1, sameItems_self h.2]
    rfl

theorem sameFields_self : ∀ {fields : List (String × Value)}, allFiniteFields fields = true →
    sameFields fields fields = true
  | [], _ => rfl
  | (k, v) :: rest, h => by
    rw [allFiniteFields, Bool.and_eq_true] at h
    rw [sameFields, same_self h.1, sameFields_self h.2]
    simp
end

end Value
end PagedList
