import DocPath.Number.Arithmetic
import DocPath.Proofs.Number.Token

/-!
The order of digit strings. Of two strings without a zero in front the longer one is the greater
number, and of two equally long ones the one that is greater at the first difference.
-/

namespace DocPath

open scoped NatPower

theorem numeralFrom_eq (n : Nat) (ds : List Char) :
    numeralFrom n ds = n * 10 ^ ds.length + numeral ds := by
  induction ds generalizing n with
  | nil => exact (Nat.mul_one n).symm
  | cons d ds ih =>
    have here : numeral (d :: ds) = numeralFrom (10 * 0 + digitValue d) ds := rfl
    show numeralFrom (10 * n + digitValue d) ds = _
    rw [here, ih, ih (10 * 0 + _), List.length_cons, Nat.pow_succ, Nat.add_mul, Nat.add_mul,
      Nat.mul_zero, Nat.zero_mul, Nat.zero_add, ← Nat.add_assoc]
    congr 2
    rw [Nat.mul_comm 10 n, Nat.mul_assoc, Nat.mul_comm 10]

theorem numeral_cons (d : Char) (ds : List Char) :
    numeral (d :: ds) = digitValue d * 10 ^ ds.length + numeral ds := by
  have here : numeral (d :: ds) = numeralFrom (10 * 0 + digitValue d) ds := rfl
  rw [here, numeralFrom_eq, Nat.mul_zero, Nat.zero_add]

theorem numeral_lt {ds : List Char} (all : ds.all isDigit) : numeral ds < 10 ^ ds.length := by
  induction ds with
  | nil => exact Nat.one_pos
  | cons d ds ih =>
    rw [List.all_cons, Bool.and_eq_true] at all
    have rest := ih all.2
    have digit := digitValue_lt all.1
    have most : (digitValue d + 1) * 10 ^ ds.length ≤ 10 * 10 ^ ds.length :=
      Nat.mul_le_mul_right _ digit
    rw [Nat.add_mul, Nat.one_mul] at most
    rw [numeral_cons, List.length_cons, Nat.pow_succ, Nat.mul_comm _ 10]
    omega

theorem numeral_eq_zero_iff {ds : List Char} (all : ds.all isDigit) :
    numeral ds = 0 ↔ ∀ d ∈ ds, d = '0' := by
  induction ds with
  | nil => simp
  | cons d ds ih =>
    rw [List.all_cons, Bool.and_eq_true] at all
    have first : digitValue d = 0 ↔ d = '0' := by
      constructor
      · intro zero
        by_contra some
        exact Nat.ne_of_gt (digitValue_pos all.1 some) zero
      · rintro rfl
        rfl
    have unit : 10 ^ ds.length ≠ 0 := Nat.ne_of_gt (Nat.pow_pos (by decide))
    rw [numeral_cons, Nat.add_eq_zero_iff, Nat.mul_eq_zero, or_iff_left unit, ih all.2, first,
      List.forall_mem_cons]

theorem digitValue_lt_iff {c d : Char} (digit : isDigit c) (digit' : isDigit d) :
    digitValue c < digitValue d ↔ c < d := by
  simp only [isDigit, Bool.and_eq_true, decide_eq_true_eq] at digit digit'
  have order : c < d ↔ c.toNat < d.toNat := Iff.rfl
  rw [order]
  unfold digitValue
  omega

theorem digitValue_inj {c d : Char} (digit : isDigit c) (digit' : isDigit d)
    (same : digitValue c = digitValue d) : c = d := by
  have chars := decimalDigits_digit digit
  rw [same, decimalDigits_digit digit'] at chars
  exact (List.singleton_inj.mp chars).symm

/-- Digit strings without a zero in front. -/
structure IsSignificant (ds : List Char) : Prop where
  all : ds.all isDigit
  head : ds.head? ≠ some '0'

theorem IsSignificant.le_numeral {d : Char} {ds : List Char} (digits : IsSignificant (d :: ds)) :
    10 ^ ds.length ≤ numeral (d :: ds) := by
  have all := digits.all
  rw [List.all_cons, Bool.and_eq_true] at all
  have positive := digitValue_pos all.1 fun zero => digits.head (congrArg some zero)
  have least : 1 * 10 ^ ds.length ≤ digitValue d * 10 ^ ds.length :=
    Nat.mul_le_mul_right _ positive
  rw [numeral_cons]
  omega

section Compare

variable {as bs : List Char}

theorem numeral_lt_of_length_lt (all : as.all isDigit) (digits : IsSignificant bs)
    (shorter : as.length < bs.length) : numeral as < numeral bs := by
  cases bs with
  | nil => exact absurd shorter (Nat.not_lt_zero _)
  | cons b bs =>
    calc numeral as < 10 ^ as.length := numeral_lt all
      _ ≤ 10 ^ bs.length := Nat.pow_le_pow_right (by decide) (Nat.le_of_lt_succ shorter)
      _ ≤ numeral (b :: bs) := digits.le_numeral

theorem lt_of_leading_lt {m n u v k : Nat} (first : m < n) (low : u < 10 ^ k) :
    m * 10 ^ k + u < n * 10 ^ k + v := by
  have gap : (m + 1) * 10 ^ k ≤ n * 10 ^ k := Nat.mul_le_mul_right _ first
  rw [Nat.add_mul, Nat.one_mul] at gap
  omega

theorem compare_of_length_eq (all : as.all isDigit) (all' : bs.all isDigit)
    (same : as.length = bs.length) :
    (as < bs ↔ numeral as < numeral bs) ∧ (as = bs ↔ numeral as = numeral bs) := by
  induction as generalizing bs with
  | nil =>
    obtain rfl := List.eq_nil_of_length_eq_zero same.symm
    simp
  | cons a as ih =>
    cases bs with
    | nil => cases same
    | cons b bs =>
      rw [List.all_cons, Bool.and_eq_true] at all all'
      have lengths : as.length = bs.length := Nat.succ.inj same
      obtain ⟨less, equal⟩ := ih all.2 all'.2 lengths
      have low := numeral_lt all.2
      have low' := numeral_lt all'.2
      rw [List.cons_lt_cons_iff, ← digitValue_lt_iff all.1 all'.1, List.cons.injEq, less, equal,
        numeral_cons, numeral_cons, lengths]
      rw [lengths] at low
      -- Different first digits decide, whatever follows them.
      rcases Nat.lt_trichotomy (digitValue a) (digitValue b) with first | first | first
      · have less := lt_of_leading_lt (v := numeral bs) first low
        have apart : a ≠ b := fun same => by rw [same] at first; omega
        simp only [first, apart, true_or, false_and, true_iff, false_iff]
        omega
      · obtain rfl := digitValue_inj all.1 all'.1 first
        simp
      · have more := lt_of_leading_lt (v := numeral as) first low'
        have apart : a ≠ b := fun same => by rw [same] at first; omega
        simp only [Nat.not_lt.mpr (Nat.le_of_lt first), apart, false_and, or_false, false_iff]
        omega

theorem compareDigits_eq (digits : IsSignificant as) (digits' : IsSignificant bs) :
    Number.compareDigits as bs = compare (numeral as) (numeral bs) := by
  unfold Number.compareDigits
  rcases Nat.lt_trichotomy as.length bs.length with length | length | length
  · rw [Nat.compare_eq_lt.mpr length,
      Nat.compare_eq_lt.mpr (numeral_lt_of_length_lt digits.all digits' length)]
    rfl
  · obtain ⟨less, equal⟩ := compare_of_length_eq digits.all digits'.all length
    rw [Nat.compare_eq_eq.mpr length, Ordering.eq_then, compareOfLessAndEq]
    simp only [less, equal]
    rfl
  · rw [Nat.compare_eq_gt.mpr length,
      Nat.compare_eq_gt.mpr (numeral_lt_of_length_lt digits'.all digits length)]
    rfl

end Compare

end DocPath
